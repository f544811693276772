import Picklists.Contributors
import Picklists.Directory
import Picklists.Index.Page
import Picklists.Index.Terms
import Picklists.ThemeListing

/-!
# Providers

A provider offers listings under list names. It draws on the sources: the search index, the user
directory and the caller.

* `Provider.list` : the listing of a name.
* `listThemes` : names and descriptions of themes.
* `listContributors` : the three listings of people. The directory is asked first, unless everyone
  is hidden, and then the index, field by field; the first failure ends the work.
-/

namespace Picklists

/-- What providers draw on. -/
structure Sources (σ : Type) where
  /-- The search index. -/
  index : SearchIndex
  /-- The connection to the search index. -/
  transport : Transport σ
  /-- The user directory. -/
  directory : Directory
  /-- On whose behalf listings are asked for. -/
  caller : Caller

/-- A provider of listings. -/
inductive Provider where
  /-- Lists themes. -/
  | themes
  /-- Lists contributors, without the users of excluded providers. -/
  | contributors (excluded : Exclusion)
  /-- Lists the same entries under some names; `kind` says what it is. -/
  | fixed (kind : String) (listNames : List String) (listing : Listing)

variable {σ : Type}

/-! ### Themes -/

/-- The listing of themes of a name. If the index gives no usable answer, this is recorded and the
listing is unavailable. -/
def listThemes (sources : Sources σ) (listName : String) (window : Option Window) :
    Action σ Listing :=
  let listing (descriptions : Bool) : Action σ Listing := do
    let query := Theme.query sources.caller window
    let page ← Action.onIndexFault (sources.index.themes sources.transport query) fun fault => do
      Action.log (.themesUnavailable fault)
      Action.fail (.unavailable listName)
    Action.written (Theme.listing? descriptions page)
  match ThemesList.lookup? listName with
  | some .names => listing false
  | some .descriptions => listing true
  | _ => return .empty

/-! ### Contributors -/

/-- The accounts that are not hidden. The directory is not asked if everyone is hidden. -/
def visibleAccounts (sources : Sources σ) (excluded : Exclusion) : Action σ (List Account) :=
  if excluded.excludesAll then return []
  else do
    let accounts ← Action.ofExcept (sources.directory.find "%" 0 0)
    return Contributors.visible excluded accounts

/-- The terms of some fields, field by field. -/
def fieldTerms (sources : Sources σ) (fields : List IndexField) : Action σ (List (List Text)) :=
  Action.forEach (fun f => sources.index.terms sources.transport f.field f.documentType) fields

/-- The part of a listing that a window asks for. -/
def selectWithin (window : Option Window) (listing : Listing) : Action σ Listing :=
  Action.ofExcept (match listing.select window with
    | .ok selection => .ok selection.listing
    | .error fault => .error (.window fault))

/-- A listing of contributors. -/
def listContributors (sources : Sources σ) (excluded : Exclusion) (list : ContributorsList)
    (window : Option Window) : Action σ Listing := do
  let accounts ← visibleAccounts sources excluded
  match list with
  | .names =>
    let terms ← fieldTerms sources Contributors.nameFields
    let all := Contributors.allNames accounts terms.flatten
    let shown := Contributors.namesWithin window all
    Action.log (.namesListed shown.length all.length)
    return Contributors.names shown
  | .usernames => selectWithin window (Contributors.userNames accounts)
  | .namesToUsernames =>
    let terms ← fieldTerms sources Contributors.presenterFields
    selectWithin window (Contributors.namesToUsernames accounts terms)

namespace Provider

/-- A new provider of contributors. If it is not told whom to exclude, it excludes nobody. -/
def newContributors (excluded : Option Exclusion) : Provider :=
  .contributors (excluded.getD .empty)

/-- The names of the listings that a provider offers. -/
def listNames : Provider → List String
  | .themes => ThemesList.all.map (·.listName)
  | .contributors _ => ContributorsList.all.map (·.listName)
  | .fixed _ listNames _ => listNames

/-- What a provider is. -/
def kind : Provider → String
  | .themes => "ThemesListProvider"
  | .contributors _ => "ContributorsListProvider"
  | .fixed kind _ _ => kind

/-- The event that a provider is in place. -/
def activation? : Provider → Option Event
  | .themes => some .themesActivated
  | .contributors _ => some .contributorsActivated
  | .fixed .. => none

/-- The listing of a name, within a window. -/
def list (provider : Provider) (sources : Sources σ) (listName : String)
    (window : Option Window) : Action σ Listing :=
  match provider with
  | .themes => listThemes sources listName window
  | .contributors excluded =>
    listContributors sources excluded (ContributorsList.lookup listName) window
  | .fixed _ _ listing => selectWithin window listing

/-- Whether the labels of a listing are keys of a dictionary of the display language: they never
are, they are texts to be shown. -/
def labelsAreKeys (_ : Provider) (_ : String) : Bool := false

/-- The key that is selected from the start: there is none. -/
def default? (_ : Provider) : Option String := none

end Provider

end Picklists

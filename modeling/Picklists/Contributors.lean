import Picklists.Account
import Picklists.Exclusion
import Picklists.Listing
import Picklists.Text.Casing

/-!
# Listings of contributors

The three listings of people, as functions of the accounts of the directory, the excluded providers
and the terms of the index.

* `Contributors.visible` : the accounts that are not hidden.
* `Contributors.names` : all names, each under itself, in ascending order.
* `Contributors.byLabel` : contributors in the order of their labels.
* `Contributors.userNames` : accounts under their login names.
* `Contributors.namesToUsernames` : accounts under their login names, and the terms of the index
  that belong to no account (`Roster.addNames`).
-/

namespace Picklists

/-- The listings of contributors. -/
inductive ContributorsList where
  /-- All names. -/
  | names
  /-- The accounts of the directory. -/
  | usernames
  /-- The accounts of the directory and the names of the index. -/
  | namesToUsernames
deriving DecidableEq

namespace ContributorsList

/-- All listings. -/
def all : List ContributorsList := [.names, .usernames, .namesToUsernames]

/-- The list name of a listing. -/
def listName : ContributorsList → String
  | .names => "CONTRIBUTORS"
  | .usernames => "CONTRIBUTORS.USERNAMES"
  | .namesToUsernames => "CONTRIBUTORS.NAMES.TO.USERNAMES"

/-- The listing of a list name, in whatever case it is written. Any other name stands for the list
of all names. -/
def lookup (name : String) : ContributorsList :=
  (all.find? fun listing => Text.lower listing.listName == Text.lower name).getD .names

end ContributorsList

/-- A field of the documents of one type. -/
structure IndexField where
  /-- The name of the field. -/
  field : String
  /-- The type of the documents. -/
  documentType : String
deriving DecidableEq

namespace Contributors

/-- The fields whose terms belong to the list of all names. -/
def nameFields : List IndexField :=
  [⟨"contributor", "event"⟩, ⟨"presenter", "event"⟩, ⟨"publisher", "event"⟩,
   ⟨"contributors", "series"⟩, ⟨"organizers", "series"⟩, ⟨"publishers", "series"⟩]

/-- The fields whose terms stand beside the accounts. -/
def presenterFields : List IndexField :=
  [⟨"presenter", "event"⟩, ⟨"contributor", "event"⟩,
   ⟨"contributors", "series"⟩, ⟨"organizers", "series"⟩, ⟨"publishers", "series"⟩]

/-- The accounts that are not hidden, in the order of the directory. -/
def visible (excluded : Exclusion) (accounts : List Account) : List Account :=
  if excluded.excludesAll then []
  else accounts.filter fun account => !excluded.excludes account.provider

/-- The contributor that an account is: its label under its login name. -/
def ofAccount (account : Account) : Contributor := ⟨account.username, account.label⟩

/-! ### All names -/

/-- The labels of some accounts and some terms, in ascending order. -/
def allNames (accounts : List Account) (terms : List Text) : List Text :=
  ascending (accounts.map Account.label ++ terms)

/-- The names that a window asks for. A limit of zero is no limit here. -/
def namesWithin (window : Option Window) (names : List Text) : List Text :=
  let offset := (window.bind (·.offset)).getD 0
  let limit := (window.bind (·.limit)).getD 0
  Listing.cut offset (if limit = 0 then none else some limit) names

/-- The listing that holds every name under itself. -/
def names (shown : List Text) : Listing := .ofPairs (shown.map fun name => (name, name))

/-! ### Contributors by label -/

/-- Contributors in the order of their labels; those with one label keep their order. Of those with
one key the first determines the place and the last the label. -/
def byLabel (contributors : List Contributor) : Listing :=
  .ofPairs ((contributors.mergeSort fun a b => notAfter a.label b.label).map fun contributor =>
    (contributor.key, contributor.label))

/-- The accounts under their login names. -/
def userNames (accounts : List Account) : Listing := byLabel (accounts.map ofAccount)

/-- Contributors together with the labels and the keys that are taken. -/
structure Roster where
  /-- The labels that are taken. -/
  labels : Std.HashSet Text
  /-- The keys that are taken. -/
  keys : Std.HashSet Text
  /-- The contributors, in the order in which they were added. -/
  contributors : Array Contributor

namespace Roster

/-- The roster of some contributors. -/
def ofContributors (contributors : List Contributor) : Roster :=
  ⟨.ofList (contributors.map (·.label)), .ofList (contributors.map (·.key)),
    contributors.toArray⟩

/-- Adds a name as its own key and label, unless it is taken as a label or as a key. -/
def addName (roster : Roster) (name : Text) : Roster :=
  if roster.labels.contains name || roster.keys.contains name then roster
  else ⟨roster.labels.insert name, roster.keys.insert name, roster.contributors.push ⟨name, name⟩⟩

/-- Adds names in order. -/
def addNames (roster : Roster) (names : List Text) : Roster := names.foldl addName roster

end Roster

/-- The accounts under their login names, and every term that is neither the label nor the login
name of one of them under itself. The terms are given field by field. -/
def namesToUsernames (accounts : List Account) (terms : List (List Text)) : Listing :=
  let roster := Roster.ofContributors (accounts.map ofAccount)
  byLabel (terms.foldl Roster.addNames roster).contributors.toList

end Contributors

end Picklists

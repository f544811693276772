import Picklists.Index.ThemeQuery
import Picklists.Listing
import Picklists.Theme

/-!
# Listings of themes

The names and the descriptions of themes under their numbers, in the order of the index.
-/

namespace Picklists

/-- The listings of themes. -/
inductive ThemesList where
  /-- The common beginning of the list names; its listing is empty. -/
  | common
  /-- The names. -/
  | names
  /-- The descriptions. -/
  | descriptions
deriving DecidableEq

namespace ThemesList

/-- All listings. -/
def all : List ThemesList := [.common, .names, .descriptions]

/-- The list name of a listing. -/
def listName : ThemesList → String
  | .common => "THEMES"
  | .names => "THEMES.NAME"
  | .descriptions => "THEMES.DESCRIPTION"

/-- The listing of a list name, written exactly like this. -/
def lookup? (name : String) : Option ThemesList := all.find? (·.listName == name)

end ThemesList

namespace Theme

/-- The label of a theme in the listing of names or of descriptions; a missing description is
empty. -/
def label (theme : Theme) (descriptions : Bool) : Text :=
  if descriptions then theme.description.getD "" else theme.name

/-- The key of a theme in a listing: its number, if that is not too long to be written. -/
def key? (theme : Theme) : Option Text := (Numeral.write? theme.identifier).map .ofString

/-- The key and the label of a theme. -/
def pair? (descriptions : Bool) (theme : Theme) : Option (Text × Text) :=
  theme.key?.map (·, theme.label descriptions)

/-- The listing of the themes on a page. There is none if a theme has no key. -/
def listing? (descriptions : Bool) (page : ThemePage) : Option Listing :=
  .ofPairs <$> page.hits.mapM fun hit => hit.theme.pair? descriptions

/-- The largest limit that stands for no limit, `2 ^ 31 - 1`. -/
def unbounded : Int := 0x7FFFFFFF

/-- The query for the themes in a window. Without a limit all themes after the offset are wanted. -/
def query (caller : Caller) (window : Option Window) : ThemeQuery :=
  let offset : Int := ((window.bind (·.offset)).getD 0 : Nat)
  let limit : Int := match window.bind (·.limit) with
    | some limit => limit
    | none => unbounded - offset
  ⟨caller.organization.id, some caller.user, offset, limit, some .ascending⟩

end Theme

end Picklists

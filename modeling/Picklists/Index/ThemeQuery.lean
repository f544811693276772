import Picklists.Account
import Picklists.Number.Written
import Picklists.Text.Quoted

/-!
# Theme queries

What is asked of the search index about themes: the organization whose themes count, on whose
behalf they are asked for, which page is wanted and in which order.
-/

namespace Picklists

/-- The order of themes by name. -/
inductive SortOrder where
  /-- Ascending by name. -/
  | ascending
  /-- Descending by name. -/
  | descending
deriving DecidableEq

namespace SortOrder

/-- The word for an order in a request. -/
def word : SortOrder → String
  | .ascending => "asc"
  | .descending => "desc"

/-- The order that a word stands for. -/
def ofWord? (s : String) : Option SortOrder :=
  if s = "asc" then some .ascending else if s = "desc" then some .descending else none

/-- The name of an order in messages. -/
def text : SortOrder → String
  | .ascending => "SortOrder.ASCENDING"
  | .descending => "SortOrder.DESCENDING"

end SortOrder

/-- A query for the themes of one organization. -/
structure ThemeQuery where
  /-- The identifier of the organization. -/
  organization : Text
  /-- On whose behalf the themes are asked for. -/
  user : Option Account
  /-- How many themes to skip. -/
  offset : Int
  /-- How many themes are wanted. -/
  limit : Int
  /-- The order by name, if any. -/
  sort : Option SortOrder
deriving DecidableEq

namespace ThemeQuery

/-- The text of a query in messages. There is none if one of its numbers is too long to be
written. -/
def text? (query : ThemeQuery) : Option String := do
  let user := match query.user with
    | some account => Text.quote account.username
    | none => "None"
  let sort := match query.sort with
    | some order => order.text
    | none => "None"
  let offset ← Numeral.write? query.offset
  let limit ← Numeral.write? query.limit
  return "ThemeSearchQuery(organization=" ++ Text.quote query.organization ++ ", user=" ++ user ++
    ", offset=" ++ offset ++ ", limit=" ++ limit ++ ", sort=" ++ sort ++ ")"

end ThemeQuery

end Picklists

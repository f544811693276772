import Picklists.Index.Misfit
import Picklists.Index.Search
import Picklists.Theme

/-!
# Pages of themes

A page of themes, asked of the search index and read from its answer.

* `readPage` : the page in an answer. It is read as a whole or not at all: the first element that
  is no theme decides (`PageFault`). Whatever is wrong, the answer is unusable (`pageTaken`).
* `SearchIndex.themes` : one page. The request ends at the result window (`SearchIndex.pageSize`),
  and a page that ends too early because of that is recorded (`SearchIndex.cutEvent?`).
-/

namespace Picklists

/-! ### Reading a page -/

/-- Why a page of themes is not read. If a theme was refused before, the text of its identifier and
the faults are kept. -/
inductive PageFault where
  /-- Something in it does not fit. -/
  | misfit (cause : Misfit) (refusal : Option (Text × List Fault))
  /-- A document is not a theme. -/
  | unreadable (document : Text) (refusal : Option (Text × List Fault))
deriving DecidableEq

/-- The kinds of misfits that make an answer with a page unusable. -/
def pageTaken : List MisfitKind := [.type, .attribute, .key, .value]

namespace PageFault

/-- The fault of a hit without a theme. The hit is known by its identifier, if that has a text. -/
def ofHit (hit : Fields) (refusal : Option (Text × List Fault)) : PageFault :=
  match (Json.fieldOr hit "_id" .null).asText? with
  | some document => .unreadable document refusal
  | none => .misfit .unwritable refusal

/-- The failure that a fault amounts to. -/
def failure : PageFault → Failure
  | .misfit (.refused faults) _ => (Misfit.refused faults).failure pageTaken (.refusedPage faults)
  | .misfit cause _ => cause.failure pageTaken .malformedPage
  | .unreadable document _ => .index (.unreadableTheme document)

/-- What is recorded about a fault. -/
def events : PageFault → List Event
  | .misfit _ (some (identifier, faults)) | .unreadable _ (some (identifier, faults)) =>
    [.themeRefused identifier faults]
  | _ => []

end PageFault

/-- The theme in the fields of a hit. The identifier is taken from the document, by one of two
names, or else from the hit; a field that is there counts even if it is null. -/
def readTheme (hit : Fields) : Except PageFault Theme :=
  match Json.presentOr hit "_source" (.object []) with
  | .object source =>
    let identifier := Json.fieldOr source "identifier"
      (Json.fieldOr source "id" (Json.fieldOr hit "_id" .null))
    let field (name : String) : Json := Json.fieldOr source name .null
    match identifier, field "name" with
    | .null, _ => .error (.ofHit hit none)
    | _, .null => .error (.ofHit hit none)
    | identifier, name =>
      let document := Json.ofFields
        [("identifier", identifier), ("name", name), ("description", field "description"),
          ("organization", field "organization"), ("creator", field "creator"),
          ("default", .bool (field "default").truthy)]
      match Theme.decode document with
      | .valid theme => .ok theme
      | .invalid faults =>
        match identifier.asText? with
        | some identifier => .error (.ofHit hit (some (identifier, faults)))
        | none => .error (.misfit .unwritable none)
  | _ => .error (.misfit .noFields none)

/-- The hit that an element of the answer describes. -/
def readHit : Json → Except PageFault ThemeHit
  | .object hit => do
    let theme ← readTheme hit
    match (Decoder.number (Json.presentOr hit "_score" (.real .zero))).within (.field "score") with
    | .valid score => return ⟨theme, score⟩
    | .invalid faults => throw (.misfit (.refused faults) none)
  | _ => .error (.misfit .noFields none)

/-- The hits that the elements of the answer describe, up to the first bad one. -/
def readHits : List Json → Except PageFault (List ThemeHit)
  | [] => .ok []
  | element :: elements => do
    let hit ← readHit element
    let hits ← readHits elements
    return hit :: hits

/-- The page in the fields of an answer. -/
def readPage (answer : Fields) (offset limit : Int) : Except PageFault ThemePage :=
  match Json.presentOr answer "hits" (.object []) with
  | .object found =>
    match (Json.fieldOr found "hits" (.array [])).items? with
    | none => .error (.misfit .noItems none)
    | some elements => do
      let hits ← readHits elements
      let counted : Json := .int hits.length
      let total := match Json.fieldOr found "total" counted with
        | .object total => Json.fieldOr total "value" counted
        | total => total
      match (Decoder.integer total).within (.field "hit_count") with
      | .valid hitCount => return ⟨hits, hitCount, offset, limit⟩
      | .invalid faults => throw (.misfit (.refused faults) none)
  | _ => .error (.misfit .noFields none)

/-! ### Asking for a page -/

namespace SearchIndex

/-- The number of hits that is asked for: the limit, cut so that the page ends at the result window
at the latest. -/
def pageSize (index : SearchIndex) (query : ThemeQuery) : Int :=
  max 0 (min query.limit (index.window - max 0 query.offset))

/-- The request for a page of themes. The organization alone decides which themes count. -/
def themesBody (index : SearchIndex) (query : ThemeQuery) : SearchBody :=
  .themes (max 0 query.offset) (index.pageSize query) query.organization query.sort

/-- The event that a page ends too early, if it does: fewer hits were asked for than wanted, and
the index has more. -/
def cutEvent? (index : SearchIndex) (query : ThemeQuery) (page : ThemePage) : Option Event :=
  let offset := max 0 query.offset
  let size := index.pageSize query
  if size < query.limit ∧ offset + size < page.hitCount then
    some (.pageCut size (page.hitCount - offset) index.window)
  else none

/-- One page of themes. -/
def themes {σ : Type} (index : SearchIndex) (transport : Transport σ) (query : ThemeQuery) :
    Action σ ThemePage := do
  Action.log (.queryingThemes query)
  let answer ← index.search transport themeType (index.themesBody query)
  match readPage answer (max 0 query.offset) (index.pageSize query) with
  | .error fault =>
    Action.logAll fault.events
    Action.fail fault.failure
  | .ok page =>
    Action.logAll (index.cutEvent? query page).toList
    return page

end SearchIndex

end Picklists

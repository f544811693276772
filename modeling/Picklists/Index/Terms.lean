import Picklists.Index.Misfit
import Picklists.Index.Search

/-!
# Terms of a field

The distinct terms that documents have in a field, asked of the search index and read from its
answer.

* `readTerms` : the terms in an answer; one bad bucket spoils all.
* `SearchIndex.terms` : the terms of a field. It is recorded if there may be more of them than the
  index gives (`maxTerms`). A wrong shape of the answer makes it unusable, but a key that is too
  long to be written does not (`termsTaken`).
-/

namespace Picklists

/-- The terms of some buckets, in order: the texts of their keys. Buckets without a key have none.
The first bucket that is not an object, or whose key has no text, spoils all. -/
def readBuckets : List Json → Except Misfit (List Text)
  | [] => .ok []
  | .object bucket :: buckets =>
    match Json.fieldOr bucket "key" .null with
    | .null => readBuckets buckets
    | key =>
      match key.asText? with
      | some term => (term :: ·) <$> readBuckets buckets
      | none => .error .unwritable
  | _ :: _ => .error .noFields

/-- The terms of a field in the fields of an answer, and the number of their buckets. -/
def readTerms (field : String) (answer : Fields) : Except Misfit (List Text × Nat) :=
  match Json.presentOr answer "aggregations" (.object []) with
  | .object aggregations =>
    match Json.fieldOr aggregations field (.object []) with
    | .object aggregation =>
      match (Json.fieldOr aggregation "buckets" (.array [])).items? with
      | some buckets => (·, buckets.length) <$> readBuckets buckets
      | none => .error .noItems
    | _ => .error .noFields
  | _ => .error .noFields

/-- The kinds of misfits that make an answer with terms unusable. -/
def termsTaken : List MisfitKind := [.type, .attribute, .key]

namespace SearchIndex

/-- The terms that documents of a type have in a field. -/
def terms {σ : Type} (index : SearchIndex) (transport : Transport σ) (field documentType : String) :
    Action σ (List Text) := do
  let answer ← index.search transport documentType (.terms field)
  match readTerms field answer with
  | .error misfit => Action.fail (misfit.failure termsTaken (.malformedTerms documentType))
  | .ok (terms, buckets) =>
    if maxTerms ≤ buckets then Action.log (.termsTruncated documentType field maxTerms)
    Action.log (.termsFound terms.length documentType field)
    return terms

end SearchIndex

end Picklists

import Mathlib.Data.List.Forall2
import Picklists.Index.Page
import Picklists.Proofs.Checked
import Picklists.Proofs.Listing

/-!
# Reading pages of themes

What is read from an answer that lists some hits.

* `readHits_eq_ok_iff` : the hits of a page are read one by one, so the hits of a part of it are a
  part of its hits (`readHits_cut`).
* `ListsHits` : the answers that list some documents and say how many there are in all.
* `readPage_of_listsHits` : **the page that is read from such an answer**.
-/

namespace Picklists

/-! ### Hits -/

variable {documents : List Json} {hits : List ThemeHit}

/-- Hits are read one by one. -/
theorem readHits_eq_ok_iff :
    readHits documents = .ok hits ↔
      List.Forall₂ (fun document hit => readHit document = .ok hit) documents hits := by
  induction documents generalizing hits with
  | nil => cases hits <;> simp [readHits]
  | cons document documents ih =>
    rw [readHits, List.forall₂_cons_left_iff]
    simp only [bind_eq_ok_iff, ih]
    simp [pure, Except.pure, eq_comm]

theorem length_of_readHits (h : readHits documents = .ok hits) : hits.length = documents.length :=
  (readHits_eq_ok_iff.1 h).length_eq.symm

/-- The hits of a part of a page are a part of its hits. -/
theorem readHits_cut (h : readHits documents = .ok hits) (offset : Nat) (limit : Option Nat) :
    readHits (Listing.cut offset limit documents) = .ok (Listing.cut offset limit hits) := by
  have hdrop := List.forall₂_drop offset (readHits_eq_ok_iff.1 h)
  rw [readHits_eq_ok_iff]
  cases limit with
  | none => exact hdrop
  | some limit => exact List.forall₂_take limit hdrop

/-! ### Pages -/

/-- The ways to say how many there are: plainly, or inside an object. -/
inductive Counts (total : Int) : Json → Prop where
  /-- The number itself. -/
  | plain : Counts total (.int total)
  /-- An object that holds the number. -/
  | nested {given : Fields} (h : Json.field? given "value" = some (.int total)) :
      Counts total (.object given)

/-- An answer lists some documents as its hits and says how many there are in all. -/
def ListsHits (answer : Fields) (documents : List Json) (total : Int) : Prop :=
  ∃ found counted, Json.field? answer "hits" = some (.object found) ∧
    Json.field? found "hits" = some (.array documents) ∧
    Json.field? found "total" = some counted ∧ Counts total counted

variable {answer : Fields} {total : Int}

/-- An object in a field is what it stands for, even if it does not count as present. -/
theorem presentOr_of_object {fields given : Fields} {name : String}
    (h : Json.field? fields name = some (.object given)) :
    Json.presentOr fields name (.object []) = .object given := by
  rw [Json.presentOr, h]
  cases given <;> rfl

/-- **The page in an answer** holds the hits that are listed, whatever their number, and the total
that is said. -/
theorem readPage_of_listsHits (h : ListsHits answer documents total)
    (hread : readHits documents = .ok hits) (offset limit : Int) :
    readPage answer offset limit = .ok ⟨hits, total, offset, limit⟩ := by
  obtain ⟨found, counted, hfound, hhits, htotal, hcounted⟩ := h
  have helements : Json.fieldOr found "hits" (.array []) = .array documents := by
    rw [Json.fieldOr, hhits, Option.getD_some]
  simp only [readPage, presentOr_of_object hfound, helements, Json.items?, hread]
  cases hcounted with
  | plain =>
    simp only [Json.fieldOr, htotal, Option.getD_some]
    rfl
  | nested hvalue =>
    simp only [Json.fieldOr, htotal, hvalue, Option.getD_some]
    rfl

/-- A page that is read says where it starts and how long it may be, as it was asked for. -/
theorem bounds_of_readPage {offset limit : Int} {page : ThemePage}
    (h : readPage answer offset limit = .ok page) : page.offset = offset ∧ page.limit = limit := by
  unfold readPage at h
  split at h
  · split at h
    · cases h
    · obtain ⟨hits, -, h⟩ := bind_eq_ok_iff.1 h
      dsimp only at h
      split at h
      · cases h
        exact ⟨rfl, rfl⟩
      · cases h
  · cases h

end Picklists

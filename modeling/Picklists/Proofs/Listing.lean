import Picklists.Listing
import Picklists.Proofs.Order

/-!
# Entries and positions

The entries of a listing that is made of pairs, and the entries that a window leaves.

* `Listing.keys_ofPairs` : the keys are the first components, in the order of their first
  occurrences.
* `Listing.cut_eq_filter` : **a cut keeps the entries at the positions it names**, in their order.
  The positions are those of `List.zipIdx`.
* `Listing.flatMap_cut` : **parts of one size tile a list**.
* `Listing.select_unbounded` : a window without bounds asks for the listing itself.
-/

namespace Picklists

namespace Listing

/-! ### Listings of pairs -/

/-- A listing is known by its entries. -/
theorem eq_of_entries_eq {listing other : Listing} (h : listing.entries = other.entries) :
    listing = other := by
  cases listing
  cases other
  cases h
  rfl

theorem keys_ofPairs (pairs : List (Text × Text)) :
    (ofPairs pairs).keys = distinct (pairs.map (·.1)) := keys_lastWins pairs

theorem entries_ofPairs_of_nodup {pairs : List (Text × Text)} (h : (pairs.map (·.1)).Nodup) :
    (ofPairs pairs).entries = pairs := lastWins_of_nodup h

theorem mem_keys {listing : Listing} {key : Text} :
    key ∈ listing.keys ↔ ∃ label, (key, label) ∈ listing.entries := by
  simp [keys]

/-! ### Positions -/

variable {α : Type}

/-- The positions from `start + count` on are those of the list without its first entries. -/
theorem filter_zipIdx_le (entries : List α) (start count : Nat) :
    ((entries.zipIdx start).filter fun entry => start + count ≤ entry.2) =
      (entries.drop count).zipIdx (start + count) := by
  induction entries generalizing start count with
  | nil => simp
  | cons entry entries ih =>
    cases count with
    | zero =>
      refine List.filter_eq_self.2 fun placed hplaced => ?_
      exact decide_eq_true (List.le_snd_of_mem_zipIdx hplaced)
    | succ count =>
      have hfirst : ¬ start + (count + 1) ≤ start := by omega
      have hnext : start + (count + 1) = start + 1 + count := by omega
      rw [List.zipIdx_cons, List.filter_cons_of_neg (by simp [hfirst]), List.drop_succ_cons,
        hnext, ih]

/-- The positions before `start + count` are those of the first entries. -/
theorem filter_zipIdx_lt (entries : List α) (start count : Nat) :
    ((entries.zipIdx start).filter fun entry => entry.2 < start + count) =
      (entries.take count).zipIdx start := by
  induction entries generalizing start count with
  | nil => simp
  | cons entry entries ih =>
    cases count with
    | zero =>
      refine List.filter_eq_nil_iff.2 fun placed hplaced => ?_
      have := List.le_snd_of_mem_zipIdx hplaced
      simpa using this
    | succ count =>
      have hfirst : start < start + (count + 1) := by omega
      have hnext : start + (count + 1) = start + 1 + count := by omega
      rw [List.zipIdx_cons, List.filter_cons_of_pos (by simp [hfirst]), List.take_succ_cons,
        List.zipIdx_cons, hnext, ih]

/-- **A cut keeps the entries at the positions it names.** -/
theorem cut_eq_filter (offset : Nat) (limit : Option Nat) (entries : List α) :
    cut offset limit entries =
      (entries.zipIdx.filter fun entry =>
        offset ≤ entry.2 && limit.all fun limit => entry.2 < offset + limit).map (·.1) := by
  have hfrom : ∀ part : List α, (part.zipIdx.filter fun entry => offset ≤ entry.2) =
      (part.drop offset).zipIdx offset := by
    intro part
    simpa using filter_zipIdx_le part 0 offset
  cases limit with
  | none => simp [cut, hfrom, List.zipIdx_map_fst]
  | some limit =>
    have hbefore : (entries.zipIdx.filter fun entry => entry.2 < offset + limit) =
        (entries.take (offset + limit)).zipIdx := by
      simpa using filter_zipIdx_lt entries 0 (offset + limit)
    simp only [cut, Option.all_some]
    rw [← List.filter_filter, hbefore, hfrom, List.zipIdx_map_fst, List.drop_take,
      Nat.add_sub_cancel_left]

/-! ### Parts of a list -/

theorem cut_map {β : Type} (f : α → β) (offset : Nat) (limit : Option Nat) (entries : List α) :
    cut offset limit (entries.map f) = (cut offset limit entries).map f := by
  cases limit with
  | none => rw [cut, cut, List.map_drop]
  | some limit => rw [cut, cut, List.map_take, List.map_drop]

theorem cut_of_length_le {offset : Nat} {entries : List α} (h : entries.length ≤ offset)
    (limit : Option Nat) : cut offset limit entries = [] := by
  cases limit with
  | none => exact List.drop_of_length_le h
  | some limit => rw [cut, List.drop_of_length_le h, List.take_nil]

/-- A part of what is left after some entries is a part of the whole that begins later. -/
theorem cut_cut_none (skipped offset : Nat) (limit : Option Nat) (entries : List α) :
    cut offset limit (cut skipped none entries) = cut (skipped + offset) limit entries := by
  unfold cut
  cases limit <;> rw [List.drop_drop]

/-- A part of the first entries is a part that ends with them. -/
theorem cut_take (offset limit reach : Nat) (entries : List α) :
    cut offset (some limit) (entries.take reach) =
      cut offset (some (min limit (reach - offset))) entries := by
  rw [cut, cut, List.drop_take, List.take_take]

/-- **Parts of one size tile a list**: side by side, they are its first entries. -/
theorem flatMap_cut (size count : Nat) (entries : List α) :
    ((List.range count).flatMap fun page => cut (page * size) (some size) entries) =
      entries.take (count * size) := by
  induction count with
  | zero => simp
  | succ count ih =>
    rw [List.range_succ, List.flatMap_append, ih, List.flatMap_singleton, Nat.succ_mul,
      List.take_add]
    rfl

/-- Enough parts of one size are the whole list. -/
theorem flatMap_cut_of_length_le {size count : Nat} {entries : List α}
    (h : entries.length ≤ count * size) :
    ((List.range count).flatMap fun page => cut (page * size) (some size) entries) = entries := by
  rw [flatMap_cut, List.take_of_length_le h]

/-! ### Windows without bounds -/

/-- A window without bounds asks for the listing itself. -/
theorem select_unbounded (listing : Listing) {window : Option Window}
    (h : ∀ bounds ∈ window, bounds.isBounded = false) :
    listing.select window = .ok (.whole listing) := by
  cases window with
  | none => rfl
  | some bounds => rw [select, h bounds rfl, if_neg Bool.false_ne_true]

end Listing

end Picklists

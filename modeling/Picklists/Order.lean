import Std.Data.HashMap
import Std.Data.HashSet

/-!
# Order and repetition

Lists that stand for sets and for maps. A set is either listed in the order of its first occurrences
or in ascending order; a map given as pairs lists every key once.

* `distinct` : the first occurrences of a list, in order (`mem_distinct`, `nodup_distinct`).
* `ascending` : the distinct members of a list in ascending order (`mem_ascending`,
  `pairwise_ascending`).
* `lastWins` : pairs in which a repeated key keeps its first place and takes its last value
  (`nodup_keys_lastWins`).
-/

namespace Picklists

/-! ### First occurrences -/

section

variable {κ : Type} [DecidableEq κ] [Hashable κ]

/-- The members of a list that are neither in `seen` nor earlier in the list, in order. -/
def distinctFrom (seen : Std.HashSet κ) : List κ → List κ
  | [] => []
  | key :: keys =>
    if seen.contains key then distinctFrom seen keys
    else key :: distinctFrom (seen.insert key) keys

/-- The first occurrence of every member, in order. -/
def distinct (keys : List κ) : List κ := distinctFrom ∅ keys

theorem mem_distinctFrom {seen : Std.HashSet κ} {keys : List κ} {x : κ} :
    x ∈ distinctFrom seen keys ↔ x ∈ keys ∧ x ∉ seen := by
  induction keys generalizing seen with
  | nil => simp [distinctFrom]
  | cons key keys ih =>
    rw [distinctFrom]
    split
    · rename_i h
      grind
    · rename_i h
      grind

theorem nodup_distinctFrom {seen : Std.HashSet κ} {keys : List κ} :
    (distinctFrom seen keys).Nodup := by
  induction keys generalizing seen with
  | nil => simp [distinctFrom]
  | cons key keys ih =>
    rw [distinctFrom]
    split
    · exact ih
    · refine List.nodup_cons.mpr ⟨?_, ih⟩
      simp [mem_distinctFrom]

/-- `distinct` loses no member and invents none. -/
@[simp] theorem mem_distinct {keys : List κ} {x : κ} : x ∈ distinct keys ↔ x ∈ keys := by
  simp [distinct, mem_distinctFrom]

theorem nodup_distinct (keys : List κ) : (distinct keys).Nodup := nodup_distinctFrom

end

/-! ### Ascending order -/

section

variable {κ : Type} [LE κ] [DecidableLE κ]

/-- Whether one member may stand before another in ascending order. -/
def notAfter (a b : κ) : Bool := decide (a ≤ b)

/-- The distinct members of a list in ascending order. -/
def ascending [DecidableEq κ] [Hashable κ] (keys : List κ) : List κ :=
  (distinct keys).mergeSort notAfter

@[simp] theorem mem_ascending [DecidableEq κ] [Hashable κ] {keys : List κ} {x : κ} :
    x ∈ ascending keys ↔ x ∈ keys := by
  simp [ascending]

theorem nodup_ascending [DecidableEq κ] [Hashable κ] (keys : List κ) : (ascending keys).Nodup :=
  (List.mergeSort_perm _ _).nodup_iff.mpr (nodup_distinct keys)

variable [Std.IsLinearOrder κ]

theorem notAfter_trans (a b c : κ) (hab : notAfter a b = true) (hbc : notAfter b c = true) :
    notAfter a c = true := by
  simp only [notAfter, decide_eq_true_eq] at *
  exact Std.le_trans hab hbc

theorem notAfter_total (a b : κ) : (notAfter a b || notAfter b a) = true := by
  simp only [notAfter, Bool.or_eq_true, decide_eq_true_eq]
  exact Std.le_total

/-- `ascending` lists its members in strictly ascending order. -/
theorem pairwise_ascending [LT κ] [Std.LawfulOrderLT κ] [DecidableEq κ] [Hashable κ]
    (keys : List κ) : (ascending keys).Pairwise (· < ·) := by
  have sorted : (ascending keys).Pairwise (notAfter · ·) :=
    List.pairwise_mergeSort notAfter_trans notAfter_total _
  refine (sorted.and (nodup_ascending keys)).imp ?_
  intro a b ⟨hle, hne⟩
  simp only [notAfter, decide_eq_true_eq] at hle
  exact Std.lt_of_le_of_ne hle hne

end

/-! ### Repeated keys -/

section

variable {κ α : Type} [DecidableEq κ] [Hashable κ]

/-- The last value given to every key. -/
def lastValues (pairs : List (κ × α)) : Std.HashMap κ α :=
  pairs.foldl (fun values pair => values.insert pair.1 pair.2) ∅

/-- Pairs with distinct keys: a repeated key keeps its first place and takes its last value. -/
def lastWins (pairs : List (κ × α)) : List (κ × α) :=
  let values := lastValues pairs
  (distinct (pairs.map (·.1))).filterMap fun key => values[key]?.map fun value => (key, value)

omit [DecidableEq κ] [Hashable κ] in
theorem keys_filterMap_sublist (value : κ → Option α) (keys : List κ) :
    ((keys.filterMap fun key => (value key).map fun v => (key, v)).map (·.1)).Sublist keys := by
  induction keys with
  | nil => simp
  | cons key keys ih =>
    cases h : value key with
    | none => simpa [h] using ih.cons key
    | some v => simpa [h] using ih.cons_cons key

theorem nodup_keys_lastWins (pairs : List (κ × α)) : ((lastWins pairs).map (·.1)).Nodup :=
  (nodup_distinct _).sublist (keys_filterMap_sublist _ _)

end

end Picklists

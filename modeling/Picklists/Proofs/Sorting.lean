import Mathlib.Data.List.Basic
import Picklists.Order

/-!
# Sorting by a key

Members of a list in the order of their keys.  Several members may have one key, and then they keep
their order: the sort is stable.

* `filter_key_sortedBy` : **the members with one key stand as they stood before the sort.**
* `eq_of_filter_key` : a sorted list is determined by its members with each key.
* `sortedBy_congr` : so lists that agree on the members with each key are sorted alike, whatever the
  order of members with different keys.
* `filter_sortedBy` : leaving members out after the sort is the same as leaving them out before it.
* `placedBy` : the sorted members with the positions from which they come.  They stand in the order
  of their keys and, where these are the same, of their positions (`pairwise_placedBy`).
-/

namespace Picklists

section

variable {α κ : Type} [DecidableEq κ]

/-! ### Members with one key -/

/-- Lists that agree on the members with each key have the same members. -/
theorem mem_iff_of_filter_key {key : α → κ} {members others : List α}
    (h : ∀ k, members.filter (key · = k) = others.filter (key · = k)) (a : α) :
    a ∈ members ↔ a ∈ others := by
  have ha : a ∈ members.filter (key · = key a) ↔ a ∈ others.filter (key · = key a) := by rw [h]
  simpa only [List.mem_filter, decide_true, and_true] using ha

/-- Lists with the same members agree on those with each key, if no two members have one key. -/
theorem filter_key_of_perm {key : α → κ} {members others : List α} (hperm : members.Perm others)
    (hkey : ∀ a ∈ members, ∀ b ∈ members, key a = key b → a = b) (k : κ) :
    members.filter (key · = k) = others.filter (key · = k) := by
  have hperm := hperm.filter (key · = k)
  cases hfirst : members.filter (key · = k) with
  | nil =>
    rw [hfirst] at hperm
    exact hperm.nil_eq
  | cons a rest =>
    have hall : ∀ b ∈ members.filter (key · = k), b = a := by
      intro b hb
      have ha : a ∈ members.filter (key · = k) := hfirst ▸ List.mem_cons_self
      simp only [List.mem_filter, decide_eq_true_eq] at ha hb
      exact hkey b hb.1 a ha.1 (hb.2.trans ha.2.symm)
    rw [List.eq_replicate_of_mem hall] at hperm
    rw [← hfirst, List.eq_replicate_of_mem hall, List.replicate_perm.1 hperm]

end

section

variable {α κ : Type} [LE κ] [DecidableLE κ]

/-! ### Sorted lists -/

/-- The members of a list in the order of their keys; those with one key keep their order. -/
def sortedBy (key : α → κ) (members : List α) : List α :=
  members.mergeSort fun a b => notAfter (key a) (key b)

theorem perm_sortedBy (key : α → κ) (members : List α) : (sortedBy key members).Perm members :=
  List.mergeSort_perm ..

variable [Std.IsLinearOrder κ]

theorem pairwise_sortedBy (key : α → κ) (members : List α) :
    (sortedBy key members).Pairwise fun a b => key a ≤ key b := by
  have hsorted : (sortedBy key members).Pairwise fun a b => notAfter (key a) (key b) :=
    List.pairwise_mergeSort (fun a b c => notAfter_trans (key a) (key b) (key c))
      (fun a b => notAfter_total (key a) (key b)) members
  exact hsorted.imp fun h => of_decide_eq_true h

variable [DecidableEq κ]

/-- **The sort is stable**: the members with one key stand as they stood before. -/
theorem filter_key_sortedBy (key : α → κ) (members : List α) (k : κ) :
    (sortedBy key members).filter (key · = k) = members.filter (key · = k) := by
  have htied : (members.filter (key · = k)).Pairwise fun a b => notAfter (key a) (key b) := by
    refine List.pairwise_of_forall_mem_list fun a ha b hb => ?_
    have hkeys : key a = key b := by simp_all
    exact decide_eq_true (hkeys ▸ Std.le_refl _)
  have hkept : (members.filter (key · = k)).Sublist (sortedBy key members) :=
    List.sublist_mergeSort (fun a b c => notAfter_trans (key a) (key b) (key c))
      (fun a b => notAfter_total (key a) (key b)) htied List.filter_sublist
  have hfiltered := hkept.filter (key · = k)
  rw [List.filter_filter] at hfiltered
  simp only [Bool.and_self] at hfiltered
  exact (hfiltered.eq_of_length ((perm_sortedBy key members).filter _).length_eq.symm).symm

omit [DecidableLE κ] in
/-- **A sorted list is determined by its members with each key.** -/
theorem eq_of_filter_key {key : α → κ} {members others : List α}
    (hmembers : members.Pairwise fun a b => key a ≤ key b)
    (hothers : others.Pairwise fun a b => key a ≤ key b)
    (h : ∀ k, members.filter (key · = k) = others.filter (key · = k)) : members = others := by
  induction members generalizing others with
  | nil =>
    refine (List.eq_nil_iff_forall_not_mem.2 fun b hb => ?_).symm
    have hnone : others.filter (key · = key b) = [] := (h (key b)).symm
    simpa using List.filter_eq_nil_iff.1 hnone b hb
  | cons a members ih =>
    have hmem := mem_iff_of_filter_key h
    cases others with
    | nil => cases (hmem a).1 List.mem_cons_self
    | cons b others =>
      obtain ⟨hfirst, hrest⟩ := List.pairwise_cons.1 hmembers
      obtain ⟨hfirst', hrest'⟩ := List.pairwise_cons.1 hothers
      -- the first member of each list is in the other one, so neither key is greater
      have hle : key a ≤ key b := by
        rcases List.mem_cons.1 ((hmem b).2 List.mem_cons_self) with rfl | hb
        · exact Std.le_refl _
        · exact hfirst b hb
      have hge : key b ≤ key a := by
        rcases List.mem_cons.1 ((hmem a).1 List.mem_cons_self) with rfl | ha
        · exact Std.le_refl _
        · exact hfirst' a ha
      have hkey : key b = key a := Std.le_antisymm hge hle
      have hheads := h (key a)
      rw [List.filter_cons_of_pos (by simp), List.filter_cons_of_pos (by simpa using hkey)] at hheads
      obtain ⟨rfl, -⟩ := List.cons.inj hheads
      congr 1
      refine ih hrest hrest' fun k => ?_
      have hk := h k
      rw [List.filter_cons, List.filter_cons] at hk
      split at hk
      · exact (List.cons.inj hk).2
      · exact hk

/-- Lists that agree on the members with each key are sorted alike. -/
theorem sortedBy_congr {key : α → κ} {members others : List α}
    (h : ∀ k, members.filter (key · = k) = others.filter (key · = k)) :
    sortedBy key members = sortedBy key others := by
  refine eq_of_filter_key (pairwise_sortedBy key members) (pairwise_sortedBy key others) fun k => ?_
  rw [filter_key_sortedBy, filter_key_sortedBy, h]

/-- Leaving members out after the sort is the same as leaving them out before it. -/
theorem filter_sortedBy (key : α → κ) (members : List α) (keep : α → Bool) :
    (sortedBy key members).filter keep = sortedBy key (members.filter keep) := by
  refine eq_of_filter_key ((pairwise_sortedBy key members).filter keep)
    (pairwise_sortedBy key (members.filter keep)) fun k => ?_
  rw [List.filter_comm, filter_key_sortedBy, List.filter_comm, filter_key_sortedBy]

end

/-! ### Positions -/

section

variable {α κ : Type} [LE κ] [DecidableLE κ] {key : α → κ} {members : List α}

/-- The members of a list in the order of their keys, each with its position in the list. -/
def placedBy (key : α → κ) (members : List α) : List (α × Nat) :=
  members.zipIdx.mergeSort (List.zipIdxLE fun a b => notAfter (key a) (key b))

theorem map_fst_placedBy (key : α → κ) (members : List α) :
    (placedBy key members).map (·.1) = sortedBy key members := List.mergeSort_zipIdx

theorem mem_placedBy {a : α} {position : Nat} :
    (a, position) ∈ placedBy key members ↔ members[position]? = some a := by
  rw [placedBy, List.mem_mergeSort, List.mk_mem_zipIdx_iff_getElem?]

/-- **Members with one key stand in the order of their positions.** -/
theorem pairwise_placedBy [LT κ] [Std.IsLinearOrder κ] [Std.LawfulOrderLT κ] (key : α → κ)
    (members : List α) :
    (placedBy key members).Pairwise fun a b =>
      key a.1 < key b.1 ∨ key a.1 = key b.1 ∧ a.2 ≤ b.2 := by
  have hsorted := List.pairwise_mergeSort
    (List.zipIdxLE_trans fun a b c => notAfter_trans (key a) (key b) (key c))
    (List.zipIdxLE_total fun a b => notAfter_total (key a) (key b)) members.zipIdx
  refine hsorted.imp fun {a b} hab => ?_
  simp only [List.zipIdxLE, notAfter, decide_eq_true_eq] at hab
  split at hab
  · rename_i hle
    split at hab
    · rename_i hge
      exact Or.inr ⟨Std.le_antisymm hle hge, of_decide_eq_true hab⟩
    · rename_i hlt
      exact Or.inl (Std.lt_iff_le_and_not_ge.2 ⟨hle, hlt⟩)
  · cases hab

end

end Picklists

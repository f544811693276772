import Mathlib.Data.List.DropRight
import Picklists.Text.Blank

/-!
# Trimmed texts

What is left of a text without its leading and trailing members of a class.

* `Text.Trimmed` : a text neither begins nor ends with a member of the class; the trimmed texts are
  those that stay as they are (`Text.trim_eq_self_iff`), and **trimming makes a text trimmed**
  (`Text.trimmed_trim`).
* `Text.trim_eq_nil_iff` : nothing is left exactly of a text that is made of members of the class.
* `Text.trim_pad` : members of the class around a text do not count.
-/

namespace Picklists

namespace Text

variable {α : Type} {outer : α → Bool} {text : List α}

/-- A text neither begins nor ends with a member of a class. -/
def Trimmed (outer : α → Bool) (text : List α) : Prop :=
  (∀ a ∈ text.head?, outer a = false) ∧ ∀ a ∈ text.getLast?, outer a = false

instance (outer : α → Bool) (text : List α) : Decidable (Trimmed outer text) :=
  inferInstanceAs
    (Decidable ((∀ a ∈ text.head?, outer a = false) ∧ ∀ a ∈ text.getLast?, outer a = false))

theorem trim_eq_rdropWhile (outer : α → Bool) (text : List α) :
    trim outer text = (text.dropWhile outer).rdropWhile outer := rfl

theorem dropWhile_eq_self_of_head (h : ∀ a ∈ text.head?, outer a = false) :
    text.dropWhile outer = text := by
  cases text with
  | nil => rfl
  | cons a text => rw [List.dropWhile_cons_of_neg (by simpa using h a rfl)]

/-- What is dropped at the end leaves the beginning as it is. -/
theorem head?_rdropWhile (h : ∀ a ∈ text.head?, outer a = false) :
    (text.rdropWhile outer).head? = text.head? := by
  cases text with
  | nil => rfl
  | cons first text =>
    obtain ⟨back, hback⟩ := List.rdropWhile_prefix outer (first :: text)
    cases hkept : (first :: text).rdropWhile outer with
    | nil =>
      have hall := List.rdropWhile_eq_nil_iff.1 hkept first List.mem_cons_self
      exact absurd (h first rfl) (by simp [hall])
    | cons other kept =>
      rw [hkept, List.cons_append] at hback
      rw [List.head?_cons, List.head?_cons, (List.cons.inj hback).1]

theorem trimmed_trim (outer : α → Bool) (text : List α) : Trimmed outer (trim outer text) := by
  rw [trim_eq_rdropWhile]
  have hhead : ∀ a ∈ (text.dropWhile outer).head?, outer a = false := by
    intro a ha
    have hnot := List.head?_dropWhile_not outer text
    rw [Option.mem_def.1 ha] at hnot
    exact hnot
  refine ⟨fun a ha => ?_, fun a ha => ?_⟩
  · rw [head?_rdropWhile hhead] at ha
    exact hhead a ha
  · obtain ⟨front, hfront⟩ := List.getLast?_eq_some_iff.1 ha
    have hne : (text.dropWhile outer).rdropWhile outer ≠ [] := by
      rw [hfront]
      exact List.concat_ne_nil a front
    have hlast := List.rdropWhile_last_not outer _ hne
    simp only [hfront, List.getLast_concat, Bool.not_eq_true] at hlast
    exact hlast

/-- A text stays as it is exactly if it is trimmed. -/
theorem trim_eq_self_iff : trim outer text = text ↔ Trimmed outer text := by
  constructor
  · intro h
    rw [← h]
    exact trimmed_trim outer text
  · rintro ⟨hfirst, hlast⟩
    rw [trim_eq_rdropWhile, dropWhile_eq_self_of_head hfirst, List.rdropWhile_eq_self_iff]
    intro hne
    simpa using hlast _ (List.getLast?_eq_some_getLast hne)

/-- Nothing is left of a text exactly if it is made of members of the class. -/
theorem trim_eq_nil_iff : trim outer text = [] ↔ ∀ a ∈ text, outer a = true := by
  rw [trim_eq_rdropWhile, List.rdropWhile_eq_nil_iff]
  constructor
  · intro h
    have hnone : text.dropWhile outer = [] := by
      -- otherwise the first member that is kept is none of the class
      by_contra hne
      have hhead := List.head_dropWhile_not outer hne
      rw [h _ (List.head_mem hne)] at hhead
      exact Bool.noConfusion hhead
    exact List.dropWhile_eq_nil_iff.1 hnone
  · intro h a ha
    exact h a ((List.dropWhile_sublist outer).subset ha)

theorem mem_of_mem_trim {a : α} (h : a ∈ trim outer text) : a ∈ text :=
  (List.dropWhile_sublist outer).subset ((List.rdropWhile_prefix outer _).subset h)

/-- Members of the class around a text do not count. -/
theorem trim_pad {front back : List α} (hfront : ∀ a ∈ front, outer a = true)
    (hback : ∀ a ∈ back, outer a = true) :
    trim outer (front ++ text ++ back) = trim outer text := by
  have hdrop : ∀ kept : List α, (kept ++ back).rdropWhile outer = kept.rdropWhile outer := by
    intro kept
    rw [List.rdropWhile, List.reverse_append, List.dropWhile_append_of_pos fun a ha => ?_]
    · rfl
    · exact hback a (List.mem_reverse.1 ha)
  rw [trim_eq_rdropWhile, List.append_assoc, List.dropWhile_append_of_pos hfront,
    List.dropWhile_append]
  split
  · rename_i hnone
    rw [trim_eq_rdropWhile, List.isEmpty_iff.1 hnone, List.dropWhile_eq_nil_iff.2 hback]
  · rw [hdrop]
    rfl

end Text

end Picklists

import Picklists.Validation.Checked

/-!
# Data that passes its checks

When a check gives a value, and which one.  What is put together of parts passes exactly if all of
its parts do.

* `bind_eq_ok_iff` : work that has a result.
* `Checked.map_eq_valid_iff`, `Checked.seq_eq_valid_iff` : combined checks.
* `Checked.required_of_field`, `Checked.optional_of_field` : the check of a field that is given.
-/

namespace Picklists

/-- Work in two parts has a result exactly if both parts do. -/
theorem bind_eq_ok_iff {ε α β : Type} {x : Except ε α} {f : α → Except ε β} {b : β} :
    x >>= f = .ok b ↔ ∃ a, x = .ok a ∧ f a = .ok b := by
  cases x with
  | error failure => simp [bind, Except.bind]
  | ok a => simp [bind, Except.bind]

namespace Checked

variable {α β : Type}

theorem map_eq_valid_iff {f : α → β} {x : Checked α} {b : β} :
    f <$> x = .valid b ↔ ∃ a, x = .valid a ∧ f a = b := by
  change x.map f = .valid b ↔ _
  cases x with
  | valid a => simp [map]
  | invalid faults => simp [map]

theorem seq_eq_valid_iff {f : Checked (α → β)} {x : Checked α} {b : β} :
    f <*> x = .valid b ↔ ∃ g a, f = .valid g ∧ x = .valid a ∧ g a = b := by
  change f.combine x = .valid b ↔ _
  cases f <;> cases x <;> simp [combine]

/-- The place of a check does not decide whether it passes. -/
theorem within_eq_valid_iff (step : Step) {x : Checked α} {a : α} :
    x.within step = .valid a ↔ x = .valid a := by
  cases x with
  | valid b => rfl
  | invalid faults => simp [within]

variable {name : String} {given : Fields} {a : α}

theorem required_of_field (value : Json) (h : Json.field? given name = some value)
    (decode : Decoder α) :
    required name decode given = .valid a ↔ decode value = .valid a := by
  rw [required, h, within_eq_valid_iff]

theorem optional_of_field (value : Json) (h : Json.field? given name = some value) (absent : α)
    (decode : Decoder α) :
    optional name absent decode given = .valid a ↔ decode value = .valid a := by
  rw [optional, h, within_eq_valid_iff]

end Checked

end Picklists

import Picklists.Json
import Picklists.Validation.Fault

/-!
# Checked data

The outcome of checking a piece of data: a value, or all faults that were found, in the order of
the places that were checked. Checking a record checks every field of it, whatever the outcome of
the fields before.

* `Checked` : the outcome; its applicative structure collects faults.
* `Decoder` : a check of a JSON value.
* `Decoder.record`, `Checked.required`, `Checked.optional` : records and their fields.
* `Decoder.listOf` : sequences, item by item.
-/

namespace Picklists

/-- The outcome of checking a piece of data. -/
inductive Checked (α : Type) where
  /-- The data is good and stands for this value. -/
  | valid (value : α)
  /-- These faults were found. -/
  | invalid (faults : List Fault)
deriving DecidableEq

namespace Checked

/-- Changes the value of good data. -/
def map {α β : Type} (f : α → β) : Checked α → Checked β
  | .valid value => .valid (f value)
  | .invalid faults => .invalid faults

/-- Combines two checks; the faults of the first come first. -/
def combine {α β : Type} : Checked (α → β) → Checked α → Checked β
  | .valid f, .valid value => .valid (f value)
  | .valid _, .invalid faults => .invalid faults
  | .invalid faults, .valid _ => .invalid faults
  | .invalid faults, .invalid more => .invalid (faults ++ more)

instance : Applicative Checked where
  map := map
  pure := valid
  seq f x := combine f (x ())

/-- Places a check one step deeper. -/
def within {α : Type} (step : Step) : Checked α → Checked α
  | .valid value => .valid value
  | .invalid faults => .invalid (faults.map fun fault => ⟨step :: fault.path, fault.reason⟩)

/-- Refuses the value that is being checked. -/
def refuse {α : Type} (reason : Reason) : Checked α := .invalid [⟨[], reason⟩]

end Checked

/-- A check of a JSON value. -/
abbrev Decoder (α : Type) := Json → Checked α

/-- The fields of the object that stands for a record. -/
abbrev Fields := List (Text × Json)

namespace Checked

/-- A field that has to be given. -/
def required {α : Type} (name : String) (decode : Decoder α) (given : Fields) : Checked α :=
  match Json.field? given name with
  | some value => (decode value).within (.field name)
  | none => (Checked.refuse .missing).within (.field name)

/-- A field that has a value even if it is not given. -/
def optional {α : Type} (name : String) (absent : α) (decode : Decoder α) (given : Fields) :
    Checked α :=
  match Json.field? given name with
  | some value => (decode value).within (.field name)
  | none => .valid absent

end Checked

namespace Decoder

/-- A record given as an object; fields it does not have are ignored. -/
def record {α : Type} (name : String) (fields : Fields → Checked α) : Decoder α
  | .object given => fields given
  | _ => .refuse (.notRecord name)

/-- A value that may be null. -/
def nullable {α : Type} (decode : Decoder α) : Decoder (Option α)
  | .null => .valid none
  | value => (decode value).map some

/-- The items of a sequence from the given index on. -/
def itemsFrom {α : Type} (decode : Decoder α) (index : Nat) : List Json → Checked (List α)
  | [] => .valid []
  | item :: items =>
    List.cons <$> (decode item).within (.item index) <*> itemsFrom decode (index + 1) items

/-- A sequence of values; anything else is refused for the given reason. -/
def listOf {α : Type} (otherwise : Reason) (decode : Decoder α) : Decoder (List α)
  | .array items => itemsFrom decode 0 items
  | _ => .refuse otherwise

end Decoder

end Picklists

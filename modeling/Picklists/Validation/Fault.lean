/-!
# Faults of received data

What is wrong with a piece of received data, and where.

* `Reason` : the cause, with its short `code` and its `message`.
* `Fault` : a cause at a place, given by the steps that lead there from the outermost value.
-/

namespace Picklists

/-- One step into a piece of data. -/
inductive Step where
  /-- To the field of an object. -/
  | field (name : String)
  /-- To the item of a sequence, counted from zero. -/
  | item (index : Nat)
deriving DecidableEq

/-- Why a value is refused. -/
inductive Reason where
  /-- A required field is absent. -/
  | missing
  /-- An object was expected for a record of this name. -/
  | notRecord (record : String)
  /-- A text was expected. -/
  | notText
  /-- The text is not Unicode. -/
  | notUnicode
  /-- An integer was expected. -/
  | notInteger
  /-- The text is not the numeral of an integer. -/
  | integerText
  /-- The integer is too large to be read. -/
  | integerSize
  /-- The number has a fractional part. -/
  | fraction
  /-- The number is infinite or no number. -/
  | notFinite
  /-- The integer is negative. -/
  | negative
  /-- A number was expected. -/
  | notNumber
  /-- The text is not a numeral. -/
  | numberText
  /-- A truth value was expected. -/
  | notTruth
  /-- The text or number does not stand for a truth value. -/
  | truthText
  /-- A list was expected. -/
  | notList
  /-- A set was expected. -/
  | notSet
  /-- The record cannot be changed. -/
  | frozen
deriving DecidableEq

/-- The short name of a cause. -/
def Reason.code : Reason → String
  | .missing => "missing"
  | .notRecord _ => "model_type"
  | .notText => "string_type"
  | .notUnicode => "string_unicode"
  | .notInteger => "int_type"
  | .integerText => "int_parsing"
  | .integerSize => "int_parsing_size"
  | .fraction => "int_from_float"
  | .notFinite => "finite_number"
  | .negative => "greater_than_equal"
  | .notNumber => "float_type"
  | .numberText => "float_parsing"
  | .notTruth => "bool_type"
  | .truthText => "bool_parsing"
  | .notList => "list_type"
  | .notSet => "frozen_set_type"
  | .frozen => "frozen_instance"

/-- The message of a cause. -/
def Reason.message : Reason → String
  | .missing => "Field required"
  | .notRecord record => "Input should be a valid dictionary or instance of " ++ record
  | .notText => "Input should be a valid string"
  | .notUnicode =>
    "Input should be a valid string, unable to parse raw data as a unicode string"
  | .notInteger => "Input should be a valid integer"
  | .integerText => "Input should be a valid integer, unable to parse string as an integer"
  | .integerSize => "Unable to parse input string as an integer, exceeded maximum size"
  | .fraction => "Input should be a valid integer, got a number with a fractional part"
  | .notFinite => "Input should be a finite number"
  | .negative => "Input should be greater than or equal to 0"
  | .notNumber => "Input should be a valid number"
  | .numberText => "Input should be a valid number, unable to parse string as a number"
  | .notTruth => "Input should be a valid boolean"
  | .truthText => "Input should be a valid boolean, unable to interpret input"
  | .notList => "Input should be a valid list"
  | .notSet => "Input should be a valid frozenset"
  | .frozen => "Instance is frozen"

/-- A cause and the place where it was found. -/
structure Fault where
  /-- The way from the outermost value to the refused one. -/
  path : List Step
  /-- Why it is refused. -/
  reason : Reason
deriving DecidableEq

end Picklists

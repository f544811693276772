import Picklists.Validation.Checked
import Picklists.Validation.Numeral

/-!
# Scalar values

Checks of single values. They are lenient where a value has only one sensible reading: a numeral
stands for its number, a number without fractional part for its integer.

* `Decoder.text`, `Decoder.integer`, `Decoder.natural`, `Decoder.number`, `Decoder.truth`.
-/

namespace Picklists

namespace Decoder

/-- The bound of integers of 64 bits, `2 ^ 63`. -/
def wordBound : Int := 0x8000000000000000

/-- A text, whether it is Unicode or not. -/
def text : Decoder Text
  | .text value => .valid value
  | _ => .refuse .notText

/-- What the characters of a text stand for. A text that is not Unicode is refused. -/
def readChars {α : Type} (text : Text) (read : List Char → Checked α) : Checked α :=
  match text.chars? with
  | some cs => read cs
  | none => .refuse .notUnicode

/-- An integer. A truth value counts as 0 or 1; a number counts if it has no fractional part and
lies strictly between `-2 ^ 63` and `2 ^ 63`; a text counts if it is a numeral. -/
def integer : Decoder Int
  | .int value => .valid value
  | .bool value => .valid (if value then 1 else 0)
  | .real value =>
    if !value.isFinite then .refuse .notFinite
    else match value.toInt? with
      | none => .refuse .fraction
      | some n => if -wordBound < n ∧ n < wordBound then .valid n else .refuse .integerSize
  | .text value => readChars value fun cs =>
    match Received.readInteger cs with
    | .ok n => .valid n
    | .error .malformed => .refuse .integerText
    | .error (.tooLong _) => .refuse .integerSize
  | _ => .refuse .notInteger

/-- An integer that is not negative. -/
def natural (value : Json) : Checked Nat :=
  match integer value with
  | .valid n => if n < 0 then .refuse .negative else .valid n.toNat
  | .invalid faults => .invalid faults

/-- A double precision number. An integer counts unless it lies beyond all of them, a truth value
counts as 0 or 1, and a text counts if it is a numeral. -/
def number : Decoder Binary64
  | .real value => .valid value
  | .int value =>
    match Binary64.ofInt? value with
    | some x => .valid x
    | none => .refuse .notNumber
  | .bool value => .valid (if value then .one else .zero)
  | .text value => readChars value fun cs =>
    match Received.readReal? cs with
    | some x => .valid x
    | none => .refuse .numberText
  | _ => .refuse .notNumber

/-- The words for false. -/
def falseWords : List String := ["0", "off", "f", "false", "n", "no"]

/-- The words for true. -/
def trueWords : List String := ["1", "on", "t", "true", "y", "yes"]

/-- The truth value that an integer stands for. -/
def truthOfInt (n : Int) : Checked Bool :=
  if n = 0 then .valid false else if n = 1 then .valid true else .refuse .truthText

/-- A truth value. Zero and one count, and so do a few words in any case. Numbers for which 64 bits
are too few are of the wrong kind. -/
def truth : Decoder Bool
  | .bool value => .valid value
  | .int value =>
    if -wordBound ≤ value ∧ value < wordBound then truthOfInt value else .refuse .notTruth
  | .real value =>
    match value.toInt? with
    | some n => if -wordBound < n ∧ n < wordBound then truthOfInt n else .refuse .notTruth
    | none => .refuse .notTruth
  | .text value => readChars value fun cs =>
    let word := String.ofList (cs.map Char.toLower)
    if falseWords.contains word then .valid false
    else if trueWords.contains word then .valid true
    else .refuse .truthText
  | _ => .refuse .notTruth

end Decoder

end Picklists

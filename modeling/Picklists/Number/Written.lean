import Picklists.Number.Numeral

/-!
# Written integers

Integers are written as decimal numerals. Like a numeral that is read, one that is written has at
most `Numeral.maxDigits` digits: a longer one is not written at all.

* `Numeral.Writable` : the integers that are short enough.
* `Numeral.write?` : the numeral of an integer.
-/

namespace Picklists

namespace Numeral

/-- An integer is short enough to be written. The sign is no digit. -/
def Writable (n : Int) : Prop := (Nat.toDigits 10 n.natAbs).length ≤ maxDigits

instance : DecidablePred Writable := fun _ => inferInstanceAs (Decidable (_ ≤ maxDigits))

/-- The numeral of an integer, if it is short enough. -/
def write? (n : Int) : Option String := if Writable n then some (toString n) else none

/-- What is said about an integer that is too long to be written. -/
def unwritableMessage : String :=
  s!"Exceeds the limit ({maxDigits} digits) for integer string conversion; " ++
    "use sys.set_int_max_str_digits() to increase the limit"

theorem write?_of_writable {n : Int} (h : Writable n) : write? n = some (toString n) := if_pos h

theorem write?_of_not_writable {n : Int} (h : ¬ Writable n) : write? n = none := if_neg h

end Numeral

end Picklists

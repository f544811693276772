/-!
# Double precision numbers

A number of the binary64 format as the word of its 64 bits. Every finite value is an integer
multiple of `2 ^ -1074`, so all arithmetic here is exact arithmetic on natural numbers.

* `Binary64.units` : the absolute value of a finite number in units of `2 ^ -1074`.
* `Binary64.round` : the number nearest to a quotient, ties to the even neighbour, infinite beyond
  the largest finite value.
* `Binary64.ofDecimal`, `Binary64.ofInt?` : the nearest number to a decimal and to an integer.
* `Binary64.toInt?` : the integer a finite number without fractional part is equal to.
-/

namespace Picklists

/-- A number of the binary64 format, given by its bits: sign, eleven bits of exponent, and 52 bits
of fraction. -/
structure Binary64 where
  /-- The word, sign bit first. -/
  bits : UInt64
deriving DecidableEq, Inhabited

namespace Binary64

/-- The weight of the sign bit, `2 ^ 63`. -/
def signBit : Nat := 0x8000000000000000

/-- The weight of the bit before the fraction, `2 ^ 52`. -/
def leadingBit : Nat := 0x10000000000000

/-- The number one in units of `2 ^ -1074`. -/
def oneUnits : Nat := Nat.pow 2 1074

/-- Whether the sign bit is set. -/
def isNegative (x : Binary64) : Bool := signBit ≤ x.bits.toNat

/-- The word without its sign bit; it orders absolute values. -/
def magnitude (x : Binary64) : Nat := x.bits.toNat % signBit

/-- The magnitude of both infinities; greater magnitudes are no numbers. -/
def infiniteMagnitude : Nat := 2047 * leadingBit

/-- Whether the number is neither infinite nor a NaN. -/
def isFinite (x : Binary64) : Bool := x.magnitude < infiniteMagnitude

/-- Whether the word stands for no number. -/
def isNaN (x : Binary64) : Bool := infiniteMagnitude < x.magnitude

/-- Whether the number is one of the two zeros. -/
def isZero (x : Binary64) : Bool := x.magnitude == 0

/-- The significand of a finite number, with the leading bit that the format leaves out. -/
def significand (x : Binary64) : Nat :=
  if x.magnitude < leadingBit then x.magnitude else leadingBit + x.magnitude % leadingBit

/-- The power of two, counted from `2 ^ -1074`, in which the significand counts. -/
def unitExponent (x : Binary64) : Nat := x.magnitude / leadingBit - 1

/-- The absolute value of a finite number in units of `2 ^ -1074`. -/
def units (x : Binary64) : Nat := x.significand * Nat.pow 2 x.unitExponent

/-- The number with a given sign and magnitude. -/
def ofMagnitude (negative : Bool) (magnitude : Nat) : Binary64 :=
  ⟨UInt64.ofNat (magnitude + if negative then signBit else 0)⟩

/-- The infinity of a given sign. -/
def infinity (negative : Bool) : Binary64 := ofMagnitude negative infiniteMagnitude

/-- The word that stands for no number. -/
def nan : Binary64 := ofMagnitude false (infiniteMagnitude + leadingBit / 2)

/-- Positive zero. -/
def zero : Binary64 := ofMagnitude false 0

/-- The number one. -/
def one : Binary64 := ofMagnitude false (1023 * leadingBit)

/-- The quotient of two natural numbers rounded to the nearest one, ties to the even one. -/
def divHalfEven (a b : Nat) : Nat :=
  let q := a / b
  let r := a % b
  if 2 * r < b then q else if b < 2 * r then q + 1 else q + q % 2

/-- The number nearest to `num / den` with the given sign, ties to the even significand. A rounded
significand that reaches the next power of two carries into the exponent by itself, because
magnitudes are consecutive. -/
def round (negative : Bool) (num den : Nat) : Binary64 :=
  let n := num * oneUnits
  let e := (n / den).log2 - 52
  ofMagnitude negative (min infiniteMagnitude (e * leadingBit + divHalfEven n (den * Nat.pow 2 e)))

/-- The number nearest to `± coefficient * 10 ^ exponent`. Exponents whose result is certainly
infinite or zero are settled first, so that no huge power is formed. -/
def ofDecimal (negative : Bool) (coefficient : Nat) (exponent : Int) : Binary64 :=
  if coefficient = 0 ∨ exponent < -330 - coefficient.log2 then ofMagnitude negative 0
  else if 310 < exponent then infinity negative
  else if 0 ≤ exponent then round negative (coefficient * Nat.pow 10 exponent.toNat) 1
  else round negative coefficient (Nat.pow 10 (-exponent).toNat)

/-- The finite number nearest to a whole number of the given sign, or none where that would be
infinite. -/
def ofWhole? (negative : Bool) (n : Nat) : Option Binary64 :=
  let x := round negative n 1
  if x.isFinite then some x else none

/-- The finite number nearest to an integer, or none where that would be infinite. -/
def ofInt? : Int → Option Binary64
  | .ofNat n => ofWhole? false n
  | .negSucc n => ofWhole? true (n + 1)

/-- The integer that a finite number without fractional part is equal to. -/
def toInt? (x : Binary64) : Option Int :=
  if x.isFinite && x.units % oneUnits == 0 then
    let n : Int := (x.units / oneUnits : Nat)
    some (if x.isNegative then -n else n)
  else none

end Binary64

end Picklists

import Picklists.Number.Binary64

/-!
# Shortest decimal text

The text of a double precision number: the fewest decimal digits that read back as the same number,
and of those the digits nearest to it.

* `Binary64.shortest` : the digits and their power of ten.
* `Binary64.text` : the text, positional from `1e-4` up to below `1e16` and scientific elsewhere.

For every count of digits from 1 to 17 only the two neighbours of the number on that decimal grid
have to be tried: if any point of the grid reads back as the number, one of these two does.
-/

namespace Picklists

/-- The decimal `coefficient * 10 ^ exponent`. -/
structure Scientific where
  /-- The digits, read as a natural number. -/
  coefficient : Nat
  /-- The power of ten of the last digit. -/
  exponent : Int
deriving DecidableEq

namespace Binary64

/-- How many decimal digits a natural number has. -/
def decimalLength (n : Nat) : Nat := (Nat.toDigits 10 n).length

/-- The exponent of the power of ten at or below a positive finite number. The factor `10 ^ 330`
makes the smallest of them greater than one. -/
def decimalExponent (x : Binary64) : Int :=
  (decimalLength (x.units * Nat.pow 10 330 / oneUnits) : Int) - 331

/-- The point nearest to `x` on the grid of multiples of `10 ^ k`, if one reads back as `x`. All
numbers are in units of `2 ^ -1076`, so that the ends of the interval of values that round to `x`
are whole. The ends belong to it exactly if the significand is even. -/
def gridPoint? (x : Binary64) (k : Int) : Option Nat :=
  let scale := Nat.pow 10 (-k).toNat
  let step := Nat.pow 10 k.toNat * (4 * oneUnits)
  let middle := 4 * x.units * scale
  let above := 2 * Nat.pow 2 x.unitExponent * scale
  let below := if x.significand = leadingBit ∧ 0 < x.unitExponent then above / 2 else above
  let readsBack (c : Nat) : Bool :=
    if x.significand % 2 = 0 then
      decide (middle ≤ c * step + below) && decide (c * step ≤ middle + above)
    else decide (middle < c * step + below) && decide (c * step < middle + above)
  let low := middle / step
  let distance := middle % step
  match readsBack low, readsBack (low + 1) with
  | false, false => none
  | true, false => some low
  | false, true => some (low + 1)
  | true, true =>
    if 2 * distance < step then some low
    else if step < 2 * distance then some (low + 1)
    else some (low + low % 2)

/-- The decimal with the fewest digits that reads back as a positive finite number. -/
def shortest (x : Binary64) : Scientific :=
  let top := x.decimalExponent
  ((List.range 17).findSome? fun (n : Nat) =>
    let k := top - (n : Int)
    (x.gridPoint? k).map fun c => ⟨c, k⟩).getD ⟨0, 0⟩

/-! ### Layout -/

/-- How the digits of a decimal are laid out. -/
structure Layout where
  /-- The least exponent of the first digit that is written positionally. -/
  leastPositional : Int
  /-- The least exponent above these that is written with a power of ten. -/
  leastScientific : Int
  /-- The least count of digits of a written exponent. -/
  exponentWidth : Nat

/-- Numbers are positional from `0.0001` up to `9999999999999998.0`, and a written exponent has
two digits at least. -/
def layout : Layout := ⟨-4, 16, 2⟩

/-- Digits filled up with zeros on the left. -/
def padLeft (width : Nat) (digits : List Char) : List Char :=
  List.replicate (width - digits.length) '0' ++ digits

/-- The text of a positive decimal in a layout: a positional text keeps one digit on either side of
the point, an exponent always has its sign. -/
def Layout.write (style : Layout) (value : Scientific) : List Char :=
  let all := Nat.toDigits 10 value.coefficient
  let digits := (all.reverse.dropWhile (· == '0')).reverse
  let point : Int := value.exponent + all.length
  let first := point - 1
  if style.leastPositional ≤ first ∧ first < style.leastScientific then
    if point ≤ 0 then '0' :: '.' :: (List.replicate (-point).toNat '0' ++ digits)
    else if (digits.length : Int) ≤ point then
      digits ++ List.replicate (point.toNat - digits.length) '0' ++ ['.', '0']
    else digits.take point.toNat ++ '.' :: digits.drop point.toNat
  else
    let fraction := match digits.drop 1 with
      | [] => []
      | rest => '.' :: rest
    digits.take 1 ++ fraction ++ 'e' :: (if first < 0 then '-' else '+') ::
      padLeft style.exponentWidth (Nat.toDigits 10 first.natAbs)

/-- The text of a number: the shortest decimal with its sign, and names for what is not finite. -/
def text (x : Binary64) : String :=
  if x.isNaN then "nan"
  else
    let sign := if x.isNegative then ['-'] else []
    let body :=
      if !x.isFinite then ['i', 'n', 'f']
      else if x.isZero then ['0', '.', '0']
      else layout.write x.shortest
    String.ofList (sign ++ body)

end Binary64

end Picklists

import Picklists.Number.Binary64
import Picklists.Text.Blank
import Picklists.Text.DecimalDigit

/-!
# Numerals

Readers for integers and double precision numbers in the forms people write them: with a sign, and
with single low lines between digits. What counts as a digit is a parameter, so that one grammar
serves the ten digits alone and the decimal digits of all scripts.

* `digitRun` : the digits at the head of a text, and the rest.
* `readInteger` : an integer surrounded by white space, with the two ways to fail that are told
  apart.
* `readReal` : a decimal with optional fraction and exponent, an infinity or a NaN.
-/

namespace Picklists

namespace Numeral

/-- The longest integer numeral that is read, in digits. -/
def maxDigits : Nat := 4300

/-- Why a text is not read as an integer. -/
inductive IntegerFault where
  /-- It is not the numeral of an integer. -/
  | malformed
  /-- It has this many digits, more than `maxDigits`. -/
  | tooLong (digits : Nat)
deriving DecidableEq

/-- What is said about an integer numeral with too many digits. -/
def tooLongMessage (digits : Nat) : String :=
  s!"Exceeds the limit ({maxDigits} digits) for integer string conversion: value has {digits} " ++
    "digits; use sys.set_int_max_str_digits() to increase the limit"

/-- The values of the digits at the head of a text, and the rest. A single low line may stand
between two digits; `afterDigit` says whether the text follows a digit. -/
def digitsFrom (digit? : Char → Option Nat) (afterDigit : Bool) :
    List Char → List Nat × List Char
  | [] => ([], [])
  | c :: cs =>
    match digit? c with
    | some d =>
      let (digits, rest) := digitsFrom digit? true cs
      (d :: digits, rest)
    | none =>
      if afterDigit && c == '_' && cs.head?.any fun e => (digit? e).isSome then
        digitsFrom digit? false cs
      else ([], c :: cs)

/-- The values of the digits at the head of a text that does not continue a numeral, and the
rest. -/
def digitRun (digit? : Char → Option Nat) (cs : List Char) : List Nat × List Char :=
  digitsFrom digit? false cs

/-- The number whose decimal digits are given, most significant first. -/
def ofDigits (digits : List Nat) : Nat := digits.foldl (fun n d => 10 * n + d) 0

/-- The sign at the head of a text (true for minus), and the rest. -/
def sign : List Char → Bool × List Char
  | '-' :: cs => (true, cs)
  | '+' :: cs => (false, cs)
  | cs => (false, cs)

/-- An integer with the given sign and absolute value. -/
def signed (negative : Bool) (n : Nat) : Int := if negative then -(n : Int) else n

/-- Reads an integer: white space, a sign, digits, white space. A run of digits that is too long is
reported as such even if the text after it is no part of a numeral, unless a low line follows. -/
def readInteger (digit? : Char → Option Nat) (text : List Char) : Except IntegerFault Int :=
  let (negative, body) := sign (Text.trim Text.isSpace text)
  let (digits, rest) := digitRun digit? body
  if digits.isEmpty || rest.head? == some '_' then .error .malformed
  else if maxDigits < digits.length then .error (.tooLong digits.length)
  else if rest.isEmpty then .ok (signed negative (ofDigits digits))
  else .error .malformed

/-- The exponent at the head of a text, and the rest: an `e`, a sign and digits. A text without one
has exponent 0. -/
def exponent (digit? : Char → Option Nat) (cs : List Char) : Int × List Char :=
  match cs with
  | c :: body =>
    if c = 'e' ∨ c = 'E' then
      let (negative, body) := sign body
      match digitRun digit? body with
      | ([], _) => (0, cs)
      | (digits, rest) => (signed negative (ofDigits digits), rest)
    else (0, cs)
  | [] => (0, [])

/-- Reads an unsigned decimal: digits, a point and digits, of which one part may be missing, and an
exponent. -/
def readDecimal (digit? : Char → Option Nat) (negative : Bool) (body : List Char) :
    Option Binary64 :=
  let (whole, rest) := digitRun digit? body
  let (fraction, rest) := match rest with
    | '.' :: rest => digitRun digit? rest
    | _ => ([], rest)
  if whole.isEmpty && fraction.isEmpty then none
  else
    let (power, rest) := exponent digit? rest
    if rest.isEmpty then
      some (.ofDecimal negative (ofDigits (whole ++ fraction)) (power - fraction.length))
    else none

/-- Reads a double precision number: a sign, and a decimal or the name of an infinity or of a NaN in
any case. -/
def readReal (digit? : Char → Option Nat) (text : List Char) : Option Binary64 :=
  let (negative, body) := sign text
  let name := body.map Char.toLower
  if name = ['i', 'n', 'f'] ∨ name = ['i', 'n', 'f', 'i', 'n', 'i', 't', 'y'] then
    some (.infinity negative)
  else if name = ['n', 'a', 'n'] then some .nan
  else readDecimal digit? negative body

end Numeral

end Picklists

import Picklists.Number.Numeral

/-!
# Numerals in received data

A text that is received where a number is due counts if it is a numeral. Each kind of numeral has a
plain form. A text in another form is tidied first, and then has to be plain.

* `plainInteger`, `tidyInteger?`, `readInteger` : integers. Tidying removes white space around, a
  plus sign, leading zeros, a fraction of zeros, and low lines. Only a plain numeral that is too
  long is reported as such; other long ones are no numerals at all.
* `plainReal?`, `readReal?` : double precision numbers, tidied of white space or of low lines, but
  not of both.
-/

namespace Picklists

namespace Received

/-! ### Low lines -/

/-- Whether two low lines stand side by side. -/
def hasDoubleLine : List Char → Bool
  | [] => false
  | c :: cs => (c == '_' && cs.head? == some '_') || hasDoubleLine cs

/-- A text without its low lines, if it has some and each of them stands alone between two other
characters. -/
def dropLines? (cs : List Char) : Option (List Char) :=
  if cs.contains '_' && cs.head? != some '_' && cs.getLast? != some '_' && !hasDoubleLine cs then
    some (cs.filter (· != '_'))
  else none

/-! ### Integers -/

/-- Reads a plain integer: a minus sign if it is negative, and digits, of which the first is a zero
only if it is the only one. A run of digits that is too long is reported as such whatever follows
it. -/
def plainInteger (cs : List Char) : Except Numeral.IntegerFault Int :=
  let (negative, body) := match cs with
    | '-' :: body => (true, body)
    | _ => (false, cs)
  match body with
  | '0' :: rest => if rest.isEmpty then .ok 0 else .error .malformed
  | _ =>
    let digits := (body.takeWhile Char.isDigit).map fun c => c.toNat - 0x30
    if digits.isEmpty then .error .malformed
    else if Numeral.maxDigits < digits.length then .error (.tooLong digits.length)
    else if (body.dropWhile Char.isDigit).isEmpty then
      .ok (Numeral.signed negative (Numeral.ofDigits digits))
    else .error .malformed

/-- What is left of a numeral after some leading zeros, the last of which is given. Low lines count
as leading zeros here. Of nothing but zeros the last one stays, as does the zero before a point, and
a minus sign may follow. -/
def dropZerosAfter? (last : Char) : List Char → Option (List Char)
  | [] => some [last]
  | c :: cs =>
    if c = '0' ∨ c = '_' then dropZerosAfter? c cs
    else if c = '.' then some (last :: c :: cs)
    else if c.isDigit ∨ c = '-' then some (c :: cs)
    else none

/-- A text that begins with a digit, without its leading zeros. -/
def dropZeros? : List Char → Option (List Char)
  | [] => none
  | c :: cs => if c = '0' then dropZerosAfter? c cs else if c.isDigit then some (c :: cs) else none

/-- A text without a point that only zeros follow, and without these zeros. -/
def dropFraction (cs : List Char) : List Char :=
  match cs.dropWhile (· != '.') with
  | '.' :: '0' :: zeros => if zeros.all (· == '0') then cs.takeWhile (· != '.') else cs
  | _ => cs

/-- A text in which what may surround and interrupt an integer is removed. -/
def tidyInteger? (cs : List Char) : Option (List Char) :=
  let (negative, body) := Numeral.sign (Text.trim Text.isSpace cs)
  (dropZeros? body).map fun body =>
    let body := dropFraction body
    let body := (dropLines? body).getD body
    if negative then '-' :: body else body

/-- Reads an integer, plain or after tidying. -/
def readInteger (cs : List Char) : Except Numeral.IntegerFault Int :=
  match plainInteger cs with
  | .ok n => .ok n
  | .error (.tooLong digits) => .error (.tooLong digits)
  | .error .malformed =>
    match (tidyInteger? cs).map plainInteger with
    | some (.ok n) => .ok n
    | _ => .error .malformed

/-! ### Double precision numbers -/

/-- Reads a plain number: one without low lines. -/
def plainReal? (cs : List Char) : Option Binary64 :=
  if cs.contains '_' then none else Numeral.readReal Text.asciiDigit? cs

/-- Reads a number, plain up to white space around, or plain up to low lines. -/
def readReal? (cs : List Char) : Option Binary64 :=
  match plainReal? (Text.trim Text.isSpace cs) with
  | some x => some x
  | none => (dropLines? cs).bind plainReal?

end Received

end Picklists

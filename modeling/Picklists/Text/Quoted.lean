import Picklists.Text
import Picklists.Text.Printable

/-!
# Quoted text

A text as it is shown inside messages: between quotation marks, with escapes for what cannot be
printed.

* `quote` : single quotation marks, unless the text holds one and no double one.
* `escape` : a backslash escapes itself and the mark; line feed, carriage return and tab have their
  letters; any other unprintable character is written by its code point in the shortest of the
  forms with two, four and eight hexadecimal digits. Half of a surrogate pair is never printable
  (`escapePoint`).
-/

namespace Picklists

namespace Text

/-- The hexadecimal digit of a value below 16. -/
def hexDigit (n : Nat) : Char := (['0', '1', '2', '3', '4', '5', '6', '7', '8', '9',
  'a', 'b', 'c', 'd', 'e', 'f'] : List Char).getD n '0'

/-- The lowest `width` hexadecimal digits of a number, most significant first. -/
def hex (width n : Nat) : List Char :=
  match width with
  | 0 => []
  | width + 1 => hex width (n / 16) ++ [hexDigit (n % 16)]

/-- A character as it stands between quotation marks of the given kind. -/
def escape (mark c : Char) : List Char :=
  if c = mark ∨ c = '\\' then ['\\', c]
  else if c = '\n' then ['\\', 'n']
  else if c = '\r' then ['\\', 'r']
  else if c = '\t' then ['\\', 't']
  else if isPrintable c then [c]
  else if c.toNat < 0x100 then '\\' :: 'x' :: hex 2 c.toNat
  else if c.toNat < 0x10000 then '\\' :: 'u' :: hex 4 c.toNat
  else '\\' :: 'U' :: hex 8 c.toNat

/-- A code point as it stands between quotation marks of the given kind. -/
def escapePoint (mark : Char) : CodePoint → List Char
  | .char c => escape mark c
  | .half index => '\\' :: 'u' :: hex 4 (CodePoint.half index).code

/-- The quotation mark of a text: double only if that saves an escape. -/
def quotationMark (text : Text) : Char :=
  if text.points.contains (.char '\'') && !text.points.contains (.char '"') then '"' else '\''

/-- The quoted form of a text. -/
def quote (text : Text) : String :=
  let mark := text.quotationMark
  String.ofList (mark :: (text.points.flatMap (escapePoint mark) ++ [mark]))

end Text

end Picklists

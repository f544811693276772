import Picklists.Text.CodePoint

/-!
# White space

Two classes of white space and the trimming of texts.

* `isBlank` : white space as a list of tags is trimmed of it. It includes the four information
  separators U+001C to U+001F. Half of a surrogate pair is never blank (`CodePoint.isBlank`).
* `isSpace` : white space around a numeral, which leaves these four out.
* `trim` : a text without the leading and trailing characters of a class.
-/

namespace Picklists

namespace Text

/-- The code points of white space, as closed intervals in ascending order. -/
def blankIntervals : List (Nat × Nat) :=
  [(0x09, 0x0D), (0x1C, 0x20), (0x85, 0x85), (0xA0, 0xA0), (0x1680, 0x1680), (0x2000, 0x200A),
   (0x2028, 0x2029), (0x202F, 0x202F), (0x205F, 0x205F), (0x3000, 0x3000)]

/-- White space: the Unicode property together with the information separators. -/
def isBlank (c : Char) : Bool :=
  blankIntervals.any fun (first, last) => first ≤ c.toNat && c.toNat ≤ last

/-- White space around a numeral: the information separators do not belong to it. -/
def isSpace (c : Char) : Bool :=
  isBlank c && !(0x1C ≤ c.toNat && c.toNat ≤ 0x1F)

/-- A text without the leading and trailing members of a class. -/
def trim {α : Type} (outer : α → Bool) (text : List α) : List α :=
  ((text.dropWhile outer).reverse.dropWhile outer).reverse

end Text

/-- Whether a code point is white space. -/
def CodePoint.isBlank (point : CodePoint) : Bool := point.char?.any Text.isBlank

end Picklists

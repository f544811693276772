import Picklists.Text.CodePoint

/-!
# Texts

The texts that listings are made of: sequences of code points, compared code point by code point.

* `Text` : a text; a string counts as one wherever a text is expected.
* `Text.chars?` : the characters of a text that is Unicode (`Text.chars?_ofString`).
* `Text.shown` : a string that shows a text (`Text.shown_ofString`).
* `Text.ofString_injective` : different strings are different texts.
-/

namespace Picklists

/-- A text: a sequence of code points. -/
structure Text where
  /-- The code points, in order. -/
  points : List CodePoint
deriving DecidableEq, Hashable

namespace Text

/-- The text that a string is. -/
def ofString (s : String) : Text := ⟨s.toList.map .char⟩

instance : Coe String Text := ⟨ofString⟩

/-- The characters of a text. There are none if it holds half of a surrogate pair, for then it is no
Unicode text. -/
def chars? (text : Text) : Option (List Char) := text.points.mapM CodePoint.char?

/-- A string that shows a text. -/
def shown (text : Text) : String := String.ofList (text.points.map CodePoint.shownChar)

/-- Whether a text has no code points. -/
def isEmpty (text : Text) : Bool := text.points.isEmpty

instance : Append Text := ⟨fun a b => ⟨a.points ++ b.points⟩⟩

/-- Some texts one after the other, with a separator between neighbours. -/
def join (separator : Text) (texts : List Text) : Text :=
  ⟨separator.points.intercalate (texts.map (·.points))⟩

@[simp] theorem chars?_ofString (s : String) : (ofString s).chars? = some s.toList := by
  simp only [chars?, ofString]
  induction s.toList with
  | nil => rfl
  | cons c cs ih => simp [ih, CodePoint.char?]

@[simp] theorem shown_ofString (s : String) : (ofString s).shown = s := by
  simp [shown, ofString, Function.comp_def, CodePoint.shownChar]

theorem ofString_injective {s t : String} (h : ofString s = ofString t) : s = t := by
  rw [← shown_ofString s, h, shown_ofString]

/-! ### Order -/

instance : LE Text := ⟨fun a b => a.points ≤ b.points⟩

instance : LT Text := ⟨fun a b => a.points < b.points⟩

instance : DecidableLE Text := fun a b => inferInstanceAs (Decidable (a.points ≤ b.points))

instance : DecidableLT Text := fun a b => inferInstanceAs (Decidable (a.points < b.points))

instance : Std.IsLinearOrder Text where
  le_refl a := Std.le_refl a.points
  le_trans _ _ _ := Std.le_trans (α := List CodePoint)
  le_antisymm a b hab hba := by
    cases a
    cases b
    exact congrArg mk (Std.le_antisymm (α := List CodePoint) hab hba)
  le_total _ _ := Std.le_total (α := List CodePoint)

instance : Std.LawfulOrderLT Text where
  lt_iff _ _ := Std.lt_iff_le_and_not_ge (α := List CodePoint)

end Text

end Picklists

/-!
# Code points

A JSON text may name half of a surrogate pair by an escape. No character stands for such a half, so
texts are made of code points.

* `CodePoint` : a character, or half of a surrogate pair.
* `CodePoint.code` : its number, by which code points are ordered; no two have the same one
  (`CodePoint.code_injective`).
* `CodePoint.ofCode` : the code point of a number (`CodePoint.code_ofCode`).
-/

namespace Picklists

/-- A code point. -/
inductive CodePoint where
  /-- A character. -/
  | char (c : Char)
  /-- Half of a surrogate pair, counted from U+D800. -/
  | half (index : Fin 0x800)
deriving DecidableEq

namespace CodePoint

/-- The number of a code point. -/
def code : CodePoint → Nat
  | .char c => c.toNat
  | .half index => 0xD800 + index.val

/-- The code point of a number; what is no code point stands for the null character. -/
def ofCode (n : Nat) : CodePoint :=
  if h : 0xD800 ≤ n ∧ n < 0xE000 then .half ⟨n - 0xD800, by omega⟩ else .char (Char.ofNat n)

/-- The character that a code point is, if it is one. -/
def char? : CodePoint → Option Char
  | .char c => some c
  | .half _ => none

/-- The character that shows a code point: half of a surrogate pair is shown by the replacement
character. -/
def shownChar : CodePoint → Char
  | .char c => c
  | .half _ => Char.ofNat 0xFFFD

/-- No character has the number of half of a surrogate pair. -/
theorem code_char_ne_code_half (c : Char) (index : Fin 0x800) :
    (char c).code ≠ (half index).code := by
  have valid : c.toNat.isValidChar := c.valid
  have bound := index.isLt
  simp only [Nat.isValidChar] at valid
  simp only [code]
  omega

theorem code_injective {p q : CodePoint} (h : p.code = q.code) : p = q := by
  cases p with
  | char c =>
    cases q with
    | char d => exact congrArg char (Char.toNat_inj.mp h)
    | half j => exact absurd h (code_char_ne_code_half c j)
  | half i =>
    cases q with
    | char d => exact absurd h.symm (code_char_ne_code_half d i)
    | half j =>
      simp only [code] at h
      exact congrArg half (Fin.ext (by omega))

@[simp] theorem code_ofCode {n : Nat} (h : n < 0x110000) : (ofCode n).code = n := by
  unfold ofCode
  split
  · simp only [code]
    omega
  · have valid : n.isValidChar := by
      simp only [Nat.isValidChar]
      omega
    rw [code, Char.ofNat, dif_pos valid]
    rfl

instance : Hashable CodePoint := ⟨fun p => hash p.code⟩

/-! ### Order -/

instance : LE CodePoint := ⟨fun p q => p.code ≤ q.code⟩

instance : LT CodePoint := ⟨fun p q => p.code < q.code⟩

instance : DecidableLE CodePoint := fun p q => inferInstanceAs (Decidable (p.code ≤ q.code))

instance : DecidableLT CodePoint := fun p q => inferInstanceAs (Decidable (p.code < q.code))

instance : Std.IsLinearOrder CodePoint where
  le_refl p := Nat.le_refl p.code
  le_trans p q r := Nat.le_trans (n := p.code) (m := q.code) (k := r.code)
  le_antisymm _ _ hpq hqp := code_injective (Nat.le_antisymm hpq hqp)
  le_total p q := Nat.le_total p.code q.code

instance : Std.LawfulOrderLT CodePoint where
  lt_iff p q := Nat.lt_iff_le_and_not_ge (m := p.code) (n := q.code)

end CodePoint

end Picklists

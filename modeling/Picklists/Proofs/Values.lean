import Picklists.Proofs.Checked
import Picklists.Proofs.Writing

/-!
# Values by their shapes

Which values of a document give an integer, a number or a text, and which one.  The checks of single
values accept these shapes and no others.

* `GivesInteger` : an integer, a truth value, a number without fractional part that fits into 64
  bits, or a text that is a numeral (`Decoder.integer_eq_valid_iff`, `Decoder.natural_eq_valid_iff`).
* `GivesNumber` : a number, an integer that is not too large, a truth value, or a text that is a
  numeral (`Decoder.number_eq_valid_iff`).
* `OptionalText` : a field that holds a text, or that is missing or null
  (`Decoder.nullable_text_eq_valid_iff`).
-/

namespace Picklists

/-! ### Integers -/

/-- A value gives an integer. -/
inductive GivesInteger : Json → Int → Prop where
  /-- An integer gives itself. -/
  | int (n : Int) : GivesInteger (.int n) n
  /-- False gives zero. -/
  | false : GivesInteger (.bool false) 0
  /-- True gives one. -/
  | true : GivesInteger (.bool true) 1
  /-- A finite number without fractional part gives the integer that it is equal to, if this lies
  strictly between `-2 ^ 63` and `2 ^ 63`. -/
  | real {x : Binary64} {n : Int} (hwhole : x.toInt? = some n) (hlower : -2 ^ 63 < n)
      (hupper : n < 2 ^ 63) : GivesInteger (.real x) n
  /-- A Unicode text gives the integer whose numeral it is. -/
  | text {value : Text} {cs : List Char} {n : Int} (hunicode : value.chars? = some cs)
      (hnumeral : Received.readInteger cs = .ok n) : GivesInteger (.text value) n

namespace Decoder

theorem wordBound_eq : wordBound = 2 ^ 63 := by decide

theorem readChars_eq_valid_iff {α : Type} {value : Text} {read : List Char → Checked α} {a : α} :
    readChars value read = .valid a ↔ ∃ cs, value.chars? = some cs ∧ read cs = .valid a := by
  rw [readChars]
  cases value.chars? with
  | some cs => simp
  | none => simp [Checked.refuse]

/-- A number that is equal to an integer is finite. -/
theorem isFinite_of_toInt? {x : Binary64} {n : Int} (h : x.toInt? = some n) :
    x.isFinite = true := by
  rw [Binary64.toInt?] at h
  split at h
  · rename_i hwhole
    exact (Bool.and_eq_true_iff.1 hwhole).1
  · cases h

/-- **The check of integers** accepts the values that give one. -/
theorem integer_eq_valid_iff {value : Json} {n : Int} :
    integer value = .valid n ↔ GivesInteger value n := by
  constructor
  · intro h
    cases value with
    | int value =>
      cases h
      exact .int n
    | bool value =>
      cases value with
      | false =>
        cases h
        exact .false
      | true =>
        cases h
        exact .true
    | real value =>
      rw [integer] at h
      split at h
      · cases h
      · split at h
        · cases h
        · rename_i m hwhole
          split at h
          · rename_i hsize
            cases h
            rw [wordBound_eq] at hsize
            exact .real hwhole hsize.1 hsize.2
          · cases h
    | text value =>
      obtain ⟨cs, hunicode, hread⟩ := readChars_eq_valid_iff.1 h
      split at hread
      · rename_i m hnumeral
        cases hread
        exact .text hunicode hnumeral
      · cases hread
      · cases hread
    | _ => cases h
  · intro h
    cases h with
    | int | false | true => rfl
    | @real _ n hwhole hlower hupper =>
      have hsize : -wordBound < n ∧ n < wordBound := by
        rw [wordBound_eq]
        exact ⟨hlower, hupper⟩
      simp only [integer, isFinite_of_toInt? hwhole, hwhole, Bool.not_true, Bool.false_eq_true,
        if_false, if_pos hsize]
    | text hunicode hnumeral =>
      refine readChars_eq_valid_iff.2 ⟨_, hunicode, ?_⟩
      rw [hnumeral]

/-- The check of numbers that are not negative accepts the values that give one. -/
theorem natural_eq_valid_iff {value : Json} {n : Nat} :
    natural value = .valid n ↔ GivesInteger value n := by
  rw [natural, ← integer_eq_valid_iff]
  cases integer value with
  | invalid faults => simp
  | valid m =>
    by_cases hm : m < 0
    · simp only [if_pos hm, Checked.refuse, reduceCtorEq, Checked.valid.injEq, false_iff]
      omega
    · simp only [if_neg hm, Checked.valid.injEq]
      omega

end Decoder

/-! ### Numbers -/

/-- A value gives a double precision number. -/
inductive GivesNumber : Json → Binary64 → Prop where
  /-- A number gives itself. -/
  | real (x : Binary64) : GivesNumber (.real x) x
  /-- An integer gives the number nearest to it, if this is finite. -/
  | int {n : Int} {x : Binary64} (hnearest : Binary64.ofInt? n = some x) : GivesNumber (.int n) x
  /-- False gives zero. -/
  | false : GivesNumber (.bool false) .zero
  /-- True gives one. -/
  | true : GivesNumber (.bool true) .one
  /-- A Unicode text gives the number whose numeral it is. -/
  | text {value : Text} {cs : List Char} {x : Binary64} (hunicode : value.chars? = some cs)
      (hnumeral : Received.readReal? cs = some x) : GivesNumber (.text value) x

/-- **The check of numbers** accepts the values that give one. -/
theorem Decoder.number_eq_valid_iff {value : Json} {x : Binary64} :
    number value = .valid x ↔ GivesNumber value x := by
  constructor
  · intro h
    cases value with
    | real value =>
      cases h
      exact .real x
    | int value =>
      rw [number] at h
      split at h
      · rename_i y hnearest
        cases h
        exact .int hnearest
      · cases h
    | bool value =>
      cases value with
      | false =>
        cases h
        exact .false
      | true =>
        cases h
        exact .true
    | text value =>
      obtain ⟨cs, hunicode, hread⟩ := readChars_eq_valid_iff.1 h
      split at hread
      · rename_i y hnumeral
        cases hread
        exact .text hunicode hnumeral
      · cases hread
    | _ => cases h
  · intro h
    cases h with
    | real | false | true => rfl
    | int hnearest => rw [number, hnearest]
    | text hunicode hnumeral =>
      refine readChars_eq_valid_iff.2 ⟨_, hunicode, ?_⟩
      rw [hnumeral]

/-! ### Texts -/

/-- A field of an object holds a text, or none. -/
inductive OptionalText (given : Fields) (name : String) : Option Text → Prop where
  /-- There is no such field. -/
  | missing (h : Json.field? given name = none) : OptionalText given name none
  /-- The field is null. -/
  | null (h : Json.field? given name = some .null) : OptionalText given name none
  /-- The field is a text. -/
  | text {value : Text} (h : Json.field? given name = some (.text value)) :
      OptionalText given name (some value)

/-- What an optional text is given by. -/
theorem OptionalText.null_or_text {given : Fields} {name : String} {value : Option Text}
    (h : OptionalText given name value) {held : Json} (hheld : Json.field? given name = some held) :
    held = .null ∨ ∃ text, held = .text text := by
  cases h with
  | missing h => cases h.symm.trans hheld
  | null h =>
    cases h.symm.trans hheld
    exact Or.inl rfl
  | text h =>
    cases h.symm.trans hheld
    exact Or.inr ⟨_, rfl⟩

/-- **The check of optional texts** accepts the fields that hold one or none. -/
theorem Decoder.nullable_text_eq_valid_iff {given : Fields} {name : String}
    {value : Option Text} :
    nullable .text (Json.fieldOr given name .null) = .valid value ↔
      OptionalText given name value := by
  rw [Json.fieldOr]
  constructor
  · intro h
    cases hfield : Json.field? given name with
    | none =>
      rw [hfield] at h
      cases h
      exact .missing hfield
    | some found =>
      rw [hfield, Option.getD_some] at h
      cases found with
      | null =>
        cases h
        exact .null hfield
      | text text =>
        cases h
        exact .text hfield
      | _ => cases h
  · intro h
    cases h with
    | missing h | null h | text h =>
      rw [h]
      rfl

theorem Decoder.text_eq_valid_iff {value : Json} {text : Text} :
    Decoder.text value = .valid text ↔ value = .text text := by
  cases value <;> simp [Decoder.text, Checked.refuse]

end Picklists

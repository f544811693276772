import Picklists.Json
import Picklists.Number.Numeral

/-!
# JSON tokens

The lexical part of reading JSON: one token at a time. The grammar is the strict one, except that
the three names of numbers that are not finite are known.

* `Token` : a lexical unit. Integers keep their digits, so that the reader can refuse long ones.
* `nextToken?` : the token at the head of a text, and the rest, which is shorter
  (`nextToken?_length`).
-/

namespace Picklists

namespace Json

/-- A lexical unit of JSON. -/
inductive Token where
  /-- A bracket, a brace, a comma or a colon. -/
  | mark (c : Char)
  /-- A text. -/
  | text (value : Text)
  /-- A number without fraction and exponent, as sign and digits. -/
  | integer (negative : Bool) (digits : List Nat)
  /-- Any other value that is one unit. -/
  | scalar (value : Json)

/-- White space between tokens. -/
def isGap (c : Char) : Bool := c == ' ' || c == '\t' || c == '\n' || c == '\r'

/-! ### Texts -/

/-- The value of a hexadecimal digit. -/
def hexValue? (c : Char) : Option Nat :=
  if '0' ≤ c ∧ c ≤ '9' then some (c.toNat - 0x30)
  else if 'a' ≤ c ∧ c ≤ 'f' then some (c.toNat - 0x57)
  else if 'A' ≤ c ∧ c ≤ 'F' then some (c.toNat - 0x37)
  else none

/-- A number of four hexadecimal digits at the head of a text, and the rest. -/
def hex4? : List Char → Option (Nat × List Char)
  | a :: b :: c :: d :: rest =>
    match hexValue? a, hexValue? b, hexValue? c, hexValue? d with
    | some a, some b, some c, some d => some (((a * 16 + b) * 16 + c) * 16 + d, rest)
    | _, _, _, _ => none
  | _ => none

/-- The code point that an escape stands for, and the rest after it; the backslash is read already.
Two escapes that name both halves of a surrogate pair stand for one character. -/
def unescape? : List Char → Option (CodePoint × List Char)
  | 'u' :: cs =>
    match hex4? cs with
    | none => none
    | some (high, rest) =>
      if 0xD800 ≤ high ∧ high < 0xDC00 then
        match rest with
        | '\\' :: 'u' :: more =>
          match hex4? more with
          | none => none
          | some (low, beyond) =>
            if 0xDC00 ≤ low ∧ low < 0xE000 then
              some (.ofCode (0x10000 + (high - 0xD800) * 0x400 + (low - 0xDC00)), beyond)
            else some (.ofCode high, rest)
        | _ => some (.ofCode high, rest)
      else some (.ofCode high, rest)
  | '"' :: rest => some (.char '"', rest)
  | '\\' :: rest => some (.char '\\', rest)
  | '/' :: rest => some (.char '/', rest)
  | 'b' :: rest => some (.char (Char.ofNat 0x08), rest)
  | 'f' :: rest => some (.char (Char.ofNat 0x0C), rest)
  | 'n' :: rest => some (.char '\n', rest)
  | 'r' :: rest => some (.char '\r', rest)
  | 't' :: rest => some (.char '\t', rest)
  | _ => none

theorem hex4?_length {cs rest : List Char} {n : Nat} (h : hex4? cs = some (n, rest)) :
    rest.length < cs.length := by
  unfold hex4? at h
  split at h
  · split at h
    · simp only [Option.some.injEq, Prod.mk.injEq] at h
      simp only [← h.2, List.length_cons]
      omega
    · simp at h
  · simp at h

theorem unescape?_length {cs rest : List Char} {c : CodePoint}
    (h : unescape? cs = some (c, rest)) : rest.length < cs.length := by
  unfold unescape? at h
  split at h
  case h_1 cs =>
    split at h
    · simp at h
    · rename_i high after h₁
      have short := hex4?_length h₁
      split at h
      · split at h
        · split at h
          · simp at h
          · rename_i more _ low beyond h₂
            have shorter := hex4?_length h₂
            split at h <;> simp only [Option.some.injEq, Prod.mk.injEq] at h <;>
              simp only [← h.2, List.length_cons] at * <;> omega
        · simp only [Option.some.injEq, Prod.mk.injEq] at h
          simp only [← h.2, List.length_cons]
          omega
      · simp only [Option.some.injEq, Prod.mk.injEq] at h
        simp only [← h.2, List.length_cons]
        omega
  case h_10 => simp at h
  all_goals
    simp only [Option.some.injEq, Prod.mk.injEq] at h
    simp [← h.2]

/-- The text up to the closing quotation mark, and the rest; `done` holds the characters read so
far, last first. Control characters have to be escaped. -/
def textBody? (done : List CodePoint) (cs : List Char) :
    Option (List CodePoint × List Char) :=
  match cs with
  | [] => none
  | '"' :: rest => some (done.reverse, rest)
  | '\\' :: rest =>
    match _h : unescape? rest with
    | none => none
    | some (c, rest') => textBody? (c :: done) rest'
  | c :: rest => if c < ' ' then none else textBody? (.char c :: done) rest
termination_by cs.length
decreasing_by
  · have := unescape?_length _h
    simp only [List.length_cons]
    omega
  · simp

theorem textBody?_length {done points : List CodePoint} {cs rest : List Char}
    (h : textBody? done cs = some (points, rest)) : rest.length < cs.length := by
  fun_induction textBody? done cs with
  | case1 => simp at h
  | case2 done tail =>
    simp only [Option.some.injEq, Prod.mk.injEq] at h
    simp [← h.2]
  | case3 => simp at h
  | case4 done tail c tail' h₁ ih =>
    have := ih h
    have := unescape?_length h₁
    simp only [List.length_cons]
    omega
  | case5 => simp at h
  | case6 done c tail _ _ _ ih =>
    have := ih h
    simp only [List.length_cons]
    omega

/-! ### Numbers -/

/-- The digits at the head of a text, and the rest. -/
def digits (cs : List Char) : List Nat × List Char :=
  ((cs.takeWhile Char.isDigit).map fun c => c.toNat - 0x30, cs.dropWhile Char.isDigit)

/-- The fraction at the head of a text: a point and at least one digit. -/
def fraction? : List Char → Option (List Nat × List Char)
  | '.' :: cs =>
    match digits cs with
    | ([], _) => none
    | found => some found
  | _ => none

/-- The exponent at the head of a text: the letter, a sign, and at least one digit. -/
def exponent? : List Char → Option (Int × List Char)
  | c :: cs =>
    if c = 'e' ∨ c = 'E' then
      let (negative, body) := Numeral.sign cs
      match digits body with
      | ([], _) => none
      | (ds, rest) => some (Numeral.signed negative (Numeral.ofDigits ds), rest)
    else none
  | [] => none

/-- A number whose whole part is read already. -/
def numberTail (negative : Bool) (whole : List Nat) (cs : List Char) : Token × List Char :=
  match fraction? cs with
  | some (fraction, rest) =>
    let (power, rest) := (exponent? rest).getD (0, rest)
    (.scalar (.real (.ofDecimal negative (Numeral.ofDigits (whole ++ fraction))
      (power - fraction.length))), rest)
  | none =>
    match exponent? cs with
    | some (power, rest) =>
      (.scalar (.real (.ofDecimal negative (Numeral.ofDigits whole) power)), rest)
    | none => (.integer negative whole, cs)

/-- An unsigned number: a zero, or digits that do not begin with one. -/
def number? (negative : Bool) : List Char → Option (Token × List Char)
  | '0' :: rest => some (numberTail negative [0] rest)
  | cs =>
    match digits cs with
    | ([], _) => none
    | (whole, rest) => some (numberTail negative whole rest)

theorem digits_length (cs : List Char) : (digits cs).2.length ≤ cs.length :=
  (List.dropWhile_sublist _).length_le

theorem length_lt_of_digits {cs : List Char} (h : (digits cs).1 ≠ []) :
    (digits cs).2.length < cs.length := by
  cases cs with
  | nil => simp [digits] at h
  | cons c cs =>
    by_cases hc : c.isDigit
    · have := digits_length cs
      simp only [digits, List.dropWhile_cons, hc, ↓reduceIte, List.length_cons] at *
      omega
    · simp [digits, hc] at h

theorem fraction?_length {cs rest : List Char} {ds : List Nat}
    (h : fraction? cs = some (ds, rest)) : rest.length ≤ cs.length := by
  unfold fraction? at h
  split at h
  · rename_i cs
    split at h
    · simp at h
    · have := digits_length cs
      simp only [Option.some.injEq] at h
      simp only [h, List.length_cons] at *
      omega
  · simp at h

theorem sign_length (cs : List Char) : (Numeral.sign cs).2.length ≤ cs.length := by
  unfold Numeral.sign
  split <;> simp

theorem exponent?_length {cs rest : List Char} {n : Int} (h : exponent? cs = some (n, rest)) :
    rest.length ≤ cs.length := by
  unfold exponent? at h
  split at h
  · rename_i c cs
    split at h
    · dsimp only at h
      split at h
      · simp at h
      · rename_i ds rest' _ h₁
        have := digits_length (Numeral.sign cs).2
        have := sign_length cs
        simp only [Option.some.injEq, Prod.mk.injEq] at h
        simp only [h₁, h.2, List.length_cons] at *
        omega
    · simp at h
  · simp at h

theorem numberTail_length (negative : Bool) (whole : List Nat) (cs : List Char) :
    (numberTail negative whole cs).2.length ≤ cs.length := by
  unfold numberTail
  split
  · rename_i fraction rest h
    have h₁ := fraction?_length h
    cases h₂ : exponent? rest with
    | none => simpa [h₂] using h₁
    | some found =>
      obtain ⟨n, rest'⟩ := found
      have := exponent?_length h₂
      simp only [Option.getD_some]
      omega
  · split
    · rename_i h
      exact exponent?_length h
    · simp

theorem number?_length {negative : Bool} {cs rest : List Char} {t : Token}
    (h : number? negative cs = some (t, rest)) : rest.length < cs.length := by
  unfold number? at h
  split at h
  · rename_i tail
    have := numberTail_length negative [0] tail
    simp only [Option.some.injEq] at h
    simp only [h, List.length_cons] at *
    omega
  · split at h
    · simp at h
    · rename_i whole tail hne h₁
      have nonempty : (digits cs).1 ≠ [] := by rw [h₁]; exact hne
      have short := length_lt_of_digits nonempty
      have := numberTail_length negative whole tail
      simp only [Option.some.injEq] at h
      simp only [h, h₁] at *
      omega

/-! ### Words and the next token -/

/-- The words that are values. -/
def words : List (List Char × Json) :=
  [(['n', 'u', 'l', 'l'], .null), (['t', 'r', 'u', 'e'], .bool true),
   (['f', 'a', 'l', 's', 'e'], .bool false), (['N', 'a', 'N'], .real .nan),
   (['I', 'n', 'f', 'i', 'n', 'i', 't', 'y'], .real (.infinity false)),
   (['-', 'I', 'n', 'f', 'i', 'n', 'i', 't', 'y'], .real (.infinity true))]

/-- The word at the head of a text, and the rest. -/
def word? (cs : List Char) : Option (Token × List Char) :=
  (words.find? fun word => word.1.isPrefixOf cs).map fun word =>
    (.scalar word.2, cs.drop word.1.length)

theorem word?_length {cs rest : List Char} {t : Token} (h : word? cs = some (t, rest)) :
    rest.length < cs.length := by
  simp only [word?, Option.map_eq_some_iff, Prod.mk.injEq] at h
  obtain ⟨word, found, _, rfl⟩ := h
  have listed := List.mem_of_find?_eq_some found
  have head := (List.isPrefixOf_iff_prefix.mp
    (List.find?_some (p := fun word : List Char × Json => word.1.isPrefixOf cs) found)).length_le
  have positive : 0 < word.1.length := by
    revert listed
    simp only [words, List.mem_cons, List.not_mem_nil, or_false]
    rintro (rfl | rfl | rfl | rfl | rfl | rfl) <;> simp
  simp only [List.length_drop]
  omega

/-- The token at the head of a text, and the rest. -/
def nextToken? (cs : List Char) : Option (Token × List Char) :=
  match cs with
  | [] => none
  | c :: rest =>
    if c ∈ ['[', ']', '{', '}', ',', ':'] then some (.mark c, rest)
    else if c = '"' then (textBody? [] rest).map fun (points, rest) => (.text ⟨points⟩, rest)
    else match word? cs with
      | some found => some found
      | none => if c = '-' then number? true rest else number? false cs

theorem nextToken?_length {cs rest : List Char} {t : Token} (h : nextToken? cs = some (t, rest)) :
    rest.length < cs.length := by
  unfold nextToken? at h
  split at h
  · simp at h
  · rename_i c tail
    split at h
    · simp only [Option.some.injEq, Prod.mk.injEq] at h
      simp [← h.2]
    · split at h
      · simp only [Option.map_eq_some_iff] at h
        obtain ⟨⟨s, rest'⟩, h₁, h₂⟩ := h
        have := textBody?_length h₁
        simp only [Prod.mk.injEq] at h₂
        simp only [← h₂.2, List.length_cons]
        omega
      · split at h
        · rename_i found h₁
          simp only [Option.some.injEq] at h
          exact word?_length (h ▸ h₁)
        · split at h
          · have := number?_length h
            simp only [List.length_cons]
            omega
          · exact number?_length h

end Json

end Picklists

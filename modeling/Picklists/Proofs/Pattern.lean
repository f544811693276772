import Mathlib.Data.List.Forall2
import Mathlib.Data.List.Infix
import Picklists.Pattern

/-!
# What patterns match

A text matches a pattern if it can be cut into one piece for every character of the pattern.  The
decision never cuts: it keeps, for every end piece of the text, whether the rest of the pattern
matches it, and takes in one character of the pattern after the other.

* `Pattern.StandsFor` : which pieces stand for a character of a pattern.
* `Pattern.matches_append_iff` : a text matches a pattern and another one behind it if it splits
  into a text for each of them.
* `Pattern.Tells` : what a row of answers says; `Pattern.tells_extend` : **one more part of the
  pattern keeps it right**, and so the last row is right (`Pattern.accepts_iff_matches`).
* `Pattern.accepts_exact` : **the decision is exact**.
-/

namespace Picklists

namespace Pattern

/-! ### Pieces -/

/-- Whether a piece of a text stands for a character of a pattern. -/
inductive StandsFor : CodePoint → List CodePoint → Prop where
  /-- Any run of characters stands for `%`. -/
  | anyRun (piece : List CodePoint) : StandsFor (.char '%') piece
  /-- Any one character stands for `_`. -/
  | anyChar (t : CodePoint) : StandsFor (.char '_') [t]
  /-- One character stands for every other character that it is equal to up to case. -/
  | letter {point t : CodePoint} (hrun : point ≠ .char '%') (hchar : point ≠ .char '_')
      (hsame : point.sameUpToCase t = true) : StandsFor point [t]

/-- The pieces for a part are those that stand for its character. -/
theorem fits_ofPoint_iff {point : CodePoint} {piece : List CodePoint} :
    (Part.ofPoint point).Fits piece ↔ StandsFor point piece := by
  unfold Part.ofPoint
  split
  · rename_i hrun
    subst hrun
    exact iff_of_true trivial (.anyRun piece)
  · rename_i hrun
    split
    · rename_i hchar
      subst hchar
      constructor
      · rintro ⟨t, rfl⟩
        exact .anyChar t
      · rintro (_ | _ | ⟨-, hchar, -⟩)
        · exact ⟨_, rfl⟩
        · exact absurd rfl hchar
    · rename_i hchar
      constructor
      · rintro ⟨t, rfl, hsame⟩
        exact .letter hrun hchar hsame
      · rintro (_ | _ | ⟨-, -, hsame⟩)
        · exact absurd rfl hrun
        · exact absurd rfl hchar
        · exact ⟨_, rfl, hsame⟩

variable {part : Part} {parts : List Part} {text : List CodePoint}

theorem matches_nil_iff : Matches [] text ↔ text = [] := by
  constructor
  · rintro ⟨⟩
    rfl
  · rintro rfl
    exact .nil

theorem matches_cons_iff :
    Matches (part :: parts) text ↔
      ∃ piece rest, text = piece ++ rest ∧ part.Fits piece ∧ Matches parts rest := by
  constructor
  · rintro (_ | ⟨hpiece, hrest⟩)
    exact ⟨_, _, rfl, hpiece, hrest⟩
  · rintro ⟨piece, rest, rfl, hpiece, hrest⟩
    exact .cons hpiece hrest

/-- The pieces of a text that matches, all at once. -/
theorem matches_iff_pieces :
    Matches parts text ↔
      ∃ pieces : List (List CodePoint), pieces.flatten = text ∧
        List.Forall₂ Part.Fits parts pieces := by
  induction parts generalizing text with
  | nil =>
    rw [matches_nil_iff]
    constructor
    · rintro rfl
      exact ⟨[], rfl, .nil⟩
    · rintro ⟨_, rfl, ⟨⟩⟩
      rfl
  | cons part parts ih =>
    rw [matches_cons_iff]
    constructor
    · rintro ⟨piece, rest, rfl, hpiece, hrest⟩
      obtain ⟨pieces, rfl, hpieces⟩ := ih.1 hrest
      exact ⟨piece :: pieces, rfl, .cons hpiece hpieces⟩
    · rintro ⟨_, rfl, ⟨⟩⟩
      rename_i piece pieces hpiece hpieces
      exact ⟨piece, pieces.flatten, rfl, hpiece, ih.2 ⟨pieces, rfl, hpieces⟩⟩

/-- A text matches two patterns in a row if it splits into a text for each of them. -/
theorem matches_append_iff {others : List Part} :
    Matches (parts ++ others) text ↔
      ∃ front back, text = front ++ back ∧ Matches parts front ∧ Matches others back := by
  induction parts generalizing text with
  | nil =>
    constructor
    · intro h
      exact ⟨[], text, rfl, .nil, h⟩
    · rintro ⟨front, back, rfl, hfront, hback⟩
      rw [matches_nil_iff.1 hfront]
      exact hback
  | cons part parts ih =>
    rw [List.cons_append, matches_cons_iff]
    constructor
    · rintro ⟨piece, rest, rfl, hpiece, hrest⟩
      obtain ⟨front, back, rfl, hfront, hback⟩ := ih.1 hrest
      exact ⟨piece ++ front, back, (List.append_assoc ..).symm, .cons hpiece hfront, hback⟩
    · rintro ⟨front, back, rfl, hfront, hback⟩
      obtain ⟨piece, rest, rfl, hpiece, hrest⟩ := matches_cons_iff.1 hfront
      exact ⟨piece, rest ++ back, List.append_assoc .., hpiece, ih.2 ⟨rest, back, rfl, hrest, hback⟩⟩

/-! ### The first part -/

theorem matches_anyRun_nil : Matches (.anyRun :: parts) [] ↔ Matches parts [] := by
  rw [matches_cons_iff]
  constructor
  · rintro ⟨piece, rest, hsplit, -, hrest⟩
    rw [(List.nil_eq_append_iff.1 hsplit).2] at hrest
    exact hrest
  · intro h
    exact ⟨[], [], rfl, trivial, h⟩

/-- The run is empty, or it takes the first character. -/
theorem matches_anyRun_cons {t : CodePoint} :
    Matches (.anyRun :: parts) (t :: text) ↔
      Matches parts (t :: text) ∨ Matches (.anyRun :: parts) text := by
  constructor
  · intro h
    obtain ⟨piece, rest, hsplit, -, hrest⟩ := matches_cons_iff.1 h
    cases piece with
    | nil =>
      left
      rw [hsplit]
      exact hrest
    | cons _ piece =>
      right
      obtain ⟨rfl, rfl⟩ := List.cons.inj hsplit
      exact .cons trivial hrest
  · rintro (h | h)
    · exact matches_cons_iff.2 ⟨[], t :: text, rfl, trivial, h⟩
    · obtain ⟨piece, rest, rfl, -, hrest⟩ := matches_cons_iff.1 h
      exact matches_cons_iff.2 ⟨t :: piece, rest, rfl, trivial, hrest⟩

/-- A part takes one character, which it may restrict. -/
def Part.Takes (part : Part) (takes : CodePoint → Bool) : Prop :=
  ∀ piece, part.Fits piece ↔ ∃ t, piece = [t] ∧ takes t = true

theorem takes_anyChar : Part.anyChar.Takes fun _ => true := fun piece => by simp [Part.Fits]

theorem takes_letter (point : CodePoint) : (Part.letter point).Takes point.sameUpToCase :=
  fun _ => Iff.rfl

section

variable {takes : CodePoint → Bool} (h : part.Takes takes)
include h

theorem not_matches_takes_nil : ¬ Matches (part :: parts) [] := by
  rw [matches_cons_iff]
  rintro ⟨piece, rest, hsplit, hpiece, -⟩
  obtain ⟨t, rfl, -⟩ := (h piece).1 hpiece
  cases hsplit

theorem matches_takes_cons {t : CodePoint} :
    Matches (part :: parts) (t :: text) ↔ takes t = true ∧ Matches parts text := by
  rw [matches_cons_iff]
  constructor
  · rintro ⟨piece, rest, hsplit, hpiece, hrest⟩
    obtain ⟨_, rfl, htakes⟩ := (h piece).1 hpiece
    cases hsplit
    exact ⟨htakes, hrest⟩
  · rintro ⟨htakes, hrest⟩
    exact ⟨[t], text, rfl, (h [t]).2 ⟨t, rfl, htakes⟩, hrest⟩

end

/-! ### Rows of answers -/

/-- What a row of answers says: for every end piece of a text, longest first, whether it has a
property. -/
def Tells (row : List Bool) (text : List CodePoint) (holds : List CodePoint → Prop) : Prop :=
  List.Forall₂ (fun answer rest => answer = true ↔ holds rest) row text.tails

variable {row : List Bool} {holds : List CodePoint → Prop}

theorem tells_nil_iff :
    Tells row [] holds ↔ ∃ answer, row = [answer] ∧ (answer = true ↔ holds []) := by
  simp [Tells, List.forall₂_cons_right_iff, and_comm]

theorem tells_cons_iff {t : CodePoint} :
    Tells row (t :: text) holds ↔
      ∃ answer later, row = answer :: later ∧ (answer = true ↔ holds (t :: text)) ∧
        Tells later text holds := by
  rw [Tells, List.tails_cons, List.forall₂_cons_right_iff]
  constructor
  · rintro ⟨answer, later, hanswer, hlater, rfl⟩
    exact ⟨answer, later, rfl, hanswer, hlater⟩
  · rintro ⟨answer, later, rfl, hanswer, hlater⟩
    exact ⟨answer, later, hanswer, hlater, rfl⟩

/-- There is an answer for the text itself, and it comes first. -/
theorem Tells.exists_cons (h : Tells row text holds) :
    ∃ answer later, row = answer :: later ∧ (answer = true ↔ holds text) := by
  cases text with
  | nil =>
    obtain ⟨answer, rfl, hanswer⟩ := tells_nil_iff.1 h
    exact ⟨answer, [], rfl, hanswer⟩
  | cons t text =>
    obtain ⟨answer, later, rfl, hanswer, -⟩ := tells_cons_iff.1 h
    exact ⟨answer, later, rfl, hanswer⟩

theorem Tells.headD_iff (h : Tells row text holds) : row.headD false = true ↔ holds text := by
  obtain ⟨answer, later, rfl, hanswer⟩ := h.exists_cons
  exact hanswer

theorem Tells.length_eq (h : Tells row text holds) : row.length = text.length + 1 := by
  rw [List.Forall₂.length_eq h, List.length_tails]

/-- A run of any length: some later end piece is matched. -/
theorem tells_anyFrom (h : Tells row text (Matches parts)) :
    Tells (anyFrom row) text (Matches (.anyRun :: parts)) := by
  induction text generalizing row with
  | nil =>
    obtain ⟨answer, rfl, hanswer⟩ := tells_nil_iff.1 h
    exact tells_nil_iff.2 ⟨_, rfl, by simpa [anyFrom, matches_anyRun_nil] using hanswer⟩
  | cons t text ih =>
    obtain ⟨answer, later, rfl, hanswer, hlater⟩ := tells_cons_iff.1 h
    have hruns := ih hlater
    refine tells_cons_iff.2 ⟨_, _, rfl, ?_, hruns⟩
    rw [Bool.or_eq_true, hanswer, hruns.headD_iff, matches_anyRun_cons]

/-- One character: the answer for the end piece behind it counts, if the part takes it. -/
theorem tells_zipWith {takes : CodePoint → Bool} (hpart : part.Takes takes)
    (h : Tells row text (Matches parts)) :
    Tells (List.zipWith (fun t answer => takes t && answer) text (row.drop 1) ++ [false]) text
      (Matches (part :: parts)) := by
  induction text generalizing row with
  | nil =>
    refine tells_nil_iff.2 ⟨false, rfl, ?_⟩
    simpa using not_matches_takes_nil hpart
  | cons t text ih =>
    obtain ⟨first, later, rfl, -, hlater⟩ := tells_cons_iff.1 h
    have hrest := ih hlater
    obtain ⟨answer, later, rfl, hanswer⟩ := hlater.exists_cons
    refine tells_cons_iff.2 ⟨takes t && answer, _, rfl, ?_, hrest⟩
    rw [Bool.and_eq_true, hanswer, matches_takes_cons hpart]

/-- **One more part of the pattern**: if a row is right for a pattern, the next one is right for the
part in front of it. -/
theorem tells_extend (part : Part) (h : Tells row text (Matches parts)) :
    Tells (extend text part row) text (Matches (part :: parts)) := by
  cases part with
  | anyRun => exact tells_anyFrom h
  | anyChar =>
    -- no character is refused, so the answers behind the first one are taken as they are
    have htaken : List.zipWith (fun _ answer => true && answer) text (row.drop 1) =
        row.drop 1 := by
      have hlength : (row.drop 1).length ≤ text.length := by
        have := h.length_eq
        simp only [List.length_drop]
        omega
      calc List.zipWith (fun _ answer => true && answer) text (row.drop 1)
        _ = (text.zip (row.drop 1)).map Prod.snd := by simp [List.zip, List.map_zipWith]
        _ = row.drop 1 := List.map_snd_zip hlength
    have hone := tells_zipWith takes_anyChar h
    rw [htaken] at hone
    exact hone
  | letter point => exact tells_zipWith (takes_letter point) h

/-- **The whole pattern**: the answers are right for every end piece of the text. -/
theorem tells_rows (text : List CodePoint) (parts : List Part) :
    Tells (rows text parts) text (Matches parts) := by
  induction parts with
  | nil =>
    change Tells (text.map (fun _ => false) ++ [true]) text (Matches [])
    induction text with
    | nil => exact tells_nil_iff.2 ⟨true, rfl, iff_of_true rfl .nil⟩
    | cons t text ih =>
      refine tells_cons_iff.2 ⟨false, _, rfl, ?_, ih⟩
      simp [matches_nil_iff]
  | cons part parts ih => exact tells_extend part ih

/-! ### The decision -/

theorem accepts_iff_matches {pattern text : Text} :
    accepts pattern text = true ↔ Matches (pattern.points.map Part.ofPoint) text.points :=
  (tells_rows _ _).headD_iff

/-- Every text matches `%`. -/
theorem accepts_percent (text : Text) : accepts "%" text = true := by
  have hparts : ("%" : Text).points.map Part.ofPoint = [.anyRun] := by decide
  rw [accepts_iff_matches, hparts, matches_iff_pieces]
  exact ⟨[text.points], List.append_nil _, .cons trivial .nil⟩

/-- **The decision is exact.**  A text matches a pattern if it can be cut into pieces, one for each
character of the pattern, that stand for these characters.  So it matches two patterns in a row if
it splits into a text for each of them, and every text matches `%`. -/
theorem accepts_exact :
    (∀ pattern text : Text, accepts pattern text = true ↔
      ∃ pieces : List (List CodePoint), pieces.flatten = text.points ∧
        List.Forall₂ StandsFor pattern.points pieces) ∧
    (∀ front back text : Text, accepts (front ++ back) text = true ↔
      ∃ start rest : Text, text = start ++ rest ∧ accepts front start = true ∧
        accepts back rest = true) ∧
    ∀ text : Text, accepts "%" text = true := by
  refine ⟨fun pattern text => ?_, fun front back text => ?_, accepts_percent⟩
  · rw [accepts_iff_matches, matches_iff_pieces]
    simp only [List.forall₂_map_left_iff, fits_ofPoint_iff]
  · have hpoints : (front ++ back).points = front.points ++ back.points := rfl
    rw [accepts_iff_matches, hpoints, List.map_append, matches_append_iff]
    constructor
    · rintro ⟨start, rest, hsplit, hstart, hrest⟩
      exact ⟨⟨start⟩, ⟨rest⟩, congrArg Text.mk hsplit, accepts_iff_matches.2 hstart,
        accepts_iff_matches.2 hrest⟩
    · rintro ⟨start, rest, rfl, hstart, hrest⟩
      exact ⟨start.points, rest.points, rfl, accepts_iff_matches.1 hstart,
        accepts_iff_matches.1 hrest⟩

/-- A point is no wildcard, a low line is one, and letters match in either case. -/
example : accepts "j_n%" "JANE Roe" = true ∧ accepts "j.n%" "JANE Roe" = false := by decide

end Pattern

end Picklists

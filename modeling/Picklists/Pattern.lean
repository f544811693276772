import Picklists.Text
import Picklists.Text.Casing

/-!
# Search patterns

Patterns in which `%` stands for any run of characters and `_` for any one character; every other
character stands for itself in either case. There is no escape.

* `Pattern.Matches` : what it means that a text matches, piece by piece.
* `Pattern.accepts` : the decision. It goes through the pattern from right to left and keeps, for
  every end piece of the text, whether the rest of the pattern matches it; the time is the product
  of both lengths.
-/

namespace Picklists

namespace Pattern

/-- One part of a pattern. -/
inductive Part where
  /-- Any run of characters, the empty one included. -/
  | anyRun
  /-- Any one character. -/
  | anyChar
  /-- This character up to case. -/
  | letter (point : CodePoint)
deriving DecidableEq

/-- The part that a code point of a pattern stands for. -/
def Part.ofPoint (point : CodePoint) : Part :=
  if point = .char '%' then .anyRun else if point = .char '_' then .anyChar else .letter point

/-- Whether a text is a piece for a part. -/
def Part.Fits : Part → List CodePoint → Prop
  | .anyRun, _ => True
  | .anyChar, piece => ∃ t, piece = [t]
  | .letter point, piece => ∃ t, piece = [t] ∧ point.sameUpToCase t = true

/-- A text matches a pattern if it can be cut into one fitting piece for every part. -/
inductive Matches : List Part → List CodePoint → Prop where
  /-- The empty pattern has no pieces. -/
  | nil : Matches [] []
  /-- The first piece fits the first part, and what is left matches the rest of the pattern. -/
  | cons {part : Part} {parts : List Part} {piece rest : List CodePoint} :
      part.Fits piece → Matches parts rest → Matches (part :: parts) (piece ++ rest)

/-- Whether the entry or any later one is true, entry by entry. -/
def anyFrom : List Bool → List Bool
  | [] => []
  | b :: bs =>
    let later := anyFrom bs
    (b || later.headD false) :: later

/-- For every end piece of a text, longest first, whether a part followed by a pattern matches it,
given the same for the pattern alone. -/
def extend (text : List CodePoint) (part : Part) (row : List Bool) : List Bool :=
  match part with
  | .anyRun => anyFrom row
  | .anyChar => row.drop 1 ++ [false]
  | .letter point =>
    List.zipWith (fun t b => point.sameUpToCase t && b) text (row.drop 1) ++ [false]

/-- Whether each end piece of a text, longest first, is matched by a pattern. -/
def rows (text : List CodePoint) (parts : List Part) : List Bool :=
  parts.foldr (extend text) (text.map (fun _ => false) ++ [true])

/-- Whether a text matches the pattern that another text writes. -/
def accepts (pattern text : Text) : Bool :=
  (rows text.points (pattern.points.map Part.ofPoint)).headD false

end Pattern

end Picklists

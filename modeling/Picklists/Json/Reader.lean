import Picklists.Json.Token
import Picklists.Order

/-!
# Reading JSON

A reader for JSON texts. Of fields with one name the last counts.

* `Mode` and `State` : what may come next, and the containers that are still open.
* `Json.read` : the whole reader. It takes the tokens in order, so the first fault of a text is the
  one reported; a numeral that is too long and containers that are nested too deep are told apart
  from text that is no JSON.
-/

namespace Picklists

/-- What holds other values. -/
inductive Container where
  /-- An array. -/
  | array
  /-- An object. -/
  | object
deriving DecidableEq

/-- Why a text is not read as JSON. -/
inductive ReadFault where
  /-- The text is not JSON. -/
  | malformed
  /-- An integer has this many digits, more than `Numeral.maxDigits`. -/
  | longInteger (digits : Nat)
  /-- A container of this kind begins where `Json.maxDepth` others are open. -/
  | tooDeep (container : Container)
deriving DecidableEq

namespace Json

/-! ### Containers -/

/-- A container that waits for the value after the last separator. Contents are kept last
first. -/
inductive Open where
  /-- An array with the items so far. -/
  | array (done : List Json)
  /-- An object with the fields so far and the name of the next one. -/
  | member (done : List (Text × Json)) (name : Text)

/-- What may come next. -/
inductive Mode where
  /-- A value. -/
  | value
  /-- A value or the end of the array just opened. -/
  | arrayStart
  /-- A comma or the end of an array with these items. -/
  | arrayNext (done : List Json)
  /-- A name or the end of the object just opened. -/
  | objectStart
  /-- A name, after these fields. -/
  | name (done : List (Text × Json))
  /-- A colon, after these fields and this name. -/
  | colon (done : List (Text × Json)) (name : Text)
  /-- A comma or the end of an object with these fields. -/
  | objectNext (done : List (Text × Json))
  /-- Nothing: the document is complete. -/
  | finished (document : Json)

/-- The state of the reader between two tokens. -/
structure State where
  /-- The containers around, innermost first. -/
  stack : List Open
  /-- What may come next. -/
  mode : Mode

/-- Hands a complete value to the container around it. -/
def place (value : Json) : List Open → State
  | [] => ⟨[], .finished value⟩
  | .array done :: stack => ⟨stack, .arrayNext (value :: done)⟩
  | .member done name :: stack => ⟨stack, .objectNext ((name, value) :: done)⟩

/-- How many containers may be open at a time: the reader calls itself once for each, at most 1000
calls may be under way at a time, and ten are under way where a document is read. -/
def maxDepth : Nat := 990

/-- Opens a container inside others. -/
def enter (container : Container) (stack : List Open) : Except ReadFault State :=
  if maxDepth ≤ stack.length then .error (.tooDeep container)
  else match container with
    | .array => .ok ⟨stack, .arrayStart⟩
    | .object => .ok ⟨stack, .objectStart⟩

/-- Takes a token where a value is due. -/
def takeValue (stack : List Open) : Token → Except ReadFault State
  | .mark '[' => enter .array stack
  | .mark '{' => enter .object stack
  | .mark _ => .error .malformed
  | .text value => .ok (place (.text value) stack)
  | .scalar value => .ok (place value stack)
  | .integer negative digits =>
    if Numeral.maxDigits < digits.length then .error (.longInteger digits.length)
    else .ok (place (.int (Numeral.signed negative (Numeral.ofDigits digits))) stack)

/-- Takes one token. -/
def State.take (state : State) (token : Token) : Except ReadFault State :=
  match state.mode, token with
  | .value, token => takeValue state.stack token
  | .arrayStart, .mark ']' => .ok (place (.array []) state.stack)
  | .arrayStart, token => takeValue (.array [] :: state.stack) token
  | .arrayNext done, .mark ',' => .ok ⟨.array done :: state.stack, .value⟩
  | .arrayNext done, .mark ']' => .ok (place (.array done.reverse) state.stack)
  | .objectStart, .mark '}' => .ok (place (.object []) state.stack)
  | .objectStart, .text name => .ok ⟨state.stack, .colon [] name⟩
  | .name done, .text name => .ok ⟨state.stack, .colon done name⟩
  | .colon done name, .mark ':' => .ok ⟨.member done name :: state.stack, .value⟩
  | .objectNext done, .mark ',' => .ok ⟨state.stack, .name done⟩
  | .objectNext done, .mark '}' =>
    .ok (place (.object (lastWins done.reverse)) state.stack)
  | _, _ => .error .malformed

/-- Takes all tokens of a text. -/
def readFrom (state : State) (cs : List Char) : Except ReadFault Json :=
  match _h : cs.dropWhile isGap with
  | [] =>
    match state.mode with
    | .finished document => .ok document
    | _ => .error .malformed
  | c :: rest =>
    match _h' : nextToken? (c :: rest) with
    | none => .error .malformed
    | some (token, after) =>
      match state.take token with
      | .error fault => .error fault
      | .ok next => readFrom next after
termination_by cs.length
decreasing_by
  have := nextToken?_length _h'
  have := (List.dropWhile_sublist (p := isGap) (l := cs)).length_le
  simp only [_h] at this
  omega

/-- Reading takes one token after the other. -/
theorem readFrom_of_token {state next : State} {cs after : List Char} {token : Token}
    (htoken : nextToken? (cs.dropWhile isGap) = some (token, after))
    (hnext : state.take token = .ok next) : readFrom state cs = readFrom next after := by
  rw [readFrom]
  split
  · rename_i hend
    rw [hend] at htoken
    cases htoken
  · rename_i hcs
    rw [hcs] at htoken
    split
    · rename_i hnone
      cases hnone.symm.trans htoken
    · rename_i hsome
      cases hsome.symm.trans htoken
      simp only [hnext]

/-- Reading ends where only gaps are left. -/
theorem readFrom_of_end {state : State} {cs : List Char} {document : Json}
    (hend : cs.dropWhile isGap = []) (hdone : state.mode = .finished document) :
    readFrom state cs = .ok document := by
  rw [readFrom]
  split
  · simp only [hdone]
  · rename_i hcs
    cases hend.symm.trans hcs

/-- The document that a text holds. -/
def read (text : String) : Except ReadFault Json := readFrom ⟨[], .value⟩ text.toList

end Json

end Picklists

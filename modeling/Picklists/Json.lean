import Picklists.Number.Shortest
import Picklists.Number.Written
import Picklists.Text.Quoted

/-!
# JSON values

JSON documents with integers and double precision numbers kept apart, and what the listings ask of
a document whose shape nobody promises.

* `Json.get?` : a field of an object; `Json.fieldOr` and `Json.presentOr` : a field with a stand-in.
* `Json.truthy` : whether a value counts as present; empty and zero values do not.
* `Json.items?` : what a value that should be an array is gone through by.
* `Json.asText?` : the text of a value, in which a text stands for itself. A value that holds an
  integer that is too long to be written has none.
* `Json.render` : the compact written form.
-/

namespace Picklists

/-- A JSON value. The fields of an object keep their order. -/
inductive Json where
  /-- The value without content. -/
  | null
  /-- A truth value. -/
  | bool (value : Bool)
  /-- A number written without fraction and exponent. -/
  | int (value : Int)
  /-- A number written with a fraction or an exponent, or one that is not finite. -/
  | real (value : Binary64)
  /-- A text. -/
  | text (value : Text)
  /-- A sequence of values. -/
  | array (items : List Json)
  /-- A sequence of named values. -/
  | object (fields : List (Text × Json))
deriving Inhabited

namespace Json

/-- The object with some fields. -/
def ofFields (fields : List (String × Json)) : Json :=
  .object (fields.map fun (name, value) => (.ofString name, value))

/-- The value of a field in a list of fields. -/
def field? (fields : List (Text × Json)) (name : String) : Option Json :=
  let name := Text.ofString name
  (fields.find? (·.1 == name)).map (·.2)

/-- The value of a field of an object; other values have no fields. -/
def get? (value : Json) (name : String) : Option Json :=
  match value with
  | .object fields => field? fields name
  | _ => none

/-- The value of a field in a list of fields, or a stand-in where it is absent. -/
def fieldOr (fields : List (Text × Json)) (name : String) (absent : Json) : Json :=
  (field? fields name).getD absent

/-- Whether a value counts as present: null, false, the zeros, and what is empty do not. -/
def truthy : Json → Bool
  | .null => false
  | .bool value => value
  | .int value => value != 0
  | .real value => !value.isZero
  | .text value => !value.isEmpty
  | .array items => !items.isEmpty
  | .object fields => !fields.isEmpty

/-- The value of a field that counts as present, or else a stand-in. -/
def presentOr (fields : List (Text × Json)) (name : String) (otherwise : Json) : Json :=
  match field? fields name with
  | some value => if value.truthy then value else otherwise
  | none => otherwise

/-- What a value is gone through by: an array by its items, a text by its code points, an object by
its names. Other values cannot be gone through. -/
def items? : Json → Option (List Json)
  | .array items => some items
  | .text value => some (value.points.map fun point => .text ⟨[point]⟩)
  | .object fields => some (fields.map fun field => .text field.1)
  | _ => none

/-! ### Text inside messages -/

mutual

/-- A value as it is shown inside another value: texts are quoted. -/
def shown? : Json → Option String
  | .null => some "None"
  | .bool true => some "True"
  | .bool false => some "False"
  | .int value => Numeral.write? value
  | .real value => some value.text
  | .text value => some (Text.quote value)
  | .array items => do
    let items ← shownItems? items
    return "[" ++ ", ".intercalate items ++ "]"
  | .object fields => do
    let fields ← shownFields? fields
    return "\x7b" ++ ", ".intercalate fields ++ "\x7d"

/-- The items of an array, each as it is shown. -/
def shownItems? : List Json → Option (List String)
  | [] => some []
  | item :: items => do
    let item ← item.shown?
    let items ← shownItems? items
    return item :: items

/-- The fields of an object, each with its name as they are shown. -/
def shownFields? : List (Text × Json) → Option (List String)
  | [] => some []
  | (name, value) :: fields => do
    let value ← value.shown?
    let fields ← shownFields? fields
    return (Text.quote name ++ ": " ++ value) :: fields

end

/-- The text of a value: a text is its own, any other value is as it is shown. -/
def asText? : Json → Option Text
  | .text value => some value
  | value => value.shown?.map .ofString

/-! ### Written form -/

/-- A character inside a written text. Controls, the two line separators and the byte order mark
are written by their code points. -/
def writtenChar (c : Char) : List Char :=
  if c = '"' ∨ c = '\\' then ['\\', c]
  else if c.toNat < 0x20 ∨ (0x7F ≤ c.toNat ∧ c.toNat ≤ 0x9F) ∨ c.toNat = 0x2028 ∨
      c.toNat = 0x2029 ∨ c.toNat = 0xFEFF then
    '\\' :: 'u' :: Text.hex 4 c.toNat
  else [c]

/-- A code point inside a written text. -/
def writtenPoint : CodePoint → List Char
  | .char c => writtenChar c
  | .half index => '\\' :: 'u' :: Text.hex 4 (CodePoint.half index).code

/-- A text as it is written. -/
def writtenText (text : Text) : String :=
  String.ofList ('"' :: (text.points.flatMap writtenPoint ++ ['"']))

mutual

/-- The compact written form of a value. -/
def render : Json → String
  | .null => "null"
  | .bool true => "true"
  | .bool false => "false"
  | .int value => toString value
  | .real value =>
    if value.isNaN then "NaN"
    else if value.isFinite then value.text
    else if value.isNegative then "-Infinity" else "Infinity"
  | .text value => writtenText value
  | .array items => "[" ++ ",".intercalate (renderItems items) ++ "]"
  | .object fields => "\x7b" ++ ",".intercalate (renderFields fields) ++ "\x7d"

/-- The written forms of the items of an array. -/
def renderItems : List Json → List String
  | [] => []
  | item :: items => item.render :: renderItems items

/-- The written forms of the fields of an object. -/
def renderFields : List (Text × Json) → List String
  | [] => []
  | (name, value) :: fields => (writtenText name ++ ":" ++ value.render) :: renderFields fields

end

end Json

end Picklists

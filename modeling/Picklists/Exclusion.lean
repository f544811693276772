import Picklists.Order
import Picklists.Text.Blank
import Picklists.Validation.Scalar

/-!
# Excluded user providers

A set of provider tags whose users stay out of the listings, and the text form in which such a set
is configured: tags separated by commas, with white space around them.

* `Exclusion` : the set, as its strictly ascending list of tags, so that equal sets are equal
  values.
* `Exclusion.parse` and `Exclusion.text` : the text form.
* `Exclusion.excludes` : whether users of a provider are hidden; the tag `*` hides everyone
  (`Exclusion.excludesAll`).
-/

namespace Picklists

/-- A set of provider tags. -/
structure Exclusion where
  /-- The tags in ascending order. -/
  tags : List Text
  /-- No tag stands twice, and each is greater than the one before. -/
  ascending : tags.Pairwise (· < ·)
deriving DecidableEq

namespace Exclusion

/-- The set of the tags in a list. -/
def ofTags (tags : List Text) : Exclusion :=
  ⟨Picklists.ascending tags, pairwise_ascending tags⟩

/-- The set without tags. -/
def empty : Exclusion := ⟨[], by simp⟩

/-- The parts of a text between commas. -/
def pieces : List CodePoint → List (List CodePoint)
  | [] => [[]]
  | point :: points =>
    if point = .char ',' then [] :: pieces points
    else match pieces points with
      | [] => [[point]]
      | piece :: rest => (point :: piece) :: rest

/-- The tags in a text: its trimmed parts, without the blank ones. -/
def parseTags (text : Text) : List Text :=
  (((pieces text.points).map (Text.trim CodePoint.isBlank)).filter (!·.isEmpty)).map Text.mk

/-- The set that a text describes. -/
def parse (text : Text) : Exclusion := ofTags (parseTags text)

/-- The set that a configuration value describes: any value but null counts by its text, if it has
one. -/
def ofValue? : Json → Option Exclusion
  | .null => some empty
  | value => value.asText?.map parse

/-- The text of a set: its tags in ascending order. -/
def text (excluded : Exclusion) : Text := .join "," excluded.tags

/-- The tag that stands for all users. -/
def allTag : Text := "*"

/-- Whether all users are hidden. -/
def excludesAll (excluded : Exclusion) : Bool := excluded.tags.contains allTag

/-- Whether users of a provider are hidden. Users without a provider are not. -/
def excludes (excluded : Exclusion) (provider : Option Text) : Bool :=
  match provider with
  | some tag => excluded.tags.contains tag
  | none => false

/-- The set that an object describes. -/
def decode : Decoder Exclusion :=
  .record "ExcludedUserProviders" fun given =>
    ofTags <$> .optional "providers" [] (.listOf .notSet .text) given

end Exclusion

end Picklists

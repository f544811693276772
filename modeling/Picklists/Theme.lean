import Picklists.Validation.Scalar

/-!
# Themes

Themes as the search index stores them, and pages of them in the order of the index.
-/

namespace Picklists

/-- A theme. -/
structure Theme where
  /-- The number of the theme. -/
  identifier : Int
  /-- The name. -/
  name : Text
  /-- The description. -/
  description : Option Text
  /-- The organization the theme belongs to. -/
  organization : Option Text
  /-- Who made the theme. -/
  creator : Option Text
  /-- Whether the organization uses this theme unless told otherwise. -/
  isDefault : Bool
deriving DecidableEq

/-- The theme that an object describes. -/
def Theme.decode : Decoder Theme :=
  .record "Theme" fun given =>
    Theme.mk <$> .required "identifier" .integer given
      <*> .required "name" .text given
      <*> .optional "description" none (.nullable .text) given
      <*> .optional "organization" none (.nullable .text) given
      <*> .optional "creator" none (.nullable .text) given
      <*> .optional "default" false .truth given

/-- A theme with the relevance the index gives it. -/
structure ThemeHit where
  /-- The theme. -/
  theme : Theme
  /-- The relevance. -/
  score : Binary64
deriving DecidableEq

/-- The hit that an object describes. -/
def ThemeHit.decode : Decoder ThemeHit :=
  .record "SearchResultItem[Theme]" fun given =>
    ThemeHit.mk <$> .required "source" Theme.decode given
      <*> .optional "score" .zero .number given

/-- A page of hits in the order of the index. -/
structure ThemePage where
  /-- The hits. -/
  hits : List ThemeHit
  /-- How many themes there are in all. -/
  hitCount : Int
  /-- How many themes were skipped. -/
  offset : Int
  /-- How many hits were asked for. -/
  limit : Int
deriving DecidableEq

/-- The page that an object describes. -/
def ThemePage.decode : Decoder ThemePage :=
  .record "SearchResult[Theme]" fun given =>
    ThemePage.mk <$> .optional "items" [] (.listOf .notList ThemeHit.decode) given
      <*> .optional "hit_count" 0 .integer given
      <*> .optional "offset" 0 .integer given
      <*> .optional "limit" 0 .integer given

end Picklists

import Picklists.Proofs.Checked
import Picklists.Proofs.Misfits
import Picklists.Proofs.PageReading
import Picklists.Proofs.Values

/-!
# Documents of hits

What an element of a page of themes has to look like, told by the shapes of its parts.

* `Theme.Describes` : a hit with a document describes a theme; `ThemeHit.Source` : the document of a
  hit, and `ThemeHit.Relevance` : its relevance.
* `ThemeHit.Describes` : an element of a page and the hit that it describes.  **It describes one
  exactly if it is read as one** (`readHit_eq_ok_iff`).
* `MisfitsHit` : what goes wrong with an element whose parts do not fit (`readHit_of_misfits`).  One
  whose document is no theme is unreadable instead (`readHit_of_no_theme`).
-/

namespace Picklists

variable {hit source : Fields}

/-! ### Fields -/

/-- A field is missing, or its value does not count as present. -/
def Absent (given : Fields) (name : String) : Prop :=
  ∀ value, Json.field? given name = some value → value.truthy = false

/-- A value that counts as present stands for itself, and a stand-in for all others. -/
theorem presentOr_eq_iff {given : Fields} {name : String} {otherwise value : Json} :
    Json.presentOr given name otherwise = value ↔
      (Json.field? given name = some value ∧ value.truthy = true) ∨
        (Absent given name ∧ otherwise = value) := by
  rw [Json.presentOr, Absent]
  cases Json.field? given name with
  | none => simp
  | some present =>
    cases htruthy : present.truthy with
    | false =>
      simp only [Bool.false_eq_true, if_false, Option.some.injEq, forall_eq', htruthy, true_and]
      refine ⟨Or.inr, Or.rec ?_ id⟩
      rintro ⟨rfl, h⟩
      cases htruthy.symm.trans h
    | true =>
      simp only [if_true, Option.some.injEq, forall_eq', htruthy, Bool.true_eq_false, false_and,
        or_false]
      exact ⟨fun h => ⟨h, h ▸ htruthy⟩, And.left⟩

/-- A field that holds something other than null. -/
theorem fieldOr_null_eq_iff {given : Fields} {name : String} {value : Json} (h : value ≠ .null) :
    Json.fieldOr given name .null = value ↔ Json.field? given name = some value := by
  rw [Json.fieldOr]
  cases Json.field? given name with
  | none => simpa using h.symm
  | some present => simp

/-! ### Themes -/

/-- The identifier that is given with a document: in the document, by one of two names, or else in
the hit.  What is there counts, even if it is null. -/
def givenIdentifier? (hit source : Fields) : Option Json :=
  (Json.field? source "identifier").or
    ((Json.field? source "id").or (Json.field? hit "_id"))

/-- A hit with a document describes a theme. -/
structure Theme.Describes (hit source : Fields) (theme : Theme) : Prop where
  /-- The identifier that is given gives an integer. -/
  identifier : ∃ given, givenIdentifier? hit source = some given ∧
    GivesInteger given theme.identifier
  /-- There is a name, and it is a text. -/
  name : Json.field? source "name" = some (.text theme.name)
  /-- The description is a text, or there is none. -/
  description : OptionalText source "description" theme.description
  /-- The organization is a text, or there is none. -/
  organization : OptionalText source "organization" theme.organization
  /-- The creator is a text, or there is none. -/
  creator : OptionalText source "creator" theme.creator
  /-- Anything that counts as present makes it the default. -/
  isDefault : theme.isDefault = true ↔ ¬ Absent source "default"

/-- An object passes for a theme if its fields do. -/
theorem Theme.decode_object_eq_valid_iff {given : Fields} {theme : Theme} :
    Theme.decode (.object given) = .valid theme ↔
      Checked.required "identifier" .integer given = .valid theme.identifier ∧
      Checked.required "name" .text given = .valid theme.name ∧
      Checked.optional "description" none (.nullable .text) given = .valid theme.description ∧
      Checked.optional "organization" none (.nullable .text) given = .valid theme.organization ∧
      Checked.optional "creator" none (.nullable .text) given = .valid theme.creator ∧
      Checked.optional "default" false .truth given = .valid theme.isDefault := by
  rw [decode, Decoder.record]
  constructor
  · -- the checks are combined from the left, so that of the last field comes off first
    intro h
    obtain ⟨_, _, h₅, hdefault, rfl⟩ := Checked.seq_eq_valid_iff.1 h
    obtain ⟨_, _, h₄, hcreator, rfl⟩ := Checked.seq_eq_valid_iff.1 h₅
    obtain ⟨_, _, h₃, horganization, rfl⟩ := Checked.seq_eq_valid_iff.1 h₄
    obtain ⟨_, _, h₂, hdescription, rfl⟩ := Checked.seq_eq_valid_iff.1 h₃
    obtain ⟨_, _, h₁, hname, rfl⟩ := Checked.seq_eq_valid_iff.1 h₂
    obtain ⟨_, hidentifier, rfl⟩ := Checked.map_eq_valid_iff.1 h₁
    exact ⟨hidentifier, hname, hdescription, horganization, hcreator, hdefault⟩
  · rintro ⟨hidentifier, hname, hdescription, horganization, hcreator, hdefault⟩
    rw [hidentifier, hname, hdescription, horganization, hcreator, hdefault]
    rfl

/-- What is taken out of a document passes for a theme if its parts do. -/
theorem Theme.decode_ofFields_eq_valid_iff
    {identifier name description organization creator : Json} {isDefault : Bool} {theme : Theme} :
    Theme.decode (.ofFields [("identifier", identifier), ("name", name),
        ("description", description), ("organization", organization), ("creator", creator),
        ("default", .bool isDefault)]) = .valid theme ↔
      Decoder.integer identifier = .valid theme.identifier ∧
      Decoder.text name = .valid theme.name ∧
      Decoder.nullable .text description = .valid theme.description ∧
      Decoder.nullable .text organization = .valid theme.organization ∧
      Decoder.nullable .text creator = .valid theme.creator ∧ theme.isDefault = isDefault := by
  rw [Json.ofFields, decode_object_eq_valid_iff, Checked.required_of_field identifier rfl,
    Checked.required_of_field name rfl, Checked.optional_of_field description rfl,
    Checked.optional_of_field organization rfl, Checked.optional_of_field creator rfl,
    Checked.optional_of_field (.bool isDefault) rfl, Decoder.truth, Checked.valid.injEq,
    @eq_comm _ isDefault]

theorem GivesInteger.ne_null {value : Json} {n : Int} (h : GivesInteger value n) :
    value ≠ .null := by
  cases h <;> exact Json.noConfusion

/-- An integer is given exactly if there is one where null stands for nothing. -/
theorem exists_givesInteger_iff {given : Option Json} {n : Int} :
    (∃ value, given = some value ∧ GivesInteger value n) ↔
      GivesInteger (given.getD .null) n := by
  cases given with
  | none => simpa using fun h => GivesInteger.ne_null h rfl
  | some value => simp

theorem getD_givenIdentifier? (hit source : Fields) :
    (givenIdentifier? hit source).getD .null =
      Json.fieldOr source "identifier"
        (Json.fieldOr source "id" (Json.fieldOr hit "_id" .null)) := by
  simp only [givenIdentifier?, Json.fieldOr, Option.getD_or]

/-- A field counts as present if it holds a value that does. -/
theorem truthy_fieldOr_iff {given : Fields} {name : String} :
    (Json.fieldOr given name .null).truthy = true ↔ ¬ Absent given name := by
  rw [Json.fieldOr, Absent]
  cases Json.field? given name with
  | none => simp [Json.truthy]
  | some value => simp

/-- A theme is described exactly if what is taken out of the document passes the checks. -/
theorem Theme.describes_iff {theme : Theme} :
    Describes hit source theme ↔
      decode (.ofFields
        [("identifier", Json.fieldOr source "identifier"
          (Json.fieldOr source "id" (Json.fieldOr hit "_id" .null))),
        ("name", Json.fieldOr source "name" .null),
        ("description", Json.fieldOr source "description" .null),
        ("organization", Json.fieldOr source "organization" .null),
        ("creator", Json.fieldOr source "creator" .null),
        ("default", .bool (Json.fieldOr source "default" .null).truthy)]) = .valid theme := by
  rw [decode_ofFields_eq_valid_iff, ← getD_givenIdentifier?, Decoder.integer_eq_valid_iff,
    ← exists_givesInteger_iff, Decoder.text_eq_valid_iff, fieldOr_null_eq_iff Json.noConfusion,
    Decoder.nullable_text_eq_valid_iff, Decoder.nullable_text_eq_valid_iff,
    Decoder.nullable_text_eq_valid_iff, Bool.eq_iff_iff, truthy_fieldOr_iff]
  constructor
  · rintro ⟨hidentifier, hname, hdescription, horganization, hcreator, hdefault⟩
    exact ⟨hidentifier, hname, hdescription, horganization, hcreator, hdefault⟩
  · rintro ⟨hidentifier, hname, hdescription, horganization, hcreator, hdefault⟩
    exact ⟨hidentifier, hname, hdescription, horganization, hcreator, hdefault⟩

/-- A described theme has an identifier and a name. -/
theorem Theme.Describes.ne_null {theme : Theme} (h : Theme.Describes hit source theme) :
    Json.fieldOr source "identifier" (Json.fieldOr source "id" (Json.fieldOr hit "_id" .null)) ≠
      .null ∧ Json.fieldOr source "name" .null ≠ .null := by
  rw [← getD_givenIdentifier?, (fieldOr_null_eq_iff Json.noConfusion).2 h.name]
  exact ⟨(exists_givesInteger_iff.1 h.identifier).ne_null, Json.noConfusion⟩

/-! ### Hits -/

/-- The document of a hit: an object, or nothing that counts as present, which is as good as an
empty one. -/
inductive ThemeHit.Source (hit : Fields) : Fields → Prop where
  /-- It is an object. -/
  | object {source : Fields} (h : Json.field? hit "_source" = some (.object source)) :
      Source hit source
  /-- There is none. -/
  | absent (h : Absent hit "_source") : Source hit []

theorem ThemeHit.source_iff :
    Source hit source ↔ Json.presentOr hit "_source" (.object []) = .object source := by
  constructor
  · intro h
    cases h with
    | object h => exact presentOr_of_object h
    | absent h => exact presentOr_eq_iff.2 (Or.inr ⟨h, rfl⟩)
  · intro h
    rcases presentOr_eq_iff.1 h with ⟨hobject, -⟩ | ⟨habsent, heq⟩
    · exact .object hobject
    · cases heq
      exact .absent habsent

/-- The document of a hit has a property that all values of the hit have. -/
theorem ThemeHit.Source.all {p : Json → Prop} (h : Source hit source)
    (hhit : (Json.object hit).All p) (hempty : p (.object [])) : (Json.object source).All p := by
  cases h with
  | object h => exact hhit.of_field? h
  | absent h => exact ⟨hempty, trivial⟩

/-- The relevance of a hit: a number, or nothing that counts as present, which is as good as
zero. -/
inductive ThemeHit.Relevance (hit : Fields) : Binary64 → Prop where
  /-- It is given. -/
  | given {value : Json} {score : Binary64} (h : Json.field? hit "_score" = some value)
      (htruthy : value.truthy = true) (hscore : GivesNumber value score) : Relevance hit score
  /-- There is none. -/
  | absent (h : Absent hit "_score") : Relevance hit .zero

theorem ThemeHit.relevance_iff {score : Binary64} :
    Relevance hit score ↔
      Decoder.number (Json.presentOr hit "_score" (.real .zero)) = .valid score := by
  rw [Decoder.number_eq_valid_iff]
  constructor
  · intro h
    cases h with
    | given h htruthy hscore =>
      rw [presentOr_eq_iff.2 (Or.inl ⟨h, htruthy⟩)]
      exact hscore
    | absent h =>
      rw [presentOr_eq_iff.2 (Or.inr ⟨h, rfl⟩)]
      exact .real _
  · intro h
    rcases presentOr_eq_iff.1 (Eq.refl (Json.presentOr hit "_score" (.real .zero))) with
      ⟨hgiven, htruthy⟩ | ⟨habsent, heq⟩
    · exact .given hgiven htruthy h
    · rw [← heq] at h
      cases h
      exact .absent habsent

/-- An element of a page describes a hit. -/
inductive ThemeHit.Describes : Json → ThemeHit → Prop where
  /-- It is an object with a document of a theme and with a relevance. -/
  | mk {hit source : Fields} {theme : Theme} {score : Binary64} (hsource : Source hit source)
      (htheme : Theme.Describes hit source theme) (hscore : Relevance hit score) :
      Describes (.object hit) ⟨theme, score⟩

theorem ThemeHit.Describes.exists_source {read : ThemeHit} (h : Describes (.object hit) read) :
    ∃ source, Source hit source ∧ Theme.Describes hit source read.theme := by
  cases h with
  | mk hsource htheme => exact ⟨_, hsource, htheme⟩

/-- A document is read as the theme that it describes. -/
theorem readTheme_eq_ok_iff {theme : Theme} :
    readTheme hit = .ok theme ↔
      ∃ source, ThemeHit.Source hit source ∧ Theme.Describes hit source theme := by
  simp only [ThemeHit.source_iff]
  rw [readTheme]
  split
  · rename_i source hsource
    simp only [hsource, Json.object.injEq, exists_eq_left']
    split
    · rename_i hidentifier
      exact iff_of_false nofun fun h => h.ne_null.1 hidentifier
    · rename_i hname _
      exact iff_of_false nofun fun h => h.ne_null.2 hname
    · rw [Theme.describes_iff]
      split
      · rename_i h
        rw [h, Except.ok.injEq, Checked.valid.injEq]
      · rename_i h
        rw [h]
        split <;> exact iff_of_false nofun nofun
  · rename_i hother
    exact iff_of_false nofun fun ⟨source, hsource, _⟩ => hother source hsource

/-- **An element of a page is read as the hit that it describes**, and not at all if it describes
none. -/
theorem readHit_eq_ok_iff {element : Json} {read : ThemeHit} :
    readHit element = .ok read ↔ ThemeHit.Describes element read := by
  constructor
  · intro h
    cases element with
    | object hit =>
      obtain ⟨theme, htheme, hrest⟩ := bind_eq_ok_iff.1 h
      obtain ⟨source, hsource, hdescribes⟩ := readTheme_eq_ok_iff.1 htheme
      split at hrest
      · rename_i score hscore
        cases hrest
        have hnumber := (Checked.within_eq_valid_iff _).1 hscore
        exact .mk hsource hdescribes (ThemeHit.relevance_iff.2 hnumber)
      · cases hrest
    | _ => cases h
  · rintro ⟨hsource, htheme, hscore⟩
    refine bind_eq_ok_iff.2 ⟨_, readTheme_eq_ok_iff.2 ⟨_, hsource, htheme⟩, ?_⟩
    rw [(Checked.within_eq_valid_iff _).2 (ThemeHit.relevance_iff.1 hscore)]
    rfl

/-! ### Misfits -/

/-- Something goes wrong with an element of a page. -/
inductive MisfitsHit : Json → MisfitKind → Prop where
  /-- It is not an object. -/
  | element {element : Json} (h : ∀ hit, element ≠ .object hit) : MisfitsHit element .attribute
  /-- Its document counts as present and is not an object. -/
  | source {hit : Fields} {value : Json} (h : Json.field? hit "_source" = some value)
      (htruthy : value.truthy = true) (hvalue : ∀ source, value ≠ .object source) :
      MisfitsHit (.object hit) .attribute
  /-- Its relevance counts as present and gives no number. -/
  | score {hit source : Fields} {theme : Theme} {value : Json}
      (hsource : ThemeHit.Source hit source) (htheme : Theme.Describes hit source theme)
      (h : Json.field? hit "_score" = some value) (htruthy : value.truthy = true)
      (hvalue : ∀ score, ¬ GivesNumber value score) : MisfitsHit (.object hit) .value

/-- What goes wrong with an element comes up where it is read. -/
theorem readHit_of_misfits {element : Json} {kind : MisfitKind} (h : MisfitsHit element kind) :
    ∃ cause, readHit element = .error (.misfit cause none) ∧ cause.kind = kind := by
  cases h with
  | element h =>
    cases element with
    | object hit => exact absurd rfl (h hit)
    | _ => exact ⟨.noFields, rfl, rfl⟩
  | @source hit value h htruthy hvalue =>
    have hpresent : Json.presentOr hit "_source" (.object []) = value :=
      presentOr_eq_iff.2 (Or.inl ⟨h, htruthy⟩)
    have htheme : readTheme hit = .error (.misfit .noFields none) := by
      rw [readTheme, hpresent]
      cases value with
      | object source => exact absurd rfl (hvalue source)
      | _ => rfl
    refine ⟨.noFields, ?_, rfl⟩
    rw [readHit, htheme]
    rfl
  | @score hit source theme value hsource htheme h htruthy hvalue =>
    have hpresent : Json.presentOr hit "_score" (.real .zero) = value :=
      presentOr_eq_iff.2 (Or.inl ⟨h, htruthy⟩)
    rw [readHit, readTheme_eq_ok_iff.2 ⟨_, hsource, htheme⟩, hpresent]
    simp only [bind, Except.bind]
    split
    · rename_i score hscore
      have hnumber := (Checked.within_eq_valid_iff _).1 hscore
      exact absurd (Decoder.number_eq_valid_iff.1 hnumber) (hvalue score)
    · exact ⟨.refused _, rfl, rfl⟩

/-- A document that describes no theme is unreadable, as long as its integers can be written. -/
theorem readHit_of_no_theme (hwritable : (Json.object hit).Writable)
    (hsource : ThemeHit.Source hit source) (hnone : ∀ theme, ¬ Theme.Describes hit source theme) :
    ∃ document refusal, readHit (.object hit) = .error (.unreadable document refusal) := by
  have hid : (Json.fieldOr hit "_id" .null).Writable := hwritable.fieldOr trivial
  have hofHit (refusal : Option (Text × List Fault)) :
      ∃ document, PageFault.ofHit hit refusal = .unreadable document refusal := by
    obtain ⟨document, hdocument⟩ := Json.exists_asText?_of_writable hid
    exact ⟨document, by rw [PageFault.ofHit, hdocument]⟩
  have htheme : ∃ document refusal, readTheme hit = .error (.unreadable document refusal) := by
    simp only [readTheme, ThemeHit.source_iff.1 hsource]
    split
    · exact (hofHit none).imp fun document h => ⟨_, congrArg Except.error h⟩
    · exact (hofHit none).imp fun document h => ⟨_, congrArg Except.error h⟩
    · split
      · rename_i theme htheme
        exact absurd (Theme.describes_iff.2 htheme) (hnone theme)
      · have hdocument : (Json.object source).Writable := hsource.all hwritable trivial
        obtain ⟨text, htext⟩ := Json.exists_asText?_of_writable
          (hdocument.fieldOr (hdocument.fieldOr hid))
        rw [htext]
        exact (hofHit _).imp fun document h => ⟨_, congrArg Except.error h⟩
  obtain ⟨document, refusal, h⟩ := htheme
  refine ⟨document, refusal, ?_⟩
  rw [readHit, h]
  rfl

end Picklists

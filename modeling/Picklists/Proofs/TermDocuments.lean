import Picklists.Proofs.Lookups
import Picklists.Proofs.PageReading

/-!
# Documents of terms

Which documents answer a query for the terms of a field, and with which terms.

* `HoldsBuckets` : the documents that hold some buckets for a field; most of what may be missing
  counts as no buckets.
* `SpoilsTerms` : the documents that are no answer, by the first thing that is wrong with them.
  Every document is of one of the two kinds (`spoils_or_holds`).
* `MisfitsTerms` : what goes wrong with a document of the second kind, or with a key that is too
  long to be written (`readTerms_eq_error_iff`), and what becomes of it
  (`SearchIndex.terms_of_misfits`).
* `SearchIndex.terms_all_or_nothing` : **a query has the terms of all buckets or none at all**.
-/

namespace Picklists

/-! ### Buckets -/

/-- The term of a bucket: the text of its key, if there is one that is not null. -/
def bucketTerm? (bucket : Fields) : Option Text :=
  match Json.field? bucket "key" with
  | none | some .null => none
  | some key => key.asText?

/-- A document holds an object for a field among its aggregations. -/
def Aggregates (field : String) (answer aggregation : Fields) : Prop :=
  ∃ aggregations, Json.field? answer "aggregations" = some (.object aggregations) ∧
    Json.field? aggregations field = some (.object aggregation)

/-- A document holds some buckets for a field. -/
inductive HoldsBuckets (field : String) : Json → List Fields → Prop where
  /-- There are no aggregations, or what is there does not count as present. -/
  | noAggregations {answer : Fields}
      (h : ∀ value, Json.field? answer "aggregations" = some value → value.truthy = false) :
      HoldsBuckets field (.object answer) []
  /-- There is no aggregation for the field. -/
  | noAggregation {answer aggregations : Fields}
      (h : Json.field? answer "aggregations" = some (.object aggregations))
      (hfield : Json.field? aggregations field = none) : HoldsBuckets field (.object answer) []
  /-- There are no buckets for the field. -/
  | noBuckets {answer aggregation : Fields} (h : Aggregates field answer aggregation)
      (hbuckets : Json.field? aggregation "buckets" = none) :
      HoldsBuckets field (.object answer) []
  /-- An empty text or object stands for the buckets. -/
  | hollow {answer aggregation : Fields} {value : Json} (h : Aggregates field answer aggregation)
      (hbuckets : Json.field? aggregation "buckets" = some value)
      (hvalue : value = .text "" ∨ value = .object []) : HoldsBuckets field (.object answer) []
  /-- The buckets are an array of objects. -/
  | array {answer aggregation : Fields} {buckets : List Fields}
      (h : Aggregates field answer aggregation)
      (hbuckets : Json.field? aggregation "buckets" = some (.array (buckets.map .object))) :
      HoldsBuckets field (.object answer) buckets

/-- A document is no answer to a query for the terms of a field. -/
inductive SpoilsTerms (field : String) : Json → Prop where
  /-- It is not an object. -/
  | document {document : Json} (h : ∀ answer, document ≠ .object answer) :
      SpoilsTerms field document
  /-- The aggregations count as present and are not an object. -/
  | aggregations {answer : Fields} {value : Json}
      (h : Json.field? answer "aggregations" = some value) (htruthy : value.truthy = true)
      (hvalue : ∀ aggregations, value ≠ .object aggregations) : SpoilsTerms field (.object answer)
  /-- What is there for the field is not an object. -/
  | aggregation {answer aggregations : Fields} {value : Json}
      (h : Json.field? answer "aggregations" = some (.object aggregations))
      (hfield : Json.field? aggregations field = some value)
      (hvalue : ∀ aggregation, value ≠ .object aggregation) : SpoilsTerms field (.object answer)
  /-- The buckets are neither an array nor an empty text or object. -/
  | buckets {answer aggregation : Fields} {value : Json} (h : Aggregates field answer aggregation)
      (hbuckets : Json.field? aggregation "buckets" = some value)
      (harray : ∀ elements, value ≠ .array elements) (htext : value ≠ .text "")
      (hobject : value ≠ .object []) : SpoilsTerms field (.object answer)
  /-- One of the buckets, wherever it stands, is not an object. -/
  | bucket {answer aggregation : Fields} {elements : List Json} {element : Json}
      (h : Aggregates field answer aggregation)
      (hbuckets : Json.field? aggregation "buckets" = some (.array elements))
      (hmem : element ∈ elements) (helement : ∀ bucket, element ≠ .object bucket) :
      SpoilsTerms field (.object answer)

variable {field : String}

/-- An array holds nothing but objects, or something else. -/
theorem objects_or_exists (elements : List Json) :
    (∃ buckets : List Fields, elements = buckets.map .object) ∨
      ∃ element ∈ elements, ∀ bucket, element ≠ .object bucket := by
  induction elements with
  | nil => exact Or.inl ⟨[], rfl⟩
  | cons element elements ih =>
    cases element with
    | object bucket =>
      rcases ih with ⟨buckets, rfl⟩ | ⟨element, hmem, helement⟩
      · exact Or.inl ⟨bucket :: buckets, rfl⟩
      · exact Or.inr ⟨element, List.mem_cons_of_mem _ hmem, helement⟩
    | _ => exact Or.inr ⟨_, List.mem_cons_self, nofun⟩

theorem spoils_or_holds_of_aggregates {answer aggregation : Fields}
    (h : Aggregates field answer aggregation) :
    SpoilsTerms field (.object answer) ∨ ∃ buckets, HoldsBuckets field (.object answer) buckets := by
  cases hbuckets : Json.field? aggregation "buckets" with
  | none => exact Or.inr ⟨[], .noBuckets h hbuckets⟩
  | some value =>
    by_cases hvalue : value = .text "" ∨ value = .object []
    · exact Or.inr ⟨[], .hollow h hbuckets hvalue⟩
    · obtain ⟨htext, hobject⟩ := not_or.1 hvalue
      cases value with
      | array elements =>
        rcases objects_or_exists elements with ⟨buckets, rfl⟩ | ⟨element, hmem, helement⟩
        · exact Or.inr ⟨buckets, .array h hbuckets⟩
        · exact Or.inl (.bucket h hbuckets hmem helement)
      | _ => exact Or.inl (.buckets h hbuckets nofun htext hobject)

/-- **Every document holds buckets for a field or is no answer.** -/
theorem spoils_or_holds (field : String) (document : Json) :
    SpoilsTerms field document ∨ ∃ buckets, HoldsBuckets field document buckets := by
  -- the cases go from the document down to the aggregation of the field
  cases document with
  | object answer =>
    cases h : Json.field? answer "aggregations" with
    | none => exact Or.inr ⟨[], .noAggregations (by simp [h])⟩
    | some value =>
      cases htruthy : value.truthy with
      | false =>
        refine Or.inr ⟨[], .noAggregations fun other hother => ?_⟩
        cases h.symm.trans hother
        exact htruthy
      | true =>
        cases value with
        | object aggregations =>
          cases hfield : Json.field? aggregations field with
          | none => exact Or.inr ⟨[], .noAggregation h hfield⟩
          | some value =>
            cases value with
            | object aggregation => exact spoils_or_holds_of_aggregates ⟨aggregations, h, hfield⟩
            | _ => exact Or.inl (.aggregation h hfield nofun)
        | _ => exact Or.inl (.aggregations h htruthy nofun)
  | _ => exact Or.inl (.document nofun)

/-! ### Misfits -/

/-- The keys of some buckets, where there are any, are short enough to be written. -/
def KeysWritable (buckets : List Fields) : Prop :=
  ∀ bucket ∈ buckets, ∀ key, Json.field? bucket "key" = some key → key.Writable

/-- What goes wrong first with an answer that should hold buckets for a field. -/
inductive MisfitsTerms (field : String) (answer : Fields) : Misfit → Prop where
  /-- The aggregations count as present and are not an object. -/
  | aggregations {value : Json} (h : Json.field? answer "aggregations" = some value)
      (htruthy : value.truthy = true) (hvalue : ∀ aggregations, value ≠ .object aggregations) :
      MisfitsTerms field answer .noFields
  /-- What is there for the field is not an object. -/
  | aggregation {aggregations : Fields} {value : Json}
      (h : Json.field? answer "aggregations" = some (.object aggregations))
      (hfield : Json.field? aggregations field = some value)
      (hvalue : ∀ aggregation, value ≠ .object aggregation) : MisfitsTerms field answer .noFields
  /-- Nothing can go through the buckets. -/
  | scalar {aggregation : Fields} {value : Json} (h : Aggregates field answer aggregation)
      (hbuckets : Json.field? aggregation "buckets" = some value) (hvalue : value.Scalar) :
      MisfitsTerms field answer .noItems
  /-- One of the buckets is not an object, and nothing is wrong with those before it. -/
  | bucket {aggregation : Fields} {value : Json} {before : List Fields} {element : Json}
      {after : List Json} (h : Aggregates field answer aggregation)
      (hbuckets : Json.field? aggregation "buckets" = some value)
      (hitems : value.items? = some (before.map .object ++ element :: after))
      (hbefore : KeysWritable before) (helement : ∀ bucket, element ≠ .object bucket) :
      MisfitsTerms field answer .noFields
  /-- The key of one of the buckets is too long, and nothing is wrong with those before it. -/
  | key {aggregation bucket : Fields} {key : Json} {before : List Fields} {after : List Json}
      (h : Aggregates field answer aggregation)
      (hbuckets : Json.field? aggregation "buckets" =
        some (.array (before.map .object ++ .object bucket :: after)))
      (hbefore : KeysWritable before) (hkey : Json.field? bucket "key" = some key)
      (hlong : ¬ key.Writable) : MisfitsTerms field answer .unwritable

/-- Buckets that are all objects with keys that can be written, or up to a first one that is not. -/
theorem keysWritable_or_exists (elements : List Json) :
    (∃ buckets : List Fields, elements = buckets.map .object ∧ KeysWritable buckets) ∨
      ∃ (before : List Fields) (element : Json) (after : List Json),
        elements = before.map .object ++ element :: after ∧ KeysWritable before ∧
          ((∀ bucket, element ≠ .object bucket) ∨ ∃ bucket key, element = .object bucket ∧
            Json.field? bucket "key" = some key ∧ ¬ key.Writable) := by
  induction elements with
  | nil => exact Or.inl ⟨[], rfl, nofun⟩
  | cons element elements ih =>
    by_cases hobject : ∃ bucket, element = .object bucket
    · obtain ⟨bucket, rfl⟩ := hobject
      by_cases hkey : ∀ key, Json.field? bucket "key" = some key → key.Writable
      · rcases ih with ⟨buckets, rfl, hall⟩ | ⟨before, element, after, rfl, hbefore, hbad⟩
        · exact Or.inl ⟨bucket :: buckets, rfl, List.forall_mem_cons.2 ⟨hkey, hall⟩⟩
        · exact Or.inr ⟨bucket :: before, element, after, rfl,
            List.forall_mem_cons.2 ⟨hkey, hbefore⟩, hbad⟩
      · obtain ⟨key, hgiven, hlong⟩ := by simpa using hkey
        exact Or.inr ⟨[], _, elements, rfl, nofun, Or.inr ⟨bucket, key, rfl, hgiven, hlong⟩⟩
    · exact Or.inr ⟨[], element, elements, rfl, nofun, Or.inl (not_exists.1 hobject)⟩

/-- Something goes wrong with every document that is no answer. -/
theorem SpoilsTerms.exists_misfits {answer : Fields} (h : SpoilsTerms field (.object answer)) :
    ∃ misfit, MisfitsTerms field answer misfit := by
  cases h with
  | document h => exact absurd rfl (h answer)
  | aggregations h htruthy hvalue => exact ⟨_, .aggregations h htruthy hvalue⟩
  | aggregation h hfield hvalue => exact ⟨_, .aggregation h hfield hvalue⟩
  | @buckets _ _ value h hbuckets harray htext hobject =>
    -- what is no array and not empty holds texts, if anything
    cases value with
    | array elements => exact absurd rfl (harray elements)
    | text text =>
      obtain ⟨points⟩ := text
      cases points with
      | nil => exact absurd rfl htext
      | cons => exact ⟨_, @MisfitsTerms.bucket field answer _ _ [] _ _ h hbuckets rfl nofun nofun⟩
    | object fields =>
      cases fields with
      | nil => exact absurd rfl hobject
      | cons => exact ⟨_, @MisfitsTerms.bucket field answer _ _ [] _ _ h hbuckets rfl nofun nofun⟩
    | _ => exact ⟨_, .scalar h hbuckets trivial⟩
  | @bucket _ _ elements element h hbuckets hmem helement =>
    rcases keysWritable_or_exists elements with
      ⟨buckets, rfl, -⟩ | ⟨before, first, after, rfl, hbefore, hbad⟩
    · obtain ⟨bucket, -, rfl⟩ := List.mem_map.1 hmem
      exact absurd rfl (helement bucket)
    · rcases hbad with hfirst | ⟨bucket, key, rfl, hkey, hlong⟩
      · exact ⟨_, .bucket h hbuckets rfl hbefore hfirst⟩
      · exact ⟨_, .key h hbuckets hbefore hkey hlong⟩

/-- Something goes wrong with buckets whose keys are too long. -/
theorem HoldsBuckets.misfits_or_keysWritable {answer : Fields} {buckets : List Fields}
    (h : HoldsBuckets field (.object answer) buckets) :
    MisfitsTerms field answer .unwritable ∨ KeysWritable buckets := by
  cases h with
  | array h hbuckets =>
    rcases keysWritable_or_exists (buckets.map .object) with
      ⟨others, hothers, hall⟩ | ⟨before, element, after, helements, hbefore, hbad⟩
    · have hinjective : Function.Injective Json.object := fun _ _ => Json.object.inj
      exact Or.inr (hinjective.list_map hothers ▸ hall)
    · rcases hbad with helement | ⟨bucket, key, rfl, hkey, hlong⟩
      · have hmem : element ∈ buckets.map Json.object := helements ▸ by simp
        obtain ⟨bucket, -, rfl⟩ := List.mem_map.1 hmem
        exact absurd rfl (helement bucket)
      · exact Or.inl (.key h (helements ▸ hbuckets) hbefore hkey hlong)
  | _ => exact Or.inr nofun

/-- In a document whose integers can be written, no value is of no use. -/
theorem MisfitsTerms.kind_ne_value {answer : Fields} {misfit : Misfit}
    (h : MisfitsTerms field answer misfit) (hwritable : (Json.object answer).Writable) :
    misfit.kind ≠ .value := by
  cases h with
  | @key aggregation bucket key before after h hbuckets hbefore hkey hlong =>
    obtain ⟨aggregations, haggregations, haggregation⟩ := h
    have haggregate := (Json.All.of_field? hwritable haggregations).of_field? haggregation
    have helements := haggregate.of_field? hbuckets
    exact absurd ((helements.of_mem (by simp)).of_field? hkey) hlong
  | _ => exact nofun

/-! ### Reading -/

/-- A bucket whose key can be written has its term, or none. -/
theorem readBuckets_object {bucket : Fields}
    (h : ∀ key, Json.field? bucket "key" = some key → key.Writable) (elements : List Json) :
    readBuckets (.object bucket :: elements) =
      ((bucketTerm? bucket).toList ++ ·) <$> readBuckets elements := by
  rw [readBuckets, bucketTerm?, Json.fieldOr]
  -- a key that is not there is read as one that is null
  cases hkey : Json.field? bucket "key" with
  | none => simp
  | some key =>
    obtain ⟨term, hterm⟩ := Json.exists_asText?_of_writable (h key hkey)
    cases key <;> simp [hterm]

theorem readBuckets_of_long {bucket : Fields} {key : Json}
    (hkey : Json.field? bucket "key" = some key) (hlong : ¬ key.Writable)
    (elements : List Json) : readBuckets (.object bucket :: elements) = .error .unwritable := by
  rw [readBuckets, Json.fieldOr, hkey, Option.getD_some]
  have hnone := Json.asText?_of_not_writable hlong
  cases key with
  | null => exact absurd (by decide) hlong
  | _ => simp only [hnone]

/-- Buckets whose keys can be written have their terms, whatever comes after them. -/
theorem readBuckets_append {buckets : List Fields} (h : KeysWritable buckets)
    (elements : List Json) :
    readBuckets (buckets.map .object ++ elements) =
      (buckets.filterMap bucketTerm? ++ ·) <$> readBuckets elements := by
  induction buckets with
  | nil => simp
  | cons bucket buckets ih =>
    obtain ⟨hfirst, hrest⟩ := List.forall_mem_cons.1 h
    rw [List.map_cons, List.cons_append, readBuckets_object hfirst, ih hrest]
    cases hterm : bucketTerm? bucket <;> simp [hterm]

/-- What is read from an answer with an aggregation for the field. -/
theorem readTerms_of_aggregates {answer aggregation : Fields}
    (h : Aggregates field answer aggregation) :
    readTerms field answer =
      match (Json.fieldOr aggregation "buckets" (.array [])).items? with
      | some buckets => (·, buckets.length) <$> readBuckets buckets
      | none => .error .noItems := by
  obtain ⟨aggregations, haggregations, hfield⟩ := h
  have hentry : Json.fieldOr aggregations field (.object []) = .object aggregation := by
    rw [Json.fieldOr, hfield, Option.getD_some]
  cases hitems : (Json.fieldOr aggregation "buckets" (.array [])).items? with
  | none => simp only [readTerms, presentOr_of_object haggregations, hentry, hitems]
  | some buckets => simp only [readTerms, presentOr_of_object haggregations, hentry, hitems]

/-- The terms of the buckets in an answer are read from it. -/
theorem readTerms_of_holds {answer : Fields} {buckets : List Fields}
    (h : HoldsBuckets field (.object answer) buckets) (hkeys : KeysWritable buckets) :
    readTerms field answer = .ok (buckets.filterMap bucketTerm?, buckets.length) := by
  cases h with
  | noAggregations h =>
    have habsent : Json.presentOr answer "aggregations" (.object []) = .object [] := by
      rw [Json.presentOr]
      split
      · rename_i value hvalue
        rw [h value hvalue]
        rfl
      · rfl
    rw [readTerms, habsent]
    rfl
  | noAggregation h hfield =>
    simp only [readTerms, presentOr_of_object h, Json.fieldOr, hfield]
    rfl
  | noBuckets h hbuckets =>
    rw [readTerms_of_aggregates h, Json.fieldOr, hbuckets]
    rfl
  | hollow h hbuckets hvalue =>
    rw [readTerms_of_aggregates h, Json.fieldOr, hbuckets]
    rcases hvalue with rfl | rfl <;> rfl
  | array h hbuckets =>
    have hall := readBuckets_append hkeys []
    rw [List.append_nil] at hall
    rw [readTerms_of_aggregates h, Json.fieldOr, hbuckets]
    simp [Json.items?, hall, readBuckets]

/-- Only objects hold buckets. -/
theorem HoldsBuckets.exists_object {document : Json} {buckets : List Fields}
    (h : HoldsBuckets field document buckets) : ∃ answer, document = .object answer := by
  cases h <;> exact ⟨_, rfl⟩

/-- What goes wrong with an answer comes up where it is read. -/
theorem readTerms_of_misfits {answer : Fields} {misfit : Misfit}
    (h : MisfitsTerms field answer misfit) : readTerms field answer = .error misfit := by
  cases h with
  | @aggregations value h htruthy hvalue =>
    have hpresent : Json.presentOr answer "aggregations" (.object []) = value := by
      rw [Json.presentOr, h]
      exact if_pos htruthy
    rw [readTerms, hpresent]
    cases value with
    | object aggregations => exact absurd rfl (hvalue aggregations)
    | _ => rfl
  | @aggregation aggregations value h hfield hvalue =>
    simp only [readTerms, presentOr_of_object h, Json.fieldOr, hfield, Option.getD_some]
  | @scalar aggregation value h hbuckets hvalue =>
    rw [readTerms_of_aggregates h, Json.fieldOr, hbuckets, Option.getD_some]
    cases value with
    | text | array | object => cases hvalue
    | _ => rfl
  | @bucket aggregation value before element after h hbuckets hitems hbefore helement =>
    have hfirst : readBuckets (element :: after) = .error .noFields := by
      cases element with
      | object bucket => exact absurd rfl (helement bucket)
      | _ => rfl
    rw [readTerms_of_aggregates h, Json.fieldOr, hbuckets, Option.getD_some, hitems]
    simp only [readBuckets_append hbefore, hfirst]
    rfl
  | key h hbuckets hbefore hkey hlong =>
    rw [readTerms_of_aggregates h, Json.fieldOr, hbuckets, Option.getD_some]
    simp only [Json.items?, readBuckets_append hbefore, readBuckets_of_long hkey hlong]
    rfl

/-- **No terms are read from an answer exactly if something goes wrong with it.** -/
theorem readTerms_eq_error_iff {answer : Fields} {misfit : Misfit} :
    readTerms field answer = .error misfit ↔ MisfitsTerms field answer misfit := by
  refine ⟨fun herror => ?_, readTerms_of_misfits⟩
  have hsame {other : Misfit} (hother : MisfitsTerms field answer other) :
      MisfitsTerms field answer misfit := by
    cases herror.symm.trans (readTerms_of_misfits hother)
    exact hother
  rcases spoils_or_holds field (.object answer) with hspoils | ⟨buckets, hholds⟩
  · obtain ⟨other, hother⟩ := hspoils.exists_misfits
    exact hsame hother
  · rcases hholds.misfits_or_keysWritable with hother | hkeys
    · exact hsame hother
    · cases herror.symm.trans (readTerms_of_holds hholds hkeys)

/-! ### Queries -/

/-- The reply of an exchange has a document in its body, and a status that does not stand for
failure. -/
def Exchange.Gives (documentType url : String) (exchange : Exchange) (document : Json) : Prop :=
  ∃ reply, exchange = .answered reply ∧ reply.refusal? url = none ∧
    reply.document documentType = .ok document

namespace Exchange

variable {documentType url : String} {exchange : Exchange}

theorem Gives.fields_of_object {answer : Fields}
    (h : exchange.Gives documentType url (.object answer)) :
    exchange.fields documentType url = .ok answer := by
  obtain ⟨reply, rfl, hstatus, hdocument⟩ := h
  simp only [fields, hstatus, hdocument]

theorem Gives.fields_of_other {document : Json} (h : exchange.Gives documentType url document)
    (hdocument : ∀ answer, document ≠ .object answer) :
    exchange.fields documentType url = .error (.index (.notObject documentType)) := by
  obtain ⟨reply, rfl, hstatus, hread⟩ := h
  simp only [fields, hstatus, hread]

end Exchange

namespace SearchIndex

variable {σ : Type} (index : SearchIndex) (transport : Transport σ) (asked : IndexField) (link : σ)

/-- **What goes wrong with an answer is taken over**: the answer is unusable, unless a key is too
long.  That comes out as it is. -/
theorem terms_of_misfits {answer : Fields} {misfit : Misfit}
    (hgives : (transport (index.termsPost asked) link).1.Gives asked.documentType
      (index.searchUrl asked.documentType) (.object answer))
    (h : MisfitsTerms asked.field answer misfit) :
    let run := index.terms transport asked.field asked.documentType link
    run.outcome = .error (if misfit.kind = .value then .unwritable
      else .index (.malformedTerms asked.documentType)) ∧ run.events = [] := by
  intro run
  have hrun : run = _ := index.run_terms transport asked link
  simp only [termsFrom, termsEvents, Exchange.Gives.fields_of_object hgives,
    readTerms_of_misfits h] at hrun
  rw [hrun]
  cases h <;> exact ⟨rfl, rfl⟩

/-- **A query has the terms of all buckets or none at all**, whatever the document in the reply is,
as long as its integers can be written.  A document that is no answer makes a failure of the index,
and nothing is recorded.  Every other document holds some buckets, and the result is their terms in
order; that there may be more is recorded exactly if there are at least ten thousand buckets, with a
key or without. -/
theorem terms_all_or_nothing {document : Json} (hwritable : document.Writable)
    (hgives : (transport (index.termsPost asked) link).1.Gives asked.documentType
      (index.searchUrl asked.documentType) document) :
    let run := index.terms transport asked.field asked.documentType link
    (SpoilsTerms asked.field document →
      (∃ fault, run.outcome = .error (.index fault)) ∧ run.events = []) ∧
    (∀ buckets, HoldsBuckets asked.field document buckets →
      run.outcome = .ok (buckets.filterMap bucketTerm?) ∧
      run.warnings =
        if 10000 ≤ buckets.length then [.termsTruncated asked.documentType asked.field 10000]
        else []) ∧
    (SpoilsTerms asked.field document ∨ ∃ buckets, HoldsBuckets asked.field document buckets) := by
  intro run
  have hrun : run = _ := index.run_terms transport asked link
  simp only [termsFrom, termsEvents] at hrun
  refine ⟨fun hspoils => ?_, fun buckets hholds => ?_, spoils_or_holds asked.field document⟩
  · by_cases hdocument : ∃ answer, document = .object answer
    · obtain ⟨answer, rfl⟩ := hdocument
      obtain ⟨misfit, hmisfit⟩ := hspoils.exists_misfits
      obtain ⟨houtcome, hevents⟩ := index.terms_of_misfits transport asked link hgives hmisfit
      rw [if_neg (hmisfit.kind_ne_value hwritable)] at houtcome
      exact ⟨⟨_, houtcome⟩, hevents⟩
    · simp only [Exchange.Gives.fields_of_other hgives (not_exists.1 hdocument)] at hrun
      rw [hrun]
      exact ⟨⟨_, rfl⟩, rfl⟩
  · obtain ⟨answer, rfl⟩ := hholds.exists_object
    have hkeys : KeysWritable buckets := hholds.misfits_or_keysWritable.resolve_left fun hlong =>
      absurd rfl (hlong.kind_ne_value hwritable)
    simp only [Exchange.Gives.fields_of_object hgives, readTerms_of_holds hholds hkeys] at hrun
    rw [hrun]
    refine ⟨rfl, ?_⟩
    by_cases hmany : 10000 ≤ buckets.length
    · simp only [Run.warnings, maxTerms, hmany, if_true]
      rfl
    · simp only [Run.warnings, maxTerms, hmany, if_false]
      rfl

/-- The terms of three buckets, of which the second one has no key to speak of, and no terms at all
once a fourth bucket is a text. -/
theorem terms_all_or_nothing_keyless :
    let buckets : List Fields := [[("key", .text "Ann")], [("key", .null)], [("key", .int 7)]]
    let document (elements : List Json) : Json := .ofFields [("aggregations",
      .ofFields [("presenter", .ofFields [("buckets", .array elements)])])]
    let whole := document (buckets.map .object)
    let spoilt := document (buckets.map .object ++ [.text "Bea"])
    let sources (answer : Json) :=
      Sources.constant (.answered ⟨200, some "OK", .document answer⟩) []
    let run (answer : Json) :=
      (sources answer).index.terms (sources answer).transport "presenter" "event" ()
    ((run whole).outcome = .ok ["Ann", "7"] ∧ (run whole).warnings = []) ∧
      (∃ fault, (run spoilt).outcome = .error (.index fault)) ∧ (run spoilt).events = [] := by
  intro buckets document whole spoilt sources run
  have hgives (answer : Json) :
      (Exchange.answered ⟨200, some "OK", .document answer⟩).Gives "event"
        ((sources answer).index.searchUrl "event") answer := ⟨_, rfl, rfl, rfl⟩
  have hall (answer : Json) (hwritable : answer.Writable) := @terms_all_or_nothing Unit
    (sources answer).index (sources answer).transport ⟨"presenter", "event"⟩ () answer hwritable
    (hgives answer)
  constructor
  · obtain ⟨-, hterms, -⟩ := hall whole (by decide)
    exact hterms buckets (.array ⟨_, rfl, rfl⟩ rfl)
  · obtain ⟨hfails, -⟩ := hall spoilt (by decide)
    exact hfails (.bucket ⟨_, rfl, rfl⟩ rfl (List.mem_append_right _ (List.mem_singleton_self _))
      nofun)

end SearchIndex

end Picklists

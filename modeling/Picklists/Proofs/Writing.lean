import Mathlib.Algebra.Group.Int.Defs
import Mathlib.Algebra.Group.Nat.Defs
import Picklists.Proofs.Action
import Picklists.Provider

/-!
# What can be written

Integers that are too long are not written (`Numeral.writable_iff`).  Which queries, events and
values have a text all the same, told by the integers that they hold.

* `ThemeQuery.Writable` : the queries that have a text (`ThemeQuery.writable_queryingThemes_iff`),
  and `Theme.writable_query_iff` : the windows that give such a query (`Window.Writable`).
* `Event.writable_pageCut_iff` : the events of a cut page that have a message;
  `SearchIndex.Writable` : the indices whose result window can be written in them.
* `Json.All` : all values in a document have some property.  A document has a text if its integers
  are short enough (`Json.Writable`, `Json.isSome_asText?_iff`).
* `Theme.listing?_of_writable`, `Theme.listing?_of_not_writable` : a page has a listing exactly if
  its identifiers are short enough.
-/

namespace Picklists

/-! ### Integers -/

namespace Numeral

/-- The integers that are short enough lie between the two powers of ten. -/
theorem writable_iff {n : Int} : Writable n ↔ n.natAbs < 10 ^ maxDigits :=
  Nat.length_toDigits_le_iff (by decide) (by decide)

/-- What is no further from zero is no longer. -/
theorem Writable.of_natAbs_le {m n : Int} (h : Writable n) (hle : m.natAbs ≤ n.natAbs) :
    Writable m :=
  writable_iff.2 (Nat.lt_of_le_of_lt hle (writable_iff.1 h))

theorem writable_natCast_of_le {m n : Nat} (h : Writable n) (hle : m ≤ n) : Writable m :=
  h.of_natAbs_le (by simpa using hle)

/-- The least number that is too long to be written. -/
theorem not_writable_pow : ¬ Writable (10 ^ maxDigits : Nat) := by
  rw [writable_iff, Int.natAbs_natCast]
  exact Nat.lt_irrefl _

end Numeral

/-! ### Queries and events -/

/-- The two numbers of a query are short enough to be written. -/
def ThemeQuery.Writable (query : ThemeQuery) : Prop :=
  Numeral.Writable query.offset ∧ Numeral.Writable query.limit

instance : DecidablePred ThemeQuery.Writable := fun _ => inferInstanceAs (Decidable (_ ∧ _))

/-- That themes are asked for can be recorded exactly if the numbers of the query are short
enough. -/
theorem ThemeQuery.writable_queryingThemes_iff (query : ThemeQuery) :
    (Event.queryingThemes query).Writable ↔ query.Writable := by
  simp only [Event.Writable, Event.message?, Option.isSome_map, text?, Numeral.write?,
    ThemeQuery.Writable]
  by_cases hoffset : Numeral.Writable query.offset
  · by_cases hlimit : Numeral.Writable query.limit <;> simp [hoffset, hlimit]
  · simp [hoffset]

/-- That a page is cut can be recorded exactly if the three numbers are short enough. -/
theorem Event.writable_pageCut_iff {size remaining window : Int} :
    (Event.pageCut size remaining window).Writable ↔
      Numeral.Writable size ∧ Numeral.Writable remaining ∧ Numeral.Writable window := by
  simp only [Event.Writable, Event.message?, Numeral.write?]
  by_cases hsize : Numeral.Writable size
  · by_cases hremaining : Numeral.Writable remaining
    · by_cases hwindow : Numeral.Writable window <;> simp [hsize, hremaining, hwindow]
    · simp [hsize, hremaining]
  · simp [hsize]

/-- The result window of an index can be written where it has to be.  That is only where a page ends
at it, and there a window that is not negative is no longer than the offset or the total. -/
def SearchIndex.Writable (index : SearchIndex) : Prop :=
  0 ≤ index.window ∨ Numeral.Writable index.window

/-- The bounds of a window, as far as they are set, are short enough to be written. -/
def Window.Writable (window : Option Window) : Prop :=
  (∀ offset ∈ window.bind (·.offset), Numeral.Writable offset) ∧
    ∀ limit ∈ window.bind (·.limit), Numeral.Writable limit

instance (window : Option Window) : Decidable (Window.Writable window) :=
  inferInstanceAs (Decidable (_ ∧ _))

theorem Window.writable_some_iff {offset limit : Nat} :
    Writable (some ⟨some offset, some limit⟩) ↔
      Numeral.Writable offset ∧ Numeral.Writable limit := by
  simp [Writable]

/-- The query for a window can be written exactly if the window can: where a limit is missing, the
one that stands for it is no longer than the offset, or short anyway. -/
theorem Theme.writable_query_iff (caller : Caller) (window : Option Window) :
    (query caller window).Writable ↔ Window.Writable window := by
  have hshort : Numeral.Writable unbounded := by decide
  have hpositive : 0 < unbounded := by decide
  have hrest (offset : Nat) (h : Numeral.Writable offset) :
      Numeral.Writable (unbounded - offset) := by
    rcases Nat.le_total unbounded.natAbs offset with hle | hle
    · exact h.of_natAbs_le (by omega)
    · exact hshort.of_natAbs_le (by omega)
  simp only [ThemeQuery.Writable, query, Window.Writable]
  cases hoffset : window.bind (·.offset) with
  | none =>
    cases hlimit : window.bind (·.limit) with
    | none => simpa using ⟨by decide, hshort⟩
    | some limit => simpa using fun _ => by decide
  | some offset =>
    cases hlimit : window.bind (·.limit) with
    | none => simpa using hrest offset
    | some limit => simp

/-! ### Documents -/

mutual

/-- A value and all values inside it have a property. -/
def Json.All (p : Json → Prop) : Json → Prop
  | .array items => p (.array items) ∧ AllItems p items
  | .object fields => p (.object fields) ∧ AllFields p fields
  | value => p value

/-- All items of an array have a property, and all values inside them. -/
def Json.AllItems (p : Json → Prop) : List Json → Prop
  | [] => True
  | item :: items => item.All p ∧ AllItems p items

/-- All fields of an object have a property, and all values inside them. -/
def Json.AllFields (p : Json → Prop) : List (Text × Json) → Prop
  | [] => True
  | (_, value) :: fields => value.All p ∧ AllFields p fields

end

namespace Json

variable {p : Json → Prop}

theorem allItems_iff {items : List Json} : AllItems p items ↔ ∀ item ∈ items, item.All p := by
  induction items with
  | nil => simp [AllItems]
  | cons item items ih => simp [AllItems, ih]

theorem allFields_iff {fields : List (Text × Json)} :
    AllFields p fields ↔ ∀ field ∈ fields, field.2.All p := by
  induction fields with
  | nil => simp [AllFields]
  | cons field fields ih => simp [AllFields, ih]

/-- The fields of an object have a property that all its values have. -/
theorem All.of_field? {fields : List (Text × Json)} (h : (object fields).All p) {name : String}
    {value : Json} (hvalue : field? fields name = some value) : value.All p := by
  obtain ⟨field, hfield, rfl⟩ := Option.map_eq_some_iff.1 hvalue
  exact allFields_iff.1 h.2 field (List.mem_of_find?_eq_some hfield)

/-- The same of a field for which something else may stand. -/
theorem All.fieldOr {fields : List (Text × Json)} (h : (object fields).All p) {name : String}
    {absent : Json} (habsent : absent.All p) : (fieldOr fields name absent).All p := by
  rw [Json.fieldOr]
  cases hvalue : field? fields name with
  | none => exact habsent
  | some value => exact h.of_field? hvalue

/-- The items of an array have a property that all its values have. -/
theorem All.of_mem {items : List Json} (h : (array items).All p) {item : Json}
    (hitem : item ∈ items) : item.All p :=
  allItems_iff.1 h.2 item hitem

/-- An integer is short enough to be written, and other values are no integers. -/
def ShortInteger : Json → Prop
  | .int value => Numeral.Writable value
  | _ => True

/-- All integers in a value are short enough to be written. -/
def Writable (value : Json) : Prop := value.All ShortInteger

theorem isSome_write?_iff {n : Int} : (Numeral.write? n).isSome ↔ Numeral.Writable n := by
  by_cases h : Numeral.Writable n <;> simp [Numeral.write?, h]

mutual

/-- A value can be shown exactly if its integers can be written. -/
theorem isSome_shown?_iff : ∀ value : Json, value.shown?.isSome ↔ value.Writable
  | .null | .real _ | .text _ => by simp [shown?, Writable, All, ShortInteger]
  | .bool value => by cases value <;> simp [shown?, Writable, All, ShortInteger]
  | .int value => isSome_write?_iff
  | .array items => by
    have hitems := isSome_shownItems?_iff items
    cases h : shownItems? items <;> simp_all [shown?, Writable, All, ShortInteger]
  | .object fields => by
    have hfields := isSome_shownFields?_iff fields
    cases h : shownFields? fields <;> simp_all [shown?, Writable, All, ShortInteger]

theorem isSome_shownItems?_iff :
    ∀ items : List Json, (shownItems? items).isSome ↔ AllItems ShortInteger items
  | [] => by simp [shownItems?, AllItems]
  | item :: items => by
    have hitem := isSome_shown?_iff item
    have hitems := isSome_shownItems?_iff items
    cases h : item.shown? <;> cases h' : shownItems? items <;>
      simp_all [shownItems?, AllItems, Writable]

theorem isSome_shownFields?_iff :
    ∀ fields : List (Text × Json), (shownFields? fields).isSome ↔ AllFields ShortInteger fields
  | [] => by simp [shownFields?, AllFields]
  | (name, value) :: fields => by
    have hvalue := isSome_shown?_iff value
    have hfields := isSome_shownFields?_iff fields
    cases h : value.shown? <;> cases h' : shownFields? fields <;>
      simp_all [shownFields?, AllFields, Writable]

end

instance : DecidablePred Json.Writable := fun value =>
  decidable_of_iff _ (isSome_shown?_iff value)

/-- A value has a text exactly if its integers can be written. -/
theorem isSome_asText?_iff (value : Json) : value.asText?.isSome ↔ value.Writable := by
  cases value with
  | text value => simp [asText?, Writable, All, ShortInteger]
  | _ =>
    simp only [asText?, Option.isSome_map]
    exact isSome_shown?_iff _

theorem exists_asText?_of_writable {value : Json} (h : value.Writable) :
    ∃ text, value.asText? = some text :=
  Option.isSome_iff_exists.1 ((isSome_asText?_iff value).2 h)

theorem asText?_of_not_writable {value : Json} (h : ¬ value.Writable) : value.asText? = none :=
  Option.not_isSome_iff_eq_none.1 (mt (isSome_asText?_iff value).1 h)

end Json

/-! ### Listings -/

/-- The identifiers of the themes on a page are short enough to be written. -/
def ThemePage.Writable (page : ThemePage) : Prop :=
  ∀ hit ∈ page.hits, Numeral.Writable hit.theme.identifier

instance : DecidablePred ThemePage.Writable := fun _ => inferInstanceAs (Decidable (∀ _ ∈ _, _))

/-- The entry of a hit in the listing of names or of descriptions. -/
def ThemeHit.entry (descriptions : Bool) (hit : ThemeHit) : Text × Text :=
  (toString hit.theme.identifier, hit.theme.label descriptions)

namespace Theme

/-- The listing of a page whose identifiers can be written. -/
def listing (descriptions : Bool) (page : ThemePage) : Listing :=
  .ofPairs (page.hits.map (ThemeHit.entry descriptions))

variable (descriptions : Bool)

theorem pair?_of_writable {hit : ThemeHit} (h : Numeral.Writable hit.theme.identifier) :
    hit.theme.pair? descriptions = some (hit.entry descriptions) := by
  rw [pair?, key?, Numeral.write?_of_writable h]
  rfl

theorem pair?_of_not_writable {theme : Theme} (h : ¬ Numeral.Writable theme.identifier) :
    theme.pair? descriptions = none := by
  rw [pair?, key?, Numeral.write?_of_not_writable h]
  rfl

theorem listing?_of_writable {page : ThemePage} (h : page.Writable) :
    listing? descriptions page = some (listing descriptions page) := by
  have hentries (hits : List ThemeHit)
      (hhits : ∀ hit ∈ hits, Numeral.Writable hit.theme.identifier) :
      hits.mapM (fun hit => hit.theme.pair? descriptions) =
        some (hits.map (ThemeHit.entry descriptions)) := by
    induction hits with
    | nil => rfl
    | cons hit hits ih =>
      obtain ⟨hfirst, hrest⟩ := List.forall_mem_cons.1 hhits
      rw [List.mapM_cons, ih hrest, pair?_of_writable descriptions hfirst]
      rfl
  rw [listing?, hentries page.hits h]
  rfl

theorem listing?_of_not_writable {page : ThemePage} (h : ¬ page.Writable) :
    listing? descriptions page = none := by
  have hentries (hits : List ThemeHit)
      (hhits : ¬ ∀ hit ∈ hits, Numeral.Writable hit.theme.identifier) :
      hits.mapM (fun hit => hit.theme.pair? descriptions) = none := by
    induction hits with
    | nil => simp at hhits
    | cons hit hits ih =>
      rw [List.mapM_cons]
      by_cases hfirst : Numeral.Writable hit.theme.identifier
      · rw [ih fun hrest => hhits (List.forall_mem_cons.2 ⟨hfirst, hrest⟩)]
        cases hit.theme.pair? descriptions <;> rfl
      · rw [pair?_of_not_writable descriptions hfirst]
        rfl
  rw [listing?, hentries page.hits h]
  rfl

/-- What comes of writing the listing of a page. -/
def listed (page : ThemePage) : Except Failure Listing :=
  if page.Writable then .ok (listing descriptions page) else .error .unwritable

theorem run_written_listing? {σ : Type} (page : ThemePage) (link : σ) :
    Action.written (listing? descriptions page) link = ⟨listed descriptions page, [], [], link⟩ := by
  by_cases h : page.Writable
  · rw [listing?_of_writable descriptions h, Action.run_written_some, listed, if_pos h]
  · rw [listing?_of_not_writable descriptions h, Action.run_written_none, listed, if_neg h]

end Theme

end Picklists

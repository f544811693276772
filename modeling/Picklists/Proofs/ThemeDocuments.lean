import Picklists.Proofs.Bounds
import Picklists.Proofs.Exchange
import Picklists.Proofs.HitDocuments

/-!
# Documents of themes

A page of themes is read as a whole or not at all.

* `Totals` : what a page says about the number of all themes.
* `readPage_eq_ok_iff` : **a page is read exactly if every element describes a hit and the total
  gives an integer**, and then it holds these hits.
* `MisfitsPage` : what goes wrong with a page whose parts do not fit, and of which kind it is
  (`readPage_of_misfits`).  All kinds are taken over (`SearchIndex.themes_of_misfits`).
* `SearchIndex.themes_all_or_nothing` : a query for themes has the page that is read; in every other
  case the answer is unusable.
* `Exchange.Bounded` : exchanges with bounded documents.  What is read from one can be written
  (`SearchIndex.writable_of_readThemes`).
-/

namespace Picklists

variable {found : Fields}

/-! ### Pages -/

/-- The total that a page gives for all themes: plainly, or inside an object.  Where it is missing,
the number of its own elements stands for it. -/
inductive Totals (found : Fields) (count : Nat) : Json → Prop where
  /-- There is no total. -/
  | missing (h : Json.field? found "total" = none) : Totals found count (.int count)
  /-- The total is given plainly. -/
  | plain {given : Json} (h : Json.field? found "total" = some given)
      (hplain : ∀ fields, given ≠ .object fields) : Totals found count given
  /-- The total is inside an object. -/
  | nested {fields : Fields} {given : Json} (h : Json.field? found "total" = some (.object fields))
      (hvalue : Json.field? fields "value" = some given) : Totals found count given
  /-- The object for the total does not hold it. -/
  | hollow {fields : Fields} (h : Json.field? found "total" = some (.object fields))
      (hvalue : Json.field? fields "value" = none) : Totals found count (.int count)

/-- The total of a page as it is looked up. -/
theorem totals_iff {count : Nat} {total : Json} :
    Totals found count total ↔
      (match Json.fieldOr found "total" (.int count) with
        | .object fields => Json.fieldOr fields "value" (.int count)
        | given => given) = total := by
  simp only [Json.fieldOr]
  constructor
  · intro h
    cases h with
    | missing h => rw [h, Option.getD_none]
    | plain h hplain =>
      rw [h, Option.getD_some]
      split
      · exact absurd rfl (hplain _)
      · rfl
    | nested h hvalue => simp only [h, hvalue, Option.getD_some]
    | hollow h hvalue => simp only [h, hvalue, Option.getD_some, Option.getD_none]
  · rintro rfl
    cases h : Json.field? found "total" with
    | none => exact .missing h
    | some given =>
      cases given with
      | object fields =>
        cases hvalue : Json.field? fields "value" with
        | none =>
          simp only [Option.getD_some, hvalue, Option.getD_none]
          exact .hollow h hvalue
        | some value =>
          simp only [Option.getD_some, hvalue]
          exact .nested h hvalue
      | _ => exact .plain h fun fields => Json.noConfusion

/-- The hits on a page are looked for among some elements, and there is room for a total beside
them. -/
def Elements (answer found : Fields) (elements : List Json) : Prop :=
  Json.presentOr answer "hits" (.object []) = .object found ∧
    (Json.fieldOr found "hits" (.array [])).items? = some elements

/-- The elements of a page that lists some. -/
theorem Elements.of_array {answer : Fields} {elements : List Json}
    (hfound : Json.field? answer "hits" = some (.object found))
    (helements : Json.field? found "hits" = some (.array elements)) :
    Elements answer found elements := by
  refine ⟨presentOr_of_object hfound, ?_⟩
  rw [Json.fieldOr, helements]
  rfl

/-- **A page is read as a whole or not at all.** -/
theorem readPage_eq_ok_iff {answer : Fields} {elements : List Json}
    (h : Elements answer found elements) {offset limit : Int} {page : ThemePage} :
    readPage answer offset limit = .ok page ↔
      List.Forall₂ ThemeHit.Describes elements page.hits ∧
      (∃ total, Totals found elements.length total ∧ GivesInteger total page.hitCount) ∧
      page.offset = offset ∧ page.limit = limit := by
  simp only [readPage, h.1, h.2]
  rw [bind_eq_ok_iff]
  simp only [readHits_eq_ok_iff, readHit_eq_ok_iff]
  constructor
  · rintro ⟨hits, hhits, hrest⟩
    rw [← hhits.length_eq] at hrest
    split at hrest
    · rename_i hitCount hcount
      cases hrest
      have hinteger := (Checked.within_eq_valid_iff _).1 hcount
      exact ⟨hhits, ⟨_, totals_iff.2 rfl, Decoder.integer_eq_valid_iff.1 hinteger⟩, rfl, rfl⟩
    · cases hrest
  · rintro ⟨hhits, ⟨total, htotal, hcount⟩, rfl, rfl⟩
    refine ⟨page.hits, hhits, ?_⟩
    -- the total that the page gives is the one that is looked up
    obtain rfl := totals_iff.1 htotal
    have hchecked := (Checked.within_eq_valid_iff (.field "hit_count")).2
      (Decoder.integer_eq_valid_iff.2 hcount)
    rw [← hhits.length_eq]
    split
    · rename_i hitCount hread
      cases hread.symm.trans hchecked
      rfl
    · rename_i faults hread
      cases hread.symm.trans hchecked

/-- A page that is read has some elements. -/
theorem exists_elements_of_readPage {answer : Fields} {offset limit : Int} {page : ThemePage}
    (h : readPage answer offset limit = .ok page) :
    ∃ found elements, Elements answer found elements := by
  rw [readPage] at h
  split at h
  · rename_i found hfound
    split at h
    · cases h
    · rename_i elements helements
      exact ⟨found, elements, hfound, helements⟩
  · cases h

/-- All elements describe hits exactly if each of them does. -/
theorem exists_describes_iff {elements : List Json} :
    (∃ hits, List.Forall₂ ThemeHit.Describes elements hits) ↔
      ∀ element ∈ elements, ∃ hit, ThemeHit.Describes element hit := by
  induction elements with
  | nil => simp
  | cons element elements ih =>
    rw [List.forall_mem_cons, ← ih]
    constructor
    · rintro ⟨_, hall⟩
      obtain ⟨hit, hits, hhit, hhits, -⟩ := List.forall₂_cons_left_iff.1 hall
      exact ⟨⟨hit, hhit⟩, hits, hhits⟩
    · rintro ⟨⟨hit, hhit⟩, hits, hhits⟩
      exact ⟨hit :: hits, .cons hhit hhits⟩

/-! ### Misfits -/

/-- Something goes wrong with a page. -/
inductive MisfitsPage (answer : Fields) : MisfitKind → Prop where
  /-- What should hold the elements counts as present and is not an object. -/
  | hits {value : Json} (h : Json.field? answer "hits" = some value)
      (htruthy : value.truthy = true) (hvalue : ∀ found, value ≠ .object found) :
      MisfitsPage answer .attribute
  /-- Nothing can go through what should be the elements. -/
  | scalar {found : Fields} {value : Json}
      (hfound : Json.field? answer "hits" = some (.object found))
      (h : Json.field? found "hits" = some value) (hvalue : value.Scalar) : MisfitsPage answer .type
  /-- Something goes wrong with one of the elements, and those before it describe hits. -/
  | element {found : Fields} {before after : List Json} {element : Json} {hits : List ThemeHit}
      {kind : MisfitKind} (h : Elements answer found (before ++ element :: after))
      (hbefore : List.Forall₂ ThemeHit.Describes before hits) (helement : MisfitsHit element kind) :
      MisfitsPage answer kind
  /-- The elements describe hits, and the total gives no integer. -/
  | total {found : Fields} {elements : List Json} {hits : List ThemeHit} {total : Json}
      (h : Elements answer found elements) (hhits : List.Forall₂ ThemeHit.Describes elements hits)
      (htotal : Totals found elements.length total) (hvalue : ∀ n, ¬ GivesInteger total n) :
      MisfitsPage answer .value

/-- Reading ends with the first element that is not read. -/
theorem readHits_of_error {before after : List Json} {element : Json} {hits : List ThemeHit}
    {fault : PageFault} (hbefore : List.Forall₂ ThemeHit.Describes before hits)
    (h : readHit element = .error fault) :
    readHits (before ++ element :: after) = .error fault := by
  induction hbefore with
  | nil =>
    rw [List.nil_append, readHits, h]
    rfl
  | cons hfirst _ ih =>
    rw [List.cons_append, readHits, readHit_eq_ok_iff.2 hfirst, ih]
    rfl

/-- **What goes wrong with a page comes up where it is read**, and it is of this kind. -/
theorem readPage_of_misfits {answer : Fields} {kind : MisfitKind} (h : MisfitsPage answer kind)
    (offset limit : Int) :
    ∃ cause, readPage answer offset limit = .error (.misfit cause none) ∧ cause.kind = kind := by
  cases h with
  | @hits value h htruthy hvalue =>
    refine ⟨.noFields, ?_, rfl⟩
    rw [readPage, presentOr_eq_iff.2 (Or.inl ⟨h, htruthy⟩)]
    cases value with
    | object found => exact absurd rfl (hvalue found)
    | _ => rfl
  | @scalar found value hfound h hvalue =>
    refine ⟨.noItems, ?_, rfl⟩
    simp only [readPage, presentOr_of_object hfound, Json.fieldOr, h, Option.getD_some]
    cases value with
    | text | array | object => cases hvalue
    | _ => rfl
  | element h hbefore helement =>
    obtain ⟨cause, hread, hkind⟩ := readHit_of_misfits helement
    refine ⟨cause, ?_, hkind⟩
    simp only [readPage, h.1, h.2, readHits_of_error hbefore hread]
    rfl
  | @total found elements hits total h hhits htotal hvalue =>
    have hread : readHits elements = .ok hits := by
      simpa only [readHits_eq_ok_iff, readHit_eq_ok_iff] using hhits
    obtain rfl := totals_iff.1 htotal
    simp only [readPage, h.1, h.2, hread, bind, Except.bind, ← hhits.length_eq]
    split
    · rename_i hitCount hcount
      have hinteger := (Checked.within_eq_valid_iff _).1 hcount
      exact absurd (Decoder.integer_eq_valid_iff.1 hinteger) (hvalue hitCount)
    · exact ⟨.refused _, rfl, rfl⟩

/-- Every hit on a page comes from one of the elements. -/
theorem exists_describes_of_mem {elements : List Json} {hits : List ThemeHit}
    (h : List.Forall₂ ThemeHit.Describes elements hits) {hit : ThemeHit} (hhit : hit ∈ hits) :
    ∃ element ∈ elements, ThemeHit.Describes element hit := by
  induction h with
  | nil => cases hhit
  | @cons element other elements hits hfirst _ ih =>
    rcases List.mem_cons.1 hhit with rfl | hmem
    · exact ⟨element, List.mem_cons_self, hfirst⟩
    · obtain ⟨found, hfound, hdescribes⟩ := ih hmem
      exact ⟨found, List.mem_cons_of_mem element hfound, hdescribes⟩

/-! ### Bounded pages -/

theorem Json.All.presentOr {p : Json → Prop} {given : Fields} (h : (Json.object given).All p)
    {name : String} {otherwise : Json} (hotherwise : otherwise.All p) :
    (Json.presentOr given name otherwise).All p := by
  rcases presentOr_eq_iff.1 (Eq.refl (Json.presentOr given name otherwise)) with
    ⟨hvalue, -⟩ | ⟨-, hvalue⟩
  · exact h.of_field? hvalue
  · rwa [← hvalue]

/-- The identifier of a hit that is described can be written. -/
theorem ThemeHit.Describes.writable {element : Json} {hit : ThemeHit} (h : Describes element hit)
    (helement : element.Writable) : Numeral.Writable hit.theme.identifier := by
  obtain ⟨hsource, htheme, -⟩ := h
  obtain ⟨given, hgiven, hinteger⟩ := htheme.identifier
  have hdocument := hsource.all helement trivial
  refine hinteger.writable ?_
  rcases Option.or_eq_some_iff.1 hgiven with hfield | ⟨-, hgiven⟩
  · exact hdocument.of_field? hfield
  · rcases Option.or_eq_some_iff.1 hgiven with hfield | ⟨-, hfield⟩
    · exact hdocument.of_field? hfield
    · exact helement.of_field? hfield

/-- Nothing but an array holds elements that describe hits. -/
theorem items?_of_describes {value : Json} {elements : List Json} {hits : List ThemeHit}
    (hitems : value.items? = some elements)
    (hhits : List.Forall₂ ThemeHit.Describes elements hits) :
    elements = [] ∨ value = .array elements := by
  cases value with
  | array items =>
    cases hitems
    exact Or.inr rfl
  | text text =>
    cases hitems
    cases hpoints : text.points with
    | nil => exact Or.inl rfl
    | cons point points =>
      rw [hpoints] at hhits
      obtain ⟨hit, hits, hfirst, -⟩ := List.forall₂_cons_left_iff.1 hhits
      cases hfirst
  | object fields =>
    cases hitems
    cases fields with
    | nil => exact Or.inl rfl
    | cons field fields =>
      obtain ⟨hit, hits, hfirst, -⟩ := List.forall₂_cons_left_iff.1 hhits
      cases hfirst
  | _ => cases hitems

/-- The elements of a bounded page are bounded, and so is what holds them. -/
theorem Elements.bounded {answer : Fields} {elements : List Json} {hits : List ThemeHit}
    (h : Elements answer found elements) (hanswer : (Json.object answer).Bounded)
    (hhits : List.Forall₂ ThemeHit.Describes elements hits) :
    (Json.object found).Bounded ∧ (Json.array elements).Bounded := by
  obtain ⟨hfound, hitems⟩ := h
  have hempty : (Json.array []).Bounded := ⟨show Numeral.Writable 0 by decide, trivial⟩
  have hholds : (Json.object []).Bounded := ⟨trivial, trivial⟩
  have hbounded : (Json.object found).Bounded := hfound ▸ hanswer.presentOr hholds
  refine ⟨hbounded, ?_⟩
  rcases items?_of_describes hitems hhits with rfl | harray
  · exact hempty
  · exact harray ▸ hbounded.fieldOr hempty

/-- What a bounded page says about the number of all themes can be written. -/
theorem Totals.writable {count : Nat} {total : Json} (h : Totals found count total)
    (hfound : (Json.object found).Writable) (hcount : Numeral.Writable count) :
    total.Writable := by
  cases h with
  | missing | hollow => exact hcount
  | plain h => exact hfound.of_field? h
  | nested h hvalue => exact (hfound.of_field? h).of_field? hvalue

/-- **What is read from a bounded answer can be written.** -/
theorem writable_of_readPage {answer : Fields} (hanswer : (Json.object answer).Bounded)
    {offset limit : Int} {page : ThemePage} (h : readPage answer offset limit = .ok page) :
    Numeral.Writable page.hitCount ∧ page.Writable := by
  obtain ⟨found, elements, helements⟩ := exists_elements_of_readPage h
  obtain ⟨hhits, ⟨total, htotal, hcount⟩, -⟩ := (readPage_eq_ok_iff helements).1 h
  obtain ⟨hfound, hall⟩ := helements.bounded hanswer hhits
  refine ⟨hcount.writable (htotal.writable hfound.writable hall.1), fun hit hhit => ?_⟩
  obtain ⟨element, helement, hdescribes⟩ := exists_describes_of_mem hhits hhit
  exact hdescribes.writable (Json.Bounded.writable (hall.of_mem helement))

/-- An exchange with a bounded document, or with a text that is not too long. -/
def Exchange.Bounded : Exchange → Prop
  | .answered ⟨_, _, .text content⟩ => Numeral.Writable content.length
  | .answered ⟨_, _, .document document⟩ => document.Bounded
  | _ => True

theorem Exchange.bounded_of_fields {exchange : Exchange} {documentType url : String}
    {answer : Fields} (h : exchange.Bounded)
    (hfields : exchange.fields documentType url = .ok answer) : (Json.object answer).Bounded := by
  cases exchange with
  | brokenDown cause => cases hfields
  | answered reply =>
    obtain ⟨status, reason, body⟩ := reply
    rw [fields] at hfields
    split at hfields
    · cases hfields
    · cases body with
      | text content =>
        cases hread : Json.read content with
        | ok document =>
          simp only [Reply.document, hread] at hfields
          cases document with
          | object given =>
            cases hfields
            exact Json.bounded_of_read h hread
          | _ => cases hfields
        | error fault =>
          cases fault <;> simp only [Reply.document, hread, reduceCtorEq] at hfields
      | document document =>
        simp only [Reply.document] at hfields
        cases document with
        | object given =>
          cases hfields
          exact h
        | _ => cases hfields
      | broken cause => simp only [Reply.document, reduceCtorEq] at hfields

/-- **What is read from a bounded exchange can be written.** -/
theorem SearchIndex.writable_of_readThemes {index : SearchIndex} {query : ThemeQuery}
    {exchange : Exchange} (hbounded : exchange.Bounded) {page : ThemePage}
    (h : index.readThemes query exchange = .ok page) :
    Numeral.Writable page.hitCount ∧ page.Writable := by
  obtain ⟨answer, hfields, hpage⟩ := readPage_of_readThemes h
  exact writable_of_readPage (Exchange.bounded_of_fields hbounded hfields) hpage

/-! ### Queries -/

namespace SearchIndex

variable {σ : Type} (index : SearchIndex) (transport : Transport σ) (query : ThemeQuery) (link : σ)
  {answer : Fields} {elements : List Json}

/-- **What goes wrong with a page is taken over**, of whatever kind it is: the answer is unusable.
-/
theorem themes_of_misfits (hquery : query.Writable)
    (hanswer : (transport (index.themesPost query) link).1.fields themeType
      (index.searchUrl themeType) = .ok answer) {kind : MisfitKind} (h : MisfitsPage answer kind) :
    let run := index.themes transport query link
    kind ∈ pageTaken ∧ (∃ fault, run.outcome = .error (.index fault)) ∧
      run.events = [.queryingThemes query] := by
  intro run
  obtain ⟨cause, hpage, rfl⟩ := readPage_of_misfits h (max 0 query.offset) (index.pageSize query)
  have hrun : run = _ := index.run_themes transport query hquery link
  simp only [answerThemes, hanswer, hpage] at hrun
  rw [hrun]
  have htaken : cause.kind ∈ pageTaken := by cases cause <;> simp [Misfit.kind, pageTaken]
  exact ⟨htaken, ⟨_, congrArg Except.error (PageFault.failure_eq _)⟩, rfl⟩

/-- A query has the page that is read from the answer, or the answer is unusable. -/
theorem outcome_themes (hquery : query.Writable)
    (hindex : index.Writable)
    (hanswer : (transport (index.themesPost query) link).1.fields themeType
      (index.searchUrl themeType) = .ok answer)
    (hcount : ∀ page, readPage answer (max 0 query.offset) (index.pageSize query) = .ok page →
      Numeral.Writable page.hitCount) :
    let run := index.themes transport query link
    let page := readPage answer (max 0 query.offset) (index.pageSize query)
    (∀ read, run.outcome = .ok read ↔ page = .ok read) ∧
      ((∃ read, run.outcome = .ok read) ∨ ∃ fault, run.outcome = .error (.index fault)) := by
  intro run page
  have hrun : run = _ := index.run_themes transport query hquery link
  rw [hrun]
  simp only [answerThemes, hanswer]
  cases hpage : readPage answer (max 0 query.offset) (index.pageSize query) with
  | error fault =>
    simp only [page, hpage]
    refine ⟨fun read => ?_, Or.inr ⟨_, congrArg Except.error (PageFault.failure_eq fault)⟩⟩
    simp only [reduceCtorEq]
  | ok read => simp [page, hpage, answerPage_of_writable hquery hindex (hcount read hpage)]

/-- **A page of themes is read as a whole or not at all.**  If the answer lists some elements as its
hits, the query has a result exactly if each of them describes a hit and the total gives an integer.
The result holds the hits in the order of the elements, this total, and the offset and the limit
that were sent.  In every other case the answer is unusable, wherever the bad element is.

All this takes it that what is recorded can be written: the query, or else nothing is sent at all;
the total; and the result window, should it be negative. -/
theorem themes_all_or_nothing
    (hindex : index.Writable)
    (hanswer : (transport (index.themesPost query) link).1.fields themeType
      (index.searchUrl themeType) = .ok answer)
    (hfound : Json.field? answer "hits" = some (.object found))
    (helements : Json.field? found "hits" = some (.array elements))
    (htotal : ∀ total, Totals found elements.length total → total.Writable) :
    let run := index.themes transport query link
    let start : Int := max 0 query.offset
    let size : Int := index.pageSize query
    (¬ query.Writable → run.posts = [] ∧ run.outcome = .error .unwritable) ∧
    (query.Writable →
      run.posts = [⟨index.searchUrl themeType, index.timeout,
        .themes start size query.organization query.sort⟩] ∧
      (∀ page, run.outcome = .ok page ↔
        List.Forall₂ ThemeHit.Describes elements page.hits ∧
        (∃ total, Totals found elements.length total ∧ GivesInteger total page.hitCount) ∧
        page.offset = start ∧ page.limit = size) ∧
      ((∃ page, run.outcome = .ok page) ↔
        (∀ element ∈ elements, ∃ hit, ThemeHit.Describes element hit) ∧
        ∃ total hitCount, Totals found elements.length total ∧ GivesInteger total hitCount) ∧
      ((∃ page, run.outcome = .ok page) ∨ ∃ fault, run.outcome = .error (.index fault))) := by
  intro run start size
  refine ⟨fun hquery => ?_, fun hquery => ?_⟩
  · have hrun : run = _ := index.run_themes_of_not_writable transport query hquery link
    rw [hrun]
    exact ⟨rfl, rfl⟩
  · have hread (page : ThemePage) :=
      @readPage_eq_ok_iff _ _ _ (.of_array hfound helements) start size page
    -- the total of a page that is read can be written, so that it is recorded if the page is cut
    obtain ⟨hok, hends⟩ := outcome_themes index transport query link hquery hindex hanswer
      fun page hpage => by
        obtain ⟨-, ⟨total, htotals, hcount⟩, -⟩ := (hread page).1 hpage
        exact hcount.writable (htotal total htotals)
    have hpage (page : ThemePage) := (hok page).trans (hread page)
    refine ⟨?_, hpage, ?_, hends⟩
    · exact congrArg Run.posts (index.run_themes transport query hquery link)
    · rw [← exists_describes_iff]
      constructor
      · rintro ⟨page, h⟩
        obtain ⟨hhits, ⟨total, htotals, hcount⟩, -⟩ := (hpage page).1 h
        exact ⟨⟨page.hits, hhits⟩, total, page.hitCount, htotals, hcount⟩
      · rintro ⟨⟨hits, hhits⟩, total, hitCount, htotals, hcount⟩
        exact ⟨⟨hits, hitCount, start, size⟩,
          (hpage _).2 ⟨hhits, ⟨total, htotals, hcount⟩, rfl, rfl⟩⟩

/-- A page of two.  The first element says all there is to say of a theme, with numerals for its
numbers; the second one says its identifier beside the document and little else.  The same page is
unusable with a third element whose description is no text, and with one that has no name. -/
theorem themes_all_or_nothing_full :
    let first := Json.ofFields [("_score", .text "1.5"), ("_source", .ofFields
      [("identifier", .text " 12 "), ("id", .null), ("name", .text "Alpine"),
        ("description", .text "High up"), ("organization", .text "org"), ("creator", .text "ann"),
        ("default", .int 1)])]
    let second := Json.ofFields [("_id", .text "4"), ("_score", .null),
      ("_source", .ofFields [("name", .text "Beach"), ("description", .null)])]
    let numbered := Json.ofFields [("_id", .text "9"),
      ("_source", .ofFields [("name", .text "City"), ("description", .int 3)])]
    let nameless := Json.ofFields [("_id", .text "9"), ("_source", .ofFields [("name", .null)])]
    let answer (elements : List Json) : Fields := [("hits", .object
      [("total", .ofFields [("value", .real ⟨0x401C000000000000⟩)]), ("hits", .array elements)])]
    let sources (elements : List Json) := Sources.constant
      (.answered ⟨200, some "OK", .document (.object (answer elements))⟩) []
    let run (elements : List Json) := (sources elements).index.themes (sources elements).transport
      ⟨"org", none, -3, 5, none⟩ ()
    (run [first, second]).outcome = .ok ⟨[
      ⟨⟨12, "Alpine", some "High up", some "org", some "ann", true⟩, ⟨0x3FF8000000000000⟩⟩,
      ⟨⟨4, "Beach", none, none, none, false⟩, .zero⟩], 7, 0, 5⟩ ∧
    (∃ fault, (run [first, numbered, second]).outcome = .error (.index fault)) ∧
    ∃ fault, (run [first, second, nameless]).outcome = .error (.index fault) := by
  intro first second numbered nameless answer sources run
  have hfirst : ThemeHit.Describes first
      ⟨⟨12, "Alpine", some "High up", some "org", some "ann", true⟩, ⟨0x3FF8000000000000⟩⟩ :=
    .mk (.object rfl) ⟨⟨_, rfl, .text rfl rfl⟩, rfl, .text rfl, .text rfl, .text rfl,
      iff_of_true rfl fun h => Bool.noConfusion (h (.int 1) rfl)⟩
      (.given rfl rfl (.text rfl (by decide +kernel)))
  have hsecond : ThemeHit.Describes second
      ⟨⟨4, "Beach", none, none, none, false⟩, .zero⟩ :=
    .mk (.object rfl) ⟨⟨_, rfl, .text rfl rfl⟩, rfl, .null rfl, .missing rfl, .missing rfl,
      iff_of_false Bool.noConfusion fun h => h nofun⟩
      (.absent fun value h => by cases h; rfl)
  have hnumbered (hit : ThemeHit) : ¬ ThemeHit.Describes numbered hit := by
    intro h
    obtain ⟨source, hsource, htheme⟩ := h.exists_source
    cases hsource with
    | object h =>
      cases h
      obtain h | ⟨text, h⟩ := htheme.description.null_or_text rfl <;> cases h
    | absent h => cases h _ rfl
  have hnameless (hit : ThemeHit) : ¬ ThemeHit.Describes nameless hit := by
    intro h
    obtain ⟨source, hsource, htheme⟩ := h.exists_source
    cases hsource with
    | object h =>
      cases h
      cases htheme.name
    | absent h => cases h _ rfl
  have hwhole (elements : List Json) :=
    (@themes_all_or_nothing _ Unit (sources elements).index (sources elements).transport
      ⟨"org", none, -3, 5, none⟩ () (answer elements) elements
      (Or.inl (show (0 : Int) ≤ 10000 by decide)) rfl rfl rfl
      fun total h => by
        obtain rfl := totals_iff.1 h
        trivial).2 (by decide)
  refine ⟨?_, ?_, ?_⟩
  · obtain ⟨-, hpage, -⟩ := hwhole [first, second]
    exact (hpage _).2
      ⟨.cons hfirst (.cons hsecond .nil),
        ⟨_, .nested rfl rfl, .real (by decide +kernel) (by decide) (by decide)⟩,
        rfl, rfl⟩
  · obtain ⟨-, -, hread, hends⟩ := hwhole [first, numbered, second]
    refine hends.resolve_left fun h => ?_
    obtain ⟨hit, hhit⟩ := (hread.1 h).1 numbered (by simp)
    exact hnumbered hit hhit
  · obtain ⟨-, -, hread, hends⟩ := hwhole [first, second, nameless]
    refine hends.resolve_left fun h => ?_
    obtain ⟨hit, hhit⟩ := (hread.1 h).1 nameless (by simp)
    exact hnameless hit hhit

end SearchIndex

end Picklists

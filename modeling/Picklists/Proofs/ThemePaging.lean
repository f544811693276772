import Mathlib.Algebra.Order.Floor.Div
import Picklists.Proofs.PageReading
import Picklists.Proofs.ThemeKeys

/-!
# Pages of a listing of themes

How the pages of a listing of themes compare with the whole one.  The index holds one list of
documents and answers every request with a part of it; a listing without a window is a page too, one
that only the result window bounds.

* `Sources.HoldsThemes` : an index that holds a list of documents.
* `Sources.HoldsThemes.run_listing` : the run of a listing from such an index.
* `Theme.entries_listing_page` : **a page that ends at the result window is a part of the listing
  without a window**.
* `theme_pages_tile` : **the pages of one size tile the listing without a window**.
-/

namespace Picklists

/-! ### Parts -/

/-- The hits at the positions that a request names, as a page. -/
def ThemePage.part (hits : List ThemeHit) (start size : Nat) : ThemePage :=
  ⟨Listing.cut start (some size) hits, hits.length, start, size⟩

/-- The number of some hits can be written, and so can their identifiers. -/
def HitsWritable (hits : List ThemeHit) : Prop :=
  Numeral.Writable hits.length ∧ ∀ hit ∈ hits, Numeral.Writable hit.theme.identifier

theorem HitsWritable.part {hits : List ThemeHit} (h : HitsWritable hits) (start size : Nat) :
    (ThemePage.part hits start size).Writable :=
  fun hit hhit => h.2 hit ((Listing.cut_sublist start (some size) hits).subset hhit)

/-- The listing of a part is the part of the listing. -/
theorem Theme.entries_listing_part (descriptions : Bool) {hits : List ThemeHit}
    (h : (hits.map (·.theme.identifier)).Nodup) (start size : Nat) :
    (Theme.listing descriptions (.part hits start size)).entries =
      Listing.cut start (some size) (hits.map (ThemeHit.entry descriptions)) := by
  have hpart := h.sublist ((Listing.cut_sublist start (some size) hits).map _)
  rw [Theme.entries_listing descriptions hpart, Listing.cut_map]
  rfl

/-- The listing of names or of descriptions. -/
def ThemesList.labelled (descriptions : Bool) : ThemesList :=
  if descriptions then .descriptions else .names

variable {σ : Type} {sources : Sources σ}

theorem list_labelled (sources : Sources σ) (descriptions : Bool) (window : Option Window) :
    Provider.themes.list sources (ThemesList.labelled descriptions).listName window =
      themeListing sources (ThemesList.labelled descriptions).listName window descriptions := by
  cases descriptions with
  | false => exact listThemes_names sources window
  | true => exact listThemes_descriptions sources window

/-! ### Sizes -/

namespace Theme

variable {index : SearchIndex} {reach : Nat}

/-- A page asks for what is left of its size before the result window. -/
theorem pageSize_query_some (caller : Caller) (hreach : index.window = reach)
    (offset limit : Nat) :
    index.pageSize (query caller (some ⟨some offset, some limit⟩)) =
      (min limit (reach - offset) : Nat) := by
  change max 0 (min (limit : Int) (index.window - max 0 (offset : Int))) = _
  omega

/-- A listing without a window asks for everything before the result window. -/
theorem pageSize_query_none (caller : Caller) (hreach : index.window = reach)
    (hbelow : (reach : Int) < unbounded) : index.pageSize (query caller none) = reach := by
  change max 0 (min (unbounded - 0) (index.window - max 0 0)) = _
  omega

/-- A listing without a window ends too early exactly if there are more hits than the result window
lets through. -/
theorem cutEvent?_query_none (caller : Caller) (hreach : index.window = reach)
    (hbelow : (reach : Int) < unbounded) (hits : List ThemeHit) :
    (index.cutEvent? (query caller none) (.part hits 0 reach)).toList =
      if reach < hits.length then [.pageCut reach hits.length reach] else [] := by
  have hoffset : max 0 (query caller none).offset = 0 := rfl
  have hlimit : (query caller none).limit = unbounded := rfl
  have htotal : (ThemePage.part hits 0 reach).hitCount = hits.length := rfl
  simp only [SearchIndex.cutEvent?, pageSize_query_none caller hreach hbelow, hoffset, hlimit,
    htotal, hbelow, hreach, true_and, zero_add, sub_zero, Int.ofNat_lt]
  by_cases hmore : reach < hits.length
  · rw [if_pos hmore, if_pos hmore, Option.toList_some]
  · rw [if_neg hmore, if_neg hmore, Option.toList_none]

end Theme

/-! ### The index -/

/-- The index holds a list of documents: it answers a request for themes with those at the positions
that the request names, and says how many there are in all. -/
def Sources.HoldsThemes (sources : Sources σ) (documents : List Json) : Prop :=
  ∀ (start size : Nat) (link : σ), ∃ answer,
    let url := sources.index.searchUrl themeType
    let body : SearchBody :=
      .themes start size sources.caller.organization.id (some .ascending)
    (sources.transport ⟨url, sources.index.timeout, body⟩ link).1.fields themeType url =
        .ok answer ∧
      ListsHits answer (Listing.cut start (some size) documents) documents.length

namespace Sources.HoldsThemes

variable {documents : List Json} {hits : List ThemeHit} {window : Option Window}

/-- The page behind a listing is the part of the hits that was asked for. -/
theorem themesPage_part (hholds : sources.HoldsThemes documents)
    (hread : readHits documents = .ok hits) {start size : Nat}
    (hstart : (Theme.query sources.caller window).offset = start)
    (hsize : sources.index.pageSize (Theme.query sources.caller window) = size) (link : σ) :
    sources.themesPage window link = .ok (.part hits start size) := by
  let query := Theme.query sources.caller window
  obtain ⟨answer, hfields, hlists⟩ := hholds start size link
  have hmax : max 0 query.offset = (start : Int) := by
    rw [hstart]
    exact Int.max_eq_right (Int.natCast_nonneg start)
  have hpost : sources.themesPost window =
      ⟨sources.index.searchUrl themeType, sources.index.timeout,
        .themes start size sources.caller.organization.id (some .ascending)⟩ := by
    rw [Sources.themesPost, SearchIndex.themesPost, SearchIndex.themesBody, hmax, hsize]
    rfl
  have hpage : readPage answer (max 0 query.offset) (sources.index.pageSize query) =
      .ok (.part hits start size) := by
    rw [hmax, hsize, readPage_of_listsHits hlists (readHits_cut hread start (some size)),
      ← length_of_readHits hread]
    rfl
  rw [← hpost] at hfields
  exact SearchIndex.readThemes_of_readPage hfields hpage

/-- **The run of a listing of themes.**  It lists the part of the hits that was asked for, and the
only warning is that it ends too early. -/
theorem run_listing (hholds : sources.HoldsThemes documents) (hread : readHits documents = .ok hits)
    (hshort : HitsWritable hits) (hwindow : Window.Writable window)
    (hindex : sources.index.Writable) {start size : Nat}
    (hstart : (Theme.query sources.caller window).offset = start)
    (hsize : sources.index.pageSize (Theme.query sources.caller window) = size)
    (listName : String) (descriptions : Bool) (link : σ) :
    let page := ThemePage.part hits start size
    let run := themeListing sources listName window descriptions link
    run.outcome = .ok (Theme.listing descriptions page) ∧
      run.events.filter (fun event => event.level = .warning) =
        (sources.index.cutEvent? (Theme.query sources.caller window) page).toList := by
  intro page run
  have hpage := hholds.themesPage_part hread hstart hsize link
  have hanswer := themesAnswer_of_writable hwindow hindex hpage hshort.1
  have hrun : run = _ :=
    themeListing_of_answer listName descriptions hwindow (congrArg Prod.fst hanswer)
  rw [hrun, Theme.listed, if_pos (hshort.part start size)]
  refine ⟨rfl, ?_⟩
  rw [Sources.themesEvents, hanswer, List.filter_cons_of_neg (by simp [Event.level]),
    List.filter_eq_self]
  intro event hevent
  exact decide_eq_true (SearchIndex.level_of_mem_cutEvent? (Option.mem_toList.1 hevent))

end Sources.HoldsThemes

/-! ### A shelf -/

/-- A readable document. -/
def Json.themeDocument (identifier : Int) (name : Text) : Json :=
  .ofFields [("_source", .ofFields [("identifier", .int identifier), ("name", .text name)])]

/-- An index that holds some documents, with a result window. -/
def Sources.shelf (reach : Int) (documents : List Json) : Sources Unit where
  index := .connect "http://localhost:9200" "opencast" (.whole 10) reach
  transport := fun post link =>
    match post.body with
    | .themes start size _ _ =>
      let found := Json.ofFields
        [("total", .ofFields [("value", .int documents.length)]),
          ("hits", .array (Listing.cut start.toNat (some size.toNat) documents))]
      (.answered ⟨200, some "OK", .document (.ofFields [("hits", found)])⟩, link)
    | .terms _ => (.presenters [], link)
  directory := .holding []
  caller := ⟨⟨"org", ""⟩, ⟨"admin", none, none, none, none⟩⟩

theorem Sources.holdsThemes_shelf (reach : Int) (documents : List Json) :
    (Sources.shelf reach documents).HoldsThemes documents := by
  intro start size link
  refine ⟨_, rfl, ?_⟩
  exact ⟨_, _, rfl, rfl, rfl, .nested rfl⟩

/-! ### Pages and the whole -/

/-- A page that ends at the result window is a part of the listing of all hits before it. -/
theorem Theme.entries_listing_page (descriptions : Bool) {hits : List ThemeHit}
    (h : (hits.map (·.theme.identifier)).Nodup) (start size reach : Nat) :
    (Theme.listing descriptions (.part hits start (min size (reach - start)))).entries =
      Listing.cut start (some size) (Theme.listing descriptions (.part hits 0 reach)).entries := by
  rw [Theme.entries_listing_part descriptions h, Theme.entries_listing_part descriptions h,
    ← Listing.cut_take]
  rfl

/-- **The pages of one size tile the listing without a window.**  It lists the hits before the
result window in the order of the index, and it is recorded that there are more exactly if there
are.  This takes it that the number of the hits and their identifiers can be written, and the size
of the pages; no page of another size comes about. -/
theorem theme_pages_tile {documents : List Json} {hits : List ThemeHit}
    (hholds : sources.HoldsThemes documents) (hread : readHits documents = .ok hits)
    (hdistinct : (hits.map (·.theme.identifier)).Nodup) (hshort : HitsWritable hits) {reach : Nat}
    (hreach : sources.index.window = reach) (hbelow : (reach : Int) < Theme.unbounded)
    (descriptions : Bool) {size : Nat} (hsize : 0 < size) :
    let list := Provider.themes.list sources (ThemesList.labelled descriptions).listName
    ∃ whole : Listing,
      whole.entries = (hits.take reach).map (ThemeHit.entry descriptions) ∧
      (∀ link, (list none link).outcome = .ok whole ∧
        (list none link).events.filter (fun event => event.level = .warning) =
          if reach < hits.length then [.pageCut reach hits.length reach] else []) ∧
      (Numeral.Writable size → ∀ link, ∃ pages,
        (Action.forEach (fun page => list (some ⟨some (page * size), some size⟩))
          (List.range (hits.length ⌈/⌉ size)) link).outcome = .ok pages ∧
        pages.flatMap (·.entries) = whole.entries) ∧
      (¬ Numeral.Writable size → ∀ page link,
        (list (some ⟨some (page * size), some size⟩) link).outcome = .error .unwritable) := by
  intro list
  have hlist (window : Option Window) : list window = themeListing sources
      (ThemesList.labelled descriptions).listName window descriptions :=
    list_labelled sources descriptions window
  have hindex : sources.index.Writable := Or.inl (hreach ▸ Int.natCast_nonneg reach)
  let listing (start size : Nat) : Listing := Theme.listing descriptions (.part hits start size)
  have hwhole : (listing 0 reach).entries = (hits.map (ThemeHit.entry descriptions)).take reach :=
    Theme.entries_listing_part descriptions hdistinct 0 reach
  refine ⟨listing 0 reach, hwhole.trans List.map_take.symm, fun link => ?_,
    fun hwritable link => ?_, fun hlong page link => ?_⟩
  · rw [hlist, ← Theme.cutEvent?_query_none sources.caller hreach hbelow]
    exact hholds.run_listing hread hshort (by decide) hindex rfl
      (Theme.pageSize_query_none _ hreach hbelow)
      (ThemesList.labelled descriptions).listName descriptions link
  · have hpage (page : Nat) (hmem : page ∈ List.range (hits.length ⌈/⌉ size)) (link : σ) :
        (list (some ⟨some (page * size), some size⟩) link).outcome =
          .ok (listing (page * size) (min size (reach - page * size))) := by
      -- a page starts at one of the hits
      have hbefore : page * size < hits.length := by
        rw [Nat.mul_comm]
        exact Nat.lt_of_not_le (mt (ceilDiv_le_iff_le_mul hsize).2
          (Nat.not_le.2 (List.mem_range.1 hmem)))
      have hwindow : Window.Writable (some ⟨some (page * size), some size⟩) :=
        Window.writable_some_iff.2
          ⟨Numeral.writable_natCast_of_le hshort.1 hbefore.le, hwritable⟩
      rw [hlist]
      exact (hholds.run_listing hread hshort hwindow hindex rfl
        (Theme.pageSize_query_some _ hreach (page * size) size)
        (ThemesList.labelled descriptions).listName descriptions link).1
    have hlength : (listing 0 reach).entries.length ≤ hits.length := by
      rw [hwhole]
      exact (List.length_take_le' ..).trans_eq (List.length_map _)
    have hcovers : hits.length ≤ hits.length ⌈/⌉ size * size := by
      rw [Nat.mul_comm]
      exact le_smul_ceilDiv hsize
    refine ⟨_, Action.outcome_forEach hpage link, ?_⟩
    rw [List.flatMap_map]
    simp only [listing, Theme.entries_listing_page descriptions hdistinct]
    exact Listing.flatMap_cut_of_length_le (hlength.trans hcovers)
  · have hwindow : ¬ Window.Writable (some ⟨some (page * size), some size⟩) :=
      fun h => hlong (Window.writable_some_iff.1 h).2
    rw [hlist, themeListing_of_not_writable _ _ hwindow]

/-- Pages of two on a shelf of three, of which the index gives two. -/
theorem theme_pages_tile_shelf :
    let sources := Sources.shelf 2
      [.themeDocument 7 "Alpine", .themeDocument 4 "Beach", .themeDocument 9 "City"]
    let list := Provider.themes.list sources "THEMES.NAME"
    ∃ whole : Listing, whole.entries = [⟨"7", "Alpine"⟩, ⟨"4", "Beach"⟩] ∧
      (list none ()).outcome = .ok whole ∧
      (list none ()).events.filter (fun event => event.level = .warning) = [.pageCut 2 3 2] ∧
      ∃ pages,
        (Action.forEach (fun page => list (some ⟨some (page * 2), some 2⟩)) [0, 1] ()).outcome =
          .ok pages ∧
        pages.flatMap (·.entries) = whole.entries := by
  intro sources list
  have hread : readHits [.themeDocument 7 "Alpine", .themeDocument 4 "Beach",
      .themeDocument 9 "City"] = .ok [⟨⟨7, "Alpine", none, none, none, false⟩, .zero⟩,
        ⟨⟨4, "Beach", none, none, none, false⟩, .zero⟩,
        ⟨⟨9, "City", none, none, none, false⟩, .zero⟩] := by
    rfl
  have hreach : sources.index.window = (2 : Nat) := rfl
  obtain ⟨whole, hentries, hwhole, hpages⟩ := theme_pages_tile (Sources.holdsThemes_shelf 2 _) hread
    (by decide) ⟨by decide, by decide⟩ hreach (by decide) false Nat.zero_lt_two
  exact ⟨whole, hentries, (hwhole ()).1, (hwhole ()).2, hpages.1 (by decide) ()⟩

end Picklists

import Mathlib.Data.Int.Interval
import Mathlib.Data.Set.Card
import Picklists.Proofs.PageReading
import Picklists.Proofs.ThemeWindow

/-!
# Pages that the result window cuts

A query for themes asks for some positions of the index, and the result window keeps out those that
lie beyond it.

* `ThemeQuery.wanted` : the positions that a query asks for.  The size of the request is the number
  of those inside the window (`SearchIndex.pageSize_eq_ncard`).
* `SearchIndex.KeepsOut` : a page lacks a theme that exists and was asked for.
* `SearchIndex.themes_cut` : **a cut is recorded exactly if the window keeps out a theme**.
* `themes_unlimited` : **listings without a limit**, which ask for the positions below
  `Theme.unbounded`.  They record a cut as long as the offset and the window lie below it
  (`themes_unlimited_silent`).
-/

namespace Picklists

/-! ### Positions -/

/-- The positions that a query asks for. -/
def ThemeQuery.wanted (query : ThemeQuery) : Set Int :=
  {position | max 0 query.offset ≤ position ∧ position < max 0 query.offset + query.limit}

namespace SearchIndex

variable (index : SearchIndex) (query : ThemeQuery)

/-- A request is for as many themes as the query asks for inside the window. -/
theorem pageSize_eq_ncard :
    index.pageSize query = {position ∈ query.wanted | position < index.window}.ncard := by
  let start := max 0 query.offset
  -- an empty interval if the limit is negative or the query starts beyond the window
  have hinside : {position ∈ query.wanted | position < index.window} =
      Finset.Ico start (min (start + query.limit) index.window) := by
    ext position
    simp only [ThemeQuery.wanted, Set.mem_ofPred_eq, SetLike.mem_coe, Finset.mem_Ico, start]
    omega
  rw [hinside, Set.ncard_coe_finset, Int.card_Ico, pageSize]
  omega

/-- The result window keeps out a theme: one that exists is asked for, and it comes after those
that the request is for. -/
def KeepsOut (hitCount : Int) : Prop :=
  ∃ position ∈ query.wanted,
    max 0 query.offset + index.pageSize query ≤ position ∧ position < hitCount

variable {index query} {hitCount : Int}

theorem keepsOut_iff :
    index.KeepsOut query hitCount ↔
      index.pageSize query < query.limit ∧
        max 0 query.offset + index.pageSize query < hitCount := by
  have hsize := pageSize_nonneg query index
  simp only [KeepsOut, ThemeQuery.wanted, Set.mem_ofPred_eq]
  constructor
  · rintro ⟨position, hwanted, hafter, hexists⟩
    omega
  · rintro ⟨hlimit, hcount⟩
    -- the first position after the request is kept out
    exact ⟨max 0 query.offset + index.pageSize query, by omega, le_rfl, hcount⟩

/-- What is kept out lies beyond the window. -/
theorem keepsOut_iff_beyond :
    index.KeepsOut query hitCount ↔
      ∃ position ∈ query.wanted, index.window ≤ position ∧ position < hitCount := by
  -- all, some or none of what is asked for lies inside the window
  have hbeyond (position : Int) (h : position ∈ query.wanted) :
      max 0 query.offset + index.pageSize query ≤ position ↔ index.window ≤ position := by
    obtain ⟨hstart, hend⟩ := h
    unfold pageSize
    omega
  constructor
  · rintro ⟨position, hwanted, hafter, hexists⟩
    exact ⟨position, hwanted, (hbeyond position hwanted).1 hafter, hexists⟩
  · rintro ⟨position, hwanted, hafter, hexists⟩
    exact ⟨position, hwanted, (hbeyond position hwanted).2 hafter, hexists⟩

theorem cutEvent?_of_keepsOut {page : ThemePage} (h : index.KeepsOut query page.hitCount) :
    index.cutEvent? query page = some (.pageCut (index.pageSize query)
      (page.hitCount - max 0 query.offset) index.window) :=
  if_pos (keepsOut_iff.1 h)

theorem cutEvent?_of_not_keepsOut {page : ThemePage} (h : ¬ index.KeepsOut query page.hitCount) :
    index.cutEvent? query page = none :=
  if_neg (mt keepsOut_iff.2 h)

/-! ### One page -/

variable {exchange : Exchange} {page : ThemePage}

/-- A page that lacks nothing is given as it is. -/
theorem answerPage_of_not_keepsOut (h : ¬ index.KeepsOut query page.hitCount) :
    index.answerPage query page = (.ok page, []) := by
  rw [answerPage, cutEvent?_of_not_keepsOut h]

/-- A page that lacks a theme is given if this can be recorded. -/
theorem answerPage_of_keepsOut (hquery : query.Writable) (h : index.KeepsOut query page.hitCount) :
    let remaining := page.hitCount - max 0 query.offset
    index.answerPage query page =
      if Numeral.Writable remaining ∧ Numeral.Writable index.window then
        (.ok page, [.pageCut (index.pageSize query) remaining index.window])
      else (.error .unwritable, []) := by
  intro remaining
  have hsize : Numeral.Writable (index.pageSize query) := by
    obtain ⟨hcut, -⟩ := keepsOut_iff.1 h
    have hpositive := pageSize_nonneg query index
    exact hquery.2.of_natAbs_le (by omega)
  simp only [answerPage, cutEvent?_of_keepsOut h, Event.writable_pageCut_iff, hsize, true_and,
    remaining]

/-- The only warning about a page is that it is cut. -/
theorem filter_answerPage (index : SearchIndex) (query : ThemeQuery) (page : ThemePage) :
    (Event.queryingThemes query :: (index.answerPage query page).2).filter
      (fun event => event.level = .warning) = (index.answerPage query page).2 := by
  rw [List.filter_cons_of_neg Bool.false_ne_true]
  refine List.filter_eq_self.2 fun event hevent => ?_
  exact decide_eq_true (level_of_mem_cutEvent? (mem_cutEvent?_of_mem_answerPage hevent))

/-- The bounds of a page are those of the request. -/
theorem bounds_of_readThemes (h : index.readThemes query exchange = .ok page) :
    page.offset = max 0 query.offset ∧ page.limit = index.pageSize query := by
  obtain ⟨answer, -, hpage⟩ := readPage_of_readThemes h
  exact bounds_of_readPage hpage

variable {σ : Type} (transport : Transport σ) (link : σ)

/-- **A cut is recorded exactly if the window keeps out a theme**, whatever the offset, the limit
and the window are.  The request is for the positions that are asked for inside the window, and this
is what a page that is read says about itself.  If a theme that exists is asked for and comes after
them, this is the only warning, with the number of themes from the start of the page on, which is
larger than the page; otherwise there is no warning.

A query that cannot be written is not sent, and a page about which this warning cannot be written is
not given.  That takes a total, or a negative window, of more digits than can be written. -/
theorem themes_cut (index : SearchIndex) (query : ThemeQuery) :
    let run := index.themes transport query link
    let exchange := (transport (index.themesPost query) link).1
    let start : Int := max 0 query.offset
    let size : Int := {position ∈ query.wanted | position < index.window}.ncard
    (¬ query.Writable → run.outcome = .error .unwritable ∧ run.posts = [] ∧ run.warnings = []) ∧
    (query.Writable →
      run.posts = [⟨index.searchUrl themeType, index.timeout,
        .themes start size query.organization query.sort⟩] ∧
      ∀ page, index.readThemes query exchange = .ok page →
        let remaining := page.hitCount - start
        let Lacks : Prop :=
          ∃ position ∈ query.wanted, start + size ≤ position ∧ position < page.hitCount
        let Told : Prop := Numeral.Writable remaining ∧ Numeral.Writable index.window
        page.limit = size ∧
        (Lacks → size < remaining ∧
          (Told → run.outcome = .ok page ∧
            run.warnings = [.pageCut size remaining index.window]) ∧
          (¬ Told → run.outcome = .error .unwritable ∧ run.warnings = []) ∧
          (index.Writable → Numeral.Writable page.hitCount → Told)) ∧
        (¬ Lacks → run.outcome = .ok page ∧ run.warnings = []) ∧
        (Lacks ↔
          ∃ position ∈ query.wanted, index.window ≤ position ∧ position < page.hitCount)) := by
  intro run exchange start size
  refine ⟨fun hquery => ?_, fun hquery => ?_⟩
  · have hrun : run = _ := index.run_themes_of_not_writable transport query hquery link
    rw [hrun]
    exact ⟨rfl, rfl, rfl⟩
  have hrun : run = _ := index.run_themes transport query hquery link
  have hsize : size = index.pageSize query := (index.pageSize_eq_ncard query).symm
  rw [hsize]
  refine ⟨congrArg Run.posts hrun, fun page hread => ?_⟩
  -- the page that is read decides what comes of the query and what is recorded about it
  have hanswer : index.answerThemes query exchange = index.answerPage query page :=
    answerThemes_of_page hread
  have houtcome : run.outcome = (index.answerPage query page).1 := by
    rw [hrun]
    exact congrArg Prod.fst hanswer
  have hwarnings : run.warnings = (index.answerPage query page).2 := by
    rw [Run.warnings, hrun]
    exact hanswer ▸ filter_answerPage index query page
  refine ⟨(bounds_of_readThemes hread).2, fun hlacks => ⟨?_, fun htold => ?_, fun htold => ?_,
    fun hindex hcount => ?_⟩, fun hlacks => ?_, keepsOut_iff_beyond⟩
  · obtain ⟨-, hcount⟩ := keepsOut_iff.1 hlacks
    omega
  · rw [houtcome, hwarnings, answerPage_of_keepsOut hquery hlacks, if_pos htold]
    exact ⟨rfl, rfl⟩
  · rw [houtcome, hwarnings, answerPage_of_keepsOut hquery hlacks, if_neg htold]
    exact ⟨rfl, rfl⟩
  · have hevent := writable_of_mem_cutEvent? hquery hindex hcount (cutEvent?_of_keepsOut hlacks)
    exact (Event.writable_pageCut_iff.1 hevent).2
  · rw [houtcome, hwarnings, answerPage_of_not_keepsOut hlacks]
    exact ⟨rfl, rfl⟩

/-- Of five themes from the place 98 on, a window of 100 places keeps out three. -/
theorem themes_cut_last_places :
    let index : SearchIndex := .connect "http://localhost:9200" "opencast" (.whole 10) 100
    let answer : Json := .ofFields [("hits", .ofFields [("total", .int 500)])]
    let transport : Transport Unit := fun _ link =>
      (.answered ⟨200, some "OK", .document answer⟩, link)
    let run := index.themes transport ⟨"org", none, 98, 5, none⟩ ()
    run.outcome = .ok ⟨[], 500, 98, 2⟩ ∧ run.warnings = [.pageCut 2 402 100] := by
  intro index answer transport run
  obtain ⟨-, hpage⟩ := (themes_cut transport () index ⟨"org", none, 98, 5, none⟩).2 (by decide)
  obtain ⟨-, hcut, -⟩ := hpage ⟨[], 500, 98, 2⟩ rfl
  rw [← pageSize_eq_ncard] at hcut
  obtain ⟨-, htold, -⟩ := hcut ⟨100, ⟨by decide, by decide⟩, by decide, by decide⟩
  exact htold (by decide)

end SearchIndex

/-! ### Listings without a limit -/

namespace Theme

variable {window : Option Window} (h : window.bind (·.limit) = none) (caller : Caller)
include h

/-- Without a limit, a query asks for the positions below `unbounded`. -/
theorem limit_query : (query caller window).limit = unbounded - (query caller window).offset := by
  simp only [query, h]

/-- The request of a query without a limit ends at the window or at `unbounded`, at the lower of the
two. -/
theorem pageSize_query (index : SearchIndex) :
    index.pageSize (query caller window) =
      max 0 (min index.window unbounded - (query caller window).offset) := by
  have hoffset : 0 ≤ (query caller window).offset := Int.natCast_nonneg _
  rw [SearchIndex.pageSize, limit_query h]
  omega

/-- A query without a limit lacks a theme that comes after its request exactly if both its offset
and the window are below `unbounded`. -/
theorem keepsOut_query_iff {index : SearchIndex} {hitCount : Int}
    (hmore : (query caller window).offset + index.pageSize (query caller window) < hitCount) :
    index.KeepsOut (query caller window) hitCount ↔
      (query caller window).offset < unbounded ∧ index.window < unbounded := by
  have hoffset : 0 ≤ (query caller window).offset := Int.natCast_nonneg _
  rw [SearchIndex.keepsOut_iff, limit_query h]
  rw [pageSize_query h] at hmore ⊢
  omega

end Theme

variable {σ : Type}

/-- A window without a limit can be written exactly if its offset can. -/
theorem Window.writable_iff_of_no_limit {window : Option Window}
    (hlimit : window.bind (·.limit) = none) :
    Writable window ↔ Numeral.Writable ((window.bind (·.offset)).getD 0 : Nat) := by
  rw [Writable, hlimit]
  cases window.bind (·.offset) with
  | none => simpa using show Numeral.Writable 0 by decide
  | some offset => simp

/-- **Listings without a limit.**  The limit that is handed to the index is `Theme.unbounded` less
the offset, and the request is for the themes up to the window, as far as they lie below
`Theme.unbounded`.  If there are more themes than that, a cut is recorded exactly if both the offset
and the window are below `Theme.unbounded`.

An offset that is too long to be written is not handed on, and a cut is not recorded if the total is
too long, or a negative window. -/
theorem themes_unlimited (sources : Sources σ) {listName : String}
    (hname : listName = "THEMES.NAME" ∨ listName = "THEMES.DESCRIPTION")
    {window : Option Window} (hlimit : window.bind (·.limit) = none) (link : σ) :
    let run := Provider.themes.list sources listName window link
    let start : Int := ((window.bind (·.offset)).getD 0 : Nat)
    let reach := sources.index.window
    let size : Int := max 0 (min reach Theme.unbounded - start)
    (Numeral.Writable start →
      (∃ query : ThemeQuery, run.events.head? = some (.queryingThemes query) ∧
        query.offset = start ∧ query.limit = Theme.unbounded - start ∧
        (0 ≤ query.limit ↔ start ≤ Theme.unbounded)) ∧
      run.posts = [⟨sources.index.searchUrl themeType, sources.index.timeout,
        .themes start size sources.caller.organization.id (some .ascending)⟩]) ∧
    (¬ Numeral.Writable start →
      run.outcome = .error .unwritable ∧ run.posts = [] ∧ run.events = []) ∧
    (size = max 0 (reach - start) ↔ reach ≤ Theme.unbounded ∨ reach ≤ start) ∧
    ∀ page, sources.themesPage window link = .ok page → start + size < page.hitCount →
      run.warnings =
        if start < Theme.unbounded ∧ reach < Theme.unbounded ∧
            Numeral.Writable (page.hitCount - start) ∧ Numeral.Writable reach then
          [.pageCut size (page.hitCount - start) reach]
        else [] := by
  intro run start reach size
  obtain ⟨descriptions, hlist⟩ := exists_themeListing sources hname window
  have hrun : run = themeListing sources listName window descriptions link := congrFun hlist link
  let query := Theme.query sources.caller window
  have hstart : max 0 query.offset = start := max_eq_right (Int.natCast_nonneg _)
  have hsize : sources.index.pageSize query = size := Theme.pageSize_query hlimit _ _
  have hwindow : Window.Writable window ↔ Numeral.Writable start :=
    Window.writable_iff_of_no_limit hlimit
  refine ⟨fun hshort => ⟨⟨query, ?_, rfl, Theme.limit_query hlimit _, ?_⟩, ?_⟩, fun hlong => ?_, ?_,
    fun page hpage hmore => ?_⟩
  · obtain ⟨outcome, rest, hends⟩ :=
      exists_run_themeListing listName descriptions (hwindow.2 hshort)
    rw [hrun, hends]
    rfl
  · rw [Theme.limit_query hlimit]
    exact sub_nonneg
  · rw [hrun, posts_themeListing, if_pos (hwindow.2 hshort), Sources.themesPost,
      SearchIndex.themesPost, SearchIndex.themesBody, hsize, hstart]
    rfl
  · rw [hrun, themeListing_of_not_writable listName descriptions (mt hwindow.1 hlong)]
    exact ⟨rfl, rfl, rfl⟩
  · omega
  -- a window that cannot be written records nothing, and then its offset is beyond `unbounded`
  by_cases hshort : Window.Writable window
  · have hwarnings : run.warnings = (sources.index.answerPage query page).2 := by
      rw [Run.warnings, hrun, themeListing_of_page listName descriptions hshort hpage]
      exact SearchIndex.filter_answerPage sources.index query page
    have hquery : query.Writable := (Theme.writable_query_iff _ _).2 hshort
    have hkept : sources.index.KeepsOut query page.hitCount ↔ _ :=
      Theme.keepsOut_query_iff hlimit sources.caller (hsize.symm ▸ hmore)
    by_cases hbelow : start < Theme.unbounded ∧ reach < Theme.unbounded
    · rw [hwarnings, SearchIndex.answerPage_of_keepsOut hquery (hkept.2 hbelow), hsize, hstart]
      simp only [hbelow, true_and, reach]
      split <;> rfl
    · rw [hwarnings, SearchIndex.answerPage_of_not_keepsOut (mt hkept.1 hbelow)]
      exact (if_neg fun h => hbelow ⟨h.1, h.2.1⟩).symm
  · rw [hrun, themeListing_of_not_writable listName descriptions hshort]
    refine (if_neg fun h => hshort (hwindow.2 ?_)).symm
    have hunbounded : Numeral.Writable Theme.unbounded := by decide
    exact hunbounded.of_natAbs_le (by omega)

/-- Of twenty thousand themes, ten come before the end of the window. -/
theorem themes_unlimited_end :
    let answer : Json := .ofFields [("hits", .ofFields [("total", .int 20000)])]
    let sources := Sources.constant (.answered ⟨200, some "OK", .document answer⟩) []
    let window : Option Window := some ⟨some 9990, none⟩
    let run := Provider.themes.list sources "THEMES.DESCRIPTION" window ()
    sources.themesPage window () = .ok ⟨[], 20000, 9990, 10⟩ ∧
      run.warnings = [.pageCut 10 10010 10000] := by
  intro answer sources window run
  have hlimit : window.bind (·.limit) = none := rfl
  have hpage : sources.themesPage window () = .ok ⟨[], 20000, 9990, 10⟩ := rfl
  obtain ⟨-, -, -, hcut⟩ := themes_unlimited sources (Or.inr rfl) hlimit ()
  exact ⟨hpage, (hcut _ hpage (by decide)).trans (if_pos (by decide))⟩

/-- An offset beyond `Theme.unbounded` makes a negative limit, and a theme that comes after it is
left out without a warning. -/
theorem themes_unlimited_silent :
    let answer : Json := .ofFields [("hits", .ofFields [("total", .int 2147483649)])]
    let sources := Sources.constant (.answered ⟨200, some "OK", .document answer⟩) []
    let window : Option Window := some ⟨some 2147483648, none⟩
    let query := Theme.query sources.caller window
    let run := Provider.themes.list sources "THEMES.NAME" window ()
    run.events = [.queryingThemes query] ∧ query.limit < 0 ∧
      (∃ page, sources.themesPage window () = .ok page ∧
        query.offset + sources.index.pageSize query < page.hitCount) ∧
      run.warnings = [] :=
  ⟨rfl, by decide, ⟨_, rfl, by decide⟩, rfl⟩

end Picklists

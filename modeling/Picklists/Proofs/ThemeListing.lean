import Picklists.Proofs.ThemeDocuments

/-!
# How listings of themes end

A listing of the names or of the descriptions of themes asks the index once.  What comes of it is a
function of the exchange that takes place.

* `themeListing` : the work behind both listings (`listThemes_names`, `listThemes_descriptions`).
* `themeListing_of_answer`, `themeListing_of_fault`, `themeListing_of_error` : its run for a page,
  for an unusable answer, and for any other failure; `exists_run_themeListing` : what is common to
  them. For a window that cannot be written, nothing is asked for (`themeListing_of_not_writable`).
* `themes_end` : **every listing of themes ends in one of three ways**: it has a result and records
  no error; or it is unavailable under the requested name, and its last event is its only error; or
  the exchange raised a failure that is no answer of the index, which comes out as it is.  All this
  takes it that the numbers involved can be written.
-/

namespace Picklists

variable {σ : Type}

/-- The page behind a listing, or the record that the listing is unavailable. -/
def askThemes (sources : Sources σ) (listName : String) (window : Option Window) :
    Action σ ThemePage :=
  Action.onIndexFault
    (sources.index.themes sources.transport (Theme.query sources.caller window)) fun fault => do
      Action.log (.themesUnavailable fault)
      Action.fail (.unavailable listName)

/-- The work behind the listings of names and of descriptions. -/
def themeListing (sources : Sources σ) (listName : String) (window : Option Window)
    (descriptions : Bool) : Action σ Listing := do
  let page ← askThemes sources listName window
  Action.written (Theme.listing? descriptions page)

theorem listThemes_names (sources : Sources σ) (window : Option Window) :
    listThemes sources "THEMES.NAME" window =
      themeListing sources "THEMES.NAME" window false := rfl

theorem listThemes_descriptions (sources : Sources σ) (window : Option Window) :
    listThemes sources "THEMES.DESCRIPTION" window =
      themeListing sources "THEMES.DESCRIPTION" window true := rfl

/-- What a list name stands for does not depend on the sources: either nothing, or one of the two
listings. -/
theorem listThemes_cases (listName : String) :
    (∀ (sources : Sources σ) window, listThemes sources listName window = Action.pure .empty) ∨
      ∃ descriptions, ∀ (sources : Sources σ) window,
        listThemes sources listName window =
          themeListing sources listName window descriptions := by
  cases hlookup : ThemesList.lookup? listName with
  | none =>
    refine Or.inl fun sources window => ?_
    simp only [listThemes, hlookup]
    rfl
  | some list =>
    cases list with
    | common =>
      refine Or.inl fun sources window => ?_
      simp only [listThemes, hlookup]
      rfl
    | names =>
      refine Or.inr ⟨false, fun sources window => ?_⟩
      simp only [listThemes, hlookup, themeListing, askThemes]
    | descriptions =>
      refine Or.inr ⟨true, fun sources window => ?_⟩
      simp only [listThemes, hlookup, themeListing, askThemes]

/-- The request behind a listing of themes. -/
def Sources.themesPost (sources : Sources σ) (window : Option Window) : Post :=
  sources.index.themesPost (Theme.query sources.caller window)

/-- The exchange behind a listing of themes. -/
def Sources.themesExchange (sources : Sources σ) (window : Option Window) (link : σ) : Exchange :=
  (sources.transport (sources.themesPost window) link).1

/-- The page behind a listing of themes. -/
def Sources.themesPage (sources : Sources σ) (window : Option Window) (link : σ) :
    Except Failure ThemePage :=
  sources.index.readThemes (Theme.query sources.caller window)
    (sources.themesExchange window link)

/-- What comes of asking for this page, and what is recorded about it. -/
def Sources.themesAnswer (sources : Sources σ) (window : Option Window) (link : σ) :
    Except Failure ThemePage × List Event :=
  sources.index.answerThemes (Theme.query sources.caller window) (sources.themesExchange window link)

/-- What the index records while a listing of themes is made. -/
def Sources.themesEvents (sources : Sources σ) (window : Option Window) (link : σ) : List Event :=
  .queryingThemes (Theme.query sources.caller window) :: (sources.themesAnswer window link).2

section

variable {sources : Sources σ} {window : Option Window} {link : σ}

/-- The index records no errors; that is for those who ask it. -/
theorem level_of_mem_themesEvents {event : Event} (h : event ∈ sources.themesEvents window link) :
    event.level ≠ .error := by
  rcases List.mem_cons.1 h with rfl | hread
  · exact Level.noConfusion
  · rw [SearchIndex.level_of_mem_answerThemes hread]
    exact Level.noConfusion

theorem filter_themesEvents :
    (sources.themesEvents window link).filter (fun event => event.level = .error) = [] :=
  List.filter_eq_nil_iff.2 fun _ hevent => by simpa using level_of_mem_themesEvents hevent

theorem filter_themesEvents_append (fault : IndexFault) :
    (sources.themesEvents window link ++ [Event.themesUnavailable fault]).filter
      (fun event => event.level = .error) = [.themesUnavailable fault] := by
  rw [List.filter_append, filter_themesEvents]
  rfl

/-! ### Answers -/

theorem Failure.unwritable_ne_index (fault : IndexFault) : Failure.unwritable ≠ .index fault := by
  intro h
  cases h

/-- What comes of a page that is read. -/
theorem themesAnswer_of_page {page : ThemePage} (h : sources.themesPage window link = .ok page) :
    sources.themesAnswer window link =
      sources.index.answerPage (Theme.query sources.caller window) page :=
  SearchIndex.answerThemes_of_page h

/-- What comes of a page that is read and whose number of themes can be written. -/
theorem themesAnswer_of_writable (hwindow : Window.Writable window)
    (hindex : sources.index.Writable) {page : ThemePage}
    (h : sources.themesPage window link = .ok page) (hcount : Numeral.Writable page.hitCount) :
    sources.themesAnswer window link = (.ok page,
      (sources.index.cutEvent? (Theme.query sources.caller window) page).toList) := by
  rw [themesAnswer_of_page h]
  exact SearchIndex.answerPage_of_writable ((Theme.writable_query_iff _ _).2 hwindow) hindex hcount

/-- An answer without a page is unusable, or it is raised by the exchange, or it would have to be
recorded that a page ends too early, and this cannot be written. -/
theorem themesAnswer_eq_error {failure : Failure}
    (h : (sources.themesAnswer window link).1 = .error failure) :
    (∃ fault, failure = .index fault) ∨
      (sources.themesExchange window link).Raises (sources.index.searchUrl themeType) failure ∨
      failure = .unwritable ∧ ∃ page, sources.themesPage window link = .ok page := by
  cases hpage : sources.themesPage window link with
  | error cause =>
    cases (SearchIndex.answerThemes_of_error hpage).symm.trans h
    exact (SearchIndex.index_or_raises_of_readThemes hpage).imp_right Or.inl
  | ok page =>
    rw [themesAnswer_of_page hpage] at h
    rcases SearchIndex.outcome_answerPage sources.index _ page with hgiven | hlong
    · cases hgiven.symm.trans h
    · cases hlong.symm.trans h
      exact Or.inr (Or.inr ⟨rfl, page, rfl⟩)

/-- An answer with a page has the page that is read. -/
theorem themesPage_of_answer {page : ThemePage}
    (h : (sources.themesAnswer window link).1 = .ok page) :
    sources.themesPage window link = .ok page := by
  cases hpage : sources.themesPage window link with
  | error cause => cases (SearchIndex.answerThemes_of_error hpage).symm.trans h
  | ok other =>
    rw [themesAnswer_of_page hpage] at h
    rcases SearchIndex.outcome_answerPage sources.index _ other with hgiven | hlong
    · cases hgiven.symm.trans h
      rfl
    · cases hlong.symm.trans h

/-! ### Runs -/

variable (listName : String) (descriptions : Bool)

/-- A listing for a window that cannot be written asks for nothing. -/
theorem themeListing_of_not_writable (hwindow : ¬ Window.Writable window) :
    themeListing sources listName window descriptions link =
      ⟨.error .unwritable, [], [], link⟩ := by
  have hrun := sources.index.run_themes_of_not_writable sources.transport
    (Theme.query sources.caller window) (mt (Theme.writable_query_iff _ _).1 hwindow) link
  have hask : askThemes sources listName window link = ⟨.error .unwritable, [], [], link⟩ := by
    rw [askThemes, Action.onIndexFault_of_error (congrArg Run.outcome hrun)
      Failure.unwritable_ne_index, hrun]
  rw [themeListing, Action.bind_of_error (congrArg Run.outcome hask), hask]

/-- The run of the query behind a listing of themes. -/
theorem run_themes_query (hwindow : Window.Writable window) :
    sources.index.themes sources.transport (Theme.query sources.caller window) link =
      ⟨(sources.themesAnswer window link).1, [sources.themesPost window],
        sources.themesEvents window link, (sources.transport (sources.themesPost window) link).2⟩ :=
  sources.index.run_themes sources.transport _ ((Theme.writable_query_iff _ _).2 hwindow) link

theorem themeListing_of_answer (hwindow : Window.Writable window) {page : ThemePage}
    (h : (sources.themesAnswer window link).1 = .ok page) :
    themeListing sources listName window descriptions link =
      ⟨Theme.listed descriptions page, [sources.themesPost window],
        sources.themesEvents window link,
        (sources.transport (sources.themesPost window) link).2⟩ := by
  have hrun := @run_themes_query _ sources _ link hwindow
  have hpage := (congrArg Run.outcome hrun).trans h
  have hask : askThemes sources listName window link = _ :=
    (Action.onIndexFault_of_ok hpage).trans hrun
  rw [themeListing, Action.bind_of_ok ((congrArg Run.outcome hask).trans h), hask,
    Theme.run_written_listing?]
  simp [Run.followedBy]

theorem themeListing_of_fault (hwindow : Window.Writable window) {fault : IndexFault}
    (h : (sources.themesAnswer window link).1 = .error (.index fault)) :
    themeListing sources listName window descriptions link =
      ⟨.error (.unavailable listName), [sources.themesPost window],
        sources.themesEvents window link ++ [.themesUnavailable fault],
        (sources.transport (sources.themesPost window) link).2⟩ := by
  have hrun := @run_themes_query _ sources _ link hwindow
  have hfault := (congrArg Run.outcome hrun).trans h
  have hask : askThemes sources listName window link =
      ⟨.error (.unavailable listName), [sources.themesPost window],
        sources.themesEvents window link ++ [.themesUnavailable fault],
        (sources.transport (sources.themesPost window) link).2⟩ := by
    rw [askThemes, Action.onIndexFault_of_index hfault, hrun]
    rfl
  rw [themeListing, Action.bind_of_error (congrArg Run.outcome hask), hask]

theorem themeListing_of_error (hwindow : Window.Writable window) {failure : Failure}
    (h : (sources.themesAnswer window link).1 = .error failure)
    (hother : ∀ fault, failure ≠ .index fault) :
    themeListing sources listName window descriptions link =
      ⟨.error failure, [sources.themesPost window], sources.themesEvents window link,
        (sources.transport (sources.themesPost window) link).2⟩ := by
  have hrun := @run_themes_query _ sources _ link hwindow
  have hfails := (congrArg Run.outcome hrun).trans h
  have hask : askThemes sources listName window link = _ :=
    (Action.onIndexFault_of_error hfails hother).trans hrun
  rw [themeListing, Action.bind_of_error ((congrArg Run.outcome hask).trans h), hask]

/-- A page that the index gives is listed. -/
theorem outcome_themeListing {page : ThemePage}
    (h : (sources.index.themes sources.transport (Theme.query sources.caller window) link).outcome =
      .ok page) :
    (themeListing sources listName window descriptions link).outcome =
      Theme.listed descriptions page := by
  by_cases hwindow : Window.Writable window
  · rw [run_themes_query hwindow] at h
    rw [themeListing_of_answer listName descriptions hwindow h]
  · rw [sources.index.run_themes_of_not_writable _ _
      (mt (Theme.writable_query_iff _ _).1 hwindow)] at h
    cases h

/-- A listing records about a page that is read what the index records about it. -/
theorem themeListing_of_page (hwindow : Window.Writable window) {page : ThemePage}
    (h : sources.themesPage window link = .ok page) :
    (themeListing sources listName window descriptions link).events =
      .queryingThemes (Theme.query sources.caller window) ::
        (sources.index.answerPage (Theme.query sources.caller window) page).2 := by
  have hanswer := themesAnswer_of_page h
  rw [← hanswer]
  cases houtcome : (sources.themesAnswer window link).1 with
  | ok given =>
    rw [themeListing_of_answer listName descriptions hwindow houtcome]
    rfl
  | error failure =>
    have hunwritable : failure = .unwritable := by
      rw [hanswer] at houtcome
      rcases SearchIndex.outcome_answerPage sources.index _ page with hgiven | hlong
      · cases hgiven.symm.trans houtcome
      · cases hlong.symm.trans houtcome
        rfl
    subst hunwritable
    rw [themeListing_of_error listName descriptions hwindow houtcome Failure.unwritable_ne_index]
    rfl

/-- What the exchange raises comes out as it is. -/
theorem themeListing_of_raises (hwindow : Window.Writable window) {failure : Failure}
    (h : (sources.themesExchange window link).Raises (sources.index.searchUrl themeType) failure) :
    themeListing sources listName window descriptions link =
      ⟨.error failure, [sources.themesPost window], sources.themesEvents window link,
        (sources.transport (sources.themesPost window) link).2⟩ :=
  themeListing_of_error listName descriptions hwindow
    (SearchIndex.answerThemes_of_error (SearchIndex.readThemes_of_raises h)) h.ne_index

/-- If the exchange raises nothing, there is a listing, or it is recorded that there is none, or the
exchange or the result window is not bounded. -/
theorem themeListing_of_not_raises (hwindow : Window.Writable window)
    (h : ∀ failure, ¬ (sources.themesExchange window link).Raises
      (sources.index.searchUrl themeType) failure) :
    (∃ page, themeListing sources listName window descriptions link =
      ⟨.ok (Theme.listing descriptions page), [sources.themesPost window],
        sources.themesEvents window link,
        (sources.transport (sources.themesPost window) link).2⟩) ∨
    (∃ fault, themeListing sources listName window descriptions link =
      ⟨.error (.unavailable listName), [sources.themesPost window],
        sources.themesEvents window link ++ [.themesUnavailable fault],
        (sources.transport (sources.themesPost window) link).2⟩) ∨
    ¬ ((sources.themesExchange window link).Bounded ∧ sources.index.Writable) ∧
      themeListing sources listName window descriptions link =
        ⟨.error .unwritable, [sources.themesPost window], sources.themesEvents window link,
          (sources.transport (sources.themesPost window) link).2⟩ := by
  cases hanswer : (sources.themesAnswer window link).1 with
  | ok page =>
    have hrun := themeListing_of_answer listName descriptions hwindow hanswer
    by_cases hpage : page.Writable
    · rw [Theme.listed, if_pos hpage] at hrun
      exact Or.inl ⟨page, hrun⟩
    · rw [Theme.listed, if_neg hpage] at hrun
      refine Or.inr (Or.inr ⟨fun hbounded => hpage ?_, hrun⟩)
      have hread := themesPage_of_answer hanswer
      exact (SearchIndex.writable_of_readThemes hbounded.1 hread).2
  | error failure =>
    rcases themesAnswer_eq_error hanswer with ⟨fault, rfl⟩ | hraises | ⟨rfl, page, hread⟩
    · exact Or.inr (Or.inl ⟨fault, themeListing_of_fault listName descriptions hwindow hanswer⟩)
    · exact absurd hraises (h failure)
    · refine Or.inr (Or.inr ⟨?_, themeListing_of_error listName descriptions hwindow hanswer
        Failure.unwritable_ne_index⟩)
      rintro ⟨hbounded, hindex⟩
      have hcount := (SearchIndex.writable_of_readThemes hbounded hread).1
      rw [themesAnswer_of_writable hwindow hindex hread hcount] at hanswer
      cases hanswer

/-- Whatever comes of it, one request is sent, and what the index records comes first. -/
theorem exists_run_themeListing (hwindow : Window.Writable window) :
    ∃ outcome rest, themeListing sources listName window descriptions link =
      ⟨outcome, [sources.themesPost window], sources.themesEvents window link ++ rest,
        (sources.transport (sources.themesPost window) link).2⟩ := by
  cases hanswer : (sources.themesAnswer window link).1 with
  | ok page =>
    refine ⟨Theme.listed descriptions page, [], ?_⟩
    rw [List.append_nil]
    exact themeListing_of_answer listName descriptions hwindow hanswer
  | error failure =>
    by_cases hindex : ∃ fault, failure = .index fault
    · obtain ⟨fault, rfl⟩ := hindex
      exact ⟨_, _, themeListing_of_fault listName descriptions hwindow hanswer⟩
    · refine ⟨.error failure, [], ?_⟩
      rw [List.append_nil]
      exact themeListing_of_error listName descriptions hwindow hanswer (not_exists.1 hindex)

theorem posts_themeListing :
    (themeListing sources listName window descriptions link).posts =
      if Window.Writable window then [sources.themesPost window] else [] := by
  by_cases hwindow : Window.Writable window
  · obtain ⟨outcome, rest, hrun⟩ :=
      exists_run_themeListing listName descriptions hwindow
    rw [hrun, if_pos hwindow]
  · rw [themeListing_of_not_writable listName descriptions hwindow, if_neg hwindow]

end

/-! ### The ends -/

theorem exists_themeListing (sources : Sources σ) {listName : String}
    (hname : listName = "THEMES.NAME" ∨ listName = "THEMES.DESCRIPTION")
    (window : Option Window) :
    ∃ descriptions, Provider.themes.list sources listName window =
      themeListing sources listName window descriptions := by
  rcases hname with rfl | rfl
  · exact ⟨false, listThemes_names sources window⟩
  · exact ⟨true, listThemes_descriptions sources window⟩

/-- **Every listing of themes ends in one of three ways**, as long as all that it takes can be
written.  A failure that the exchange raises comes out unchanged, and no error is recorded.
Otherwise there is a listing and no error is recorded, or the listing is unavailable under the name
that was asked for, and the last event, of the logger of the themes provider, is the only error.  So
once a document is there, whatever its shape, nothing but the unavailability of the listing comes
out.

What cannot be written makes the listing fail as such: the bounds of the window before anything is
sent, and the numbers of a document only if there are more than 4300 digits in one of them, or items
in one of its arrays by the number of which this is so, or in a negative result window. -/
theorem themes_end (sources : Sources σ) {listName : String}
    (hname : listName = "THEMES.NAME" ∨ listName = "THEMES.DESCRIPTION")
    (window : Option Window) (link : σ) :
    let run := Provider.themes.list sources listName window link
    let exchange := sources.themesExchange window link
    let Raised := exchange.Raises (sources.index.searchUrl themeType)
    (¬ Window.Writable window →
      run.outcome = .error .unwritable ∧ run.posts = [] ∧ run.events = []) ∧
    (Window.Writable window →
      run.posts = [sources.themesPost window] ∧
      (∀ failure, Raised failure → run.outcome = .error failure ∧ run.errors = []) ∧
      ((∀ failure, ¬ Raised failure) →
        (∃ listing, run.outcome = .ok listing ∧ run.errors = []) ∨
        (run.outcome = .error (.unavailable listName) ∧
          ∃ event, run.errors = [event] ∧ run.events.getLast? = some event ∧
            event.logger = "listproviders.providers.themes") ∨
        (run.outcome = .error .unwritable ∧ run.errors = [] ∧
          ¬ (exchange.Bounded ∧ sources.index.Writable))) ∧
      (exchange.Bounded → sources.index.Writable → ∀ reply document,
        exchange = .answered reply → reply.document themeType = .ok document →
          ∀ failure, run.outcome = .error failure → failure = .unavailable listName)) := by
  intro run exchange Raised
  obtain ⟨descriptions, hlist⟩ := exists_themeListing sources hname window
  have hrun : run = themeListing sources listName window descriptions link :=
    congrFun hlist link
  refine ⟨fun hwindow => ?_, fun hwindow => ⟨?_, fun failure h => ?_, fun h => ?_, ?_⟩⟩
  · rw [hrun, themeListing_of_not_writable listName descriptions hwindow]
    exact ⟨rfl, rfl, rfl⟩
  · rw [hrun, posts_themeListing, if_pos hwindow]
  · rw [hrun, themeListing_of_raises listName descriptions hwindow h]
    exact ⟨rfl, filter_themesEvents⟩
  · -- a page, an unusable answer, or one that is too long to be written
    rcases themeListing_of_not_raises listName descriptions hwindow h with
      ⟨page, hpage⟩ | ⟨fault, hfault⟩ | ⟨hlong, hfails⟩
    · rw [hrun, hpage]
      exact Or.inl ⟨_, rfl, filter_themesEvents⟩
    · rw [hrun, hfault]
      exact Or.inr (Or.inl
        ⟨rfl, _, filter_themesEvents_append fault, List.getLast?_concat, rfl⟩)
    · rw [hrun, hfails]
      exact Or.inr (Or.inr ⟨rfl, filter_themesEvents, hlong⟩)
  · intro hbounded hindex reply document hreply hdocument failure houtcome
    have hnone : ∀ failure, ¬ Raised failure := by
      intro failure hraises
      change exchange.Raises _ failure at hraises
      rw [hreply] at hraises
      exact Exchange.not_raises_of_document hdocument hraises
    rw [hrun] at houtcome
    rcases themeListing_of_not_raises listName descriptions hwindow hnone with
      ⟨page, hpage⟩ | ⟨fault, hfault⟩ | ⟨hlong, -⟩
    · rw [hpage] at houtcome
      cases houtcome
    · rw [hfault] at houtcome
      cases houtcome
      rfl
    · exact absurd ⟨hbounded, hindex⟩ hlong

/-- An outage below the requests is not taken for an answer of the index, and with an offset that is
too long nothing is sent at all. -/
theorem themes_end_outage :
    let outage : Foreign := ⟨"OSError", "connection reset"⟩
    let sources := Sources.constant (.brokenDown (.foreign outage)) []
    let run (offset : Nat) :=
      Provider.themes.list sources "THEMES.DESCRIPTION" (some ⟨some offset, none⟩) ()
    ((run 5).outcome = .error (.foreign outage) ∧ (run 5).errors = []) ∧
      let long := run (10 ^ Numeral.maxDigits)
      long.outcome = .error .unwritable ∧ long.posts = [] ∧ long.events = [] := by
  intro outage sources run
  constructor
  · exact ((themes_end sources (Or.inr rfl) (some ⟨some 5, none⟩) ()).2 (by decide)).2.1 _
      (.request outage)
  · exact (themes_end sources (Or.inr rfl) (some ⟨some (10 ^ Numeral.maxDigits), none⟩) ()).1
      fun h => Numeral.not_writable_pow (h.1 _ rfl)

end Picklists

import Picklists.Proofs.Misfits
import Picklists.Proofs.Writing

/-!
# What comes of an exchange

The outcome of asking the index, as a function of the exchange that takes place.

* `Exchange.Raises` : the failures that are no answer of the index at all.  The request or the
  reading of the body raises them, and they pass unchanged (`Exchange.fields_of_raises`); every
  other way to get no fields is an unusable answer (`Exchange.index_or_raises`).
* `SearchIndex.run_search`, `SearchIndex.run_themes` : **the run of a search and of a query for
  themes**: one request is sent, and the exchange decides the rest (`SearchIndex.readThemes`,
  `SearchIndex.answerThemes`).  A query that cannot be written is not sent
  (`SearchIndex.run_themes_of_not_writable`).
* `SearchIndex.answerPage_of_writable` : a page that is read is given if its numbers can be written.
-/

namespace Picklists

/-! ### Failures that pass -/

/-- A failure that an exchange raises and that is neither a failed request nor a value that could
not be used. -/
inductive Exchange.Raises (url : String) : Exchange → Failure → Prop where
  /-- The request raises it. -/
  | request (failure : Foreign) : Raises url (.brokenDown (.foreign failure)) (.foreign failure)
  /-- The reading of the body raises it.  The body is only read if the status allows it. -/
  | body {reply : Reply} {failure : Foreign} (hstatus : reply.refusal? url = none)
      (hbody : reply.body = .broken (.foreign failure)) :
      Raises url (.answered reply) (.foreign failure)
  /-- The containers in the body are nested too deep to be read. -/
  | nesting {reply : Reply} {content : String} {container : Container}
      (hstatus : reply.refusal? url = none) (hbody : reply.body = .text content)
      (hread : Json.read content = .error (.tooDeep container)) :
      Raises url (.answered reply) (.tooDeep container)

namespace Exchange

variable {exchange : Exchange} {documentType url : String} {failure : Failure}

/-- What an exchange raises passes unchanged. -/
theorem fields_of_raises (h : exchange.Raises url failure) (documentType : String) :
    exchange.fields documentType url = .error failure := by
  cases h with
  | request failure => rfl
  | body hstatus hbody => simp only [fields, hstatus, Reply.document, hbody, Breakdown.failure]
  | nesting hstatus hbody hread => simp only [fields, hstatus, Reply.document, hbody, hread]

theorem Raises.ne_index (h : exchange.Raises url failure) (fault : IndexFault) :
    failure ≠ .index fault := by
  cases h <;> exact Failure.noConfusion

theorem Raises.ne_unknownList (h : exchange.Raises url failure) (listName : String) :
    failure ≠ .unknownList listName := by
  cases h <;> exact Failure.noConfusion

/-- A reply with a document raises nothing, whatever the document is. -/
theorem not_raises_of_document {reply : Reply} {document : Json}
    (h : reply.document documentType = .ok document) :
    ¬ (Exchange.answered reply).Raises url failure := by
  rintro (_ | ⟨-, hbody⟩ | ⟨-, hbody, hread⟩)
  · simp only [Reply.document, hbody, reduceCtorEq] at h
  · simp only [Reply.document, hbody, hread, reduceCtorEq] at h

/-- A body that gives no document makes an unusable answer or raises a failure. -/
theorem index_or_raises_of_document {reply : Reply} (hstatus : reply.refusal? url = none)
    (h : reply.document documentType = .error failure) :
    (∃ fault, failure = .index fault) ∨ (Exchange.answered reply).Raises url failure := by
  rw [Reply.document] at h
  cases hbody : reply.body with
  | document content =>
    simp only [hbody, reduceCtorEq] at h
  | broken cause =>
    -- of all the ways in which the reading breaks down, one is passed on
    cases cause with
    | foreign outage =>
      simp only [hbody, Breakdown.failure, Except.error.injEq] at h
      exact Or.inr (h ▸ .body hstatus hbody)
    | _ =>
      simp only [hbody, Breakdown.failure, Except.error.injEq] at h
      exact Or.inl ⟨_, h.symm⟩
  | text content =>
    cases hread : Json.read content with
    | ok document =>
      simp only [hbody, hread, reduceCtorEq] at h
    | error fault =>
      cases fault with
      | tooDeep container =>
        simp only [hbody, hread, Except.error.injEq] at h
        exact Or.inr (h ▸ .nesting hstatus hbody hread)
      | _ =>
        simp only [hbody, hread, Except.error.injEq] at h
        exact Or.inl ⟨_, h.symm⟩

/-- Whatever keeps an exchange from having fields is an unusable answer or is raised by it. -/
theorem index_or_raises (h : exchange.fields documentType url = .error failure) :
    (∃ fault, failure = .index fault) ∨ exchange.Raises url failure := by
  cases exchange with
  | brokenDown cause =>
    cases cause with
    | foreign outage =>
      cases h
      exact Or.inr (.request outage)
    | _ =>
      cases h
      exact Or.inl ⟨_, rfl⟩
  | answered reply =>
    rw [fields] at h
    cases hstatus : reply.refusal? url with
    | some message =>
      simp only [hstatus, Except.error.injEq] at h
      exact Or.inl ⟨_, h.symm⟩
    | none =>
      simp only [hstatus] at h
      split at h
      · rename_i cause hdocument
        cases h
        exact index_or_raises_of_document hstatus hdocument
      · cases h
      · cases h
        exact Or.inl ⟨_, rfl⟩

end Exchange

namespace SearchIndex

variable {σ : Type} (index : SearchIndex) (transport : Transport σ)

/-! ### Searches -/

/-- The run of a search: one request, and what the exchange gives. -/
theorem run_search (documentType : String) (body : SearchBody) (link : σ) :
    index.search transport documentType body link =
      let post : Post := ⟨index.searchUrl documentType, index.timeout, body⟩
      ⟨(transport post link).1.fields documentType (index.searchUrl documentType), [post], [],
        (transport post link).2⟩ := by
  rw [search, Action.bind_of_ok rfl]
  rfl

/-! ### Pages of themes -/

variable (query : ThemeQuery)

/-- The request for a page of themes. -/
def themesPost : Post := ⟨index.searchUrl themeType, index.timeout, index.themesBody query⟩

/-- The page that an exchange gives. -/
def readThemes (exchange : Exchange) : Except Failure ThemePage :=
  match exchange.fields themeType (index.searchUrl themeType) with
  | .error failure => .error failure
  | .ok answer =>
    match readPage answer (max 0 query.offset) (index.pageSize query) with
    | .error fault => .error fault.failure
    | .ok page => .ok page

/-- What comes of a page that is read, and what is recorded about it.  If it ends too early, this
has to be recorded. -/
def answerPage (page : ThemePage) : Except Failure ThemePage × List Event :=
  match index.cutEvent? query page with
  | none => (.ok page, [])
  | some event => if event.Writable then (.ok page, [event]) else (.error .unwritable, [])

/-- What comes of an exchange, and what is recorded about it. -/
def answerThemes (exchange : Exchange) : Except Failure ThemePage × List Event :=
  match exchange.fields themeType (index.searchUrl themeType) with
  | .error failure => (.error failure, [])
  | .ok answer =>
    match readPage answer (max 0 query.offset) (index.pageSize query) with
    | .error fault => (.error fault.failure, fault.events)
    | .ok page => index.answerPage query page

/-- The last steps of a query if the page is not read. -/
theorem run_fault {α : Type} (fault : PageFault) (link : σ) :
    (Action.logAll fault.events >>= fun _ => Action.fail fault.failure : Action σ α) link =
      ⟨.error fault.failure, [], fault.events, link⟩ := by
  have hall := Action.run_logAll fault.writable_of_mem_events link
  rw [Action.bind_of_ok (congrArg Run.outcome hall), hall]
  simp [Run.followedBy]

/-- The last steps of a query once the page is read. -/
theorem run_cutEvent? (page : ThemePage) (link : σ) :
    (Action.logAll (index.cutEvent? query page).toList >>= fun _ => pure page) link =
      ⟨(index.answerPage query page).1, [], (index.answerPage query page).2, link⟩ := by
  rw [answerPage]
  cases index.cutEvent? query page with
  | none => rfl
  | some event =>
    by_cases hwritable : event.Writable
    · have hlog : Action.logAll [event] link = ⟨.ok (), [], [event], link⟩ :=
        Action.run_logAll (by simpa using hwritable) link
      rw [Option.toList_some, Action.bind_of_ok (congrArg Run.outcome hlog), hlog]
      simp [hwritable, Run.followedBy]
    · have hlog := Action.run_log_of_not_writable hwritable link
      have hall : Action.logAll [event] link = ⟨.error .unwritable, [], [], link⟩ := by
        rw [Action.logAll_cons, Action.bind_of_error (congrArg Run.outcome hlog), hlog]
      rw [Option.toList_some, Action.bind_of_error (congrArg Run.outcome hall), hall]
      simp [hwritable]

/-- **The run of a query for themes** whose text can be written: one request, and what the exchange
gives. -/
theorem run_themes (hquery : query.Writable) (link : σ) :
    index.themes transport query link =
      let answer := transport (index.themesPost query) link
      ⟨(index.answerThemes query answer.1).1, [index.themesPost query],
        .queryingThemes query :: (index.answerThemes query answer.1).2, answer.2⟩ := by
  have hlog := Action.run_log (query.writable_queryingThemes_iff.2 hquery) link
  have hsearch : index.search transport themeType (index.themesBody query) link =
      ⟨(transport (index.themesPost query) link).1.fields themeType (index.searchUrl themeType),
        [index.themesPost query], [], (transport (index.themesPost query) link).2⟩ :=
    index.run_search transport themeType (index.themesBody query) link
  rw [themes, Action.bind_of_ok (congrArg Run.outcome hlog), hlog]
  simp only [answerThemes]
  cases hfields : (transport (index.themesPost query) link).1.fields themeType
      (index.searchUrl themeType) with
  | error failure =>
    have hfails := (congrArg Run.outcome hsearch).trans hfields
    rw [Action.bind_of_error hfails, hsearch]
    rfl
  | ok answer =>
    have hgives := (congrArg Run.outcome hsearch).trans hfields
    rw [Action.bind_of_ok hgives, hsearch]
    cases hpage : readPage answer (max 0 query.offset) (index.pageSize query) with
    | error fault =>
      simp only [hpage]
      rw [run_fault]
      simp [Run.followedBy]
    | ok page =>
      simp only [hpage]
      rw [run_cutEvent?]
      simp [Run.followedBy]

/-- A query whose text cannot be written is not sent. -/
theorem run_themes_of_not_writable (hquery : ¬ query.Writable) (link : σ) :
    index.themes transport query link = ⟨.error .unwritable, [], [], link⟩ := by
  have hlog := Action.run_log_of_not_writable
    (mt query.writable_queryingThemes_iff.1 hquery) link
  rw [themes, Action.bind_of_error (congrArg Run.outcome hlog), hlog]

variable {index query} {exchange : Exchange} {failure : Failure}

theorem readThemes_of_raises (h : exchange.Raises (index.searchUrl themeType) failure) :
    index.readThemes query exchange = .error failure := by
  simp only [readThemes, Exchange.fields_of_raises h]

/-- What a page that is read from an answer gives. -/
theorem readThemes_of_readPage {answer : Fields} {page : ThemePage}
    (hfields : exchange.fields themeType (index.searchUrl themeType) = .ok answer)
    (hpage : readPage answer (max 0 query.offset) (index.pageSize query) = .ok page) :
    index.readThemes query exchange = .ok page := by
  simp only [readThemes, hfields, hpage]

/-- A page that is given is read from the fields of an answer. -/
theorem readPage_of_readThemes {page : ThemePage} (h : index.readThemes query exchange = .ok page) :
    ∃ answer, exchange.fields themeType (index.searchUrl themeType) = .ok answer ∧
      readPage answer (max 0 query.offset) (index.pageSize query) = .ok page := by
  rw [readThemes] at h
  split at h
  · cases h
  · rename_i answer hfields
    split at h <;> cases h
    exact ⟨answer, hfields, ‹_›⟩

theorem index_or_raises_of_readThemes (h : index.readThemes query exchange = .error failure) :
    (∃ fault, failure = .index fault) ∨ exchange.Raises (index.searchUrl themeType) failure := by
  rw [readThemes] at h
  split at h
  · rename_i cause hfields
    cases h
    exact Exchange.index_or_raises hfields
  · split at h <;> cases h
    exact Or.inl ⟨_, PageFault.failure_eq _⟩

/-- What comes of an exchange that gives a page. -/
theorem answerThemes_of_page {page : ThemePage} (h : index.readThemes query exchange = .ok page) :
    index.answerThemes query exchange = index.answerPage query page := by
  obtain ⟨answer, hfields, hpage⟩ := readPage_of_readThemes h
  simp only [answerThemes, hfields, hpage]

/-- What comes of an exchange that gives no page. -/
theorem answerThemes_of_error (h : index.readThemes query exchange = .error failure) :
    (index.answerThemes query exchange).1 = .error failure := by
  rw [readThemes] at h
  rw [answerThemes]
  split at h
  · cases h
    rfl
  · split at h <;> cases h
    rfl

theorem level_of_mem_cutEvent? {page : ThemePage} {event : Event}
    (h : event ∈ index.cutEvent? query page) : event.level = .warning := by
  rw [cutEvent?, Option.mem_ite_none_right] at h
  rw [← Option.mem_some.1 h.2]
  rfl

/-- That a page ends too early can be recorded if the numbers of the query and the number of all
themes can be written, and so can the result window if it is negative. -/
theorem writable_of_mem_cutEvent? {page : ThemePage} (hquery : query.Writable)
    (hindex : index.Writable) (hcount : Numeral.Writable page.hitCount) {event : Event}
    (h : event ∈ index.cutEvent? query page) : event.Writable := by
  rw [cutEvent?, Option.mem_ite_none_right] at h
  obtain ⟨⟨hcut, hmore⟩, hevent⟩ := h
  obtain ⟨hoffset, hlimit⟩ := hquery
  rw [← Option.mem_some.1 hevent, Event.writable_pageCut_iff]
  simp only [pageSize] at hcut hmore ⊢
  refine ⟨hlimit.of_natAbs_le (by omega), hcount.of_natAbs_le (by omega), ?_⟩
  rcases hindex with hwindow | hwindow
  · -- the window ends before the offset or before the last theme
    rcases Int.le_total index.window (max 0 query.offset) with hle | hle
    · exact hoffset.of_natAbs_le (by omega)
    · exact hcount.of_natAbs_le (by omega)
  · exact hwindow

/-- A page is given, unless it cannot be written what there is to record about it. -/
theorem outcome_answerPage (index : SearchIndex) (query : ThemeQuery) (page : ThemePage) :
    (index.answerPage query page).1 = .ok page ∨
      (index.answerPage query page).1 = .error .unwritable := by
  rw [answerPage]
  split
  · exact Or.inl rfl
  · split
    · exact Or.inl rfl
    · exact Or.inr rfl

/-- What comes of a page whose number of themes can be written. -/
theorem answerPage_of_writable {page : ThemePage} (hquery : query.Writable)
    (hindex : index.Writable) (hcount : Numeral.Writable page.hitCount) :
    index.answerPage query page = (.ok page, (index.cutEvent? query page).toList) := by
  rw [answerPage]
  cases hcut : index.cutEvent? query page with
  | none => rfl
  | some event => exact if_pos (writable_of_mem_cutEvent? hquery hindex hcount hcut)

/-- What is recorded about a page is that it ends too early. -/
theorem mem_cutEvent?_of_mem_answerPage {page : ThemePage} {event : Event}
    (h : event ∈ (index.answerPage query page).2) : event ∈ index.cutEvent? query page := by
  rw [answerPage] at h
  split at h
  · cases h
  · rename_i cut hcut
    split at h
    · rw [List.mem_singleton.1 h, hcut]
      exact Option.mem_some_self cut
    · cases h

/-- What is recorded about an exchange is never an error. -/
theorem level_of_mem_answerThemes {event : Event}
    (h : event ∈ (index.answerThemes query exchange).2) : event.level = .warning := by
  rw [answerThemes] at h
  split at h
  · cases h
  · split at h
    · exact PageFault.level_of_mem_events h
    · exact level_of_mem_cutEvent? (mem_cutEvent?_of_mem_answerPage h)

end SearchIndex

/-! ### One answer to everything -/

/-- The answer of an index that knows some names of presenters and nothing else. -/
def Exchange.presenters (names : List Text) : Exchange :=
  let buckets := Json.array (names.map fun name => .ofFields [("key", .text name)])
  let aggregations := Json.ofFields [("presenter", .ofFields [("buckets", buckets)])]
  .answered ⟨200, some "OK", .document (.ofFields [("aggregations", aggregations)])⟩

/-- Sources over an index with which every exchange goes alike, with a directory of some
accounts. -/
def Sources.constant (exchange : Exchange) (accounts : List Account) : Sources Unit where
  index := .connect "http://localhost:9200" "opencast" (.whole 10) 10000
  transport := fun _ link => (exchange, link)
  directory := .holding accounts
  caller := ⟨⟨"org", ""⟩, ⟨"admin", none, none, none, none⟩⟩

end Picklists

import Picklists.Proofs.Lookups
import Picklists.Proofs.Steps
import Picklists.Proofs.ThemeWindow

/-!
# Whose themes are listed

Themes are listed for an organization.  Who of the organization asks makes no difference: the user
goes along with the query, but nothing that is sent, answered or recorded depends on it, apart from
events below informational level.

* `SearchBody.ScopedTo` : a request for the themes of an organization, in ascending order.  The
  index of themes gets no other one from a provider (`Provider.scopedTo_of_mem_list`), so neither
  from a command (`Session.scopedTo_of_mem_step`), unless it asks the index directly
  (`Command.AsksDirectly`).
* `Session.withUser` : a session in which someone else asks.  Its listings leave the same behind
  (`Provider.reported_list_withUser`), and so do all commands (`Session.step_withUser`).
* `Session.themes_scoped` : **in every run, themes are listed for the organization, whoever asks**.
-/

namespace Picklists

variable {σ : Type}

/-! ### Requests -/

/-- A request is for the themes of an organization: the only filter is the term of the organization,
and the order is ascending by name. -/
def SearchBody.ScopedTo (organization : Text) (body : SearchBody) : Prop :=
  ∃ start size : Int, body.toJson = .ofFields
    [("from", .int start), ("size", .int size),
      ("query", .ofFields [("bool", .ofFields [("filter",
        .array [.ofFields [("term", .ofFields [("organization", .text organization)])]])])]),
      ("sort", .array [.ofFields [("name.sort", .ofFields [("order", .text "asc")])]])]

theorem Sources.scopedTo_themesPost (sources : Sources σ) (window : Option Window) :
    (sources.themesPost window).body.ScopedTo sources.caller.organization.id := ⟨_, _, rfl⟩

/-- Different types of documents have different addresses. -/
theorem SearchIndex.searchUrl_injective (index : SearchIndex) :
    Function.Injective index.searchUrl := by
  intro documentType other h
  have htype : toString documentType = toString other := by simpa [searchUrl] using h
  exact htype

/-- No listing of contributors looks up terms of themes. -/
theorem ContributorsList.documentType_ne_themeType (list : ContributorsList) {asked : IndexField}
    (h : asked ∈ list.fields) : asked.documentType ≠ themeType := by
  revert asked
  cases list <;> decide

/-- Of a listing of contributors, nothing is sent to the index of themes. -/
theorem url_ne_of_mem_listContributors {sources : Sources σ} {excluded : Exclusion}
    {list : ContributorsList} {window : Option Window} {link : σ} {post : Post}
    (h : post ∈ (listContributors sources excluded list window link).posts) :
    post.url ≠ sources.index.searchUrl themeType := by
  cases hshown : sources.directory.shown excluded with
  | error failure =>
    rw [run_listContributors_of_not_shown hshown] at h
    cases h
  | ok accounts =>
    rw [posts_listContributors hshown] at h
    obtain ⟨asked, hasked, rfl⟩ := exists_of_mem_fieldTerms h
    exact fun hurl =>
      list.documentType_ne_themeType hasked (sources.index.searchUrl_injective hurl)

/-- **Whatever a provider sends to the index of themes** is for the organization of the caller. -/
theorem Provider.scopedTo_of_mem_list {provider : Provider} {sources : Sources σ}
    {listName : String} {window : Option Window} {link : σ} {post : Post}
    (h : post ∈ (provider.list sources listName window link).posts)
    (hurl : post.url = sources.index.searchUrl themeType) :
    post.body.ScopedTo sources.caller.organization.id := by
  cases provider with
  | themes =>
    rw [eq_themesPost_of_mem h]
    exact sources.scopedTo_themesPost window
  | contributors excluded => exact absurd hurl (url_ne_of_mem_listContributors h)
  | fixed kind listNames listing => cases h

/-- The commands that ask the index without a provider. -/
def Command.AsksDirectly : Command → Prop
  | .themes _ | .terms .. => True
  | _ => False

namespace Session

/-- **What a command sends to the index of themes** is for the organization of the caller. -/
theorem scopedTo_of_mem_step {session : Session σ} {command : Command}
    (hcommand : ¬ command.AsksDirectly) {post : Post} (h : post ∈ (session.step command).2.posts)
    (hurl : post.url = session.sources.index.searchUrl themeType) :
    post.body.ScopedTo session.sources.caller.organization.id := by
  by_cases htalks : command.Talks
  · cases command with
    | list target listName window =>
      cases hanswering : session.answering? target listName with
      | some provider =>
        rw [step_list hanswering] at h
        exact Provider.scopedTo_of_mem_list h hurl
      | none =>
        obtain ⟨failure, hstep⟩ := step_list_of_none hanswering window
        rw [hstep] at h
        cases h
    | themes | terms => exact absurd trivial hcommand
    | _ => cases htalks
  · rw [(session.step_frame command).posts htalks] at h
    cases h

/-- The same of all commands of a run. -/
theorem scopedTo_of_mem_run {session : Session σ} {commands : List Command}
    (hcommands : ∀ command ∈ commands, ¬ command.AsksDirectly) {answer : Answer}
    (hanswer : answer ∈ (session.run commands).2) {post : Post} (h : post ∈ answer.posts)
    (hurl : post.url = session.sources.index.searchUrl themeType) :
    post.body.ScopedTo session.sources.caller.organization.id := by
  induction commands generalizing session with
  | nil => cases hanswer
  | cons command commands ih =>
    obtain ⟨hfirst, hrest⟩ := List.forall_mem_cons.1 hcommands
    rw [run_cons] at hanswer
    rcases List.mem_cons.1 hanswer with rfl | hanswer
    · exact scopedTo_of_mem_step hfirst h hurl
    · -- the index and the caller of the next session are those of this one
      obtain ⟨directory, hsources⟩ := (session.step_frame command).sources
      have hnext := ih hrest hanswer
      rw [hsources] at hnext
      exact hnext hurl

end Session

/-! ### Who asks -/

/-- The same sources, with someone else of the organization who asks. -/
def Sources.withUser (sources : Sources σ) (user : Account) : Sources σ :=
  { sources with caller := { sources.caller with user := user } }

/-- The events that are of informational level at least. -/
def Event.reported (events : List Event) : List Event :=
  events.filter fun event => Level.info.rank ≤ event.level.rank

/-- What some work leaves behind, with the events of informational level at least. -/
def Run.reported {α : Type} (run : Run σ α) : Run σ α :=
  { run with events := Event.reported run.events }

/-- An answer, with the events of informational level at least. -/
def Answer.reported (answer : Answer) : Answer :=
  { answer with events := Event.reported answer.events }

theorem Event.reported_append (events more : List Event) :
    reported (events ++ more) = reported events ++ reported more := List.filter_append ..

section

variable (sources : Sources σ) (user : Account)

/-- **A listing of themes** reports the same whoever asks. -/
theorem reported_themeListing_withUser (listName : String) (window : Option Window)
    (descriptions : Bool) (link : σ) :
    (themeListing (sources.withUser user) listName window descriptions link).reported =
      (themeListing sources listName window descriptions link).reported := by
  have hanswer : (sources.withUser user).themesAnswer window link =
      sources.themesAnswer window link := rfl
  by_cases hwindow : Window.Writable window
  · -- the runs differ in the event that the query is sent, which is below informational level
    cases hone : (sources.themesAnswer window link).1 with
    | ok page =>
      have hother := (congrArg Prod.fst hanswer).trans hone
      rw [themeListing_of_answer listName descriptions hwindow hone,
        themeListing_of_answer listName descriptions hwindow hother]
      rfl
    | error failure =>
      have hother := (congrArg Prod.fst hanswer).trans hone
      by_cases hindex : ∃ fault, failure = .index fault
      · obtain ⟨fault, rfl⟩ := hindex
        rw [themeListing_of_fault listName descriptions hwindow hone,
          themeListing_of_fault listName descriptions hwindow hother]
        simp only [Run.reported, Event.reported_append]
        rfl
      · rw [themeListing_of_error listName descriptions hwindow hone (not_exists.1 hindex),
          themeListing_of_error listName descriptions hwindow hother (not_exists.1 hindex)]
        rfl
  · rw [themeListing_of_not_writable listName descriptions hwindow,
      themeListing_of_not_writable listName descriptions hwindow]

/-- **A listing** reports the same whoever asks. -/
theorem Provider.reported_list_withUser (provider : Provider) (listName : String)
    (window : Option Window) (link : σ) :
    (provider.list (sources.withUser user) listName window link).reported =
      (provider.list sources listName window link).reported := by
  cases provider with
  | themes =>
    change (listThemes (sources.withUser user) listName window link).reported =
      (listThemes sources listName window link).reported
    rcases listThemes_cases (σ := σ) listName with hempty | ⟨descriptions, hlisting⟩
    · rw [hempty, hempty]
    · rw [hlisting, hlisting]
      exact reported_themeListing_withUser sources user listName window descriptions link
  -- the other providers do not look at the caller
  | contributors | fixed => rfl

end

namespace Session

/-- The same session, with someone else of the organization who asks. -/
def withUser (session : Session σ) (user : Account) : Session σ :=
  { session with sources := session.sources.withUser user }

/-- What a command leaves behind in two sessions that differ only in who asks: the sessions still
differ in nothing else, and the answers only in events below informational level. -/
structure Alike (user : Account) (other one : Session σ × Answer) : Prop where
  /-- The sessions differ only in who asks. -/
  session : other.1 = one.1.withUser user
  /-- The answers report the same. -/
  answer : other.2.reported = one.2.reported

/-- Work over the connection. -/
theorem perform_withUser {α : Type} (session : Session σ) (user : Account)
    {other work : Action σ α} (result : α → Result)
    (h : (other session.link).reported = (work session.link).reported) :
    Alike user ((session.withUser user).perform other result) (session.perform work result) := by
  simp only [Run.reported, Run.mk.injEq] at h
  obtain ⟨houtcome, hposts, hevents, hlink⟩ := h
  constructor
  · simp only [perform, withUser, hlink]
  · simp only [perform, withUser, Answer.reported, houtcome, hposts, hevents]

theorem listing_withUser (session : Session σ) (user : Account) (handle : Handle)
    (listName : String) (window : Option Window) :
    ((session.withUser user).listing handle listName window session.link).reported =
      (session.listing handle listName window session.link).reported := by
  simp only [listing, withUser]
  cases session.providers[handle]? with
  | some provider =>
    exact provider.reported_list_withUser session.sources user listName window session.link
  | none => rfl

/-- Work that needs the shared settings. -/
theorem withSettings_withUser (session : Session σ) (user : Account)
    {next : Session σ → Settings → Session σ × Answer}
    (h : ∀ session settings, Alike user (next (session.withUser user) settings)
      (next session settings)) :
    Alike user ((session.withUser user).withSettings next) (session.withSettings next) := by
  rcases hmade : session.store.get session.env with ⟨fault | held, store⟩
  · simp only [withSettings, withUser, hmade]
    exact ⟨rfl, rfl⟩
  · simp only [withSettings, withUser, hmade]
    exact h { session with store := store } held.settings

/-- **A command** reports the same whoever asks. -/
theorem step_withUser (session : Session σ) (user : Account) (command : Command) :
    Alike user ((session.withUser user).step command) (session.step command) := by
  cases command with
  | list target listName window =>
    have hlisting (handle : Handle) :=
      session.perform_withUser user .listing (session.listing_withUser user handle listName window)
    cases target with
    | provider handle => exact hlisting handle
    | service =>
      simp only [step, withUser]
      cases session.service.route? listName with
      | some handle => exact hlisting handle
      | none => exact ⟨rfl, rfl⟩
  | addUser account =>
    simp only [step, addUser, withUser, Sources.withUser]
    cases session.sources.directory.add? account <;> exact ⟨rfl, rfl⟩
  | configure handle properties =>
    simp only [step, configure, withUser]
    split
    · split <;> exact ⟨rfl, rfl⟩
    · exact ⟨rfl, rfl⟩
  | build given =>
    have hbuild (session : Session σ) (settings : Settings) :
        Alike user ((session.withUser user).build settings) (session.build settings) := ⟨rfl, rfl⟩
    cases given with
    | some settings => exact hbuild session settings
    | none => exact session.withSettings_withUser user hbuild
  | addProvider handle =>
    simp only [step, addProvider, withUser]
    cases session.providers[handle]? <;> exact ⟨rfl, rfl⟩
  | removeProvider handle =>
    simp only [step, removeProvider, withUser]
    cases session.providers[handle]? <;> exact ⟨rfl, rfl⟩
  | configureLog level =>
    simp only [step]
    cases level.filter (!·.isEmpty) with
    | some level => exact ⟨rfl, rfl⟩
    | none => exact session.withSettings_withUser user fun _ _ => ⟨rfl, rfl⟩
  | _ => exact ⟨rfl, rfl⟩

/-- **A run** reports the same whoever asks. -/
theorem run_withUser (session : Session σ) (user : Account) (commands : List Command) :
    ((session.withUser user).run commands).1 = (session.run commands).1.withUser user ∧
      ((session.withUser user).run commands).2.map Answer.reported =
        (session.run commands).2.map Answer.reported := by
  induction commands generalizing session with
  | nil => exact ⟨rfl, rfl⟩
  | cons command commands ih =>
    obtain ⟨hsession, hanswer⟩ := session.step_withUser user command
    obtain ⟨hfinal, hanswers⟩ := ih (session.step command).1
    rw [run_cons, run_cons, hsession]
    refine ⟨hfinal, ?_⟩
    rw [List.map_cons, List.map_cons, hanswer, hanswers]

/-- **Themes are listed for the organization, whoever asks.**  Without direct queries, all that is
sent to the index of themes is for the organization of the caller.  And if someone else of the
organization asks, all requests and results are the same, and so are all failures and all events of
informational level at least. -/
theorem themes_scoped (session : Session σ) (commands : List Command) :
    ((∀ command ∈ commands, ¬ command.AsksDirectly) →
      ∀ answer ∈ (session.run commands).2, ∀ post ∈ answer.posts,
        post.url = session.sources.index.searchUrl themeType →
        post.body.ScopedTo session.sources.caller.organization.id) ∧
      ∀ user, ((session.withUser user).run commands).1 = (session.run commands).1.withUser user ∧
        ((session.withUser user).run commands).2.map Answer.reported =
          (session.run commands).2.map Answer.reported := by
  refine ⟨fun hcommands answer hanswer post hpost hurl => ?_, fun user => ?_⟩
  · exact scopedTo_of_mem_run hcommands hanswer hpost hurl
  · exact session.run_withUser user commands

/-- A listing through the service.  The query that is recorded for those who look for the cause of
something shows who asks. -/
theorem themes_scoped_service :
    let session : Session Unit :=
      ⟨.constant (.presenters []) [], [.themes], .empty, .unset, .fresh, ()⟩
    let eve : Account := ⟨"eve", none, none, none, none⟩
    let commands := [.addProvider 0, .list .service "THEMES.NAME" (some ⟨some 2, some 3⟩)]
    let answers := (session.run commands).2
    let others := ((session.withUser eve).run commands).2
    (∃ answer ∈ answers, ∃ post ∈ answer.posts, post.body.ScopedTo "org") ∧
      others.map Answer.reported = answers.map Answer.reported ∧
      others.map Answer.events ≠ answers.map Answer.events := by
  intro session eve commands answers others
  obtain ⟨hscoped, hblind⟩ := themes_scoped session commands
  have hproviders : ∀ command ∈ commands, ¬ command.AsksDirectly := by
    simp [commands, Command.AsksDirectly]
  let window : Option Window := some ⟨some 2, some 3⟩
  let answer := (session.step (.list (.provider 0) "THEMES.NAME" window)).2
  have hanswer : answer ∈ answers := List.mem_cons_of_mem _ List.mem_cons_self
  have hposts : answer.posts = [session.sources.themesPost window] :=
    (posts_themeListing "THEMES.NAME" false).trans (if_pos (by decide))
  have hpost : session.sources.themesPost window ∈ answer.posts := hposts ▸ List.mem_cons_self
  refine ⟨⟨answer, hanswer, _, hpost, ?_⟩, (hblind eve).2, by decide⟩
  exact hscoped hproviders answer hanswer _ hpost rfl

end Session

end Picklists

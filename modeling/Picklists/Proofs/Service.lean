import Picklists.Proofs.Failures
import Picklists.Proofs.Registry
import Picklists.Session

/-!
# Routes of the service

What the service of a session answers after any history of registrations and removals.

* `Session.Started` : the sessions whose service has a known history, because it is without
  providers or has just been built.
* `Session.run_changes` : registrations and removals change nothing but the service, and the service
  as `Registry.apply` says.
* `Session.Serves` : the service offers exactly the names that have an owner, each through its
  owner, and all its answers agree.
* `Session.serves_after` : **after every history, the service offers the names that belong to a
  provider**.
-/

namespace Picklists

open Registry (Change Owns)

/-- The command that makes a change. -/
def Registry.Change.command : Change → Command
  | .add handle => .addProvider handle
  | .remove handle => .removeProvider handle

namespace Session

variable {σ : Type} {session : Session σ} {history : List Change}

/-- The list names of a provider.  An unknown handle has none. -/
def namesOf (session : Session σ) (handle : Handle) : List String :=
  match session.providers[handle]? with
  | some provider => provider.listNames
  | none => []

/-! ### Changes -/

theorem step_change (session : Session σ) (change : Change) :
    (session.step change.command).1 =
      { session with service := session.service.apply session.namesOf change } := by
  cases change with
  | add handle =>
    simp only [Change.command, step, addProvider, Registry.apply, namesOf]
    cases session.providers[handle]? <;> rfl
  | remove handle =>
    simp only [Change.command, step, removeProvider, Registry.apply, namesOf]
    cases session.providers[handle]? <;> rfl

/-- **Runs of changes.** -/
theorem run_changes (session : Session σ) (changes : List Change) :
    (session.run (changes.map Change.command)).1 =
      { session with
        service := changes.foldl (Registry.apply session.namesOf) session.service } := by
  induction changes generalizing session with
  | nil => rfl
  | cons change changes ih =>
    simp only [List.map_cons, run, List.foldl_cons]
    rw [ih, step_change]
    rfl

/-! ### Beginnings -/

/-- The sessions whose service has a known history. -/
inductive Started : Session σ → List Change → Prop where
  /-- The service is without providers. -/
  | empty {session : Session σ} (h : session.service = .empty) : Started session []
  /-- The service has just been built: its two providers were registered, one after the other. -/
  | built {session : Session σ} {settings : Option Settings} {themes contributors : Handle}
      {listNames : List String}
      (h : (session.step (.build settings)).2.outcome =
        .ok (.built themes contributors listNames)) :
      Started (session.step (.build settings)).1 [.add themes, .add contributors]

/-- A built service is that of its two registrations. -/
theorem service_build (session : Session σ) (settings : Settings) {themes contributors : Handle}
    {listNames : List String}
    (h : (session.build settings).2.outcome = .ok (.built themes contributors listNames)) :
    let built := (session.build settings).1
    built.service =
      [Change.add themes, .add contributors].foldl (Registry.apply built.namesOf) .empty := by
  intro built
  cases h
  -- the two new providers stand behind all others
  have hthemes : built.namesOf session.providers.length = Provider.themes.listNames := by
    simp [built, namesOf, build]
  have hcontributors : built.namesOf (session.providers.length + 1) =
      (Provider.contributors settings.contributors.excluded).listNames := by
    simp [built, namesOf, build]
  simp only [List.foldl_cons, List.foldl_nil, Registry.apply, hthemes, hcontributors]
  rfl

theorem Started.service_eq (h : session.Started history) :
    session.service = history.foldl (Registry.apply session.namesOf) .empty := by
  cases h with
  | empty h => exact h
  | @built before settings themes contributors listNames h =>
    cases settings with
    | some settings => exact service_build before settings h
    | none =>
      rcases hmade : before.store.get before.env with ⟨fault | held, store⟩
      · simp only [step, withSettings, hmade] at h
        cases h
      · simp only [step, withSettings, hmade] at h ⊢
        exact service_build _ _ h

/-! ### Answers -/

/-- The service of a session offers the names that have an owner, each through its owner. -/
structure Serves (session : Session σ) (owner : String → Handle → Prop) : Prop where
  /-- A name is routed to its owner. -/
  route : ∀ listName handle,
    session.service.route? listName = some handle ↔ owner listName handle
  /-- Whether the service has a name. -/
  has : ∀ listName, ∃ known,
    (session.step (.serviceHas listName)).2.outcome = .ok (.truth known) ∧
      (known = true ↔ ∃ handle, owner listName handle)
  /-- The names of the service are in strictly ascending order. -/
  names : ∃ listNames, (session.step .serviceNames).2.outcome = .ok (.names listNames) ∧
    listNames.Pairwise (· < ·) ∧
      ∀ listName, listName ∈ listNames ↔ ∃ handle, owner listName handle
  /-- A listing is refused as unknown if and only if its name has no owner. -/
  list_unknown : ∀ listName window,
    (session.step (.list .service listName window)).2.outcome = .error (.unknownList listName) ↔
      ¬ ∃ handle, owner listName handle
  /-- The owner of a name makes its listing. -/
  list_owner : ∀ listName handle, owner listName handle → ∀ window,
    session.step (.list .service listName window) =
      session.step (.list (.provider handle) listName window)
  /-- The properties of a listing are refused as unknown if and only if its name has no owner. -/
  flags_unknown : ∀ listName,
    (session.step (.serviceFlags listName)).2.outcome = .error (.unknownList listName) ↔
      ¬ ∃ handle, owner listName handle
  /-- The owner of a name gives the properties of its listing. -/
  flags_owner : ∀ listName handle, owner listName handle →
    session.step (.serviceFlags listName) = session.step (.providerFlags handle listName)
  /-- No removal of a provider fails. -/
  remove : ∀ handle provider, session.providers[handle]? = some provider → ∃ listNames,
    (session.step (.removeProvider handle)).2.outcome = .ok (.names listNames)

/-- The listing of a provider is never refused as unknown. -/
theorem list_provider_ne (session : Session σ) (handle : Handle) (listName : String)
    (window : Option Window) :
    (session.step (.list (.provider handle) listName window)).2.outcome ≠
      .error (.unknownList listName) := by
  have hfails : Action.FailsOnly Failure.OfProvider (session.listing handle listName window) := by
    rw [listing]
    split
    · exact Provider.list_fails _ _ _ _
    · exact .fail fun _ => Failure.noConfusion
  intro h
  simp only [step, perform] at h
  cases houtcome : (session.listing handle listName window session.link).outcome with
  | ok listing => simp [houtcome, Except.map] at h
  | error failure =>
    simp only [houtcome, Except.map, Except.error.injEq] at h
    exact hfails _ _ houtcome listName h

theorem flags_ne (session : Session σ) (handle : Handle) (listName : String) :
    (session.step (.providerFlags handle listName)).2.outcome ≠
      .error (.unknownList listName) := by
  simp only [step, flags, Answer.ofOutcome]
  split <;> simp

/-- The routes alone decide what the service offers. -/
theorem serves_of_route {owner : String → Handle → Prop}
    (h : ∀ listName handle, session.service.route? listName = some handle ↔ owner listName handle) :
    session.Serves owner := by
  have hsome (listName : String) :
      (∃ handle, session.service.route? listName = some handle) ↔
        ∃ handle, owner listName handle := exists_congr (h listName)
  have hlist : ∀ listName handle, owner listName handle → ∀ window,
      session.step (.list .service listName window) =
        session.step (.list (.provider handle) listName window) := by
    intro listName handle howner window
    simp only [step, (h listName handle).2 howner]
  have hflags : ∀ listName handle, owner listName handle →
      session.step (.serviceFlags listName) = session.step (.providerFlags handle listName) := by
    intro listName handle howner
    simp only [step, (h listName handle).2 howner]
  have hnone : ∀ listName, (¬ ∃ handle, owner listName handle) →
      session.service.route? listName = none := by
    intro listName hfree
    rw [← hsome] at hfree
    exact Option.eq_none_iff_forall_ne_some.2 fun handle hroute => hfree ⟨handle, hroute⟩
  exact {
    route := h
    has := fun listName => ⟨_, rfl, Option.isSome_iff_exists.trans (hsome listName)⟩
    names := ⟨_, rfl, pairwise_ascending _, fun listName =>
      Registry.mem_listNames.trans (hsome listName)⟩
    list_unknown := by
      intro listName window
      refine ⟨?_, fun hfree => ?_⟩
      · rintro hrefused ⟨handle, howner⟩
        rw [hlist listName handle howner] at hrefused
        exact list_provider_ne session handle listName window hrefused
      · simp only [step, hnone listName hfree, Answer.ofOutcome]
    list_owner := hlist
    flags_unknown := by
      intro listName
      refine ⟨?_, fun hfree => ?_⟩
      · rintro hrefused ⟨handle, howner⟩
        rw [hflags listName handle howner] at hrefused
        exact flags_ne session handle listName hrefused
      · simp only [step, hnone listName hfree, Answer.ofOutcome]
    flags_owner := hflags
    remove := by
      intro handle provider hprovider
      simp only [step, removeProvider, hprovider]
      exact ⟨_, rfl⟩ }

/-- **After every history, the service offers the names that belong to a provider.** -/
theorem serves_after {start : Session σ} {earlier : List Change} (h : start.Started earlier)
    (changes : List Change) :
    (start.run (changes.map Change.command)).1.Serves
      (Owns start.namesOf (earlier ++ changes)) := by
  refine serves_of_route fun listName handle => ?_
  rw [run_changes, h.service_eq, ← List.foldl_append]
  exact Registry.route?_foldl_apply ..

/-- A provider that takes a name over does not give it back when it is removed. -/
theorem serves_after_takeover :
    let taker := Provider.fixed "StubProvider" ["EXTRA", "THEMES.NAME", "EXTRA"] .empty
    let before : Session Unit :=
      ⟨.constant (.presenters []) [], [taker], .empty, .unset, .fresh, ()⟩
    let settings : Settings :=
      ⟨⟨"http://localhost:9200", "opencast", ⟨0x4024000000000000⟩, 10000⟩, ⟨"guest"⟩, "INFO"⟩
    let start := (before.step (.build (some settings))).1
    let final := (start.run ([.add 0, .remove 0].map Change.command)).1
    start.Started [.add 1, .add 2] ∧
      (final.step (.list .service "THEMES.NAME" none)).2.outcome =
        .error (.unknownList "THEMES.NAME") ∧
      final.step (.list .service "THEMES" none) = final.step (.list (.provider 1) "THEMES" none) ∧
      ∃ listNames, (final.step .serviceNames).2.outcome = .ok (.names listNames) ∧
        "THEMES" ∈ listNames ∧ "THEMES.NAME" ∉ listNames ∧ "EXTRA" ∉ listNames := by
  intro taker before settings start final
  have hstart : start.Started [.add 1, .add 2] := .built rfl
  have hserves : final.Serves _ := serves_after hstart [.add 0, .remove 0]
  have hthemes := (hserves.route "THEMES" 1).1 (by decide)
  have hfree {listName : String} (h : final.service.route? listName = none) :
      ¬ ∃ handle, Owns start.namesOf ([.add 1, .add 2] ++ [.add 0, .remove 0]) listName handle := by
    rintro ⟨handle, howner⟩
    rw [(hserves.route listName handle).2 howner] at h
    cases h
  obtain ⟨listNames, houtcome, -, hmem⟩ := hserves.names
  refine ⟨hstart, (hserves.list_unknown _ _).2 (hfree (by decide)),
    hserves.list_owner _ _ hthemes none, listNames, houtcome, (hmem _).2 ⟨1, hthemes⟩,
    mt (hmem _).1 (hfree (by decide)), mt (hmem _).1 (hfree (by decide))⟩

end Session

end Picklists

import Picklists.Session

/-!
# Steps of a session

What single commands do to a session, and how runs are put together.

* `Session.answering?` : the provider that makes a listing.  A listing is a step that talks to the
  index over the connection and changes nothing else (`Session.step_list`,
  `Session.step_list_of_none`).
* `Session.settingsFor` : the settings that a new service is built from (`Session.step_build_of_ok`,
  `Session.step_build_of_error`).
* `Session.step_frame` : **the frame of a step**: what it leaves as it is, and when it sends
  nothing.
* `Session.run_concat` : the last command of a run is a step from where the others lead.
-/

namespace Picklists

/-- The commands that change providers or add some. -/
def Command.Reconfigures : Command → Prop
  | .configure .. | .build _ => True
  | _ => False

/-- The commands that talk to the index. -/
def Command.Talks : Command → Prop
  | .list .. | .themes _ | .terms .. => True
  | _ => False

namespace Session

variable {σ : Type}

/-! ### Listings -/

/-- The provider that is asked for a listing: a given one, or the one to which the service routes
the name. -/
def answering? (session : Session σ) (target : Target) (listName : String) : Option Provider :=
  match target with
  | .provider handle => session.providers[handle]?
  | .service => (session.service.route? listName).bind fun handle => session.providers[handle]?

/-- A listing is the work of the provider that is asked for it. -/
theorem step_list {session : Session σ} {target : Target} {listName : String} {provider : Provider}
    (h : session.answering? target listName = some provider) (window : Option Window) :
    session.step (.list target listName window) =
      session.perform (provider.list session.sources listName window) .listing := by
  cases target with
  | provider handle =>
    simp only [answering?] at h
    simp only [step, listing, h]
  | service =>
    obtain ⟨handle, hroute, hprovider⟩ := Option.bind_eq_some_iff.1 h
    simp only [step, hroute, listing, hprovider]

/-- If there is nobody to be asked, there is no listing, and nothing changes. -/
theorem step_list_of_none {session : Session σ} {target : Target} {listName : String}
    (h : session.answering? target listName = none) (window : Option Window) :
    ∃ failure, session.step (.list target listName window) =
      (session, .ofOutcome (.error failure)) := by
  cases target with
  | provider handle =>
    simp only [answering?] at h
    simp only [step, listing, h]
    exact ⟨_, rfl⟩
  | service =>
    simp only [answering?] at h
    cases hroute : session.service.route? listName with
    | none =>
      simp only [step, hroute]
      exact ⟨_, rfl⟩
    | some handle =>
      rw [hroute, Option.bind_some] at h
      simp only [step, hroute, listing, h]
      exact ⟨_, rfl⟩

/-! ### Settings and new services -/

/-- Work that needs the shared settings is done with them, or it fails because they cannot be made.
Apart from that, only the store of the settings changes. -/
theorem withSettings_cases (session : Session σ)
    (next : Session σ → Settings → Session σ × Answer) :
    (∃ store settings,
      session.withSettings next = next { session with store := store } settings) ∨
    ∃ store fault, session.withSettings next =
      ({ session with store := store }, .ofOutcome (.error (.setting fault))) := by
  rcases hmade : session.store.get session.env with ⟨fault | held, store⟩
  · refine Or.inr ⟨store, fault, ?_⟩
    simp only [withSettings, hmade]
  · refine Or.inl ⟨store, held.settings, ?_⟩
    simp only [withSettings, hmade]

/-- The settings that a new service is built from: the given ones, or the shared ones, which are
made from the environment if nobody has asked for them before. -/
def settingsFor (session : Session σ) : Option Settings → Except SettingFault Settings
  | some given => .ok given
  | none =>
    match session.store.current with
    | some held => .ok held.settings
    | none => Settings.ofEnvironment session.env

/-- A new service is built from the settings for it. -/
theorem step_build_of_ok {session : Session σ} {given : Option Settings} {settings : Settings}
    (h : session.settingsFor given = .ok settings) :
    ∃ store, session.step (.build given) =
      ({ session with store := store } : Session σ).build settings := by
  cases given with
  | some given =>
    cases h
    exact ⟨session.store, rfl⟩
  | none =>
    simp only [settingsFor] at h
    simp only [step, withSettings, SettingsStore.get]
    cases hcurrent : session.store.current with
    | some held =>
      simp only [hcurrent, Except.ok.injEq] at h
      rw [← h]
      exact ⟨session.store, rfl⟩
    | none =>
      simp only [hcurrent] at h
      simp only [SettingsStore.reload, SettingsStore.makeAside, h]
      exact ⟨_, rfl⟩

/-- Without settings there is no new service, and nothing changes. -/
theorem step_build_of_error {session : Session σ} {given : Option Settings} {fault : SettingFault}
    (h : session.settingsFor given = .error fault) :
    session.step (.build given) = (session, .ofOutcome (.error (.setting fault))) := by
  cases given with
  | some given => cases h
  | none =>
    simp only [settingsFor] at h
    simp only [step, withSettings, SettingsStore.get]
    cases hcurrent : session.store.current with
    | some held =>
      simp only [hcurrent] at h
      cases h
    | none =>
      simp only [hcurrent] at h
      simp only [SettingsStore.reload, SettingsStore.makeAside, h]

/-! ### What stays as it is -/

/-- What a command leaves as it is. -/
structure Frames (session : Session σ) (command : Command) (after : Session σ × Answer) : Prop where
  /-- Of the sources, only the directory may change. -/
  sources : ∃ directory, after.1.sources = { session.sources with directory := directory }
  /-- The providers change only if one of them is configured or a new service is built. -/
  providers : ¬ command.Reconfigures → after.1.providers = session.providers
  /-- Nothing is sent without talking to the index. -/
  posts : ¬ command.Talks → after.2.posts = []

theorem Frames.of_same {session : Session σ} {command : Command} {after : Session σ × Answer}
    (hsources : after.1.sources = session.sources)
    (hproviders : after.1.providers = session.providers)
    (hposts : ¬ command.Talks → after.2.posts = []) : session.Frames command after :=
  ⟨⟨session.sources.directory, hsources⟩, fun _ => hproviders, hposts⟩

/-- **The frame of a step.** -/
theorem step_frame (session : Session σ) (command : Command) :
    session.Frames command (session.step command) := by
  cases command with
  | list target listName window =>
    cases target with
    | provider handle => exact .of_same rfl rfl fun h => absurd trivial h
    | service =>
      simp only [step]
      cases session.service.route? listName <;> exact .of_same rfl rfl fun h => absurd trivial h
  | themes | terms => exact .of_same rfl rfl fun h => absurd trivial h
  | addUser account =>
    simp only [step, addUser]
    cases session.sources.directory.add? account with
    | some directory => exact ⟨⟨directory, rfl⟩, fun _ => rfl, fun _ => rfl⟩
    | none => exact .of_same rfl rfl fun _ => rfl
  | configure handle properties =>
    simp only [step, configure]
    split
    · split <;> exact ⟨⟨_, rfl⟩, fun h => absurd trivial h, fun _ => rfl⟩
    · exact .of_same rfl rfl fun _ => rfl
  | build given =>
    cases hsettings : session.settingsFor given with
    | ok settings =>
      obtain ⟨store, hbuild⟩ := step_build_of_ok hsettings
      rw [hbuild]
      exact ⟨⟨_, rfl⟩, fun h => absurd trivial h, fun _ => rfl⟩
    | error fault =>
      rw [step_build_of_error hsettings]
      exact .of_same rfl rfl fun _ => rfl
  | addProvider handle =>
    simp only [step, addProvider]
    cases session.providers[handle]? <;> exact .of_same rfl rfl fun _ => rfl
  | removeProvider handle =>
    simp only [step, removeProvider]
    cases session.providers[handle]? <;> exact .of_same rfl rfl fun _ => rfl
  | configureLog level =>
    simp only [step]
    cases level.filter (!·.isEmpty) with
    | some level => exact .of_same rfl rfl fun _ => rfl
    | none =>
      rcases session.withSettings_cases fun session settings =>
          session.configureLog settings.logLevel.shown with
        ⟨store, settings, hmade⟩ | ⟨store, fault, hmade⟩ <;> rw [hmade] <;>
        exact .of_same rfl rfl fun _ => rfl
  | _ => exact .of_same rfl rfl fun _ => rfl

/-! ### Runs -/

theorem run_cons (session : Session σ) (command : Command) (commands : List Command) :
    session.run (command :: commands) =
      (((session.step command).1.run commands).1,
        (session.step command).2 :: ((session.step command).1.run commands).2) := rfl

/-- The last command of a run. -/
theorem run_concat (session : Session σ) (commands : List Command) (command : Command) :
    (session.run (commands ++ [command])).1 = ((session.run commands).1.step command).1 := by
  induction commands generalizing session with
  | nil => rfl
  | cons first commands ih => exact ih (session.step first).1

end Session

end Picklists

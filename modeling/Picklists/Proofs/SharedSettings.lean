import Mathlib.Data.List.Infix
import Mathlib.Data.List.Induction
import Picklists.Proofs.Exchange
import Picklists.Proofs.SettingsStore
import Picklists.Proofs.Steps

/-!
# The shared settings over a session

The shared settings come about when somebody needs them, and they are made anew by a reload.  Both
can fail, and variables may be set in between.  What they are after any commands is known from the
history alone.

* `Command.AsksSettings`, `Command.Reloads` : the commands that need the shared settings, and those
  that make them anew.
* `Session.current_step_iff` : **one step**: a reload that succeeds replaces the shared settings, a
  command that needs them makes them if there are none, and no other command touches them.
* `Session.Succeeds` : the places of a history at which a command of some kind finds an environment
  that converts.
* `Session.Shares` : the shared settings by the history of a session: those of the latest reload
  that succeeded, or else those of the first time that they were needed and could be made
  (`Session.shares_concat_iff`).
* `Session.settings_of_run` : **after every run, the shared settings are those of the history**, and
  they stay until a reload succeeds (`Session.KeepsSettings`).
-/

namespace Picklists

/-! ### Commands and the store -/

/-- The commands that need the shared settings: who asks for them, who builds a service without
settings of its own, and who sets up the log without the name of a level. -/
def Command.AsksSettings : Command → Prop
  | .getSettings | .build none => True
  | .configureLog level => level = none ∨ level = some ""
  | _ => False

/-- The command that makes the shared settings anew. -/
def Command.Reloads (command : Command) : Prop := command = .reloadSettings

namespace Session

variable {σ : Type} {session : Session σ} {command : Command} {held : HeldSettings}

theorem store_withSettings {next : Session σ → Settings → Session σ × Answer}
    (hnext : ∀ session settings, (next session settings).1.store = session.store) :
    (session.withSettings next).1.store = (session.store.get session.env).2 := by
  rcases hmade : session.store.get session.env with ⟨fault | held, store⟩
  · simp only [withSettings, hmade]
  · simp only [withSettings, hmade, hnext]

/-- A name that is missing or empty is none. -/
theorem filter_name_eq_none_iff {level : Option String} :
    level.filter (!·.isEmpty) = none ↔ level = none ∨ level = some "" := by
  cases level <;> simp [Option.filter]

/-- All commands that need the shared settings ask the store for them in the same way. -/
theorem store_step_of_asks (h : command.AsksSettings) :
    (session.step command).1.store = (session.store.get session.env).2 := by
  cases command with
  | getSettings => rfl
  | build given =>
    cases given with
    | none => exact store_withSettings fun _ _ => rfl
    | some settings => cases h
  | configureLog level =>
    rw [step, filter_name_eq_none_iff.2 h]
    exact store_withSettings fun _ _ => rfl
  | _ => cases h

/-- The other commands leave the store alone, but for the two that make settings. -/
theorem store_step_of_not_asks (h : ¬ command.AsksSettings) (hreload : command ≠ .reloadSettings)
    (hmake : command ≠ .makeSettings) : (session.step command).1.store = session.store := by
  cases command with
  | list target listName window =>
    cases target with
    | provider handle => rfl
    | service =>
      simp only [step]
      cases session.service.route? listName <;> rfl
  | addUser account =>
    simp only [step, addUser]
    cases session.sources.directory.add? account <;> rfl
  | configure handle properties =>
    simp only [step, configure]
    split
    · split <;> rfl
    · rfl
  | build given =>
    cases given with
    | none => exact absurd trivial h
    | some settings => rfl
  | addProvider handle =>
    simp only [step, addProvider]
    cases session.providers[handle]? <;> rfl
  | removeProvider handle =>
    simp only [step, removeProvider]
    cases session.providers[handle]? <;> rfl
  | configureLog level =>
    cases hlevel : level.filter (!·.isEmpty) with
    | none => exact absurd (filter_name_eq_none_iff.1 hlevel) h
    | some name =>
      simp only [step, hlevel]
      rfl
  | getSettings => exact absurd trivial h
  | reloadSettings => exact absurd rfl hreload
  | makeSettings => exact absurd rfl hmake
  | _ => rfl

/-- **What a command does to the store**: it asks the store, makes settings, or leaves the store
alone. -/
theorem store_step_cases (session : Session σ) (command : Command) :
    (command.AsksSettings ∧
      (session.step command).1.store = (session.store.get session.env).2) ∨
    (command = .reloadSettings ∧
      (session.step command).1.store = (session.store.reload session.env).2) ∨
    (command = .makeSettings ∧
      (session.step command).1.store = (session.store.makeAside session.env).2) ∨
    (¬ command.AsksSettings ∧ command ≠ .reloadSettings ∧
      (session.step command).1.store = session.store) := by
  by_cases hasks : command.AsksSettings
  · exact Or.inl ⟨hasks, store_step_of_asks hasks⟩
  · by_cases hreload : command = .reloadSettings
    · subst hreload
      exact Or.inr (Or.inl ⟨rfl, rfl⟩)
    · by_cases hmake : command = .makeSettings
      · subst hmake
        exact Or.inr (Or.inr (Or.inl ⟨rfl, rfl⟩))
      · exact Or.inr (Or.inr (Or.inr
          ⟨hasks, hreload, store_step_of_not_asks hasks hreload hmake⟩))

/-! ### One step -/

/-- **What a step does to the shared settings.** -/
theorem current_step_iff :
    (session.step command).1.store.current = some held ↔
      command.Reloads ∧ session.store.Makes session.env held ∨
      ¬ (command.Reloads ∧ session.env.Converts) ∧
        (session.store.current = some held ∨
          session.store.current = none ∧ command.AsksSettings ∧
            session.store.Makes session.env held) := by
  rcases session.store_step_cases command with
    ⟨hasks, hstore⟩ | ⟨rfl, hstore⟩ | ⟨rfl, hstore⟩ | ⟨hasks, hreload, hstore⟩
  · have hreload : command ≠ .reloadSettings := by
      rintro rfl
      exact hasks
    rw [hstore, SettingsStore.current_get_iff]
    simp [Command.Reloads, hreload, hasks]
  · rw [hstore, SettingsStore.current_reload_iff]
    simp [Command.Reloads, Command.AsksSettings]
  · rw [hstore, SettingsStore.current_makeAside]
    simp [Command.Reloads, Command.AsksSettings]
  · rw [hstore]
    simp [Command.Reloads, hreload, hasks]

/-- Once there are shared settings there always are some. -/
theorem current_step_eq_none_iff :
    (session.step command).1.store.current = none ↔
      session.store.current = none ∧ ¬ (command.Reloads ∧ session.env.Converts) ∧
        ¬ (command.AsksSettings ∧ session.env.Converts) := by
  simp only [Option.eq_none_iff_forall_ne_some, ne_eq, current_step_iff]
  constructor
  · intro h
    have hreload : ¬ (command.Reloads ∧ session.env.Converts) := by
      rintro ⟨hreload, hconverts⟩
      obtain ⟨made, hmakes⟩ := session.store.makes_of_converts hconverts
      exact h made (Or.inl ⟨hreload, hmakes⟩)
    have hcurrent (held : HeldSettings) : ¬ session.store.current = some held :=
      fun hheld => h held (Or.inr ⟨hreload, Or.inl hheld⟩)
    refine ⟨hcurrent, hreload, ?_⟩
    rintro ⟨hasks, hconverts⟩
    obtain ⟨made, hmakes⟩ := session.store.makes_of_converts hconverts
    exact h made (Or.inr ⟨hreload, Or.inr ⟨hcurrent, hasks, hmakes⟩⟩)
  · rintro ⟨hcurrent, hreload, hasks⟩ held
      (⟨hnew, hmakes⟩ | ⟨-, hheld | ⟨-, hnew, hmakes⟩⟩)
    · exact hreload ⟨hnew, hmakes.converts⟩
    · exact hcurrent held hheld
    · exact hasks ⟨hnew, hmakes.converts⟩

theorem numbered_step (h : session.store.Numbered) (command : Command) :
    (session.step command).1.store.Numbered := by
  rcases session.store_step_cases command with
    ⟨-, hstore⟩ | ⟨-, hstore⟩ | ⟨-, hstore⟩ | ⟨-, -, hstore⟩ <;> rw [hstore]
  · exact h.get session.env
  · exact h.reload session.env
  · exact h.makeAside session.env
  · exact h

/-! ### Places in a history -/

/-- A place in a history at which a command of some kind finds an environment that converts.  The
place is told by the commands before it. -/
def Succeeds (start : Session σ) (kind : Command → Prop) (commands earlier : List Command) : Prop :=
  (∃ command, kind command ∧ earlier ++ [command] <+: commands) ∧
    (start.run earlier).1.env.Converts

/-- The first such place. -/
def FirstSucceeds (start : Session σ) (kind : Command → Prop) (commands earlier : List Command) :
    Prop :=
  start.Succeeds kind commands earlier ∧
    ∀ other, start.Succeeds kind commands other → earlier <+: other

/-- The latest such place. -/
def LastSucceeds (start : Session σ) (kind : Command → Prop) (commands earlier : List Command) :
    Prop :=
  start.Succeeds kind commands earlier ∧
    ∀ other, start.Succeeds kind commands other → other <+: earlier

/-- There is no such place. -/
def NeverSucceeds (start : Session σ) (kind : Command → Prop) (commands : List Command) : Prop :=
  ∀ earlier, ¬ start.Succeeds kind commands earlier

variable {start : Session σ} {kind : Command → Prop} {commands earlier : List Command}

/-- One more command is one more place, if it is of the kind and succeeds. -/
theorem succeeds_concat_iff :
    start.Succeeds kind (commands ++ [command]) earlier ↔
      start.Succeeds kind commands earlier ∨
        earlier = commands ∧ kind command ∧ (start.run commands).1.env.Converts := by
  simp only [Succeeds, List.prefix_concat_iff]
  constructor
  · rintro ⟨⟨other, hkind, hlast | hplace⟩, hconverts⟩
    · obtain ⟨rfl, hother⟩ := List.append_inj' hlast rfl
      cases hother
      exact Or.inr ⟨rfl, hkind, hconverts⟩
    · exact Or.inl ⟨⟨other, hkind, hplace⟩, hconverts⟩
  · rintro (⟨⟨other, hkind, hplace⟩, hconverts⟩ | ⟨rfl, hkind, hconverts⟩)
    · exact ⟨⟨other, hkind, Or.inr hplace⟩, hconverts⟩
    · exact ⟨⟨command, hkind, Or.inl rfl⟩, hconverts⟩

/-- A place comes before the end. -/
theorem Succeeds.isPrefix (h : start.Succeeds kind commands earlier) : earlier <+: commands := by
  obtain ⟨⟨command, -, hplace⟩, -⟩ := h
  exact (List.prefix_append earlier [command]).trans hplace

/-- The end is no place. -/
theorem Succeeds.not_isPrefix (h : start.Succeeds kind commands earlier) :
    ¬ commands <+: earlier := by
  obtain ⟨⟨command, -, hplace⟩, -⟩ := h
  intro hend
  have hlength := (hplace.trans hend).length_le
  rw [List.length_append, List.length_singleton] at hlength
  omega

theorem neverSucceeds_nil : start.NeverSucceeds kind [] := by
  rintro earlier ⟨⟨command, -, hplace⟩, -⟩
  simp at hplace

theorem neverSucceeds_concat_iff :
    start.NeverSucceeds kind (commands ++ [command]) ↔
      start.NeverSucceeds kind commands ∧
        ¬ (kind command ∧ (start.run commands).1.env.Converts) := by
  simp only [NeverSucceeds, succeeds_concat_iff, not_or, forall_and, not_and, forall_eq]

/-- The latest place is the end, or it is the latest one before. -/
theorem lastSucceeds_concat_iff :
    start.LastSucceeds kind (commands ++ [command]) earlier ↔
      (earlier = commands ∧ kind command ∧ (start.run commands).1.env.Converts) ∨
        ¬ (kind command ∧ (start.run commands).1.env.Converts) ∧
          start.LastSucceeds kind commands earlier := by
  simp only [LastSucceeds, succeeds_concat_iff]
  constructor
  · rintro ⟨hplace | hend, hlatest⟩
    · refine Or.inr ⟨fun hend => ?_, hplace, fun other hother => hlatest other (Or.inl hother)⟩
      exact hplace.not_isPrefix (hlatest commands (Or.inr ⟨rfl, hend⟩))
    · exact Or.inl hend
  · rintro (⟨rfl, hend⟩ | ⟨hend, hplace, hlatest⟩)
    · refine ⟨Or.inr ⟨rfl, hend⟩, ?_⟩
      rintro other (hother | ⟨rfl, -⟩)
      · exact hother.isPrefix
      · exact List.prefix_rfl
    · refine ⟨Or.inl hplace, ?_⟩
      rintro other (hother | ⟨-, hother⟩)
      · exact hlatest other hother
      · exact absurd hother hend

/-- The first place is the first one before, or it is the end. -/
theorem firstSucceeds_concat_iff :
    start.FirstSucceeds kind (commands ++ [command]) earlier ↔
      start.FirstSucceeds kind commands earlier ∨
        start.NeverSucceeds kind commands ∧
          earlier = commands ∧ kind command ∧ (start.run commands).1.env.Converts := by
  simp only [FirstSucceeds, NeverSucceeds, succeeds_concat_iff]
  constructor
  · rintro ⟨hplace | ⟨rfl, hend⟩, hfirst⟩
    · exact Or.inl ⟨hplace, fun other hother => hfirst other (Or.inl hother)⟩
    · refine Or.inr ⟨fun other hother => ?_, rfl, hend⟩
      exact hother.not_isPrefix (hfirst other (Or.inl hother))
  · rintro (⟨hplace, hfirst⟩ | ⟨hnever, rfl, hend⟩)
    · refine ⟨Or.inl hplace, ?_⟩
      rintro other (hother | ⟨rfl, -⟩)
      · exact hfirst other hother
      · exact hplace.isPrefix
    · refine ⟨Or.inr ⟨rfl, hend⟩, ?_⟩
      rintro other (hother | ⟨rfl, -⟩)
      · exact absurd hother (hnever other)
      · exact List.prefix_rfl

/-! ### The history of a session -/

/-- The shared settings after some commands. -/
inductive Shares (start : Session σ) (commands : List Command) (held : HeldSettings) : Prop where
  /-- They were made by the latest reload that succeeded. -/
  | reloaded (earlier : List Command)
      (hlast : start.LastSucceeds Command.Reloads commands earlier)
      (hmakes : (start.run earlier).1.store.Makes (start.run earlier).1.env held)
  /-- No reload succeeded, and they were made when they were first needed and could be made. -/
  | created (earlier : List Command)
      (hfirst : start.FirstSucceeds Command.AsksSettings commands earlier)
      (hmakes : (start.run earlier).1.store.Makes (start.run earlier).1.env held)
      (hnever : start.NeverSucceeds Command.Reloads commands)

/-- Nobody has made shared settings. -/
def NeverShares (start : Session σ) (commands : List Command) : Prop :=
  start.NeverSucceeds Command.Reloads commands ∧ start.NeverSucceeds Command.AsksSettings commands

/-- One more command does to the history what it does to the shared settings. -/
theorem shares_concat_iff :
    start.Shares (commands ++ [command]) held ↔
      command.Reloads ∧ (start.run commands).1.store.Makes (start.run commands).1.env held ∨
      ¬ (command.Reloads ∧ (start.run commands).1.env.Converts) ∧
        (start.Shares commands held ∨
          start.NeverShares commands ∧ command.AsksSettings ∧
            (start.run commands).1.store.Makes (start.run commands).1.env held) := by
  constructor
  · rintro (⟨earlier, hlast, hmakes⟩ | ⟨earlier, hfirst, hmakes, hnever⟩)
    · rcases lastSucceeds_concat_iff.1 hlast with ⟨rfl, hreloads, -⟩ | ⟨hend, hlast⟩
      · exact Or.inl ⟨hreloads, hmakes⟩
      · exact Or.inr ⟨hend, Or.inl (.reloaded earlier hlast hmakes)⟩
    · obtain ⟨hnever, hend⟩ := neverSucceeds_concat_iff.1 hnever
      refine Or.inr ⟨hend, ?_⟩
      rcases firstSucceeds_concat_iff.1 hfirst with hfirst | ⟨hunasked, rfl, hasks, -⟩
      · exact Or.inl (.created earlier hfirst hmakes hnever)
      · exact Or.inr ⟨⟨hnever, hunasked⟩, hasks, hmakes⟩
  · rintro (⟨hreloads, hmakes⟩ | ⟨hend, hshares | ⟨⟨hnever, hunasked⟩, hasks, hmakes⟩⟩)
    · exact .reloaded commands
        (lastSucceeds_concat_iff.2 (Or.inl ⟨rfl, hreloads, hmakes.converts⟩)) hmakes
    · rcases hshares with ⟨earlier, hlast, hmakes⟩ | ⟨earlier, hfirst, hmakes, hnever⟩
      · exact .reloaded earlier (lastSucceeds_concat_iff.2 (Or.inr ⟨hend, hlast⟩)) hmakes
      · exact .created earlier (firstSucceeds_concat_iff.2 (Or.inl hfirst)) hmakes
          (neverSucceeds_concat_iff.2 ⟨hnever, hend⟩)
    · exact .created commands
        (firstSucceeds_concat_iff.2 (Or.inr ⟨hunasked, rfl, hasks, hmakes.converts⟩)) hmakes
        (neverSucceeds_concat_iff.2 ⟨hnever, hend⟩)

theorem neverShares_concat_iff :
    start.NeverShares (commands ++ [command]) ↔
      start.NeverShares commands ∧ ¬ (command.Reloads ∧ (start.run commands).1.env.Converts) ∧
        ¬ (command.AsksSettings ∧ (start.run commands).1.env.Converts) := by
  simp only [NeverShares, neverSucceeds_concat_iff, and_and_and_comm]

theorem neverShares_nil : start.NeverShares [] := ⟨neverSucceeds_nil, neverSucceeds_nil⟩

theorem not_shares_nil : ¬ start.Shares [] held := by
  rintro (⟨earlier, ⟨hplace, -⟩, -⟩ | ⟨earlier, ⟨hplace, -⟩, -⟩) <;>
    exact neverSucceeds_nil earlier hplace

/-- **After every run**, the shared settings are those of the history. -/
theorem current_run_iff (hfresh : start.store = .fresh) (commands : List Command) :
    (∀ held, (start.run commands).1.store.current = some held ↔ start.Shares commands held) ∧
      ((start.run commands).1.store.current = none ↔ start.NeverShares commands) := by
  -- whether there are any decides what the next command does
  induction commands using List.reverseRecOn with
  | nil =>
    have hcurrent : start.store.current = none := by rw [hfresh]; rfl
    refine ⟨fun held => iff_of_false ?_ not_shares_nil, iff_of_true hcurrent neverShares_nil⟩
    rw [run, hcurrent]
    exact nofun
  | append_singleton commands command ih =>
    obtain ⟨hsome, hnone⟩ := ih
    refine ⟨fun held => ?_, ?_⟩
    · rw [run_concat, current_step_iff, shares_concat_iff, hsome, hnone]
    · rw [run_concat, current_step_eq_none_iff, neverShares_concat_iff, hnone]

theorem numbered_run (hfresh : start.store = .fresh) (commands : List Command) :
    (start.run commands).1.store.Numbered := by
  induction commands using List.reverseRecOn with
  | nil =>
    intro held hheld
    rw [run, hfresh] at hheld
    cases hheld
  | append_singleton commands command ih =>
    rw [run_concat]
    exact numbered_step ih command

/-! ### What becomes of shared settings -/

/-- What can become of the shared settings of a session, and of their absence. -/
structure KeepsSettings (session : Session σ) : Prop where
  /-- Until a reload succeeds, they stay the same value, and whoever asks for them gets this one. -/
  kept : ∀ held, session.store.current = some held →
    ∀ later, session.NeverSucceeds Command.Reloads later →
      (session.run later).1.store.current = some held ∧
        ((session.run later).1.step .getSettings).2.outcome = .ok (.settings held.settings true)
  /-- A reload that succeeds puts another value in their place. -/
  replaced : ∀ held, session.store.Makes session.env held →
    (session.step .reloadSettings).1.store.current = some held ∧
      (session.step .reloadSettings).2.outcome = .ok (.settings held.settings false)
  /-- Settings that are made aside are another value, and they are not shared. -/
  aside : (session.step .makeSettings).1.store.current = session.store.current ∧
    ∀ held, session.store.Makes session.env held →
      (session.step .makeSettings).2.outcome = .ok (.settings held.settings false)
  /-- As long as there are none, the next command that needs them makes them if it can. -/
  created : session.store.current = none → ∀ held, session.store.Makes session.env held →
    (∀ command : Command, command.AsksSettings →
      (session.step command).1.store.current = some held) ∧
      (session.step .getSettings).2.outcome = .ok (.settings held.settings false)
  /-- What has to make settings fails if a variable stands in the way, and then nothing changes. -/
  failed : ∀ fault, session.env.Fails fault → ∀ command : Command,
    (session.step command).1.store = session.store ∧
      (command.Reloads ∨ command = .makeSettings ∨
        command.AsksSettings ∧ session.store.current = none →
          (session.step command).2.outcome = .error (.setting fault))

/-- Only a reload that succeeds replaces the shared settings. -/
theorem current_run_of_neverSucceeds (h : session.store.current = some held)
    (hnever : session.NeverSucceeds Command.Reloads commands) :
    (session.run commands).1.store.current = some held := by
  induction commands using List.reverseRecOn with
  | nil => exact h
  | append_singleton commands command ih =>
    obtain ⟨hbefore, hend⟩ := neverSucceeds_concat_iff.1 hnever
    rw [run_concat, current_step_iff]
    exact Or.inr ⟨hend, Or.inl (ih hbefore)⟩

/-- New settings are none that were shared before. -/
theorem current_ne_of_makes (hnumbered : session.store.Numbered)
    (h : session.store.Makes session.env held) :
    (session.store.current.map (·.serial) == some held.serial) = false := by
  cases hcurrent : session.store.current with
  | none => rfl
  | some old =>
    have hold := hnumbered old hcurrent
    have hserial := h.2
    simp only [Option.map_some, beq_eq_false_iff_ne, ne_eq, Option.some.injEq]
    omega

theorem answerSettings_of_makes (hnumbered : session.store.Numbered)
    (h : session.store.Makes session.env held) (store : SettingsStore) :
    (session.answerSettings (.ok held, store)).2.outcome = .ok (.settings held.settings false) := by
  simp only [answerSettings, Answer.ofOutcome, current_ne_of_makes hnumbered h]

/-- Without the shared settings, nothing is done that needs them. -/
theorem step_of_asks_of_error {fault : SettingFault} (hasks : command.AsksSettings)
    (h : session.store.get session.env = (.error fault, session.store)) :
    session.step command = (session, .ofOutcome (.error (.setting fault))) := by
  have hwith (next : Session σ → Settings → Session σ × Answer) :
      session.withSettings next = (session, .ofOutcome (.error (.setting fault))) := by
    simp only [withSettings, h]
  cases command with
  | getSettings => simp only [step, answerSettings, h]
  | build given =>
    cases given with
    | none => exact hwith build
    | some settings => cases hasks
  | configureLog level =>
    rw [step, filter_name_eq_none_iff.2 hasks]
    exact hwith _
  | _ => cases hasks

/-- A variable that stands in the way lets nothing reach the store. -/
theorem store_step_of_fails {fault : SettingFault} (h : session.env.Fails fault)
    (command : Command) : (session.step command).1.store = session.store := by
  rcases session.store_step_cases command with
    ⟨-, hstore⟩ | ⟨-, hstore⟩ | ⟨-, hstore⟩ | ⟨-, -, hstore⟩
  · rw [hstore, SettingsStore.store_get_of_fails h]
  · rw [hstore, SettingsStore.reload_of_fails h]
  · rw [hstore, SettingsStore.makeAside_of_fails h]
  · exact hstore

/-- What has to make settings says which variable stands in the way. -/
theorem outcome_step_of_fails {fault : SettingFault} (h : session.env.Fails fault)
    (hmust : command.Reloads ∨ command = .makeSettings ∨
      command.AsksSettings ∧ session.store.current = none) :
    (session.step command).2.outcome = .error (.setting fault) := by
  rcases hmust with rfl | rfl | ⟨hasks, hnone⟩
  · rw [step, SettingsStore.reload_of_fails h]
    rfl
  · rw [step, SettingsStore.makeAside_of_fails h]
    rfl
  · have hget : session.store.get session.env = (.error fault, session.store) := by
      rw [SettingsStore.get_of_none hnone, SettingsStore.reload_of_fails h]
    rw [step_of_asks_of_error hasks hget]
    rfl

theorem keepsSettings (hnumbered : session.store.Numbered) : session.KeepsSettings where
  kept := by
    intro held hheld later hnever
    have hcurrent := current_run_of_neverSucceeds hheld hnever
    refine ⟨hcurrent, ?_⟩
    simp [step, answerSettings, Answer.ofOutcome, SettingsStore.get_of_some hcurrent, hcurrent]
  replaced := by
    intro held hmakes
    refine ⟨current_step_iff.2 (Or.inl ⟨rfl, hmakes⟩), ?_⟩
    rw [step, SettingsStore.reload_of_makes hmakes]
    exact answerSettings_of_makes hnumbered hmakes _
  aside := by
    refine ⟨session.store.current_makeAside session.env, fun held hmakes => ?_⟩
    rw [step, SettingsStore.makeAside_of_makes hmakes]
    exact answerSettings_of_makes hnumbered hmakes _
  created := by
    intro hnone held hmakes
    refine ⟨fun command hasks => ?_, ?_⟩
    · rw [store_step_of_asks hasks, SettingsStore.current_get_iff]
      exact Or.inr ⟨hnone, hmakes⟩
    · rw [step, SettingsStore.get_of_none hnone, SettingsStore.reload_of_makes hmakes]
      exact answerSettings_of_makes hnumbered hmakes _
  failed := fun _ hfails command =>
    ⟨store_step_of_fails hfails command, outcome_step_of_fails hfails⟩

/-- **After every run, the shared settings are those of the history**: those of the latest reload
that succeeded, or else those of the first time that they were needed and could be made, and none
before that.  From there on they are kept until a reload succeeds. -/
theorem settings_of_run (hfresh : start.store = .fresh) (commands : List Command) :
    (∀ held, (start.run commands).1.store.current = some held ↔ start.Shares commands held) ∧
      ((start.run commands).1.store.current = none ↔ start.NeverShares commands) ∧
      (start.run commands).1.KeepsSettings := by
  obtain ⟨hsome, hnone⟩ := current_run_iff hfresh commands
  exact ⟨hsome, hnone, keepsSettings (numbered_run hfresh commands)⟩

/-- The first time the settings cannot be made; the second time they are, from all six variables.  A
reload that fails keeps them, and one that succeeds puts others in their place, in which the
variables that are removed count by what stands for them. -/
theorem settings_of_run_retried :
    let start : Session Unit :=
      ⟨.constant (.presenters []) [], [], .empty, Environment.unset.set .timeout (some "soon"),
        .fresh, ()⟩
    let refused : List Command := [.getSettings]
    let given : List (Variable × Option String) :=
      [(.url, some "http://search:9201"), (.indexName, some "media"), (.timeout, some "inf"),
        (.maxResultWindow, some " 2_500 "), (.excludeUserProvider, some "guest, ldap"),
        (.logLevel, some "DEBUG")]
    let retried := refused ++ [.setVariables given, .configureLog none]
    let kept := retried ++
      [.setVariables [(.timeout, some "soon"), (.excludeUserProvider, some "*")], .reloadSettings]
    let removed : List (Variable × Option String) :=
      [(.url, none), (.indexName, none), (.timeout, some "-inf"), (.maxResultWindow, none),
        (.excludeUserProvider, none), (.logLevel, none)]
    let replaced := kept ++ [.setVariables removed, .reloadSettings]
    let first : Settings :=
      ⟨⟨"http://search:9201", "media", .infinity false, 2500⟩, ⟨"guest, ldap"⟩, "DEBUG"⟩
    let second : Settings :=
      ⟨⟨"http://localhost:9200", "opencast", .infinity true, 10000⟩, ⟨""⟩, "INFO"⟩
    start.NeverShares refused ∧ start.Shares retried ⟨first, 0⟩ ∧ start.Shares kept ⟨first, 0⟩ ∧
      start.Shares replaced ⟨second, 1⟩ ∧ (start.run replaced).1.KeepsSettings := by
  intro start refused given retried kept removed replaced first second
  have hfresh : start.store = .fresh := rfl
  have hrefused : (start.run refused).1.store.current = none := by decide
  have hretried : (start.run retried).1.store.current = some ⟨first, 0⟩ := by decide
  have hkept : (start.run kept).1.store.current = some ⟨first, 0⟩ := by decide
  have hreplaced : (start.run replaced).1.store.current = some ⟨second, 1⟩ := by decide
  obtain ⟨-, hnever, -⟩ := settings_of_run hfresh refused
  obtain ⟨hsecond, -, hkeeps⟩ := settings_of_run hfresh replaced
  exact ⟨hnever.1 hrefused, ((settings_of_run hfresh retried).1 _).1 hretried,
    ((settings_of_run hfresh kept).1 _).1 hkept, (hsecond _).1 hreplaced, hkeeps⟩

end Session

end Picklists

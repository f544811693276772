import Picklists.Proofs.Checked
import Picklists.Settings.Store

/-!
# The store of the settings

What asking, reloading and making aside do to the store of the shared settings.  Each of them can
fail, because a variable holds no numeral where one is needed, and then it changes nothing.

* `Environment.Describes` : the settings that an environment stands for, variable by variable.
  **They are the ones that are made** (`Environment.ofEnvironment_eq_ok_iff`).
* `Environment.Converts`, `Environment.Fails` : whether the variables stand in the way of settings.
* `SettingsStore.Makes` : the settings that are made next.
* `SettingsStore.current_reload_iff`, `SettingsStore.current_get_iff` : the shared settings after a
  reload, and after somebody has asked for them.
* `SettingsStore.Numbered` : the shared settings have a number that was given before, so settings
  that are made anew are others even if they are equal.
-/

namespace Picklists

/-! ### Settings of an environment -/

namespace Environment

/-- The value of the variable of a name. -/
def named (env : Environment) (name : String) : Option String := (Variable.ofName? name).bind env

/-- The variable of the timeout holds the numeral of a number, possibly with white space around it.
While it is not set, `10` counts. -/
def GivesTimeout (env : Environment) (x : Binary64) : Prop :=
  Numeral.readReal Text.decimalDigit?
    (Text.trim Text.isSpace ((env.named "SEARCH_INDEX_TIMEOUT").getD "10").toList) = some x

/-- The variable of the result window holds the numeral of an integer.  While it is not set, `10000`
counts. -/
def GivesWindow (env : Environment) (n : Int) : Prop :=
  Numeral.readInteger Text.decimalDigit?
    ((env.named "SEARCH_INDEX_MAX_RESULT_WINDOW").getD "10000").toList = .ok n

/-- The settings that an environment stands for: which variable gives which field, and what counts
while it is not set. -/
structure Describes (env : Environment) (settings : Settings) : Prop where
  /-- The address of the search index. -/
  url : settings.index.url = .ofString ((env.named "SEARCH_INDEX_URL").getD "http://localhost:9200")
  /-- The name that all index names begin with. -/
  indexName : settings.index.indexName = .ofString ((env.named "SEARCH_INDEX_NAME").getD "opencast")
  /-- The time to wait for an answer. -/
  timeout : env.GivesTimeout settings.index.timeout
  /-- The largest result window of the index. -/
  maxResultWindow : env.GivesWindow settings.index.maxResultWindow
  /-- The excluded user providers. -/
  excludeUserProvider : settings.contributors.excludeUserProvider =
    .ofString ((env.named "EXCLUDE_USER_PROVIDER").getD "")
  /-- The level of the log. -/
  logLevel : settings.logLevel = .ofString ((env.named "LOG_LEVEL").getD "INFO")

/-- The two variables that hold numerals do so. -/
def Converts (env : Environment) : Prop := (∃ x, env.GivesTimeout x) ∧ ∃ n, env.GivesWindow n

/-- One of the two variables holds no numeral.  The timeout is read first. -/
inductive Fails (env : Environment) : SettingFault → Prop where
  /-- The timeout is no number. -/
  | timeout (h : ∀ x, ¬ env.GivesTimeout x) :
      Fails env (.notNumber ((env.named "SEARCH_INDEX_TIMEOUT").getD "10"))
  /-- The result window is no integer. -/
  | window {x : Binary64} (htimeout : env.GivesTimeout x)
      (h : Numeral.readInteger Text.decimalDigit?
        ((env.named "SEARCH_INDEX_MAX_RESULT_WINDOW").getD "10000").toList = .error .malformed) :
      Fails env (.notInteger ((env.named "SEARCH_INDEX_MAX_RESULT_WINDOW").getD "10000"))
  /-- The result window is too long. -/
  | longWindow {x : Binary64} {digits : Nat} (htimeout : env.GivesTimeout x)
      (h : Numeral.readInteger Text.decimalDigit?
        ((env.named "SEARCH_INDEX_MAX_RESULT_WINDOW").getD "10000").toList =
          .error (.tooLong digits)) :
      Fails env (.tooLong digits)

variable {env : Environment} {fault : SettingFault}

theorem value_timeout (env : Environment) :
    env.value .timeout = (env.named "SEARCH_INDEX_TIMEOUT").getD "10" := rfl

theorem value_maxResultWindow (env : Environment) :
    env.value .maxResultWindow = (env.named "SEARCH_INDEX_MAX_RESULT_WINDOW").getD "10000" := rfl

theorem timeout_eq_ok_iff {x : Binary64} : env.timeout = .ok x ↔ env.GivesTimeout x := by
  simp only [timeout, GivesTimeout, value_timeout]
  split
  · rename_i y h
    rw [h, Except.ok.injEq, Option.some.injEq]
  · rename_i h
    rw [h]
    exact iff_of_false nofun nofun

theorem maxResultWindow_eq_ok_iff {n : Int} :
    env.maxResultWindow = .ok n ↔ env.GivesWindow n := by
  simp only [maxResultWindow, GivesWindow, value_maxResultWindow]
  split
  · rename_i m h
    rw [h, Except.ok.injEq, Except.ok.injEq]
  · rename_i h
    rw [h]
    exact iff_of_false nofun nofun
  · rename_i h
    rw [h]
    exact iff_of_false nofun nofun

/-- **The settings that are made are those that the environment stands for.** -/
theorem ofEnvironment_eq_ok_iff {settings : Settings} :
    Settings.ofEnvironment env = .ok settings ↔ env.Describes settings := by
  simp only [Settings.ofEnvironment, IndexSettings.ofEnvironment, bind_eq_ok_iff,
    timeout_eq_ok_iff, maxResultWindow_eq_ok_iff]
  constructor
  · rintro ⟨index, ⟨x, htimeout, n, hwindow, hindex⟩, hsettings⟩
    cases hindex
    cases hsettings
    exact ⟨rfl, rfl, htimeout, hwindow, rfl, rfl⟩
  · obtain ⟨⟨url, indexName, timeout, window⟩, ⟨excludeUserProvider⟩, logLevel⟩ := settings
    rintro ⟨rfl, rfl, htimeout, hwindow, rfl, rfl⟩
    exact ⟨_, ⟨_, htimeout, _, hwindow, rfl⟩, rfl⟩

theorem converts_iff : env.Converts ↔ ∃ settings, env.Describes settings := by
  constructor
  · rintro ⟨⟨x, htimeout⟩, ⟨n, hwindow⟩⟩
    exact ⟨⟨⟨_, _, x, n⟩, ⟨_⟩, _⟩, rfl, rfl, htimeout, hwindow, rfl, rfl⟩
  · rintro ⟨settings, h⟩
    exact ⟨⟨_, h.timeout⟩, ⟨_, h.maxResultWindow⟩⟩

theorem Fails.ofEnvironment (h : env.Fails fault) : Settings.ofEnvironment env = .error fault := by
  rw [Settings.ofEnvironment, IndexSettings.ofEnvironment]
  cases h with
  | timeout h =>
    have htimeout : env.timeout =
        .error (.notNumber ((env.named "SEARCH_INDEX_TIMEOUT").getD "10")) := by
      simp only [Environment.timeout, value_timeout, Option.eq_none_iff_forall_ne_some.2 h]
    rw [htimeout]
    rfl
  | window htimeout h | longWindow htimeout h =>
    rw [timeout_eq_ok_iff.2 htimeout]
    simp only [maxResultWindow, value_maxResultWindow, h]
    rfl

/-- Settings can be made, or a variable stands in the way. -/
theorem converts_or_fails (env : Environment) : env.Converts ∨ ∃ fault, env.Fails fault := by
  -- the timeout is read first, so the result window only counts if there is one
  by_cases htimeout : ∃ x, env.GivesTimeout x
  · obtain ⟨x, hx⟩ := htimeout
    cases hwindow : Numeral.readInteger Text.decimalDigit?
        ((env.named "SEARCH_INDEX_MAX_RESULT_WINDOW").getD "10000").toList with
    | ok n => exact Or.inl ⟨⟨x, hx⟩, n, hwindow⟩
    | error cause =>
      cases cause with
      | malformed => exact Or.inr ⟨_, .window hx hwindow⟩
      | tooLong digits => exact Or.inr ⟨_, .longWindow hx hwindow⟩
  · exact Or.inr ⟨_, .timeout (not_exists.1 htimeout)⟩

theorem Fails.not_converts (h : env.Fails fault) : ¬ env.Converts := by
  rw [converts_iff]
  rintro ⟨settings, hsettings⟩
  cases h.ofEnvironment.symm.trans (ofEnvironment_eq_ok_iff.2 hsettings)

end Environment

namespace SettingsStore

variable {store : SettingsStore} {env : Environment} {held : HeldSettings} {fault : SettingFault}

/-! ### The store -/

/-- The settings that are made next: those of the environment, with a number of their own. -/
def Makes (store : SettingsStore) (env : Environment) (held : HeldSettings) : Prop :=
  env.Describes held.settings ∧ held.serial = store.made

theorem Makes.converts (h : store.Makes env held) : env.Converts :=
  Environment.converts_iff.2 ⟨held.settings, h.1⟩

theorem makes_of_converts (store : SettingsStore) (h : env.Converts) :
    ∃ held, store.Makes env held := by
  obtain ⟨settings, hsettings⟩ := Environment.converts_iff.1 h
  exact ⟨⟨settings, store.made⟩, hsettings, rfl⟩

theorem Makes.unique {other : HeldSettings} (h : store.Makes env held)
    (hother : store.Makes env other) : held = other := by
  obtain ⟨settings, serial⟩ := held
  obtain ⟨settings', serial'⟩ := other
  obtain ⟨hsettings, rfl⟩ := h
  obtain ⟨hsettings', rfl⟩ := hother
  cases (Environment.ofEnvironment_eq_ok_iff.2 hsettings).symm.trans
    (Environment.ofEnvironment_eq_ok_iff.2 hsettings')
  rfl

/-- Either settings can be made, or a variable stands in the way. -/
theorem makes_or_fails (store : SettingsStore) (env : Environment) :
    (∃ held, store.Makes env held) ∨ ∃ fault, env.Fails fault :=
  env.converts_or_fails.imp_left store.makes_of_converts

theorem makeAside_of_makes (h : store.Makes env held) :
    store.makeAside env = (.ok held, ⟨store.current, store.made + 1⟩) := by
  obtain ⟨settings, serial⟩ := held
  obtain ⟨hsettings, rfl⟩ := h
  rw [makeAside, Environment.ofEnvironment_eq_ok_iff.2 hsettings]

theorem makeAside_of_fails (h : env.Fails fault) :
    store.makeAside env = (.error fault, store) := by
  rw [makeAside, h.ofEnvironment]

theorem reload_of_makes (h : store.Makes env held) :
    store.reload env = (.ok held, ⟨some held, store.made + 1⟩) := by
  rw [reload, makeAside_of_makes h]

theorem reload_of_fails (h : env.Fails fault) :
    store.reload env = (.error fault, store) := by
  rw [reload, makeAside_of_fails h]

theorem get_of_some (h : store.current = some held) (env : Environment) :
    store.get env = (.ok held, store) := by
  rw [get, h]

theorem get_of_none (h : store.current = none) (env : Environment) :
    store.get env = store.reload env := by
  rw [get, h]

theorem store_get_of_fails (h : env.Fails fault) : (store.get env).2 = store := by
  cases hcurrent : store.current with
  | some held => rw [get_of_some hcurrent]
  | none => rw [get_of_none hcurrent, reload_of_fails h]

theorem current_makeAside (store : SettingsStore) (env : Environment) :
    (store.makeAside env).2.current = store.current := by
  rcases store.makes_or_fails env with ⟨held, hmakes⟩ | ⟨fault, hfault⟩
  · rw [makeAside_of_makes hmakes]
  · rw [makeAside_of_fails hfault]

/-- A reload replaces the shared settings if it succeeds. -/
theorem current_reload_iff :
    (store.reload env).2.current = some held ↔
      store.Makes env held ∨ ¬ env.Converts ∧ store.current = some held := by
  rcases store.makes_or_fails env with ⟨made, hmakes⟩ | ⟨fault, hfault⟩
  · rw [reload_of_makes hmakes]
    constructor
    · rintro ⟨⟩
      exact Or.inl hmakes
    · rintro (hheld | ⟨hconverts, -⟩)
      · rw [hmakes.unique hheld]
      · exact absurd hmakes.converts hconverts
  · rw [reload_of_fails hfault]
    have hconverts := hfault.not_converts
    exact ⟨fun h => Or.inr ⟨hconverts, h⟩, fun h => (h.resolve_left (hconverts ·.converts)).2⟩

/-- Who asks for the shared settings makes them if there are none. -/
theorem current_get_iff :
    (store.get env).2.current = some held ↔
      store.current = some held ∨ store.current = none ∧ store.Makes env held := by
  cases hcurrent : store.current with
  | some old =>
    rw [get_of_some hcurrent, hcurrent]
    simp
  | none =>
    rw [get_of_none hcurrent, current_reload_iff, hcurrent]
    simp

/-- The number of the shared settings is one that was given before. -/
def Numbered (store : SettingsStore) : Prop :=
  ∀ held, store.current = some held → held.serial < store.made

theorem Numbered.makeAside (h : store.Numbered) (env : Environment) :
    (store.makeAside env).2.Numbered := by
  rcases store.makes_or_fails env with ⟨made, hmakes⟩ | ⟨fault, hfault⟩
  · rw [makeAside_of_makes hmakes]
    exact fun held hheld => Nat.lt_succ_of_lt (h held hheld)
  · rw [makeAside_of_fails hfault]
    exact h

theorem Numbered.reload (h : store.Numbered) (env : Environment) :
    (store.reload env).2.Numbered := by
  rcases store.makes_or_fails env with ⟨made, hmakes⟩ | ⟨fault, hfault⟩
  · rw [reload_of_makes hmakes]
    rintro held ⟨⟩
    exact hmakes.2 ▸ Nat.lt_succ_self _
  · rw [reload_of_fails hfault]
    exact h

theorem Numbered.get (h : store.Numbered) (env : Environment) : (store.get env).2.Numbered := by
  cases hcurrent : store.current with
  | some held => rwa [get_of_some hcurrent]
  | none =>
    rw [get_of_none hcurrent]
    exact h.reload env

end SettingsStore

end Picklists

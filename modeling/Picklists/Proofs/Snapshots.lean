import Mathlib.Data.List.Induction
import Picklists.Proofs.Failures
import Picklists.Proofs.Steps

/-!
# Whom a provider of contributors excludes

Several providers of contributors may share the sources, the service and the settings.  The set of
user providers that one of them excludes is its own all the same: it comes from the making of the
provider and from its own configurations, whatever else is done in between.

* `Exclusion.after` : the set that is left after some commands, which is that of the last
  configuration among them.  One whose value has no text describes no set and changes nothing.
* `Session.contributors_step_iff` : **one step**: after a command there are the providers from
  before it, with a new set where the command is a configuration, and the one that it builds.
* `Session.Constructs` : how a provider of contributors comes about, and with which set.
* `Session.Excludes` : the set of a provider by the history of a session
  (`Session.excludes_concat_iff`).
* `Session.exclusion_of_run` : **after every run, a provider excludes what its history says**, and
  the set is its own (`Session.OwnsExclusion`).
-/

namespace Picklists

variable {σ : Type}

/-! ### Configurations -/

/-- The set that a configuration describes: that of the value of its property, and the empty one if
the property is missing.  A value that holds an integer that is too long to be written describes
none. -/
def Exclusion.ofProperties? (properties : Fields) : Option Exclusion :=
  match Json.field? properties "exclude.user.provider" with
  | some value => ofValue? value
  | none => some .empty

theorem Exclusion.ofValue?_fieldOr (properties : Fields) :
    ofValue? (Json.fieldOr properties exclusionProperty .null) = ofProperties? properties := by
  rw [Json.fieldOr, ofProperties?, exclusionProperty]
  cases Json.field? properties "exclude.user.provider" <;> rfl

/-- All but the values that cannot be written describe a set. -/
theorem Exclusion.isSome_ofValue?_iff (value : Json) :
    (ofValue? value).isSome ↔ value.Writable := by
  cases value with
  | null => simp [ofValue?, Json.Writable, Json.All, Json.ShortInteger]
  | _ =>
    simp only [ofValue?, Option.isSome_map]
    exact Json.isSome_asText?_iff _

/-- The set that a command gives the provider of a handle, if it is a configuration of it that
describes one. -/
def Command.changeOf? (handle : Handle) : Command → Option Exclusion
  | .configure other properties =>
    if other = handle then Exclusion.ofProperties? properties else none
  | _ => none

/-- The set that a provider excludes after some commands, if it excludes a given one before them:
that of its last configuration that describes one. -/
def Exclusion.after (excluded : Exclusion) (handle : Handle) (commands : List Command) : Exclusion :=
  (commands.filterMap (Command.changeOf? handle)).getLast?.getD excluded

/-- The last command counts first. -/
theorem Exclusion.after_concat (excluded : Exclusion) (handle : Handle) (commands : List Command)
    (command : Command) :
    excluded.after handle (commands ++ [command]) =
      (excluded.after handle commands).after handle [command] := by
  cases hchange : command.changeOf? handle with
  | none => simp [after, hchange]
  | some described => simp [after, hchange]

theorem Exclusion.after_of_changeOf_eq_none {handle : Handle} {command : Command}
    (h : command.changeOf? handle = none) (excluded : Exclusion) :
    excluded.after handle [command] = excluded := by
  simp [after, h]

theorem Exclusion.after_configure (excluded : Exclusion) (handle : Handle) (properties : Fields) :
    excluded.after handle [.configure handle properties] =
      (ofProperties? properties).getD excluded := by
  cases hdescribed : ofProperties? properties <;> simp [after, Command.changeOf?, hdescribed]

namespace Session

/-! ### One step -/

/-- A command builds a service with a provider of contributors.  Its set is that of the settings
from which the service is built. -/
def Builds (session : Session σ) (command : Command) (handle : Handle) (excluded : Exclusion) :
    Prop :=
  ∃ given settings themes listNames, command = .build given ∧
    session.settingsFor given = .ok settings ∧
    (session.step command).2.outcome = .ok (.built themes handle listNames) ∧
    excluded = .parse settings.contributors.excludeUserProvider

variable {session : Session σ} {handle : Handle} {excluded : Exclusion}

/-- The new provider stands behind all others. -/
theorem builds_iff {given : Option Settings} :
    session.Builds (.build given) handle excluded ↔
      ∃ settings, session.settingsFor given = .ok settings ∧
        handle = session.providers.length + 1 ∧ excluded = settings.contributors.excluded := by
  constructor
  · rintro ⟨_, settings, themes, listNames, ⟨⟩, hsettings, hbuilt, rfl⟩
    obtain ⟨store, hbuild⟩ := step_build_of_ok hsettings
    rw [hbuild] at hbuilt
    cases hbuilt
    exact ⟨settings, hsettings, rfl, rfl⟩
  · rintro ⟨settings, hsettings, rfl, rfl⟩
    obtain ⟨store, hbuild⟩ := step_build_of_ok hsettings
    exact ⟨given, settings, _, _, rfl, hsettings, congrArg (·.2.outcome) hbuild, rfl⟩

/-- Two more providers at the end. -/
theorem getElem?_append_pair {providers : List Provider} {added : Exclusion} :
    (providers ++ [.themes, .contributors added])[handle]? = some (.contributors excluded) ↔
      providers[handle]? = some (.contributors excluded) ∨
        handle = providers.length + 1 ∧ excluded = added := by
  rcases Nat.lt_or_ge handle providers.length with hold | hnew
  · rw [List.getElem?_append_left hold]
    exact (or_iff_left fun h => absurd hold (by rw [h.1]; omega)).symm
  · obtain ⟨place, rfl⟩ := Nat.exists_eq_add_of_le hnew
    rw [List.getElem?_append_right hnew, List.getElem?_eq_none hnew, Nat.add_sub_cancel_left]
    match place with
    | 0 => simp
    | 1 => simp [eq_comm]
    | place + 2 => simp

/-- A new service leaves the providers from before it as they are. -/
theorem contributors_build_iff {given : Option Settings} :
    (session.step (.build given)).1.providers[handle]? = some (.contributors excluded) ↔
      session.providers[handle]? = some (.contributors excluded) ∨
        session.Builds (.build given) handle excluded := by
  rw [builds_iff]
  cases hsettings : session.settingsFor given with
  | ok settings =>
    obtain ⟨store, hbuild⟩ := step_build_of_ok hsettings
    have hproviders : (session.step (.build given)).1.providers =
        session.providers ++ [.themes, .contributors settings.contributors.excluded] := by
      rw [hbuild]
      rfl
    rw [hproviders, getElem?_append_pair]
    simp
  | error fault =>
    rw [step_build_of_error hsettings]
    simp

/-- A configuration puts the set that it describes in the place of the old one, at its own provider
only. -/
theorem contributors_configure_iff {other : Handle} {properties : Fields} :
    (session.step (.configure other properties)).1.providers[handle]? =
        some (.contributors excluded) ↔
      ∃ before, session.providers[handle]? = some (.contributors before) ∧
        excluded = before.after handle [.configure other properties] := by
  by_cases hother : other = handle
  · subst hother
    simp only [Exclusion.after_configure]
    cases hprovider : session.providers[other]? with
    | none => simp [step, configure, hprovider]
    | some provider =>
      obtain ⟨hplace, -⟩ := List.getElem?_eq_some_iff.1 hprovider
      cases provider with
      | contributors before =>
        simp only [step, configure, hprovider, Exclusion.ofValue?_fieldOr]
        cases Exclusion.ofProperties? properties with
        | some described => simp [List.getElem?_set_self hplace, eq_comm]
        | none => simp [hprovider, eq_comm]
      | themes | fixed => simp [step, configure, hprovider]
  · have hchange : (Command.configure other properties).changeOf? handle = none := if_neg hother
    have hplace : (session.step (.configure other properties)).1.providers[handle]? =
        session.providers[handle]? := by
      simp only [step, configure]
      split
      · split
        · exact List.getElem?_set_ne hother
        · rfl
      · rfl
    simp [hplace, Exclusion.after_of_changeOf_eq_none hchange]

/-- **What a step does to the providers of contributors.** -/
theorem contributors_step_iff (session : Session σ) (command : Command) :
    (session.step command).1.providers[handle]? = some (.contributors excluded) ↔
      (∃ before, session.providers[handle]? = some (.contributors before) ∧
        excluded = before.after handle [command]) ∨
      session.Builds command handle excluded := by
  have hbuilds (h : ∀ given, command ≠ .build given) :
      ¬ session.Builds command handle excluded := by
    rintro ⟨given, -, -, -, rfl, -⟩
    exact h given rfl
  have hkept (h : command.changeOf? handle = none) :
      (∃ before, session.providers[handle]? = some (.contributors before) ∧
        excluded = before.after handle [command]) ↔
          session.providers[handle]? = some (.contributors excluded) := by
    simp [Exclusion.after_of_changeOf_eq_none h]
  by_cases hreconfigures : command.Reconfigures
  · cases command with
    | configure other properties =>
      rw [or_iff_left (hbuilds nofun)]
      exact contributors_configure_iff
    | build given =>
      rw [hkept rfl]
      exact contributors_build_iff
    | _ => cases hreconfigures
  · have hproviders := (session.step_frame command).providers hreconfigures
    have hother : command.changeOf? handle = none ∧ ∀ given, command ≠ .build given := by
      cases command with
      | configure | build => exact absurd trivial hreconfigures
      | _ => exact ⟨rfl, nofun⟩
    rw [hproviders, hkept hother.1, or_iff_left (hbuilds hother.2)]

/-! ### The history of a session -/

/-- How a provider of contributors comes about in the course of some commands, and with which set.
-/
inductive Constructs (start : Session σ) : List Command → Handle → Exclusion → Prop where
  /-- It is there from the start, made with a set or without one, which is the empty one. -/
  | given {handle : Handle} {excluded : Option Exclusion}
      (h : start.providers[handle]? = some (.newContributors excluded)) :
      Constructs start [] handle (excluded.getD .empty)
  /-- The last command builds it. -/
  | built {commands : List Command} {command : Command} {handle : Handle} {excluded : Exclusion}
      (h : (start.run commands).1.Builds command handle excluded) :
      Constructs start (commands ++ [command]) handle excluded

/-- What a provider of contributors excludes after some commands: the set of its last configuration
since it came about, or else the set with which it came about. -/
def Excludes (start : Session σ) (commands : List Command) (handle : Handle)
    (excluded : Exclusion) : Prop :=
  ∃ earlier later constructed, commands = earlier ++ later ∧
    start.Constructs earlier handle constructed ∧ excluded = constructed.after handle later

variable {start : Session σ} {commands : List Command}

theorem constructs_nil_iff :
    start.Constructs [] handle excluded ↔
      start.providers[handle]? = some (.contributors excluded) := by
  constructor
  · intro h
    generalize hnone : [] = commands at h
    cases h with
    | given h => exact h
    | built h => simp at hnone
  · intro h
    have hgiven : start.providers[handle]? = some (.newContributors (some excluded)) := h
    exact .given hgiven

theorem constructs_concat_iff {command : Command} :
    start.Constructs (commands ++ [command]) handle excluded ↔
      (start.run commands).1.Builds command handle excluded := by
  refine ⟨fun h => ?_, .built⟩
  generalize hall : commands ++ [command] = all at h
  cases h with
  | given h => simp at hall
  | built h =>
    obtain ⟨rfl, hlast⟩ := List.append_inj' hall rfl
    cases hlast
    exact h

theorem excludes_nil_iff :
    start.Excludes [] handle excluded ↔ start.providers[handle]? = some (.contributors excluded) := by
  constructor
  · rintro ⟨earlier, later, constructed, hcommands, hconstructs, rfl⟩
    obtain ⟨rfl, rfl⟩ := List.nil_eq_append_iff.1 hcommands
    exact constructs_nil_iff.1 hconstructs
  · intro h
    exact ⟨[], [], excluded, rfl, constructs_nil_iff.2 h, rfl⟩

/-- One more command. -/
theorem excludes_concat_iff (start : Session σ) (commands : List Command) (command : Command) :
    start.Excludes (commands ++ [command]) handle excluded ↔
      (∃ before, start.Excludes commands handle before ∧
        excluded = before.after handle [command]) ∨
      (start.run commands).1.Builds command handle excluded := by
  constructor
  · rintro ⟨earlier, later, constructed, hcommands, hconstructs, rfl⟩
    rcases List.eq_nil_or_concat later with rfl | ⟨later, last, rfl⟩
    · -- nothing comes after the making, so it is the command that makes the provider
      rw [List.append_nil] at hcommands
      exact Or.inr (constructs_concat_iff.1 (hcommands ▸ hconstructs))
    · rw [List.concat_eq_append] at hcommands ⊢
      rw [← List.append_assoc] at hcommands
      obtain ⟨rfl, hlast⟩ := List.append_inj' hcommands rfl
      cases hlast
      exact Or.inl ⟨_, ⟨earlier, later, constructed, rfl, hconstructs, rfl⟩,
        constructed.after_concat handle later command⟩
  · rintro (⟨before, ⟨earlier, later, constructed, rfl, hconstructs, rfl⟩, rfl⟩ | hbuilds)
    · refine ⟨earlier, later ++ [command], constructed, List.append_assoc .., hconstructs, ?_⟩
      exact (constructed.after_concat handle later command).symm
    · exact ⟨commands ++ [command], [], excluded, (List.append_nil _).symm, .built hbuilds, rfl⟩

/-- **After every run**, the providers of contributors and their sets are those of the history. -/
theorem contributors_run_iff (start : Session σ) (commands : List Command) :
    ∀ handle excluded, (start.run commands).1.providers[handle]? = some (.contributors excluded) ↔
      start.Excludes commands handle excluded := by
  induction commands using List.reverseRecOn with
  | nil => exact fun handle excluded => excludes_nil_iff.symm
  | append_singleton commands command ih =>
    intro handle excluded
    simp only [run_concat, contributors_step_iff, excludes_concat_iff, ih]

/-! ### The set of one provider -/

/-- The set that a provider of contributors excludes is its own. -/
structure OwnsExclusion (session : Session σ) (handle : Handle) (excluded : Exclusion) : Prop where
  /-- The provider excludes the set. -/
  held : session.providers[handle]? = some (.contributors excluded)
  /-- No command but a configuration of this provider changes that. -/
  kept : ∀ command, command.changeOf? handle = none →
    (session.step command).1.providers[handle]? = some (.contributors excluded)
  /-- A configuration puts the set that it describes in the place of this one, which it reports as
  it was. -/
  replaced : ∀ properties described, Exclusion.ofProperties? properties = some described →
    (session.step (.configure handle properties)).1.providers[handle]? =
        some (.contributors described) ∧
      (session.step (.configure handle properties)).2.outcome = .ok (.exclusion excluded described)
  /-- A configuration that describes no set fails, and this one stays. -/
  refused : ∀ properties, Exclusion.ofProperties? properties = none →
    (session.step (.configure handle properties)).1.providers[handle]? =
        some (.contributors excluded) ∧
      (session.step (.configure handle properties)).2.outcome = .error .unwritable
  /-- The listings of a provider with this set are those of a new one, whatever else there is. -/
  listings : ∀ target listName,
    session.answering? target listName = some (.contributors excluded) →
    ∀ caller service env store window,
      let sources : Sources σ := { session.sources with caller := caller }
      let fresh : Session σ :=
        ⟨sources, [.newContributors (some excluded)], service, env, store, session.link⟩
      (session.step (.list target listName window)).2 =
        (fresh.step (.list (.provider 0) listName window)).2

/-- Whom a provider excludes is known from the provider alone, so the set is its own. -/
theorem ownsExclusion (h : session.providers[handle]? = some (.contributors excluded)) :
    session.OwnsExclusion handle excluded where
  held := h
  kept := fun command hchange =>
    (session.contributors_step_iff command).2
      (Or.inl ⟨excluded, h, (Exclusion.after_of_changeOf_eq_none hchange excluded).symm⟩)
  replaced := fun properties described hdescribed => by
    refine ⟨(session.contributors_step_iff _).2 (Or.inl ⟨excluded, h, ?_⟩), ?_⟩
    · rw [excluded.after_configure handle properties, hdescribed, Option.getD_some]
    · simp only [step, configure, h, Exclusion.ofValue?_fieldOr, hdescribed]
  refused := fun properties hdescribed => by
    refine ⟨(session.contributors_step_iff _).2 (Or.inl ⟨excluded, h, ?_⟩), ?_⟩
    · rw [excluded.after_configure handle properties, hdescribed, Option.getD_none]
    · simp only [step, configure, h, Exclusion.ofValue?_fieldOr, hdescribed]
      rfl
  listings := by
    intro target listName hanswering caller service env store window sources fresh
    have hfresh : fresh.answering? (.provider 0) listName = some (.contributors excluded) := rfl
    rw [step_list hanswering, step_list hfresh]
    -- the work does not look at the caller
    rfl

/-- **After every run, a provider excludes what its history says**, and the set is its own. -/
theorem exclusion_of_run (start : Session σ) (commands : List Command) (handle : Handle)
    (excluded : Exclusion) :
    ((start.run commands).1.providers[handle]? = some (.contributors excluded) ↔
        start.Excludes commands handle excluded) ∧
      ((start.run commands).1.providers[handle]? = some (.contributors excluded) →
        (start.run commands).1.OwnsExclusion handle excluded) :=
  ⟨contributors_run_iff start commands handle excluded, ownsExclusion⟩

/-- A provider that is made without a set excludes nobody until it is configured, and a
configuration with an integer that is too long leaves its set as it is.  The one that is built
excludes guests, until a configuration without the property empties its set. -/
theorem exclusion_of_run_reconfigured :
    let start : Session Unit :=
      ⟨.constant (.presenters []) [], [.newContributors none], .empty, .unset, .fresh, ()⟩
    let settings : Settings :=
      ⟨⟨"http://localhost:9200", "opencast", ⟨0x4024000000000000⟩, 10000⟩, ⟨"guest"⟩, "INFO"⟩
    let configured : Fields := [("exclude.user.provider", .text "ldap, jpa")]
    let listing := Command.list (.provider 2) "CONTRIBUTORS.USERNAMES" none
    let before := [.build (some settings), listing]
    let after := before ++ [.configure 0 configured, .configure 2 []]
    let tooLong := Json.int (10 ^ Numeral.maxDigits : Nat)
    let long : Fields := [("exclude.user.provider", tooLong)]
    (start.run before).1.OwnsExclusion 0 .empty ∧
      (start.run before).1.OwnsExclusion 2 (.parse "guest") ∧
      (start.run after).1.OwnsExclusion 0 (.parse "ldap, jpa") ∧
      (start.run after).1.OwnsExclusion 2 .empty ∧
      (start.run (after ++ [.configure 0 long])).1.OwnsExclusion 0 (.parse "ldap, jpa") := by
  intro start settings configured listing before after tooLong long
  have hmade : start.providers[0]? = some (.newContributors none) := rfl
  have hbuilds : (start.run []).1.Builds (.build (some settings)) 2 (.parse "guest") :=
    ⟨some settings, settings, 1, _, rfl, rfl, rfl, rfl⟩
  have hgiven : start.Constructs [] 0 .empty := .given hmade
  have hbuilt : start.Constructs [.build (some settings)] 2 (.parse "guest") := .built hbuilds
  have howns {commands : List Command} {handle : Handle} {excluded : Exclusion}
      (h : start.Excludes commands handle excluded) :
      (start.run commands).1.OwnsExclusion handle excluded := by
    obtain ⟨hheld, hown⟩ := exclusion_of_run start commands handle excluded
    exact hown (hheld.2 h)
  have hwritable : ¬ tooLong.Writable := Numeral.not_writable_pow
  have hnone : Exclusion.ofValue? tooLong = none :=
    Option.not_isSome_iff_eq_none.1 (mt (Exclusion.isSome_ofValue?_iff tooLong).1 hwritable)
  have hlong : Exclusion.ofProperties? long = none := hnone
  have hkept : Exclusion.empty.after 0 (after ++ [.configure 0 long]) = .parse "ldap, jpa" := by
    rw [Exclusion.after_concat, Exclusion.after_configure, hlong]
    rfl
  exact ⟨howns ⟨[], before, _, rfl, hgiven, rfl⟩, howns ⟨_, [listing], _, rfl, hbuilt, rfl⟩,
    howns ⟨[], after, _, rfl, hgiven, rfl⟩, howns ⟨_, [listing, _, _], _, rfl, hbuilt, rfl⟩,
    howns ⟨[], _, _, rfl, hgiven, hkept.symm⟩⟩

end Session

end Picklists

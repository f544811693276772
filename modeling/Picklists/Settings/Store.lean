import Picklists.Settings

/-!
# The shared settings

One value of the settings is shared by all who ask. It is made from the environment when it is
asked for the first time, and again on request; as long as it is not made anew, later changes of
the environment do not reach it.

Every value that is made gets a number of its own, so that it can be told whether two answers are
the same value or only equal.
-/

namespace Picklists

/-- Settings together with the number of their making. -/
structure HeldSettings where
  /-- The settings. -/
  settings : Settings
  /-- How many settings were made before. -/
  serial : Nat
deriving DecidableEq

/-- The shared settings, and how many have been made so far. -/
structure SettingsStore where
  /-- The shared settings, if they have been asked for. -/
  current : Option HeldSettings
  /-- How many settings have been made. -/
  made : Nat
deriving DecidableEq

namespace SettingsStore

/-- The store before anyone has asked. -/
def fresh : SettingsStore := ⟨none, 0⟩

/-- Makes settings from the environment that nobody shares. -/
def makeAside (store : SettingsStore) (env : Environment) :
    Except SettingFault HeldSettings × SettingsStore :=
  match Settings.ofEnvironment env with
  | .ok settings => (.ok ⟨settings, store.made⟩, ⟨store.current, store.made + 1⟩)
  | .error fault => (.error fault, store)

/-- Makes the shared settings anew. If that fails, they stay as they are. -/
def reload (store : SettingsStore) (env : Environment) :
    Except SettingFault HeldSettings × SettingsStore :=
  match store.makeAside env with
  | (.ok held, store) => (.ok held, ⟨some held, store.made⟩)
  | (.error fault, store) => (.error fault, store)

/-- The shared settings, made now if nobody has asked before. -/
def get (store : SettingsStore) (env : Environment) :
    Except SettingFault HeldSettings × SettingsStore :=
  match store.current with
  | some held => (.ok held, store)
  | none => store.reload env

end SettingsStore

end Picklists

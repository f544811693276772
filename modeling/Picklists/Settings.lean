import Picklists.Exclusion
import Picklists.Settings.Environment

/-!
# Settings

The settings of the listings, and where they come from: what is not given explicitly is taken from
environment variables, and what these do not set has a fixed value.

* `Settings.ofEnvironment` : the settings when nothing is given.
* `Settings.decode` : the settings that an object describes.

A variable that holds no numeral where one is needed is a `SettingFault`. It stops the making of
settings at once, so it comes before any fault of the given values.
-/

namespace Picklists

/-- How to reach the search index. -/
structure IndexSettings where
  /-- The address. -/
  url : Text
  /-- The name that all index names begin with. -/
  indexName : Text
  /-- How many seconds to wait for an answer. -/
  timeout : Binary64
  /-- The largest result window that the index accepts. -/
  maxResultWindow : Int
deriving DecidableEq

/-- The settings of the contributor listings. -/
structure ContributorSettings where
  /-- The excluded user providers as a text. -/
  excludeUserProvider : Text
deriving DecidableEq

/-- The set of providers that the settings exclude. -/
def ContributorSettings.excluded (settings : ContributorSettings) : Exclusion :=
  .parse settings.excludeUserProvider

/-- All settings. -/
structure Settings where
  /-- How to reach the search index. -/
  index : IndexSettings
  /-- The settings of the contributor listings. -/
  contributors : ContributorSettings
  /-- The level of the log. -/
  logLevel : Text
deriving DecidableEq

/-- A given field, or the value that the environment has for it. -/
def settingOf {α : Type} (name : String) (absent : Except SettingFault α) (decode : Decoder α)
    (given : Fields) : Except SettingFault (Checked α) :=
  match Json.field? given name with
  | some value => .ok ((decode value).within (.field name))
  | none => absent.map .valid

namespace IndexSettings

/-- The settings when nothing is given. -/
def ofEnvironment (env : Environment) : Except SettingFault IndexSettings := do
  let timeout ← env.timeout
  let window ← env.maxResultWindow
  return ⟨env.text .url, env.text .indexName, timeout, window⟩

/-- The settings that a value describes. -/
def decode (env : Environment) : Json → Except SettingFault (Checked IndexSettings)
  | .object given => do
    let url := Checked.optional "url" (env.text .url) .text given
    let name := Checked.optional "index_name" (env.text .indexName) .text given
    let timeout ← settingOf "timeout" env.timeout .number given
    let window ← settingOf "max_result_window" env.maxResultWindow .integer given
    return IndexSettings.mk <$> url <*> name <*> timeout <*> window
  | _ => return .refuse (.notRecord "SearchIndexConfig")

end IndexSettings

namespace ContributorSettings

/-- The settings when nothing is given. -/
def ofEnvironment (env : Environment) : ContributorSettings := ⟨env.text .excludeUserProvider⟩

/-- The settings that a value describes. -/
def decode (env : Environment) : Decoder ContributorSettings :=
  .record "ContributorsConfig" fun given =>
    ContributorSettings.mk <$>
      .optional "exclude_user_provider" (env.text .excludeUserProvider) .text given

end ContributorSettings

namespace Settings

/-- The settings when nothing is given. -/
def ofEnvironment (env : Environment) : Except SettingFault Settings := do
  let index ← IndexSettings.ofEnvironment env
  return ⟨index, .ofEnvironment env, env.text .logLevel⟩

/-- The settings that a value describes. -/
def decode (env : Environment) : Json → Except SettingFault (Checked Settings)
  | .object given => do
    let index ← match Json.field? given "search_index" with
      | some value => (·.within (.field "search_index")) <$> IndexSettings.decode env value
      | none => .valid <$> IndexSettings.ofEnvironment env
    let contributors :=
      Checked.optional "contributors" (.ofEnvironment env) (ContributorSettings.decode env) given
    let level := Checked.optional "log_level" (env.text .logLevel) .text given
    return Settings.mk <$> index <*> contributors <*> level
  | _ => return .refuse (.notRecord "Config")

end Settings

end Picklists

import Picklists.Number.Numeral
import Picklists.Text.Quoted

/-!
# The environment

The environment variables that settings are taken from, and the values that count while they are
not set.

* `Variable` and `Environment` : the variables and their values.
* `Environment.timeout`, `Environment.maxResultWindow` : the two variables that hold numerals. A
  text that is none is a `SettingFault`.
-/

namespace Picklists

/-- The environment variables that the settings are taken from. -/
inductive Variable where
  /-- The address of the search index. -/
  | url
  /-- The name that all index names begin with. -/
  | indexName
  /-- How many seconds to wait for an answer. -/
  | timeout
  /-- The largest result window of the index. -/
  | maxResultWindow
  /-- The excluded user providers. -/
  | excludeUserProvider
  /-- The level of the log. -/
  | logLevel
deriving DecidableEq

namespace Variable

/-- The name of a variable. -/
def name : Variable → String
  | .url => "SEARCH_INDEX_URL"
  | .indexName => "SEARCH_INDEX_NAME"
  | .timeout => "SEARCH_INDEX_TIMEOUT"
  | .maxResultWindow => "SEARCH_INDEX_MAX_RESULT_WINDOW"
  | .excludeUserProvider => "EXCLUDE_USER_PROVIDER"
  | .logLevel => "LOG_LEVEL"

/-- All variables. -/
def all : List Variable :=
  [.url, .indexName, .timeout, .maxResultWindow, .excludeUserProvider, .logLevel]

/-- The variable of a name. -/
def ofName? (s : String) : Option Variable := all.find? (·.name == s)

/-- The value that counts while a variable is not set. -/
def absent : Variable → String
  | .url => "http://localhost:9200"
  | .indexName => "opencast"
  | .timeout => "10"
  | .maxResultWindow => "10000"
  | .excludeUserProvider => ""
  | .logLevel => "INFO"

end Variable

/-- Why a variable gives no setting. -/
inductive SettingFault where
  /-- The text is not the numeral of a number. -/
  | notNumber (text : String)
  /-- The text is not the numeral of an integer. -/
  | notInteger (text : String)
  /-- The numeral has this many digits, which are too many. -/
  | tooLong (digits : Nat)
deriving DecidableEq

/-- What is said about a variable that gives no setting. Of a text that is no integer at most 200
characters are shown, quotation mark included. -/
def SettingFault.message : SettingFault → String
  | .notNumber text => "could not convert string to float: " ++ Text.quote text
  | .notInteger text =>
    "invalid literal for int() with base 10: " ++
      String.ofList ((Text.quote text).toList.take 200)
  | .tooLong digits => Numeral.tooLongMessage digits

/-- The values of the environment variables. -/
abbrev Environment := Variable → Option String

namespace Environment

/-- The environment in which no variable is set. -/
def unset : Environment := fun _ => none

/-- Sets a variable, or removes its value. -/
def set (env : Environment) (v : Variable) (value : Option String) : Environment :=
  fun w => if w = v then value else env w

/-- The value of a variable, or the one that counts while it is not set. -/
def value (env : Environment) (v : Variable) : String := (env v).getD v.absent

/-- The value of a variable as a text. -/
def text (env : Environment) (v : Variable) : Text := env.value v

/-- The time to wait for an answer, in seconds. -/
def timeout (env : Environment) : Except SettingFault Binary64 :=
  let text := env.value .timeout
  match Numeral.readReal Text.decimalDigit? (Text.trim Text.isSpace text.toList) with
  | some x => .ok x
  | none => .error (.notNumber text)

/-- The largest result window of the index. -/
def maxResultWindow (env : Environment) : Except SettingFault Int :=
  let text := env.value .maxResultWindow
  match Numeral.readInteger Text.decimalDigit? text.toList with
  | .ok n => .ok n
  | .error .malformed => .error (.notInteger text)
  | .error (.tooLong digits) => .error (.tooLong digits)

end Environment

end Picklists

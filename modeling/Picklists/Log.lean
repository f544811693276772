import Picklists.Failure
import Picklists.Index.ThemeQuery

/-!
# The log

What is recorded while listings are made. An event determines its level, the logger that records
it, and its message. An event whose message holds an integer that is too long to be written has no
message (`Event.message?`).
-/

namespace Picklists

/-- The importance of an event. -/
inductive Level where
  /-- For those who look for the cause of something. -/
  | debug
  /-- What happens when all is well. -/
  | info
  /-- Something is not as it should be, but there is a result. -/
  | warning
  /-- There is no result. -/
  | error
deriving DecidableEq

namespace Level

/-- The name of a level. -/
def name : Level → String
  | .debug => "DEBUG"
  | .info => "INFO"
  | .warning => "WARNING"
  | .error => "ERROR"

/-- The number of a level; the greater it is, the more important. -/
def rank : Level → Nat
  | .debug => 10
  | .info => 20
  | .warning => 30
  | .error => 40

end Level

/-- Something that is recorded. -/
inductive Event where
  /-- A search index is in place. -/
  | indexReady (url name : String)
  /-- Themes are asked for. -/
  | queryingThemes (query : ThemeQuery)
  /-- A document was refused as a theme. -/
  | themeRefused (identifier : Text) (faults : List Fault)
  /-- A page ends before what was asked for, because of the result window. -/
  | pageCut (size remaining window : Int)
  /-- The index may know more terms than it gave. -/
  | termsTruncated (documentType field : String) (limit : Nat)
  /-- The terms of a field are there. -/
  | termsFound (count : Nat) (documentType field : String)
  /-- A user directory is in place. -/
  | directoryReady (count : Nat)
  /-- The themes provider is in place. -/
  | themesActivated
  /-- The themes could not be had. -/
  | themesUnavailable (fault : IndexFault)
  /-- The contributors provider is in place. -/
  | contributorsActivated
  /-- The excluded user providers have changed. -/
  | exclusionChanged (excluded : Exclusion)
  /-- The plain list of names is there. -/
  | namesListed (shown total : Nat)
  /-- A listing gets another provider. -/
  | replacing (listName : String)
  /-- A provider is registered for its listings. -/
  | registered (kind : String) (listNames : List String)
deriving DecidableEq

namespace Event

/-- The level of an event. -/
def level : Event → Level
  | .queryingThemes _ | .termsFound .. | .exclusionChanged _ | .namesListed .. => .debug
  | .indexReady .. | .directoryReady _ | .themesActivated | .contributorsActivated
  | .registered .. => .info
  | .themeRefused .. | .pageCut .. | .termsTruncated .. | .replacing _ => .warning
  | .themesUnavailable _ => .error

/-- The logger that records an event. -/
def logger : Event → String
  | .indexReady .. | .queryingThemes _ | .themeRefused .. | .pageCut .. | .termsTruncated ..
  | .termsFound .. => "listproviders.client.search_index"
  | .directoryReady _ => "listproviders.client.user_directory"
  | .themesActivated | .themesUnavailable _ => "listproviders.providers.themes"
  | .contributorsActivated | .exclusionChanged _ | .namesListed .. =>
    "listproviders.providers.contributors"
  | .replacing _ | .registered .. => "listproviders.service"

/-- The message of an event. After the message that a theme was refused, the words of the checks
follow after a colon; they are left out, and the faults are kept apart (`Event.faults`). Counts are
never too long to be written. -/
def message? : Event → Option Text
  | .indexReady url name => some (.ofString s!"ElasticsearchIndex initialized for {url}/{name}")
  | .queryingThemes query => query.text?.map fun query => .ofString s!"Querying themes: {query}"
  | .themeRefused identifier _ => some ("Failed to normalize theme " ++ identifier)
  | .pageCut size remaining window => do
    let size ← Numeral.write? size
    let remaining ← Numeral.write? remaining
    let window ← Numeral.write? window
    return .ofString
      s!"Theme page cut to {size} of {remaining} remaining themes (max result window {window})"
  | .termsTruncated documentType field limit =>
    some (.ofString s!"Terms for {documentType}.{field} truncated at {limit}")
  | .termsFound count documentType field =>
    some (.ofString s!"Found {count} terms for {documentType}.{field}")
  | .directoryReady count =>
    some (.ofString s!"InMemoryUserDirectory initialized with {count} users")
  | .themesActivated => some "Themes list provider activated"
  | .themesUnavailable fault =>
    some ("The search index was not able to get the themes: " ++ fault.message)
  | .contributorsActivated => some "Contributors list provider activated"
  | .exclusionChanged excluded => some ("Excluded user providers: " ++ excluded.text)
  | .namesListed shown total => some (.ofString s!"Contributor names: {shown} of {total}")
  | .replacing listName => some (.ofString s!"Replacing provider for list name {listName}")
  | .registered kind listNames =>
    let shown := ", ".intercalate (listNames.map fun name => (Text.ofString name).quote)
    some (.ofString s!"Registered {kind} for [{shown}]")

/-- The refused values that an event is about. -/
def faults : Event → List Fault
  | .themeRefused _ faults => faults
  | _ => []

end Event

end Picklists

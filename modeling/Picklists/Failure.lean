import Picklists.Json.Reader
import Picklists.Listing
import Picklists.Settings

/-!
# Failures

Why an operation gives no result, and what is said about it.

* `IndexFault` : the search index did not give a usable answer.
* `Failure` : every cause there is.
* `Failure.message?` : the message; refused data has its list of faults instead. What a message
  tells of a document stands in it unchanged, so messages are texts like those of the documents.
-/

namespace Picklists

/-- A failure that comes from outside and is passed on as it is. -/
structure Foreign where
  /-- The kind of failure. -/
  kind : String
  /-- What was said about it. -/
  message : String
deriving DecidableEq

/-- Why the search index gave no usable answer. -/
inductive IndexFault where
  /-- The exchange failed, or the answer has a status that stands for failure. -/
  | unanswered (documentType message : String)
  /-- The answer is not JSON. -/
  | notJson (documentType : String)
  /-- The answer could not be taken apart. -/
  | unreadableBody (documentType message : String)
  /-- The answer is not an object. -/
  | notObject (documentType : String)
  /-- The answer to a theme query has a wrong shape. -/
  | malformedPage
  /-- The answer to a theme query holds refused values. -/
  | refusedPage (faults : List Fault)
  /-- A document is not a theme. -/
  | unreadableTheme (document : Text)
  /-- The answer to a query for terms has a wrong shape. -/
  | malformedTerms (documentType : String)
deriving DecidableEq

namespace IndexFault

/-- What is said about an unusable answer. Where the words of whoever found the fault follow after a
colon, they are left out: those of the reader of JSON about a text, those about a wrong shape, and
those of the checks, whose faults are kept apart (`IndexFault.faults`). -/
def message : IndexFault → Text
  | .unanswered documentType message =>
    .ofString s!"Search on {documentType} index failed: {message}"
  | .notJson documentType => .ofString s!"Search on {documentType} index failed"
  | .unreadableBody documentType message =>
    .ofString s!"Malformed response from {documentType} index: {message}"
  | .notObject documentType => .ofString s!"Unexpected response from {documentType} index"
  | .malformedPage => "Malformed response from theme index"
  | .refusedPage _ => "Malformed response from theme index"
  | .unreadableTheme document => "Unreadable theme document: " ++ document
  | .malformedTerms documentType =>
    .ofString s!"Malformed terms response from {documentType} index"

/-- The refused values behind an unusable answer. -/
def faults : IndexFault → List Fault
  | .refusedPage faults => faults
  | _ => []

end IndexFault

/-- What is said about a refused window. -/
def WindowFault.message : WindowFault → String
  | .start =>
    "Indices for islice() must be None or an integer: 0 <= x <= sys.maxsize."
  | .stop =>
    "Stop argument for islice() must be None or an integer: 0 <= x <= sys.maxsize."

/-- The name of a kind of container. -/
def Container.name : Container → String
  | .array => "array"
  | .object => "object"

/-- Why an operation gives no result. -/
inductive Failure where
  /-- The search index gave no usable answer. -/
  | index (fault : IndexFault)
  /-- A listing is not to be had because the search index gave no usable answer. -/
  | unavailable (listName : String)
  /-- No provider offers the listing. -/
  | unknownList (listName : String)
  /-- The window is refused. -/
  | window (fault : WindowFault)
  /-- The data is refused. -/
  | refused (faults : List Fault)
  /-- An environment variable gives no setting. -/
  | setting (fault : SettingFault)
  /-- The name of a log level stands for a text. -/
  | levelText (text : String)
  /-- The name of a log level stands for something that is neither a number nor a text. -/
  | levelOther
  /-- An integer in a JSON text has too many digits. -/
  | longInteger (digits : Nat)
  /-- The containers of a JSON text are nested too deep; the first one that is refused is of this
  kind. -/
  | tooDeep (container : Container)
  /-- The text is not JSON. -/
  | notJson
  /-- An integer is too long to be written. -/
  | unwritable
  /-- The value is not a sequence. -/
  | notSequence
  /-- The provider or the directory has no such operation. -/
  | noOperation
  /-- A failure from outside. -/
  | foreign (failure : Foreign)
deriving DecidableEq

namespace Failure

/-- What is said about a failure, if it has a message. -/
def message? : Failure → Option Text
  | .index fault => some fault.message
  | .unavailable listName =>
    some (.ofString s!"No themes list for list name {listName} found!")
  | .unknownList listName =>
    some (.ofString s!"No resource list provider for list name {listName} found")
  | .window fault => some fault.message
  | .setting fault => some fault.message
  | .levelText text => some (.ofString s!"Unknown level: {Text.quote text}")
  | .longInteger digits => some (Numeral.tooLongMessage digits)
  | .unwritable => some Numeral.unwritableMessage
  | .tooDeep container =>
    some (.ofString ("maximum recursion depth exceeded while decoding a JSON " ++ container.name ++
      " from a unicode string"))
  | .foreign failure => some failure.message
  | .refused _ | .levelOther | .notJson | .notSequence | .noOperation => none

/-- The refused values behind a failure. -/
def faults : Failure → List Fault
  | .refused faults => faults
  | .index fault => fault.faults
  | _ => []

end Failure

end Picklists

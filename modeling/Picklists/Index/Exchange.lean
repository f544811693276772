import Picklists.Failure
import Picklists.Index.ThemeQuery

/-!
# Requests and answers

What is sent to the search index, and what may come back. The other side is a parameter: a
`Transport` turns a request and the state of the connection into an outcome of the exchange and the
next state, and nothing is assumed about it.

* `SearchBody` and `Post` : a request.
* `Exchange` : an outcome: the exchange broke down, or there is a reply with a status and a body.
* `Exchange.fields` : the fields of the object in the reply, or why there are none.
-/

namespace Picklists

/-- A time to wait, as it was configured. -/
inductive Timeout where
  /-- A whole number of seconds. -/
  | whole (seconds : Int)
  /-- Any number of seconds. -/
  | real (seconds : Binary64)
  /-- As long as it takes. -/
  | unlimited
deriving DecidableEq

/-- The type of theme documents. -/
def themeType : String := "theme"

/-- The largest number of terms that one request asks for. -/
def maxTerms : Nat := 10000

/-- What a request asks for. -/
inductive SearchBody where
  /-- The themes of an organization, `size` of them after the first `start`. -/
  | themes (start size : Int) (organization : Text) (sort : Option SortOrder)
  /-- The terms of a field. -/
  | terms (field : String)
deriving DecidableEq

namespace SearchBody

/-- The object that a request sends. -/
def toJson : SearchBody → Json
  | .themes start size organization sort =>
    let filter := Json.ofFields [("term", .ofFields [("organization", .text organization)])]
    let order := match sort with
      | some order =>
        [("sort", Json.array
          [.ofFields [("name.sort", .ofFields [("order", .text order.word)])]])]
      | none => []
    .ofFields ([("from", .int start), ("size", .int size),
      ("query", .ofFields [("bool", .ofFields [("filter", .array [filter])])])] ++ order)
  | .terms field =>
    .ofFields [("size", .int 0),
      ("aggs", .ofFields [(field, .ofFields
        [("terms", .ofFields [("field", .text field), ("size", .int maxTerms)])])])]

end SearchBody

/-- A request to the search index. -/
structure Post where
  /-- The address. -/
  url : String
  /-- How long to wait for a reply. -/
  timeout : Timeout
  /-- What is asked for. -/
  body : SearchBody
deriving DecidableEq

/-- How an exchange or the reading of a reply may break down. -/
inductive Breakdown where
  /-- The request could not be carried out. -/
  | request (message : String)
  /-- A value could not be used. -/
  | value (message : String)
  /-- Anything else. -/
  | foreign (failure : Foreign)
deriving DecidableEq

/-- The body of a reply. -/
inductive Body where
  /-- A text that has to be read. -/
  | text (content : String)
  /-- A document that is read already. -/
  | document (content : Json)
  /-- The reading of the body breaks down. -/
  | broken (cause : Breakdown)

/-- A reply. -/
structure Reply where
  /-- The status code. -/
  status : Int
  /-- The words that explain the status. -/
  reason : Option String
  /-- The body. -/
  body : Body

/-- The outcome of an exchange. -/
inductive Exchange where
  /-- There is no reply. -/
  | brokenDown (cause : Breakdown)
  /-- There is a reply. -/
  | answered (reply : Reply)

/-- The other side of a connection with states `σ`. -/
abbrev Transport (σ : Type) := Post → σ → Exchange × σ

/-- The failure that a breakdown amounts to. -/
def Breakdown.failure (documentType : String) : Breakdown → Failure
  | .request message => .index (.unanswered documentType message)
  | .value message => .index (.unreadableBody documentType message)
  | .foreign failure => .foreign failure

namespace Reply

/-- What is said about a status that stands for failure: those from 400 to 499 are blamed on the
request, those from 500 to 599 on the server. -/
def refusal? (reply : Reply) (url : String) : Option String :=
  let reason := reply.reason.getD "None"
  let blamed (side : String) : String :=
    s!"{reply.status} {side} Error: {reason} for url: {url}"
  if 400 ≤ reply.status ∧ reply.status < 500 then some (blamed "Client")
  else if 500 ≤ reply.status ∧ reply.status < 600 then some (blamed "Server")
  else none

/-- The document in the body of a reply. -/
def document (reply : Reply) (documentType : String) : Except Failure Json :=
  match reply.body with
  | .document content => .ok content
  | .broken cause => .error (cause.failure documentType)
  | .text content =>
    match Json.read content with
    | .ok document => .ok document
    | .error .malformed => .error (.index (.notJson documentType))
    | .error (.longInteger digits) =>
      .error (.index (.unreadableBody documentType (Numeral.tooLongMessage digits)))
    | .error (.tooDeep container) => .error (.tooDeep container)

end Reply

/-- The fields of the object in the reply. The status is looked at before the body. -/
def Exchange.fields (documentType url : String) : Exchange → Except Failure Fields
  | .brokenDown cause => .error (cause.failure documentType)
  | .answered reply =>
    match reply.refusal? url with
    | some message => .error (.index (.unanswered documentType message))
    | none =>
      match reply.document documentType with
      | .error failure => .error failure
      | .ok (.object given) => .ok given
      | .ok _ => .error (.index (.notObject documentType))

end Picklists

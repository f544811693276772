import Picklists.Account
import Picklists.Failure
import Picklists.Pattern

/-!
# The user directory

A directory of accounts, in the order in which they were added. A search gives the accounts whose
login name or display name matches a pattern.

* `Directory.find` : the search, with a page of the matches (`page`).
* `Directory.readAccounts` : the accounts that a JSON text lists.
-/

namespace Picklists

/-- A user directory. -/
inductive Directory where
  /-- A directory that holds these accounts. -/
  | holding (accounts : List Account)
  /-- A directory that cannot be reached. -/
  | unreachable (outage : Foreign)

/-- Whether the login name or the display name of an account matches a pattern. An empty display
name matches nothing. -/
def Account.matchesPattern (account : Account) (pattern : Text) : Bool :=
  Pattern.accepts pattern account.username ||
    account.name.any fun name => !name.isEmpty && Pattern.accepts pattern name

/-- A bound of a part of a list as a position in it: a negative bound counts from the end, and a
bound outside the list stands for its nearer end. -/
def position (length : Nat) (bound : Int) : Nat :=
  if bound < 0 then (length + bound).toNat else min bound.toNat length

/-- A page of a list: the members from `offset` on, up to `limit` of them; all of them unless the
limit is positive. A negative offset counts from the end, and then so does the end of the page. -/
def page {α : Type} (offset limit : Int) (members : List α) : List α :=
  let start := position members.length offset
  let stop := if 0 < limit then position members.length (offset + limit) else members.length
  (members.drop start).take (stop - start)

namespace Directory

/-- A page of the accounts that match a pattern. -/
def find (directory : Directory) (pattern : Text) (offset limit : Int) :
    Except Failure (List Account) :=
  match directory with
  | .holding accounts => .ok (page offset limit (accounts.filter (·.matchesPattern pattern)))
  | .unreachable outage => .error (.foreign outage)

/-- Adds an account at the end. Nothing can be added to a directory that is not reached. -/
def add? (directory : Directory) (account : Account) : Option Directory :=
  match directory with
  | .holding accounts => some (.holding (accounts ++ [account]))
  | .unreachable _ => none

/-- The accounts that values describe, up to the first one that describes none. -/
def decodeAccounts : List Json → Except Failure (List Account)
  | [] => .ok []
  | item :: items =>
    match Account.decode item with
    | .invalid faults => .error (.refused faults)
    | .valid account => (account :: ·) <$> decodeAccounts items

/-- The accounts that a document lists. An object counts as the sequence of its names, a text as
the sequence of its characters. -/
def decodeDocument : Json → Except Failure (List Account)
  | .array items => decodeAccounts items
  | .object given => decodeAccounts (given.map fun (name, _) => .text name)
  | .text content => decodeAccounts (content.points.map fun point => .text ⟨[point]⟩)
  | _ => .error .notSequence

/-- The accounts that a JSON text lists. -/
def readAccounts (text : String) : Except Failure (List Account) :=
  match Json.read text with
  | .ok document => decodeDocument document
  | .error .malformed => .error .notJson
  | .error (.longInteger digits) => .error (.longInteger digits)
  | .error (.tooDeep container) => .error (.tooDeep container)

end Directory

end Picklists

import Picklists.Failure

/-!
# Documents of the wrong shape

What goes wrong where a document whose shape nobody promises is gone through, and what becomes of
it.

* `Misfit` : what goes wrong, each of a kind (`MisfitKind`).
* `Misfit.failure` : who goes through a document takes over misfits of some kinds, as an unusable
  answer. Those of other kinds come out as they are (`Misfit.raw`).
-/

namespace Picklists

/-- The kinds of what goes wrong with a value. -/
inductive MisfitKind where
  /-- It is of the wrong type. -/
  | type
  /-- It does not have what it is asked for. -/
  | attribute
  /-- It lacks a key. -/
  | key
  /-- It is of the right type but cannot be used. -/
  | value
deriving DecidableEq

/-- What goes wrong where a document is gone through. -/
inductive Misfit where
  /-- A value that is not an object is asked for a field. -/
  | noFields
  /-- A value that nothing can go through is gone through. -/
  | noItems
  /-- Values are refused. -/
  | refused (faults : List Fault)
  /-- An integer is too long to be written. -/
  | unwritable
deriving DecidableEq

namespace Misfit

/-- The kind of a misfit. -/
def kind : Misfit → MisfitKind
  | .noFields => .attribute
  | .noItems => .type
  | .refused _ | .unwritable => .value

/-- A misfit that nobody takes over. -/
def raw : Misfit → Failure
  | .noFields => .noOperation
  | .noItems => .notSequence
  | .refused faults => .refused faults
  | .unwritable => .unwritable

/-- The failure that a misfit amounts to where those of some kinds make an unusable answer. -/
def failure (taken : List MisfitKind) (fault : IndexFault) (misfit : Misfit) : Failure :=
  if taken.contains misfit.kind then .index fault else misfit.raw

end Misfit

end Picklists

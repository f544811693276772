import Picklists.Log
import Picklists.Order

/-!
# The registry

Which provider answers for which list name. Providers are known by handles; a provider may stand
under several names, and a later registration takes a name over.

* `Registry.add` : registers a provider under its list names, with the events of doing so.
* `Registry.remove` : gives up the names that still belong to a provider.
* `Registry.route?` : the provider of a name.
* `Registry.listNames` : all names in ascending order.
-/

namespace Picklists

/-- The handle of a provider. -/
abbrev Handle := Nat

/-- The providers of the list names. -/
structure Registry where
  /-- The list names with the handles of their providers. -/
  routes : List (String × Handle)
deriving DecidableEq

namespace Registry

/-- The registry without names. -/
def empty : Registry := ⟨[]⟩

/-- The provider of a list name. -/
def route? (registry : Registry) (listName : String) : Option Handle :=
  (registry.routes.find? (·.1 == listName)).map (·.2)

/-- Whether a list name has a provider. -/
def has (registry : Registry) (listName : String) : Bool := (registry.route? listName).isSome

/-- All list names in ascending order. -/
def listNames (registry : Registry) : List String := ascending (registry.routes.map (·.1))

/-- Gives a list name to a provider. -/
def put (registry : Registry) (listName : String) (handle : Handle) : Registry :=
  ⟨(listName, handle) :: registry.routes.filter (·.1 != listName)⟩

/-- Gives up a list name if it belongs to a provider. -/
def drop (registry : Registry) (handle : Handle) (listName : String) : Registry :=
  if registry.route? listName = some handle then
    ⟨registry.routes.filter (·.1 != listName)⟩
  else registry

/-- Gives list names to a provider, one after the other, and says which of them were taken. -/
def putAll (handle : Handle) (registry : Registry) : List String → Registry × List Event
  | [] => (registry, [])
  | listName :: listNames =>
    let (final, events) := putAll handle (registry.put listName handle) listNames
    (final, if registry.has listName then .replacing listName :: events else events)

/-- Registers a provider of some kind under its list names. -/
def add (registry : Registry) (handle : Handle) (kind : String) (listNames : List String) :
    Registry × List Event :=
  let (final, events) := putAll handle registry listNames
  (final, events ++ [.registered kind listNames])

/-- Removes a provider from those of its list names that still belong to it. -/
def remove (registry : Registry) (handle : Handle) (listNames : List String) : Registry :=
  listNames.foldl (drop · handle) registry

end Registry

end Picklists

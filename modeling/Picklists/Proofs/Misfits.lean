import Picklists.Proofs.Action
import Picklists.Provider

/-!
# Who takes over which misfits

A document of the wrong shape makes an unusable answer if the misfit is of a kind that is taken
over.

* `PageFault.failure_eq` : whatever is wrong with a page makes the answer unusable.
* `PageFault.exists_of_mem_events` : all that is recorded about it is that a theme was refused.
-/

namespace Picklists

/-- Nothing can go through a value: null, a truth value or a number. -/
def Json.Scalar : Json → Prop
  | .null | .bool _ | .int _ | .real _ => True
  | .text _ | .array _ | .object _ => False

namespace PageFault

/-- The unusable answer that a fault of a page amounts to. -/
def indexFault : PageFault → IndexFault
  | .misfit (.refused faults) _ => .refusedPage faults
  | .misfit _ _ => .malformedPage
  | .unreadable document _ => .unreadableTheme document

/-- Misfits of all kinds are taken over, so whatever is wrong with a page makes the answer
unusable. -/
theorem failure_eq (fault : PageFault) : fault.failure = .index fault.indexFault := by
  cases fault with
  | misfit cause refusal => cases cause <;> rfl
  | unreadable document refusal => rfl

/-- What is recorded about a fault is that a theme was refused. -/
theorem exists_of_mem_events {fault : PageFault} {event : Event} (h : event ∈ fault.events) :
    ∃ identifier faults, event = .themeRefused identifier faults := by
  unfold events at h
  split at h
  · exact ⟨_, _, List.mem_singleton.1 h⟩
  · exact ⟨_, _, List.mem_singleton.1 h⟩
  · cases h

theorem writable_of_mem_events (fault : PageFault) : ∀ event ∈ fault.events, event.Writable := by
  intro event h
  obtain ⟨identifier, faults, rfl⟩ := exists_of_mem_events h
  rfl

theorem level_of_mem_events {fault : PageFault} {event : Event} (h : event ∈ fault.events) :
    event.level = .warning := by
  obtain ⟨identifier, faults, rfl⟩ := exists_of_mem_events h
  rfl

end PageFault

end Picklists

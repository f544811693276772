import Picklists.Index.Exchange
import Picklists.Log

/-!
# Actions

Work that may talk to the search index, record events, and fail. An action is a function of the
state of the connection; what it did is part of its result, whether it fails or not.

* `Run` : what an action leaves: the outcome, the requests and the events in order, and the state
  of the connection.
* `Action` : the work; actions are composed one after the other, and a failure ends the work.
* `Action.log`, `Action.send`, `Action.fail` : the single steps. To record an event, its message has
  to be written, which may fail.
-/

namespace Picklists

/-- What an action leaves behind. -/
structure Run (σ α : Type) where
  /-- The result, or why there is none. -/
  outcome : Except Failure α
  /-- The requests, in order. -/
  posts : List Post
  /-- The events, in order. -/
  events : List Event
  /-- The state of the connection afterwards. -/
  link : σ

/-- Work with effects on a connection with states `σ`. -/
def Action (σ α : Type) : Type := σ → Run σ α

namespace Action

variable {σ α β : Type}

/-- Does nothing and has a result. -/
def pure (a : α) : Action σ α := fun link => ⟨.ok a, [], [], link⟩

/-- Does one thing and then another one that depends on the result of the first. -/
def bind (first : Action σ α) (next : α → Action σ β) : Action σ β := fun link =>
  let run := first link
  match run.outcome with
  | .error failure => ⟨.error failure, run.posts, run.events, run.link⟩
  | .ok a =>
    let rest := next a run.link
    ⟨rest.outcome, run.posts ++ rest.posts, run.events ++ rest.events, rest.link⟩

instance : Monad (Action σ) where
  pure := pure
  bind := bind

/-- Fails. -/
def fail (failure : Failure) : Action σ α := fun link => ⟨.error failure, [], [], link⟩

/-- Has the result of a computation without effects. -/
def ofExcept (outcome : Except Failure α) : Action σ α := fun link => ⟨outcome, [], [], link⟩

/-- Has what was written as the result, or fails because it could not be written. -/
def written (text : Option α) : Action σ α :=
  match text with
  | some a => pure a
  | none => fail .unwritable

/-- Records an event, or fails because its message cannot be written. -/
def log (event : Event) : Action σ Unit :=
  match event.message? with
  | some _ => fun link => ⟨.ok (), [], [event], link⟩
  | none => fail .unwritable

/-- Records events in order. -/
def logAll : List Event → Action σ Unit
  | [] => pure ()
  | event :: events => bind (log event) fun _ => logAll events

/-- Sends a request. -/
def send (transport : Transport σ) (post : Post) : Action σ Exchange := fun link =>
  let (exchange, link) := transport post link
  ⟨.ok exchange, [post], [], link⟩

/-- Goes on after an unusable answer of the search index; other failures stand. -/
def onIndexFault (work : Action σ α) (next : IndexFault → Action σ α) : Action σ α := fun link =>
  let run := work link
  match run.outcome with
  | .error (.index fault) =>
    let rest := next fault run.link
    ⟨rest.outcome, run.posts ++ rest.posts, run.events ++ rest.events, rest.link⟩
  | _ => run

/-- Does some work for every member of a list, in order, and collects the results. -/
def forEach (work : α → Action σ β) : List α → Action σ (List β)
  | [] => pure []
  | a :: as => bind (work a) fun b => bind (forEach work as) fun bs => pure (b :: bs)

end Action

end Picklists

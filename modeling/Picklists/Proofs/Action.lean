import Picklists.Action

/-!
# Running actions

How composed work runs.  Every statement says what a piece of work does on a connection in a given
state; later proofs rewrite with these and never open `Action.bind`.

* `Event.Writable` : an event whose message can be written.  It is recorded (`Action.run_log`), and
  any other one ends the work (`Action.run_log_of_not_writable`).
* `Action.bind_of_ok`, `Action.bind_of_error` : a step that has a result is followed by the rest, a
  failure ends the work.
* `Action.outcome_forEach` : work for every member of a list, if each piece of it has a known
  result; `Action.forEach_cons_of_ok`, `Action.forEach_cons_of_error` : the first member decides
  whether the others get their turn.
* `Action.onIndexFault_of_ok`, `Action.onIndexFault_of_index`, `Action.onIndexFault_of_error` : only
  an unusable answer of the index is taken over.
* `Run.errors`, `Run.warnings` : the events that are recorded as errors and as warnings.
* `Action.FailsOnly` : all failures of some work are of one kind; composed work inherits this
  (`Action.FailsOnly.bind`, `Action.FailsOnly.forEach`).
-/

namespace Picklists

variable {σ α β : Type}

namespace Run

/-- A run and what came after it: the outcome of the latter counts. -/
def followedBy (run : Run σ α) (rest : Run σ β) : Run σ β :=
  ⟨rest.outcome, run.posts ++ rest.posts, run.events ++ rest.events, rest.link⟩

/-- The events that are recorded as errors. -/
def errors (run : Run σ α) : List Event := run.events.filter fun event => event.level = .error

/-- The events that are recorded as warnings. -/
def warnings (run : Run σ α) : List Event :=
  run.events.filter fun event => event.level = .warning

end Run

/-- The message of an event can be written. -/
def Event.Writable (event : Event) : Prop := event.message?.isSome

instance : DecidablePred Event.Writable := fun event =>
  inferInstanceAs (Decidable (event.message?.isSome = true))

namespace Action

/-! ### Single steps -/

@[simp] theorem run_pure (a : α) (link : σ) :
    (Pure.pure a : Action σ α) link = ⟨.ok a, [], [], link⟩ := rfl

@[simp] theorem run_fail (failure : Failure) (link : σ) :
    (fail failure : Action σ α) link = ⟨.error failure, [], [], link⟩ := rfl

@[simp] theorem run_written_some (a : α) (link : σ) :
    written (some a) link = ⟨.ok a, [], [], link⟩ := rfl

@[simp] theorem run_written_none (link : σ) :
    (written none : Action σ α) link = ⟨.error .unwritable, [], [], link⟩ := rfl

theorem run_log {event : Event} (h : event.Writable) (link : σ) :
    log event link = ⟨.ok (), [], [event], link⟩ := by
  obtain ⟨message, hmessage⟩ := Option.isSome_iff_exists.1 h
  simp only [log, hmessage]

theorem run_log_of_not_writable {event : Event} (h : ¬ event.Writable) (link : σ) :
    log event link = ⟨.error .unwritable, [], [], link⟩ := by
  simp only [log, Option.not_isSome_iff_eq_none.1 h, run_fail]

/-! ### One thing after the other -/

section

variable {first : Action σ α} {next : α → Action σ β} {link : σ}

theorem bind_of_ok {a : α} (h : (first link).outcome = .ok a) :
    (first >>= next) link = (first link).followedBy (next a (first link).link) := by
  change bind first next link = _
  simp only [bind, h, Run.followedBy]

theorem bind_of_error {failure : Failure} (h : (first link).outcome = .error failure) :
    (first >>= next) link =
      ⟨.error failure, (first link).posts, (first link).events, (first link).link⟩ := by
  change bind first next link = _
  simp only [bind, h]

/-- A result that is only rendered differently leaves everything else as it is. -/
theorem bind_pure (first : Action σ α) (f : α → β) (link : σ) :
    (first >>= fun a => Pure.pure (f a)) link =
      ⟨(first link).outcome.map f, (first link).posts, (first link).events, (first link).link⟩ := by
  cases h : (first link).outcome with
  | ok a => simp [bind_of_ok h, Run.followedBy, Except.map]
  | error failure => simp [bind_of_error h, Except.map]

end

theorem logAll_cons (event : Event) (events : List Event) :
    logAll (event :: events) = (log event >>= fun _ => logAll events : Action σ Unit) := rfl

/-- Events whose messages can be written are recorded. -/
theorem run_logAll {events : List Event} (h : ∀ event ∈ events, event.Writable) (link : σ) :
    logAll events link = ⟨.ok (), [], events, link⟩ := by
  induction events with
  | nil => rfl
  | cons event events ih =>
    obtain ⟨hfirst, hrest⟩ := List.forall_mem_cons.1 h
    have hlog := run_log hfirst link
    rw [logAll_cons, bind_of_ok (congrArg Run.outcome hlog), hlog, ih hrest]
    rfl

/-- Work that always has the same result for a member of a list has the list of these results. -/
theorem outcome_forEach {work : α → Action σ β} {result : α → β} {as : List α}
    (h : ∀ a ∈ as, ∀ link, (work a link).outcome = .ok (result a)) (link : σ) :
    (forEach work as link).outcome = .ok (as.map result) := by
  induction as generalizing link with
  | nil => rfl
  | cons a as ih =>
    have hstep : forEach work (a :: as) =
        work a >>= fun b => forEach work as >>= fun bs => Pure.pure (b :: bs) := rfl
    have hrest := fun link => ih (fun b hb => h b (List.mem_cons_of_mem a hb)) link
    rw [hstep, bind_of_ok (h a List.mem_cons_self link), bind_of_ok (hrest _)]
    rfl

section

variable {work : α → Action σ β} {a : α} {as : List α} {link : σ}

/-- Work that has a result for one member goes on with the next ones. -/
theorem forEach_cons_of_ok {b : β} (h : (work a link).outcome = .ok b) :
    let rest := forEach work as (work a link).link
    forEach work (a :: as) link =
      (work a link).followedBy ⟨rest.outcome.map (b :: ·), rest.posts, rest.events, rest.link⟩ := by
  intro rest
  have hstep : forEach work (a :: as) =
      work a >>= fun b => forEach work as >>= fun bs => Pure.pure (b :: bs) := rfl
  rw [hstep, bind_of_ok h, bind_pure]

/-- Work that fails for one member ends there. -/
theorem forEach_cons_of_error {failure : Failure} (h : (work a link).outcome = .error failure) :
    forEach work (a :: as) link =
      ⟨.error failure, (work a link).posts, (work a link).events, (work a link).link⟩ :=
  bind_of_error h

end

/-! ### Unusable answers of the index -/

section

variable {work : Action σ α} {next : IndexFault → Action σ α} {link : σ}

theorem onIndexFault_of_ok {a : α} (h : (work link).outcome = .ok a) :
    onIndexFault work next link = work link := by
  simp only [onIndexFault, h]

theorem onIndexFault_of_index {fault : IndexFault}
    (h : (work link).outcome = .error (.index fault)) :
    onIndexFault work next link = (work link).followedBy (next fault (work link).link) := by
  simp only [onIndexFault, h, Run.followedBy]

theorem onIndexFault_of_error {failure : Failure} (h : (work link).outcome = .error failure)
    (hother : ∀ fault, failure ≠ .index fault) : onIndexFault work next link = work link := by
  cases failure with
  | index fault => exact absurd rfl (hother fault)
  | _ => simp only [onIndexFault, h]

end

/-! ### Kinds of failures -/

/-- All failures of some work are of one kind. -/
def FailsOnly (kind : Failure → Prop) (work : Action σ α) : Prop :=
  ∀ link failure, (work link).outcome = .error failure → kind failure

namespace FailsOnly

variable {kind : Failure → Prop}

theorem pure (a : α) : FailsOnly kind (Pure.pure a : Action σ α) := by
  intro link failure h
  cases h

theorem fail {failure : Failure} (h : kind failure) :
    FailsOnly kind (Action.fail failure : Action σ α) := by
  rintro link _ ⟨⟩
  exact h

theorem written (h : kind .unwritable) (text : Option α) :
    FailsOnly kind (Action.written text : Action σ α) := by
  cases text with
  | some a => exact pure a
  | none => exact fail h

theorem log (h : kind .unwritable) (event : Event) :
    FailsOnly kind (Action.log event : Action σ Unit) := by
  by_cases hwritable : event.Writable
  · intro link failure hfails
    rw [run_log hwritable] at hfails
    cases hfails
  · intro link failure hfails
    rw [run_log_of_not_writable hwritable] at hfails
    cases hfails
    exact h

theorem send (transport : Transport σ) (post : Post) :
    FailsOnly kind (Action.send transport post) := by
  intro link failure h
  cases h

theorem ofExcept {outcome : Except Failure α}
    (h : ∀ failure, outcome = .error failure → kind failure) :
    FailsOnly kind (Action.ofExcept outcome : Action σ α) :=
  fun _ => h

theorem bind {first : Action σ α} {next : α → Action σ β} (hfirst : FailsOnly kind first)
    (hnext : ∀ a, FailsOnly kind (next a)) : FailsOnly kind (first >>= next) := by
  intro link failure h
  cases hrun : (first link).outcome with
  | ok a =>
    rw [bind_of_ok hrun] at h
    exact hnext a _ failure h
  | error cause =>
    rw [bind_of_error hrun] at h
    cases h
    exact hfirst link _ hrun

theorem onIndexFault {work : Action σ α} {next : IndexFault → Action σ α}
    (hwork : FailsOnly kind work) (hnext : ∀ fault, FailsOnly kind (next fault)) :
    FailsOnly kind (Action.onIndexFault work next) := by
  intro link failure h
  by_cases hindex : ∃ fault, (work link).outcome = .error (.index fault)
  · obtain ⟨fault, hfault⟩ := hindex
    rw [onIndexFault_of_index hfault] at h
    exact hnext fault _ failure h
  · refine hwork link failure ?_
    cases hrun : (work link).outcome with
    | ok a => rwa [onIndexFault_of_ok hrun, hrun] at h
    | error cause =>
      have hother := fun fault (heq : cause = .index fault) => hindex ⟨fault, heq ▸ hrun⟩
      rwa [onIndexFault_of_error hrun hother, hrun] at h

theorem forEach {work : α → Action σ β} (h : ∀ a, FailsOnly kind (work a)) (as : List α) :
    FailsOnly kind (Action.forEach work as) := by
  induction as with
  | nil => exact pure []
  | cons a as ih => exact bind (h a) fun b => bind ih fun bs => pure (b :: bs)

theorem logAll (h : kind .unwritable) (events : List Event) :
    FailsOnly kind (Action.logAll events : Action σ Unit) := by
  induction events with
  | nil => exact pure ()
  | cons event events ih => exact bind (log h event) fun _ => ih

end FailsOnly

end Action

end Picklists

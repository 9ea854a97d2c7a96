/-
# Awaiting the state changes of a context

A context has one slot for a coroutine that waits until it runs and one for a
coroutine that waits until it is idle. The awaitables that `start` and `stop`
return only name the desired state: whether a `co_await` suspends is decided by
comparing it with the present state, and the suspended coroutine goes into the
slot of its kind, whatever was there.

The callback for state changes updates the state, calls the handler of the
concrete context, and then resumes the coroutine in the slot, for an idle context
after the parent was told. The handler, the parent and the resumed coroutine can
do anything with the context in the meantime, including calls that make the SDK
report the next state change; a stack says which of them are in progress.
-/

import Shoc.Doca.Basic

namespace Shoc.Context

/-- The two kinds of `context_state_awaitable`. -/
inductive Awaited
  | start
  | stop
  deriving DecidableEq, Repr

/-- The `desired_state_` of the awaitables that `start` and `stop` return. -/
def Awaited.desiredState : Awaited → CtxState
  | .start => .running
  | .stop => .idle

/-- What is in progress inside a `state_changed_callback`: the virtual `state_changed`, the
parent's `signal_stopped_child` with the coroutine to resume afterwards, or a resumed
coroutine, with the state that was reported. -/
inductive CallbackFrame
  | stateChanged (next : CtxState)
  | signalStoppedChild (coro : Option Coro)
  | resumed (coro : Coro) (next : CtxState)
  deriving DecidableEq, Repr

/-- A context and the coroutines that await its state changes. `idled` says that the SDK
has reported the context idle again; `awaitable` tells for each kind whether an awaitable
is alive; `waiting` are the coroutines that are suspended on one. -/
structure ContextLife where
  currentState : CtxState := .idle
  started : Bool := false
  idled : Bool := false
  handle : Bool := true
  coroStart : Option Coro := none
  coroStop : Option Coro := none
  awaitable : Awaited → Bool := fun _ => false
  waiting : List (Coro × Awaited) := []
  stack : List CallbackFrame := []

/-- What can happen next: a call of `start` or `stop`, with the result of the SDK call it
makes; the last awaitable of a kind is destroyed; a coroutine awaits one; the SDK reports
a state change; the code on top of the stack returns. -/
inductive ContextEvent
  | start (err : DocaError)
  | stop (err : DocaError)
  | drop (kind : Awaited)
  | coAwait (coro : Coro) (kind : Awaited)
  | stateChange (next : CtxState)
  | ret
  deriving DecidableEq, Repr

namespace ContextLife

variable {s t : ContextLife} {event : ContextEvent}

/-- An awaitable of the given kind comes to life. -/
def hand (kind : Awaited) (s : ContextLife) : ContextLife :=
  { s with awaitable := fun other => if other = kind then true else s.awaitable other }

/-- `context_base::start`, which throws unless the SDK accepts the request. -/
def start (err : DocaError) (s : ContextLife) : ContextLife :=
  if err.Accepted then { s with started := true }.hand .start else s

/-- `context_base::stop`. There is no SDK call once the handle is gone. -/
def stop (err : DocaError) (s : ContextLife) : ContextLife :=
  if s.handle = false ∨ err.Accepted then s.hand .stop else s

/-- `context_state_awaitable::await_ready`. -/
def awaitReady (kind : Awaited) (s : ContextLife) : Bool := s.currentState = kind.desiredState

/-- `context_state_awaitable::await_suspend`. -/
def awaitSuspend (coro : Coro) (kind : Awaited) (s : ContextLife) : ContextLife :=
  let s := { s with waiting := (coro, kind) :: s.waiting }
  -- A handle that is in the slot already is overwritten
  match kind with
  | .start => { s with coroStart := some coro }
  | .stop => { s with coroStop := some coro }

/-- Resume a coroutine, if there is one. -/
def resume (coro : Option Coro) (next : CtxState) (s : ContextLife) : ContextLife :=
  match coro with
  | none => s
  | some coro =>
      { s with
        waiting := s.waiting.filter fun entry => entry.1 ≠ coro
        stack := .resumed coro next :: s.stack }

/-- The `state_changed_callback` after the virtual `state_changed` has returned. -/
def afterStateChanged (next : CtxState) (s : ContextLife) : ContextLife :=
  match next with
  | .running => { s with coroStart := none }.resume s.coroStart .running
  -- The handle is destroyed before the parent is told, and the coroutine is resumed last
  | .idle =>
      { s with
        coroStop := none
        handle := false
        stack := .signalStoppedChild s.coroStop :: s.stack }
  | .starting | .stopping => s

/-- The slot for coroutines that await the given kind. -/
def slot (s : ContextLife) : Awaited → Option Coro
  | .start => s.coroStart
  | .stop => s.coroStop

/-- One step of a context. A context is started once, and is at the end of its life when
the SDK has reported it idle; an awaitable is not destroyed while a coroutine is suspended
on it, and a suspended coroutine does nothing. -/
def step (s : ContextLife) : ContextEvent → Option ContextLife
  | .start err => if s.started then none else some (s.start err)
  | .stop err => if s.started then some (s.stop err) else none
  | .drop kind =>
      if s.awaitable kind ∧ ∀ entry ∈ s.waiting, entry.2 ≠ kind then
        some { s with awaitable := fun other => if other = kind then false else s.awaitable other }
      else none
  | .coAwait coro kind =>
      if s.awaitable kind ∧ ∀ entry ∈ s.waiting, entry.1 ≠ coro then
        if s.awaitReady kind then some s else some (s.awaitSuspend coro kind)
      else none
  -- `current_state_` changes before anybody is told
  | .stateChange next =>
      if s.started ∧ !s.idled ∧ s.currentState.Follows next then
        some { s with
          currentState := next
          idled := next = .idle
          stack := .stateChanged next :: s.stack }
      else none
  | .ret =>
      match s.stack with
      | [] => none
      | .stateChanged next :: callers => some ({ s with stack := callers }.afterStateChanged next)
      | .signalStoppedChild coro :: callers => some ({ s with stack := callers }.resume coro .idle)
      | .resumed _ _ :: callers => some { s with stack := callers }

/-- Everything one step can do. -/
inductive Taken (s : ContextLife) : ContextEvent → ContextLife → Prop
  | refused {event : ContextEvent} : Taken s event s
  | started {err : DocaError} (before : s.started = false) :
      Taken s (.start err) ({ s with started := true }.hand .start)
  | stopping {err : DocaError} (before : s.started = true) : Taken s (.stop err) (s.hand .stop)
  | dropped {kind : Awaited} (unused : ∀ entry ∈ s.waiting, entry.2 ≠ kind) :
      Taken s (.drop kind)
        { s with awaitable := fun other => if other = kind then false else s.awaitable other }
  | suspended {coro : Coro} {kind : Awaited} (alive : s.awaitable kind = true)
      (unready : s.currentState ≠ kind.desiredState) :
      Taken s (.coAwait coro kind) (s.awaitSuspend coro kind)
  | changed {next : CtxState} (before : s.started = true) (alive : s.idled = false) :
      Taken s (.stateChange next)
        { s with
          currentState := next
          idled := next = .idle
          stack := .stateChanged next :: s.stack }
  | handled {next : CtxState} {callers : List CallbackFrame}
      (before : s.stack = .stateChanged next :: callers) :
      Taken s .ret ({ s with stack := callers }.afterStateChanged next)
  | signalled {coro : Option Coro} {callers : List CallbackFrame}
      (before : s.stack = .signalStoppedChild coro :: callers) :
      Taken s .ret ({ s with stack := callers }.resume coro .idle)
  | ran {coro : Coro} {next : CtxState} {callers : List CallbackFrame}
      (before : s.stack = .resumed coro next :: callers) : Taken s .ret { s with stack := callers }

theorem step_taken (taken : step s event = some t) : Taken s event t := by
  cases event with
  | start err =>
    simp only [step, Option.ite_none_left_eq_some, Option.some.injEq] at taken
    obtain ⟨before, rfl⟩ := taken
    unfold start
    split
    · exact .started (by simpa using before)
    · exact .refused
  | stop err =>
    simp only [step, Option.ite_none_right_eq_some, Option.some.injEq] at taken
    obtain ⟨before, rfl⟩ := taken
    unfold stop
    split
    · exact .stopping before
    · exact .refused
  | drop kind =>
    simp only [step, Option.ite_none_right_eq_some, Option.some.injEq] at taken
    obtain ⟨⟨-, unused⟩, rfl⟩ := taken
    exact .dropped unused
  | coAwait coro kind =>
    simp only [step, Option.ite_none_right_eq_some] at taken
    obtain ⟨⟨alive, -⟩, taken⟩ := taken
    split at taken
    · obtain rfl := Option.some.inj taken
      exact .refused
    · rename_i unready
      obtain rfl := Option.some.inj taken
      exact .suspended alive (by simpa [awaitReady] using unready)
  | stateChange next =>
    simp only [step, Option.ite_none_right_eq_some, Option.some.injEq] at taken
    obtain ⟨⟨before, alive, -⟩, rfl⟩ := taken
    exact .changed before (by simpa using alive)
  | ret =>
    simp only [step] at taken
    split at taken
    · contradiction
    · rename_i before
      obtain rfl := Option.some.inj taken
      exact .handled before
    · rename_i before
      obtain rfl := Option.some.inj taken
      exact .signalled before
    · rename_i before
      obtain rfl := Option.some.inj taken
      exact .ran before

/-! Only a reported state change touches the state. -/

@[simp] theorem currentState_resume (coro : Option Coro) (next : CtxState) :
    (s.resume coro next).currentState = s.currentState := by
  cases coro <;> rfl

@[simp] theorem idled_resume (coro : Option Coro) (next : CtxState) :
    (s.resume coro next).idled = s.idled := by
  cases coro <;> rfl

@[simp] theorem currentState_afterStateChanged (next : CtxState) :
    (s.afterStateChanged next).currentState = s.currentState := by
  cases next <;> simp [afterStateChanged]

@[simp] theorem idled_afterStateChanged (next : CtxState) :
    (s.afterStateChanged next).idled = s.idled := by
  cases next <;> simp [afterStateChanged]

@[simp] theorem currentState_awaitSuspend (coro : Coro) (kind : Awaited) :
    (s.awaitSuspend coro kind).currentState = s.currentState := by
  cases kind <;> rfl

@[simp] theorem idled_awaitSuspend (coro : Coro) (kind : Awaited) :
    (s.awaitSuspend coro kind).idled = s.idled := by
  cases kind <;> rfl

/-- A context that was reported idle is idle. -/
theorem idle_step (h : s.idled = true → s.currentState = .idle) (taken : step s event = some t) :
    t.idled = true → t.currentState = .idle := by
  cases step_taken taken with
  | refused | started | stopping | dropped | ran => exact h
  | suspended | handled | signalled => simpa using h
  | changed => exact fun idled => by simpa using idled

theorem idled_of_step (taken : step s event = some t) (idled : t.idled = true) :
    s.idled = true ∨ event = .stateChange .idle := by
  cases step_taken taken with
  | refused | started | stopping | dropped | ran => exact .inl idled
  | suspended | handled | signalled => exact .inl (by simpa using idled)
  | changed =>
    obtain rfl := of_decide_eq_true idled
    exact .inr rfl

/-- There is no life after that. -/
theorem idled_step (idled : s.idled = true) (taken : step s event = some t) : t.idled = true := by
  cases step_taken taken with
  | refused | started | stopping | dropped | ran => exact idled
  | suspended | handled | signalled => simpa using idled
  | changed before alive =>
    rw [idled] at alive
    contradiction

end ContextLife

end Shoc.Context

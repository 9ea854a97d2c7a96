/-
# The event loop of the progress engine

`progress_engine::run` against everything that can happen around it: leases come
and go, contexts are created through a live lease and leave the registry when
they are idle, the descriptor of the engine is signalled, the wait on it is
cancelled.

The loop is a coroutine on a single-threaded executor. Other code runs while it is
suspended, and also inside `doca_pe_progress` and inside the `stop` of a context,
from where callbacks resume coroutines; the points at which that happens are the
points of this machine. A cancellation affects only a wait that has not been
completed yet, and takes effect when the executor gets round to the completed wait.
-/

import Shoc.Data.Registry
import Shoc.Doca.Basic

namespace Shoc.Engine

open Data

/-- `polling_mode`. -/
inductive PollingMode
  | epoll
  | busy
  deriving DecidableEq, Repr

/-- A context connected to the engine. -/
abbrev ContextId := ℕ

/-- The error code a wait on the notification descriptor ends with. -/
inductive WaitResult
  | success
  | operationAborted
  | systemError
  deriving DecidableEq, Repr

/-- Where `run` is when other code has control, or about to call `stop` from `stop_all`. -/
inductive RunPoint
  /-- Not running. -/
  | stopped
  /-- Suspended in `notifier_.async_wait`, which has a result once it is completed. -/
  | waiting (result : Option WaitResult)
  /-- In the loop over `doca_pe_progress` after a wait. -/
  | progressing (result : WaitResult)
  /-- In `stop_all`, at the head of its loop. -/
  | stoppingAll (next : Cursor ContextId)
  /-- In a `stop` called by `stop_all`. -/
  | inStop (next : Cursor ContextId)
  /-- In the loop over `doca_pe_progress` after `stop_all`. -/
  | progressingLast
  /-- In the loop over `doca_pe_progress` of busy polling. -/
  | polling
  /-- Suspended in `yield`. -/
  | yielding
  deriving DecidableEq, Repr

/-- What `run` did that others depend on, with the number of registered fibers at that
moment. -/
inductive LoopAction
  | askedToStop (ctx : ContextId) (registeredFibers : ℕ)
  | returned (registeredFibers : ℕ) (contexts : List ContextId)
  deriving DecidableEq, Repr

/-- The state of the engine. `fault` says that `stop_all` used an invalid iterator. -/
structure EventLoop where
  point : RunPoint := .stopped
  active : Bool := false
  registeredFibers : ℕ := 0
  connectedContexts : Registry ContextId := {}
  log : List LoopAction := []
  fault : Bool := false

/-- What can happen next: `run` is called; a lease is constructed or destroyed, a context is
created through a lease or becomes idle; the descriptor is signalled or reports an error;
the executor resumes `run` after a wait or a yield; `doca_pe_progress` has nothing more to
do; `stop_all` goes on, or a `stop` it called returns. -/
inductive LoopEvent
  | run
  | constructLease
  | destroyLease
  | createContext (ctx : ContextId) (placement : Placement ContextId)
  | contextIdle (ctx : ContextId)
  | signalled
  | systemError
  | resumeWait
  | resumeYield
  | progressed
  | stopNext
  | stopReturned
  deriving DecidableEq, Repr

namespace EventLoop

variable {mode : PollingMode} {s t : EventLoop} {event : LoopEvent}

/-- The condition of the loop of `run`: there are fibers or contexts left. -/
def Busy (s : EventLoop) : Prop := 0 < s.registeredFibers ∨ s.connectedContexts.entries ≠ []

instance (s : EventLoop) : Decidable s.Busy := inferInstanceAs (Decidable (_ ∨ _))

/-- `co_return` from `run`. -/
def finish (s : EventLoop) : EventLoop :=
  { s with
    point := .stopped
    active := false
    log := .returned s.registeredFibers s.connectedContexts.entries :: s.log }

/-- The head of the loop of `run`, up to the first point at which other code has control. -/
def loopHead (mode : PollingMode) (s : EventLoop) : EventLoop :=
  if s.Busy then
    match mode with
    | .busy => { s with point := .polling }
    | .epoll => { s with point := .waiting none }
  else s.finish

/-- `notifier_.cancel()`. -/
def cancel (s : EventLoop) : EventLoop :=
  match s.point with
  -- A wait that has been completed keeps its result
  | .waiting none => { s with point := .waiting (some .operationAborted) }
  | _ => s

/-- `register_fiber`. -/
def registerFiber (s : EventLoop) : EventLoop :=
  { s with registeredFibers := s.registeredFibers + 1 }

/-- `deregister_fiber`. -/
def deregisterFiber (s : EventLoop) : EventLoop :=
  if s.registeredFibers = 0 then s
  else
    let s := { s with registeredFibers := s.registeredFibers - 1 }
    if s.registeredFibers = 0 ∧ s.connectedContexts.entries = [] then s.cancel else s

/-- `signal_stopped_child`. -/
def signalStoppedChild (ctx : ContextId) (s : EventLoop) : EventLoop :=
  { s with connectedContexts := s.connectedContexts.erase ctx }

/-- The rest of a round of `run` after its loop over `doca_pe_progress`. -/
def afterProgress (result : WaitResult) (s : EventLoop) : EventLoop :=
  match result with
  | .success => { s with point := .yielding }
  -- The counters are not looked at again before the contexts are stopped
  | .operationAborted => { s with point := .stoppingAll s.connectedContexts.first }
  | .systemError => s.finish

/-- The head of the loop of `stop_all`, up to the call of `stop`. -/
def stopNext (next : Cursor ContextId) (s : EventLoop) : EventLoop :=
  if s.connectedContexts.Valid next then
    match next.target with
    | none => { s with point := .progressingLast }
    -- The iterator is advanced first, since `stop` may remove its context
    | some ctx =>
        { s with
          point := .inStop (s.connectedContexts.next next)
          log := .askedToStop ctx s.registeredFibers :: s.log }
  else { s with fault := true }

/-- Code other than `run` has control. -/
def interrupted (s : EventLoop) : Bool :=
  match s.point with
  | .stoppingAll _ => false
  | _ => !s.fault

/-- One step of the engine. Only a live lease can be destroyed or create a context. -/
def step (mode : PollingMode) (s : EventLoop) : LoopEvent → Option EventLoop
  | .run => if s.point = .stopped then some ({ s with active := true }.loopHead mode) else none
  | .constructLease => if s.interrupted then some s.registerFiber else none
  | .destroyLease =>
      if s.interrupted ∧ 0 < s.registeredFibers then some s.deregisterFiber else none
  | .createContext ctx placement =>
      if s.interrupted ∧ 0 < s.registeredFibers then
        some { s with connectedContexts := s.connectedContexts.insert ctx placement }
      else none
  | .contextIdle ctx => if s.interrupted then some (s.signalStoppedChild ctx) else none
  | .signalled =>
      if s.point = .waiting none then some { s with point := .waiting (some .success) } else none
  | .systemError =>
      if s.point = .waiting none then some { s with point := .waiting (some .systemError) }
      else none
  -- The executor gets round to the completed wait
  | .resumeWait =>
      match s.point with
      | .waiting (some result) => some { s with point := .progressing result }
      | _ => none
  | .resumeYield => if s.point = .yielding then some (s.loopHead mode) else none
  | .progressed =>
      match s.point with
      | .progressing result => some (s.afterProgress result)
      | .polling => some { s with point := .yielding }
      | .progressingLast => some s.finish
      | _ => none
  | .stopNext =>
      match s.point with
      | .stoppingAll next => if s.fault then none else some (s.stopNext next)
      | _ => none
  | .stopReturned =>
      match s.point with
      | .inStop next => some { s with point := .stoppingAll next }
      | _ => none

/-! ## What one step can do -/

theorem not_busy : ¬ s.Busy ↔ s.registeredFibers = 0 ∧ s.connectedContexts.entries = [] := by
  simp [Busy]

/-- Everything one step can do, by what happens to `run`. -/
inductive Taken (s : EventLoop) : LoopEvent → EventLoop → Prop
  | left {event : LoopEvent} {active : Bool} (done : ¬ s.Busy) :
      Taken s event { s with active }.finish
  | entered {event : LoopEvent} {active : Bool} {point : RunPoint} (needed : s.Busy)
      (now : point = .polling ∨ point = .waiting none) : Taken s event { s with active, point }
  | leased : Taken s .constructLease s.registerFiber
  | unleased (live : 0 < s.registeredFibers) : Taken s .destroyLease s.deregisterFiber
  | created {ctx : ContextId} {placement : Placement ContextId} (live : 0 < s.registeredFibers) :
      Taken s (.createContext ctx placement)
        { s with connectedContexts := s.connectedContexts.insert ctx placement }
  | idled {ctx : ContextId} : Taken s (.contextIdle ctx) (s.signalStoppedChild ctx)
  | signalled (before : s.point = .waiting none) :
      Taken s .signalled { s with point := .waiting (some .success) }
  | failed (before : s.point = .waiting none) :
      Taken s .systemError { s with point := .waiting (some .systemError) }
  | resumed {result : WaitResult} (before : s.point = .waiting (some result)) :
      Taken s .resumeWait { s with point := .progressing result }
  | yielded {event : LoopEvent} : Taken s event { s with point := .yielding }
  | aborted (before : s.point = .progressing .operationAborted) :
      Taken s .progressed { s with point := .stoppingAll s.connectedContexts.first }
  | broke {event : LoopEvent}
      (before : s.point = .progressing .systemError ∨ s.point = .progressingLast) :
      Taken s event s.finish
  | asked {next : Cursor ContextId} (before : s.point = .stoppingAll next) :
      Taken s .stopNext (s.stopNext next)
  | stopReturned {next : Cursor ContextId} (before : s.point = .inStop next) :
      Taken s .stopReturned { s with point := .stoppingAll next }

theorem loopHead_taken (active : Bool) :
    Taken s event ({ s with active }.loopHead mode) := by
  unfold loopHead
  split
  · rename_i needed
    cases mode
    · exact .entered needed (.inr rfl)
    · exact .entered needed (.inl rfl)
  · rename_i done
    exact .left done

theorem step_taken (taken : step mode s event = some t) : Taken s event t := by
  cases event with
  | run =>
    simp only [step, Option.ite_none_right_eq_some, Option.some.injEq] at taken
    obtain ⟨-, rfl⟩ := taken
    exact loopHead_taken true
  | constructLease =>
    simp only [step, Option.ite_none_right_eq_some, Option.some.injEq] at taken
    obtain ⟨-, rfl⟩ := taken
    exact .leased
  | destroyLease =>
    simp only [step, Option.ite_none_right_eq_some, Option.some.injEq] at taken
    obtain ⟨⟨-, live⟩, rfl⟩ := taken
    exact .unleased live
  | createContext ctx placement =>
    simp only [step, Option.ite_none_right_eq_some, Option.some.injEq] at taken
    obtain ⟨⟨-, live⟩, rfl⟩ := taken
    exact .created live
  | contextIdle ctx =>
    simp only [step, Option.ite_none_right_eq_some, Option.some.injEq] at taken
    obtain ⟨-, rfl⟩ := taken
    exact .idled
  | signalled =>
    simp only [step, Option.ite_none_right_eq_some, Option.some.injEq] at taken
    obtain ⟨before, rfl⟩ := taken
    exact .signalled before
  | systemError =>
    simp only [step, Option.ite_none_right_eq_some, Option.some.injEq] at taken
    obtain ⟨before, rfl⟩ := taken
    exact .failed before
  | resumeWait =>
    simp only [step] at taken
    split at taken
    · rename_i result before
      obtain rfl := Option.some.inj taken
      exact .resumed before
    · contradiction
  | resumeYield =>
    simp only [step, Option.ite_none_right_eq_some, Option.some.injEq] at taken
    obtain ⟨-, rfl⟩ := taken
    exact loopHead_taken s.active
  | progressed =>
    simp only [step] at taken
    split at taken
    · rename_i result before
      obtain rfl := Option.some.inj taken
      cases result with
      | success => exact .yielded
      | operationAborted => exact .aborted before
      | systemError => exact .broke (.inl before)
    · obtain rfl := Option.some.inj taken
      exact .yielded
    · rename_i before
      obtain rfl := Option.some.inj taken
      exact .broke (.inr before)
    · contradiction
  | stopNext =>
    simp only [step] at taken
    split at taken
    · rename_i next before
      split at taken
      · contradiction
      · obtain rfl := Option.some.inj taken
        exact .asked before
    · contradiction
  | stopReturned =>
    simp only [step] at taken
    split at taken
    · rename_i next before
      obtain rfl := Option.some.inj taken
      exact .stopReturned before
    · contradiction

/-- Destroying the last lease cancels an outstanding wait, unless contexts are left. -/
theorem deregisterFiber_cases (live : 0 < s.registeredFibers) :
    (s.deregisterFiber = { s with registeredFibers := s.registeredFibers - 1 } ∧
      (s.point = .waiting none → s.deregisterFiber.Busy)) ∨
    (¬ s.deregisterFiber.Busy ∧ s.deregisterFiber =
      { s with
        registeredFibers := s.registeredFibers - 1
        point := .waiting (some .operationAborted) }) := by
  unfold deregisterFiber
  rw [if_neg (Nat.pos_iff_ne_zero.mp live)]
  simp only
  split
  -- The last lease and no context: the wait is cancelled if there is one
  · rename_i last
    unfold cancel
    split
    · exact .inr ⟨not_busy.mpr last, rfl⟩
    · rename_i elsewhere
      exact .inl ⟨rfl, fun waiting => absurd waiting elsewhere⟩
  -- Otherwise there is something left for `run` to wait for
  · rename_i more
    exact .inl ⟨rfl, fun _ => by_contra fun done => more (not_busy.mp done)⟩

end EventLoop

end Shoc.Engine

/-
# When the event loop ends

`run` should go on as long as there are leases or contexts, and no longer. The
first half fails when a lease is constructed between the cancellation of the wait
and the moment `run` acts on it: the loop then stops contexts that are in use and
returns. The second half fails when the last context goes away in a step of some
fiber, not in a callback of `doca_pe_progress`, after the last lease has gone: only
the end of a lease cancels the wait, so `run` sleeps on.

Each half holds on the runs that avoid its one bad step.
-/

import Shoc.Engine.EventLoop
import Shoc.Transition.Runs

namespace Shoc.Engine

open Data Transition

/-- The wait was cancelled and `run` has not returned yet. -/
def RunPoint.Aborting : RunPoint → Prop
  | .waiting (some .operationAborted) | .progressing .operationAborted => True
  | .stoppingAll _ | .inStop _ | .progressingLast => True
  | _ => False

instance : DecidablePred RunPoint.Aborting
  | .waiting (some .operationAborted) | .progressing .operationAborted => isTrue trivial
  | .stoppingAll _ | .inStop _ | .progressingLast => isTrue trivial
  | .stopped | .waiting none | .waiting (some .success) | .waiting (some .systemError)
  | .progressing .success | .progressing .systemError | .polling | .yielding => isFalse id

/-- The wait has failed with an error other than the cancellation. -/
def RunPoint.Failing : RunPoint → Prop
  | .waiting (some .systemError) | .progressing .systemError => True
  | _ => False

namespace EventLoop

variable {mode : PollingMode} {s t : EventLoop} {event : LoopEvent} {events : List LoopEvent}

/-! ## Not too early -/

/-- Every return of `run` found neither fibers nor contexts, and every context it asked to
stop was asked when there were no fibers. -/
def EndsInTime (s : EventLoop) : Prop :=
  (∀ fibers contexts, .returned fibers contexts ∈ s.log → fibers = 0 ∧ contexts = []) ∧
  ∀ ctx fibers, .askedToStop ctx fibers ∈ s.log → fibers = 0

/-- The descriptor reports no error of its own. -/
def NoSystemError (_ : EventLoop) (event : LoopEvent) : Prop := event ≠ .systemError

/-- Besides, no lease is constructed while `run` is acting on a cancellation. -/
def LeasedInTime (s : EventLoop) (event : LoopEvent) : Prop :=
  event ≠ .systemError ∧ (event = .constructLease → ¬ s.point.Aborting)

instance (s : EventLoop) (event : LoopEvent) : Decidable (s.LeasedInTime event) :=
  inferInstanceAs (Decidable (_ ∧ (_ → ¬ _)))

instance (s : EventLoop) (event : LoopEvent) : Decidable (s.NoSystemError event) :=
  inferInstanceAs (Decidable (event ≠ .systemError))

/-- While `run` acts on a cancellation nothing is left for it to stop. -/
structure WindsDown (s : EventLoop) : Prop where
  aborting : s.point.Aborting → ¬ s.Busy
  healthy : ¬ s.point.Failing
  inTime : s.EndsInTime

theorem endsInTime_finish (h : s.EndsInTime) (done : ¬ s.Busy) : s.finish.EndsInTime := by
  refine ⟨fun fibers contexts mem => ?_, fun ctx fibers mem => h.2 ctx fibers ?_⟩
  · rcases List.mem_cons.mp mem with now | earlier
    · obtain ⟨rfl, rfl⟩ := LoopAction.returned.inj now
      exact not_busy.mp done
    · exact h.1 fibers contexts earlier
  · simpa [finish] using mem

theorem windsDown_finish {active : Bool} (h : s.WindsDown) (done : ¬ s.Busy) :
    { s with active }.finish.WindsDown :=
  ⟨fun aborting => by simp [finish, RunPoint.Aborting] at aborting,
    by simp [finish, RunPoint.Failing], endsInTime_finish h.inTime done⟩

theorem windsDown_stopNext {next : Cursor ContextId} (h : s.WindsDown) (done : ¬ s.Busy) :
    (s.stopNext next).WindsDown := by
  unfold stopNext
  split
  · split
    · exact ⟨fun _ => done, fun failing => failing.elim, h.inTime⟩
    -- The request is recorded with the fibers of this moment, of which there are none
    · refine ⟨fun _ => done, fun failing => failing.elim, fun fibers contexts mem => ?_,
        fun ctx fibers mem => ?_⟩
      · exact h.inTime.1 fibers contexts (by simpa using mem)
      · rcases List.mem_cons.mp mem with now | earlier
        · obtain ⟨-, rfl⟩ := LoopAction.askedToStop.inj now
          exact (not_busy.mp done).1
        · exact h.inTime.2 ctx fibers earlier
  · exact ⟨h.aborting, h.healthy, h.inTime⟩

theorem windsDown_step (h : s.WindsDown) (allowed : s.LeasedInTime event)
    (taken : step mode s event = some t) : t.WindsDown := by
  cases step_taken taken with
  | left done => exact windsDown_finish h done
  | entered needed now =>
    rcases now with rfl | rfl <;>
      exact ⟨fun aborting => aborting.elim, fun failing => failing.elim, h.inTime⟩
  | leased => exact ⟨fun aborting => absurd aborting (allowed.2 rfl), h.healthy, h.inTime⟩
  -- With a live lease `run` was not aborting; it is from now on if this was the last one
  | unleased live =>
    rcases deregisterFiber_cases live with ⟨same, -⟩ | ⟨done, same⟩
    · rw [same]
      refine ⟨fun aborting => ?_, h.healthy, h.inTime⟩
      exact absurd (.inl live) (h.aborting aborting)
    · refine ⟨fun _ => done, ?_, ?_⟩
      · rw [same]
        exact fun failing => failing.elim
      · rw [same]
        exact h.inTime
  -- A context takes a live lease, which an aborting `run` rules out
  | created live =>
    refine ⟨fun aborting => ?_, h.healthy, h.inTime⟩
    exact absurd (.inl live) (h.aborting aborting)
  | idled =>
    refine ⟨fun aborting => ?_, h.healthy, h.inTime⟩
    obtain ⟨fibers, contexts⟩ := not_busy.mp (h.aborting aborting)
    exact not_busy.mpr ⟨fibers, by simp [signalStoppedChild, Registry.erase, contexts]⟩
  | signalled before => exact ⟨fun aborting => aborting.elim, fun failing => failing.elim, h.inTime⟩
  | failed before => exact absurd rfl allowed.1
  | @resumed result before =>
    have aborting := h.aborting
    have healthy := h.healthy
    rw [before] at aborting healthy
    cases result with
    | success => exact ⟨fun aborting => aborting.elim, fun failing => failing.elim, h.inTime⟩
    | operationAborted => exact ⟨aborting, fun failing => failing.elim, h.inTime⟩
    | systemError => exact absurd trivial healthy
  | yielded => exact ⟨fun aborting => aborting.elim, fun failing => failing.elim, h.inTime⟩
  | aborted before =>
    exact ⟨fun _ => h.aborting (before ▸ trivial), fun failing => failing.elim, h.inTime⟩
  | broke before =>
    rcases before with before | before
    · exact absurd (before ▸ trivial) h.healthy
    · exact windsDown_finish h (h.aborting (before ▸ trivial))
  | asked before => exact windsDown_stopNext h (h.aborting (before ▸ trivial))
  | stopReturned before =>
    exact ⟨fun _ => h.aborting (before ▸ trivial), fun failing => failing.elim, h.inTime⟩

/-- **`run` does not end early.** On every run on which the descriptor reports no error of
its own and no lease is constructed while `run` acts on a cancellation, each return of
`run` found no registered fiber and no connected context, and no context was asked to stop
while a fiber was registered. -/
theorem run_ends_in_time (mode : PollingMode) (events : List LoopEvent) (s : EventLoop)
    (run : Run (step mode) LeasedInTime {} events s) : s.EndsInTime := by
  have initial : ({} : EventLoop).WindsDown :=
    ⟨fun aborting => aborting.elim, fun failing => failing.elim, by simp [EndsInTime]⟩
  have windsDown := run.invariant _ (fun _ _ _ h allowed taken => windsDown_step h allowed taken)
    initial
  exact windsDown.inTime

/-- One fiber that ends while `run` waits. -/
def oneFiber : List LoopEvent :=
  [.constructLease, .run, .signalled, .resumeWait, .progressed, .resumeYield, .destroyLease,
    .resumeWait, .progressed, .stopNext, .progressed]

/-- The second fiber takes its lease after the first one's end has cancelled the wait. -/
def lateFiber : List LoopEvent :=
  [.constructLease, .run, .destroyLease, .constructLease, .createContext 1 (.position 0),
    .resumeWait, .progressed, .stopNext, .stopReturned, .stopNext, .progressed]

theorem run_ends_in_time_oneFiber :
    ∃ s, Run (step .epoll) LeasedInTime {} oneFiber s ∧ s.log = [.returned 0 []] ∧
      s.EndsInTime :=
  ⟨_, ⟨rfl, by decide⟩, rfl, run_ends_in_time .epoll oneFiber _ ⟨rfl, by decide⟩⟩

/-- `run` asks the second fiber's context to stop and returns while the fiber holds its
lease. -/
theorem run_ends_early :
    ¬ ∀ (mode : PollingMode) (events : List LoopEvent) (s : EventLoop),
      Run (step mode) NoSystemError {} events s → s.EndsInTime := by
  intro endsInTime
  have inTime := endsInTime .epoll lateFiber _ ⟨rfl, by decide⟩
  have returned := inTime.1 1 [1] (by decide)
  contradiction

/-! ## Not too late -/

/-- `run` waits, nothing is left that could keep it busy, and nothing will wake it: the wait
is neither completed nor cancelled. -/
def Asleep (s : EventLoop) : Prop := s.point = .waiting none ∧ ¬ s.Busy

/-- While `run` waits and no fiber is registered, a context becomes idle only if another one
is left. -/
def StopsAwake (s : EventLoop) : LoopEvent → Prop
  | .contextIdle ctx => s.point = .waiting none ∧ s.registeredFibers = 0 →
      ∃ other ∈ s.connectedContexts.entries, other ≠ ctx
  | _ => True

instance (s : EventLoop) : ∀ event, Decidable (s.StopsAwake event)
  | .contextIdle _ => inferInstanceAs (Decidable (_ ∧ _ → ∃ other ∈ _, _))
  | .run | .constructLease | .destroyLease | .createContext _ _ | .signalled | .systemError
  | .resumeWait | .resumeYield | .progressed | .stopNext | .stopReturned => isTrue trivial

theorem awake_step (allowed : s.StopsAwake event)
    (taken : step mode s event = some t) : ¬ t.Asleep := by
  rintro ⟨waiting, done⟩
  cases step_taken taken with
  | left | signalled | failed | resumed | yielded | aborted | broke | stopReturned =>
    simp [finish] at waiting
  | entered needed => exact done needed
  | leased => exact done (.inl (Nat.succ_pos _))
  -- The end of the last lease cancels the wait, or leaves contexts
  | unleased live =>
    rcases deregisterFiber_cases live with ⟨same, busy⟩ | ⟨-, same⟩
    · exact done (busy (by rwa [same] at waiting))
    · rw [same] at waiting
      simp at waiting
  | created live => exact done (.inl live)
  -- The condition: some other context is left
  | @idled ctx =>
    obtain ⟨fibers, contexts⟩ := not_busy.mp done
    obtain ⟨other, present, ne⟩ := allowed ⟨waiting, fibers⟩
    have left : other ∈ s.connectedContexts.erase ctx := Registry.mem_erase.mpr ⟨ne, present⟩
    rw [Registry.mem_def] at left
    exact absurd left (by simp [show (s.connectedContexts.erase ctx).entries = [] from contexts])
  | @asked next before =>
    unfold stopNext at waiting
    split at waiting
    · split at waiting <;> simp at waiting
    · simp [before] at waiting

/-- **`run` does not sleep past its end.** On every run on which, while `run` waits and no
fiber is registered, no context but one that leaves another behind becomes idle outside
`doca_pe_progress`, `run` is never suspended in its wait with neither fibers nor contexts
left and nothing pending that would end the wait. -/
theorem run_wakes_in_time (mode : PollingMode) (events : List LoopEvent) (s : EventLoop)
    (run : Run (step mode) StopsAwake {} events s) : ¬ s.Asleep :=
  run.invariant (fun s => ¬ s.Asleep) (fun _ _ _ _ allowed taken => awake_step allowed taken)
    fun asleep => by simp [Asleep] at asleep

/-- A fiber creates a context, drops its lease and leaves the stop of the context to a
callback. -/
def stoppedByCallback : List LoopEvent :=
  [.constructLease, .createContext 1 (.position 0), .run, .destroyLease, .signalled, .resumeWait,
    .contextIdle 1, .progressed, .resumeYield]

/-- The same fiber, with the context stopped synchronously from an executor step. -/
def stoppedByFiber : List LoopEvent :=
  [.constructLease, .createContext 1 (.position 0), .run, .destroyLease, .contextIdle 1]

theorem run_wakes_in_time_stoppedByCallback :
    ∃ s, Run (step .epoll) StopsAwake {} stoppedByCallback s ∧ s.log = [.returned 0 []] ∧
      ¬ s.Asleep :=
  ⟨_, ⟨rfl, by decide⟩, rfl, run_wakes_in_time .epoll stoppedByCallback _ ⟨rfl, by decide⟩⟩

/-- `run` is left waiting after the last context was stopped by a fiber without a lease. -/
theorem run_sleeps_on :
    ¬ ∀ (events : List LoopEvent) (s : EventLoop),
      Run (step .epoll) Always {} events s → ¬ s.Asleep := by
  intro neverAsleep
  refine neverAsleep stoppedByFiber _ ⟨rfl, meets_always _ _⟩ ⟨rfl, ?_⟩
  decide

end EventLoop

end Shoc.Engine

/-
# No waiter is left behind

When a context has become idle and the callback that reports it has returned,
nobody should be left waiting for the start or the stop of the context, and nobody
should be able to begin to. There are three ways to be left behind: to wait in a
slot that a second waiter then takes, to wait for the start of a context that
becomes idle without ever running, and to await the start only after the context
has run and is past it. On runs that avoid them everyone is released.
-/

import Shoc.Context.StateAwaitable
import Shoc.Transition.Runs

namespace Shoc.Context

open Transition

/-- The frame belongs to the callback that reports the context idle. -/
def CallbackFrame.ofIdle : CallbackFrame → Bool
  | .stateChanged next | .resumed _ next => next = .idle
  | .signalStoppedChild _ => true

namespace ContextLife

variable {s t : ContextLife} {event : ContextEvent} {events : List ContextEvent}

/-- Once the context is idle again and the callback that reported it has returned, nobody
waits, and no awaitable that is left would suspend its coroutine. -/
def Released (s : ContextLife) : Prop :=
  s.idled = true → (∀ frame ∈ s.stack, frame.ofIdle = false) →
    s.waiting = [] ∧ ∀ kind, s.awaitable kind = true → s.awaitReady kind = true

/-- No coroutine suspends while another one is in its slot, and the context does not become
idle while an awaitable for its start is alive. -/
def OneByOne (s : ContextLife) : ContextEvent → Prop
  | .coAwait _ kind => s.currentState = kind.desiredState ∨ s.slot kind = none
  | .stateChange next => next = .idle → s.awaitable .start = false
  | _ => True

instance (s : ContextLife) : ∀ event, Decidable (s.OneByOne event)
  | .coAwait _ _ => inferInstanceAs (Decidable (_ ∨ _))
  | .stateChange _ => inferInstanceAs (Decidable (_ → _))
  | .start _ | .stop _ | .drop _ | .ret => isTrue trivial

/-- Everyone who waits can be found: for the start in its slot, with an awaitable that is
alive; for the stop in its slot or already taken out of it to be resumed. -/
structure Attended (s : ContextLife) : Prop where
  onStart : ∀ coro, (coro, .start) ∈ s.waiting →
    s.coroStart = some coro ∧ s.awaitable .start = true
  onStop : ∀ coro, (coro, .stop) ∈ s.waiting →
    s.coroStop = some coro ∨ .signalStoppedChild (some coro) ∈ s.stack
  idled : s.idled = true → s.started = true ∧ s.currentState = .idle ∧
    s.awaitable .start = false ∧ (.stateChanged .idle ∈ s.stack ∨ s.coroStop = none)

theorem Attended.released (h : s.Attended) : s.Released := by
  intro idled returned
  obtain ⟨-, idle, unstarted, emptied⟩ := h.idled idled
  have vacant : s.coroStop = none :=
    emptied.resolve_left fun handling => by simpa [CallbackFrame.ofIdle] using returned _ handling
  refine ⟨List.eq_nil_iff_forall_not_mem.mpr ?_, ?_⟩
  -- Nobody waits for the start, whose awaitables are gone, or in the empty slot for the stop
  · rintro ⟨coro, kind⟩ waits
    cases kind with
    | start =>
      have alive := (h.onStart coro waits).2
      rw [unstarted] at alive
      contradiction
    | stop =>
      rcases h.onStop coro waits with slot | signalling
      · rw [vacant] at slot
        contradiction
      · simpa [CallbackFrame.ofIdle] using returned _ signalling
  · intro kind alive
    cases kind with
    | start =>
      rw [unstarted] at alive
      contradiction
    | stop => simp [awaitReady, idle, Awaited.desiredState]

/-! ## One step -/

/-- Taking a frame off the stack that no waiter depends on. -/
theorem attended_pop {frame : CallbackFrame} {callers : List CallbackFrame} (h : s.Attended)
    (stack : s.stack = frame :: callers) (plain : ∀ coro, frame ≠ .signalStoppedChild coro)
    (notIdle : frame ≠ .stateChanged .idle) :
    ({ s with stack := callers } : ContextLife).Attended := by
  refine ⟨h.onStart, fun coro waits => ?_, fun idled => ?_⟩
  · refine (h.onStop coro waits).imp_right fun signalling => ?_
    rw [stack] at signalling
    exact (List.mem_cons.mp signalling).resolve_left fun same => plain _ same.symm
  · obtain ⟨started, idle, unstarted, emptied⟩ := h.idled idled
    refine ⟨started, idle, unstarted, emptied.imp_left fun handling => ?_⟩
    rw [stack] at handling
    exact (List.mem_cons.mp handling).resolve_left fun same => notIdle same.symm

/-- Resuming the coroutine that was in the slot for the start. -/
theorem attended_running (h : s.Attended) : (s.afterStateChanged .running).Attended := by
  cases slot : s.coroStart with
  | none =>
    simp only [afterStateChanged, resume, slot]
    exact ⟨fun coro waits => by simpa [slot] using h.onStart coro waits, h.onStop, h.idled⟩
  | some first =>
    simp only [afterStateChanged, resume, slot]
    refine ⟨fun coro waits => ?_, fun coro waits => ?_, fun idled => ?_⟩
    -- The one coroutine in the slot is the one that is resumed
    · obtain ⟨waits, other⟩ := List.mem_filter.mp waits
      have same := (h.onStart coro waits).1
      simp [slot] at same
      simp [same] at other
    · exact (h.onStop coro (List.mem_of_mem_filter waits)).imp_right (.tail _)
    · obtain ⟨started, idle, unstarted, emptied⟩ := h.idled idled
      exact ⟨started, idle, unstarted, emptied.imp_left (.tail _)⟩

/-- Taking the coroutine out of the slot for the stop, before the parent is told. -/
theorem attended_idle {callers : List CallbackFrame} (h : s.Attended)
    (stack : s.stack = .stateChanged .idle :: callers) :
    ({ s with stack := callers }.afterStateChanged .idle).Attended := by
  refine ⟨h.onStart, fun coro waits => .inr ?_, fun idled => ?_⟩
  -- Out of the slot, on to the frame
  · rcases h.onStop coro waits with slot | signalling
    · rw [← slot]
      exact List.mem_cons_self
    · rw [stack] at signalling
      exact .tail _ ((List.mem_cons.mp signalling).resolve_left (by simp))
  · obtain ⟨started, idle, unstarted, -⟩ := h.idled idled
    exact ⟨started, idle, unstarted, .inr rfl⟩

/-- Resuming the coroutine that was taken out of the slot for the stop. -/
theorem attended_signalled {coro : Option Coro} {callers : List CallbackFrame} (h : s.Attended)
    (stack : s.stack = .signalStoppedChild coro :: callers) :
    ({ s with stack := callers }.resume coro .idle).Attended := by
  have idled : s.idled = true → s.started = true ∧ s.currentState = .idle ∧
      s.awaitable .start = false ∧ (.stateChanged .idle ∈ callers ∨ s.coroStop = none) := by
    simpa [stack] using h.idled
  have onStop : ∀ other, (other, .stop) ∈ s.waiting → coro ≠ some other →
      s.coroStop = some other ∨ .signalStoppedChild (some other) ∈ callers := by
    intro other waits ne
    refine (h.onStop other waits).imp_right fun signalling => ?_
    rw [stack] at signalling
    refine (List.mem_cons.mp signalling).resolve_left fun same => ?_
    exact ne (CallbackFrame.signalStoppedChild.inj same).symm
  cases coro with
  | none => exact ⟨h.onStart, fun other waits => onStop other waits (by simp), idled⟩
  | some first =>
    refine ⟨fun other waits => h.onStart other (List.mem_of_mem_filter waits), ?_, ?_⟩
    · intro other waits
      obtain ⟨waits, ne⟩ := List.mem_filter.mp waits
      simp only [ne_eq, decide_not, Bool.not_eq_eq_eq_not, Bool.not_true,
        decide_eq_false_iff_not] at ne
      exact (onStop other waits fun same => ne (Option.some.inj same).symm).imp_right (.tail _)
    · intro done
      obtain ⟨started, idle, unstarted, emptied⟩ := idled done
      exact ⟨started, idle, unstarted, emptied.imp_left (.tail _)⟩

theorem attended_suspend {coro : Coro} {kind : Awaited} (h : s.Attended)
    (alive : s.awaitable kind = true) (unready : s.currentState ≠ kind.desiredState)
    (vacant : s.slot kind = none) : (s.awaitSuspend coro kind).Attended := by
  cases kind with
  | start =>
    simp only [slot] at vacant
    refine ⟨fun other waits => ?_, fun other waits => ?_, h.idled⟩
    · rcases List.mem_cons.mp waits with now | earlier
      · obtain ⟨rfl, -⟩ := Prod.mk.inj now
        exact ⟨rfl, alive⟩
      · have slot := (h.onStart other earlier).1
        rw [vacant] at slot
        contradiction
    · exact h.onStop other (by simpa [awaitSuspend] using waits)
  | stop =>
    simp only [slot] at vacant
    refine ⟨fun other waits => ?_, fun other waits => ?_, fun idled => ?_⟩
    · exact h.onStart other (by simpa [awaitSuspend] using waits)
    · rcases List.mem_cons.mp waits with now | earlier
      · obtain ⟨rfl, -⟩ := Prod.mk.inj now
        exact .inl rfl
      · refine .inr ((h.onStop other earlier).resolve_left fun slot => ?_)
        rw [vacant] at slot
        contradiction
    · exact absurd (h.idled idled).2.1 unready

theorem attended_step (h : s.Attended) (allowed : s.OneByOne event)
    (taken : step s event = some t) : t.Attended := by
  cases step_taken taken with
  | refused => exact h
  | started before =>
    refine ⟨fun coro waits => ⟨(h.onStart coro waits).1, rfl⟩, h.onStop, fun idled => ?_⟩
    rw [(h.idled idled).1] at before
    contradiction
  | stopping before => exact ⟨h.onStart, h.onStop, h.idled⟩
  | @dropped kind unused =>
    refine ⟨fun coro waits => ?_, h.onStop, fun idled => ?_⟩
    · obtain ⟨slot, alive⟩ := h.onStart coro waits
      have other : Awaited.start ≠ kind := unused _ waits
      exact ⟨slot, by simpa [other] using alive⟩
    · obtain ⟨started, idle, unstarted, emptied⟩ := h.idled idled
      refine ⟨started, idle, ?_, emptied⟩
      simp [unstarted]
  -- The condition: the slot is free
  | suspended alive unready =>
    exact attended_suspend h alive unready (Or.resolve_left allowed unready)
  -- The condition: when the context becomes idle nobody can be waiting for its start
  | @changed next before alive =>
    refine ⟨h.onStart, fun coro waits => (h.onStop coro waits).imp_right (.tail _), fun idled => ?_⟩
    obtain rfl : next = .idle := by simpa using idled
    exact ⟨before, rfl, allowed rfl, .inl List.mem_cons_self⟩
  | @handled next callers before =>
    cases next with
    | running => exact attended_running (attended_pop h before (by simp) (by simp))
    | idle => exact attended_idle h before
    | starting | stopping => exact attended_pop h before (by simp) (by simp)
  | signalled before => exact attended_signalled h before
  | ran before => exact attended_pop h before (by simp) (by simp)

/-! ## Whole runs -/

/-- **No waiter is left behind.** On every run on which no coroutine suspends while another
one is in its slot, and the context does not become idle while an awaitable for its start
is alive, everyone is released: once the context has become idle and the callback has
returned, every coroutine that suspended on one of its awaitables has been resumed, and
none can suspend on one any more. -/
theorem waiters_released (events : List ContextEvent) (s : ContextLife)
    (run : Run step OneByOne {} events s) : s.Released := by
  have attended : s.Attended :=
    run.invariant _ (fun _ _ _ h allowed taken => attended_step h allowed taken)
      ⟨by simp, by simp, by simp⟩
  exact attended.released

/-- A context that starts, runs and stops, with one coroutine that awaits its start and
then its stop. -/
def startedAndStopped : List ContextEvent :=
  [.start .inProgress, .stateChange .starting, .ret, .coAwait 7 .start, .stateChange .running, .ret,
    .drop .start, .stop .inProgress, .coAwait 7 .stop, .ret, .stateChange .stopping, .ret,
    .stateChange .idle, .ret, .ret, .ret]

/-- A context whose start fails after a coroutine has suspended on it. -/
def failedStart : List ContextEvent :=
  [.start .inProgress, .stateChange .starting, .ret, .coAwait 7 .start, .stateChange .idle, .ret,
    .ret]

theorem waiters_released_startedAndStopped :
    ∃ s, Run step OneByOne {} startedAndStopped s ∧ s.idled = true ∧ s.stack = [] ∧
      s.waiting = [] := by
  refine ⟨_, ⟨rfl, by decide⟩, rfl, rfl, ?_⟩
  exact (waiters_released startedAndStopped _ ⟨rfl, by decide⟩ rfl (by decide)).1

/-- The coroutine that awaits a start that fails waits for ever. -/
theorem failedStart_strands_waiter :
    ¬ ∀ (events : List ContextEvent) (s : ContextLife),
      Run step Always {} events s → s.Released := by
  intro alwaysReleased
  have released := alwaysReleased failedStart _ ⟨rfl, meets_always _ _⟩
  have nobody := (released rfl (by decide)).1
  contradiction

end ContextLife

end Shoc.Context

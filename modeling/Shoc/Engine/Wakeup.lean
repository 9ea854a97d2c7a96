/-
# Waking the coroutine that awaits an offload

A result can reach the receptable from the allocation, from the submission
loop, from the resubmission fiber and from the completion callback, and the
coroutine may suspend before or after that. The first two places run before the
awaitable exists, so nobody can be waiting yet, and the callback resumes the
waiter. The resubmission fiber only reports: when it gives up after a coroutine
has suspended, nobody resumes that coroutine.

Whatever a coroutine observes is the result of the last call that produced one,
and none is resumed twice, on every run. No wakeup is lost on the runs in which
the fiber never gives up on a task that is being waited for.
-/

import Shoc.Engine.Offload
import Shoc.Transition.Runs

namespace Shoc.Engine

open Coro Transition

namespace Offload

variable {cfg : Config} {op : Operation} {s t : Offload} {event : Event} {events : List Event}

/-- The resubmission fiber does not give up while a coroutine is registered. -/
def KeepsTrying (s : Offload) : Event → Prop
  | .resubmit err contextsEmpty =>
      match s.phase with
      | .resubmitting attempts =>
          s.receptable.waiter = none ∨ err = .success ∨ retries attempts err contextsEmpty
      | _ => True
  | _ => True

/-- Besides, no completion is deferred while a coroutine is registered. -/
def ResumesAtOnce (op : Operation) (s : Offload) (event : Event) : Prop :=
  s.KeepsTrying event ∧
    match event with
    | .complete _ => op.callback = .plainStatus true → s.receptable.waiter = none
    | _ => True

instance (s : Offload) : ∀ event, Decidable (s.KeepsTrying event)
  | .resubmit err contextsEmpty =>
      match phase : s.phase with
      | .resubmitting attempts =>
          decidable_of_iff (s.receptable.waiter = none ∨ err = .success ∨
            retries attempts err contextsEmpty) (by simp [KeepsTrying, phase])
      | .requested | .configuring | .submitting _ | .inFlight | .finished =>
          isTrue (by simp [KeepsTrying, phase])
  | .allocate _ | .setIsFinalBuf _ | .submit _ | .complete _ | .runPosted | .coAwait _ =>
      isTrue trivial

instance (op : Operation) (s : Offload) : ∀ event, Decidable (s.ResumesAtOnce op event)
  | .complete _ => inferInstanceAs (Decidable (_ ∧ (_ → _)))
  | .allocate _ | .setIsFinalBuf _ | .submit _ | .resubmit _ _ | .runPosted | .coAwait _ =>
      inferInstanceAs (Decidable (_ ∧ True))

/-- What holds of receptable, waiter and observations on every run: while the task is
alive there is no result and nobody has been resumed; once it is finished the
receptable holds the outcome, and everything observed is that outcome. -/
structure Consistent (op : Operation) (s : Offload) : Prop where
  alive : s.phase ≠ .finished →
    s.receptable.stored = .monostate ∧ s.resumed = [] ∧ s.observed = [] ∧ s.posted = false
  finished : s.phase = .finished →
    s.receptable.stored ≠ .monostate ∧ s.outcome op = some s.receptable.value
  unreturned : s.returned = false → s.receptable.waiter = none
  observed : ∀ entry ∈ s.observed, entry.2 = s.receptable.value
  resumed : s.resumed.length ≤ 1 ∧ (s.posted = true → s.resumed = [])

/-- A finished offload has resumed its waiter or has posted the resume. -/
def Woken (s : Offload) : Prop :=
  s.phase = .finished → ∀ coro, s.receptable.waiter = some coro → coro ∈ s.resumed ∨ s.posted = true

theorem Consistent.hasValue_iff_finished {op : Operation} {s : Offload} (h : s.Consistent op) :
    s.receptable.hasValue ↔ s.phase = .finished := by
  rw [Receptable.hasValue_iff]
  constructor
  · intro stored
    by_contra alive
    exact stored (h.alive alive).1
  · exact fun done => (h.finished done).1

/-! ## One step -/

theorem record_consistent (alive : s.phase ≠ .finished) (h : s.Consistent op) (call : Call) :
    (s.record call).Consistent op :=
  ⟨h.alive, fun done => absurd done alive, h.unreturned, h.observed, h.resumed⟩

/-- Moving on to another phase in which the task is still alive. -/
theorem advance_consistent {phase : Phase} (alive : s.phase ≠ .finished) (next : phase ≠ .finished)
    (h : s.Consistent op)
    (held : s.returned = true → ({ s with phase } : Offload).returned = true) :
    ({ s with phase } : Offload).Consistent op := by
  refine ⟨fun _ => h.alive alive, fun done => absurd done next, fun unreturned => ?_, h.observed,
    h.resumed⟩
  -- What has been returned to the caller stays returned
  apply h.unreturned
  cases was : s.returned with
  | false => rfl
  | true => rw [held was] at unreturned; contradiction

/-- Reporting the error the last call produced. -/
theorem fail_consistent {err : DocaError} (alive : s.phase ≠ .finished) (h : s.Consistent op)
    (last : s.outcome op = some (op.reported err)) : (s.fail op err).Consistent op := by
  obtain ⟨-, noneResumed, noneObserved, notPosted⟩ := h.alive alive
  -- The task was alive, so nobody has been resumed and nothing observed
  refine ⟨fun notDone => absurd rfl notDone, fun _ => ⟨op.stored_setError_ne err _, ?_⟩,
    fun unreturned => ?_, fun entry seen => ?_, h.resumed⟩
  · simpa [fail, outcome] using last
  · simp [fail, returned] at unreturned
  · simp [fail, noneObserved] at seen

theorem resume_consistent (done : s.phase = .finished) (fresh : s.resumed = [])
    (h : s.Consistent op) : ({ s.resume with posted := false } : Offload).Consistent op := by
  refine ⟨fun alive => absurd (phase_resume.trans done) alive, fun _ => ?_, fun inside => ?_,
    fun entry seen => ?_, ?_, fun pending => by simp at pending⟩
  · simpa [outcome] using h.finished done
  · simp [returned, done] at inside
  · simp only [observed_resume, receptable_resume, List.mem_append, List.mem_map] at seen ⊢
    rcases seen with ⟨coro, -, rfl⟩ | earlier
    · rfl
    · exact h.observed entry earlier
  · simp only [resumed_resume, fresh, List.append_nil]
    cases s.receptable.waiter <;> simp

theorem storeResult_consistent (completion : Completion) (alive : s.phase ≠ .finished)
    (h : s.Consistent op) : (s.storeResult op completion).Consistent op := by
  obtain ⟨-, noneResumed, noneObserved, -⟩ := h.alive alive
  refine ⟨fun notDone => absurd rfl notDone, fun _ => ⟨by simp [storeResult], rfl⟩, fun out => ?_,
    fun entry seen => ?_, ?_, fun _ => noneResumed⟩
  · simp [storeResult, returned] at out
  · simp [storeResult, record, noneObserved] at seen
  · simp [storeResult, record, noneResumed]

theorem complete_consistent (completion : Completion) (alive : s.phase ≠ .finished)
    (h : s.Consistent op) : (s.complete op completion).Consistent op := by
  have settled := storeResult_consistent completion alive h
  have fresh : (s.storeResult op completion).resumed = [] := (h.alive alive).2.1
  unfold complete
  split
  -- Deferred: the value is stored, the resume is posted
  · exact ⟨fun notDone => absurd rfl notDone, settled.finished, settled.unreturned,
      settled.observed, settled.resumed.1, fun _ => fresh⟩
  -- At once: nothing is posted, so this is the resume of a finished offload
  · have idle : (s.storeResult op completion).resume.posted = false :=
      posted_resume.trans (h.alive alive).2.2.2
    rw [show (s.storeResult op completion).resume =
      { (s.storeResult op completion).resume with posted := false } by rw [← idle]]
    exact resume_consistent rfl fresh settled

theorem coAwait_consistent {coro : Coro} (out : s.returned = true) (h : s.Consistent op) :
    (s.coAwait coro).Consistent op := by
  unfold coAwait
  split
  -- There is a result, so the offload is finished and the coroutine takes the value
  · rename_i ready
    have done : s.phase = .finished := h.hasValue_iff_finished.mp ready
    refine ⟨fun alive => absurd done alive, h.finished, h.unreturned, ?_, h.resumed⟩
    intro entry seen
    rcases List.mem_cons.mp seen with rfl | earlier
    · rfl
    · exact h.observed entry earlier
  -- There is none, so the offload is alive and the coroutine registers or is refused
  · rename_i unready
    have alive : s.phase ≠ .finished := mt h.hasValue_iff_finished.mpr unready
    split
    · exact ⟨h.alive, h.finished, h.unreturned, h.observed, h.resumed⟩
    · rename_i receptable registered
      obtain ⟨-, -, noneObserved, -⟩ := h.alive alive
      obtain rfl : ({ s.receptable with waiter := some coro } : Receptable Payload) =
          receptable := by
        unfold Receptable.setWaiter at registered
        split at registered
        · contradiction
        · exact Except.ok.inj registered
      refine ⟨h.alive, fun done => absurd done alive, fun inside => ?_, ?_, h.resumed⟩
      · rw [show ({ s with receptable := { s.receptable with waiter := some coro } } :
          Offload).returned = s.returned from rfl, out] at inside
        contradiction
      · simp [noneObserved]

/-- Every step keeps receptable, waiter and observations consistent. -/
theorem consistent_step (h : s.Consistent op) (taken : step cfg op s event = some t) :
    t.Consistent op := by
  cases step_taken taken with
  | allocateFailed before failed =>
    have alive : s.phase ≠ .finished := by simp [before]
    exact fail_consistent alive (record_consistent alive h _) rfl
  | @allocated calls before made =>
    have alive : s.phase ≠ .finished := by simp [before]
    have logged : ({ s with log := calls ++ s.log } : Offload).Consistent op :=
      ⟨h.alive, fun done => absurd done alive, h.unreturned, h.observed, h.resumed⟩
    refine advance_consistent (s := { s with log := calls ++ s.log }) alive (by simp) logged ?_
    simp [returned, before]
  | allocatedFinal before =>
    have alive : s.phase ≠ .finished := by simp [before]
    refine advance_consistent alive (by simp) (record_consistent alive h _) fun out => ?_
    simp [record, returned, before] at out
  | configureFailed before failed =>
    have alive : s.phase ≠ .finished := by simp [before]
    exact fail_consistent alive (record_consistent alive h _) rfl
  | configured before =>
    have alive : s.phase ≠ .finished := by simp [before]
    refine advance_consistent alive (by simp) (record_consistent alive h _) fun out => ?_
    simp [record, returned, before] at out
  | @rejected _ err before failed silent =>
    have alive : s.phase ≠ .finished := fun done => by simp [done, Phase.Submits] at before
    have submitted := record_consistent alive h (.submit err)
    have freed := record_consistent (s := s.record (.submit err)) alive submitted .free
    exact fail_consistent (s := (s.record (.submit err)).record .free) alive freed rfl
  | retried before now held =>
    have alive : s.phase ≠ .finished := fun done => by simp [done, Phase.Submits] at before
    exact advance_consistent alive (fun done => by simp [done, Phase.Submits] at now)
      (record_consistent alive h _) held
  | submitted before =>
    have alive : s.phase ≠ .finished := fun done => by simp [done, Phase.Submits] at before
    exact advance_consistent alive (by simp) (record_consistent alive h _) fun _ => rfl
  | completed before => exact complete_consistent _ (by simp [before]) h
  -- Only a finished offload has posted its resume
  | ranPosted before =>
    have done : s.phase = .finished := by
      by_contra alive
      simp [(h.alive alive).2.2.2] at before
    exact resume_consistent done (h.resumed.2 before) h
  | awaited before => exact coAwait_consistent before h

theorem consistent_init (op : Operation) : ({} : Offload).Consistent op := by
  refine ⟨fun _ => ⟨rfl, rfl, rfl, rfl⟩, fun done => ?_, fun _ => rfl, fun _ seen => ?_, by simp,
    fun _ => rfl⟩
  · simp at done
  · simp at seen

/-- Later `co_await`s on a finished offload find the value and do not suspend. -/
theorem woken_coAwait {coro : Coro} (h : s.Consistent op) (woken : s.Woken) :
    (s.coAwait coro).Woken := by
  unfold coAwait
  split
  · exact woken
  · rename_i unready
    have alive : s.phase ≠ .finished := mt h.hasValue_iff_finished.mpr unready
    split
    · exact woken
    · exact fun done => absurd done alive

theorem woken_resume (posted : Bool) : ({ s.resume with posted } : Offload).Woken := by
  intro _ coro waiting
  rw [receptable_resume] at waiting
  exact .inl (by simp [resumed_resume, waiting])

theorem woken_complete (completion : Completion) : (s.complete op completion).Woken := by
  unfold complete
  split
  · exact fun _ _ _ => .inr rfl
  · exact woken_resume _

/-- Under `KeepsTrying` every step leaves a finished offload woken. -/
theorem woken_step (h : s.Consistent op) (woken : s.Woken) (allowed : s.KeepsTrying event)
    (taken : step cfg op s event = some t) : t.Woken := by
  -- An error exit is harmless exactly when nobody is registered yet
  have unheard : ∀ {err : DocaError} {u : Offload}, u.receptable = s.receptable →
      s.receptable.waiter = none → (u.fail op err).Woken := by
    intro err u same none _ coro waiting
    simp [fail, same, none] at waiting
  cases step_taken taken with
  | allocateFailed before failed =>
    exact unheard rfl (h.unreturned (by simp [returned, before]))
  | allocated | allocatedFinal => exact fun done => by simp at done
  | configureFailed before failed =>
    exact unheard rfl (h.unreturned (by simp [returned, before]))
  | configured before => exact fun done => by simp at done
  | rejected before failed silent =>
    apply unheard rfl
    -- Either the offload call is still running, or the fiber has given up
    rcases silent with inside | ⟨attempts, contextsEmpty, before, rfl, ended⟩
    · exact h.unreturned inside
    · simpa [KeepsTrying, before, failed, ended] using allowed
  | retried before now held =>
    intro done
    simp only at done
    simp [done, Phase.Submits] at now
  | submitted before => exact fun done => by simp at done
  | completed before => exact woken_complete _
  | ranPosted before => exact woken_resume false
  | awaited before => exact woken_coAwait h woken

/-- Under `ResumesAtOnce` a posted resume never has a coroutine to wait for it. -/
theorem posted_unheard_step (h : s.Consistent op)
    (unheard : s.posted = true → s.receptable.waiter = none)
    (allowed : s.ResumesAtOnce op event) (taken : step cfg op s event = some t) :
    t.posted = true → t.receptable.waiter = none := by
  cases step_taken taken with
  | allocateFailed | configureFailed | rejected => simpa [fail, record] using unheard
  | allocated | allocatedFinal | configured | retried | submitted => exact unheard
  | @completed completion before =>
    have idle : s.posted = false := (h.alive (by simp [before])).2.2.2
    unfold complete
    split
    · rename_i deferred
      exact fun _ => allowed.2 deferred
    · simp [storeResult, record, idle]
  | ranPosted before => exact fun pending => by simp at pending
  | @awaited coro before =>
    unfold coAwait
    split
    · exact unheard
    · rename_i unready
      have alive : s.phase ≠ .finished := mt h.hasValue_iff_finished.mpr unready
      split
      · exact unheard
      · intro pending
        simp [(h.alive alive).2.2.2] at pending

/-! ## Whole runs -/

/-- A result is there while the coroutine registered for it is still suspended. -/
def LostWakeup (s : Offload) : Prop :=
  s.receptable.hasValue = true ∧ ∃ coro, s.Suspended coro

theorem Consistent.of_run {ok : Offload → Event → Prop}
    (run : Run (step cfg op) ok {} events s) : s.Consistent op :=
  run.invariant _ (fun _ _ _ h _ taken => consistent_step h taken) (consistent_init op)

theorem Woken.of_run (run : Run (step cfg op) KeepsTrying {} events s) : s.Woken := by
  have both : s.Consistent op ∧ s.Woken := by
    refine run.invariant (fun s => s.Consistent op ∧ s.Woken) ?_
      ⟨consistent_init op, fun done => by simp at done⟩
    exact fun _ _ _ h allowed taken => ⟨consistent_step h.1 taken, woken_step h.1 h.2 allowed taken⟩
  exact both.2

theorem posted_unheard_of_run (run : Run (step cfg op) (ResumesAtOnce op) {} events s) :
    s.posted = true → s.receptable.waiter = none := by
  have both : s.Consistent op ∧ (s.posted = true → s.receptable.waiter = none) := by
    refine run.invariant
      (fun s => s.Consistent op ∧ (s.posted = true → s.receptable.waiter = none)) ?_
      ⟨consistent_init op, fun _ => rfl⟩
    exact fun _ _ _ h allowed taken =>
      ⟨consistent_step h.1 taken, posted_unheard_step h.1 h.2 allowed taken⟩
  exact both.2

/-- A lost wakeup is found only at a finished offload whose resume is still posted, as
long as the resubmission fiber keeps trying for its waiters. -/
theorem LostWakeup.posted (run : Run (step cfg op) KeepsTrying {} events s)
    (lost : s.LostWakeup) : s.posted = true := by
  obtain ⟨ready, coro, waiting, asleep⟩ := lost
  have done : s.phase = .finished := (Consistent.of_run run).hasValue_iff_finished.mp ready
  exact (Woken.of_run run done coro waiting).resolve_left asleep

/-- **No lost wakeup.** On every run in which the resubmission fiber does not give up on
a task that a coroutine already waits for, and no completion is deferred while one
waits, a stored result and a suspended waiter never coexist; without the second
restriction they coexist only while the resume is posted. On every run whatsoever at
most one resume happens, and whatever is observed is the final outcome. -/
theorem no_lost_wakeup (cfg : Config) (op : Operation) (events : List Event) (s : Offload) :
    (Run (step cfg op) (ResumesAtOnce op) {} events s → ¬ s.LostWakeup) ∧
    (Run (step cfg op) KeepsTrying {} events s → s.LostWakeup → s.posted = true) ∧
    (Run (step cfg op) Always {} events s →
      s.resumed.length ≤ 1 ∧ ∀ entry ∈ s.observed, s.outcome op = some entry.2) := by
  refine ⟨fun run lost => ?_, LostWakeup.posted, fun run => ?_⟩
  -- A lost wakeup would have its resume posted, with nobody to wait for it
  · have pending := LostWakeup.posted (run.weaken fun _ _ allowed => allowed.1) lost
    obtain ⟨-, coro, waiting, -⟩ := lost
    rw [posted_unheard_of_run run pending] at waiting
    contradiction
  · have consistent := Consistent.of_run run
    refine ⟨consistent.resumed.1, fun entry seen => ?_⟩
    -- Nothing is observed before there is a result
    have done : s.phase = .finished := by
      by_contra alive
      rw [(consistent.alive alive).2.2.1] at seen
      contradiction
    rw [consistent.observed entry seen]
    exact (consistent.finished done).2

/-- A delayed submission that succeeds and completes after the coroutine suspended. -/
def resubmitted : List Event :=
  [.allocate .success, .submit .again, .coAwait 7, .resubmit .success false,
    .complete ⟨.success, [], 0⟩]

/-- The run in which the resubmission fiber gives up on a suspended coroutine. -/
def abandoned : List Event :=
  [.allocate .success, .submit .again, .coAwait 7, .resubmit .again false]

/-- The configuration with no immediate and one delayed attempt. -/
def oneDelayed : Config := ⟨0, 1⟩

theorem no_lost_wakeup_resubmitted :
    ∃ s, Run (step oneDelayed (.plainStatusOffload .withUserData))
        (ResumesAtOnce (.plainStatusOffload .withUserData)) {} resubmitted s ∧
      s.resumed = [7] ∧ ¬ s.LostWakeup := by
  refine ⟨_, ⟨rfl, by decide⟩, rfl, ?_⟩
  exact (no_lost_wakeup oneDelayed (.plainStatusOffload .withUserData) resubmitted _).1
    ⟨rfl, by decide⟩

/-- A coroutine that suspended before the last delayed attempt failed is never resumed. -/
theorem resubmission_loses_wakeup :
    ¬ ∀ (cfg : Config) (op : Operation) (events : List Event) (s : Offload),
      Run (step cfg op) Always {} events s → ¬ s.LostWakeup := by
  intro neverLost
  refine neverLost oneDelayed (.plainStatusOffload .withUserData) abandoned _
    ⟨rfl, meets_always _ _⟩ ⟨rfl, 7, ?_⟩
  decide

end Offload

end Shoc.Engine

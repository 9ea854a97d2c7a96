/-
# Who frees the task

A task object that was allocated has to be given back with `doca_task_free`
exactly once. While it is being submitted it belongs to the submission loop or to
the resubmission fiber, which free it when they give up; once it is submitted it
belongs to the SDK, whose completion callback frees it.

Between the allocation and the first submission there is one more exit: for a
final segment, the allocation lambda of `partial_hash` makes a second call, and
when that call fails `status_offload` takes the whole allocation for failed. The
task exists by then, and nobody frees it.
-/

import Shoc.Engine.Offload
import Shoc.Transition.Runs

namespace Shoc.Engine

open Coro Transition

/-- The calls before a `doca_task_free`, latest first, show the right caller: the
completion callback if the task was submitted, and otherwise the path on which a
submission has just failed. -/
def FreedBy (calls : List Call) : Prop :=
  (.submit .success ∈ calls → ∃ completion, calls.head? = some (.completed completion)) ∧
  (.submit .success ∉ calls → ∃ err, err ≠ .success ∧ calls.head? = some (.submit err))

/-- Where the task is and which calls were made on it, latest first. -/
inductive Custody : Phase → List Call → Prop
  | requested : Custody .requested []
  | configuring : Custody .configuring [.allocate .success]
  | submitting {phase : Phase} {calls : List Call} (now : phase.Submits)
      (allocated : .allocate .success ∈ calls) (kept : .free ∉ calls)
      (unsubmitted : .submit .success ∉ calls) : Custody phase calls
  | inFlight {calls : List Call} (allocated : .allocate .success ∈ calls) (kept : .free ∉ calls)
      (submitted : .submit .success ∈ calls) : Custody .inFlight calls
  | unallocated {err : DocaError} (failed : err ≠ .success) : Custody .finished [.allocate err]
  | leaked {err : DocaError} (failed : err ≠ .success) :
      Custody .finished [.setIsFinalBuf err, .allocate .success]
  | freed {calls : List Call} (kept : .free ∉ calls) (by' : FreedBy calls) :
      Custody .finished (.free :: calls)

theorem FreedBy.of_failed {err : DocaError} {calls : List Call} (failed : err ≠ .success)
    (unsubmitted : .submit .success ∉ calls) : FreedBy (.submit err :: calls) := by
  refine ⟨fun submitted => ?_, fun _ => ⟨err, failed, rfl⟩⟩
  rcases List.mem_cons.mp submitted with now | earlier
  · exact absurd (Call.submit.inj now).symm failed
  · exact absurd earlier unsubmitted

theorem FreedBy.of_completed {completion : Completion} {calls : List Call}
    (submitted : .submit .success ∈ calls) : FreedBy (.completed completion :: calls) :=
  ⟨fun _ => ⟨completion, rfl⟩, fun unsubmitted => absurd (.tail _ submitted) unsubmitted⟩

namespace Custody

variable {phase : Phase} {calls : List Call}

theorem of_requested (h : Custody phase calls) (before : phase = .requested) : calls = [] := by
  subst before
  cases h with
  | requested => rfl
  | submitting now => contradiction

theorem of_configuring (h : Custody phase calls) (before : phase = .configuring) :
    calls = [.allocate .success] := by
  subst before
  cases h with
  | configuring => rfl
  | submitting now => contradiction

/-- In a submission loop the task is allocated, and neither freed nor submitted. -/
theorem of_submits (h : Custody phase calls) (loops : phase.Submits) :
    .allocate .success ∈ calls ∧ .free ∉ calls ∧ .submit .success ∉ calls := by
  cases h with
  | submitting now allocated kept unsubmitted => exact ⟨allocated, kept, unsubmitted⟩
  | requested | configuring | inFlight | unallocated | leaked | freed => contradiction

theorem of_inFlight (h : Custody phase calls) (before : phase = .inFlight) :
    .free ∉ calls ∧ .submit .success ∈ calls := by
  subst before
  cases h with
  | submitting now => contradiction
  | inFlight allocated kept submitted => exact ⟨kept, submitted⟩

end Custody

namespace Offload

variable {cfg : Config} {op : Operation} {s t : Offload} {event : Event} {events : List Event}

/-- The task has been freed, or will be, exactly once and by the right caller: an
allocated task whose offload is finished has been freed, one that is still being
worked on has not, and nothing is done to a task after it was freed. -/
structure FreedOnce (s : Offload) : Prop where
  finished : s.phase = .finished → .allocate .success ∈ s.log → s.log.count .free = 1
  alive : s.phase ≠ .finished → .free ∉ s.log
  last : ∀ later earlier, s.log = later ++ .free :: earlier → later = [] ∧ FreedBy earlier

/-! ## The custody of the task along a run -/

/-- Every step keeps track of the custody of the task. -/
theorem custody_step (h : Custody s.phase s.log) (taken : step cfg op s event = some t) :
    Custody t.phase t.log := by
  cases step_taken taken with
  | allocateFailed before failed =>
    simp only [fail, record, h.of_requested before]
    exact .unallocated failed
  | allocated before made =>
    simp only [h.of_requested before, List.append_nil]
    rcases made with rfl | rfl <;> exact .submitting trivial (by simp) (by simp) (by simp)
  | allocatedFinal before =>
    simp only [record, h.of_requested before]
    exact .configuring
  -- The task is allocated, and this exit does not free it
  | configureFailed before failed =>
    simp only [fail, record, h.of_configuring before]
    exact .leaked failed
  | configured before =>
    simp only [record, h.of_configuring before]
    exact .submitting trivial (by simp) (by simp) (by simp)
  -- The loop or the fiber gives up and frees the task
  | rejected before failed silent =>
    obtain ⟨-, kept, unsubmitted⟩ := h.of_submits before
    exact .freed (by simpa [record] using kept) (.of_failed failed unsubmitted)
  | retried before now held =>
    obtain ⟨allocated, kept, unsubmitted⟩ := h.of_submits before
    exact .submitting now (.tail _ allocated) (by simpa [record] using kept)
      (by simpa [record] using unsubmitted)
  | submitted before =>
    obtain ⟨allocated, kept, -⟩ := h.of_submits before
    exact .inFlight (.tail _ allocated) (by simpa [record] using kept) (by simp [record])
  | completed before =>
    rw [phase_complete, log_complete]
    obtain ⟨kept, submitted⟩ := h.of_inFlight before
    exact .freed (by simpa using kept) (.of_completed submitted)
  | ranPosted before => simpa using h
  | awaited before => simpa using h

theorem Custody.of_run {ok : Offload → Event → Prop}
    (run : Run (step cfg op) ok {} events s) : Custody s.phase s.log :=
  run.invariant (fun s => Custody s.phase s.log)
    (fun _ _ _ h _ taken => custody_step h taken) .requested

/-! ## Freed exactly once -/

/-- What custody says about freeing: the task is freed as it should be unless it was
leaked. -/
theorem freedOnce_of_custody (h : Custody s.phase s.log)
    (marked : ∀ err, .setIsFinalBuf err ∈ s.log → err = .success) : s.FreedOnce := by
  have absent : .free ∉ s.log → ∀ later earlier, s.log = later ++ .free :: earlier →
      later = [] ∧ FreedBy earlier :=
    fun kept later earlier split => absurd (split ▸ by simp) kept
  generalize phase : s.phase = now, log : s.log = calls at h
  cases h with
  | requested => exact ⟨by simp [log], by simp [log], absent (by simp [log])⟩
  | configuring => exact ⟨by simp [phase], by simp [log], absent (by simp [log])⟩
  | submitting loops allocated kept unsubmitted =>
    refine ⟨fun done => ?_, fun _ => log ▸ kept, absent (log ▸ kept)⟩
    simp [← phase, done, Phase.Submits] at loops
  | inFlight allocated kept submitted =>
    exact ⟨by simp [phase], fun _ => log ▸ kept, absent (log ▸ kept)⟩
  | @unallocated err failed =>
    exact ⟨fun _ => by simp [log, failed.symm], by simp [log], absent (by simp [log])⟩
  -- The one way to lose the task takes a failed marking
  | @leaked err failed => exact absurd (marked err (by simp [log])) failed
  | freed kept freer =>
    refine ⟨fun _ _ => by simpa [log, List.count_eq_zero] using kept,
      fun alive => absurd phase alive, fun later earlier split => ?_⟩
    rw [log] at split
    -- The task was freed by the last call, and only by that
    cases later with
    | nil =>
      obtain rfl := (List.cons.inj split).2
      exact ⟨rfl, freer⟩
    | cons call later =>
      have again := (List.cons.inj split).2
      exact absurd (again ▸ by simp) kept

/-- A finished offload makes no more calls on the task. -/
theorem finished_step (done : s.phase = .finished) (taken : step cfg op s event = some t) :
    t.phase = .finished ∧ t.log = s.log := by
  cases step_taken taken with
  | allocateFailed before | allocated before | allocatedFinal before | configureFailed before
  | configured before | completed before | rejected before | retried before | submitted before =>
    rw [done] at before
    contradiction
  | ranPosted before => simp [done]
  | awaited before => simp [done]

/-- A call of `set_is_final_buf` is in the log only if its result is in the events. -/
theorem marked_step {P : DocaError → Prop} (allowed : ∀ err, event = .setIsFinalBuf err → P err)
    (h : ∀ err, .setIsFinalBuf err ∈ s.log → P err) (taken : step cfg op s event = some t) :
    ∀ err, .setIsFinalBuf err ∈ t.log → P err := by
  intro err
  cases step_taken taken with
  | allocateFailed | allocatedFinal | rejected | retried | submitted =>
    simpa [fail, record] using h err
  | allocated before made => rcases made with rfl | rfl <;> simpa using h err
  | @configureFailed result before failed =>
    intro called
    rcases List.mem_cons.mp called with now | earlier
    · obtain rfl := Call.setIsFinalBuf.inj now
      exact allowed err rfl
    · exact h err earlier
  | configured before =>
    intro called
    rcases List.mem_cons.mp called with now | earlier
    · obtain rfl := Call.setIsFinalBuf.inj now
      exact allowed .success rfl
    · exact h err earlier
  | completed before => simpa [log_complete] using h err
  | ranPosted | awaited => simpa using h err

/-- Failing to mark the final segment leaks the task. -/
theorem leaked_of_setIsFinalBuf {err : DocaError} (h : Custody s.phase s.log)
    (failed : err ≠ .success) (taken : step cfg op s (.setIsFinalBuf err) = some t) :
    t.phase = .finished ∧ t.log = [.setIsFinalBuf err, .allocate .success] := by
  simp only [step, Option.ite_none_right_eq_some, Option.some.injEq] at taken
  obtain ⟨before, rfl⟩ := taken
  simp [Offload.setIsFinalBuf, failed, fail, record, h.of_configuring before]

/-- **Every allocated task is freed exactly once**, by the path on which its submission
fails or by its completion callback, and nothing is done to it afterwards: this holds
along a run if and only if `doca_sha_task_partial_hash_set_is_final_buf`, where it is
called, succeeds. -/
theorem task_freed_exactly_once (cfg : Config) (op : Operation) (events : List Event)
    (s : Offload) (run : Run (step cfg op) Always {} events s) :
    s.FreedOnce ↔ ∀ err, .setIsFinalBuf err ∈ events → err = .success := by
  constructor
  -- A failed marking ends the offload with the task allocated and never freed
  · intro freed err called
    by_contra failed
    obtain ⟨before, after, state, next, reach, taken, later⟩ := run.exists_taken called
    obtain ⟨done, log⟩ := leaked_of_setIsFinalBuf (Custody.of_run reach) failed taken
    have final : s.phase = .finished ∧ s.log = next.log :=
      later.invariant (fun s => s.phase = .finished ∧ s.log = next.log)
        (fun _ _ _ h _ taken => (finished_step h.1 taken).imp_right (·.trans h.2)) ⟨done, rfl⟩
    have once := freed.finished final.1 (by simp [final.2, log])
    simp [final.2, log] at once
  -- Without a failed marking in the events there is none in the log
  · intro marked
    have restricted := run.restrict
      (P := fun event => ∀ err, event = .setIsFinalBuf err → err = .success)
      fun event mem err same => marked err (by rwa [← same])
    refine freedOnce_of_custody (Custody.of_run run) ?_
    exact restricted.invariant
      (fun s => ∀ err, .setIsFinalBuf err ∈ s.log → err = .success)
      (fun _ _ _ h allowed taken => marked_step allowed h taken) (by simp)

/-- A final segment that is submitted at the second attempt and completes. -/
def hashedFinal : List Event :=
  [.allocate .success, .setIsFinalBuf .success, .submit .again, .submit .success,
    .complete ⟨.success, [], 0⟩]

theorem task_freed_exactly_once_hashedFinal :
    ∃ s, Run (step {} (.partialHash true)) Always {} hashedFinal s ∧ s.FreedOnce ∧
      s.log.count .free = 1 := by
  refine ⟨_, ⟨rfl, meets_always _ _⟩, ?_, by decide⟩
  refine (task_freed_exactly_once {} (.partialHash true) hashedFinal _
    ⟨rfl, meets_always _ _⟩).mpr fun err called => ?_
  simpa [hashedFinal] using called

/-- A final segment whose marking fails: the task was allocated and is never freed. -/
theorem partialHash_leaks_task :
    ¬ ∀ (cfg : Config) (op : Operation) (events : List Event) (s : Offload),
      Run (step cfg op) Always {} events s → s.FreedOnce := by
  intro freedOnce
  have freed := freedOnce {} (.partialHash true) [.allocate .success, .setIsFinalBuf .badState] _
    ⟨rfl, meets_always _ _⟩
  have once := freed.finished rfl (by decide)
  contradiction

end Offload

end Shoc.Engine

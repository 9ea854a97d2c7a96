/-
# How often a task is submitted

`submit_task` tries at once and counts its attempts upwards, `delayed_resubmission`
tries after every wait and counts those that are left downwards, both in 32 bits. What
may still come is bounded by the two counters, unless one of them wraps around: the
first loop does not end if it may try as often as its counter can count, and the
second one, which looks at its counter only after it has decremented it, takes no
attempts for all of them.
-/

import Mathlib.Algebra.Group.Nat.Defs
import Shoc.Engine.Wakeup

namespace Shoc.Engine

open Coro Transition

/-- The result of a call of `doca_task_submit`. -/
def Call.submission : Call → Option DocaError
  | .submit err => some err
  | _ => none

/-- The calls of `doca_task_submit` that the configuration allows. -/
def Config.effort (cfg : Config) : ℕ :=
  1 + cfg.immediateSubmissionAttempts.toNat + cfg.resubmissionAttempts.toNat

/-- Neither counter wraps around. -/
structure Config.Sane (cfg : Config) : Prop where
  immediate : cfg.immediateSubmissionAttempts.toNat < 2 ^ 32 - 1
  delayed : 0 < cfg.resubmissionAttempts.toNat

namespace Offload

variable {cfg : Config} {op : Operation} {s t : Offload} {event : Event} {events : List Event}

/-- The results of `doca_task_submit`, latest first. -/
def submissions (s : Offload) : List DocaError := s.log.filterMap Call.submission

/-- The calls of `doca_task_submit` that may still come. -/
def remaining (cfg : Config) : Phase → ℕ
  | .requested | .configuring => cfg.effort
  | .submitting attempts =>
      1 + cfg.immediateSubmissionAttempts.toNat - attempts.toNat + cfg.resubmissionAttempts.toNat
  | .resubmitting attempts => attempts.toNat
  | .inFlight | .finished => 0

/-- The counter of the loop that runs is in the range of its loop. -/
def Counts (cfg : Config) : Phase → Prop
  | .submitting attempts => attempts.toNat ≤ cfg.immediateSubmissionAttempts.toNat
  | .resubmitting attempts => 0 < attempts.toNat
  | _ => True

/-- The last calls of an offload that is over: no task was submitted, the last submission
failed, or the task was completed. -/
inductive Ended : List Call → Prop
  | unsubmitted {calls : List Call} (none : calls.filterMap Call.submission = []) : Ended calls
  | failed {err : DocaError} {calls : List Call} (failed : err ≠ .success) :
      Ended (.free :: .submit err :: calls)
  | completed {completion : Completion} {calls : List Call} :
      Ended (.free :: .completed completion :: .submit .success :: calls)

/-- What holds of the submissions on every run. -/
structure Effort (cfg : Config) (s : Offload) : Prop where
  bounded : s.submissions.length + remaining cfg s.phase ≤ cfg.effort
  counts : Counts cfg s.phase
  earlier : ∀ err ∈ s.submissions.tail, err = .again
  tries : s.phase.Submits → ∀ err ∈ s.submissions, err = .again
  unsubmitted : s.phase = .requested ∨ s.phase = .configuring → s.submissions = []
  inFlight : s.phase = .inFlight → s.log.head? = some (.submit .success)
  finished : s.phase = .finished → Ended s.log

/-! ## One step -/

/-- A step that neither submits nor changes the phase. -/
theorem Effort.of_same (h : s.Effort cfg) (phase : t.phase = s.phase) (log : t.log = s.log) :
    t.Effort cfg := by
  have same : t.submissions = s.submissions := by rw [submissions, log, submissions]
  constructor
  · rw [same, phase]
    exact h.bounded
  · rw [phase]
    exact h.counts
  · rw [same]
    exact h.earlier
  · rw [phase, same]
    exact h.tries
  · rw [phase, same]
    exact h.unsubmitted
  · rw [phase, log]
    exact h.inFlight
  · rw [phase, log]
    exact h.finished

/-- A step before the first submission. -/
theorem Effort.of_unsubmitted (none : t.submissions = [])
    (now : t.phase = .submitting 0 ∨ t.phase = .configuring ∨ t.phase = .finished) :
    t.Effort cfg := by
  constructor
  · obtain now | now | now := now <;> simp [none, now, remaining, Config.effort]
  · obtain now | now | now := now <;> simp [now, Counts]
  · simp [none]
  · simp [none]
  · exact fun _ => none
  · obtain now | now | now := now <;> simp [now]
  · exact fun _ => .unsubmitted none

theorem Effort.createTaskObject (none : s.submissions = []) (err : DocaError) :
    Effort cfg (s.createTaskObject op err) := by
  unfold Offload.createTaskObject
  simp only
  split
  · exact .of_unsubmitted none (.inr (.inr rfl))
  · split
    · exact .of_unsubmitted none (.inl rfl)
    · exact .of_unsubmitted none (.inl rfl)
    · exact .of_unsubmitted none (.inl rfl)
    · exact .of_unsubmitted none (.inr (.inl rfl))

theorem Effort.setIsFinalBuf (none : s.submissions = []) (err : DocaError) :
    Effort cfg (s.setIsFinalBuf op err) := by
  unfold Offload.setIsFinalBuf
  simp only
  split
  · exact .of_unsubmitted none (.inr (.inr rfl))
  · exact .of_unsubmitted none (.inl rfl)

theorem Effort.remaining_pos (h : s.Effort cfg) (before : s.phase.Submits) :
    0 < remaining cfg s.phase := by
  have counts := h.counts
  cases phase : s.phase with
  | submitting attempts =>
    rw [phase] at counts
    simp only [Counts] at counts
    simp only [remaining]
    omega
  | resubmitting attempts =>
    rw [phase] at counts
    exact counts
  | _ =>
    rw [phase] at before
    contradiction

/-- The submission is tried again. -/
theorem Effort.again {phase : Phase} (h : s.Effort cfg) (before : s.phase.Submits)
    (now : phase.Submits) (counts : Counts cfg phase)
    (less : remaining cfg phase < remaining cfg s.phase) :
    Effort cfg { s.record (.submit .again) with phase } := by
  have added : ({ s.record (.submit .again) with phase } : Offload).submissions =
      .again :: s.submissions := rfl
  have bounded := h.bounded
  have waits : phase ≠ .requested ∧ phase ≠ .configuring ∧ phase ≠ .inFlight ∧
      phase ≠ .finished := by
    cases phase <;> simp_all [Phase.Submits]
  constructor
  · rw [added, List.length_cons]
    simp only
    omega
  · exact counts
  · rw [added]
    exact h.tries before
  · intro _
    rw [added]
    exact List.forall_mem_cons.mpr ⟨rfl, h.tries before⟩
  · exact fun early => (early.elim waits.1 waits.2.1).elim
  · exact fun done => (waits.2.2.1 done).elim
  · exact fun done => (waits.2.2.2 done).elim

/-- The submission succeeds. -/
theorem Effort.submitted (h : s.Effort cfg) (before : s.phase.Submits) :
    Effort cfg { s.record (.submit .success) with phase := .inFlight } := by
  have bounded := h.bounded
  have more := h.remaining_pos before
  constructor
  · change (DocaError.success :: s.submissions).length + 0 ≤ _
    rw [List.length_cons]
    omega
  · trivial
  · exact h.tries before
  · exact fun submits => submits.elim
  · exact fun early => by simp at early
  · exact fun _ => rfl
  · exact fun done => by simp at done

/-- The submission fails. -/
theorem Effort.rejected {err : DocaError} (h : s.Effort cfg) (before : s.phase.Submits)
    (failed : err ≠ .success) :
    Effort cfg (((s.record (.submit err)).record .free).fail op err) := by
  have bounded := h.bounded
  have more := h.remaining_pos before
  constructor
  · change (err :: s.submissions).length + 0 ≤ _
    rw [List.length_cons]
    omega
  · trivial
  · exact h.tries before
  · exact fun submits => submits.elim
  · exact fun early => by simp [fail] at early
  · exact fun flies => by simp [fail] at flies
  · exact fun _ => .failed failed

theorem Effort.submitTask {attempts : UInt32} (h : s.Effort cfg) (sane : cfg.Sane)
    (before : s.phase = .submitting attempts) (err : DocaError) :
    Effort cfg (s.submitTask cfg op attempts err) := by
  have loops : s.phase.Submits := before ▸ trivial
  have counts := h.counts
  have immediate := sane.immediate
  rw [before] at counts
  simp only [Counts] at counts
  -- The counter does not wrap around
  have next : (attempts + 1).toNat = attempts.toNat + 1 := by
    rw [UInt32.toNat_add]
    exact Nat.mod_eq_of_lt (by simp; omega)
  unfold Offload.submitTask
  by_cases again : err = .again
  · subst again
    simp only [true_and, if_true]
    split
    · rename_i more
      rw [UInt32.le_iff_toNat_le, next] at more
      refine h.again loops trivial ?_ ?_
      · rwa [Counts, next]
      · rw [before, remaining, remaining, next]
        omega
    · refine h.again loops trivial sane.delayed ?_
      rw [before, remaining, remaining]
      omega
  · simp only [again, false_and, if_false]
    by_cases failed : err = .success
    · subst failed
      exact h.submitted loops
    · simp only [ne_eq, failed, not_false_eq_true, if_true]
      exact h.rejected loops failed

theorem Effort.delayedResubmission {attempts : UInt32} (h : s.Effort cfg)
    (before : s.phase = .resubmitting attempts) (err : DocaError) (contextsEmpty : Bool) :
    Effort cfg (s.delayedResubmission op attempts err contextsEmpty) := by
  have loops : s.phase.Submits := before ▸ trivial
  have counts := h.counts
  rw [before] at counts
  simp only [Counts] at counts
  -- The loop was entered with an attempt left, so the counter does not wrap around
  have next : (attempts - 1).toNat = attempts.toNat - 1 :=
    UInt32.toNat_sub_of_le _ _ (UInt32.le_iff_toNat_le.mpr counts)
  unfold Offload.delayedResubmission
  cases more : retries attempts err contextsEmpty with
  | true =>
    simp only [retries, Bool.and_eq_true, decide_eq_true_eq] at more
    obtain ⟨⟨rfl, left⟩, -⟩ := more
    have positive : 0 < (attempts - 1).toNat := UInt32.lt_iff_toNat_lt.mp left
    refine h.again loops trivial positive ?_
    rw [before, remaining, remaining]
    omega
  | false =>
    simp only [Bool.false_eq_true, if_false]
    by_cases failed : err = .success
    · subst failed
      exact h.submitted loops
    · simp only [ne_eq, failed, not_false_eq_true, if_true]
      exact h.rejected loops failed

/-- The SDK has completed the task. -/
theorem Effort.complete (h : s.Effort cfg) (before : s.phase = .inFlight)
    (completion : Completion) : Effort cfg (s.complete op completion) := by
  obtain ⟨calls, log⟩ := List.head?_eq_some_iff.mp (h.inFlight before)
  have phase : (s.complete op completion).phase = .finished := phase_complete completion
  have log' : (s.complete op completion).log = .free :: .completed completion :: s.log :=
    log_complete completion
  have same : (s.complete op completion).submissions = s.submissions := by
    rw [submissions, log', submissions]
    rfl
  have bounded := h.bounded
  constructor
  · rw [same, phase, remaining]
    omega
  · rw [phase]
    trivial
  · rw [same]
    exact h.earlier
  · rw [phase]
    exact fun submits => submits.elim
  · simp [phase]
  · simp [phase]
  · rw [log', log]
    exact fun _ => .completed

theorem effort_step (sane : cfg.Sane) (h : s.Effort cfg) (taken : step cfg op s event = some t) :
    t.Effort cfg := by
  cases event with
  | allocate err =>
    simp only [step, Option.ite_none_right_eq_some, Option.some.injEq] at taken
    obtain ⟨before, rfl⟩ := taken
    exact .createTaskObject (h.unsubmitted (.inl before)) err
  | setIsFinalBuf err =>
    simp only [step, Option.ite_none_right_eq_some, Option.some.injEq] at taken
    obtain ⟨before, rfl⟩ := taken
    exact .setIsFinalBuf (h.unsubmitted (.inr before)) err
  | submit err =>
    simp only [step] at taken
    split at taken
    · rename_i attempts before
      obtain rfl := Option.some.inj taken
      exact h.submitTask sane before err
    · contradiction
  | resubmit err contextsEmpty =>
    simp only [step] at taken
    split at taken
    · rename_i attempts before
      obtain rfl := Option.some.inj taken
      exact h.delayedResubmission before err contextsEmpty
    · contradiction
  | complete completion =>
    simp only [step, Option.ite_none_right_eq_some, Option.some.injEq] at taken
    obtain ⟨before, rfl⟩ := taken
    exact h.complete before completion
  | runPosted =>
    simp only [step, Option.ite_none_right_eq_some, Option.some.injEq] at taken
    obtain ⟨-, rfl⟩ := taken
    exact h.of_same phase_resume log_resume
  | coAwait coro =>
    simp only [step, Option.ite_none_right_eq_some, Option.some.injEq] at taken
    obtain ⟨-, rfl⟩ := taken
    exact h.of_same phase_coAwait log_coAwait

theorem effort_of_run (sane : cfg.Sane) (run : Run (step cfg op) Always {} events s) :
    s.Effort cfg := by
  refine run.invariant (Effort cfg) (fun _ _ _ h _ taken => effort_step sane h taken) ?_
  constructor <;> simp [submissions, remaining, Counts, Phase.Submits]

/-! ## The end of the loops -/

/-- The next call of `doca_task_submit`, and what is found after it. -/
def nextCall (s : Offload) (answer : DocaError × Bool) : Event :=
  match s.phase with
  | .resubmitting _ => .resubmit answer.1 answer.2
  | _ => .submit answer.1

/-- While a loop runs the next call is made, whatever it is going to answer. -/
theorem nextCall_step (before : s.phase.Submits) (answer : DocaError × Bool) :
    ∃ t, step cfg op s (s.nextCall answer) = some t ∧
      t.submissions = answer.1 :: s.submissions := by
  cases phase : s.phase with
  | submitting attempts =>
    refine ⟨s.submitTask cfg op attempts answer.1, by simp [nextCall, step, phase], ?_⟩
    unfold submitTask
    simp only
    split
    · rfl
    · split
      · rfl
      · split <;> rfl
  | resubmitting attempts =>
    refine ⟨s.delayedResubmission op attempts answer.1 answer.2,
      by simp [nextCall, step, phase], ?_⟩
    unfold delayedResubmission
    simp only
    split
    · rfl
    · split <;> rfl
  | _ =>
    rw [phase] at before
    contradiction

/-- The calls that are answered in turn, up to the end of the loops. -/
inductive Answered (cfg : Config) (op : Operation) :
    (ℕ → DocaError × Bool) → Offload → ℕ → Offload → Prop
  | ended {answers : ℕ → DocaError × Bool} {s : Offload} (left : ¬ s.phase.Submits) :
      Answered cfg op answers s 0 s
  | call {answers : ℕ → DocaError × Bool} {s next t : Offload} {count : ℕ}
      (submits : s.phase.Submits)
      (taken : step cfg op s (s.nextCall (answers 0)) = some next)
      (later : Answered cfg op (fun i => answers (i + 1)) next count t) :
      Answered cfg op answers s (count + 1) t

/-- The loops end, whatever the answers are. -/
theorem exists_answered (sane : cfg.Sane) (h : s.Effort cfg) (answers : ℕ → DocaError × Bool) :
    ∃ count t, Answered cfg op answers s count t ∧ s.submissions.length + count ≤ cfg.effort := by
  -- Each call uses up one of those that are left
  induction left : cfg.effort - s.submissions.length generalizing s answers with
  | zero =>
    have bounded := h.bounded
    by_cases submits : s.phase.Submits
    · have more := h.remaining_pos submits
      omega
    · exact ⟨0, s, .ended submits, by omega⟩
  | succ left ih =>
    by_cases submits : s.phase.Submits
    · obtain ⟨next, taken, added⟩ : ∃ next, step cfg op s (s.nextCall (answers 0)) = some next ∧
          next.submissions = (answers 0).1 :: s.submissions := nextCall_step submits (answers 0)
      obtain ⟨count, t, later, bounded⟩ := ih (effort_step sane h taken) (fun i => answers (i + 1))
        (by rw [added, List.length_cons]; omega)
      rw [added, List.length_cons] at bounded
      exact ⟨count + 1, t, .call submits taken later, by omega⟩
    · exact ⟨0, s, .ended submits, by omega⟩

/-- What the receptable gets to know of a submission that is over. -/
theorem Effort.reported (h : s.Effort cfg) (consistent : s.Consistent op)
    (left : ¬ s.phase.Submits) {last : DocaError} (latest : s.submissions.head? = some last) :
    (last ≠ .success → s.phase = .finished ∧ s.receptable.value = op.reported last) ∧
    (last = .success → s.phase = .inFlight ∧ s.receptable.hasValue = false ∨
      ∃ completion, .completed completion ∈ s.log ∧
        s.receptable.value = .ok (op.payload completion)) := by
  have made : s.submissions ≠ [] := by
    intro none
    simp [none] at latest
  cases phase : s.phase with
  | requested => exact (made (h.unsubmitted (.inl phase))).elim
  | configuring => exact (made (h.unsubmitted (.inr phase))).elim
  | submitting | resubmitting =>
    rw [phase] at left
    exact (left trivial).elim
  | inFlight =>
    have success := h.inFlight phase
    obtain ⟨calls, log⟩ := List.head?_eq_some_iff.mp success
    have empty := (consistent.alive (by simp [phase])).1
    obtain rfl : DocaError.success = last := by
      simpa [submissions, log, Call.submission] using latest
    simp [Receptable.hasValue, empty]
  | finished =>
    have value := (consistent.finished phase).2
    have ended := h.finished phase
    unfold outcome at value
    generalize log : s.log = calls at ended value
    cases ended with
    | unsubmitted none =>
      rw [← log] at none
      exact (made none).elim
    | @failed err _ failed =>
      obtain rfl : err = last := by
        simpa [submissions, log, Call.submission, List.findSome?_cons] using latest
      refine ⟨fun _ => ⟨rfl, ?_⟩, fun success => (failed success).elim⟩
      simpa [Operation.outcome, List.findSome?_cons] using value.symm
    | @completed completion calls =>
      obtain rfl : DocaError.success = last := by
        simpa [submissions, log, Call.submission, List.findSome?_cons] using latest
      refine ⟨fun failed => (failed rfl).elim, fun _ => .inr ⟨completion, by simp, ?_⟩⟩
      simpa [Operation.outcome, List.findSome?_cons] using value.symm

/-- What the configuration promises of the submissions of a task. -/
structure Bounded (cfg : Config) (op : Operation) (s : Offload) : Prop where
  /-- There are no more calls of `doca_task_submit` than the configuration allows. -/
  few : s.submissions.length ≤ cfg.effort
  /-- There is no call after an answer other than `DOCA_ERROR_AGAIN`. -/
  earlier : ∀ err ∈ s.submissions.tail, err = .again
  /-- The loops end, whatever the calls answer and whatever becomes of the contexts. -/
  ends : ∀ answers : ℕ → DocaError × Bool, ∃ count t, Answered cfg op answers s count t ∧
    s.submissions.length + count ≤ cfg.effort
  /-- Then the receptable was told the last answer, if no call has succeeded, and nothing
  otherwise, until the task is completed. -/
  reported : ∀ last, ¬ s.phase.Submits → s.submissions.head? = some last →
    (last ≠ .success → s.phase = .finished ∧ s.receptable.value = op.reported last) ∧
    (last = .success → s.phase = .inFlight ∧ s.receptable.hasValue = false ∨
      ∃ completion, .completed completion ∈ s.log ∧
        s.receptable.value = .ok (op.payload completion))

theorem Effort.meets_bounds (sane : cfg.Sane) (h : s.Effort cfg) (consistent : s.Consistent op) :
    s.Bounded cfg op where
  few := Nat.le_of_add_right_le h.bounded
  earlier := h.earlier
  ends := exists_answered sane h
  reported := fun _ left latest => h.reported consistent left latest

/-! ## Counters that wrap around -/

/-- What precedes the first submission, if all goes well. -/
def preparation (op : Operation) : List Event :=
  match op.allocation with
  | .partialHash true => [.allocate .success, .setIsFinalBuf .success]
  | _ => [.allocate .success]

theorem exists_prepared (cfg : Config) (op : Operation) :
    ∃ s, Run (step cfg op) Always {} (preparation op) s ∧ s.phase = .submitting 0 ∧
      s.submissions = [] := by
  obtain ⟨allocation, callback⟩ := op
  cases allocation with
  | withUserData => exact ⟨_, ⟨rfl, meets_always _ _⟩, rfl, rfl⟩
  | attachUserData => exact ⟨_, ⟨rfl, meets_always _ _⟩, rfl, rfl⟩
  | partialHash finalSegment =>
    cases finalSegment with
    | false => exact ⟨_, ⟨rfl, meets_always _ _⟩, rfl, rfl⟩
    | true => exact ⟨_, ⟨rfl, meets_always _ _⟩, rfl, rfl⟩

/-- As many immediate attempts as the configuration asks for can be in vain, and any number if
the counter cannot get beyond the bound. -/
theorem exists_inVain (cfg : Config) (op : Operation) (count : ℕ)
    (allowed : cfg.immediateSubmissionAttempts.toNat = 2 ^ 32 - 1 ∨
      count ≤ cfg.immediateSubmissionAttempts.toNat) :
    ∃ s attempts, Run (step cfg op) Always {}
        (preparation op ++ List.replicate count (.submit .again)) s ∧
      s.phase = .submitting attempts ∧ attempts.toNat = count % 2 ^ 32 ∧
      s.submissions.length = count := by
  induction count with
  | zero =>
    obtain ⟨s, run, phase, none⟩ := exists_prepared cfg op
    exact ⟨s, 0, by simpa using run, phase, rfl, by rw [none]; rfl⟩
  | succ count ih =>
    obtain ⟨s, attempts, run, phase, counter, made⟩ := ih (allowed.imp_right Nat.le_of_succ_le)
    have next : (attempts + 1).toNat = (count + 1) % 2 ^ 32 := by
      rw [UInt32.toNat_add, counter]
      exact Nat.mod_add_mod count (2 ^ 32) 1
    have below : attempts + 1 ≤ cfg.immediateSubmissionAttempts := by
      rw [UInt32.le_iff_toNat_le]
      obtain all | enough := allowed
      · have bound := (attempts + 1).toNat_lt
        omega
      · rw [next]
        exact Nat.le_trans (Nat.mod_le _ _) enough
    refine ⟨{ s.record (.submit .again) with phase := .submitting (attempts + 1) },
      attempts + 1, ?_, rfl, next, congrArg (· + 1) made⟩
    rw [List.replicate_succ', ← List.append_assoc]
    refine run.append (Run.cons_iff.mpr ⟨trivial, _, ?_, Run.nil _⟩)
    simp [step, phase, submitTask, below]

/-- If no attempts are left, the fiber makes one nevertheless. -/
theorem exists_beyond (cfg : Config) (op : Operation)
    (immediate : cfg.immediateSubmissionAttempts.toNat < 2 ^ 32 - 1) :
    ∃ events s, Run (step cfg op) Always {} events s ∧
      s.submissions.length = cfg.immediateSubmissionAttempts.toNat + 2 := by
  obtain ⟨s, attempts, run, phase, counter, made⟩ := exists_inVain cfg op _ (.inr (Nat.le_refl _))
  rw [Nat.mod_eq_of_lt (by omega)] at counter
  have exceeded : ¬ attempts + 1 ≤ cfg.immediateSubmissionAttempts := by
    rw [UInt32.le_iff_toNat_le, UInt32.toNat_add, counter, Nat.mod_eq_of_lt (by simp; omega)]
    simp
  -- The last immediate attempt hands the task to the fiber
  let waiting : Offload :=
    { s.record (.submit .again) with phase := .resubmitting cfg.resubmissionAttempts }
  have handed : step cfg op s (.submit .again) = some waiting := by
    simp [step, phase, submitTask, exceeded, waiting]
  have submits : waiting.phase.Submits := trivial
  obtain ⟨t, taken, added⟩ : ∃ t,
      step cfg op waiting (waiting.nextCall (.again, false)) = some t ∧
        t.submissions = .again :: waiting.submissions := nextCall_step submits _
  refine ⟨_, t, run.append (Run.cons_iff.mpr ⟨trivial, _, handed,
    Run.cons_iff.mpr ⟨trivial, t, taken, Run.nil t⟩⟩), ?_⟩
  rw [added, List.length_cons, ← made]
  rfl

/-- **The effort of a submission is bounded by the configuration exactly if no counter wraps
around**: with as many immediate attempts as the counter can count the first loop need not end,
and without any attempts after a wait there can be one too many. -/
theorem submission_effort_bounded (cfg : Config) (op : Operation) :
    (∀ events s, Run (step cfg op) Always {} events s → s.Bounded cfg op) ↔ cfg.Sane := by
  constructor
  · intro bounded
    have immediate : cfg.immediateSubmissionAttempts.toNat < 2 ^ 32 - 1 := by
      by_contra all
      have bound := cfg.immediateSubmissionAttempts.toNat_lt
      obtain ⟨s, -, run, -, -, made⟩ :=
        exists_inVain cfg op (cfg.effort + 1) (.inl (by omega))
      have few := (bounded _ s run).few
      omega
    refine ⟨immediate, ?_⟩
    by_contra none
    obtain ⟨events, s, run, made⟩ := exists_beyond cfg op immediate
    have few := (bounded events s run).few
    unfold Config.effort at few
    omega
  · intro sane events s run
    exact (effort_of_run sane run).meets_bounds sane (.of_run run)

/-- Two attempts at once and two after a wait, all of them in vain. -/
def inVain : List Event :=
  [.allocate .success, .submit .again, .submit .again, .coAwait 7, .resubmit .again false,
    .resubmit .again false]

theorem submission_effort_bounded_inVain :
    ∃ s, Run (step ⟨1, 2⟩ (.plainStatusOffload .withUserData)) Always {} inVain s ∧
      s.submissions.length = 4 ∧ s.receptable.value = .ok (.status .again) := by
  refine ⟨_, ⟨rfl, meets_always _ _⟩, rfl, ?_⟩
  have bounded := (submission_effort_bounded ⟨1, 2⟩ (.plainStatusOffload .withUserData)).mpr
    ⟨by decide, by decide⟩ inVain _ ⟨rfl, meets_always _ _⟩
  exact ((bounded.reported .again (fun submits => submits) rfl).1 (by simp)).2

/-- With as many immediate attempts as the counter can count, the first loop goes on for ever;
without any attempts after a wait, the second one makes more than it may. -/
theorem counters_wrap_around :
    (∀ n, ∃ s, Run (step ⟨0xffffffff, 64⟩ (.plainStatusOffload .withUserData)) Always {}
        (.allocate .success :: List.replicate n (.submit .again)) s ∧
      s.phase.Submits ∧ s.submissions.length = n) ∧
    ∃ s, Run (step ⟨0, 0⟩ (.plainStatusOffload .withUserData)) Always {}
        [.allocate .success, .submit .again, .resubmit .again false, .resubmit .again false] s ∧
      s.phase = .resubmitting 0xfffffffe ∧ s.submissions.length = 3 ∧
      (Config.mk 0 0).effort = 1 := by
  constructor
  · intro n
    obtain ⟨s, attempts, run, phase, -, made⟩ :=
      exists_inVain ⟨0xffffffff, 64⟩ (.plainStatusOffload .withUserData) n (.inl rfl)
    exact ⟨s, run, by rw [phase]; trivial, made⟩
  · exact ⟨_, ⟨rfl, meets_always _ _⟩, rfl, rfl, rfl⟩

end Offload

end Shoc.Engine

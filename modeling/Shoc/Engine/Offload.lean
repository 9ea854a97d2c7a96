/-
# Offloading one task

The life of one task object from the call that allocates it to the last thing
the library does with it, together with the receptable attached to it and the
coroutines that await it. The results of the SDK calls, the timer of the
resubmission fiber, the completion callback and the `co_await`s arrive as
events in any order the phase of the task allows.

The offload call itself (`status_offload`, `consumer::post_recv`) runs without
interruption: its awaitable can be awaited only after it has returned, that is
once the task is in the hands of the resubmission fiber, in flight or finished.
-/

import Shoc.Coro.Receptable

namespace Shoc.Engine

open Coro

/-- The part of `progress_engine_config` that governs submission. -/
structure Config where
  immediateSubmissionAttempts : UInt32 := 64
  resubmissionAttempts : UInt32 := 64
  deriving DecidableEq, Repr

/-- `consumer_recv_result`. -/
structure ConsumerRecvResult where
  immediate : List UInt8
  producerId : UInt32
  status : DocaError
  deriving DecidableEq, Repr

/-- What an offload awaitable yields: a status code, or what a consumer received. -/
inductive Payload
  | status (err : DocaError)
  | received (result : ConsumerRecvResult)
  deriving DecidableEq, Repr

/-- How the task object of an operation is obtained: `AllocInit` takes the user
data, or the user data is attached in a second step, or the allocation is the
lambda of `sha_context::partial_hash`, which marks a final segment after the
task exists. -/
inductive Allocation
  | withUserData
  | attachUserData
  | partialHash (finalSegment : Bool)
  deriving DecidableEq, Repr

/-- The completion callbacks of the library: `plain_status_callback`,
`compress_context::task_completion_callback`,
`rdma_context::receive_completion_callback` and
`consumer::post_recv_task_completion_callback`. -/
inductive Callback
  | plainStatus (deferred : Bool)
  | compress
  | rdmaReceive
  | postRecv
  deriving DecidableEq, Repr

/-- An offload operation: how its task is allocated and which callback completes it. -/
structure Operation where
  allocation : Allocation
  callback : Callback
  deriving DecidableEq, Repr

/-- What the SDK reports when a task completes. -/
structure Completion where
  status : DocaError
  immediate : List UInt8 := []
  producerId : UInt32 := 0
  deriving DecidableEq, Repr

/-- The calls made on the task object, with the results of those that have one. -/
inductive Call
  | allocate (err : DocaError)
  | setIsFinalBuf (err : DocaError)
  | setUserData
  | submit (err : DocaError)
  | completed (completion : Completion)
  | free
  deriving DecidableEq, Repr

/-- Where the task is: not yet requested, allocated and being configured, in the
loop of `submit_task` or of `delayed_resubmission` with the value of the loop's
counter, submitted, or done with. -/
inductive Phase
  | requested
  | configuring
  | submitting (attempts : UInt32)
  | resubmitting (attempts : UInt32)
  | inFlight
  | finished
  deriving DecidableEq, Repr

/-- In one of the two submission loops. -/
def Phase.Submits : Phase → Prop
  | .submitting _ | .resubmitting _ => True
  | _ => False

/-- The state of one offload. `posted` says that a deferred resume waits in the
executor; `resumed`, `observed`, `refused` and `log` record what happened, latest
first. -/
structure Offload where
  phase : Phase := .requested
  receptable : Receptable Payload := {}
  posted : Bool := false
  resumed : List Coro := []
  observed : List (Coro × Except DocaError Payload) := []
  refused : List Coro := []
  log : List Call := []

/-- What can happen next: an SDK call returns, the resubmission timer fires and
the task is submitted again (with `contextsEmpty` the value of
`connected_contexts_.empty()` after that call), the SDK completes the task, the
executor runs the posted resume, a coroutine awaits the awaitable. -/
inductive Event
  | allocate (err : DocaError)
  | setIsFinalBuf (err : DocaError)
  | submit (err : DocaError)
  | resubmit (err : DocaError) (contextsEmpty : Bool)
  | complete (completion : Completion)
  | runPosted
  | coAwait (coro : Coro)
  deriving DecidableEq, Repr

namespace Operation

/-- `plain_status_offload` completed by the plain callback, which most operations are. -/
def plainStatusOffload (allocation : Allocation) : Operation := ⟨allocation, .plainStatus false⟩

/-- `eth_txq::send`, the one operation whose callback defers the resume. -/
def ethTxqSend (allocation : Allocation) : Operation := ⟨allocation, .plainStatus true⟩

/-- `sha_context::partial_hash`. -/
def partialHash (finalSegment : Bool) : Operation := plainStatusOffload (.partialHash finalSegment)

/-- `consumer::post_recv`. -/
def postRecv : Operation := ⟨.attachUserData, .postRecv⟩

/-- `set_error` of the operation's receptable: a `status_receptable` stores the code
as its value, the plain `value_receptable` of `post_recv` turns it into an exception. -/
def setError (op : Operation) (err : DocaError) (r : Receptable Payload) : Receptable Payload :=
  match op.callback with
  | .postRecv => r.setError err
  | _ => r.setValue (.status err)

/-- The value the completion callback stores. -/
def payload (op : Operation) (completion : Completion) : Payload :=
  match op.callback with
  | .postRecv => .received ⟨completion.immediate, completion.producerId, completion.status⟩
  | _ => .status completion.status

/-- How an error reaches the coroutine: as a status, or as an exception. -/
def reported (op : Operation) (err : DocaError) : Except DocaError Payload :=
  match op.callback with
  | .postRecv => .error err
  | _ => .ok (.status err)

/-- What a coroutine obtains when the given call turns out to be the last one that
produced a result. -/
def outcome (op : Operation) : Call → Option (Except DocaError Payload)
  | .allocate err | .setIsFinalBuf err | .submit err => some (op.reported err)
  | .completed completion => some (.ok (op.payload completion))
  | .setUserData | .free => none

@[simp] theorem value_setError (op : Operation) (err : DocaError) (r : Receptable Payload) :
    (op.setError err r).value = op.reported err := by
  unfold setError reported
  cases op.callback <;> rfl

@[simp] theorem waiter_setError (op : Operation) (err : DocaError) (r : Receptable Payload) :
    (op.setError err r).waiter = r.waiter := by
  unfold setError
  cases op.callback <;> rfl

theorem stored_setError_ne (op : Operation) (err : DocaError) (r : Receptable Payload) :
    (op.setError err r).stored ≠ .monostate := by
  unfold setError
  cases op.callback <;> simp

end Operation

namespace Offload

variable {cfg : Config} {op : Operation} {s t : Offload} {event : Event}

def record (call : Call) (s : Offload) : Offload := { s with log := call :: s.log }

/-- Report an error to the receptable. Nothing is resumed. -/
def fail (op : Operation) (err : DocaError) (s : Offload) : Offload :=
  { s with receptable := op.setError err s.receptable, phase := .finished }

/-- `create_task_object` up to the return of `AllocInit`, and the error exit of
`status_offload`. For a final segment `partial_hash` has one more call to make. -/
def createTaskObject (op : Operation) (err : DocaError) (s : Offload) : Offload :=
  let s := s.record (.allocate err)
  if err ≠ .success then s.fail op err
  else match op.allocation with
    | .withUserData | .partialHash false => { s with phase := .submitting 0 }
    -- The user data is attached in a second call, which has no result
    | .attachUserData => { s.record .setUserData with phase := .submitting 0 }
    | .partialHash true => { s with phase := .configuring }

/-- The second step of the allocation lambda of `partial_hash`, whose result is
handed to `status_offload` as the result of the allocation. -/
def setIsFinalBuf (op : Operation) (err : DocaError) (s : Offload) : Offload :=
  let s := s.record (.setIsFinalBuf err)
  if err ≠ .success then s.fail op err else { s with phase := .submitting 0 }

/-- One iteration of the loop of `submit_task`, and the code after the loop once
it ends. -/
def submitTask (cfg : Config) (op : Operation) (attempts : UInt32) (err : DocaError)
    (s : Offload) : Offload :=
  let s := s.record (.submit err)
  -- The attempt counts before the loop condition looks at it
  let attempts := attempts + 1
  if err = .again ∧ attempts ≤ cfg.immediateSubmissionAttempts then
    { s with phase := .submitting attempts }
  -- All immediate attempts were in vain; the task goes to the fiber
  else if err = .again then { s with phase := .resubmitting cfg.resubmissionAttempts }
  else if err ≠ .success then (s.record .free).fail op err
  else { s with phase := .inFlight }

/-- Whether the loop of `delayed_resubmission` goes on after a submission. -/
def retries (attempts : UInt32) (err : DocaError) (contextsEmpty : Bool) : Bool :=
  err = .again && attempts - 1 > 0 && !contextsEmpty

/-- One iteration of the loop of `delayed_resubmission`, and the code after it. -/
def delayedResubmission (op : Operation) (attempts : UInt32) (err : DocaError)
    (contextsEmpty : Bool) (s : Offload) : Offload :=
  let s := s.record (.submit err)
  if retries attempts err contextsEmpty then { s with phase := .resubmitting (attempts - 1) }
  -- The fiber gives up. `set_error` stores the error and resumes nobody
  else if err ≠ .success then (s.record .free).fail op err
  else { s with phase := .inFlight }

/-- `value_receptable::resume`: the waiter, if there is one, runs and takes the value. -/
def resume (s : Offload) : Offload :=
  match s.receptable.resume with
  | none => s
  | some coro =>
      { s with
        resumed := coro :: s.resumed
        observed := (coro, s.receptable.value) :: s.observed }

/-- The part of the completion callback before the resume: the task is freed and its
result stored. -/
def storeResult (op : Operation) (completion : Completion) (s : Offload) : Offload :=
  { (s.record (.completed completion)).record .free with
    receptable := s.receptable.setValue (op.payload completion)
    phase := .finished }

/-- The completion callback: the waiter is resumed at once, or by a function posted to
the executor. -/
def complete (op : Operation) (completion : Completion) (s : Offload) : Offload :=
  match op.callback with
  -- Some operations must not be repeated from inside a callback, so the resume is posted
  | .plainStatus true => { s.storeResult op completion with posted := true }
  | _ => (s.storeResult op completion).resume

/-- `co_await`: `await_ready`, then `await_suspend` if there is no value yet. A second
waiter is refused by `set_waiter` and gets the exception instead of waiting. -/
def coAwait (coro : Coro) (s : Offload) : Offload :=
  if s.receptable.hasValue then
    { s with observed := (coro, s.receptable.value) :: s.observed }
  else match s.receptable.setWaiter coro with
    | .error _ => { s with refused := coro :: s.refused }
    | .ok receptable => { s with receptable := receptable }

/-- The offload call has handed its awaitable to the caller. -/
def returned (s : Offload) : Bool :=
  match s.phase with
  | .resubmitting _ | .inFlight | .finished => true
  | _ => false

/-- One step of an offload. An event that does not belong to the phase is not enabled;
in particular a task gets a completion only while it is in flight. -/
def step (cfg : Config) (op : Operation) (s : Offload) : Event → Option Offload
  | .allocate err => if s.phase = .requested then some (s.createTaskObject op err) else none
  | .setIsFinalBuf err => if s.phase = .configuring then some (s.setIsFinalBuf op err) else none
  | .submit err =>
      match s.phase with
      | .submitting attempts => some (s.submitTask cfg op attempts err)
      | _ => none
  | .resubmit err contextsEmpty =>
      match s.phase with
      | .resubmitting attempts => some (s.delayedResubmission op attempts err contextsEmpty)
      | _ => none
  | .complete completion => if s.phase = .inFlight then some (s.complete op completion) else none
  -- The posted function resumes whoever waits when the executor gets to it
  | .runPosted => if s.posted then some { s.resume with posted := false } else none
  | .coAwait coro => if s.returned then some (s.coAwait coro) else none

/-- A coroutine is registered with the receptable and has not been resumed. -/
def Suspended (s : Offload) (coro : Coro) : Prop :=
  s.receptable.waiter = some coro ∧ coro ∉ s.resumed

instance (s : Offload) (coro : Coro) : Decidable (s.Suspended coro) :=
  inferInstanceAs (Decidable (_ ∧ _))

/-- The result of the last call that produced one, as the awaiting coroutine should
see it. -/
def outcome (op : Operation) (s : Offload) : Option (Except DocaError Payload) :=
  s.log.findSome? op.outcome

@[simp] theorem phase_resume : s.resume.phase = s.phase := by
  unfold resume
  split <;> rfl

@[simp] theorem receptable_resume : s.resume.receptable = s.receptable := by
  unfold resume
  split <;> rfl

@[simp] theorem posted_resume : s.resume.posted = s.posted := by
  unfold resume
  split <;> rfl

@[simp] theorem log_resume : s.resume.log = s.log := by
  unfold resume
  split <;> rfl

/-- Resuming adds the registered coroutine, if there is one. -/
theorem resumed_resume : s.resume.resumed = s.receptable.waiter.toList ++ s.resumed := by
  unfold resume Receptable.resume
  cases s.receptable.waiter <;> rfl

theorem observed_resume : s.resume.observed =
    s.receptable.waiter.toList.map (fun coro => (coro, s.receptable.value)) ++ s.observed := by
  unfold resume Receptable.resume
  cases s.receptable.waiter <;> rfl

@[simp] theorem phase_coAwait {coro : Coro} : (s.coAwait coro).phase = s.phase := by
  unfold coAwait
  split
  · rfl
  · split <;> rfl

@[simp] theorem posted_coAwait {coro : Coro} : (s.coAwait coro).posted = s.posted := by
  unfold coAwait
  split
  · rfl
  · split <;> rfl

@[simp] theorem log_coAwait {coro : Coro} : (s.coAwait coro).log = s.log := by
  unfold coAwait
  split
  · rfl
  · split <;> rfl

theorem phase_complete (completion : Completion) :
    (s.complete op completion).phase = .finished := by
  unfold complete
  split <;> simp [storeResult]

theorem log_complete (completion : Completion) :
    (s.complete op completion).log = .free :: .completed completion :: s.log := by
  unfold complete
  split <;> simp [storeResult, record]

/-! ## What one step can do -/

/-- Everything one step can do, with the phase it starts from. -/
inductive Taken (op : Operation) (s : Offload) : Event → Offload → Prop
  | allocateFailed {err : DocaError} (before : s.phase = .requested) (failed : err ≠ .success) :
      Taken op s (.allocate err) ((s.record (.allocate err)).fail op err)
  | allocated {calls : List Call} (before : s.phase = .requested)
      (made : calls = [.allocate .success] ∨ calls = [.setUserData, .allocate .success]) :
      Taken op s (.allocate .success) { s with log := calls ++ s.log, phase := .submitting 0 }
  | allocatedFinal (before : s.phase = .requested) :
      Taken op s (.allocate .success) { s.record (.allocate .success) with phase := .configuring }
  | configureFailed {err : DocaError} (before : s.phase = .configuring) (failed : err ≠ .success) :
      Taken op s (.setIsFinalBuf err) ((s.record (.setIsFinalBuf err)).fail op err)
  | configured (before : s.phase = .configuring) :
      Taken op s (.setIsFinalBuf .success)
        { s.record (.setIsFinalBuf .success) with phase := .submitting 0 }
  | rejected {event : Event} {err : DocaError} (before : s.phase.Submits) (failed : err ≠ .success)
      (silent : s.returned = false ∨ ∃ attempts contextsEmpty, s.phase = .resubmitting attempts ∧
        event = .resubmit err contextsEmpty ∧ retries attempts err contextsEmpty = false) :
      Taken op s event (((s.record (.submit err)).record .free).fail op err)
  | retried {event : Event} {phase : Phase} (before : s.phase.Submits) (now : phase.Submits)
      (held : s.returned = true → ({ s with phase } : Offload).returned = true) :
      Taken op s event { s.record (.submit .again) with phase }
  | submitted {event : Event} (before : s.phase.Submits) :
      Taken op s event { s.record (.submit .success) with phase := .inFlight }
  | completed {completion : Completion} (before : s.phase = .inFlight) :
      Taken op s (.complete completion) (s.complete op completion)
  | ranPosted (before : s.posted = true) : Taken op s .runPosted { s.resume with posted := false }
  | awaited {coro : Coro} (before : s.returned = true) : Taken op s (.coAwait coro) (s.coAwait coro)

theorem createTaskObject_taken (err : DocaError) (before : s.phase = .requested) :
    Taken op s (.allocate err) (s.createTaskObject op err) := by
  unfold createTaskObject
  by_cases failed : err = .success
  · subst failed
    simp only [ne_eq, not_true_eq_false, if_false]
    cases op.allocation with
    | withUserData => exact .allocated before (.inl rfl)
    | attachUserData => exact .allocated before (.inr rfl)
    -- Only a final segment has another call to make
    | partialHash finalSegment =>
      cases finalSegment
      · exact .allocated before (.inl rfl)
      · exact .allocatedFinal before
  · simp only [ne_eq, failed, not_false_eq_true, if_true]
    exact .allocateFailed before failed

theorem submitTask_taken {attempts : UInt32} (err : DocaError)
    (before : s.phase = .submitting attempts) :
    Taken op s (.submit err) (s.submitTask cfg op attempts err) := by
  have loops : s.phase.Submits := before ▸ trivial
  have inside : s.returned = false := by simp [returned, before]
  have held : ∀ {P : Prop}, s.returned = true → P := fun out => by simp [inside] at out
  -- Inside the offload call nobody can have awaited yet, so a failure goes unheard
  unfold submitTask
  by_cases again : err = .again
  · subst again
    simp only [true_and, if_true]
    split
    · exact .retried loops trivial held
    · exact .retried loops trivial held
  · simp only [again, false_and, if_false]
    by_cases failed : err = .success
    · subst failed
      exact .submitted loops
    · simp only [ne_eq, failed, not_false_eq_true, if_true]
      exact .rejected loops failed (.inl inside)

theorem delayedResubmission_taken {attempts : UInt32} (err : DocaError) (contextsEmpty : Bool)
    (before : s.phase = .resubmitting attempts) :
    Taken op s (.resubmit err contextsEmpty)
      (s.delayedResubmission op attempts err contextsEmpty) := by
  have loops : s.phase.Submits := before ▸ trivial
  unfold delayedResubmission
  -- The loop goes on only after `DOCA_ERROR_AGAIN`
  cases again : retries attempts err contextsEmpty with
  | true =>
    obtain rfl : err = .again := by
      simp only [retries, Bool.and_eq_true, decide_eq_true_eq] at again
      exact again.1.1
    exact .retried loops trivial fun _ => rfl
  | false =>
    simp only [Bool.false_eq_true, if_false]
    by_cases failed : err = .success
    · subst failed
      exact .submitted loops
    · simp only [ne_eq, failed, not_false_eq_true, if_true]
      exact .rejected loops failed (.inr ⟨attempts, contextsEmpty, before, rfl, again⟩)

/-- The step inversion lemma: every enabled step is one of the cases of `Taken`. -/
theorem step_taken (taken : step cfg op s event = some t) : Taken op s event t := by
  cases event with
  | allocate err =>
    simp only [step, Option.ite_none_right_eq_some, Option.some.injEq] at taken
    obtain ⟨before, rfl⟩ := taken
    exact createTaskObject_taken err before
  | setIsFinalBuf err =>
    simp only [step, Option.ite_none_right_eq_some, Option.some.injEq] at taken
    obtain ⟨before, rfl⟩ := taken
    by_cases failed : err = .success
    · subst failed
      exact .configured before
    · simpa [Offload.setIsFinalBuf, failed] using Taken.configureFailed before failed
  | submit err =>
    simp only [step] at taken
    split at taken
    · rename_i attempts before
      obtain rfl := Option.some.inj taken
      exact submitTask_taken err before
    · contradiction
  | resubmit err contextsEmpty =>
    simp only [step] at taken
    split at taken
    · rename_i attempts before
      obtain rfl := Option.some.inj taken
      exact delayedResubmission_taken err contextsEmpty before
    · contradiction
  | complete completion =>
    simp only [step, Option.ite_none_right_eq_some, Option.some.injEq] at taken
    obtain ⟨before, rfl⟩ := taken
    exact .completed before
  | runPosted =>
    simp only [step, Option.ite_none_right_eq_some, Option.some.injEq] at taken
    obtain ⟨before, rfl⟩ := taken
    exact .ranPosted before
  | coAwait coro =>
    simp only [step, Option.ite_none_right_eq_some, Option.some.injEq] at taken
    obtain ⟨before, rfl⟩ := taken
    exact .awaited before

end Offload

end Shoc.Engine

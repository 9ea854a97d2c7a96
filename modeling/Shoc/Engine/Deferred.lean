/-
# The deferred completion callback

With `deferred = true`, as for `eth_txq::send`, the completion callback stores the
status and posts the resume to the executor. The posted function holds a plain
pointer to the receptable, which the awaitable owns. Between the two steps other
fibers run: a coroutine that comes to its `co_await` then finds the status, goes
on and may let the awaitable go out of scope, and the receptable with it.

As long as the awaitable is not destroyed while the resume is posted, the resume
finds its receptable, and the run yields the observations of the callback that
resumes at once: a resume that is still posted is the only difference. A
coroutine that suspends before the completion, or comes after the posted resume
has run, cannot violate that condition.
-/

import Shoc.Engine.Wakeup

namespace Shoc.Engine

open Coro Transition

/-- An offload and the awaitable that owns its receptable. `dangling` records that the
posted function called `resume` on a receptable that had been freed. -/
structure OwnedOffload where
  offload : Offload := {}
  alive : Bool := true
  dangling : Bool := false

/-- Something happens to the offload, or a coroutine whose `co_await` has returned
destroys the awaitable. -/
inductive OwnedEvent
  | offload (event : Event)
  | destroy
  deriving DecidableEq, Repr

/-- What is left of an event for a callback that resumes at once. -/
def OwnedEvent.undeferred : OwnedEvent → Option Event
  | .destroy | .offload .runPosted => none
  | .offload event => some event

theorem OwnedEvent.undeferred_eq_none {event : Event} :
    (OwnedEvent.offload event).undeferred = none ↔ event = .runPosted := by
  cases event <;> simp [undeferred]

theorem OwnedEvent.undeferred_eq_some {event other : Event} :
    (OwnedEvent.offload event).undeferred = some other ↔ event ≠ .runPosted ∧ event = other := by
  cases event <;> simp [undeferred]

namespace OwnedOffload

variable {cfg : Config} {op : Operation} {allocation : Allocation} {s t : OwnedOffload}
  {event : OwnedEvent} {events : List OwnedEvent}

/-- One step. Only a living awaitable can be awaited or destroyed. -/
def step (cfg : Config) (op : Operation) (s : OwnedOffload) : OwnedEvent → Option OwnedOffload
  | .destroy =>
      if s.alive = true ∧ s.offload.observed ≠ [] then some { s with alive := false } else none
  | .offload .runPosted =>
      if s.alive then
        (s.offload.step cfg op .runPosted).map fun offload => { s with offload }
      -- The function was posted with a pointer to what is no longer there
      else if s.offload.posted then
        some { s with offload := { s.offload with posted := false }, dangling := true }
      else none
  | .offload (.coAwait coro) =>
      if s.alive then
        (s.offload.step cfg op (.coAwait coro)).map fun offload => { s with offload }
      else none
  | .offload event => (s.offload.step cfg op event).map fun offload => { s with offload }

/-- The awaitable is not destroyed while the resume is posted. -/
def OutlivesResume (s : OwnedOffload) : OwnedEvent → Prop
  | .destroy => s.offload.posted = false
  | .offload _ => True

/-- No coroutine comes to its `co_await` while the resume is posted. -/
def AwaitsInTime (s : OwnedOffload) : OwnedEvent → Prop
  | .offload (.coAwait _) => s.offload.posted = false
  | _ => True

instance (s : OwnedOffload) : ∀ event, Decidable (s.OutlivesResume event)
  | .destroy => inferInstanceAs (Decidable (_ = _))
  | .offload _ => inferInstanceAs (Decidable True)

/-- What the posted resume has yet to hand to the coroutine that waits for it. -/
def pending (s : Offload) : List (Coro × Except DocaError Payload) :=
  if s.posted then s.receptable.waiter.toList.map fun coro => (coro, s.receptable.value) else []

/-- How an offload looks when the resume is not deferred: only what has been posted, resumed
and observed may differ, and what the posted resume has yet to hand out has been observed. -/
structure Mirrors (s image : Offload) : Prop where
  same : image =
    { s with posted := false, resumed := image.resumed, observed := image.observed }
  observed : image.observed.Perm (pending s ++ s.observed)

/-- The posted resume finds its receptable: an awaitable that is gone leaves nothing to do. -/
structure Kept (op : Operation) (s : OwnedOffload) : Prop where
  consistent : s.offload.Consistent op
  sound : s.dangling = false
  gone : s.alive = false → s.offload.phase = .finished ∧ s.offload.posted = false

/-! ## The awaitable -/

theorem kept_init (op : Operation) : ({} : OwnedOffload).Kept op :=
  ⟨Offload.consistent_init op, rfl, fun gone => by simp at gone⟩

/-- What can happen next: a step of the offload while the awaitable lives, or its end. -/
theorem Kept.step_cases (h : s.Kept op) (taken : step cfg op s event = some t) :
    s.alive = true ∧
      ((event = .destroy ∧ s.offload.observed ≠ [] ∧ t = { s with alive := false }) ∨
        ∃ inner offload, event = .offload inner ∧ s.offload.step cfg op inner = some offload ∧
          t = { s with offload }) := by
  cases event with
  | destroy =>
    simp only [step, Option.ite_none_right_eq_some, Option.some.injEq] at taken
    obtain ⟨⟨alive, returned⟩, rfl⟩ := taken
    exact ⟨alive, .inl ⟨rfl, returned, rfl⟩⟩
  | offload inner =>
    by_cases alive : s.alive = true
    · refine ⟨alive, .inr ?_⟩
      have moved : (s.offload.step cfg op inner).map (fun offload => { s with offload }) =
          some t := by
        cases inner <;> simpa [step, alive] using taken
      obtain ⟨offload, stepped, rfl⟩ := Option.map_eq_some_iff.mp moved
      exact ⟨inner, offload, rfl, stepped, rfl⟩
    -- The offload is finished and nothing is posted, so no event is enabled
    · obtain ⟨done, unposted⟩ := h.gone (Bool.eq_false_iff.mpr alive)
      cases inner <;> simp [step, Offload.step, alive, done, unposted] at taken

theorem kept_step (h : s.Kept op) (allowed : s.OutlivesResume event)
    (taken : step cfg op s event = some t) : t.Kept op := by
  obtain ⟨alive, ⟨rfl, returned, rfl⟩ | ⟨inner, offload, rfl, moved, rfl⟩⟩ := h.step_cases taken
  -- A `co_await` has returned, so there is a result
  · refine ⟨h.consistent, h.sound, fun _ => ⟨?_, allowed⟩⟩
    by_contra unfinished
    exact returned (h.consistent.alive unfinished).2.2.1
  · refine ⟨Offload.consistent_step h.consistent moved, h.sound, fun gone => ?_⟩
    simp only [alive] at gone
    contradiction

/-! ## Coroutines that come in time -/

/-- While the resume is posted nobody has observed anything, unless a coroutine comes then. -/
theorem unobserved_step {s t : Offload} {event : Event} (consistent : s.Consistent op)
    (unobserved : s.posted = true → s.observed = [])
    (inTime : ∀ coro, event = .coAwait coro → s.posted = false)
    (taken : s.step cfg op event = some t) : t.posted = true → t.observed = [] := by
  cases Offload.step_taken taken with
  | allocateFailed | configureFailed | rejected => simpa [Offload.fail, Offload.record]
  | allocated | allocatedFinal | configured | retried | submitted => exact unobserved
  | @completed completion before =>
    have fresh := consistent.alive (by simp [before])
    unfold Offload.complete
    split
    · exact fun _ => fresh.2.2.1
    · simp [Offload.storeResult, Offload.record, fresh.2.2.2]
  | ranPosted before => exact fun posted => by simp at posted
  | awaited before =>
    intro posted
    rw [Offload.posted_coAwait, inTime _ rfl] at posted
    contradiction

/-- If every coroutine comes before the completion or after the posted resume, the
awaitable outlives the resume. -/
theorem outlivesResume_of_awaitsInTime
    (run : Run (step cfg op) AwaitsInTime {} events s) :
    Run (step cfg op) OutlivesResume {} events s := by
  refine run.strengthen
    (fun s => s.Kept op ∧ (s.offload.posted = true → s.offload.observed = [])) ?_
    ⟨kept_init op, fun _ => rfl⟩
  rintro s event t ⟨kept, unobserved⟩ inTime taken
  obtain ⟨-, ⟨rfl, returned, rfl⟩ | ⟨inner, offload, rfl, moved, rfl⟩⟩ := kept.step_cases taken
  · have unposted : s.offload.posted = false := by
      by_contra posted
      exact returned (unobserved (by simpa using posted))
    have allowed : s.OutlivesResume .destroy := unposted
    exact ⟨allowed, kept_step kept allowed taken, unobserved⟩
  · have allowed : s.OutlivesResume (.offload inner) := trivial
    refine ⟨allowed, kept_step kept allowed taken,
      unobserved_step kept.consistent unobserved ?_ moved⟩
    rintro coro rfl
    exact inTime

/-! ## The callback that resumes at once -/

/-- An event of the phases up to the submission. -/
def Submission : Event → Prop
  | .allocate _ | .setIsFinalBuf _ | .submit _ | .resubmit _ _ => True
  | .complete _ | .runPosted | .coAwait _ => False

/-- Up to the submission the two callbacks make no difference, and what has been posted,
resumed or observed plays no part. -/
theorem step_unposted {s : Offload} {event : Event} (submission : Submission event)
    (resumed : List Coro) (observed : List (Coro × Except DocaError Payload)) :
    ({ s with posted := false, resumed, observed } : Offload).step cfg
        (.plainStatusOffload allocation) event =
      (s.step cfg (.ethTxqSend allocation) event).map fun t =>
        { t with posted := false, resumed, observed } := by
  cases event with
  | complete | runPosted | coAwait => exact submission.elim
  | allocate err =>
    simp only [Offload.step, Offload.createTaskObject]
    split
    · split
      · rfl
      · cases allocation with
        | partialHash finalSegment => cases finalSegment <;> rfl
        | _ => rfl
    · rfl
  | setIsFinalBuf err =>
    simp only [Offload.step, Offload.setIsFinalBuf]
    split
    · split <;> rfl
    · rfl
  | submit err =>
    simp only [Offload.step, Offload.submitTask]
    split
    · split
      · rfl
      · split
        · rfl
        · split <;> rfl
    · rfl
  | resubmit err contextsEmpty =>
    simp only [Offload.step, Offload.delayedResubmission]
    split
    · split
      · rfl
      · split <;> rfl
    · rfl

/-- Up to the submission nothing is posted and nothing observed. -/
theorem submission_step {s t : Offload} {event : Event} (submission : Submission event)
    (consistent : s.Consistent op) (taken : s.step cfg op event = some t) :
    s.posted = false ∧ t.posted = false ∧ t.observed = s.observed := by
  cases Offload.step_taken taken with
  | allocateFailed before | allocated before | allocatedFinal before | configureFailed before
  | configured before =>
    have fresh := (consistent.alive (by simp [before])).2.2.2
    exact ⟨fresh, fresh, rfl⟩
  | rejected before | retried before | submitted before =>
    have fresh := (consistent.alive fun done => by simp [done, Phase.Submits] at before).2.2.2
    exact ⟨fresh, fresh, rfl⟩
  | completed | ranPosted | awaited => exact submission.elim

theorem mirrors_submission {s t image : Offload} {event : Event} (h : Mirrors s image)
    (submission : Submission event) (consistent : s.Consistent (.ethTxqSend allocation))
    (taken : s.step cfg (.ethTxqSend allocation) event = some t) :
    ∃ image', image.step cfg (.plainStatusOffload allocation) event = some image' ∧
      Mirrors t image' := by
  obtain ⟨before, after, kept⟩ := submission_step submission consistent taken
  rw [h.same, step_unposted submission, taken]
  refine ⟨_, rfl, rfl, ?_⟩
  simpa [pending, before, after, kept] using h.observed

/-- One callback posts the resume, the other one resumes. -/
theorem mirrors_complete {s image : Offload} (h : Mirrors s image) (completion : Completion)
    (unposted : s.posted = false) :
    Mirrors (s.complete (.ethTxqSend allocation) completion)
      (image.complete (.plainStatusOffload allocation) completion) := by
  have seen : image.observed.Perm s.observed := by simpa [pending, unposted] using h.observed
  rw [h.same]
  generalize image.resumed = resumed
  generalize image.observed = observed at seen
  constructor
  · simp only [Offload.complete, Operation.plainStatusOffload, Operation.ethTxqSend]
    simp only [Offload.resume]
    split <;> rfl
  · simp only [Offload.complete, Operation.plainStatusOffload, Operation.ethTxqSend,
      Offload.observed_resume, pending, if_true]
    exact seen.append_left _

theorem mirrors_resume {s image : Offload} (h : Mirrors s image) (posted : s.posted = true) :
    Mirrors { s.resume with posted := false } image := by
  obtain ⟨same, observed⟩ := h
  constructor
  · rw [same]
    simp only [Offload.resume]
    split <;> rfl
  · simpa [pending, posted, Offload.observed_resume] using observed

theorem mirrors_coAwait {s image : Offload} (h : Mirrors s image) (coro : Coro)
    (consistent : s.Consistent op) : Mirrors (s.coAwait coro) (image.coAwait coro) := by
  have seen := h.observed
  rw [h.same]
  generalize image.resumed = resumed
  generalize image.observed = observed at seen
  unfold Offload.coAwait
  simp only
  split
  · refine ⟨rfl, ?_⟩
    exact (seen.cons _).trans List.perm_middle.symm
  · rename_i unready
    have unposted : s.posted = false :=
      (consistent.alive (mt consistent.hasValue_iff_finished.mpr unready)).2.2.2
    split
    · exact ⟨rfl, seen⟩
    · refine ⟨rfl, ?_⟩
      simpa [pending, unposted] using seen

/-- The callback that resumes at once follows every step but the posted resume. -/
theorem mirrors_step {s t image : Offload} {event : Event} (h : Mirrors s image)
    (consistent : s.Consistent (.ethTxqSend allocation)) (deferred : event ≠ .runPosted)
    (taken : s.step cfg (.ethTxqSend allocation) event = some t) :
    ∃ image', image.step cfg (.plainStatusOffload allocation) event = some image' ∧
      Mirrors t image' := by
  have phase : image.phase = s.phase := by rw [h.same]
  cases event with
  | allocate | setIsFinalBuf | submit | resubmit =>
    exact mirrors_submission h trivial consistent taken
  | complete completion =>
    simp only [Offload.step, Option.ite_none_right_eq_some, Option.some.injEq] at taken
    obtain ⟨before, rfl⟩ := taken
    exact ⟨_, if_pos (phase.trans before),
      mirrors_complete h completion (consistent.alive (by simp [before])).2.2.2⟩
  | runPosted => contradiction
  | coAwait coro =>
    simp only [Offload.step, Option.ite_none_right_eq_some, Option.some.injEq] at taken
    obtain ⟨before, rfl⟩ := taken
    refine ⟨_, if_pos ?_, mirrors_coAwait h coro consistent⟩
    rw [h.same]
    exact before

/-- An offload with its awaitable, and next to it one whose callback resumes at once. -/
structure Related (allocation : Allocation) (s : OwnedOffload) (image : Offload) : Prop where
  kept : s.Kept (.ethTxqSend allocation)
  mirrors : Mirrors s.offload image

/-- The end of the awaitable and the posted resume are left out. -/
theorem Related.omitted {image : Offload} (h : Related allocation s image)
    (allowed : s.OutlivesResume event)
    (taken : step cfg (.ethTxqSend allocation) s event = some t)
    (left : event.undeferred = none) : Related allocation t image := by
  refine ⟨kept_step h.kept allowed taken, ?_⟩
  obtain ⟨-, ⟨rfl, -, rfl⟩ | ⟨inner, offload, rfl, moved, rfl⟩⟩ := h.kept.step_cases taken
  · exact h.mirrors
  · obtain rfl := OwnedEvent.undeferred_eq_none.mp left
    simp only [Offload.step, Option.ite_none_right_eq_some, Option.some.injEq] at moved
    obtain ⟨posted, rfl⟩ := moved
    exact mirrors_resume h.mirrors posted

theorem Related.followed {image : Offload} {inner : Event} (h : Related allocation s image)
    (allowed : s.OutlivesResume event)
    (taken : step cfg (.ethTxqSend allocation) s event = some t)
    (left : event.undeferred = some inner) :
    ∃ image', image.step cfg (.plainStatusOffload allocation) inner = some image' ∧
      Related allocation t image' := by
  have kept := kept_step h.kept allowed taken
  obtain ⟨-, ⟨rfl, -, rfl⟩ | ⟨inner', offload, rfl, moved, rfl⟩⟩ := h.kept.step_cases taken
  · contradiction
  · obtain ⟨deferred, rfl⟩ := OwnedEvent.undeferred_eq_some.mp left
    obtain ⟨image', follows, mirrors⟩ :=
      mirrors_step h.mirrors h.kept.consistent deferred moved
    exact ⟨image', follows, kept, mirrors⟩

/-- The awaitable apart, every run is a run of the callback that resumes at once. -/
theorem related_of_run
    (run : Run (step cfg (.ethTxqSend allocation)) OutlivesResume {} events s) :
    ∃ image, Run (Offload.step cfg (.plainStatusOffload allocation)) Always {}
        (events.filterMap OwnedEvent.undeferred) image ∧ Related allocation s image := by
  have initial : Related allocation {} {} := ⟨kept_init _, rfl, List.Perm.refl []⟩
  obtain ⟨image, follows, related⟩ := run.simulates
    (fun _ _ _ _ h allowed taken left => h.omitted allowed taken left)
    (fun _ _ _ _ _ h allowed taken left => h.followed allowed taken left) initial
  rw [run.subRun_eq_filterMap] at follows
  exact ⟨image, follows, related⟩

/-! ## The posted resume -/

/-- The deferred completion callback is safe at the end of a run: no resume has reached for
a receptable that is gone, a posted one will find it, at most one coroutine has been
resumed, and the run without the detour through the executor has made the same
observations, with those the posted resume has yet to make. -/
structure Safe (cfg : Config) (allocation : Allocation) (events : List OwnedEvent)
    (s : OwnedOffload) : Prop where
  sound : s.dangling = false
  alive : s.offload.posted = true → s.alive = true
  once : s.offload.resumed.length ≤ 1
  same : ∃ image, Run (Offload.step cfg (.plainStatusOffload allocation)) Always {}
      (events.filterMap OwnedEvent.undeferred) image ∧
    (∀ entry ∈ s.offload.observed, entry ∈ image.observed) ∧
    (s.offload.posted = false → image.observed.Perm s.offload.observed)

/-- **The posted resume finds its receptable.** On every run on which the awaitable is not
destroyed while the resume is posted, the deferred callback is safe. Coroutines that come
to their `co_await` before the completion or after the posted resume keep to that. -/
theorem deferred_callback_safe (cfg : Config) (allocation : Allocation)
    (events : List OwnedEvent) (s : OwnedOffload) :
    (Run (step cfg (.ethTxqSend allocation)) OutlivesResume {} events s →
      Safe cfg allocation events s) ∧
    (Run (step cfg (.ethTxqSend allocation)) AwaitsInTime {} events s →
      Safe cfg allocation events s) := by
  have outliving : Run (step cfg (.ethTxqSend allocation)) OutlivesResume {} events s →
      Safe cfg allocation events s := by
    intro run
    obtain ⟨image, follows, kept, mirrors⟩ := related_of_run run
    refine ⟨kept.sound, fun posted => ?_, kept.consistent.resumed.1, image, follows, ?_, ?_⟩
    · by_contra gone
      simp [(kept.gone (by simpa using gone)).2] at posted
    · exact fun entry seen => mirrors.observed.symm.subset (List.mem_append_right _ seen)
    · intro unposted
      simpa [pending, unposted] using mirrors.observed
  exact ⟨outliving, fun run => outliving (outlivesResume_of_awaitsInTime run)⟩

/-- A coroutine suspends before the completion and destroys its awaitable once it has been
resumed. -/
def resumedThenDestroyed : List OwnedEvent :=
  [.offload (.allocate .success), .offload (.submit .success), .offload (.coAwait 7),
    .offload (.complete ⟨.success, [], 0⟩), .offload .runPosted, .destroy]

/-- A coroutine finds the status before the posted resume runs. -/
def destroyedThenResumed : List OwnedEvent :=
  [.offload (.allocate .success), .offload (.submit .success),
    .offload (.complete ⟨.success, [], 0⟩), .offload (.coAwait 7), .destroy, .offload .runPosted]

theorem deferred_callback_safe_resumedThenDestroyed :
    ∃ s, Run (step {} (.ethTxqSend .withUserData)) OutlivesResume {} resumedThenDestroyed s ∧
      s.alive = false ∧ s.offload.resumed = [7] ∧
      Safe {} .withUserData resumedThenDestroyed s := by
  refine ⟨_, ⟨rfl, by decide⟩, rfl, rfl, ?_⟩
  exact (deferred_callback_safe {} .withUserData resumedThenDestroyed _).1 ⟨rfl, by decide⟩

/-- A coroutine that comes between the completion and the posted resume, and destroys its
awaitable, leaves the resume with a receptable that is gone. -/
theorem posted_resume_dangles :
    ¬ ∀ (cfg : Config) (allocation : Allocation) (events : List OwnedEvent) (s : OwnedOffload),
      Run (step cfg (.ethTxqSend allocation)) Always {} events s →
        s.dangling = false := by
  intro neverDangles
  have sound := neverDangles {} .withUserData destroyedThenResumed _ ⟨rfl, meets_always _ _⟩
  contradiction

end OwnedOffload

end Shoc.Engine

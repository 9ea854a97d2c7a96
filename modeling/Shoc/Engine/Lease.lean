/-
# Leases on progress engines

The special member functions of `progress_engine_lease` over a whole population of
lease objects and any number of engines, while the engines run. The counter of an
engine is kept by `register_fiber` and `deregister_fiber`; which calls an
assignment makes depends on what its two sides refer to and on whether they are
the same object, and a copy assignment makes and destroys a third one.
-/

import Mathlib.Logic.Function.Basic
import Shoc.Data.Population
import Shoc.Engine.EventLoop
import Shoc.Transition.Runs

namespace Shoc.Engine

open Data Transition

abbrev EngineId := ℕ

abbrev LeaseId := ℕ

/-- A call of `deregister_fiber`, with `registered_fibers_` at its beginning and the number of
lease objects that referred to the engine at that time, the one that calls included. -/
structure Deregistration where
  engine : EngineId
  registeredFibers : ℕ
  referring : ℕ
  deriving DecidableEq, Repr

/-- A deregistration found a fiber registered, and left none only if it was the last lease. -/
def Deregistration.Exact (entry : Deregistration) : Prop :=
  0 < entry.registeredFibers ∧ (entry.registeredFibers = 1 → entry.referring = 1)

/-- The engines, the lease objects with their `engine_`, and the calls of `deregister_fiber`. -/
structure Leases where
  engines : EngineId → EventLoop := fun _ => {}
  leases : Population (Option EngineId) := {}
  log : List Deregistration := []

/-- What can be done with lease objects, and what an engine does in the meantime. -/
inductive LeaseLabel
  | construct (engine : Option EngineId)
  | copyConstruct (other : LeaseId)
  | moveConstruct (other : LeaseId)
  | copyAssign (self other : LeaseId)
  | moveAssign (self other : LeaseId)
  | clear (self : LeaseId)
  | destroy (self : LeaseId)
  | engine (id : EngineId) (event : LoopEvent)
  deriving DecidableEq, Repr

namespace EventLoop

variable {mode : PollingMode} {s t : EventLoop} {event : LoopEvent}

@[simp] theorem registeredFibers_registerFiber :
    s.registerFiber.registeredFibers = s.registeredFibers + 1 := rfl

@[simp] theorem registeredFibers_cancel : s.cancel.registeredFibers = s.registeredFibers := by
  unfold cancel
  split <;> rfl

@[simp] theorem registeredFibers_deregisterFiber :
    s.deregisterFiber.registeredFibers = s.registeredFibers - 1 := by
  unfold deregisterFiber
  split
  · omega
  · simp only
    split <;> simp

@[simp] theorem registeredFibers_stopNext {next : Cursor ContextId} :
    (s.stopNext next).registeredFibers = s.registeredFibers := by
  unfold stopNext
  split
  · split <;> rfl
  · rfl

/-- Nobody but leases registers fibers. -/
theorem registeredFibers_step (taken : step mode s event = some t)
    (constructs : event ≠ .constructLease) (destroys : event ≠ .destroyLease) :
    t.registeredFibers = s.registeredFibers := by
  cases step_taken taken with
  | leased => contradiction
  | unleased => contradiction
  | asked => exact registeredFibers_stopNext
  | _ => rfl

end EventLoop

namespace Leases

variable (s : Leases) {mode : EngineId → PollingMode} {label : LeaseLabel} {t : Leases}

/-- `engine_` of a lease object. -/
def engine (lease : LeaseId) : Option EngineId := (s.leases.read lease).join

/-- How many live lease objects refer to an engine. -/
def referring (id : EngineId) : ℕ := s.leases.count (· = some id)

def registerFiber (id : EngineId) : Leases :=
  { s with engines := Function.update s.engines id (s.engines id).registerFiber }

def deregisterFiber (id : EngineId) : Leases :=
  { s with
    engines := Function.update s.engines id (s.engines id).deregisterFiber
    log := ⟨id, (s.engines id).registeredFibers, s.referring id⟩ :: s.log }

def setEngine (lease : LeaseId) (value : Option EngineId) : Leases :=
  { s with leases := s.leases.write lease value }

/-- `progress_engine_lease::clear`. -/
def clear (self : LeaseId) : Leases :=
  match s.engine self with
  | none => s
  | some id => (s.deregisterFiber id).setEngine self none

/-- `progress_engine_lease(progress_engine *)`. -/
def construct (value : Option EngineId) : Leases :=
  let s := { s with leases := s.leases.create value }
  match value with
  | none => s
  | some id => s.registerFiber id

/-- The copy constructor, which delegates. -/
def copyConstruct (other : LeaseId) : Leases := s.construct (s.engine other)

/-- The move constructor: the count stays as it is. -/
def moveConstruct (other : LeaseId) : Leases :=
  { s with leases := (s.leases.write other none).create (s.engine other) }

/-- `operator=(progress_engine_lease &&)`. -/
def moveAssign (self other : LeaseId) : Leases :=
  if other ≠ self then
    let s := s.clear self
    (s.setEngine other none).setEngine self (s.engine other)
  else s

/-- `~progress_engine_lease`. -/
def destroy (self : LeaseId) : Leases :=
  let s := s.clear self
  { s with leases := s.leases.destroy self }

/-- `operator=(progress_engine_lease const &)`. -/
def copyAssign (self other : LeaseId) : Leases :=
  if s.engine self ≠ s.engine other then
    let s := s.clear self
    -- The local variable `copy` lives until the end of the block
    let copy := s.leases.size
    ((s.copyConstruct other).moveAssign self copy).destroy copy
  else s

def alive (lease : LeaseId) : Bool := (s.leases.read lease).isSome

/-- One step. Only live objects can be used. -/
def step (mode : EngineId → PollingMode) (s : Leases) : LeaseLabel → Option Leases
  | .construct value => some (s.construct value)
  | .copyConstruct other => if s.alive other then some (s.copyConstruct other) else none
  | .moveConstruct other => if s.alive other then some (s.moveConstruct other) else none
  | .copyAssign self other =>
      if s.alive self ∧ s.alive other then some (s.copyAssign self other) else none
  | .moveAssign self other =>
      if s.alive self ∧ s.alive other then some (s.moveAssign self other) else none
  | .clear self => if s.alive self then some (s.clear self) else none
  | .destroy self => if s.alive self then some (s.destroy self) else none
  | .engine id event =>
      -- The events of the engine that stand for leases are the other labels here
      if event = .constructLease ∨ event = .destroyLease then none
      else (EventLoop.step (mode id) (s.engines id) event).map fun engine =>
        { s with engines := Function.update s.engines id engine }

/-! ## The count is exact -/

/-- Every engine counts the leases that refer to it, and always did. -/
structure Counted (s : Leases) : Prop where
  fibers : ∀ id, (s.engines id).registeredFibers = s.referring id
  log : ∀ entry ∈ s.log, entry.Exact

variable {s} {self other : LeaseId} {value : Option EngineId} {id : EngineId}

theorem read_of_alive (live : s.alive self) : s.leases.read self = some (s.engine self) :=
  Population.read_eq_some_join live

theorem engine_of_read (found : s.leases.read self = some value) : s.engine self = value := by
  simp [engine, found]

theorem referring_pos (live : s.alive self) (refers : s.engine self = some id) :
    0 < s.referring id :=
  Population.count_pos_of_read (read_of_alive live) (by simp [refers])

/-- What `clear` leaves behind. -/
theorem read_clear (live : s.alive self) (lease : LeaseId) :
    (s.clear self).leases.read lease = if lease = self then some none else s.leases.read lease := by
  have found := read_of_alive live
  unfold clear
  split
  · rename_i empty
    split
    · rename_i same
      rw [same, found, empty]
    · rfl
  · exact Population.read_write found

theorem counted_clear (counted : s.Counted) (live : s.alive self) : (s.clear self).Counted := by
  have found := read_of_alive live
  unfold clear
  split
  · exact counted
  · rename_i id refers
    have pos := referring_pos live refers
    have fibers := counted.fibers id
    constructor
    · -- The lease counts one less for its own engine and nothing for the others
      intro other
      have less := Population.count_write (P := (· = some other)) found none
      have before := counted.fibers other
      unfold referring at before pos fibers
      by_cases same : other = id
      · subst same
        simp [refers] at less
        simp [setEngine, deregisterFiber, referring]
        omega
      · simp [refers, Ne.symm same] at less
        simp [setEngine, deregisterFiber, referring, same]
        omega
    · intro entry mem
      obtain rfl | mem := List.mem_cons.mp mem
      · refine ⟨?_, fun one => ?_⟩ <;> simp only at * <;> omega
      · exact counted.log entry mem

theorem counted_construct (counted : s.Counted) (value : Option EngineId) :
    (s.construct value).Counted := by
  unfold construct
  cases value with
  | none =>
    refine ⟨fun id => ?_, counted.log⟩
    simpa [referring, Population.count_create] using counted.fibers id
  | some id =>
    refine ⟨fun other => ?_, counted.log⟩
    have before := counted.fibers other
    unfold referring at before
    by_cases same : other = id
    · subst same
      simp [registerFiber, referring, Population.count_create, before]
    · simp [registerFiber, referring, Population.count_create, same, Ne.symm same, before]

/-- A step that only moves references about. -/
theorem counted_of_count {leases : Population (Option EngineId)} (counted : s.Counted)
    (same : ∀ id : EngineId, leases.count (· = some id) = s.leases.count (· = some id)) :
    ({ s with leases } : Leases).Counted :=
  ⟨fun id => (counted.fibers id).trans (same id).symm, counted.log⟩

theorem counted_moveConstruct (counted : s.Counted) (live : s.alive other) :
    (s.moveConstruct other).Counted := by
  refine counted_of_count counted fun id => ?_
  have less := Population.count_write (P := (· = some id)) (read_of_alive live) none
  rw [Population.count_create]
  simpa using less

theorem counted_moveAssign (counted : s.Counted) (target : s.alive self)
    (source : s.alive other) : (s.moveAssign self other).Counted := by
  unfold moveAssign
  split
  · rename_i differ
    -- After `clear` the two objects exchange what they refer to
    have emptied : (s.clear self).leases.read self = some none := by
      rw [read_clear target, if_pos rfl]
    have kept : (s.clear self).leases.read other = some (s.engine other) := by
      rw [read_clear target, if_neg differ, read_of_alive source]
    simp only [engine_of_read kept]
    exact counted_of_count (s := s.clear self) (counted_clear counted target) fun id =>
      Population.count_exchange kept emptied differ
  · exact counted

theorem counted_destroy (counted : s.Counted) (live : s.alive self) :
    (s.destroy self).Counted := by
  have emptied : (s.clear self).leases.read self = some none := by
    rw [read_clear live, if_pos rfl]
  refine counted_of_count (counted_clear counted live) fun id => ?_
  simpa using Population.count_destroy (P := (· = some id)) emptied

theorem alive_construct {lease : LeaseId} :
    (s.construct value).alive lease ↔ lease = s.leases.size ∨ s.alive lease := by
  have leases : (s.construct value).leases = s.leases.create value := by
    unfold construct
    cases value <;> rfl
  rw [alive, leases, Population.isSome_read_create, alive]

theorem alive_clear {lease : LeaseId} (live : s.alive self) :
    (s.clear self).alive lease ↔ s.alive lease := by
  unfold clear
  split
  · rfl
  · exact Population.isSome_read_write live

theorem alive_setEngine {lease : LeaseId} (live : s.alive self) (value : Option EngineId) :
    (s.setEngine self value).alive lease ↔ s.alive lease := by
  rw [alive, setEngine, Population.isSome_read_write live, alive]

theorem alive_moveAssign {lease : LeaseId} (target : s.alive self) (source : s.alive other) :
    (s.moveAssign self other).alive lease ↔ s.alive lease := by
  unfold moveAssign
  split
  · have source' := (alive_clear target).mpr source
    have target' := (alive_setEngine source' none).mpr ((alive_clear target).mpr target)
    rw [alive_setEngine target', alive_setEngine source', alive_clear target]
  · rfl

theorem counted_copyAssign (counted : s.Counted) (target : s.alive self) :
    (s.copyAssign self other).Counted := by
  unfold copyAssign
  split
  · have cleared := counted_clear counted target
    have target' : ((s.clear self).copyConstruct other).alive self :=
      alive_construct.mpr (.inr ((alive_clear target).mpr target))
    have copy : ((s.clear self).copyConstruct other).alive (s.clear self).leases.size :=
      alive_construct.mpr (.inl rfl)
    have copied : ((s.clear self).copyConstruct other).Counted :=
      counted_construct cleared _
    exact counted_destroy (counted_moveAssign copied target' copy)
      ((alive_moveAssign target' copy).mpr copy)
  · exact counted

theorem counted_engine (counted : s.Counted) {event : LoopEvent} {engine : EventLoop}
    (constructs : event ≠ .constructLease) (destroys : event ≠ .destroyLease)
    (taken : EventLoop.step (mode id) (s.engines id) event = some engine) :
    ({ s with engines := Function.update s.engines id engine } : Leases).Counted := by
  refine ⟨fun other => ?_, counted.log⟩
  have same := EventLoop.registeredFibers_step taken constructs destroys
  have before := counted.fibers other
  by_cases this : other = id
  · subst this
    simpa [referring, same] using before
  · simpa [referring, this] using before

theorem counted_step (counted : s.Counted) (taken : step mode s label = some t) : t.Counted := by
  cases label with
  | construct value =>
    obtain rfl := Option.some.inj taken
    exact counted_construct counted value
  | copyConstruct other =>
    simp only [step, Option.ite_none_right_eq_some, Option.some.injEq] at taken
    obtain ⟨-, rfl⟩ := taken
    exact counted_construct counted _
  | moveConstruct other =>
    simp only [step, Option.ite_none_right_eq_some, Option.some.injEq] at taken
    obtain ⟨source, rfl⟩ := taken
    exact counted_moveConstruct counted source
  | copyAssign self other =>
    simp only [step, Option.ite_none_right_eq_some, Option.some.injEq] at taken
    obtain ⟨⟨target, -⟩, rfl⟩ := taken
    exact counted_copyAssign counted target
  | moveAssign self other =>
    simp only [step, Option.ite_none_right_eq_some, Option.some.injEq] at taken
    obtain ⟨⟨target, source⟩, rfl⟩ := taken
    exact counted_moveAssign counted target source
  | clear self =>
    simp only [step, Option.ite_none_right_eq_some, Option.some.injEq] at taken
    obtain ⟨live, rfl⟩ := taken
    exact counted_clear counted live
  | destroy self =>
    simp only [step, Option.ite_none_right_eq_some, Option.some.injEq] at taken
    obtain ⟨live, rfl⟩ := taken
    exact counted_destroy counted live
  | engine id event =>
    simp only [step, Option.ite_none_left_eq_some, not_or, Option.map_eq_some_iff] at taken
    obtain ⟨⟨constructs, destroys⟩, engine, stepped, rfl⟩ := taken
    exact counted_engine counted constructs destroys stepped

theorem counted_init : Counted {} := ⟨fun _ => rfl, by simp⟩

/-- **Lease counting is exact.** After any sequence of operations on lease objects, and
whatever the engines do in between, `registered_fibers_` of every engine is the number of
live leases that refer to it; every `deregister_fiber` on the way found a fiber registered,
and one that reached zero was called by the only lease that still referred to the engine. -/
theorem lease_counting_exact (mode : EngineId → PollingMode) (labels : List LeaseLabel)
    (s : Leases) (run : Run (step mode) Always {} labels s) :
    (∀ id, (s.engines id).registeredFibers = s.referring id) ∧
      ∀ entry ∈ s.log, 0 < entry.registeredFibers ∧
        (entry.registeredFibers = 1 → entry.referring = 1) := by
  have counted := run.invariant Counted (fun _ _ _ counted _ taken => counted_step counted taken)
    counted_init
  exact ⟨counted.fibers, counted.log⟩

/-- Leases of two engines are copied and moved over each other, and two of them are left. -/
def exchangedLeases : List LeaseLabel :=
  [.construct (some 0), .construct (some 1), .construct none, .copyAssign 0 1, .copyAssign 0 0,
    .moveAssign 2 1, .copyConstruct 0, .moveAssign 2 2, .destroy 0]

theorem lease_counting_exact_exchangedLeases :
    ∃ s, Run (step fun _ => .epoll) Always {} exchangedLeases s ∧
      (s.engines 1).registeredFibers = 2 ∧ s.referring 1 = 2 := by
  have run : Run (step fun _ => .epoll) Always {} exchangedLeases _ := ⟨rfl, meets_always _ _⟩
  have counted := (lease_counting_exact _ exchangedLeases _ run).1 1
  exact ⟨_, run, rfl, counted.symm.trans rfl⟩

end Leases

end Shoc.Engine

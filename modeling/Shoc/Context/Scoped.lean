/-
# Scoped wrappers

`unique_scoped_context` and `scoped_server_connection` stop the context, or
disconnect the connection, they refer to when they are destroyed or assigned over.
The two classes are meant to be the same. They differ in two places: the wrapper of
a context leaves a context alone that has stopped already, and keeps referring to
it; and its move assignment writes to the source.

In both of them the call comes before the wrapper lets go of the object. If it throws,
as `stop()` does when the SDK refuses, and with it `disconnect()` of a connection that
has children, the wrapper goes on referring to an object that it has asked. An
assignment passes the exception on, a destructor ends the program.

Contexts and connections are numbered in the order in which they were handed to a
wrapper, each to one.
-/

import Mathlib.Logic.Function.Basic
import Shoc.Data.Population
import Shoc.Transition.Runs

namespace Shoc.Context

open Data Transition

/-- The two classes. -/
inductive WrapperKind
  | uniqueScopedContext
  | scopedServerConnection
  deriving DecidableEq, Repr

/-- A wrapper object. -/
abbrev WrapperId := ℕ

/-- A context or a connection. -/
abbrev ObjectId := ℕ

/-- The wrappers with their `ctx_` or `con_`, and what they refer to: how many objects were
handed to a wrapper, which ones have stopped, that is `handle()` is null, and which ones a
wrapper has asked to stop or disconnect. The program is terminated when an exception leaves a
destructor. -/
structure Scoped where
  wrappers : Population (Option ObjectId) := {}
  handed : ℕ := 0
  stopped : ObjectId → Bool := fun _ => false
  asked : List ObjectId := []
  terminated : Bool := false

/-- What can happen: a wrapper is default constructed, constructed with an object that no
wrapper had before, moved, assigned to or destroyed; an object stops. `throws` says whether
the call of `stop` or `disconnect` throws, if there is one. -/
inductive ScopedLabel
  | default
  | construct
  | moveConstruct (other : WrapperId)
  | moveAssign (self other : WrapperId) (throws : Bool)
  | destroy (self : WrapperId) (throws : Bool)
  | idle (object : ObjectId)
  deriving DecidableEq, Repr

namespace Scoped

variable (s : Scoped)

/-- What a wrapper refers to. -/
def get (self : WrapperId) : Option ObjectId := (s.wrappers.read self).join

def set (self : WrapperId) (value : Option ObjectId) : Scoped :=
  { s with wrappers := s.wrappers.write self value }

/-- `ctx_->stop()` and `con_->disconnect()`. -/
def ask (object : ObjectId) : Scoped := { s with asked := object :: s.asked }

/-- The call and the assignment of `nullptr` behind it, which an exception skips. -/
def release (self : WrapperId) (object : ObjectId) (throws : Bool) : Except Scoped Scoped :=
  if throws then .error (s.ask object) else .ok ((s.ask object).set self none)

/-- `clear()`. An error is an exception, and the state in which it is thrown. -/
def clear (kind : WrapperKind) (self : WrapperId) (throws : Bool) : Except Scoped Scoped :=
  match s.get self with
  | none => .ok s
  | some object =>
      match kind with
      | .uniqueScopedContext =>
          if s.stopped object then .ok s else s.release self object throws
      | .scopedServerConnection => s.release self object throws

/-- `operator=` of an rvalue. -/
def moveAssign (kind : WrapperKind) (self other : WrapperId) (throws : Bool) : Scoped :=
  match s.clear kind self throws with
  -- The exception leaves the operator before anything is assigned
  | .error s => s
  | .ok s =>
      match kind with
      -- `other.ctx_ = std::exchange(other.ctx_, nullptr)`
      | .uniqueScopedContext => (s.set other none).set other (s.get other)
      | .scopedServerConnection => (s.set other none).set self (s.get other)

/-- The move constructor. -/
def moveConstruct (other : WrapperId) : Scoped :=
  { s with wrappers := (s.wrappers.write other none).create (s.get other) }

/-- The destructor. -/
def destroy (kind : WrapperKind) (self : WrapperId) (throws : Bool) : Scoped :=
  match s.clear kind self throws with
  -- A destructor is `noexcept`
  | .error s => { s with terminated := true }
  | .ok s => { s with wrappers := s.wrappers.destroy self }

def alive (self : WrapperId) : Bool := (s.wrappers.read self).isSome

/-- One step. Only live wrappers can be used, and nothing happens after the program was
terminated. -/
def step (kind : WrapperKind) (s : Scoped) (label : ScopedLabel) : Option Scoped :=
  if s.terminated then none
  else match label with
    | .default => some { s with wrappers := s.wrappers.create none }
    | .construct =>
        some { s with wrappers := s.wrappers.create (some s.handed), handed := s.handed + 1 }
    | .moveConstruct other => if s.alive other then some (s.moveConstruct other) else none
    | .moveAssign self other throws =>
        if s.alive self ∧ s.alive other then some (s.moveAssign kind self other throws) else none
    | .destroy self throws => if s.alive self then some (s.destroy kind self throws) else none
    | .idle object => some { s with stopped := Function.update s.stopped object true }

/-- What a wrapper refers to, if anything, can be asked to stop: it has not done so already,
for a context, and the call does not throw. -/
def Clearable (kind : WrapperKind) (self : WrapperId) (throws : Bool) : Prop :=
  ∀ object ∈ s.get self,
    throws = false ∧ (kind = .uniqueScopedContext → s.stopped object = false)

/-- A wrapper is destroyed and assigned over only while what it refers to can be asked to stop,
and a wrapper of a context is assigned to only from itself or from an empty one. -/
def Orderly (kind : WrapperKind) (s : Scoped) : ScopedLabel → Prop
  | .moveAssign self other throws =>
      s.Clearable kind self throws ∧
        (kind = .uniqueScopedContext → self ≠ other → s.get other = none)
  | .destroy self throws => s.Clearable kind self throws
  | _ => True

instance (kind : WrapperKind) (self : WrapperId) (throws : Bool) :
    Decidable (s.Clearable kind self throws) :=
  inferInstanceAs (Decidable (∀ object ∈ s.get self, _))

instance (kind : WrapperKind) (s : Scoped) : ∀ label, Decidable (s.Orderly kind label)
  | .moveAssign self _ throws =>
      have : Decidable (s.Clearable kind self throws) := inferInstance
      inferInstanceAs (Decidable (_ ∧ (_ → _ → _)))
  | .destroy self throws => inferInstanceAs (Decidable (s.Clearable kind self throws))
  | .default | .construct | .moveConstruct _ | .idle _ => inferInstanceAs (Decidable True)

/-- How many live wrappers refer to an object. -/
def owners (object : ObjectId) : ℕ := s.wrappers.count (· = some object)

/-- An object has one owner and was not asked, or it has none and was asked once. -/
def Owned (object : ObjectId) : Prop :=
  s.owners object = 1 ∧ s.asked.count object = 0 ∨ s.owners object = 0 ∧ s.asked.count object = 1

/-- What a wrapper referred to was asked, nothing else was, and no wrapper refers to it any
more. -/
def Asks (t : Scoped) (self : WrapperId) : Prop :=
  t.asked = (s.get self).toList ++ s.asked ∧ ∀ object ∈ s.get self, t.owners object = 0

/-- What a step is to achieve. After a move the target has what the source had, and the source
nothing; a wrapper that is destroyed or assigned over asks what it referred to; and nothing
else asks. -/
def Achieves (t : Scoped) : ScopedLabel → Prop
  | .moveConstruct other =>
      t.get s.wrappers.size = s.get other ∧ t.get other = none ∧ t.asked = s.asked
  | .moveAssign self other _ =>
      (self ≠ other → t.get self = s.get other ∧ t.get other = none) ∧ s.Asks t self
  | .destroy self _ => s.Asks t self
  | .default | .construct | .idle _ => t.asked = s.asked

/-! ## Clearing a wrapper -/

/-- A wrapper is empty, and what it referred to was asked. -/
def cleared (self : WrapperId) : Scoped :=
  { s with wrappers := s.wrappers.write self none, asked := (s.get self).toList ++ s.asked }

variable {s} {t : Scoped} {kind : WrapperKind} {label : ScopedLabel} {self other : WrapperId}
  {object : ObjectId} {throws : Bool}

theorem read_of_alive (live : s.alive self) : s.wrappers.read self = some (s.get self) :=
  Population.read_eq_some_join live

theorem get_of_read {value : Option ObjectId} (found : s.wrappers.read self = some value) :
    s.get self = value := by
  simp [get, found]

/-- `clear` leaves a stopped context alone. Otherwise it asks the object, and lets go of it
unless the call throws. -/
theorem clear_of_get (refers : s.get self = some object) :
    s.clear kind self throws =
      if kind = .uniqueScopedContext ∧ s.stopped object then .ok s
      else s.release self object throws := by
  rw [clear, refers]
  cases kind with
  | uniqueScopedContext => simp
  | scopedServerConnection => simp

theorem clear_of_clearable (live : s.alive self) (clearable : s.Clearable kind self throws) :
    s.clear kind self throws = .ok (s.cleared self) := by
  cases refers : s.get self with
  | none =>
    -- There was nothing to write either
    have found := read_of_alive live
    rw [refers] at found
    rw [clear, cleared, refers, Population.write_read found]
    rfl
  | some object =>
    obtain ⟨returns, running⟩ := clearable object refers
    have asks : ¬ (kind = .uniqueScopedContext ∧ s.stopped object = true) := by
      rintro ⟨unique, stopped⟩
      rw [running unique] at stopped
      contradiction
    rw [clear_of_get refers, if_neg asks, release, returns, cleared, refers]
    rfl

theorem destroy_of_clearable (live : s.alive self) (clearable : s.Clearable kind self throws) :
    s.destroy kind self throws =
      { s.cleared self with wrappers := (s.cleared self).wrappers.destroy self } := by
  rw [destroy, clear_of_clearable live clearable]

theorem read_cleared (live : s.alive self) (other : WrapperId) :
    (s.cleared self).wrappers.read other =
      if other = self then some none else s.wrappers.read other :=
  Population.read_write (read_of_alive live)

theorem owners_cleared (live : s.alive self) (object : ObjectId) :
    (s.cleared self).owners object + (if s.get self = some object then 1 else 0) =
      s.owners object := by
  simpa [owners, cleared] using
    Population.count_write (P := (· = some object)) (read_of_alive live) none

theorem count_asked_cleared (s : Scoped) (self : WrapperId) (object : ObjectId) :
    (s.cleared self).asked.count object =
      s.asked.count object + if s.get self = some object then 1 else 0 := by
  rw [cleared, List.count_append, Nat.add_comm]
  cases s.get self with
  | none => simp
  | some value => simp [List.count_singleton]

/-- The move assignment of `unique_scoped_context` leaves its source as it was and only clears
its target. -/
theorem moveAssign_uniqueScopedContext (target : s.alive self) (source : s.alive other)
    (clearable : s.Clearable .uniqueScopedContext self throws) :
    s.moveAssign .uniqueScopedContext self other throws = s.cleared self := by
  have live : (s.cleared self).alive other := by
    rw [alive, read_cleared target]
    split
    · rfl
    · exact source
  have found := read_of_alive live
  rw [moveAssign, clear_of_clearable target clearable]
  simp only [Scoped.set, Population.write_write, Population.write_read found]

/-- The one of `scoped_server_connection` writes what the source had into the cleared target. -/
theorem moveAssign_scopedServerConnection (target : s.alive self)
    (clearable : s.Clearable .scopedServerConnection self throws) :
    s.moveAssign .scopedServerConnection self other throws =
      ((s.cleared self).set other none).set self ((s.cleared self).get other) := by
  rw [moveAssign, clear_of_clearable target clearable]

/-! ## Every object has one owner until it is asked to stop -/

/-- The invariant: all objects that were handed out are owned, and nothing is known of the
others. -/
structure Tidy (s : Scoped) : Prop where
  settled : ∀ object < s.handed, s.Owned object
  fresh : ∀ object, s.handed ≤ object → s.owners object = 0 ∧ s.asked.count object = 0

/-- A step that leaves the number of owners of every object as it is. -/
theorem Tidy.of_owners {wrappers : Population (Option ObjectId)} (tidy : s.Tidy)
    (same : ∀ object : ObjectId,
      wrappers.count (· = some object) = s.wrappers.count (· = some object)) :
    ({ s with wrappers } : Scoped).Tidy := by
  have owners : ∀ object, ({ s with wrappers } : Scoped).owners object = s.owners object := same
  constructor
  · intro object inside
    simpa [Owned, owners] using tidy.settled object inside
  · intro object outside
    simpa [owners] using tidy.fresh object outside

/-- What a wrapper refers to has no other owner and was not asked. -/
theorem Tidy.of_get (tidy : s.Tidy) (live : s.alive self) (refers : s.get self = some object) :
    s.owners object = 1 ∧ s.asked.count object = 0 := by
  have found := read_of_alive live
  rw [refers] at found
  have owned : 0 < s.owners object := Population.count_pos_of_read found (by simp)
  by_cases handed : object < s.handed
  · rcases tidy.settled object handed with settled | ⟨unowned, -⟩
    · exact settled
    · omega
  · have fresh := (tidy.fresh object (Nat.le_of_not_lt handed)).1
    omega

theorem tidy_cleared (tidy : s.Tidy) (live : s.alive self) : (s.cleared self).Tidy := by
  have fewer := owners_cleared live
  have more := count_asked_cleared s self
  constructor
  · intro object inside
    by_cases refers : s.get self = some object
    · -- The object loses its owner and is asked instead
      have before := tidy.of_get live refers
      have fewer := fewer object
      have more := more object
      rw [if_pos refers] at fewer more
      exact .inr ⟨by omega, by omega⟩
    · have before := tidy.settled object inside
      have fewer := fewer object
      have more := more object
      rw [if_neg refers, Nat.add_zero] at fewer more
      unfold Owned at before ⊢
      rwa [fewer, more]
  · intro object outside
    have before := tidy.fresh object outside
    have none : s.get self ≠ some object := by
      intro refers
      have owned := (tidy.of_get live refers).1
      omega
    have fewer := fewer object
    have more := more object
    rw [if_neg none, Nat.add_zero] at fewer more
    rwa [fewer, more]

theorem tidy_destroy (tidy : s.Tidy) (live : s.alive self)
    (clearable : s.Clearable kind self throws) : (s.destroy kind self throws).Tidy := by
  have empty : (s.cleared self).wrappers.read self = some none := by
    rw [read_cleared live, if_pos rfl]
  rw [destroy_of_clearable live clearable]
  refine (tidy_cleared tidy live).of_owners fun object => ?_
  simpa using Population.count_destroy (P := (· = some object)) empty

theorem tidy_moveConstruct (tidy : s.Tidy) (source : s.alive other) :
    (s.moveConstruct other).Tidy := by
  refine tidy.of_owners fun object => ?_
  have less := Population.count_write (P := (· = some object)) (read_of_alive source) none
  rw [Population.count_create]
  simpa using less

/-- In the assignment of a connection the source takes the place of the cleared target. -/
theorem owners_moveAssign (target : s.alive self) (source : s.alive other)
    (clearable : s.Clearable kind self throws) (object : ObjectId) :
    (s.moveAssign kind self other throws).owners object = (s.cleared self).owners object := by
  cases kind with
  | uniqueScopedContext => rw [moveAssign_uniqueScopedContext target source clearable]
  | scopedServerConnection =>
    have empty : (s.cleared self).wrappers.read self = some none := by
      rw [read_cleared target, if_pos rfl]
    rw [moveAssign_scopedServerConnection target clearable]
    simp only [Scoped.set, owners]
    by_cases same : other = self
    · subst same
      rw [Population.write_write, get_of_read empty, Population.write_read empty]
    · have found : (s.cleared self).wrappers.read other = some ((s.cleared self).get other) := by
        refine read_of_alive ?_
        rw [alive, read_cleared target, if_neg same]
        exact source
      exact Population.count_exchange found empty same

theorem asked_moveAssign (target : s.alive self) (source : s.alive other)
    (clearable : s.Clearable kind self throws) :
    (s.moveAssign kind self other throws).asked = (s.get self).toList ++ s.asked := by
  cases kind with
  | uniqueScopedContext =>
    rw [moveAssign_uniqueScopedContext target source clearable]
    rfl
  | scopedServerConnection =>
    rw [moveAssign_scopedServerConnection target clearable]
    rfl

theorem handed_moveAssign (target : s.alive self) (source : s.alive other)
    (clearable : s.Clearable kind self throws) :
    (s.moveAssign kind self other throws).handed = s.handed := by
  cases kind with
  | uniqueScopedContext =>
    rw [moveAssign_uniqueScopedContext target source clearable]
    rfl
  | scopedServerConnection =>
    rw [moveAssign_scopedServerConnection target clearable]
    rfl

theorem tidy_moveAssign (tidy : s.Tidy) (target : s.alive self) (source : s.alive other)
    (clearable : s.Clearable kind self throws) : (s.moveAssign kind self other throws).Tidy := by
  have cleared := tidy_cleared tidy target
  have owners := owners_moveAssign target source clearable
  have asked := asked_moveAssign target source clearable
  have handed := handed_moveAssign target source clearable
  constructor
  · intro object inside
    unfold Owned
    rw [owners, asked]
    exact cleared.settled object (handed ▸ inside)
  · intro object outside
    rw [owners, asked]
    exact cleared.fresh object (handed ▸ outside)

theorem tidy_construct (tidy : s.Tidy) :
    ({ s with
      wrappers := s.wrappers.create (some s.handed), handed := s.handed + 1 } : Scoped).Tidy := by
  have owners : ∀ object, (s.wrappers.create (some s.handed)).count (· = some object) =
      s.owners object + if s.handed = object then 1 else 0 := by
    intro object
    simp [Scoped.owners, Population.count_create]
  have new := tidy.fresh s.handed (Nat.le_refl _)
  constructor
  · intro object inside
    by_cases this : s.handed = object
    · subst this
      refine .inl ⟨?_, new.2⟩
      simp only [Scoped.owners] at owners new ⊢
      simp [owners, new.1]
    · have before := tidy.settled object (by simp only at inside; omega)
      simp only [Owned, Scoped.owners] at owners before ⊢
      simpa [owners, this] using before
  · intro object outside
    have before := tidy.fresh object (by simp only at outside; omega)
    have other : s.handed ≠ object := by simp only at outside; omega
    simp only [Scoped.owners] at owners before ⊢
    simpa [owners, other] using before

/-- A step is taken only before the program was terminated. -/
theorem step_eq_some_iff : step kind s label = some t ↔ s.terminated = false ∧
    match label with
    | .default => { s with wrappers := s.wrappers.create none } = t
    | .construct =>
        { s with wrappers := s.wrappers.create (some s.handed), handed := s.handed + 1 } = t
    | .moveConstruct other => s.alive other ∧ s.moveConstruct other = t
    | .moveAssign self other throws =>
        (s.alive self ∧ s.alive other) ∧ s.moveAssign kind self other throws = t
    | .destroy self throws => s.alive self ∧ s.destroy kind self throws = t
    | .idle object => { s with stopped := Function.update s.stopped object true } = t := by
  unfold step
  cases s.terminated with
  | true => simp
  | false => cases label <;> simp

theorem tidy_step (tidy : s.Tidy) (orderly : s.Orderly kind label)
    (taken : step kind s label = some t) : t.Tidy := by
  have effect := (step_eq_some_iff.mp taken).2
  cases label with
  | default =>
    subst effect
    exact tidy.of_owners fun object => by simp [Population.count_create]
  | construct =>
    subst effect
    exact tidy_construct tidy
  | moveConstruct other =>
    obtain ⟨source, rfl⟩ := effect
    exact tidy_moveConstruct tidy source
  | moveAssign self other throws =>
    obtain ⟨⟨target, source⟩, rfl⟩ := effect
    exact tidy_moveAssign tidy target source orderly.1
  | destroy self throws =>
    obtain ⟨live, rfl⟩ := effect
    exact tidy_destroy tidy live orderly
  | idle object =>
    subst effect
    exact ⟨tidy.settled, tidy.fresh⟩

/-! ## What a step achieves -/

/-- A wrapper that is cleared has asked what it referred to, -/
theorem asks_of_cleared (tidy : s.Tidy) (live : s.alive self)
    (asked : t.asked = (s.get self).toList ++ s.asked)
    (owners : ∀ object, t.owners object = (s.cleared self).owners object) : s.Asks t self := by
  refine ⟨asked, fun object (refers : s.get self = some object) => ?_⟩
  have before := (tidy.of_get live refers).1
  have fewer := owners_cleared live object
  rw [if_pos refers] at fewer
  rw [owners]
  omega

/-- and conversely: a stopped context is not asked, and an exception leaves it where it is. -/
theorem clearable_of_asks (live : s.alive self)
    (idle : s.clear kind self throws = .ok s → t.asked = s.asked)
    (thrown : ∀ u, s.clear kind self throws = .error u → t.wrappers = u.wrappers)
    (asks : s.Asks t self) : s.Clearable kind self throws := by
  intro object refers
  have found := read_of_alive live
  rw [refers] at found
  obtain ⟨asked, unowned⟩ := asks
  rw [refers] at asked
  have effect : s.clear kind self throws = _ := clear_of_get refers
  have running : ¬ (kind = .uniqueScopedContext ∧ s.stopped object = true) := by
    intro stopped
    rw [if_pos stopped] at effect
    have same := asked.symm.trans (idle effect)
    simp at same
  rw [if_neg running] at effect
  refine ⟨?_, fun unique => ?_⟩
  · cases throws with
    | false => rfl
    | true =>
      -- The wrapper would still refer to the object
      have kept : t.wrappers = s.wrappers := thrown (s.ask object) effect
      have owned : 0 < t.owners object := by
        rw [owners, kept]
        exact Population.count_pos_of_read found (by simp)
      have none := unowned object refers
      omega
  · exact Bool.eq_false_iff.mpr fun stopped => running ⟨unique, stopped⟩

theorem achieves_moveConstruct (source : s.alive other) :
    s.Achieves (s.moveConstruct other) (.moveConstruct other) := by
  have found := read_of_alive source
  have old := Population.lt_size_of_read found
  refine ⟨?_, ?_, rfl⟩
  · simp [moveConstruct, get, Population.read_create]
  · simp [moveConstruct, get, Population.read_create, Population.read_write found,
      Nat.ne_of_lt old]

/-- Assigned from another wrapper, the target has what the source had. -/
theorem moved_moveAssign (target : s.alive self) (source : s.alive other)
    (orderly : s.Orderly kind (.moveAssign self other throws)) (differ : self ≠ other) :
    (s.moveAssign kind self other throws).get self = s.get other ∧
      (s.moveAssign kind self other throws).get other = none := by
  obtain ⟨clearable, empty⟩ := orderly
  have source' : (s.cleared self).wrappers.read other = some (s.get other) := by
    rw [read_cleared target, if_neg differ.symm, read_of_alive source]
  have target' : (s.cleared self).wrappers.read self = some none := by
    rw [read_cleared target, if_pos rfl]
  cases kind with
  | uniqueScopedContext =>
    -- There was nothing to move
    have nothing := empty rfl differ
    rw [moveAssign_uniqueScopedContext target source clearable, get_of_read source',
      get_of_read target', nothing]
    exact ⟨rfl, rfl⟩
  | scopedServerConnection =>
    have left : ((s.cleared self).wrappers.write other none).read self = some none := by
      rw [Population.read_write source', if_neg differ, target']
    rw [moveAssign_scopedServerConnection target clearable, get_of_read source']
    simp only [Scoped.set]
    constructor
    · simp [get, Population.read_write left]
    · simp [get, Population.read_write left, Population.read_write source', differ.symm]

theorem achieves_moveAssign_iff (tidy : s.Tidy) (target : s.alive self) (source : s.alive other) :
    s.Achieves (s.moveAssign kind self other throws) (.moveAssign self other throws) ↔
      s.Orderly kind (.moveAssign self other throws) := by
  constructor
  · rintro ⟨moved, asks⟩
    have clearable : s.Clearable kind self throws := by
      refine clearable_of_asks target (fun idle => ?_) (fun u thrown => ?_) asks
      · rw [moveAssign, idle]
        cases kind with
        | uniqueScopedContext => rfl
        | scopedServerConnection => rfl
      · rw [moveAssign, thrown]
    refine ⟨clearable, ?_⟩
    rintro rfl differ
    have empty := (moved differ).2
    rwa [moveAssign_uniqueScopedContext target source clearable, get, read_cleared target,
      if_neg differ.symm] at empty
  · intro orderly
    exact ⟨moved_moveAssign target source orderly,
      asks_of_cleared tidy target (asked_moveAssign target source orderly.1)
        (owners_moveAssign target source orderly.1)⟩

theorem achieves_destroy_iff (tidy : s.Tidy) (live : s.alive self) :
    s.Achieves (s.destroy kind self throws) (.destroy self throws) ↔
      s.Orderly kind (.destroy self throws) := by
  constructor
  · intro asks
    refine clearable_of_asks live (fun idle => ?_) (fun u thrown => ?_) asks
    · rw [destroy, idle]
    · rw [destroy, thrown]
  · intro clearable
    have empty : (s.cleared self).wrappers.read self = some none := by
      rw [read_cleared live, if_pos rfl]
    rw [destroy_of_clearable live clearable]
    refine asks_of_cleared tidy live rfl fun object => ?_
    simpa [owners] using Population.count_destroy (P := (· = some object)) empty

theorem achieves_step_iff (tidy : s.Tidy) (taken : step kind s label = some t) :
    s.Achieves t label ↔ s.Orderly kind label := by
  have effect := (step_eq_some_iff.mp taken).2
  cases label with
  | default | construct | idle object =>
    subst effect
    exact iff_of_true rfl trivial
  | moveConstruct other =>
    obtain ⟨source, rfl⟩ := effect
    exact iff_of_true (achieves_moveConstruct source) trivial
  | moveAssign self other throws =>
    obtain ⟨⟨target, source⟩, rfl⟩ := effect
    exact achieves_moveAssign_iff tidy target source
  | destroy self throws =>
    obtain ⟨live, rfl⟩ := effect
    exact achieves_destroy_iff tidy live

/-- **Scoped wrappers own and stop each object exactly once**, as long as no wrapper is cleared
whose context has stopped, no call throws and wrappers of contexts are assigned from empty ones
only: every object handed to a wrapper has one owner and was not asked, or has no owner any more
and was asked once. Every step on the way achieves what it is to achieve exactly if it
is such a step. -/
theorem scoped_owned_once (kind : WrapperKind) (labels : List ScopedLabel) (s : Scoped)
    (run : Run (step kind) (Orderly kind) {} labels s) :
    (∀ object < s.handed, s.Owned object) ∧
      ∀ label t, step kind s label = some t → (s.Achieves t label ↔ s.Orderly kind label) := by
  have tidy := run.invariant Tidy
    (fun _ _ _ tidy orderly taken => tidy_step tidy orderly taken)
    ⟨by simp, fun _ _ => ⟨rfl, rfl⟩⟩
  exact ⟨tidy.settled, fun label t => achieves_step_iff tidy⟩

/-- A connection is moved through three wrappers, and another one assigned over. -/
def movedConnections : List ScopedLabel :=
  [.construct, .moveConstruct 0, .construct, .moveAssign 2 1 false, .destroy 1 false]

theorem scoped_owned_once_movedConnections :
    ∃ s, Run (step .scopedServerConnection) (Orderly .scopedServerConnection) {}
      movedConnections s ∧ s.handed = 2 ∧ s.get 2 = some 0 ∧ s.asked = [1] ∧ s.Owned 0 ∧
      s.Asks (s.destroy .scopedServerConnection 2 false) 2 := by
  have run : Run (step .scopedServerConnection) (Orderly .scopedServerConnection) {}
      movedConnections _ := ⟨rfl, by decide⟩
  obtain ⟨owned, achieves⟩ := scoped_owned_once .scopedServerConnection movedConnections _ run
  exact ⟨_, run, rfl, rfl, rfl, owned 0 (by decide),
    (achieves (.destroy 2 false) _ rfl).mpr (by decide)⟩

/-- A wrapper of a context is assigned to an empty one, which stays empty. -/
theorem assigned_wrapper_stays_empty :
    ¬ ∀ (kind : WrapperKind) (labels : List ScopedLabel) (s : Scoped),
      Run (step kind) Always {} labels s →
        (∀ object < s.handed, s.Owned object) ∧
          ∀ label t, step kind s label = some t → s.Achieves t label := by
  intro owned
  have moved := (owned .uniqueScopedContext [.construct, .default] _ ⟨rfl, meets_always _ _⟩).2
    (.moveAssign 1 0 false) _ rfl
  have target := (moved.1 (by decide)).1
  exact absurd target (by decide)

end Scoped

end Shoc.Context

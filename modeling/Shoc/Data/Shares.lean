/-
# Shared ownership

Objects that live as long as somebody has a handle to them, as with `std::shared_ptr`.
Handles are created, copied, moved, assigned and destroyed in any order; an object is
released, that is its deleter runs, when the last handle lets it go. An assignment
takes the new object before it lets the old one go, so that assigning a handle to
itself releases nothing.

Objects are known by their number in the order of creation, and no number is used
again.
-/

import Shoc.Data.Population
import Shoc.Transition.Runs

namespace Shoc.Data

open Transition

/-- The handles with what they own, and the objects that were released, the latest first. -/
structure Shares where
  handles : Population (Option ℕ) := {}
  created : ℕ := 0
  released : List ℕ := []

/-- What can be done with handles. A new object comes with its first one. -/
inductive ShareOp
  | create
  | copyConstruct (other : ℕ)
  | moveConstruct (other : ℕ)
  | copyAssign (self other : ℕ)
  | moveAssign (self other : ℕ)
  | reset (self : ℕ)
  | destroy (self : ℕ)
  deriving DecidableEq, Repr

/-- The handles that an operation changes. -/
def ShareOp.written : ShareOp → List ℕ
  | .create | .copyConstruct _ => []
  | .moveConstruct other => [other]
  | .copyAssign self _ | .reset self | .destroy self => [self]
  | .moveAssign self other => [self, other]

namespace Shares

variable (s : Shares) {t : Shares} {op : ShareOp} {self other object : ℕ}

/-- What a handle owns. -/
def get (handle : ℕ) : Option ℕ := (s.handles.read handle).join

/-- How many handles an object has. -/
def holders (object : ℕ) : ℕ := s.handles.count (· = some object)

def alive (handle : ℕ) : Bool := (s.handles.read handle).isSome

/-- What a handle has owned is released if no other handle owns it. -/
def letGo : Option ℕ → Shares
  | none => s
  | some object =>
      if s.holders object = 0 then { s with released := object :: s.released } else s

def create : Shares :=
  { s with handles := s.handles.create (some s.created), created := s.created + 1 }

def copyConstruct (other : ℕ) : Shares :=
  { s with handles := s.handles.create (s.get other) }

def moveConstruct (other : ℕ) : Shares :=
  { s with handles := (s.handles.write other none).create (s.get other) }

def copyAssign (self other : ℕ) : Shares :=
  { s with handles := s.handles.write self (s.get other) }.letGo (s.get self)

def moveAssign (self other : ℕ) : Shares :=
  { s with handles := (s.handles.write other none).write self (s.get other) }.letGo (s.get self)

def reset (self : ℕ) : Shares := { s with handles := s.handles.write self none }.letGo (s.get self)

def destroy (self : ℕ) : Shares := { s with handles := s.handles.destroy self }.letGo (s.get self)

def step (s : Shares) : ShareOp → Option Shares
  | .create => some s.create
  | .copyConstruct other => if s.alive other then some (s.copyConstruct other) else none
  | .moveConstruct other => if s.alive other then some (s.moveConstruct other) else none
  | .copyAssign self other =>
      if s.alive self ∧ s.alive other then some (s.copyAssign self other) else none
  | .moveAssign self other =>
      if s.alive self ∧ s.alive other then some (s.moveAssign self other) else none
  | .reset self => if s.alive self then some (s.reset self) else none
  | .destroy self => if s.alive self then some (s.destroy self) else none

/-- An object is released exactly if it was created and has no handle any more. -/
structure Sound (s : Shares) : Prop where
  created : ∀ object, 0 < s.holders object → object < s.created
  released : ∀ object, object ∈ s.released ↔ object < s.created ∧ s.holders object = 0
  nodup : s.released.Nodup

variable {s}

theorem sound_init : Sound {} := ⟨by simp [holders], by simp [holders], List.nodup_nil⟩

theorem read_of_alive (live : s.alive self) : s.handles.read self = some (s.get self) :=
  Population.read_eq_some_join live

theorem holders_pos (owns : s.get self = some object) : 0 < s.holders object :=
  Population.count_pos_of_read (Option.join_eq_some_iff.mp owns) (by simp)

theorem exists_get_of_holders_pos (held : 0 < s.holders object) :
    ∃ handle, s.get handle = some object := by
  by_contra nobody
  refine Nat.ne_of_gt held (Population.count_eq_zero_iff.mpr fun handle value found => ?_)
  refine decide_eq_false fun owns => nobody ⟨handle, ?_⟩
  rw [get, found, owns]
  rfl

theorem Sound.not_mem_released (sound : s.Sound) (held : 0 < s.holders object) :
    object ∉ s.released := by
  intro gone
  have none := ((sound.released object).mp gone).2
  omega

/-- What one operation does to the objects: it may release one that has lost its last handle. -/
structure Follows (s t : Shares) : Prop where
  sound : t.Sound
  released : t.released = s.released ∨
    ∃ object, t.released = object :: s.released ∧ 0 < s.holders object ∧ t.holders object = 0

/-- Only one object can lose its last handle, which is then let go. -/
theorem follows_letGo {handles : Population (Option ℕ)} {old : Option ℕ} (sound : s.Sound)
    (others : ∀ object, old ≠ some object →
      (handles.count (· = some object) = 0 ↔ s.holders object = 0))
    (held : ∀ object, old = some object → 0 < s.holders object) :
    Follows s ({ s with handles := handles }.letGo old) := by
  cases old with
  | none =>
    have same : ∀ object, handles.count (· = some object) = 0 ↔ s.holders object = 0 :=
      fun object => others object nofun
    refine ⟨⟨fun object pos => ?_, fun object => ?_, sound.nodup⟩, .inl rfl⟩
    · have before := (same object).not.mp (Nat.ne_of_gt pos)
      exact sound.created object (by omega)
    · exact (sound.released object).trans (and_congr_right fun _ => (same object).symm)
  | some old =>
    have was := held old rfl
    have inside := sound.created old was
    have same : ∀ object, object ≠ old →
        (handles.count (· = some object) = 0 ↔ s.holders object = 0) :=
      fun object differ => others object fun equal => differ (Option.some.inj equal).symm
    have created : ∀ object, 0 < handles.count (· = some object) → object < s.created := by
      intro object pos
      by_cases this : object = old
      · exact this ▸ inside
      · have before := (same object this).not.mp (Nat.ne_of_gt pos)
        exact sound.created object (by omega)
    by_cases last : { s with handles := handles }.holders old = 0
    · rw [letGo, if_pos last]
      refine ⟨⟨created, fun object => ?_, ?_⟩, .inr ⟨old, rfl, was, last⟩⟩
      · rw [List.mem_cons, sound.released]
        by_cases this : object = old
        · subst this
          exact ⟨fun _ => ⟨inside, last⟩, fun _ => .inl rfl⟩
        · rw [or_iff_right this]
          exact and_congr_right fun _ => (same object this).symm
      · exact List.nodup_cons.mpr ⟨sound.not_mem_released was, sound.nodup⟩
    · rw [letGo, if_neg last]
      refine ⟨⟨created, fun object => ?_, sound.nodup⟩, .inl rfl⟩
      rw [sound.released]
      by_cases this : object = old
      · subst this
        exact ⟨fun gone => absurd gone.2 (Nat.ne_of_gt was), fun gone => absurd gone.2 last⟩
      · exact and_congr_right fun _ => (same object this).symm

/-- Handles that are only added or moved release nothing. -/
theorem follows_of_holders {handles : Population (Option ℕ)} (sound : s.Sound)
    (same : ∀ object, handles.count (· = some object) = 0 ↔ s.holders object = 0) :
    Follows s { s with handles := handles } :=
  @follows_letGo s handles none sound (fun object _ => same object) nofun

theorem follows_create (sound : s.Sound) : Follows s s.create := by
  have unused : s.holders s.created = 0 := by
    refine Nat.eq_zero_of_not_pos fun held => ?_
    exact absurd (sound.created _ held) (Nat.lt_irrefl _)
  have holders : ∀ object, s.create.holders object =
      s.holders object + if s.created = object then 1 else 0 := by
    intro object
    unfold Shares.holders create
    rw [Population.count_create]
    simp
  refine ⟨⟨fun object pos => ?_, fun object => ?_, sound.nodup⟩, .inl rfl⟩
  · rw [holders] at pos
    by_cases new : s.created = object
    · exact new ▸ Nat.lt_succ_self _
    · rw [if_neg new] at pos
      exact Nat.lt_succ_of_lt (sound.created object pos)
  · rw [holders]
    refine (sound.released object).trans ?_
    by_cases new : s.created = object
    · subst new
      simp
    · have later : object < s.create.created ↔ object < s.created := by
        unfold create
        simp only
        omega
      rw [if_neg new, later, Nat.add_zero]

theorem follows_copyConstruct (sound : s.Sound) (other : ℕ) :
    Follows s (s.copyConstruct other) := by
  refine follows_of_holders sound fun object => ?_
  rw [Population.count_create]
  by_cases owns : s.get other = some object
  · have held := holders_pos owns
    simp only [owns, decide_true, if_true]
    omega
  · simp [owns, holders]

theorem follows_moveConstruct (sound : s.Sound) (source : s.alive other) :
    Follows s (s.moveConstruct other) := by
  refine follows_of_holders sound fun object => ?_
  have less := Population.count_write (P := (· = some object)) (read_of_alive source) none
  rw [Population.count_create]
  simp only [reduceCtorEq, decide_false, Bool.false_eq_true, if_false, Nat.add_zero] at less
  rw [less]
  exact Iff.rfl

theorem follows_reset (sound : s.Sound) (live : s.alive self) : Follows s (s.reset self) := by
  refine follows_letGo sound (fun object differ => ?_) fun object owns => holders_pos owns
  have less := Population.count_write (P := (· = some object)) (read_of_alive live) none
  simp only [differ, decide_false, reduceCtorEq, Bool.false_eq_true, if_false, Nat.add_zero]
    at less
  rw [less]
  exact Iff.rfl

theorem follows_destroy (sound : s.Sound) (live : s.alive self) : Follows s (s.destroy self) := by
  refine follows_letGo sound (fun object differ => ?_) fun object owns => holders_pos owns
  have less := Population.count_destroy (P := (· = some object)) (read_of_alive live)
  simp only [differ, decide_false, Bool.false_eq_true, if_false, Nat.add_zero] at less
  rw [less]
  exact Iff.rfl

theorem follows_copyAssign (sound : s.Sound) (target : s.alive self) :
    Follows s (s.copyAssign self other) := by
  refine follows_letGo sound (fun object differ => ?_) fun object owns => holders_pos owns
  have exchanged := Population.count_write (P := (· = some object)) (read_of_alive target)
    (s.get other)
  simp only [differ, decide_false, Bool.false_eq_true, if_false, Nat.add_zero] at exchanged
  rw [exchanged]
  by_cases owns : s.get other = some object
  · have held := holders_pos owns
    simp only [owns, decide_true, if_true]
    unfold holders at held ⊢
    omega
  · simp [owns, holders]

theorem follows_moveAssign (sound : s.Sound) (target : s.alive self) (source : s.alive other) :
    Follows s (s.moveAssign self other) := by
  refine follows_letGo sound (fun object differ => ?_) fun object owns => holders_pos owns
  by_cases same : self = other
  · subst same
    rw [Population.write_write, Population.write_read (read_of_alive target)]
    exact Iff.rfl
  · have taken := Population.count_write (P := (· = some object)) (read_of_alive source) none
    have found : (s.handles.write other none).read self = some (s.get self) := by
      rw [Population.read_write (read_of_alive source), if_neg same, read_of_alive target]
    have given := Population.count_write (P := (· = some object)) found (s.get other)
    simp only [differ, decide_false, reduceCtorEq, Bool.false_eq_true, if_false, Nat.add_zero]
      at taken given
    rw [given, taken]
    exact Iff.rfl

/-- **The rule of shared ownership.** -/
theorem follows_step (sound : s.Sound) (taken : s.step op = some t) : Follows s t := by
  cases op with
  | create =>
    obtain rfl := Option.some.inj taken
    exact follows_create sound
  | copyConstruct other =>
    simp only [step, Option.ite_none_right_eq_some, Option.some.injEq] at taken
    obtain ⟨-, rfl⟩ := taken
    exact follows_copyConstruct sound other
  | moveConstruct other =>
    simp only [step, Option.ite_none_right_eq_some, Option.some.injEq] at taken
    obtain ⟨source, rfl⟩ := taken
    exact follows_moveConstruct sound source
  | copyAssign self other =>
    simp only [step, Option.ite_none_right_eq_some, Option.some.injEq] at taken
    obtain ⟨⟨target, -⟩, rfl⟩ := taken
    exact follows_copyAssign sound target
  | moveAssign self other =>
    simp only [step, Option.ite_none_right_eq_some, Option.some.injEq] at taken
    obtain ⟨⟨target, source⟩, rfl⟩ := taken
    exact follows_moveAssign sound target source
  | reset self =>
    simp only [step, Option.ite_none_right_eq_some, Option.some.injEq] at taken
    obtain ⟨live, rfl⟩ := taken
    exact follows_reset sound live
  | destroy self =>
    simp only [step, Option.ite_none_right_eq_some, Option.some.injEq] at taken
    obtain ⟨live, rfl⟩ := taken
    exact follows_destroy sound live

/-! ## What an operation leaves alone -/

@[simp] theorem created_letGo {old : Option ℕ} : (s.letGo old).created = s.created := by
  cases old with
  | none => rfl
  | some old =>
    rw [letGo]
    split <;> rfl

@[simp] theorem handles_letGo {old : Option ℕ} : (s.letGo old).handles = s.handles := by
  cases old with
  | none => rfl
  | some old =>
    rw [letGo]
    split <;> rfl

theorem alive_of_get {handle : ℕ} (owns : s.get handle = some object) : s.alive handle := by
  rw [alive, Option.join_eq_some_iff.mp owns]
  rfl

theorem lt_size_of_alive {handle : ℕ} (live : s.alive handle) : handle < s.handles.size :=
  Population.lt_size_of_read (read_of_alive live)

/-- A handle that an operation does not change owns what it has owned. -/
theorem read_step {handle : ℕ} (taken : s.step op = some t) (live : s.alive handle)
    (untouched : handle ∉ op.written) : t.handles.read handle = s.handles.read handle := by
  have old : handle ≠ s.handles.size := Nat.ne_of_lt (lt_size_of_alive live)
  cases op with
  | create =>
    obtain rfl := Option.some.inj taken
    rw [create, Population.read_create, if_neg old]
  | copyConstruct other =>
    simp only [step, Option.ite_none_right_eq_some, Option.some.injEq] at taken
    obtain ⟨-, rfl⟩ := taken
    rw [copyConstruct, Population.read_create, if_neg old]
  | moveConstruct other =>
    simp only [step, Option.ite_none_right_eq_some, Option.some.injEq] at taken
    obtain ⟨source, rfl⟩ := taken
    have differ : handle ≠ other := by simpa [ShareOp.written] using untouched
    rw [moveConstruct, Population.read_create, Population.size_write, if_neg old,
      Population.read_write (read_of_alive source), if_neg differ]
  | copyAssign self other =>
    simp only [step, Option.ite_none_right_eq_some, Option.some.injEq] at taken
    obtain ⟨⟨target, -⟩, rfl⟩ := taken
    have differ : handle ≠ self := by simpa [ShareOp.written] using untouched
    rw [copyAssign, handles_letGo, Population.read_write (read_of_alive target), if_neg differ]
  | moveAssign self other =>
    simp only [step, Option.ite_none_right_eq_some, Option.some.injEq] at taken
    obtain ⟨⟨target, source⟩, rfl⟩ := taken
    obtain ⟨differ, differ'⟩ : handle ≠ self ∧ handle ≠ other := by
      simpa [ShareOp.written] using untouched
    have still : ((s.handles.write other none).read self).isSome :=
      (Population.isSome_read_write source).mpr target
    rw [moveAssign, handles_letGo, Population.read_write (Population.read_eq_some_join still),
      if_neg differ, Population.read_write (read_of_alive source), if_neg differ']
  | reset self =>
    simp only [step, Option.ite_none_right_eq_some, Option.some.injEq] at taken
    obtain ⟨live', rfl⟩ := taken
    have differ : handle ≠ self := by simpa [ShareOp.written] using untouched
    rw [reset, handles_letGo, Population.read_write (read_of_alive live'), if_neg differ]
  | destroy self =>
    simp only [step, Option.ite_none_right_eq_some, Option.some.injEq] at taken
    obtain ⟨-, rfl⟩ := taken
    have differ : handle ≠ self := by simpa [ShareOp.written] using untouched
    rw [destroy, handles_letGo, Population.read_destroy, if_neg differ]

theorem created_step (taken : s.step op = some t) (old : op ≠ .create) :
    t.created = s.created := by
  cases op with
  | create => contradiction
  | copyConstruct other | moveConstruct other | copyAssign self other | moveAssign self other
  | reset self | destroy self =>
    simp only [step, Option.ite_none_right_eq_some, Option.some.injEq] at taken
    simp [← taken.2, copyConstruct, moveConstruct, copyAssign, moveAssign, reset, destroy]

theorem get_step {handle : ℕ} (taken : s.step op = some t) (owns : s.get handle = some object)
    (untouched : handle ∉ op.written) : t.get handle = some object := by
  rw [← owns, get, read_step taken (alive_of_get owns) untouched, get]

theorem get_create : s.create.get s.handles.size = some s.created := by
  rw [get, create, Population.read_create, if_pos rfl]
  rfl

theorem get_copyConstruct : (s.copyConstruct other).get s.handles.size = s.get other := by
  rw [get, copyConstruct, Population.read_create, if_pos rfl]
  rfl

end Shares

end Shoc.Data

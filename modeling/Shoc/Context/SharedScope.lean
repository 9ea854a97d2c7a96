/-
# Shared scopes

What a program gets from `co_await create_context` is a `shared_scoped_context`, a
`std::shared_ptr` to a `unique_scoped_context` that is made in place and never moved.
It can be copied, moved and assigned freely. When the last copy goes, the wrapper is
destroyed, and that asks the context to stop unless it has stopped already. If the
call throws, it does so in a destructor, and the program ends.

Wrappers are numbered in the order in which they were made, as are the contexts they
were made with.
-/

import Shoc.Context.Scoped
import Shoc.Data.Shares

namespace Shoc.Context

open Data Transition

/-- The handles to the wrappers, and the wrappers themselves. -/
structure SharedScope where
  handles : Shares := {}
  scopes : Scoped := {}

/-- What can happen: something is done with a handle, or a context stops. `throws` says whether
the call of `stop` throws, if a wrapper is destroyed. -/
inductive SharedScopeLabel
  | handle (op : ShareOp) (throws : Bool)
  | idle (object : ObjectId)
  deriving DecidableEq, Repr

namespace SharedScope

/-- The wrappers that lost their last handle are destroyed. -/
def sweep (released before : List ℕ) (throws : Bool) (scopes : Scoped) : Scoped :=
  (released.take (released.length - before.length)).foldr
    (fun object scopes => scopes.destroy .uniqueScopedContext object throws) scopes

/-- A new wrapper is made with its first handle. -/
def construct (op : ShareOp) (scopes : Scoped) : Scoped :=
  match op with
  | .create =>
      { scopes with
        wrappers := scopes.wrappers.create (some scopes.handed)
        handed := scopes.handed + 1 }
  | _ => scopes

def step (s : SharedScope) (label : SharedScopeLabel) : Option SharedScope :=
  if s.scopes.terminated then none
  else match label with
    | .handle op throws => (s.handles.step op).map fun after =>
        { handles := after
          scopes := sweep after.released s.handles.released throws (construct op s.scopes) }
    | .idle object =>
        some { s with
          scopes := { s.scopes with stopped := Function.update s.scopes.stopped object true } }

/-- The wrappers that have a handle refer to their own context, which was not asked. The context
of a wrapper that has none was asked, or has stopped. -/
structure Matched (handles : Shares) (scopes : Scoped) : Prop where
  handed : scopes.handed = handles.created
  size : scopes.wrappers.size = handles.created
  live : ∀ object < handles.created, object ∉ handles.released →
    scopes.wrappers.read object = some (some object) ∧ scopes.asked.count object = 0
  gone : ∀ object ∈ handles.released, scopes.asked.count object = 1 ∨
    scopes.stopped object = true ∧ scopes.asked.count object = 0
  fresh : ∀ object, handles.created ≤ object → scopes.asked.count object = 0

variable {s t : SharedScope} {handles after : Shares} {scopes : Scoped} {op : ShareOp}
  {label : SharedScopeLabel} {object : ObjectId} {throws : Bool}

/-- Handles that come and go without making or releasing anything. -/
theorem Matched.of_handles (matched : Matched handles scopes)
    (created : after.created = handles.created) (released : after.released = handles.released) :
    Matched after scopes where
  handed := matched.handed.trans created.symm
  size := matched.size.trans created.symm
  live := by
    rw [created, released]
    exact matched.live
  gone := by
    rw [released]
    exact matched.gone
  fresh := by
    rw [created]
    exact matched.fresh

theorem matched_construct (matched : Matched handles scopes) :
    Matched handles.create (construct .create scopes) := by
  refine ⟨?_, ?_, fun object made live => ?_, matched.gone, fun object new => ?_⟩
  · rw [construct, Shares.create, matched.handed]
  · rw [construct, Shares.create, Population.size_create, matched.size]
  · rw [construct, Population.read_create]
    by_cases new : object = scopes.wrappers.size
    · rw [if_pos new, new, matched.size, matched.handed]
      exact ⟨rfl, matched.fresh _ (Nat.le_refl _)⟩
    · rw [if_neg new]
      rw [matched.size] at new
      exact matched.live object (Nat.lt_of_le_of_ne (Nat.le_of_lt_succ made) new) live
  · exact matched.fresh object (Nat.le_of_succ_le new)

/-- What the destruction of a wrapper does to the others, and to its own context. -/
theorem destroy_effect (throws : Bool) (found : scopes.wrappers.read object = some (some object)) :
    (scopes.destroy .uniqueScopedContext object throws).handed = scopes.handed ∧
    (scopes.destroy .uniqueScopedContext object throws).stopped = scopes.stopped ∧
    (scopes.destroy .uniqueScopedContext object throws).wrappers.size = scopes.wrappers.size ∧
    (∀ other, other ≠ object → (scopes.destroy .uniqueScopedContext object throws).wrappers.read
      other = scopes.wrappers.read other) ∧
    (scopes.destroy .uniqueScopedContext object throws).asked =
      if scopes.stopped object then scopes.asked else object :: scopes.asked := by
  have cleared : scopes.clear .uniqueScopedContext object throws = _ :=
    Scoped.clear_of_get (Scoped.get_of_read found)
  rw [Scoped.destroy, cleared]
  by_cases stopped : scopes.stopped object = true
  · rw [if_pos ⟨rfl, stopped⟩, if_pos stopped]
    refine ⟨rfl, rfl, Population.size_destroy, fun other differ => ?_, rfl⟩
    rw [Population.read_destroy, if_neg differ]
  · rw [if_neg fun both => stopped both.2, if_neg stopped]
    cases throws with
    | true => exact ⟨rfl, rfl, rfl, fun _ _ => rfl, rfl⟩
    | false =>
      refine ⟨rfl, rfl, ?_, fun other differ => ?_, rfl⟩
      · exact Population.size_destroy.trans Population.size_write
      · refine Population.read_destroy.trans ?_
        rw [if_neg differ]
        refine (Population.read_write found).trans ?_
        rw [if_neg differ]

/-- The last handle goes, and the wrapper with it. -/
theorem matched_destroy (matched : Matched handles scopes) (made : object < handles.created)
    (live : object ∉ handles.released) (created : after.created = handles.created)
    (released : after.released = object :: handles.released) :
    Matched after (scopes.destroy .uniqueScopedContext object throws) := by
  obtain ⟨found, unasked⟩ := matched.live object made live
  obtain ⟨handed, stopped, size, read, asked⟩ := destroy_effect throws found
  -- No other context is asked
  have others : ∀ other, other ≠ object →
      (scopes.destroy .uniqueScopedContext object throws).asked.count other =
        scopes.asked.count other := by
    intro other differ
    rw [asked]
    split
    · rfl
    · exact List.count_cons_of_ne differ.symm
  refine ⟨?_, ?_, fun other made' live' => ?_, fun other gone => ?_, fun other new => ?_⟩
  · rw [handed, created, matched.handed]
  · rw [size, created, matched.size]
  · rw [released, List.mem_cons, not_or] at live'
    rw [read other live'.1, others other live'.1]
    exact matched.live other (created ▸ made') live'.2
  · by_cases this : other = object
    · subst this
      rw [asked, stopped]
      split
      · exact .inr ⟨‹_›, unasked⟩
      · rw [List.count_cons_self, unasked]
        exact .inl rfl
    · rw [released, List.mem_cons] at gone
      rw [others other this, stopped]
      exact matched.gone other (gone.resolve_left this)
  · rw [created] at new
    rw [others other (Nat.ne_of_gt (Nat.lt_of_lt_of_le made new))]
    exact matched.fresh other new

/-- No wrapper is destroyed if none lost its last handle, -/
theorem sweep_self (released : List ℕ) (throws : Bool) (scopes : Scoped) :
    sweep released released throws scopes = scopes := by
  simp [sweep]

/-- and otherwise the one that did. -/
theorem sweep_cons (object : ℕ) (released : List ℕ) (throws : Bool) (scopes : Scoped) :
    sweep (object :: released) released throws scopes =
      scopes.destroy .uniqueScopedContext object throws := by
  simp [sweep]

theorem matched_handle (matched : Matched handles scopes) (sound : handles.Sound)
    (taken : handles.step op = some after) :
    Matched after (sweep after.released handles.released throws (construct op scopes)) := by
  by_cases new : op = .create
  · subst new
    obtain rfl := Option.some.inj taken
    rw [Shares.create, sweep_self]
    exact matched_construct matched
  · have same : construct op scopes = scopes := by
      cases op with
      | create => contradiction
      | copyConstruct | moveConstruct | copyAssign | moveAssign | reset | destroy => rfl
    have created := Shares.created_step taken new
    rw [same]
    rcases (Shares.follows_step sound taken).released with released | ⟨object, released, held, -⟩
    · rw [released, sweep_self]
      exact matched.of_handles created released
    · rw [released, sweep_cons]
      exact matched_destroy matched (sound.created object held) (sound.not_mem_released held)
        created released

/-- The invariant: the handles are those of a shared pointer, and the wrappers match them. -/
structure Consistent (s : SharedScope) : Prop where
  sound : s.handles.Sound
  matched : Matched s.handles s.scopes

theorem consistent_init : Consistent {} where
  sound := Shares.sound_init
  matched :=
    { handed := rfl
      size := rfl
      live := by simp
      gone := by simp
      fresh := fun _ _ => rfl }

theorem consistent_step (consistent : s.Consistent) (taken : s.step label = some t) :
    t.Consistent := by
  simp only [step, Option.ite_none_left_eq_some] at taken
  obtain ⟨-, taken⟩ := taken
  cases label with
  | handle op throws =>
    obtain ⟨after, acted, rfl⟩ := Option.map_eq_some_iff.mp taken
    exact ⟨(Shares.follows_step consistent.sound acted).sound,
      matched_handle consistent.matched consistent.sound acted⟩
  | idle object =>
    obtain rfl := Option.some.inj taken
    obtain ⟨sound, handed, size, live, gone, fresh⟩ := consistent
    refine ⟨sound, handed, size, live, fun other released => ?_, fresh⟩
    -- What has stopped stays so
    refine (gone other released).imp_right fun ⟨stopped, unasked⟩ => ⟨?_, unasked⟩
    simp only [Function.update_apply]
    split
    · rfl
    · exact stopped

/-- **A shared scope stops its context once, with its last copy.** In every run, a context that
has a copy of its scope left was not asked to stop by it. One whose last copy is gone was
asked exactly once, or has stopped and was not asked. -/
theorem shared_scope_stops_once (labels : List SharedScopeLabel) (s : SharedScope)
    (run : Run step Always {} labels s) (object : ObjectId) (made : object < s.handles.created) :
    (0 < s.handles.holders object → s.scopes.asked.count object = 0) ∧
      (s.handles.holders object = 0 → s.scopes.asked.count object = 1 ∨
        s.scopes.stopped object = true ∧ s.scopes.asked.count object = 0) := by
  obtain ⟨sound, matched⟩ := run.invariant Consistent
    (fun _ _ _ consistent _ taken => consistent_step consistent taken) consistent_init
  constructor
  · intro held
    exact (matched.live object made (sound.not_mem_released held)).2
  · intro dropped
    exact matched.gone object ((sound.released object).mpr ⟨made, dropped⟩)

/-- A scope is copied, the copy moved over another scope and both originals destroyed; the
context of the other scope has stopped before. -/
def passedOn : List SharedScopeLabel :=
  [.handle .create false, .handle .create false, .handle (.copyConstruct 0) false, .idle 1,
    .handle (.moveAssign 1 2) false, .handle (.destroy 0) false, .handle (.destroy 2) false,
    .handle (.destroy 1) false]

theorem shared_scope_stops_once_passedOn :
    ∃ s, Run step Always {} passedOn s ∧ s.handles.released = [0, 1] ∧
      s.scopes.asked.count 0 = 1 ∧ s.scopes.asked.count 1 = 0 := by
  have run : Run step Always {} passedOn _ := ⟨rfl, meets_always _ _⟩
  rcases (shared_scope_stops_once passedOn _ run 0 (by decide)).2 (by decide) with
    asked | ⟨stopped, -⟩
  · exact ⟨_, run, rfl, asked, rfl⟩
  · exact absurd stopped (by decide)

end SharedScope

end Shoc.Context

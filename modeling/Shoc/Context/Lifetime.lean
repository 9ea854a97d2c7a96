/-
# How long a context lives

A context is owned by `std::shared_ptr`s: the local variable of `create_context`, the
registry of the progress engine, and whatever copies the program has, in awaitables
and scoped wrappers. The SDK only has a plain pointer, which it passes to
`state_changed_callback`. The callback uses the context before and after the
`state_changed` handler, in which the program may run and drop its copies, and in the
end removes a stopped context from the registry.

The callback never uses a context that is gone, provided the SDK does not report that
a context has stopped while it is being started or inside the handler that was told
that it runs. And a context is gone as soon as the SDK has reported that it stopped
and the program has no copy any more.
-/

import Mathlib.Logic.Function.Basic
import Shoc.Data.Shares
import Shoc.Doca.Basic

namespace Shoc.Context

open Data Transition

/-- All handles to contexts; the handle `new_context` of each `create_context` that has not
returned from `doca_ctx_start`; the registry with its handles; the contexts whose state
changes the SDK will report; the callbacks inside a `state_changed` handler, the innermost
first; and the contexts that a callback has used after they were gone. -/
structure Lifetime where
  contexts : Shares := {}
  newContext : ℕ → Option ℕ := fun _ => none
  activeContexts : ℕ → Option ℕ := fun _ => none
  reporting : ℕ → Bool := fun _ => false
  callbacks : List (ℕ × CtxState) := []
  dangling : List ℕ := []

/-- What can happen: `create_context` makes a context and calls `doca_ctx_start`, which fails
or is accepted; the program does something with its handles; the SDK reports a state
change; the handler of the innermost callback returns. -/
inductive LifetimeLabel
  | create
  | startFailed (ctx : ℕ)
  | started (ctx : ℕ)
  | share (op : ShareOp)
  | report (ctx : ℕ) (next : CtxState)
  | stateChanged
  deriving DecidableEq, Repr

namespace Lifetime

variable (s : Lifetime)

/-- The callback uses the context. -/
def touch (ctx : ℕ) : Lifetime :=
  if ctx ∈ s.contexts.released then { s with dangling := ctx :: s.dangling } else s

/-- `create_context` up to and including the call of `doca_ctx_start`. -/
def create : Lifetime :=
  { s with
    contexts := s.contexts.create
    newContext := Function.update s.newContext s.contexts.created (some s.contexts.handles.size)
    reporting := Function.update s.reporting s.contexts.created true }

/-- `start()` throws, which destroys `new_context`. The SDK reports nothing of a context that
it could not start. -/
def startFailed (ctx handle : ℕ) : Lifetime :=
  { s with
    contexts := s.contexts.destroy handle
    newContext := Function.update s.newContext ctx none
    reporting := Function.update s.reporting ctx false }

/-- `active_contexts_[new_context.get()] = new_context`. -/
def register (ctx handle : ℕ) : Lifetime :=
  match s.activeContexts ctx with
  | none =>
      { s with
        contexts := s.contexts.copyConstruct handle
        activeContexts := Function.update s.activeContexts ctx (some s.contexts.handles.size) }
  | some entry => { s with contexts := s.contexts.copyAssign entry handle }

/-- The rest of `create_context`. The awaitable of `start()` has a handle of its own, and
`new_context` passes to the awaitable that is returned. -/
def started (ctx handle : ℕ) : Lifetime :=
  { s with
    contexts := s.contexts.copyConstruct handle
    newContext := Function.update s.newContext ctx none }.register ctx handle

/-- `remove_stopped_context`. -/
def removeStoppedContext (ctx : ℕ) : Lifetime :=
  match s.activeContexts ctx with
  | none => s
  | some entry =>
      { s with
        contexts := s.contexts.destroy entry
        activeContexts := Function.update s.activeContexts ctx none }

/-- `state_changed_callback` up to the call of the handler. -/
def report (ctx : ℕ) (next : CtxState) : Lifetime :=
  { s.touch ctx with
    callbacks := (ctx, next) :: s.callbacks
    reporting := if next = .idle then Function.update s.reporting ctx false else s.reporting }

/-- The rest of `state_changed_callback`, except for the coroutine it resumes, which is the
program's. -/
def afterStateChanged (ctx : ℕ) : CtxState → Lifetime
  | .running => s.touch ctx
  | .idle => (s.touch ctx).removeStoppedContext ctx
  -- The context is not used again
  | .starting | .stopping => s

/-- The handle is the program's: it is neither in the registry nor in a `create_context`. -/
def users (handle : ℕ) : Bool :=
  (s.contexts.get handle).all fun ctx =>
    s.newContext ctx ≠ some handle ∧ s.activeContexts ctx ≠ some handle

/-- The program changes only its own handles, and makes contexts by `create_context`. -/
def Permitted (op : ShareOp) : Prop := op ≠ .create ∧ ∀ handle ∈ op.written, s.users handle

instance (op : ShareOp) : Decidable (s.Permitted op) := inferInstanceAs (Decidable (_ ∧ _))

def step (s : Lifetime) : LifetimeLabel → Option Lifetime
  | .create => some s.create
  | .startFailed ctx => (s.newContext ctx).map (s.startFailed ctx)
  | .started ctx => (s.newContext ctx).map (s.started ctx)
  | .share op =>
      if s.Permitted op then (s.contexts.step op).map ({ s with contexts := · }) else none
  | .report ctx next => if s.reporting ctx then some (s.report ctx next) else none
  | .stateChanged =>
      match s.callbacks with
      | [] => none
      | (ctx, next) :: callers => some ({ s with callbacks := callers }.afterStateChanged ctx next)

/-- What is asked of the SDK: a context is not reported to have stopped while it is started or
inside the handler that was told that it runs, and `doca_ctx_start` returns after the
callbacks it has made. -/
def Orderly (s : Lifetime) : LifetimeLabel → Prop
  | .report ctx .idle => s.newContext ctx = none ∧ (ctx, .running) ∉ s.callbacks
  | .startFailed ctx => (ctx, .running) ∉ s.callbacks ∧ (ctx, .idle) ∉ s.callbacks
  | _ => True

instance (s : Lifetime) : ∀ label, Decidable (s.Orderly label)
  | .report _ .idle | .startFailed _ => inferInstanceAs (Decidable (_ ∧ _))
  | .report _ .starting | .report _ .running | .report _ .stopping | .create | .started _
  | .share _ | .stateChanged => inferInstanceAs (Decidable True)

/-- The SDK still has to do with the context: it will report it, or it is in the callback that
it has stopped. -/
def Engaged (ctx : ℕ) : Prop := s.reporting ctx ∨ (ctx, .idle) ∈ s.callbacks

/-- The program has a handle to the context. -/
def InUse (ctx : ℕ) : Prop := ∃ handle, s.contexts.get handle = some ctx ∧ s.users handle

variable {s} {t : Lifetime} {label : LifetimeLabel} {op : ShareOp} {ctx handle : ℕ}

/-! ## Handles kept for each context -/

/-- Where a handle is kept for a context, it owns the context. -/
def Tracks (kept : ℕ → Option ℕ) (contexts : Shares) : Prop :=
  ∀ ctx handle, kept ctx = some handle → contexts.get handle = some ctx

section Tracks

variable {kept : ℕ → Option ℕ} {contexts after : Shares}

/-- Handles that an operation leaves alone stay what they are. -/
theorem Tracks.step (tracks : Tracks kept contexts) (op : ShareOp)
    (taken : contexts.step op = some after)
    (spared : ∀ ctx handle, kept ctx = some handle → handle ∉ op.written) :
    Tracks kept after := by
  intro ctx handle found
  exact Shares.get_step taken (tracks ctx handle found) (spared ctx handle found)

theorem Tracks.create (tracks : Tracks kept contexts) : Tracks kept contexts.create :=
  tracks.step .create rfl (by simp [ShareOp.written])

theorem Tracks.copyConstruct (tracks : Tracks kept contexts) (live : contexts.alive handle) :
    Tracks kept (contexts.copyConstruct handle) :=
  tracks.step (.copyConstruct handle) (by simp [Shares.step, live])
    (by simp [ShareOp.written])

theorem Tracks.destroy (tracks : Tracks kept contexts) (owns : contexts.get handle = some ctx)
    (unkept : kept ctx = none) : Tracks kept (contexts.destroy handle) := by
  refine tracks.step (.destroy handle) (by simp [Shares.step, Shares.alive_of_get owns]) ?_
  intro other kept' found written
  obtain rfl : kept' = handle := by simpa [ShareOp.written] using written
  have same : some other = some ctx := (tracks other kept' found).symm.trans owns
  obtain rfl := Option.some.inj same
  rw [unkept] at found
  contradiction

theorem Tracks.put (tracks : Tracks kept contexts) (owns : contexts.get handle = some ctx) :
    Tracks (Function.update kept ctx (some handle)) contexts := by
  intro other kept' found
  by_cases same : other = ctx
  · subst same
    rw [Function.update_self] at found
    rwa [← Option.some.inj found]
  · rw [Function.update_of_ne same] at found
    exact tracks other kept' found

theorem Tracks.drop (tracks : Tracks kept contexts) :
    Tracks (Function.update kept ctx none) contexts := by
  intro other handle found
  by_cases same : other = ctx
  · subst same
    rw [Function.update_self] at found
    contradiction
  · rw [Function.update_of_ne same] at found
    exact tracks other handle found

end Tracks

/-! ## What keeps a context -/

/-- A context the SDK still has to do with is kept by the `create_context` that starts it or,
after that, by the registry. -/
structure Kept (s : Lifetime) : Prop where
  sound : s.contexts.Sound
  creating : Tracks s.newContext s.contexts
  registered : Tracks s.activeContexts s.contexts
  apart : ∀ ctx, s.newContext ctx ≠ none → s.activeContexts ctx = none
  engaged : ∀ ctx, s.newContext ctx ≠ none ∨ s.activeContexts ctx ≠ none ↔ s.Engaged ctx
  running : ∀ ctx, (ctx, .running) ∈ s.callbacks → s.reporting ctx = true
  idle : ∀ ctx, (ctx, .idle) ∈ s.callbacks → s.reporting ctx = false ∧ s.newContext ctx = none
  once : ∀ ctx, s.callbacks.count (ctx, .idle) ≤ 1
  dangling : s.dangling = []

theorem kept_init : Kept {} where
  sound := Shares.sound_init
  creating := nofun
  registered := nofun
  apart := fun _ creating => absurd rfl creating
  engaged := by simp [Engaged]
  running := by simp
  idle := by simp
  once := by simp
  dangling := rfl

theorem Kept.held (kept : s.Kept) (engaged : s.Engaged ctx) : 0 < s.contexts.holders ctx := by
  rcases (kept.engaged ctx).mpr engaged with creating | registered
  · obtain ⟨handle, found⟩ := Option.ne_none_iff_exists'.mp creating
    exact Shares.holders_pos (kept.creating ctx handle found)
  · obtain ⟨handle, found⟩ := Option.ne_none_iff_exists'.mp registered
    exact Shares.holders_pos (kept.registered ctx handle found)

theorem Kept.not_released (kept : s.Kept) (engaged : s.Engaged ctx) :
    ctx ∉ s.contexts.released :=
  kept.sound.not_mem_released (kept.held engaged)

/-- A context that is made now is not known to anybody. -/
theorem Kept.not_engaged (kept : s.Kept) : ¬ s.Engaged s.contexts.created := fun engaged =>
  Nat.lt_irrefl _ (kept.sound.created _ (kept.held engaged))

theorem Kept.unused (kept : s.Kept) (idle : ¬ s.Engaged ctx) :
    s.newContext ctx = none ∧ s.activeContexts ctx = none := by
  have neither := (kept.engaged ctx).not.mpr idle
  rw [not_or, not_ne_iff, not_ne_iff] at neither
  exact neither

theorem kept_create (kept : s.Kept) : s.create.Kept := by
  obtain ⟨-, unregistered⟩ := kept.unused kept.not_engaged
  have other : ∀ ctx, (ctx, .idle) ∈ s.callbacks → ctx ≠ s.contexts.created := by
    rintro ctx stopping rfl
    exact kept.not_engaged (.inr stopping)
  refine ⟨(Shares.follows_create kept.sound).sound, kept.creating.create.put Shares.get_create,
    kept.registered.create, fun ctx creating => ?_, fun ctx => ?_, fun ctx inside => ?_,
    fun ctx inside => ?_, kept.once, kept.dangling⟩
  · by_cases new : ctx = s.contexts.created
    · exact new ▸ unregistered
    · exact kept.apart ctx (by simpa [create, new] using creating)
  · by_cases new : ctx = s.contexts.created
    · subst new
      simp [create, Engaged]
    · simpa [create, Engaged, new] using kept.engaged ctx
  · by_cases new : ctx = s.contexts.created
    · simp [create, new]
    · simpa [create, new] using kept.running ctx inside
  · simpa [create, other ctx inside] using kept.idle ctx inside

theorem kept_startFailed (kept : s.Kept) (orderly : s.Orderly (.startFailed ctx))
    (found : s.newContext ctx = some handle) : (s.startFailed ctx handle).Kept := by
  have owns := kept.creating ctx handle found
  have unregistered : s.activeContexts ctx = none := kept.apart ctx (by simp [found])
  obtain ⟨notRunning, notIdle⟩ := orderly
  refine ⟨(Shares.follows_destroy kept.sound (Shares.alive_of_get owns)).sound,
    kept.creating.drop.destroy owns (Function.update_self ..),
    kept.registered.destroy owns unregistered, fun other creating => ?_, fun other => ?_,
    fun other inside => ?_, fun other inside => ?_, kept.once, kept.dangling⟩
  · by_cases same : other = ctx
    · exact same ▸ unregistered
    · exact kept.apart other (by simpa [startFailed, same] using creating)
  · by_cases same : other = ctx
    · subst same
      simp [startFailed, Engaged, unregistered, notIdle]
    · simpa [startFailed, Engaged, same] using kept.engaged other
  · have differ : other ≠ ctx := fun same => notRunning (same ▸ inside)
    simpa [startFailed, differ] using kept.running other inside
  · have differ : other ≠ ctx := fun same => notIdle (same ▸ inside)
    simpa [startFailed, differ] using kept.idle other inside

/-- A new context is not in the registry yet. -/
theorem started_eq (unregistered : s.activeContexts ctx = none) :
    s.started ctx handle =
      { s with
        contexts := (s.contexts.copyConstruct handle).copyConstruct handle
        newContext := Function.update s.newContext ctx none
        activeContexts :=
          Function.update s.activeContexts ctx (some (s.contexts.handles.size + 1)) } := by
  simp [started, register, unregistered, Shares.copyConstruct]

theorem kept_started (kept : s.Kept) (found : s.newContext ctx = some handle) :
    (s.started ctx handle).Kept := by
  have owns := kept.creating ctx handle found
  have live := Shares.alive_of_get owns
  have unregistered : s.activeContexts ctx = none := kept.apart ctx (by simp [found])
  have engaged : s.Engaged ctx := (kept.engaged ctx).mp (.inl (by simp [found]))
  -- The handle of the awaitable, and then that of the registry
  let awaiting := s.contexts.copyConstruct handle
  have first : Tracks s.newContext awaiting := kept.creating.copyConstruct live
  have owns' : awaiting.get handle = some ctx := first ctx handle found
  have live' := Shares.alive_of_get owns'
  have entry : (awaiting.copyConstruct handle).get (s.contexts.handles.size + 1) = some ctx := by
    have copied : (awaiting.copyConstruct handle).get awaiting.handles.size = awaiting.get handle :=
      Shares.get_copyConstruct
    rw [owns'] at copied
    rwa [show awaiting.handles.size = s.contexts.handles.size + 1 from Population.size_create]
      at copied
  rw [started_eq unregistered]
  refine ⟨(Shares.follows_copyConstruct (Shares.follows_copyConstruct kept.sound handle).sound
      handle).sound, (first.copyConstruct live').drop,
    ((kept.registered.copyConstruct live).copyConstruct live').put entry,
    fun other creating => ?_, fun other => ?_, kept.running, fun other inside => ?_, kept.once,
    kept.dangling⟩
  · by_cases same : other = ctx
    · simp [same] at creating
    · simpa [same] using kept.apart other (by simpa [same] using creating)
  · by_cases same : other = ctx
    · subst same
      simpa [Engaged] using engaged
    · simpa [Engaged, same] using kept.engaged other
  · refine ⟨(kept.idle other inside).1, ?_⟩
    by_cases same : other = ctx
    · simp [same]
    · simpa [same] using (kept.idle other inside).2

theorem kept_share (kept : s.Kept) (permitted : s.Permitted op) {after : Shares}
    (taken : s.contexts.step op = some after) : Kept { s with contexts := after } := by
  have spared : ∀ ctx handle, s.contexts.get handle = some ctx →
      s.newContext ctx = some handle ∨ s.activeContexts ctx = some handle →
        handle ∉ op.written := by
    intro ctx handle owns taken' written
    have mine := permitted.2 handle written
    simp only [users, owns, Option.all_some, decide_eq_true_eq] at mine
    rcases taken' with creating | registered
    · exact mine.1 creating
    · exact mine.2 registered
  have creating : Tracks s.newContext after := kept.creating.step op taken fun ctx handle found =>
    spared ctx handle (kept.creating ctx handle found) (.inl found)
  have registered : Tracks s.activeContexts after :=
    kept.registered.step op taken fun ctx handle found =>
      spared ctx handle (kept.registered ctx handle found) (.inr found)
  exact ⟨(Shares.follows_step kept.sound taken).sound, creating, registered, kept.apart,
    kept.engaged, kept.running, kept.idle, kept.once, kept.dangling⟩

/-! ## The callback -/

theorem Kept.touch_eq (kept : s.Kept) (engaged : s.Engaged ctx) : s.touch ctx = s :=
  if_neg (kept.not_released engaged)

theorem kept_report_idle (kept : s.Kept) (orderly : s.Orderly (.report ctx .idle))
    (reporting : s.reporting ctx = true) : (s.report ctx .idle).Kept := by
  obtain ⟨notCreating, notRunning⟩ := orderly
  have notIdle : (ctx, .idle) ∉ s.callbacks := by
    intro inside
    have stopped := (kept.idle ctx inside).1
    rw [reporting] at stopped
    contradiction
  have same : s.report ctx .idle =
      { s with
        callbacks := (ctx, .idle) :: s.callbacks
        reporting := Function.update s.reporting ctx false } := by
    rw [report, kept.touch_eq (.inl reporting), if_pos rfl]
  rw [same]
  refine ⟨kept.sound, kept.creating, kept.registered, kept.apart, fun other => ?_,
    fun other inside => ?_, fun other inside => ?_, fun other => ?_, kept.dangling⟩
  · refine (kept.engaged other).trans ?_
    by_cases this : other = ctx
    · subst this
      simp [Engaged, reporting]
    · simp [Engaged, this]
  · have inside' : (other, .running) ∈ s.callbacks := by simpa using inside
    have differ : other ≠ ctx := fun this => notRunning (this ▸ inside')
    simpa [differ] using kept.running other inside'
  · by_cases this : other = ctx
    · subst this
      simp [notCreating]
    · simpa [this] using kept.idle other (by simpa [this] using inside)
  · rw [List.count_cons]
    by_cases this : other = ctx
    · subst this
      simp [List.count_eq_zero_of_not_mem notIdle]
    · have differ : ¬ ctx = other := fun equal => this equal.symm
      simpa [differ] using kept.once other

theorem kept_report_other {next : CtxState} (kept : s.Kept) (reporting : s.reporting ctx = true)
    (live : next ≠ .idle) : (s.report ctx next).Kept := by
  have same : s.report ctx next = { s with callbacks := (ctx, next) :: s.callbacks } := by
    rw [report, kept.touch_eq (.inl reporting), if_neg live]
  have idle : ∀ other, (other, .idle) ∈ (ctx, next) :: s.callbacks ↔
      (other, .idle) ∈ s.callbacks := by
    intro other
    simp [Ne.symm live]
  rw [same]
  refine ⟨kept.sound, kept.creating, kept.registered, kept.apart, fun other => ?_,
    fun other inside => ?_, fun other inside => ?_, fun other => ?_, kept.dangling⟩
  · rw [kept.engaged, Engaged, Engaged, idle]
  · rcases List.mem_cons.mp inside with equal | inside
    · obtain rfl := congrArg Prod.fst equal
      exact reporting
    · exact kept.running other inside
  · exact kept.idle other ((idle other).mp inside)
  · rw [List.count_cons_of_ne (by simp [live])]
    exact kept.once other

theorem kept_report {next : CtxState} (kept : s.Kept) (orderly : s.Orderly (.report ctx next))
    (reporting : s.reporting ctx = true) : (s.report ctx next).Kept := by
  by_cases idle : next = .idle
  · subst idle
    exact kept_report_idle kept orderly reporting
  · exact kept_report_other kept reporting idle

/-- A callback that is not about a stopped context leaves. -/
theorem kept_pop {next : CtxState} {callers : List (ℕ × CtxState)} (kept : s.Kept)
    (inside : s.callbacks = (ctx, next) :: callers) (live : next ≠ .idle) :
    Kept { s with callbacks := callers } := by
  have idle : ∀ other, (other, .idle) ∈ callers ↔ (other, .idle) ∈ s.callbacks := by
    intro other
    simp [inside, Ne.symm live]
  have among : ∀ call ∈ callers, call ∈ s.callbacks := by
    intro call member
    rw [inside]
    exact List.mem_cons_of_mem _ member
  refine ⟨kept.sound, kept.creating, kept.registered, kept.apart, fun other => ?_,
    fun other member => kept.running other (among _ member),
    fun other member => kept.idle other (among _ member), fun other => ?_, kept.dangling⟩
  · rw [kept.engaged, Engaged, Engaged, idle]
  · have before := kept.once other
    rwa [inside, List.count_cons_of_ne (by simp [live])] at before

/-- The callback of a stopped context takes it out of the registry. -/
theorem kept_remove {callers : List (ℕ × CtxState)} (kept : s.Kept)
    (inside : s.callbacks = (ctx, .idle) :: callers) :
    Kept ({ s with callbacks := callers }.removeStoppedContext ctx) := by
  have stopped : (ctx, .idle) ∈ s.callbacks := inside ▸ List.mem_cons_self
  obtain ⟨silent, notCreating⟩ := kept.idle ctx stopped
  obtain ⟨entry, found⟩ : ∃ entry, s.activeContexts ctx = some entry := by
    refine Option.ne_none_iff_exists'.mp ?_
    exact ((kept.engaged ctx).mpr (.inr stopped)).resolve_left (absurd notCreating)
  have owns := kept.registered ctx entry found
  have last : (ctx, .idle) ∉ callers := by
    have once := kept.once ctx
    rw [inside, List.count_cons_self] at once
    exact List.count_eq_zero.mp (by omega)
  have among : ∀ call ∈ callers, call ∈ s.callbacks := by
    intro call member
    rw [inside]
    exact List.mem_cons_of_mem _ member
  have removed : { s with callbacks := callers }.removeStoppedContext ctx =
      { s with
        callbacks := callers
        contexts := s.contexts.destroy entry
        activeContexts := Function.update s.activeContexts ctx none } := by
    simp [removeStoppedContext, found]
  rw [removed]
  refine ⟨(Shares.follows_destroy kept.sound (Shares.alive_of_get owns)).sound,
    kept.creating.destroy owns notCreating,
    kept.registered.drop.destroy owns (Function.update_self ..), fun other creating => ?_,
    fun other => ?_, fun other member => kept.running other (among _ member),
    fun other member => kept.idle other (among _ member), fun other => ?_, kept.dangling⟩
  · by_cases same : other = ctx
    · simp [same]
    · simpa [same] using kept.apart other creating
  · by_cases same : other = ctx
    · subst same
      simp [Engaged, notCreating, silent, last]
    · simpa [Engaged, same, inside] using kept.engaged other
  · have before := kept.once other
    rw [inside, List.count_cons] at before
    exact Nat.le_trans (Nat.le_add_right _ _) before

theorem kept_stateChanged {next : CtxState} {callers : List (ℕ × CtxState)} (kept : s.Kept)
    (inside : s.callbacks = (ctx, next) :: callers) :
    Kept ({ s with callbacks := callers }.afterStateChanged ctx next) := by
  have untouched : s.Engaged ctx → { s with callbacks := callers }.touch ctx =
      { s with callbacks := callers } := fun engaged => if_neg (kept.not_released engaged)
  have head : (ctx, next) ∈ s.callbacks := inside ▸ List.mem_cons_self
  cases next with
  | running =>
    rw [afterStateChanged, untouched (.inl (kept.running ctx head))]
    exact kept_pop kept inside nofun
  | idle =>
    rw [afterStateChanged, untouched (.inr head)]
    exact kept_remove kept inside
  | starting | stopping => exact kept_pop kept inside nofun

/-! ## Runs -/

theorem kept_step (kept : s.Kept) (orderly : s.Orderly label) (taken : s.step label = some t) :
    t.Kept := by
  cases label with
  | create =>
    obtain rfl := Option.some.inj taken
    exact kept_create kept
  | startFailed ctx =>
    obtain ⟨handle, found, rfl⟩ := Option.map_eq_some_iff.mp taken
    exact kept_startFailed kept orderly found
  | started ctx =>
    obtain ⟨handle, found, rfl⟩ := Option.map_eq_some_iff.mp taken
    exact kept_started kept found
  | share op =>
    simp only [step, Option.ite_none_right_eq_some, Option.map_eq_some_iff] at taken
    obtain ⟨permitted, after, taken, rfl⟩ := taken
    exact kept_share kept permitted taken
  | report ctx next =>
    simp only [step, Option.ite_none_right_eq_some, Option.some.injEq] at taken
    obtain ⟨reporting, rfl⟩ := taken
    exact kept_report kept orderly reporting
  | stateChanged =>
    cases inside : s.callbacks with
    | nil => simp [step, inside] at taken
    | cons call callers =>
      obtain ⟨ctx, next⟩ := call
      simp only [step, inside, Option.some.injEq] at taken
      rw [← taken]
      exact kept_stateChanged kept inside

/-- Somebody has a handle to a context exactly if the SDK or the program has to do with it. -/
theorem Kept.holders_pos_iff (kept : s.Kept) :
    0 < s.contexts.holders ctx ↔ s.Engaged ctx ∨ s.InUse ctx := by
  constructor
  · intro held
    obtain ⟨handle, owns⟩ := Shares.exists_get_of_holders_pos held
    by_cases mine : s.users handle = true
    · exact .inr ⟨handle, owns, mine⟩
    · refine .inl ((kept.engaged ctx).mp ?_)
      simp only [users, owns, Option.all_some, decide_eq_true_eq, not_and_or, not_ne_iff] at mine
      exact mine.imp (by simp +contextual) (by simp +contextual)
  · rintro (engaged | ⟨handle, owns, -⟩)
    · exact kept.held engaged
    · exact Shares.holders_pos owns

/-- **A context lives as long as the SDK or the program has to do with it.** In every orderly
run no callback has used a context that was gone. A context was released, and only once, if
and only if the SDK will not report it any more, it is not in the callback that it has
stopped, and the program has no handle to it. The registry of the engine has exactly the
contexts that were started and that the SDK has still to do with. -/
theorem context_outlives_callbacks (labels : List LifetimeLabel) (s : Lifetime)
    (run : Run step Orderly {} labels s) :
    s.dangling = [] ∧ s.contexts.released.Nodup ∧
      (∀ ctx < s.contexts.created,
        ctx ∈ s.contexts.released ↔ ¬ s.Engaged ctx ∧ ¬ s.InUse ctx) ∧
      ∀ ctx, s.activeContexts ctx ≠ none ↔ s.newContext ctx = none ∧ s.Engaged ctx := by
  have kept := run.invariant Kept (fun _ _ _ kept orderly taken => kept_step kept orderly taken)
    kept_init
  refine ⟨kept.dangling, kept.sound.nodup, fun ctx made => ?_, fun ctx => ?_⟩
  · rw [kept.sound.released, and_iff_right made, ← not_or, ← kept.holders_pos_iff]
    omega
  · rw [← kept.engaged]
    constructor
    · intro registered
      exact ⟨by_contra fun creating => registered (kept.apart ctx creating), .inr registered⟩
    · rintro ⟨notCreating, creating | registered⟩
      · contradiction
      · exact registered

/-- A context runs when `create_context` returns, and the program drops its handles inside the
callback that it has stopped. Another one could not be started. -/
def stoppedUnheard : List LifetimeLabel :=
  [.create, .report 0 .running, .stateChanged, .started 0, .report 0 .stopping, .stateChanged,
    .report 0 .idle, .share (.destroy 0), .share (.destroy 1), .stateChanged, .create,
    .startFailed 1]

theorem context_outlives_callbacks_stoppedUnheard :
    ∃ s, Run step Orderly {} stoppedUnheard s ∧ s.dangling = [] ∧ s.contexts.released = [1, 0] ∧
      ¬ s.InUse 0 ∧ s.activeContexts 0 = none := by
  have run : Run step Orderly {} stoppedUnheard _ := ⟨rfl, by decide⟩
  obtain ⟨unused, -, released, -⟩ := context_outlives_callbacks stoppedUnheard _ run
  exact ⟨_, run, unused, rfl, ((released 0 (by decide)).mp (by decide)).2, rfl⟩

end Lifetime

end Shoc.Context

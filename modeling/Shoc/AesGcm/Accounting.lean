/-
# Key accounting

Every DOCA key handle that was not destroyed is held by exactly one key object, which
knows the context the key was loaded into. As long as this is so, a handle is
destroyed only together with a call of `signal_key_destroyed`, and the counter of
every context is the number of its handles. Assigning over a key that holds a
handle destroys the handle without the call.
-/

import Shoc.AesGcm.Keys

namespace Shoc.AesGcm.Keys

open Data Transition

variable {s t : Keys} {label : KeyLabel} {context : ContextId} {self other : KeyId}
  {handle : KeyHandle}

/-- No key that holds a handle is assigned over, unless to itself. -/
def Spares (s : Keys) : KeyLabel → Prop
  | .moveAssign self other => self = other ∨ (s.key self).handle = none
  | _ => True

instance (s : Keys) : ∀ label, Decidable (s.Spares label)
  | .moveAssign _ _ => inferInstanceAs (Decidable (_ ∨ _))
  | .loadKey _ _ _ _ | .default | .moveConstruct _ | .clear _ | .destroy _ | .stop _ | .idle _ =>
      inferInstanceAs (Decidable True)

/-! ## Who holds a handle -/

/-- How many key objects hold a handle. -/
def holders (keys : Population Key) (handle : KeyHandle) : ℕ :=
  keys.count (·.handle = some handle)

/-- Key objects and handles: an object has both a handle and a context or neither, the handle
is one of that context and was not destroyed, and nobody else holds it. -/
structure Held (keys : Population Key) (handles : Population ContextId) : Prop where
  empty : ∀ i key, keys.read i = some key → key.handle = none → key.parent = none
  known : ∀ i key handle, keys.read i = some key → key.handle = some handle →
    ∃ context, key.parent = some context ∧ handles.read handle = some context
  once : ∀ handle, holders keys handle ≤ 1

/-- Key objects that have the values of earlier ones, each as often as before. -/
theorem Held.of_values {keys keys' : Population Key} {handles : Population ContextId}
    (held : Held keys handles)
    (values : ∀ i key, keys'.read i = some key → key = {} ∨ ∃ j, keys.read j = some key)
    (same : ∀ handle, holders keys' handle = holders keys handle) : Held keys' handles where
  empty i key found := by
    obtain rfl | ⟨j, earlier⟩ := values i key found
    · exact fun _ => rfl
    · exact held.empty j key earlier
  known i key handle found := by
    obtain rfl | ⟨j, earlier⟩ := values i key found
    · exact fun holds => nomatch holds
    · exact held.known j key handle earlier
  once handle := Nat.le_trans (Nat.le_of_eq (same handle)) (held.once handle)

theorem Held.load {keys : Population Key} {handles : Population ContextId}
    (held : Held keys handles) (context : ContextId) :
    Held (keys.create { handle := some handles.size, parent := some context })
      (handles.create context) where
  empty i key found := by
    rw [Population.read_create] at found
    split at found
    · obtain rfl := Option.some.inj found
      exact fun none => nomatch none
    · exact held.empty i key found
  known i key handle found holds := by
    rw [Population.read_create] at found ⊢
    split at found
    · obtain rfl := Option.some.inj found
      obtain rfl := Option.some.inj holds
      exact ⟨context, rfl, if_pos rfl⟩
    · obtain ⟨owner, parent, alive⟩ := held.known i key handle found holds
      refine ⟨owner, parent, ?_⟩
      rw [if_neg (Nat.ne_of_lt (Population.lt_size_of_read alive)), alive]
  once handle := by
    unfold holders
    rw [Population.count_create]
    by_cases new : handle = handles.size
    · -- Nobody can have held the new handle
      have nobody : keys.count (·.handle = some handle) = 0 := by
        refine Population.count_eq_zero_iff.mpr fun i key found => ?_
        refine decide_eq_false fun holds => ?_
        obtain ⟨owner, -, alive⟩ := held.known i key handle found holds
        exact Nat.ne_of_lt (Population.lt_size_of_read alive) new
      rw [nobody]
      split <;> simp
    · simpa [Ne.symm new, holders] using held.once handle

/-- A key object gives up its handle, which is destroyed. -/
theorem Held.drop {keys : Population Key} {handles : Population ContextId} {key : Key}
    (held : Held keys handles) (found : keys.read self = some key)
    (holds : key.handle = some handle) :
    Held (keys.write self {}) (handles.destroy handle) where
  empty i value read := by
    rw [Population.read_write found] at read
    split at read
    · obtain rfl := Option.some.inj read
      exact fun _ => rfl
    · exact held.empty i value read
  known i value kept read value_holds := by
    rw [Population.read_write found] at read
    split at read
    · obtain rfl := Option.some.inj read
      exact nomatch value_holds
    · rename_i differ
      obtain ⟨owner, parent, alive⟩ := held.known i value kept read value_holds
      refine ⟨owner, parent, ?_⟩
      -- Two holders of one handle would count twice
      have other : kept ≠ handle := by
        rintro rfl
        have less := Population.count_write (P := fun k : Key => k.handle = some kept) found {}
        have still : (keys.write self {}).read i = some value := by
          rw [Population.read_write found, if_neg differ, read]
        have pos := Population.count_pos_of_read (P := fun k : Key => k.handle = some kept) still
          (decide_eq_true value_holds)
        have once := held.once kept
        unfold holders at once
        simp [holds] at less pos
        omega
      rw [Population.read_destroy, if_neg other, alive]
  once kept := by
    have less := Population.count_write (P := fun k : Key => k.handle = some kept) found {}
    have once := held.once kept
    unfold holders at once ⊢
    simp at less
    omega

/-! ## What the counters say -/

/-- A context was asked to stop by a call of `doca_ctx_stop`. -/
def Stopped (s : Keys) (context : ContextId) : Prop := context ∈ s.log.map (·.context)

/-- The counters are exact, contexts are stopped only without keys, and those that should be
stopped have been. -/
structure Exact (s : Keys) : Prop where
  counts : ∀ context, (s.contexts context).loadedKeys = s.live context
  stops : ∀ call ∈ s.log, call.live = 0
  gone : ∀ context, (s.contexts context).handle = false → s.Stopped context
  stopped : ∀ context, (s.contexts context).stopRequested = true → s.live context = 0 →
    s.Stopped context

@[simp] theorem keys_doStopIfAble : (s.doStopIfAble context).keys = s.keys := by
  unfold doStopIfAble
  split
  · rfl
  · split <;> rfl

@[simp] theorem handles_doStopIfAble : (s.doStopIfAble context).handles = s.handles := by
  unfold doStopIfAble
  split
  · rfl
  · split <;> rfl

/-- `do_stop_if_able` on a context that was asked to stop. -/
theorem exact_doStopIfAble (counts : ∀ other, (s.contexts other).loadedKeys = s.live other)
    (stops : ∀ call ∈ s.log, call.live = 0)
    (gone : ∀ other, (s.contexts other).handle = false → s.Stopped other)
    (stopped : ∀ other, other ≠ context → (s.contexts other).stopRequested = true →
      s.live other = 0 → s.Stopped other) : (s.doStopIfAble context).Exact := by
  unfold doStopIfAble
  have counted := counts context
  split
  · rename_i loaded
    refine ⟨counts, stops, gone, fun other requested none => ?_⟩
    by_cases same : other = context
    · subst same
      omega
    · exact stopped other same requested none
  · rename_i unloaded
    split
    · rename_i destroyed
      refine ⟨counts, stops, gone, fun other requested none => ?_⟩
      by_cases same : other = context
      · exact same ▸ gone context destroyed
      · exact stopped other same requested none
    · have later : ∀ other, s.Stopped other →
          ({ s with log := ⟨context, s.live context⟩ :: s.log } : Keys).Stopped other :=
        fun other before => List.mem_cons_of_mem _ before
      refine ⟨counts, ?_, fun other down => later other (gone other down),
        fun other requested none => ?_⟩
      · intro call mem
        obtain rfl | mem := List.mem_cons.mp mem
        · simp only
          omega
        · exact stops call mem
      · by_cases same : other = context
        · subst same
          exact List.mem_cons_self
        · exact later other (stopped other same requested none)

theorem exact_stop (counters : s.Exact) : (s.stop context).Exact := by
  refine exact_doStopIfAble (fun other => ?_) counters.stops (fun other => ?_)
    fun other differs => ?_
  · have counted := counters.counts other
    by_cases same : other = context
    · subst same
      simpa [setContext, live] using counted
    · simpa [setContext, live, same] using counted
  · have gone := counters.gone other
    by_cases same : other = context
    · subst same
      simpa [setContext, Stopped] using gone
    · simpa [setContext, Stopped, same] using gone
  · simpa [setContext, Stopped, live, differs] using counters.stopped other

/-- `signal_key_destroyed`, called after the handle of a key of the context was destroyed. -/
theorem exact_signalKeyDestroyed
    (counts : ∀ other, (s.contexts other).loadedKeys =
      s.live other + if other = context then 1 else 0)
    (stops : ∀ call ∈ s.log, call.live = 0)
    (gone : ∀ other, (s.contexts other).handle = false → s.Stopped other)
    (stopped : ∀ other, other ≠ context → (s.contexts other).stopRequested = true →
      s.live other = 0 → s.Stopped other) : (s.signalKeyDestroyed context).Exact := by
  have counts' : ∀ other, ((s.setContext context
      { s.contexts context with
        loadedKeys := (s.contexts context).loadedKeys - 1 }).contexts other).loadedKeys =
      s.live other := by
    intro other
    have counted := counts other
    by_cases same : other = context
    · subst same
      simp only [setContext, Function.update_self]
      simp only [if_true] at counted
      omega
    · simpa [setContext, same] using counted
  have gone' : ∀ other, ((s.setContext context
      { s.contexts context with
        loadedKeys := (s.contexts context).loadedKeys - 1 }).contexts other).handle = false →
      s.Stopped other := by
    intro other
    by_cases same : other = context
    · subst same
      simpa [setContext] using gone other
    · simpa [setContext, same] using gone other
  unfold signalKeyDestroyed
  simp only
  split
  · refine exact_doStopIfAble counts' stops gone' fun other differs => ?_
    simpa [setContext, Stopped, live, differs] using stopped other differs
  · rename_i unrequested
    refine ⟨counts', stops, gone', fun other => ?_⟩
    by_cases same : other = context
    · subst same
      simpa [setContext] using fun requested => absurd requested unrequested
    · simpa [setContext, Stopped, live, same] using stopped other same

theorem keys_signalKeyDestroyed : (s.signalKeyDestroyed context).keys = s.keys := by
  unfold signalKeyDestroyed
  simp only
  split <;> simp [setContext]

theorem handles_signalKeyDestroyed : (s.signalKeyDestroyed context).handles = s.handles := by
  unfold signalKeyDestroyed
  simp only
  split <;> simp [setContext]

/-! ## One step -/

/-- The whole invariant. -/
structure Accounted (s : Keys) : Prop where
  held : Held s.keys s.handles
  counters : s.Exact

theorem read_of_alive (live : s.alive self) : s.keys.read self = some (s.key self) := by
  obtain ⟨value, found⟩ := Option.isSome_iff_exists.mp live
  simp [key, found]

@[simp] theorem key_setKey {value : Key} (live : s.alive self) :
    (s.setKey self value).key other = if other = self then value else s.key other := by
  unfold setKey key
  rw [Population.read_write (read_of_alive live)]
  split <;> rfl

@[simp] theorem alive_setKey {value : Key} (live : s.alive self) :
    (s.setKey self value).alive other = s.alive other := by
  rw [Bool.eq_iff_iff]
  exact Population.isSome_read_write live

theorem setKey_setKey {first second : Key} :
    (s.setKey self first).setKey self second = s.setKey self second := by
  simp [setKey]

theorem setKey_comm {first second : Key} (differ : self ≠ other) :
    (s.setKey self first).setKey other second = (s.setKey other second).setKey self first := by
  simp [setKey, Population.write_comm differ]

/-- An assignment to an empty key moves the members of the source. -/
theorem moveAssign_empty (differ : self ≠ other) (target : s.alive self) (source : s.alive other)
    (empty : s.key self = {}) :
    s.moveAssign self other = (s.setKey other {}).setKey self (s.key other) := by
  simp [moveAssign, resetHandle, target, source, differ, differ.symm, empty]
  rw [setKey_comm differ, setKey_setKey, setKey_setKey]
  simp [target, source]

/-- A key assigned to itself stays what it is. -/
theorem moveAssign_self (live : s.alive self) : s.moveAssign self self = s := by
  simp [moveAssign, resetHandle, live, setKey_setKey]
  simp [setKey, Population.write_read (read_of_alive live)]

/-- Nothing about the counters depends on the key objects. -/
theorem Exact.setKey {value : Key} (counters : s.Exact) : (s.setKey self value).Exact :=
  ⟨counters.counts, counters.stops, counters.gone, counters.stopped⟩

/-- The state in which `clear` tells the context of a key: the handle has been destroyed. -/
def dropped (s : Keys) (self : KeyId) (handle : KeyHandle) (context : ContextId) : Keys :=
  { s with
    keys := s.keys.write self { parent := some context }
    handles := s.handles.destroy handle }

theorem clear_eq (alive : s.alive self) (holds : (s.key self).handle = some handle)
    (parent : (s.key self).parent = some context) :
    s.clear self = ((s.dropped self handle context).signalKeyDestroyed context).setKey self {} := by
  have reset : s.resetHandle self none = s.dropped self handle context := by
    simp [resetHandle, holds, parent, setKey, dropped]
  have told : (s.dropped self handle context).key self = { parent := some context } := by
    simp [dropped, key, Population.read_write (read_of_alive alive)]
  have kept : ((s.dropped self handle context).signalKeyDestroyed context).key self =
      { parent := some context } := by
    unfold key at told ⊢
    rw [keys_signalKeyDestroyed, told]
  unfold clear
  simp only [holds, reset, told, kept]

theorem accounted_clear (accounted : s.Accounted) (alive : s.alive self) :
    (s.clear self).Accounted := by
  have found := read_of_alive alive
  cases holds : (s.key self).handle with
  | none =>
    unfold clear
    simpa [holds] using accounted
  | some handle =>
    obtain ⟨context, parent, known⟩ := accounted.held.known self _ handle found holds
    have counters := accounted.counters
    -- One handle of the context less, and one signal
    have fewer : ∀ other, s.live other =
        (s.dropped self handle context).live other + if other = context then 1 else 0 := by
      intro other
      have less := Population.count_destroy (P := (· = other)) known
      simp only [decide_eq_true_eq, eq_comm (a := context)] at less
      exact less.symm
    rw [clear_eq alive holds parent]
    constructor
    · simp only [setKey, keys_signalKeyDestroyed, handles_signalKeyDestroyed, dropped,
        Population.write_write]
      exact accounted.held.drop found holds
    · refine (exact_signalKeyDestroyed (s := s.dropped self handle context) (fun other => ?_)
        counters.stops counters.gone fun other differs requested none => ?_).setKey
      · have counted := counters.counts other
        rw [fewer other] at counted
        refine counted.trans ?_
        split <;> simp
      · refine counters.stopped other requested ?_
        rw [fewer other, none, if_neg differs]

/-- A key object without a handle is as one that was default constructed. -/
theorem Accounted.eq_empty (accounted : s.Accounted) (alive : s.alive self)
    (empty : (s.key self).handle = none) : s.key self = {} := by
  have parent := accounted.held.empty self _ (read_of_alive alive) empty
  cases found : s.key self with
  | mk handle parent => simp_all

theorem Accounted.read_clear (accounted : s.Accounted) (alive : s.alive self) :
    (s.clear self).keys.read self = some {} := by
  have found := read_of_alive alive
  cases holds : (s.key self).handle with
  | none =>
    have same : s.clear self = s := by simp [clear, holds]
    rw [same, found, accounted.eq_empty alive holds]
  | some handle =>
    obtain ⟨context, parent, -⟩ := accounted.held.known self _ handle found holds
    rw [clear_eq alive holds parent]
    simp [setKey, keys_signalKeyDestroyed, dropped, Population.read_write found]

/-- A step that only moves the values of key objects about. -/
theorem Accounted.of_values {keys : Population Key} (accounted : s.Accounted)
    (values : ∀ i key, keys.read i = some key → key = {} ∨ ∃ j, s.keys.read j = some key)
    (same : ∀ handle, holders keys handle = holders s.keys handle) :
    ({ s with keys } : Keys).Accounted where
  held := accounted.held.of_values values same
  counters :=
    ⟨accounted.counters.counts, accounted.counters.stops, accounted.counters.gone,
      accounted.counters.stopped⟩

theorem accounted_destroy (accounted : s.Accounted) (alive : s.alive self) :
    (s.destroy self).Accounted := by
  refine (accounted_clear accounted alive).of_values (fun i key found => ?_) fun handle => ?_
  · rw [Population.read_destroy] at found
    split at found
    · contradiction
    · exact .inr ⟨i, found⟩
  · have less := Population.count_destroy (P := fun k : Key => k.handle = some handle)
      (accounted.read_clear alive)
    simpa [holders] using less

theorem accounted_default (accounted : s.Accounted) :
    ({ s with keys := s.keys.create {} } : Keys).Accounted := by
  refine accounted.of_values (fun i key found => ?_) fun handle => ?_
  · rw [Population.read_create] at found
    split at found
    · exact .inl (Option.some.inj found).symm
    · exact .inr ⟨i, found⟩
  · simp [holders, Population.count_create]

theorem accounted_moveAssign (accounted : s.Accounted) (target : s.alive self)
    (source : s.alive other) (spares : self = other ∨ (s.key self).handle = none) :
    (s.moveAssign self other).Accounted := by
  by_cases same : self = other
  · subst same
    rw [moveAssign_self target]
    exact accounted
  · -- The two objects exchange their values
    have empty := accounted.eq_empty target (spares.resolve_left same)
    have read := read_of_alive target
    rw [empty] at read
    rw [moveAssign_empty same target source empty]
    refine accounted.of_values (fun i key found => ?_) fun handle => ?_
    · have emptied : (s.keys.write other {}).read self = some {} := by
        rw [Population.read_write (read_of_alive source), if_neg same, read]
      simp only [setKey] at found
      rw [Population.read_write emptied, Population.read_write (read_of_alive source)] at found
      split at found
      · obtain rfl := Option.some.inj found
        exact .inr ⟨other, read_of_alive source⟩
      · split at found
        · exact .inl (Option.some.inj found).symm
        · exact .inr ⟨i, found⟩
    · exact Population.count_exchange (read_of_alive source) read (Ne.symm same)

theorem accounted_moveConstruct (accounted : s.Accounted) (source : s.alive other) :
    (s.moveConstruct other).Accounted := by
  have old := Population.lt_size_of_read (read_of_alive source)
  refine accounted_moveAssign (accounted_default accounted) ?_ ?_ (.inr ?_)
  · simp [alive, Population.read_create]
  · simpa [alive, Population.read_create, Nat.ne_of_lt old] using source
  · simp [key, Population.read_create]

theorem accounted_loadKey {size : ℕ} {type : KeyType} {err : DocaError}
    (accounted : s.Accounted) : (s.loadKey context size type err).Accounted := by
  unfold loadKey
  split
  · exact accounted
  · have counters := accounted.counters
    have more : ∀ other, (s.handles.create context).count (· = other) =
        s.live other + if other = context then 1 else 0 := by
      intro other
      simp only [Population.count_create, decide_eq_true_eq, live, eq_comm (a := context)]
    have kept : ∀ other, ((s.setContext context { s.contexts context with
        loadedKeys := (s.contexts context).loadedKeys + 1 }).contexts other).handle =
          (s.contexts other).handle ∧ ((s.setContext context { s.contexts context with
        loadedKeys := (s.contexts context).loadedKeys + 1 }).contexts other).stopRequested =
          (s.contexts other).stopRequested := by
      intro other
      by_cases same : other = context
      · simp [setContext, same]
      · simp [setContext, same]
    refine ⟨accounted.held.load context, fun other => ?_, counters.stops, fun other gone => ?_,
      fun other requested none => ?_⟩
    · have counted := counters.counts other
      simp only [live, more]
      by_cases same : other = context
      · subst same
        simp [setContext, counted, live]
      · simp [setContext, same, counted, live]
    · exact counters.gone other ((kept other).1 ▸ gone)
    · refine counters.stopped other ((kept other).2 ▸ requested) ?_
      simp only [live, more] at none
      unfold live
      omega

theorem exact_idle (counters : s.Exact) (stopped : s.Stopped context) :
    (s.setContext context { s.contexts context with handle := false }).Exact := by
  refine ⟨fun other => ?_, counters.stops, fun other => ?_, fun other => ?_⟩
  · have counted := counters.counts other
    by_cases same : other = context
    · subst same
      simpa [setContext, live] using counted
    · simpa [setContext, live, same] using counted
  · by_cases same : other = context
    · exact fun _ => same ▸ stopped
    · simpa [setContext, Stopped, same] using counters.gone other
  · by_cases same : other = context
    · exact fun _ _ => same ▸ stopped
    · simpa [setContext, Stopped, live, same] using counters.stopped other

theorem accounted_step (accounted : s.Accounted) (spares : s.Spares label)
    (taken : step s label = some t) : t.Accounted := by
  cases label with
  | loadKey context size type err =>
    simp only [step, Option.ite_none_right_eq_some, Option.some.injEq] at taken
    obtain ⟨-, rfl⟩ := taken
    exact accounted_loadKey accounted
  | default =>
    obtain rfl := Option.some.inj taken
    exact accounted_default accounted
  | moveConstruct other =>
    simp only [step, Option.ite_none_right_eq_some, Option.some.injEq] at taken
    obtain ⟨source, rfl⟩ := taken
    exact accounted_moveConstruct accounted source
  | moveAssign self other =>
    simp only [step, Option.ite_none_right_eq_some, Option.some.injEq] at taken
    obtain ⟨⟨target, source⟩, rfl⟩ := taken
    exact accounted_moveAssign accounted target source spares
  | clear self =>
    simp only [step, Option.ite_none_right_eq_some, Option.some.injEq] at taken
    obtain ⟨alive, rfl⟩ := taken
    exact accounted_clear accounted alive
  | destroy self =>
    simp only [step, Option.ite_none_right_eq_some, Option.some.injEq] at taken
    obtain ⟨alive, rfl⟩ := taken
    exact accounted_destroy accounted alive
  | stop context =>
    obtain rfl := Option.some.inj taken
    refine ⟨?_, exact_stop accounted.counters⟩
    simpa [stop, setContext] using accounted.held
  | idle context =>
    simp only [step, Option.ite_none_right_eq_some, Option.some.injEq] at taken
    obtain ⟨stopped, rfl⟩ := taken
    exact ⟨accounted.held, exact_idle accounted.counters stopped⟩

theorem accounted_init : Accounted {} where
  held := ⟨by simp [Population.read], by simp [Population.read], by simp [holders]⟩
  counters := ⟨by simp [live], by simp, by simp, by simp⟩

/-- **Key accounting is exact** in every run in which no key that holds a handle is assigned
over: the counter of every context is the number of its keys whose handle was not destroyed,
`doca_ctx_stop` was only called without such keys, and it has been called on every context that
was asked to stop and has none. -/
theorem keys_accounted (labels : List KeyLabel) (s : Keys) (run : Run step Spares {} labels s) :
    (∀ context, (s.contexts context).loadedKeys = s.live context) ∧
      (∀ call ∈ s.log, call.live = 0) ∧
      ∀ context, (s.contexts context).stopRequested = true → s.live context = 0 →
        ∃ call ∈ s.log, call.context = context := by
  have accounted := run.invariant Accounted
    (fun _ _ _ accounted spares taken => accounted_step accounted spares taken) accounted_init
  have counters := accounted.counters
  refine ⟨counters.counts, counters.stops, fun context requested none => ?_⟩
  exact List.mem_map.mp (counters.stopped context requested none)

/-- Two keys are loaded, moved and destroyed, and the context is stopped in between. -/
def stoppedBetweenKeys : List KeyLabel :=
  [.loadKey 0 16 .key128 .success, .loadKey 0 32 .key256 .success, .loadKey 0 16 .key256 .success,
    .moveConstruct 0, .moveAssign 0 1, .clear 2, .stop 0, .destroy 0]

theorem keys_accounted_stoppedBetweenKeys :
    ∃ s, Run step Spares {} stoppedBetweenKeys s ∧ s.live 0 = 0 ∧
      (s.contexts 0).loadedKeys = 0 ∧ ∃ call ∈ s.log, call.context = 0 := by
  have run : Run step Spares {} stoppedBetweenKeys _ := ⟨rfl, by decide⟩
  obtain ⟨counts, -, stopped⟩ := keys_accounted stoppedBetweenKeys _ run
  exact ⟨_, run, rfl, counts 0, stopped 0 rfl rfl⟩

/-- A key is assigned to one that holds another: a handle is destroyed and nobody told. -/
theorem assigned_key_stays_counted :
    ¬ ∀ (labels : List KeyLabel) (s : Keys), Run step Always {} labels s →
      (∀ context, (s.contexts context).loadedKeys = s.live context) ∧
        (∀ call ∈ s.log, call.live = 0) ∧
        ∀ context, (s.contexts context).stopRequested = true → s.live context = 0 →
          ∃ call ∈ s.log, call.context = context := by
  intro accounted
  have counts := (accounted [.loadKey 0 16 .key128 .success, .loadKey 0 16 .key128 .success,
    .moveAssign 0 1] _ ⟨rfl, meets_always _ _⟩).1 0
  exact absurd counts (by decide)

end Shoc.AesGcm.Keys

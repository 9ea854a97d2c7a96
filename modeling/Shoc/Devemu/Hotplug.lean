/-
# Hotplug and hotunplug of an emulated PCI device

`pci_dev` keeps a pointer to the receptable of a hotplug in `hot_plug_waiter_`
and of a hotunplug in `hot_unplug_waiter_`, and a null pointer is what lets a
call through. The handler of the state-change event stores the new state through
the pointer. It neither resumes the coroutine that waits there nor resets the
pointer, so there is one operation of each kind in the life of a device.

What the pointers, the completions, the stores and further calls should be like
is said in terms of the states the SDK has reported. Each holds exactly under a
condition on these reports, on every run.
-/

import Shoc.Coro.Receptable
import Shoc.Transition.Runs

namespace Shoc.Devemu

open Coro Transition

/-- `doca_devemu_pci_hotplug_state`. -/
inductive HotplugState
  | powerOff
  | plugInProgress
  | powerOn
  | unplugInProgress
  deriving DecidableEq, Repr

/-- The two operations: `hotplug` and `hotunplug`. -/
inductive Direction
  | plug
  | unplug
  deriving DecidableEq, Repr

/-- The state that completes the operation. -/
def Direction.target : Direction → HotplugState
  | .plug => .powerOn
  | .unplug => .powerOff

/-- An operation the SDK has accepted, with the receptable of its awaitable. `seen` are
the states the SDK has reported since, `writes` what the handler has stored and `resumed`
the coroutines it has resumed, latest first. -/
structure PowerOperation where
  direction : Direction
  receptable : Receptable HotplugState := {}
  seen : List HotplugState := []
  writes : List HotplugState := []
  resumed : List Coro := []

/-- The device; the receptable pointers are numbers of operations. -/
structure PciDev where
  hotPlugWaiter : Option ℕ := none
  hotUnplugWaiter : Option ℕ := none
  operations : List PowerOperation := []

/-- A call with the SDK's answer to it, a `co_await` on the awaitable of an operation, or the
event with what `hotplug_state` returns or throws in the handler. -/
inductive HotplugLabel
  | hotplug (err : DocaError)
  | hotunplug (err : DocaError)
  | coAwait (operation : ℕ) (coro : Coro)
  | event (state : Except DocaError HotplugState)

namespace PowerOperation

/-- An operation as the call leaves it, with an empty receptable. -/
def accepted (direction : Direction) : PowerOperation := { direction := direction }

/-- The SDK has reported the state that completes the operation. -/
def Completed (op : PowerOperation) : Prop := op.direction.target ∈ op.seen

def see (state : HotplugState) (op : PowerOperation) : PowerOperation :=
  { op with seen := state :: op.seen }

/-- `set_value` through the pointer of the device. -/
def store (state : HotplugState) (op : PowerOperation) : PowerOperation :=
  { op with receptable := op.receptable.setValue state, writes := state :: op.writes }

def coAwait (coro : Coro) (op : PowerOperation) : PowerOperation :=
  { op with receptable := op.receptable.await coro }

instance (op : PowerOperation) : Decidable op.Completed :=
  inferInstanceAs (Decidable (_ ∈ _))

end PowerOperation

namespace PciDev

variable {s t : PciDev} {label : HotplugLabel} {labels : List HotplugLabel}

def waiter (s : PciDev) : Direction → Option ℕ
  | .plug => s.hotPlugWaiter
  | .unplug => s.hotUnplugWaiter

def setWaiter (number : ℕ) (s : PciDev) : Direction → PciDev
  | .plug => { s with hotPlugWaiter := some number }
  | .unplug => { s with hotUnplugWaiter := some number }

/-- The receptable of an accepted call is registered. -/
def register (direction : Direction) (s : PciDev) : PciDev :=
  let called : PciDev := { s with operations := s.operations ++ [.accepted direction] }
  called.setWaiter s.operations.length direction

/-- The common body of `hotplug` and `hotunplug`. The SDK is called only if no receptable is
registered, and only an accepted call registers its own. -/
def request (direction : Direction) (err : DocaError) (s : PciDev) : Except DocaError PciDev :=
  if (s.waiter direction).isSome then .error .badState
  else if err ≠ .success then .error err
  else .ok (s.register direction)

/-- `pci_dev::hotplug`. -/
def hotplug (err : DocaError) (s : PciDev) : Except DocaError PciDev := s.request .plug err

/-- `pci_dev::hotunplug`. -/
def hotunplug (err : DocaError) (s : PciDev) : Except DocaError PciDev := s.request .unplug err

/-- Store a state in the registered receptable, if there is one. -/
def storeAt (direction : Direction) (state : HotplugState) (s : PciDev) : PciDev :=
  match s.waiter direction with
  | none => s
  | some number => { s with operations := s.operations.modify number (·.store state) }

/-- `pci_dev::hotplug_state_changed_callback`. -/
def hotplugStateChanged (s : PciDev) : Except DocaError HotplugState → PciDev
  | .ok .powerOff => s.storeAt .unplug .powerOff
  | .ok .powerOn => s.storeAt .plug .powerOn
  | .ok _ => s
  -- The query of the state failed, which is logged
  | .error _ => s

/-- The report of a state, as all operations see it. -/
def report (s : PciDev) : Except DocaError HotplugState → PciDev
  | .ok state => { s with operations := s.operations.map (·.see state) }
  | .error _ => s

/-- One step. A call that throws leaves the device as it was. -/
def step (s : PciDev) : HotplugLabel → Option PciDev
  | .hotplug err => some ((s.hotplug err).toOption.getD s)
  | .hotunplug err => some ((s.hotunplug err).toOption.getD s)
  | .coAwait number coro =>
      if number < s.operations.length then
        some { s with operations := s.operations.modify number (·.coAwait coro) }
      else none
  | .event state => some ((s.report state).hotplugStateChanged state)

/-! ## What is asked for -/

/-- A receptable is registered exactly while an accepted operation is not completed. -/
def PointersMatch (s : PciDev) : Prop :=
  ∀ direction, (s.waiter direction).isSome = true ↔
    ∃ op ∈ s.operations, op.direction = direction ∧ ¬ op.Completed

/-- A completed operation has its state stored, and the coroutine that was suspended on it
was resumed once. -/
def CompletionsResume (s : PciDev) : Prop :=
  ∀ op ∈ s.operations, op.Completed →
    op.receptable.stored = .payload op.direction.target ∧
      op.resumed = op.receptable.waiter.toList

/-- No event but the one that completes an operation writes to its receptable. -/
def WrittenOnce (s : PciDev) : Prop := ∀ op ∈ s.operations, op.writes.length ≤ 1

/-- A call that finds all operations of its kind completed is let through. -/
def AcceptsAnew (s : PciDev) : Prop :=
  ∀ direction, (∀ op ∈ s.operations, op.direction = direction → op.Completed) →
    ∃ next, s.request direction .success = .ok next

/-- No operation is completed. -/
def Uncompleted (s : PciDev) : Prop := ∀ op ∈ s.operations, ¬ op.Completed

/-! ## What the device does -/

/-- What the handler has done to an operation: it has stored each report of the completing
state and resumed nobody. -/
structure Recorded (op : PowerOperation) : Prop where
  writes : op.writes = op.seen.filter (· = op.direction.target)
  stored : op.writes ≠ [] → op.receptable.stored = .payload op.direction.target
  resumed : op.resumed = []

/-- A pointer is set for good by the only operation of its kind. -/
structure Tracks (s : PciDev) : Prop where
  pointer : ∀ direction number, s.waiter direction = some number ↔
    ∃ op, s.operations[number]? = some op ∧ op.direction = direction
  recorded : ∀ op ∈ s.operations, Recorded op

/-- What an event makes of an operation. -/
def react (state : HotplugState) (op : PowerOperation) : PowerOperation :=
  if state = op.direction.target then (op.see state).store state else op.see state

theorem recorded_new (direction : Direction) : Recorded (.accepted direction) :=
  ⟨rfl, fun written => absurd rfl written, rfl⟩

theorem Recorded.coAwait {op : PowerOperation} (h : Recorded op) (coro : Coro) :
    Recorded (op.coAwait coro) := by
  refine ⟨h.writes, fun written => ?_, h.resumed⟩
  rw [PowerOperation.coAwait, Receptable.stored_await]
  exact h.stored written

theorem Recorded.react {op : PowerOperation} (h : Recorded op) (state : HotplugState) :
    Recorded (react state op) := by
  unfold PciDev.react
  split
  · rename_i reached
    refine ⟨?_, fun _ => ?_, h.resumed⟩
    · simp [PowerOperation.see, PowerOperation.store, h.writes, reached]
    · simp [PowerOperation.see, PowerOperation.store, reached]
  · rename_i other
    refine ⟨?_, h.stored, h.resumed⟩
    simp [PowerOperation.see, h.writes, other]

theorem direction_react (state : HotplugState) (op : PowerOperation) :
    (react state op).direction = op.direction := by
  unfold react
  split <;> rfl

@[simp] theorem waiter_storeAt (direction other : Direction) (state : HotplugState) :
    (s.storeAt direction state).waiter other = s.waiter other := by
  unfold storeAt
  split
  · rfl
  · cases other <;> rfl

/-- Two operations of one kind are the same one. -/
theorem Tracks.eq_of_direction {op other : PowerOperation} (h : s.Tracks)
    (mem : op ∈ s.operations) (mem' : other ∈ s.operations)
    (same : op.direction = other.direction) : op = other := by
  obtain ⟨number, found⟩ := List.mem_iff_getElem?.mp mem
  obtain ⟨number', found'⟩ := List.mem_iff_getElem?.mp mem'
  have points := (h.pointer op.direction number).mpr ⟨op, found, rfl⟩
  rw [(h.pointer op.direction number').mpr ⟨other, found', same.symm⟩] at points
  obtain rfl := Option.some.inj points
  exact Option.some.inj (found.symm.trans found')

theorem Tracks.isSome_iff (h : s.Tracks) (direction : Direction) :
    (s.waiter direction).isSome = true ↔ ∃ op ∈ s.operations, op.direction = direction := by
  rw [Option.isSome_iff_exists]
  constructor
  · rintro ⟨number, points⟩
    obtain ⟨op, found, kind⟩ := (h.pointer direction number).mp points
    exact ⟨op, List.mem_of_getElem? found, kind⟩
  · rintro ⟨op, mem, kind⟩
    obtain ⟨number, found⟩ := List.mem_iff_getElem?.mp mem
    exact ⟨number, (h.pointer direction number).mpr ⟨op, found, kind⟩⟩

theorem target_inj {direction other : Direction} :
    direction.target = other.target ↔ direction = other := by
  cases direction <;> cases other <;> simp [Direction.target]

/-- Storing through the pointer reaches the operation of that kind and no other. -/
theorem Tracks.operations_storeAt (h : s.Tracks) (direction : Direction) :
    ((s.report (.ok direction.target)).storeAt direction direction.target).operations =
      s.operations.map (react direction.target) := by
  have same : (s.report (.ok direction.target)).waiter direction = s.waiter direction := by
    cases direction <;> rfl
  apply List.ext_getElem?
  intro number
  rw [storeAt, same]
  cases points : s.waiter direction with
  -- No operation of that kind has been accepted
  | none =>
    simp only [report, List.getElem?_map]
    cases found : s.operations[number]? with
    | none => rfl
    | some op =>
      have other : direction ≠ op.direction := by
        rintro rfl
        simp [(h.pointer op.direction number).mpr ⟨op, found, rfl⟩] at points
      simp [react, target_inj, other]
  | some registered =>
    simp only [report, List.getElem?_modify, List.getElem?_map]
    cases found : s.operations[number]? with
    | none => rfl
    | some op =>
      have kind : registered = number ↔ direction = op.direction := by
        constructor
        · rintro rfl
          obtain ⟨op', found', kind⟩ := (h.pointer direction registered).mp points
          rw [found] at found'
          obtain rfl := Option.some.inj found'
          exact kind.symm
        · rintro rfl
          rw [(h.pointer op.direction number).mpr ⟨op, found, rfl⟩] at points
          exact (Option.some.inj points).symm
      by_cases mine : registered = number
      · simp [react, mine, kind.mp mine]
      · have other : ¬ direction = op.direction := fun same => mine (kind.mpr same)
        simp [react, target_inj, mine, other]

/-- What an event makes of the operations. -/
theorem Tracks.operations_event (h : s.Tracks) (state : HotplugState) :
    ((s.report (.ok state)).hotplugStateChanged (.ok state)).operations =
      s.operations.map (react state) := by
  cases state with
  | powerOff => exact h.operations_storeAt .unplug
  | powerOn => exact h.operations_storeAt .plug
  | _ =>
    refine List.map_congr_left fun op _ => ?_
    unfold react
    cases op.direction <;> rfl

theorem waiter_event (state : Except DocaError HotplugState) (direction : Direction) :
    ((s.report state).hotplugStateChanged state).waiter direction = s.waiter direction := by
  unfold hotplugStateChanged
  split
  all_goals first | rw [waiter_storeAt] | skip
  all_goals cases direction <;> rfl

/-- Changing the operations one by one, each keeping its kind. -/
theorem Tracks.of_getElem? (change : ℕ → PowerOperation → PowerOperation) (h : s.Tracks)
    (waiters : ∀ direction, t.waiter direction = s.waiter direction)
    (changed : ∀ number, t.operations[number]? = s.operations[number]?.map (change number))
    (kind : ∀ number op, (change number op).direction = op.direction)
    (kept : ∀ number op, Recorded op → Recorded (change number op)) : t.Tracks := by
  constructor
  · intro direction number
    rw [waiters, h.pointer, changed]
    cases s.operations[number]? <;> simp [kind]
  · intro op mem
    obtain ⟨number, found⟩ := List.mem_iff_getElem?.mp mem
    rw [changed] at found
    obtain ⟨old, was, rfl⟩ := Option.map_eq_some_iff.mp found
    exact kept number old (h.recorded old (List.mem_of_getElem? was))

theorem operations_register (direction : Direction) :
    (s.register direction).operations = s.operations ++ [.accepted direction] := by
  cases direction <;> rfl

theorem waiter_register (direction other : Direction) :
    (s.register direction).waiter other =
      if other = direction then some s.operations.length else s.waiter other := by
  cases direction <;> cases other <;> rfl

theorem tracks_register (h : s.Tracks) {direction : Direction}
    (unset : s.waiter direction = none) : (s.register direction).Tracks := by
  constructor
  · intro other number
    rw [operations_register, waiter_register]
    rcases Nat.lt_trichotomy number s.operations.length with old | rfl | beyond
    · rw [List.getElem?_append_left old, ← h.pointer]
      split
      · rename_i same
        subst same
        simp only [unset, Option.some.injEq, reduceCtorEq, iff_false]
        omega
      · rfl
    · rw [List.getElem?_concat_length]
      split
      · rename_i same
        exact ⟨fun _ => ⟨_, rfl, same.symm⟩, fun _ => rfl⟩
      · rename_i different
        rw [h.pointer, List.getElem?_eq_none (Nat.le_refl _)]
        simp only [reduceCtorEq, false_and, exists_false, false_iff, not_exists, not_and]
        rintro op made rfl
        obtain rfl := Option.some.inj made
        exact different rfl
    · rw [List.getElem?_eq_none (by rw [List.length_append]; exact beyond)]
      simp only [reduceCtorEq, false_and, exists_false, iff_false]
      split
      · simp only [Option.some.injEq]
        omega
      · rw [h.pointer, List.getElem?_eq_none (Nat.le_of_lt beyond)]
        simp
  · intro op mem
    rw [operations_register, List.mem_append, List.mem_singleton] at mem
    rcases mem with old | rfl
    · exact h.recorded op old
    · exact recorded_new direction

theorem tracks_request (h : s.Tracks) {direction : Direction} {err : DocaError}
    (accepted : s.request direction err = .ok t) : t.Tracks := by
  unfold request at accepted
  split at accepted
  · contradiction
  · rename_i free
    split at accepted
    · contradiction
    · obtain rfl := Except.ok.inj accepted
      exact tracks_register h (by simpa using free)

theorem tracks_step (h : s.Tracks) (taken : step s label = some t) : t.Tracks := by
  cases label with
  | hotplug err =>
    obtain rfl := Option.some.inj taken
    unfold hotplug
    cases accepted : s.request .plug err with
    | ok next => exact tracks_request h accepted
    | error err => exact h
  | hotunplug err =>
    obtain rfl := Option.some.inj taken
    unfold hotunplug
    cases accepted : s.request .unplug err with
    | ok next => exact tracks_request h accepted
    | error err => exact h
  | coAwait number coro =>
    simp only [step, Option.ite_none_right_eq_some, Option.some.injEq] at taken
    obtain ⟨-, rfl⟩ := taken
    refine h.of_getElem? (fun other op => if number = other then op.coAwait coro else op)
      (fun direction => by cases direction <;> rfl) (fun other => ?_) (fun other op => ?_)
      (fun other op recorded => ?_)
    · rw [List.getElem?_modify]
      split <;> simp
    · split <;> rfl
    · split
      · exact recorded.coAwait coro
      · exact recorded
  | event state =>
    obtain rfl := Option.some.inj taken
    cases state with
    | error err => exact h
    | ok state =>
      refine h.of_getElem? (fun _ => react state) (waiter_event _) (fun number => ?_)
        (fun _ => direction_react state) (fun _ _ recorded => recorded.react state)
      rw [h.operations_event, List.getElem?_map]

theorem tracks_of_run (run : Run step Always {} labels s) : s.Tracks := by
  refine run.invariant Tracks (fun _ _ _ h _ taken => tracks_step h taken) ⟨?_, ?_⟩
  · intro direction number
    cases direction <;> simp [waiter]
  · exact fun op mem => by simp at mem

/-! ## Each part and its condition -/

theorem Tracks.pointersMatch_iff (h : s.Tracks) : s.PointersMatch ↔ s.Uncompleted := by
  constructor
  · intro matching op mem completed
    obtain ⟨other, mem', same, uncompleted⟩ :=
      (matching op.direction).mp ((h.isSome_iff op.direction).mpr ⟨op, mem, rfl⟩)
    exact uncompleted (h.eq_of_direction mem mem' same.symm ▸ completed)
  · intro uncompleted direction
    rw [h.isSome_iff]
    exact exists_congr fun op =>
      ⟨fun ⟨mem, kind⟩ => ⟨mem, kind, uncompleted op mem⟩, fun ⟨mem, kind, _⟩ => ⟨mem, kind⟩⟩

theorem Recorded.written_iff {op : PowerOperation} (h : Recorded op) :
    op.writes ≠ [] ↔ op.Completed := by
  rw [h.writes, Ne, List.filter_eq_nil_iff]
  simp [PowerOperation.Completed]

theorem Tracks.completionsResume_iff (h : s.Tracks) :
    s.CompletionsResume ↔ ∀ op ∈ s.operations, op.Completed → op.receptable.waiter = none := by
  refine forall₂_congr fun op mem => forall_congr' fun completed => ?_
  have recorded := h.recorded op mem
  rw [recorded.resumed, @eq_comm _ [], Option.toList_eq_nil_iff]
  exact and_iff_right (recorded.stored (recorded.written_iff.mpr completed))

theorem Tracks.writtenOnce_iff (h : s.Tracks) :
    s.WrittenOnce ↔ ∀ op ∈ s.operations, op.seen.count op.direction.target ≤ 1 := by
  refine forall₂_congr fun op mem => ?_
  rw [(h.recorded op mem).writes, List.count_eq_length_filter]
  simp only [beq_eq_decide]

theorem Tracks.acceptsAnew_iff (h : s.Tracks) : s.AcceptsAnew ↔ s.Uncompleted := by
  constructor
  · intro accepts op mem completed
    obtain ⟨next, accepted⟩ := accepts op.direction fun other mem' same =>
      h.eq_of_direction mem mem' same.symm ▸ completed
    have set := (h.isSome_iff op.direction).mpr ⟨op, mem, rfl⟩
    simp [request, set] at accepted
  · intro uncompleted direction completed
    have unset : ¬ (s.waiter direction).isSome = true := by
      rw [h.isSome_iff]
      rintro ⟨op, mem, kind⟩
      exact uncompleted op mem (completed op mem kind)
    exact ⟨s.register direction, by simp [request, unset]⟩

/-- **The hotplug waiters, and what is left undone.** On every run the pointers match the
outstanding operations, and a further call is let through, exactly as long as no operation
is completed; completions have woken their coroutines exactly if none was suspended on
them; and an operation is written once exactly if its completing state was reported once. -/
theorem hotplug_waiters_match_iff (run : Run step Always {} labels s) :
    (s.PointersMatch ↔ s.Uncompleted) ∧
    (s.CompletionsResume ↔
      ∀ op ∈ s.operations, op.Completed → op.receptable.waiter = none) ∧
    (s.WrittenOnce ↔ ∀ op ∈ s.operations, op.seen.count op.direction.target ≤ 1) ∧
    (s.AcceptsAnew ↔ s.Uncompleted) := by
  have tracks := tracks_of_run run
  exact ⟨tracks.pointersMatch_iff, tracks.completionsResume_iff, tracks.writtenOnce_iff,
    tracks.acceptsAnew_iff⟩

/-- A hotplug in progress with a coroutine suspended on it, after a refused hotunplug. -/
def plugging : List HotplugLabel :=
  [.hotunplug (.other 1), .hotplug .success, .coAwait 0 7, .event (.ok .plugInProgress)]

def pluggingDevice : PciDev where
  hotPlugWaiter := some 0
  operations := [⟨.plug, ⟨.monostate, some 7⟩, [.plugInProgress], [], []⟩]

/-- The device is plugged in and reports so twice. -/
def plugged : List HotplugLabel :=
  [.hotplug .success, .coAwait 0 7, .event (.ok .powerOn), .event (.ok .powerOn)]

def pluggedDevice : PciDev where
  hotPlugWaiter := some 0
  operations := [⟨.plug, ⟨.payload .powerOn, some 7⟩, [.powerOn, .powerOn],
    [.powerOn, .powerOn], []⟩]

theorem hotplug_waiters_match_iff_plugging :
    Run step Always {} plugging pluggingDevice ∧ pluggingDevice.PointersMatch ∧
      pluggingDevice.CompletionsResume ∧ pluggingDevice.WrittenOnce ∧
      pluggingDevice.AcceptsAnew := by
  have run : Run step Always {} plugging pluggingDevice := ⟨rfl, meets_always _ _⟩
  obtain ⟨pointers, resumes, written, accepts⟩ := hotplug_waiters_match_iff run
  have uncompleted : pluggingDevice.Uncompleted := by
    simp [Uncompleted, pluggingDevice, PowerOperation.Completed, Direction.target]
  refine ⟨run, pointers.mpr uncompleted, resumes.mpr ?_, written.mpr ?_, accepts.mpr uncompleted⟩
  · exact fun op mem completed => absurd completed (uncompleted op mem)
  · simp [pluggingDevice, Direction.target]

/-- After the completion the pointer is still there, the coroutine still suspended, the
receptable written again and the next call refused. -/
theorem completion_leaves_waiter :
    ∃ labels s, Run step Always {} labels s ∧ ¬ s.PointersMatch ∧ ¬ s.CompletionsResume ∧
      ¬ s.WrittenOnce ∧ ¬ s.AcceptsAnew := by
  refine ⟨plugged, pluggedDevice, ⟨rfl, meets_always _ _⟩, fun matching => ?_, fun resumes => ?_,
    fun written => ?_, fun accepts => ?_⟩
  · have outstanding := (matching .plug).mp rfl
    simp [pluggedDevice, PowerOperation.Completed, Direction.target] at outstanding
  · have woken := (resumes _ List.mem_cons_self (by decide)).2
    contradiction
  · have once := written _ List.mem_cons_self
    simp at once
  · obtain ⟨next, accepted⟩ := accepts .plug fun op mem _ => by
      obtain rfl := List.mem_singleton.mp mem
      decide
    contradiction

end PciDev

end Shoc.Devemu

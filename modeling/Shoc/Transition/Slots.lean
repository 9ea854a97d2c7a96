/-
# Programs that keep tasks in slots

A coroutine starts tasks and puts their handles into slots, to await them later. A
handle that is assigned over is destroyed, and a task that is still in flight at that
time completes into nothing. To await a slot that was never assigned ends the process.

What a program does with its slots does not depend on when its tasks complete. So one
execution without a device, the plan of the program, says which tasks are awaited,
which handles are lost, and how many tasks there can be at most that are started but
not awaited. The plan bounds what happens in every run with a device.
-/

import Mathlib.Data.List.Infix
import Mathlib.Data.List.Nodup
import Mathlib.Data.List.Perm.Subperm
import Mathlib.Logic.Function.Basic
import Shoc.Transition.Runs

namespace Shoc.Transition

/-- Wait for the task in a slot, or start a task and put its handle into a slot. -/
inductive SlotInstr
  | await (slot : ℕ)
  | start (slot task : ℕ)
  deriving DecidableEq, Repr

/-- The task that an instruction starts. -/
def SlotInstr.task : SlotInstr → Option ℕ
  | .await _ => none
  | .start _ task => some task

/-- The tasks that a program starts, in their order. -/
def tasksOf (program : List SlotInstr) : List ℕ := program.filterMap SlotInstr.task

@[simp] theorem tasksOf_nil : tasksOf [] = [] := rfl

@[simp] theorem tasksOf_await {slot : ℕ} {rest : List SlotInstr} :
    tasksOf (.await slot :: rest) = tasksOf rest := rfl

@[simp] theorem tasksOf_start {slot task : ℕ} {rest : List SlotInstr} :
    tasksOf (.start slot task :: rest) = task :: tasksOf rest := rfl

@[simp] theorem tasksOf_append {program more : List SlotInstr} :
    tasksOf (program ++ more) = tasksOf program ++ tasksOf more := List.filterMap_append

/-! ## Plans -/

/-- What a program has done with its slots: the tasks in them, those that were started and
awaited, those whose handle was assigned over before they were awaited, and the largest number
of tasks that were started but not awaited. -/
structure SlotPlan where
  slots : ℕ → Option ℕ := fun _ => none
  started : List ℕ := []
  awaited : List ℕ := []
  lost : List ℕ := []
  peak : ℕ := 0

namespace SlotPlan

variable {plan next final : SlotPlan} {instr : SlotInstr} {program more : List SlotInstr}
  {slot task : ℕ}

def await (task : ℕ) (plan : SlotPlan) : SlotPlan :=
  { plan with awaited := plan.awaited.insert task }

def start (slot task : ℕ) (plan : SlotPlan) : SlotPlan :=
  { slots := Function.update plan.slots slot (some task)
    started := task :: plan.started
    awaited := plan.awaited
    lost := (plan.slots slot).toList.filter (· ∉ plan.awaited) ++ plan.lost
    peak := max plan.peak (plan.started.length + 1 - plan.awaited.length) }

/-- An empty slot cannot be awaited. -/
def step (plan : SlotPlan) : SlotInstr → Option SlotPlan
  | .await slot => (plan.slots slot).map fun task => plan.await task
  | .start slot task => some (plan.start slot task)

/-- A task is in at most one slot, and one that is lost is in none. -/
structure Sound (plan : SlotPlan) : Prop where
  started : plan.started.Nodup
  awaited : plan.awaited.Nodup
  awaited_subset : plan.awaited ⊆ plan.started
  held : ∀ slot task, plan.slots slot = some task → task ∈ plan.started
  apart : ∀ slot other task, plan.slots slot = some task → plan.slots other = some task →
    slot = other
  lost_subset : plan.lost ⊆ plan.started
  kept : ∀ slot task, plan.slots slot = some task → task ∉ plan.lost
  peak : plan.started.length ≤ plan.awaited.length + plan.peak

theorem sound_empty : ({} : SlotPlan).Sound := by
  constructor <;> simp

theorem sound_await (sound : plan.Sound) (there : plan.slots slot = some task) :
    (plan.await task).Sound := by
  have bound := sound.peak
  have longer : plan.awaited.length ≤ (plan.awaited.insert task).length :=
    (List.sublist_insert task plan.awaited).length_le
  refine ⟨sound.started, sound.awaited.insert, ?_, sound.held, sound.apart, sound.lost_subset,
    sound.kept, by simp only [await]; omega⟩
  intro one among
  rcases List.mem_insert_iff.mp among with rfl | before
  · exact sound.held slot one there
  · exact sound.awaited_subset before

@[simp] theorem slots_start_self : (plan.start slot task).slots slot = some task :=
  Function.update_self _ _ _

theorem slots_start_of_ne {other : ℕ} (differ : other ≠ slot) :
    (plan.start slot task).slots other = plan.slots other :=
  Function.update_of_ne differ _ _

/-- The task in a slot, after a new task was put into one. -/
theorem slots_start {other held : ℕ} (there : (plan.start slot task).slots other = some held) :
    other = slot ∧ held = task ∨ other ≠ slot ∧ plan.slots other = some held := by
  by_cases same : other = slot
  · subst same
    rw [slots_start_self, Option.some.injEq] at there
    exact .inl ⟨rfl, there.symm⟩
  · rw [slots_start_of_ne same] at there
    exact .inr ⟨same, there⟩

theorem sound_start (sound : plan.Sound) (fresh : task ∉ plan.started) :
    (plan.start slot task).Sound := by
  have bound := sound.peak
  have lost : ∀ one ∈ (plan.start slot task).lost, one ∈ plan.started := by
    intro one among
    rcases List.mem_append.mp among with before | before
    · exact sound.held slot one (Option.mem_toList.mp (List.mem_of_mem_filter before))
    · exact sound.lost_subset before
  constructor
  case started => exact List.nodup_cons.mpr ⟨fresh, sound.started⟩
  case awaited => exact sound.awaited
  case awaited_subset => exact fun _ among => .tail _ (sound.awaited_subset among)
  case held =>
    intro other held there
    rcases slots_start there with ⟨-, rfl⟩ | ⟨-, before⟩
    · exact .head _
    · exact .tail _ (sound.held other held before)
  case apart =>
    intro first second held there also
    rcases slots_start there with ⟨rfl, rfl⟩ | ⟨-, before⟩
    · rcases slots_start also with ⟨rfl, -⟩ | ⟨-, before⟩
      · rfl
      · exact absurd (sound.held _ _ before) fresh
    · rcases slots_start also with ⟨-, rfl⟩ | ⟨-, before'⟩
      · exact absurd (sound.held _ _ before) fresh
      · exact sound.apart _ _ _ before before'
  case lost_subset => exact fun one among => .tail _ (lost one among)
  case kept =>
    intro other held there among
    rcases slots_start there with ⟨-, rfl⟩ | ⟨differ, before⟩
    · exact fresh (lost held among)
    -- What was in the slot is in no other
    · rcases List.mem_append.mp among with replaced | earlier
      · have also := Option.mem_toList.mp (List.mem_of_mem_filter replaced)
        exact differ (sound.apart _ _ _ before also)
      · exact sound.kept other held before earlier
  case peak =>
    simp only [start, List.length_cons]
    omega

/-- What one instruction does to the tasks that were started. -/
theorem started_step (taken : plan.step instr = some next) :
    next.started = instr.task.toList ++ plan.started := by
  cases instr with
  | await slot =>
    obtain ⟨task, -, rfl⟩ := Option.map_eq_some_iff.mp taken
    rfl
  | start slot task =>
    cases taken
    rfl

theorem started_exec (done : exec step plan program = some final) :
    final.started = (tasksOf program).reverse ++ plan.started := by
  induction program generalizing plan with
  | nil =>
    cases done
    rfl
  | cons instr rest ih =>
    obtain ⟨next, taken, later⟩ := Option.bind_eq_some_iff.mp done
    rw [ih later, started_step taken]
    cases instr <;> simp [SlotInstr.task]

theorem sound_step (sound : plan.Sound) (fresh : ∀ task ∈ instr.task, task ∉ plan.started)
    (taken : plan.step instr = some next) : next.Sound := by
  cases instr with
  | await slot =>
    obtain ⟨task, there, rfl⟩ := Option.map_eq_some_iff.mp taken
    exact sound_await sound there
  | start slot task =>
    cases taken
    exact sound_start sound (fresh task rfl)

/-- If no task is started twice, then plans are sound. -/
theorem sound_of_exec (distinct : (tasksOf program).Nodup)
    (done : exec step {} program = some plan) : plan.Sound := by
  induction program using List.reverseRecOn generalizing plan with
  | nil =>
    cases done
    exact sound_empty
  | append_singleton earlier last ih =>
    have run : Run step Always {} (earlier ++ [last]) plan := ⟨done, meets_always _ _⟩
    obtain ⟨middle, first, second⟩ := run.split
    obtain ⟨-, next, taken, rest⟩ := Run.cons_iff.mp second
    obtain rfl : next = plan := Option.some.inj rest.reached
    rw [tasksOf_append, List.nodup_append] at distinct
    refine sound_step (ih distinct.1 first.reached) (fun task starts before => ?_) taken
    rw [started_exec first.reached, List.append_nil, List.mem_reverse] at before
    refine distinct.2.2 task before task ?_ rfl
    simpa [tasksOf] using starts

/-- What a plan says only grows. -/
structure Grows (plan next : SlotPlan) : Prop where
  awaited : plan.awaited ⊆ next.awaited
  lost : plan.lost ⊆ next.lost
  peak : plan.peak ≤ next.peak

theorem grows_step (taken : plan.step instr = some next) : plan.Grows next := by
  cases instr with
  | await slot =>
    obtain ⟨task, -, rfl⟩ := Option.map_eq_some_iff.mp taken
    exact ⟨List.subset_insert task plan.awaited, fun _ among => among, Nat.le_refl _⟩
  | start slot task =>
    cases taken
    exact ⟨fun _ among => among, List.subset_append_right _ _, Nat.le_max_left _ _⟩

theorem grows_exec (done : exec step plan program = some final) : plan.Grows final := by
  have run : Run step Always plan program final := ⟨done, meets_always _ _⟩
  refine run.relates (R := Grows) ?_ ?_ fun _ _ _ _ taken => grows_step taken
  · exact fun plan => ⟨fun _ among => among, fun _ among => among, Nat.le_refl _⟩
  · exact fun first second => ⟨fun _ among => second.awaited (first.awaited among),
      fun _ among => second.lost (first.lost among), Nat.le_trans first.peak second.peak⟩

/-- A program has a plan if its first part has one from which the rest has one. -/
theorem exec_append : exec step plan (program ++ more) =
    (exec step plan program).bind fun middle => exec step middle more := by
  induction program generalizing plan with
  | nil => rfl
  | cons instr rest ih =>
    rw [List.cons_append, exec, exec, Option.bind_assoc]
    exact congrArg _ (funext fun _ => ih)

end SlotPlan

/-! ## Runs with a device -/

/-- What becomes of a task: it is refused when it is started, or it fails or succeeds later and
leaves a value in its memory. -/
inductive Reply (α : Type*)
  | refused
  | failed (value : α)
  | succeeded (value : α)
  deriving DecidableEq, Repr

namespace Reply

variable {α : Type*}

def isRefused : Reply α → Bool
  | .refused => true
  | _ => false

def succeeds : Reply α → Bool
  | .succeeded _ => true
  | _ => false

/-- What is in the memory of a task in the end. -/
def value (old : α) : Reply α → α
  | .refused => old
  | .failed value | .succeeded value => value

end Reply

/-- How a coroutine ends before the end of its program: with the process, or by returning. -/
inductive Ending
  | terminated
  | returned
  deriving DecidableEq, Repr

/-- A coroutine in the middle of its program, and its tasks: those in flight, those whose result
is there, those whose handle was destroyed while they were in flight, and those among them that
have completed nevertheless. -/
structure Window (α : Type*) where
  program : List SlotInstr
  memory : ℕ → α
  plan : SlotPlan := {}
  inFlight : List ℕ := []
  settled : List ℕ := []
  dropped : List ℕ := []
  dangling : List ℕ := []
  ended : Option Ending := none

/-- The coroutine goes on, or the device completes a task. -/
inductive WindowLabel
  | run
  | complete (task : ℕ)
  deriving DecidableEq, Repr

namespace Window

variable {α : Type*} (device : ℕ → Reply α) (strict : Bool)

/-- A task is started, and the handle that was in the slot is destroyed. -/
def launch (slot task : ℕ) (s : Window α) : Window α :=
  { s with
    plan := s.plan.start slot task
    inFlight := if (device task).isRefused then s.inFlight else task :: s.inFlight
    settled := if (device task).isRefused then task :: s.settled else s.settled
    dropped := (s.plan.slots slot).toList.filter (· ∈ s.inFlight) ++ s.dropped }

/-- The coroutine returns, and all handles are destroyed. -/
def giveUp (s : Window α) : Window α :=
  { s with
    ended := some .returned
    dropped := s.inFlight.filter (· ∉ s.dropped) ++ s.dropped }

/-- One instruction. If the program is strict, then it ends with the first task that does not
succeed. -/
def take (s : Window α) (rest : List SlotInstr) : SlotInstr → Option (Window α)
  | .await slot =>
      match s.plan.slots slot with
      | none => some { s with ended := some .terminated }
      | some task =>
          if task ∈ s.settled then
            if strict ∧ (device task).succeeds = false then some s.giveUp
            else some { s with program := rest, plan := s.plan.await task }
          else none
  | .start slot task => some { s.launch device slot task with program := rest }

/-- The result of a task is written, wherever its handle was. -/
def finish (task : ℕ) (s : Window α) : Window α :=
  { s with
    memory := Function.update s.memory task ((device task).value (s.memory task))
    inFlight := s.inFlight.erase task
    settled := if task ∈ s.dropped then s.settled else task :: s.settled
    dangling := if task ∈ s.dropped then task :: s.dangling else s.dangling }

def step (s : Window α) : WindowLabel → Option (Window α)
  | .run =>
      match s.ended, s.program with
      | none, instr :: rest => s.take device strict rest instr
      | _, _ => none
  | .complete task =>
      if s.ended ≠ some .terminated ∧ task ∈ s.inFlight then some (s.finish device task) else none

variable {device strict} {s t : Window α} {program rest : List SlotInstr} {memory : ℕ → α}
  {slot task : ℕ} {label : WindowLabel}

/-- What the coroutine can do next. -/
theorem run_cases (taken : s.step device strict .run = some t) :
    s.ended = none ∧
    ((∃ slot rest, s.program = .await slot :: rest ∧ s.plan.slots slot = none ∧
        t = { s with ended := some .terminated }) ∨
      (∃ slot rest task, s.program = .await slot :: rest ∧ s.plan.slots slot = some task ∧
        task ∈ s.settled ∧ strict = true ∧ (device task).succeeds = false ∧ t = s.giveUp) ∨
      (∃ slot rest task, s.program = .await slot :: rest ∧ s.plan.slots slot = some task ∧
        task ∈ s.settled ∧ ¬ (strict = true ∧ (device task).succeeds = false) ∧
        t = { s with program := rest, plan := s.plan.await task }) ∨
      ∃ slot task rest, s.program = .start slot task :: rest ∧
        t = { s.launch device slot task with program := rest }) := by
  simp only [step] at taken
  split at taken
  · rename_i instr rest going program
    refine ⟨going, ?_⟩
    cases instr with
    | await slot =>
      simp only [take] at taken
      split at taken
      · rename_i empty
        exact .inl ⟨slot, rest, program, empty, (Option.some.inj taken).symm⟩
      · rename_i task there
        rw [Option.ite_none_right_eq_some] at taken
        obtain ⟨settled, taken⟩ := taken
        split at taken
        · rename_i fails
          exact .inr (.inl ⟨slot, rest, task, program, there, settled, fails.1, fails.2,
            (Option.some.inj taken).symm⟩)
        · rename_i holds
          exact .inr (.inr (.inl ⟨slot, rest, task, program, there, settled, holds,
            (Option.some.inj taken).symm⟩))
    | start slot task =>
      exact .inr (.inr (.inr ⟨slot, task, rest, program, (Option.some.inj taken).symm⟩))
  · cases taken

/-- How the tasks of a coroutine stand to the plan of its program and to their memory. -/
structure Sound (device : ℕ → Reply α) (strict : Bool) (program : List SlotInstr)
    (memory : ℕ → α) (s : Window α) : Prop where
  planned : ∃ done, done ++ s.program = program ∧ exec SlotPlan.step {} done = some s.plan
  awaited : s.plan.awaited ⊆ s.settled
  succeeded : strict = true → ∀ task ∈ s.plan.awaited, (device task).succeeds = true
  nodup : s.inFlight.Nodup
  started : ∀ task, task ∈ s.plan.started ↔
    task ∈ s.inFlight ∨ task ∈ s.settled ∨ task ∈ s.dangling
  pending : ∀ task ∈ s.inFlight, task ∉ s.settled ∧ task ∉ s.dangling
  dangling : s.dangling ⊆ s.dropped
  dropped : s.ended ≠ some .returned → s.dropped ⊆ s.plan.lost
  written : ∀ task, task ∈ s.settled ∨ task ∈ s.dangling →
    s.memory task = (device task).value (memory task)
  unwritten : ∀ task, task ∉ s.settled → task ∉ s.dangling → s.memory task = memory task
  terminated : s.ended = some .terminated → exec SlotPlan.step {} program = none
  returned : s.ended = some .returned →
    strict = true ∧ ∃ task ∈ s.settled, (device task).succeeds = false

theorem sound_start : Sound device strict program memory { program, memory } := by
  constructor
  case planned => exact ⟨[], rfl, rfl⟩
  all_goals simp

/-- A task that the program has yet to start was not started. -/
theorem Sound.fresh (sound : s.Sound device strict program memory)
    (distinct : (tasksOf program).Nodup) (next : s.program = .start slot task :: rest) :
    task ∉ s.plan.started := by
  obtain ⟨done, rfl, planned⟩ := sound.planned
  rw [next, tasksOf_append, List.nodup_append] at distinct
  rw [SlotPlan.started_exec planned, List.append_nil, List.mem_reverse]
  exact fun before => distinct.2.2 task before task (by simp) rfl

theorem Sound.step_plan (sound : s.Sound device strict program memory) {instr : SlotInstr}
    {plan : SlotPlan} (next : s.program = instr :: rest) (taken : s.plan.step instr = some plan) :
    ∃ done, done ++ rest = program ∧ exec SlotPlan.step {} done = some plan := by
  obtain ⟨done, rfl, planned⟩ := sound.planned
  refine ⟨done ++ [instr], by rw [next, List.append_assoc]; rfl, ?_⟩
  rw [SlotPlan.exec_append, planned]
  simp [exec, taken]

theorem sound_giveUp (sound : s.Sound device strict program memory) (settled : task ∈ s.settled)
    (failing : strict = true) (fails : (device task).succeeds = false) :
    s.giveUp.Sound device strict program memory :=
  { planned := sound.planned
    awaited := sound.awaited
    succeeded := sound.succeeded
    nodup := sound.nodup
    started := sound.started
    pending := sound.pending
    dangling := fun _ among => List.mem_append.mpr (.inr (sound.dangling among))
    dropped := fun ended => absurd rfl ended
    written := sound.written
    unwritten := sound.unwritten
    terminated := fun ended => by simp [giveUp] at ended
    returned := fun _ => ⟨failing, task, settled, fails⟩ }

theorem sound_launch (sound : s.Sound device strict program memory) (going : s.ended = none)
    (distinct : (tasksOf program).Nodup) (next : s.program = .start slot task :: rest) :
    ({ s.launch device slot task with program := rest } : Window α).Sound device strict program
      memory := by
  have fresh := sound.fresh distinct next
  have unseen := mt (sound.started task).mpr fresh
  rw [not_or, not_or] at unseen
  obtain ⟨notFlying, notSettled, notDangling⟩ := unseen
  constructor
  case planned => exact sound.step_plan next rfl
  case awaited =>
    intro one among
    have before := sound.awaited among
    simp only [launch]
    split
    · exact .tail _ before
    · exact before
  case succeeded => exact sound.succeeded
  case nodup =>
    simp only [launch]
    split
    · exact sound.nodup
    · exact List.nodup_cons.mpr ⟨notFlying, sound.nodup⟩
  case started =>
    intro one
    have before := sound.started one
    simp only [launch, SlotPlan.start, List.mem_cons, before]
    split <;> simp only [List.mem_cons] <;> tauto
  case pending =>
    intro one among
    simp only [launch] at among ⊢
    split at among
    · rename_i refused
      rw [if_pos refused]
      have before := sound.pending one among
      refine ⟨fun settled => ?_, before.2⟩
      rcases List.mem_cons.mp settled with rfl | settled
      · exact notFlying among
      · exact before.1 settled
    · rename_i accepted
      rw [if_neg accepted]
      rcases List.mem_cons.mp among with rfl | among
      · exact ⟨notSettled, notDangling⟩
      · exact sound.pending one among
  case dangling => exact fun _ among => List.mem_append.mpr (.inr (sound.dangling among))
  case dropped =>
    intro _ one among
    have before := sound.dropped (by simp [going])
    simp only [launch] at among
    rcases List.mem_append.mp among with replaced | earlier
    -- A task in flight was not awaited
    · obtain ⟨there, flying⟩ := List.mem_filter.mp replaced
      refine List.mem_append.mpr (.inl (List.mem_filter.mpr ⟨there, ?_⟩))
      have unsettled := (sound.pending one (by simpa using flying)).1
      simpa using fun awaited => unsettled (sound.awaited awaited)
    · exact List.mem_append.mpr (.inr (before earlier))
  case written =>
    intro one there
    have before := sound.written one
    simp only [launch] at there ⊢
    split at there
    · rename_i refused
      rcases there with settled | dangling
      · rcases List.mem_cons.mp settled with rfl | settled
        -- Nothing is written for a task that is refused
        · rw [sound.unwritten one notSettled notDangling]
          cases reply : device one <;> simp_all [Reply.isRefused, Reply.value]
        · exact before (.inl settled)
      · exact before (.inr dangling)
    · exact before there
  case unwritten =>
    intro one unsettled undangled
    refine sound.unwritten one (fun settled => unsettled ?_) undangled
    simp only [launch]
    split
    · exact .tail _ settled
    · exact settled
  case terminated => exact fun ended => by simp [launch, going] at ended
  case returned => exact fun ended => by simp [launch, going] at ended

theorem sound_finish (sound : s.Sound device strict program memory) (flying : task ∈ s.inFlight) :
    (s.finish device task).Sound device strict program memory := by
  obtain ⟨unsettled, undangled⟩ := sound.pending task flying
  have still : ∀ one, one ∈ s.inFlight.erase task ↔ one ≠ task ∧ one ∈ s.inFlight :=
    fun one => sound.nodup.mem_erase_iff
  constructor
  case planned => exact sound.planned
  case awaited =>
    intro one among
    have before := sound.awaited among
    simp only [finish]
    split
    · exact before
    · exact .tail _ before
  case succeeded => exact sound.succeeded
  case nodup => exact sound.nodup.erase task
  case started =>
    intro one
    rw [finish, sound.started one, still]
    by_cases same : one = task
    · subst same
      simp only [flying, true_or, ne_eq, not_true_eq_false, false_and, false_or, true_iff]
      split <;> simp
    · simp only [ne_eq, same, not_false_eq_true, true_and]
      split <;> simp [same]
  case pending =>
    intro one among
    obtain ⟨differ, among⟩ := (still one).mp among
    have before := sound.pending one among
    simp only [finish]
    split <;> simp [differ, before]
  case dangling =>
    intro one among
    simp only [finish] at among ⊢
    split at among
    · rename_i destroyed
      rcases List.mem_cons.mp among with rfl | among
      · exact destroyed
      · exact sound.dangling among
    · exact sound.dangling among
  case dropped => exact sound.dropped
  case written =>
    intro one there
    by_cases same : one = task
    · subst same
      simp [finish, sound.unwritten one unsettled undangled]
    · simp only [finish, Function.update_of_ne same]
      refine sound.written one ?_
      simp only [finish] at there
      split at there <;> simpa [same] using there
  case unwritten =>
    intro one unsettled' undangled'
    simp only [finish] at unsettled' undangled' ⊢
    by_cases same : one = task
    · subst same
      split at unsettled' <;> simp_all
    · rw [Function.update_of_ne same]
      split at unsettled' <;> exact sound.unwritten one (by simp_all) (by simp_all)
  case terminated => exact sound.terminated
  case returned =>
    intro ended
    obtain ⟨failing, one, settled, fails⟩ := sound.returned ended
    refine ⟨failing, one, ?_, fails⟩
    simp only [finish]
    split
    · exact settled
    · exact .tail _ settled

theorem sound_step (distinct : (tasksOf program).Nodup)
    (sound : s.Sound device strict program memory) (taken : s.step device strict label = some t) :
    t.Sound device strict program memory := by
  cases label with
  | run =>
    obtain ⟨going, cases⟩ := run_cases taken
    have within := sound.dropped (by simp [going])
    rcases cases with ⟨slot, rest, next, empty, rfl⟩ |
      ⟨slot, rest, task, next, there, settled, failing, fails, rfl⟩ |
      ⟨slot, rest, task, next, there, settled, holds, rfl⟩ | ⟨slot, task, rest, next, rfl⟩
    · refine { sound with dropped := fun _ => within, terminated := fun _ => ?_, returned := ?_ }
      · obtain ⟨done, rfl, planned⟩ := sound.planned
        rw [SlotPlan.exec_append, planned, next]
        simp [exec, SlotPlan.step, empty]
      · exact fun ended => by simp at ended
    · exact sound_giveUp sound settled failing fails
    · refine { sound with planned := sound.step_plan next (by simp [SlotPlan.step, there]),
                          awaited := fun one among => ?_
                          succeeded := fun failing one among => ?_ }
      · rcases List.mem_insert_iff.mp among with rfl | among
        · exact settled
        · exact sound.awaited among
      · rcases List.mem_insert_iff.mp among with rfl | among
        · exact eq_true_of_ne_false fun fails => holds ⟨failing, fails⟩
        · exact sound.succeeded failing one among
    · exact sound_launch sound going distinct next
  | complete task =>
    simp only [step, Option.ite_none_right_eq_some, Option.some.injEq] at taken
    obtain ⟨⟨-, flying⟩, rfl⟩ := taken
    exact sound_finish sound flying

section Planned

variable {plan : SlotPlan}

theorem Sound.grows (sound : s.Sound device strict program memory)
    (planned : exec SlotPlan.step {} program = some plan) : s.plan.Grows plan := by
  obtain ⟨done, rfl, before⟩ := sound.planned
  rw [SlotPlan.exec_append, before] at planned
  exact SlotPlan.grows_exec planned

end Planned

/-! ## Runs without haste

Every run can be brought to its end. If the device completes a task only when the coroutine
waits for it, then what the plan says is what happens. -/

/-- The coroutine has come to the end of its program or ended before. -/
def Over (s : Window α) : Prop := s.program = [] ∨ s.ended ≠ none

end Window

end Shoc.Transition

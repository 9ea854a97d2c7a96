/-
# Resubmission and the end of contexts

Many tasks on many contexts of one engine. A context is connected to the engine
itself or is the child of a connection, and only the former are in
`connected_contexts_`. When a context is `IDLE` its handle is destroyed, and from
then on the tasks allocated on it must not be submitted.

The loop of `delayed_resubmission` submits its task after every wait and asks only
afterwards, and only whether the engine has any context left. So it is up to the
contexts not to become idle while one of their tasks waits there.

Each task is an `Offload`. An offload call runs without interruption, so no context
changes its state while a task is being allocated or is in the loop of
`submit_task`. The SDK does not allocate tasks on a context that is idle.
-/

import Shoc.Data.Registry
import Shoc.Engine.EventLoop
import Shoc.Engine.Offload
import Shoc.Transition.Runs

namespace Shoc.Engine

open Data Transition

/-- A task, in the order of the offload calls. -/
abbrev TaskId := ℕ

/-- `context_parent`: the engine, or a connection with a registry of its own. -/
inductive ContextParent
  | progressEngine
  | connection (id : ℕ)
  deriving DecidableEq, Repr

structure ConnectedContext where
  parent : ContextParent
  state : CtxState := .starting
  deriving DecidableEq, Repr

structure Task where
  owner : ContextId
  operation : Operation
  offload : Offload := {}

/-- A call of `doca_task_submit`, with the state its context was in. -/
structure Submission where
  task : TaskId
  owner : CtxState
  deriving DecidableEq, Repr

structure Workload where
  contexts : List ConnectedContext := []
  connectedContexts : Registry ContextId := {}
  tasks : List Task := []
  log : List Submission := []

/-- A context is created, or the SDK reports a new state of it; an offload is called; something
happens to a task. -/
inductive WorkEvent
  | createContext (parent : ContextParent) (placement : Placement ContextId)
  | stateChanged (ctx : ContextId) (next : CtxState)
  | offload (owner : ContextId) (operation : Operation)
  | task (id : TaskId) (event : Event)
  deriving DecidableEq, Repr

/-- The task was allocated, and submitting it is up to the library. -/
def Phase.held : Phase → Bool
  | .configuring | .submitting _ | .resubmitting _ => true
  | .requested | .inFlight | .finished => false

/-- The task is in the loop of `delayed_resubmission`. -/
def Task.waits (task : Task) : Bool :=
  match task.offload.phase with
  | .resubmitting _ => true
  | _ => false

/-- Whether a call of `doca_task_submit` is part of the event. -/
def Event.submits : Event → Bool
  | .submit _ | .resubmit _ _ => true
  | _ => false

namespace Workload

variable (s : Workload)

/-- The state of a context. One that does not exist has no tasks. -/
def stateOf (ctx : ContextId) : CtxState := (s.contexts[ctx]?.map (·.state)).getD .idle

/-- An offload call is in progress. -/
def calling : Bool :=
  s.tasks.any fun task => !task.offload.returned && task.offload.phase ≠ .requested

/-- The IDLE branch of `state_changed_callback`: the parent forgets the context. -/
def signalStoppedChild (ctx : ContextId) (parent : ContextParent) : Registry ContextId :=
  match parent with
  | .progressEngine => s.connectedContexts.erase ctx
  -- The engine never knew of it
  | .connection _ => s.connectedContexts

/-- `context::state_changed_callback`, as far as the engine is concerned. -/
def stateChanged (ctx : ContextId) (context : ConnectedContext) (next : CtxState) : Workload :=
  { s with
    contexts := s.contexts.set ctx { context with state := next }
    connectedContexts :=
      if next = .idle then s.signalStoppedChild ctx context.parent else s.connectedContexts }

/-- What the engine and the SDK have to say about an event of a task. -/
def admits (owner : ContextId) : Event → Bool
  | .allocate err => err = .success → s.stateOf owner ≠ .idle
  | .resubmit _ contextsEmpty => contextsEmpty = decide (s.connectedContexts.entries = [])
  | _ => true

def runTask (id : TaskId) (task : Task) (event : Event) (offload : Offload) : Workload :=
  { s with
    tasks := s.tasks.set id { task with offload := offload }
    log := if event.submits then ⟨id, s.stateOf task.owner⟩ :: s.log else s.log }

def step (cfg : Config) (s : Workload) : WorkEvent → Option Workload
  | .createContext parent placement =>
    some { s with
      contexts := s.contexts ++ [{ parent := parent }]
      connectedContexts := match parent with
        | .progressEngine => s.connectedContexts.insert s.contexts.length placement
        | .connection _ => s.connectedContexts }
  | .stateChanged ctx next => do
    let context ← s.contexts[ctx]?
    -- A context that was idle is gone
    if context.state ≠ .idle ∧ context.state.Follows next ∧ s.calling = false then
      s.stateChanged ctx context next
    else none
  | .offload owner operation =>
    if owner < s.contexts.length then some { s with tasks := s.tasks ++ [⟨owner, operation, {}⟩] }
    else none
  | .task id event => do
    let task ← s.tasks[id]?
    if s.admits task.owner event then
      (task.offload.step cfg task.operation event).map (s.runTask id task event)
    else none

/-- No context becomes idle while one of its tasks waits for its resubmission. -/
def Drained (s : Workload) : WorkEvent → Prop
  | .stateChanged ctx next => next = .idle → ∀ task ∈ s.tasks, task.owner = ctx → task.waits = false
  | _ => True

instance (s : Workload) : ∀ event, Decidable (s.Drained event)
  | .stateChanged _ _ => inferInstanceAs (Decidable (_ → ∀ _ ∈ _, _))
  | .createContext _ _ | .offload _ _ | .task _ _ => inferInstanceAs (Decidable True)

/-- The library holds a task only while the context of it is there, and it submits no other. -/
structure Alive (s : Workload) : Prop where
  held : ∀ task ∈ s.tasks, task.offload.phase.held = true → s.stateOf task.owner ≠ .idle
  log : ∀ submission ∈ s.log, submission.owner ≠ .idle

variable {s t : Workload} {cfg : Config} {event : WorkEvent}

theorem stateOf_append {ctx : ContextId} (there : s.stateOf ctx ≠ .idle)
    (added : ConnectedContext) (registry : Registry ContextId) :
    ({ s with contexts := s.contexts ++ [added], connectedContexts := registry } :
      Workload).stateOf ctx ≠ .idle := by
  unfold stateOf at there ⊢
  cases found : s.contexts[ctx]? with
  | none => simp [found] at there
  | some context =>
    have inside := (List.getElem?_eq_some_iff.mp found).1
    rw [List.getElem?_append_left inside]
    exact there

theorem alive_createContext (alive : Alive s) (parent : ContextParent)
    (registry : Registry ContextId) :
    Alive { s with
      contexts := s.contexts ++ [{ parent := parent }], connectedContexts := registry } :=
  ⟨fun task mem held => stateOf_append (alive.held task mem held) _ _, alive.log⟩

/-- Outside of offload calls the library holds only tasks that wait. -/
theorem waits_of_held (quiet : s.calling = false) {task : Task} (mem : task ∈ s.tasks)
    (held : task.offload.phase.held = true) : task.waits = true := by
  have outside := List.any_eq_false.mp quiet task mem
  unfold Task.waits
  unfold Offload.returned at outside
  cases phase : task.offload.phase <;> simp_all [Phase.held]

theorem alive_stateChanged (alive : Alive s) {ctx : ContextId} {next : CtxState}
    {context : ConnectedContext} (found : s.contexts[ctx]? = some context)
    (quiet : s.calling = false) (drained : s.Drained (.stateChanged ctx next)) :
    Alive (s.stateChanged ctx context next) := by
  refine ⟨fun task mem held => ?_, alive.log⟩
  have inside := (List.getElem?_eq_some_iff.mp found).1
  by_cases own : task.owner = ctx
  · -- Nothing but the resubmission can hold the task now
    have waits := waits_of_held quiet mem held
    have next_ne : next ≠ .idle := fun idle => by
      have none := drained idle task mem own
      simp [waits] at none
    simpa [stateOf, stateChanged, own, inside] using next_ne
  · have same := alive.held task mem held
    simpa [stateOf, stateChanged, List.getElem?_set_ne (Ne.symm own)] using same

/-- The library gets hold of a task only by allocating it. -/
theorem held_step {operation : Operation} {before after : Offload} {event : Event}
    (taken : before.step cfg operation event = some after) (held : after.phase.held = true) :
    before.phase.held = true ∨ event = .allocate .success := by
  cases Offload.step_taken taken with
  | allocateFailed before' failed => simp [Offload.fail, Phase.held] at held
  | allocated before' made => exact .inr rfl
  | allocatedFinal before' => exact .inr rfl
  | configureFailed before' failed => simp [Offload.fail, Phase.held] at held
  | configured before' => exact .inl (before' ▸ rfl)
  | rejected before' failed silent => simp [Offload.fail, Phase.held] at held
  | retried before' now kept =>
    left
    cases phase : before.phase with
    | requested => simp [phase, Phase.Submits] at before'
    | configuring => rfl
    | submitting attempts => rfl
    | resubmitting attempts => rfl
    | inFlight => simp [phase, Phase.Submits] at before'
    | finished => simp [phase, Phase.Submits] at before'
  | submitted before' => simp [Phase.held] at held
  | completed before' => simp [Offload.phase_complete, Phase.held] at held
  | ranPosted before' => exact .inl (by simpa using held)
  | awaited before' => exact .inl (by simpa using held)

/-- Only tasks the library holds are submitted. -/
theorem held_of_submits {operation : Operation} {before after : Offload} {event : Event}
    (taken : before.step cfg operation event = some after) (submits : event.submits = true) :
    before.phase.held = true := by
  cases event with
  | submit err =>
    simp only [Offload.step] at taken
    split at taken
    · rename_i phase
      rw [phase]
      rfl
    · contradiction
  | resubmit err contextsEmpty =>
    simp only [Offload.step] at taken
    split at taken
    · rename_i phase
      rw [phase]
      rfl
    · contradiction
  | allocate err => contradiction
  | setIsFinalBuf err => contradiction
  | complete completion => contradiction
  | runPosted => contradiction
  | coAwait coro => contradiction

theorem alive_task (alive : Alive s) {id : TaskId} {task : Task} {event : Event}
    {offload : Offload} (found : s.tasks[id]? = some task)
    (admitted : s.admits task.owner event = true)
    (taken : task.offload.step cfg task.operation event = some offload) :
    Alive (s.runTask id task event offload) := by
  have mem := List.mem_of_getElem? found
  constructor
  · intro other other_mem held
    obtain before | rfl := List.mem_or_eq_of_mem_set other_mem
    · exact alive.held other before held
    · obtain earlier | rfl := held_step taken held
      · exact alive.held task mem earlier
      · have there : s.stateOf task.owner ≠ .idle := by simpa [admits] using admitted
        exact there
  · intro submission submission_mem
    simp only [runTask] at submission_mem
    split_ifs at submission_mem with submits
    · obtain rfl | before := List.mem_cons.mp submission_mem
      · exact alive.held task mem (held_of_submits taken submits)
      · exact alive.log submission before
    · exact alive.log submission submission_mem

theorem alive_step (alive : Alive s) (drained : s.Drained event)
    (taken : step cfg s event = some t) : Alive t := by
  cases event with
  | createContext parent placement =>
    cases taken
    exact alive_createContext alive parent _
  | stateChanged ctx next =>
    obtain ⟨context, found, changed⟩ := Option.bind_eq_some_iff.mp taken
    split_ifs at changed with allowed
    cases changed
    exact alive_stateChanged alive found allowed.2.2 drained
  | offload owner operation =>
    simp only [step] at taken
    split_ifs at taken
    cases taken
    refine ⟨fun task mem held => ?_, alive.log⟩
    obtain before | rfl := (List.mem_append.mp mem).imp_right List.mem_singleton.mp
    · exact alive.held task before held
    · contradiction
  | task id event =>
    obtain ⟨task, found, ran⟩ := Option.bind_eq_some_iff.mp taken
    split_ifs at ran with admitted
    obtain ⟨offload, taken', rfl⟩ := Option.map_eq_some_iff.mp ran
    exact alive_task alive found admitted taken'

/-- If contexts outlast the tasks that wait for their resubmission, no task is submitted
on an idle context, and none waits for one. -/
theorem submits_on_live_contexts (cfg : Config) (events : List WorkEvent) (s : Workload)
    (run : Run (step cfg) Drained {} events s) :
    (∀ submission ∈ s.log, submission.owner ≠ .idle) ∧
      ∀ task ∈ s.tasks, s.stateOf task.owner = .idle → task.waits = false := by
  have alive := run.invariant Alive
    (fun _ _ _ alive drained taken => alive_step alive drained taken) ⟨by simp, by simp⟩
  refine ⟨alive.log, fun task mem idle => ?_⟩
  by_contra waits
  refine alive.held task mem ?_ idle
  unfold Task.waits at waits
  cases phase : task.offload.phase <;> simp_all [Phase.held]

/-- The engine does not try a second time before it leaves a task to the fiber. -/
def impatient : Config := { immediateSubmissionAttempts := 0 }

/-- A task waits and is submitted before its context stops. -/
def stoppedAfterwards : List WorkEvent :=
  [.createContext (.connection 0) (.position 0), .stateChanged 0 .running,
    .offload 0 (.plainStatusOffload .withUserData), .task 0 (.allocate .success),
    .task 0 (.submit .again), .stateChanged 0 .stopping, .task 0 (.resubmit .success true),
    .task 0 (.complete ⟨.success, [], 0⟩), .stateChanged 0 .idle]

theorem submits_on_live_contexts_stoppedAfterwards :
    ∃ s, Run (step impatient) Drained {} stoppedAfterwards s ∧
      s.log = [⟨0, .stopping⟩, ⟨0, .running⟩] ∧ ∀ submission ∈ s.log, submission.owner ≠ .idle := by
  have run : Run (step impatient) Drained {} stoppedAfterwards _ := ⟨rfl, by decide⟩
  have live := submits_on_live_contexts impatient stoppedAfterwards _ run
  exact ⟨_, run, rfl, live.1⟩

/-- A context becomes idle while its task waits. The task is submitted all the same, and as
another context is alive it goes on waiting. -/
theorem submitted_on_idle_context :
    ∃ s, Run (step impatient) Always {}
        [.createContext .progressEngine (.position 0), .createContext .progressEngine (.position 0),
          .stateChanged 0 .running, .offload 0 (.plainStatusOffload .withUserData),
          .task 0 (.allocate .success), .task 0 (.submit .again), .stateChanged 0 .stopping,
          .stateChanged 0 .idle, .task 0 (.resubmit .again false)] s ∧
      s.log = [⟨0, .idle⟩, ⟨0, .running⟩] ∧
      s.tasks.map (fun task => (task.waits, task.offload.receptable.hasValue)) = [(true, false)] :=
  ⟨_, ⟨rfl, meets_always _ _⟩, by decide, by decide⟩

end Workload

end Shoc.Engine

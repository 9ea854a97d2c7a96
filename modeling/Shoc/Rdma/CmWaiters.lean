/-
# Who waits for the connection manager

A result that reaches the receptable of a `connect` or `listen` call has to wake
the coroutine that waits there. The two callbacks for the end of a connection do
so. `connection_request` does not: when the SDK refuses to accept the request, the
error is stored and nobody is resumed. And when the context stops, nobody looks at
`listeners_`, so a coroutine that waits for a connection then waits for ever.

Both are what can go wrong, and the only things: on every run that avoids them no
result finds its waiter suspended, and nobody is suspended on a `listen` of a
context that is idle.
-/

import Shoc.Context.Waiters
import Shoc.Rdma.ConnectionManager

namespace Shoc.Rdma

open Coro Context Transition

/-- The call is one of `listen`. -/
def Call.Listens (call : Call) : Prop := call.origin ≠ .connect

instance (call : Call) : Decidable call.Listens := inferInstanceAs (Decidable (_ ≠ _))

/-- The RDMA context: its life and its connection manager. -/
structure RdmaContext where
  context : ContextLife := {}
  cm : ConnectionManager := {}

/-- Something happens to the context, or to the connection manager. -/
inductive RdmaLabel
  | context (event : ContextEvent)
  | cm (label : ConnectionManager.CmLabel)
  deriving DecidableEq, Repr

namespace RdmaContext

open ConnectionManager (CmLabel store awaited)

variable {s t : RdmaContext} {label : RdmaLabel} {labels : List RdmaLabel}

/-- Reported by the SDK, which an idle context does not see. -/
def isEvent : CmLabel → Bool
  | .connectionRequest _ _ | .connectionEstablished _ | .connectionFailure _ => true
  | .connect _ _ | .listen _ _ | .await _ _ => false

def step (s : RdmaContext) : RdmaLabel → Option RdmaContext
  | .context event => (s.context.step event).map fun context => { s with context }
  | .cm label =>
      if isEvent label = true ∧ s.context.currentState = .idle then none
      else (s.cm.step label).map fun cm => { s with cm }

/-- The coroutine was resumed for the result of the call. -/
def Resumed (log : List Completion) (id : CallId) (coro : Coro) : Prop :=
  ∃ entry ∈ log, entry.call = id ∧ entry.resumed = some coro

/-- A receptable with a result has resumed the coroutine registered with it. -/
def Woken (calls : List Call) (log : List Completion) : Prop :=
  ∀ id call coro, calls[id]? = some call → call.receptable.hasValue = true →
    call.receptable.waiter = some coro → Resumed log id coro

/-- Nobody is suspended on the awaitable of a `listen`. -/
def NobodyListens (s : RdmaContext) : Prop :=
  ∀ id call coro, s.cm.calls[id]? = some call → call.Listens →
    call.receptable.waiter = some coro → Resumed s.cm.log id coro

/-- A coroutine is suspended on the awaitable of a `listen`. -/
def Listening (calls : List Call) (log : List Completion) (id : CallId) (coro : Coro) : Prop :=
  ∃ call, calls[id]? = some call ∧ call.Listens ∧ call.receptable.waiter = some coro ∧
    ¬ Resumed log id coro

/-- A `listen` without a result has nobody registered. -/
def Unheard (calls : List Call) : Prop :=
  ∀ call ∈ calls, call.Listens → call.receptable.hasValue = false → call.receptable.waiter = none

instance (calls : List Call) : Decidable (Unheard calls) :=
  inferInstanceAs (Decidable (∀ _ ∈ _, _))

/-- The SDK accepts every request to a port on which somebody waits. -/
def AcceptsAwaited (s : RdmaContext) : RdmaLabel → Prop
  | .cm (.connectionRequest port accept) => accept ≠ .success →
      ∀ dest ∈ s.cm.listeners port, ∀ call ∈ s.cm.calls[dest]?, call.receptable.waiter = none
  | _ => True

/-- Besides, nobody waits on a `listen` without a result when the context becomes idle, or
begins to afterwards. -/
def StopsUnheard (s : RdmaContext) (label : RdmaLabel) : Prop :=
  s.AcceptsAwaited label ∧
    match label with
    | .context (.stateChange .idle) => Unheard s.cm.calls
    | .cm (.await id _) => s.context.idled = true → ∀ call ∈ s.cm.calls[id]?, call.Listens →
        call.receptable.hasValue = true
    | _ => True

instance (s : RdmaContext) : ∀ label, Decidable (s.AcceptsAwaited label)
  | .cm (.connectionRequest _ _) => inferInstanceAs (Decidable (_ → ∀ _ ∈ _, _))
  | .context _ | .cm (.connect _ _) | .cm (.listen _ _) | .cm (.await _ _)
  | .cm (.connectionEstablished _) | .cm (.connectionFailure _) => isTrue trivial

instance (s : RdmaContext) : ∀ label, Decidable (s.StopsUnheard label)
  | .context (.stateChange .idle) => inferInstanceAs (Decidable (_ ∧ Unheard _))
  | .cm (.await _ _) => inferInstanceAs (Decidable (_ ∧ (_ → ∀ _ ∈ _, _)))
  | .context (.stateChange .starting) | .context (.stateChange .running)
  | .context (.stateChange .stopping) | .context (.start _) | .context (.stop _)
  | .context (.drop _) | .context (.coAwait _ _) | .context .ret
  | .cm (.connectionRequest _ _) | .cm (.connect _ _) | .cm (.listen _ _)
  | .cm (.connectionEstablished _) | .cm (.connectionFailure _) =>
      inferInstanceAs (Decidable (_ ∧ True))

/-! ## What a step does to calls and results -/

/-- What a step of the connection manager does to the calls and the log. -/
inductive Progress (s : ConnectionManager) : CmLabel → List Call → List Completion → Prop
  | same {label : CmLabel} : Progress s label s.calls s.log
  | called {label : CmLabel} (origin : Origin) :
      Progress s label (s.calls ++ [⟨origin, {}⟩]) s.log
  | refused {label : CmLabel} (origin : Origin) (err : DocaError) :
      Progress s label (s.refuse origin err).calls (s.refuse origin err).log
  | awaited (id : CallId) (coro : Coro) :
      Progress s (.await id coro) (s.calls.modify id (awaited coro)) s.log
  | unaccepted {port : Port} {accept : DocaError} {dest : CallId} (failed : accept ≠ .success)
      (listener : s.listeners port = some dest) (connection : Option ConnectionId) :
      Progress s (.connectionRequest port accept)
        (s.complete dest connection (.error accept) false).calls
        (s.complete dest connection (.error accept) false).log
  | answered {label : CmLabel} (event : isEvent label = true) (dest : CallId)
      (connection : Option ConnectionId) (result : Except DocaError ConnectionId) :
      Progress s label (s.complete dest connection result true).calls
        (s.complete dest connection result true).log

theorem progress_result {s : ConnectionManager} {label : CmLabel} (event : isEvent label = true)
    (id : ConnectionId) (connection : Connection) (phase : Phase)
    (result : Except DocaError ConnectionId) :
    Progress s label (s.connectionResult id connection phase result).calls
      (s.connectionResult id connection phase result).log := by
  unfold ConnectionManager.connectionResult ConnectionManager.takeConnectionReceptable
  -- Which receptable is found depends on the role, the calls and the log do not
  cases role : (s.setPhase id phase).role with
  | none => exact .same
  | client =>
    cases connection.userData with
    | none => exact .same
    | some dest => exact .answered event dest id result
  | server =>
    cases connection.port with
    | none => exact .same
    | some port =>
      cases listener : (s.setPhase id phase).listeners port with
      | none =>
        simp only [listener]
        exact .same
      | some dest =>
        simp only [listener]
        exact .answered event dest id result

theorem progress_step {s t : ConnectionManager} {label : CmLabel}
    (taken : s.step label = some t) : Progress s label t.calls t.log := by
  cases label with
  | connect err port =>
    obtain rfl := Option.some.inj taken
    unfold ConnectionManager.connect
    split
    · exact .refused .connect _
    · split
      · exact .called .connect
      · exact .refused .connect err
  | listen port err =>
    obtain rfl := Option.some.inj taken
    unfold ConnectionManager.listen
    split
    · exact .refused (.listen port) _
    · split
      · exact .refused (.listen port) err
      · exact .called (.listen port)
  | await id coro =>
    simp only [ConnectionManager.step, Option.ite_none_right_eq_some, Option.some.injEq] at taken
    obtain ⟨-, rfl⟩ := taken
    exact .awaited id coro
  | connectionRequest port accept =>
    simp only [ConnectionManager.step, Option.ite_none_right_eq_some, Option.some.injEq] at taken
    obtain ⟨-, rfl⟩ := taken
    simp only [ConnectionManager.connectionRequest]
    cases listener : s.listeners port with
    | none => exact .same
    | some dest =>
      by_cases failed : accept = .success
      · simp only [failed, if_true]
        exact .same
      · simp only [failed, if_false]
        exact .unaccepted failed listener _
  | connectionEstablished id =>
    obtain ⟨connection, -, rfl⟩ := Option.map_eq_some_iff.mp taken
    exact progress_result rfl id connection _ _
  | connectionFailure id =>
    obtain ⟨connection, -, rfl⟩ := Option.map_eq_some_iff.mp taken
    exact progress_result rfl id connection _ _

/-! ## Results and their waiters -/

variable {calls : List Call} {log : List Completion}

@[simp] theorem waiter_store (result : Except DocaError ConnectionId) (call : Call) :
    (store result call).receptable.waiter = call.receptable.waiter := by
  cases result <;> rfl

theorem Resumed.append {id : CallId} {coro : Coro} (resumed : Resumed log id coro)
    (entry : Completion) : Resumed (log ++ [entry]) id coro := by
  obtain ⟨earlier, mem, which⟩ := resumed
  exact ⟨earlier, List.mem_append_left _ mem, which⟩

theorem Woken.called (woken : Woken calls log) (origin : Origin) :
    Woken (calls ++ [⟨origin, {}⟩]) log := by
  intro id call coro found has registered
  obtain before | ⟨-, rfl⟩ := ConnectionManager.getElem?_append_singleton found
  · exact woken id call coro before has registered
  · contradiction

theorem Woken.awaited (woken : Woken calls log) (target : CallId) (coro : Coro) :
    Woken (calls.modify target (awaited coro)) log := by
  intro id call other found has registered
  rw [List.getElem?_modify] at found
  obtain ⟨before, was, rfl⟩ := Option.map_eq_some_iff.mp found
  split at has
  · rename_i same
    -- The result is there already, so the coroutine does not register
    have ready : before.receptable.hasValue = true := by simpa [ConnectionManager.awaited] using has
    simp only [same, if_true, ConnectionManager.awaited,
      Receptable.await_of_hasValue ready] at registered
    exact woken id before other was ready registered
  · rename_i different
    simp only [different, if_false] at registered
    exact woken id before other was has registered

theorem Woken.complete {s : ConnectionManager} (woken : Woken s.calls s.log) (dest : CallId)
    (connection : Option ConnectionId) (result : Except DocaError ConnectionId) {resumes : Bool}
    (heard : resumes = false → ∀ call, s.calls[dest]? = some call →
      call.receptable.waiter = none) :
    Woken (s.complete dest connection result resumes).calls
      (s.complete dest connection result resumes).log := by
  intro id call coro found has registered
  simp only [ConnectionManager.complete, List.getElem?_modify] at found ⊢
  obtain ⟨before, was, rfl⟩ := Option.map_eq_some_iff.mp found
  by_cases same : dest = id
  · subst same
    simp only [if_true, waiter_store] at registered
    cases resumes with
    | false =>
      rw [heard rfl before was] at registered
      contradiction
    | true =>
      refine ⟨_, List.mem_append_right _ (List.mem_singleton_self _), rfl, ?_⟩
      simpa [was, Receptable.resume] using registered
  · simp only [same, if_false] at has registered
    exact (woken id before coro was has registered).append _

theorem Woken.refused {s : ConnectionManager} (woken : Woken s.calls s.log) (origin : Origin)
    (err : DocaError) : Woken (s.refuse origin err).calls (s.refuse origin err).log := by
  have called : Woken (s.call origin).calls (s.call origin).log := woken.called origin
  refine called.complete _ _ _ fun _ call found => ?_
  rw [ConnectionManager.call, List.getElem?_concat_length] at found
  obtain rfl := Option.some.inj found
  rfl

/-- What the step has to be allowed to do: a failed request has no waiter. -/
theorem woken_progress {s t : ConnectionManager} {label : CmLabel} (woken : Woken s.calls s.log)
    (unheard : ∀ port accept dest call, label = .connectionRequest port accept →
      accept ≠ .success → s.listeners port = some dest → s.calls[dest]? = some call →
      call.receptable.waiter = none)
    (progress : Progress s label t.calls t.log) : Woken t.calls t.log := by
  generalize t.calls = calls at progress ⊢
  generalize t.log = log at progress ⊢
  cases progress with
  | same => exact woken
  | called origin => exact woken.called origin
  | refused origin err => exact woken.refused origin err
  | awaited id coro => exact woken.awaited id coro
  | unaccepted failed listener connection =>
    exact woken.complete _ _ _ fun _ call found => unheard _ _ _ call rfl failed listener found
  | answered event dest connection result =>
    exact woken.complete dest connection result fun silent => by contradiction

theorem woken_step (woken : Woken s.cm.calls s.cm.log) (allowed : s.AcceptsAwaited label)
    (taken : step s label = some t) : Woken t.cm.calls t.cm.log := by
  cases label with
  | context event =>
    obtain ⟨context, -, rfl⟩ := Option.map_eq_some_iff.mp taken
    exact woken
  | cm label =>
    simp only [step, Option.ite_none_left_eq_some] at taken
    obtain ⟨cm, moved, rfl⟩ := Option.map_eq_some_iff.mp taken.2
    refine woken_progress woken ?_ (progress_step moved)
    rintro port accept dest call rfl failed listener found
    exact allowed failed dest listener call found

/-! ## After the stop -/

theorem Unheard.called (unheard : Unheard calls) (origin : Origin) :
    Unheard (calls ++ [⟨origin, {}⟩]) := by
  intro call mem listens empty
  rcases List.mem_append.mp mem with before | new
  · exact unheard call before listens empty
  · obtain rfl := List.mem_singleton.mp new
    rfl

theorem Unheard.modify (unheard : Unheard calls) {target : CallId} {change : Call → Call}
    (heard : ∀ call, calls[target]? = some call → (change call).Listens →
      (change call).receptable.hasValue = true) :
    Unheard (calls.modify target change) := by
  intro call mem listens empty
  obtain ⟨id, found⟩ := List.mem_iff_getElem?.mp mem
  rw [List.getElem?_modify] at found
  obtain ⟨before, was, rfl⟩ := Option.map_eq_some_iff.mp found
  split at listens
  · rename_i same
    subst same
    simp only [if_true] at empty
    rw [heard before was listens] at empty
    contradiction
  · rename_i different
    simp only [different, if_false] at empty ⊢
    exact unheard before (List.mem_of_getElem? was) listens empty

theorem Unheard.refused {s : ConnectionManager} (unheard : Unheard s.calls) (origin : Origin)
    (err : DocaError) : Unheard (s.refuse origin err).calls :=
  (unheard.called origin).modify fun _ _ _ => rfl

theorem Unheard.awaited (unheard : Unheard calls) {target : CallId}
    (settled : ∀ call, calls[target]? = some call → call.Listens →
      call.receptable.hasValue = true) (coro : Coro) :
    Unheard (calls.modify target (awaited coro)) := by
  refine unheard.modify fun call found listens => ?_
  rw [ConnectionManager.awaited, Receptable.hasValue_await]
  exact settled call found listens

/-- An idle context is told of nothing, so only calls and `co_await`s happen. -/
theorem unheard_progress {s t : ConnectionManager} {label : CmLabel} (unheard : Unheard s.calls)
    (quiet : isEvent label = false)
    (settled : ∀ id coro call, label = .await id coro → s.calls[id]? = some call →
      call.Listens → call.receptable.hasValue = true)
    (progress : Progress s label t.calls t.log) : Unheard t.calls := by
  generalize t.calls = calls at progress ⊢
  generalize t.log = log at progress
  cases progress with
  | same => exact unheard
  | called origin => exact unheard.called origin
  | refused origin err => exact unheard.refused origin err
  | awaited id coro => exact unheard.awaited (fun call => settled id coro call rfl) coro
  | unaccepted => contradiction
  | answered event =>
    rw [quiet] at event
    contradiction

/-- A context that was reported idle is idle, and nobody waits on a `listen`. -/
structure Over (s : RdmaContext) : Prop where
  idle : s.context.idled = true → s.context.currentState = .idle
  unheard : s.context.idled = true → Unheard s.cm.calls

theorem over_step (ended : s.Over) (allowed : s.StopsUnheard label)
    (taken : step s label = some t) : t.Over := by
  cases label with
  | context event =>
    obtain ⟨context, moved, rfl⟩ := Option.map_eq_some_iff.mp taken
    refine ⟨ContextLife.idle_step ended.idle moved, fun idled => ?_⟩
    rcases ContextLife.idled_of_step moved idled with before | rfl
    · exact ended.unheard before
    · exact allowed.2
  | cm label =>
    simp only [step, Option.ite_none_left_eq_some] at taken
    obtain ⟨quiet, taken⟩ := taken
    obtain ⟨cm, moved, rfl⟩ := Option.map_eq_some_iff.mp taken
    refine ⟨ended.idle, fun idled => ?_⟩
    refine unheard_progress (ended.unheard idled) ?_ ?_ (progress_step moved)
    · by_contra event
      exact quiet ⟨by simpa using event, ended.idle idled⟩
    · rintro id coro call rfl found
      exact allowed.2 idled call found

/-- Nobody is resumed by a call that is refused at once. -/
theorem not_resumed_refuse {s : ConnectionManager} {id : CallId} {coro : Coro}
    (suspended : ¬ Resumed s.log id coro) (origin : Origin) (err : DocaError) :
    ¬ Resumed (s.refuse origin err).log id coro := by
  rintro ⟨entry, mem, which, resumed⟩
  rcases List.mem_append.mp mem with before | new
  · exact suspended ⟨entry, before, which, resumed⟩
  · obtain rfl := List.mem_singleton.mp new
    contradiction

theorem listening_progress {s t : ConnectionManager} {label : CmLabel} {id : CallId} {coro : Coro}
    (listening : Listening s.calls s.log id coro) (quiet : isEvent label = false)
    (progress : Progress s label t.calls t.log) : Listening t.calls t.log id coro := by
  obtain ⟨call, found, listens, registered, suspended⟩ := listening
  have old : id < s.calls.length := (List.getElem?_eq_some_iff.mp found).1
  have appended : ∀ new : Call, (s.calls ++ [new])[id]? = some call := fun new =>
    (List.getElem?_append_left old).trans found
  generalize t.calls = calls at progress ⊢
  generalize t.log = log at progress ⊢
  cases progress with
  | same => exact ⟨call, found, listens, registered, suspended⟩
  | called origin => exact ⟨call, appended _, listens, registered, suspended⟩
  | refused origin err =>
    refine ⟨call, ?_, listens, registered, not_resumed_refuse suspended origin err⟩
    simp only [ConnectionManager.refuse, ConnectionManager.complete, ConnectionManager.call,
      List.getElem?_modify, appended, Nat.ne_of_gt old, if_false]
    rfl
  | awaited target other =>
    refine ⟨call, ?_, listens, registered, suspended⟩
    rw [List.getElem?_modify, found]
    -- Somebody waits there already
    have same : ConnectionManager.awaited other call = call := by
      rw [ConnectionManager.awaited, Receptable.await_of_waiter registered]
    by_cases this : target = id
    · simp only [this, if_true]
      exact congrArg some same
    · simp only [this, if_false]
      rfl
  | unaccepted => contradiction
  | answered event =>
    rw [quiet] at event
    contradiction

theorem nobodyListens_iff :
    s.NobodyListens ↔ ∀ id coro, ¬ Listening s.cm.calls s.cm.log id coro := by
  constructor
  · rintro nobody id coro ⟨call, found, listens, registered, suspended⟩
    exact suspended (nobody id call coro found listens registered)
  · intro nobody id call coro found listens registered
    by_contra suspended
    exact nobody id coro ⟨call, found, listens, registered, suspended⟩

/-- An idle context leaves everybody waiting. -/
theorem listening_step {id : CallId} {coro : Coro}
    (idle : s.context.idled = true → s.context.currentState = .idle)
    (idled : s.context.idled = true) (listening : Listening s.cm.calls s.cm.log id coro)
    (taken : step s label = some t) :
    t.context.idled = true ∧ Listening t.cm.calls t.cm.log id coro := by
  cases label with
  | context event =>
    obtain ⟨context, moved, rfl⟩ := Option.map_eq_some_iff.mp taken
    exact ⟨ContextLife.idled_step idled moved, listening⟩
  | cm label =>
    simp only [step, Option.ite_none_left_eq_some] at taken
    obtain ⟨quiet, taken⟩ := taken
    obtain ⟨cm, moved, rfl⟩ := Option.map_eq_some_iff.mp taken
    refine ⟨idled, listening_progress listening ?_ (progress_step moved)⟩
    by_contra event
    exact quiet ⟨by simpa using event, idle idled⟩

theorem idle_step (idle : s.context.idled = true → s.context.currentState = .idle)
    (taken : step s label = some t) : t.context.idled = true → t.context.currentState = .idle := by
  cases label with
  | context event =>
    obtain ⟨context, moved, rfl⟩ := Option.map_eq_some_iff.mp taken
    exact ContextLife.idle_step idle moved
  | cm label =>
    simp only [step, Option.ite_none_left_eq_some] at taken
    obtain ⟨cm, -, rfl⟩ := Option.map_eq_some_iff.mp taken.2
    exact idle

theorem listening_of_run {ok : RdmaContext → RdmaLabel → Prop} {id : CallId} {coro : Coro}
    (idle : s.context.idled = true → s.context.currentState = .idle)
    (idled : s.context.idled = true) (listening : Listening s.cm.calls s.cm.log id coro)
    (run : Run step ok s labels t) : Listening t.cm.calls t.cm.log id coro := by
  have both := run.invariant
    (fun t => (t.context.idled = true → t.context.currentState = .idle) ∧
      t.context.idled = true ∧ Listening t.cm.calls t.cm.log id coro)
    (fun _ _ _ h _ taken => ⟨idle_step h.1 taken, listening_step h.1 h.2.1 h.2.2 taken⟩)
    ⟨idle, idled, listening⟩
  exact both.2.2

/-! ## Whole runs -/

/-- **The waiters of the connection manager are released.** As long as the SDK accepts every
request to a port on which somebody waits, no receptable holds a result while its waiter
is suspended. If besides nobody waits on a `listen` when the context becomes idle, or
begins to later, nobody is suspended on one once it is idle. And on every run, who is suspended
on a `listen` of an idle context is so for ever. -/
theorem cm_waiters_released (labels : List RdmaLabel) (s : RdmaContext) :
    (Run step AcceptsAwaited {} labels s → Woken s.cm.calls s.cm.log) ∧
    (Run step StopsUnheard {} labels s → s.context.idled = true → s.NobodyListens) ∧
    (Run step Always {} labels s → s.context.idled = true →
      (s.NobodyListens ↔ ∀ id coro, ¬ Listening s.cm.calls s.cm.log id coro) ∧
      ∀ id coro, Listening s.cm.calls s.cm.log id coro →
        ∀ more t, Run step Always s more t → Listening t.cm.calls t.cm.log id coro) := by
  have woken : Run step AcceptsAwaited {} labels s → Woken s.cm.calls s.cm.log := by
    intro run
    refine run.invariant (fun s => Woken s.cm.calls s.cm.log)
      (fun _ _ _ woken allowed taken => woken_step woken allowed taken) ?_
    simp [Woken]
  refine ⟨woken, fun run idled => ?_, fun run idled => ⟨nobodyListens_iff, ?_⟩⟩
  · have ended : s.Over := by
      refine run.invariant Over (fun _ _ _ ended allowed taken => over_step ended allowed taken) ?_
      exact ⟨by simp, by simp⟩
    intro id call coro found listens registered
    have settled : call.receptable.hasValue = true := by
      by_contra empty
      have nobody := ended.unheard idled call (List.mem_of_getElem? found) listens
        (by simpa using empty)
      rw [nobody] at registered
      contradiction
    exact woken (run.weaken fun _ _ allowed => allowed.1) id call coro found settled registered
  · intro id coro listening more t later
    have idle := run.invariant (fun s => s.context.idled = true → s.context.currentState = .idle)
      (fun _ _ _ idle _ taken => idle_step idle taken) (by simp)
    exact listening_of_run idle idled listening later

/-- The context is started and runs. -/
def starting : List RdmaLabel :=
  [.context (.start .inProgress), .context (.stateChange .starting), .context .ret,
    .context (.stateChange .running), .context .ret]

/-- The context is stopped and becomes idle. -/
def stopping : List RdmaLabel :=
  [.context (.stop .inProgress), .context (.stateChange .stopping), .context .ret,
    .context (.stateChange .idle), .context .ret, .context .ret]

/-- A request is accepted while a coroutine waits, the connection is established, and the
next `listen` is not awaited before the context is stopped. -/
def servedThenStopped : List RdmaLabel :=
  starting ++ [.cm (.listen 80 .success), .cm (.await 0 7), .cm (.connectionRequest 80 .success),
    .cm (.connectionEstablished 0), .cm (.listen 80 .success)] ++ stopping

/-- The SDK does not accept a request for which a coroutine waits. -/
def unaccepted : List RdmaLabel :=
  starting ++ [.cm (.listen 80 .success), .cm (.await 0 7),
    .cm (.connectionRequest 80 (.other 5))]

/-- The context is stopped while a coroutine waits for a connection. -/
def stoppedListening : List RdmaLabel :=
  starting ++ [.cm (.listen 80 .success), .cm (.await 0 7)] ++ stopping

theorem cm_waiters_released_servedThenStopped :
    ∃ s, Run step StopsUnheard {} servedThenStopped s ∧ s.context.idled = true ∧
      s.cm.calls.length = 2 ∧ s.NobodyListens := by
  refine ⟨_, ⟨rfl, by decide⟩, rfl, rfl, ?_⟩
  exact (cm_waiters_released servedThenStopped _).2.1 ⟨rfl, by decide⟩ rfl

/-- A request that is not accepted leaves its waiter suspended, and so does the stop of the
context. -/
theorem cm_waiters_stranded :
    (∃ labels s, Run step Always {} labels s ∧ ¬ Woken s.cm.calls s.cm.log) ∧
    ∃ labels s, Run step Always {} labels s ∧ s.context.idled = true ∧ ¬ s.NobodyListens := by
  refine ⟨⟨unaccepted, _, ⟨rfl, meets_always _ _⟩, fun woken => ?_⟩,
    stoppedListening, _, ⟨rfl, meets_always _ _⟩, rfl, fun nobody => ?_⟩
  · obtain ⟨entry, mem, -, resumed⟩ := woken 0 _ 7 rfl rfl rfl
    obtain rfl := List.mem_singleton.mp mem
    contradiction
  · obtain ⟨entry, mem, -⟩ := nobody 0 _ 7 rfl (by decide) rfl
    contradiction

end RdmaContext

end Shoc.Rdma

/-
# What one step of the channel system can do

The step inversion lemma: every step is one of the cases of `Taken`. Which
coroutine a step resumes, if any, depends on who waits; the cases only say that the
frames a step adds for it are coroutines. The one thing to know about waiting is
that nobody waits for a child whose creation has not returned yet, so that nothing
but the end of the child itself can get control while it is being started.
-/

import Shoc.Comch.Machine

namespace Shoc.Comch

open Common Data

/-- A call into the SDK. -/
def Frame.InSdk : Frame → Prop
  | .childStop _ | .childStart _ _ _ | .clientStart _ | .serverDisconnect _ | .clientStop _
  | .serverStop => True
  | _ => False

/-- The child whose state a slot is for. -/
def Slot.ofChild : Slot → Option ChildId
  | .start (.child child) | .stop (.child child) => some child
  | _ => none

/-- Nobody waits for a child that was not returned to the user yet. -/
def Waiting.Vacant (waiting : Waiting) (o : Objects) : Prop :=
  ∀ slot child, slot.ofChild = some child → (o.children child).handed = false →
    waiting.slot slot = none

namespace System

variable {s t : System} {label : Label} {waiting : Waiting}

/-- The code on top of the stack, if there is any, is not the SDK's. -/
def Calm (s : System) : Prop := ∀ frame, s.stack.head? = some frame → ¬ frame.InSdk

/-- A change of who waits, and at most one coroutine that runs for it. -/
def wake (s : System) (waiting : Waiting) (coro : Option Coro) : System :=
  { s with waiting }.resume coro

@[simp] theorem objects_wake (coro : Option Coro) : (s.wake waiting coro).objects = s.objects := by
  cases coro <;> rfl

@[simp] theorem waiting_wake (coro : Option Coro) : (s.wake waiting coro).waiting = waiting := by
  cases coro <;> rfl

@[simp] theorem log_wake (coro : Option Coro) : (s.wake waiting coro).log = s.log := by
  cases coro <;> rfl

theorem stack_wake (coro : Option Coro) :
    (s.wake waiting coro).stack = coro.toList.map .coroutine ++ s.stack := by
  cases coro <;> rfl

theorem mem_stack_wake {coro : Option Coro} {frame : Frame} :
    frame ∈ (s.wake waiting coro).stack ↔ (∃ c, coro = some c ∧ frame = .coroutine c) ∨
      frame ∈ s.stack := by
  cases coro <;> simp [stack_wake]

/-- Everything one step can do. -/
inductive Taken (s : System) : Label → System → Prop
  | waited {label : Label} {waiting : Waiting} {coro : Option Coro} (calm : s.Calm)
      (vacant : waiting.Vacant s.objects) : Taken s label (s.wake waiting coro)
  | suspended {label : Label} {coro : Coro} {callers : List Frame}
      (before : s.stack = .coroutine coro :: callers) : Taken s label { s with stack := callers }
  | childStopReturned {label : Label} {child : ChildId} {callers : List Frame}
      (before : s.stack = .childStop child :: callers) : Taken s label { s with stack := callers }
  | faulted {label : Label} : Taken s label { s with fault := true }
  | disconnect {c : ChannelId} (calm : s.Calm) (handed : (s.channel c).handed = true) :
      Taken s (.call (.disconnect c)) (s.disconnect c)
  | stopServer (calm : s.Calm) : Taken s (.call .stopServer) s.stopServer
  | create {c : ChannelId} {placement : Placement ChildId} (calm : s.Calm)
      (handed : (s.channel c).handed = true) :
      Taken s (.call (.create c placement)) (s.create c placement)
  | stopChild {child : ChildId} (calm : s.Calm) (handed : (s.child child).handed = true) :
      Taken s (.call (.stopChild child)) (s.stopContext child)
  | createClient (calm : s.Calm) : Taken s (.call .createClient) s.createClient
  | connect {handle : Handle} {placement : Placement Handle} {waiting : Waiting}
      {coro : Option Coro} (empty : s.stack = []) (fresh : handle ∉ s.objects.openConnections)
      (alive : s.objects.server.idled = false) (vacant : waiting.Vacant s.objects) :
      Taken s (.event (.connection handle true placement))
        ({ s with objects := s.objects.connect handle placement }.wake waiting coro)
  | disconnection {handle : Handle} (empty : s.stack = [])
      (present : handle ∈ s.objects.openConnections) :
      Taken s (.event (.disconnection handle true))
        (s.signalDisconnect (s.objects.connectionAt handle))
  | childReported {child : ChildId} {next : CtxState} {waiting : Waiting} {coro : Option Coro}
      (reports : s.reports (.child child) = true) (alive : (s.child child).base.handle = true)
      (created : child < s.objects.childCount) (goesOn : next ≠ .idle)
      (unheard : (s.child child).handed = false → coro = none)
      (vacant : waiting.Vacant s.objects) :
      Taken s (.change (.child child) next)
        ((s.setChild child
          { s.child child with base := (s.child child).base.report next }).wake waiting coro)
  | childIdled {child : ChildId} {waiting : Waiting} {coro : Option Coro}
      (reports : s.reports (.child child) = true) (alive : (s.child child).base.handle = true)
      (created : child < s.objects.childCount) (vacant : waiting.Vacant s.objects)
      (unheard : (s.child child).handed = false → coro = none) :
      Taken s (.change (.child child) .idle)
        (((s.setChild child
          { s.child child with
            base := { (s.child child).base.report .idle with handle := false } }).wake
          waiting coro).signalStoppedChild child)
  | clientReported {c : ChannelId} {next : CtxState} {state : ConnectionState} {waiting : Waiting}
      {coro : Option Coro} (reports : s.reports (.client c) = true)
      (client : (s.channel c).role = .client) (created : c < s.objects.channelCount)
      (alive : (s.channel c).base.idled = false)
      (moved : next = .running ∧ state = .connected ∨ next = .stopping ∧ state = .disconnecting ∨
        next = .starting ∧ state = (s.channel c).state)
      (follows : (s.channel c).base.currentState.Follows next)
      (vacant : waiting.Vacant s.objects) :
      Taken s (.change (.client c) next)
        ((s.setChannel c
          { s.channel c with base := (s.channel c).base.report next, state }).wake waiting coro)
  | clientIdled {c : ChannelId} (reports : s.reports (.client c) = true)
      (client : (s.channel c).role = .client) (created : c < s.objects.channelCount)
      (alive : (s.channel c).base.idled = false) :
      Taken s (.change (.client c) .idle)
        ((s.setChannel c
          { s.channel c with base := (s.channel c).base.report .idle }).disconnectMessages c)
  | serverReported {next : CtxState} {waiting : Waiting} {coro : Option Coro}
      (reports : s.reports .server = true) (alive : s.objects.server.idled = false)
      (goesOn : next ≠ .idle) (vacant : waiting.Vacant s.objects) :
      Taken s (.change .server next)
        ({ s with objects := { s.objects with server := s.objects.server.report next } }.wake
          waiting coro)
  | serverIdled {waiting : Waiting} (reports : s.reports .server = true)
      (alive : s.objects.server.idled = false) (vacant : waiting.Vacant s.objects) :
      Taken s (.change .server .idle)
        { s with
          objects := { s.objects with server := s.objects.server.report .idle }
          waiting
          stack := .releaseConnections :: s.stack }
  | stopAllEnded {c : ChannelId} {next : Cursor ChildId} {callers : List Frame}
      (before : s.stack = .stopAll c next :: callers)
      (valid : (s.channel c).activeChildren.Valid next) (ended : next.target = none) :
      Taken s .tick ({ s with stack := callers }.disconnectIfAble c)
  | stopAllAsked {c : ChannelId} {next : Cursor ChildId} {child : ChildId} {callers : List Frame}
      (before : s.stack = .stopAll c next :: callers)
      (valid : (s.channel c).activeChildren.Valid next) (target : next.target = some child) :
      Taken s .tick
        ({ s with stack := .stopAll c ((s.channel c).activeChildren.next next) :: callers :
          System }.stopContext child)
  | messagesReleased {c : ChannelId} {waiting : Waiting} {callers : List Frame}
      (before : s.stack = .releaseMessages c :: callers) (vacant : waiting.Vacant s.objects) :
      Taken s .tick { s with waiting, stack := .releaseConsumers c :: callers }
  | connectionReleased {c : ChannelId} {handle : Handle} {waiting : Waiting}
      {coro : Option Coro} {callers : List Frame}
      (before : s.stack = .releaseConsumers c :: callers)
      (role : (s.channel c).role = .connection handle) (vacant : waiting.Vacant s.objects) :
      Taken s .tick
        (({ s with stack := callers }.wake waiting coro).serverSignalDisconnect handle)
  | clientReleased {c : ChannelId} {waiting : Waiting} {coro : Option Coro}
      {callers : List Frame} (before : s.stack = .releaseConsumers c :: callers)
      (role : (s.channel c).role = .client) (vacant : waiting.Vacant s.objects) :
      Taken s .tick
        ((({ s with stack := callers }.setChannel c
          { s.channel c with
            state := .disconnected
            base := { (s.channel c).base with handle := false } }).record
          (.removed c (s.channel c).activeChildren.entries)).wake waiting coro)
  | connectionsEnded {next : Cursor Handle} {callers : List Frame}
      (before : s.stack = .stopConnections next :: callers)
      (valid : s.objects.openConnections.Valid next) (ended : next.target = none) :
      Taken s .tick ({ s with stack := .stopReturn :: callers : System }.doStopIfAble)
  | connectionAsked {next : Cursor Handle} {handle : Handle} {callers : List Frame}
      (before : s.stack = .stopConnections next :: callers)
      (valid : s.objects.openConnections.Valid next) (target : next.target = some handle) :
      Taken s .tick
        ({ s with
          stack := .stopConnections (s.objects.openConnections.next next) :: callers :
          System }.disconnect (s.objects.connectionAt handle))
  | stopReturned {callers : List Frame} (before : s.stack = .stopReturn :: callers) :
      Taken s .tick
        { s with objects := { s.objects with stopReturned := true }, stack := callers }
  | serverReleased {waiting : Waiting} {coro : Option Coro} {callers : List Frame}
      (before : s.stack = .releaseConnections :: callers) (vacant : waiting.Vacant s.objects) :
      Taken s .tick
        ({ s with
          objects := { s.objects with server := { s.objects.server with handle := false } }
          stack := callers }.wake waiting coro)
  | childAccepted {c : ChannelId} {child : ChildId} {placement : Placement ChildId}
      {callers : List Frame} {err : DocaError}
      (before : s.stack = .childStart c child placement :: callers) :
      Taken s (.sdk err)
        (({ s with stack := callers }.setChild child
          { s.child child with handed := true }).setChannel c
          { s.channel c with
            activeChildren := (s.channel c).activeChildren.insert child placement })
  | childRefused {c : ChannelId} {child : ChildId} {placement : Placement ChildId}
      {callers : List Frame} {err : DocaError}
      (before : s.stack = .childStart c child placement :: callers) :
      Taken s (.sdk err)
        ({ s with stack := callers }.setChild child
          { s.child child with
            base := { (s.child child).base with handle := false } })
  | clientAccepted {c : ChannelId} {callers : List Frame} {err : DocaError}
      (before : s.stack = .clientStart c :: callers) :
      Taken s (.sdk err)
        ({ s with stack := callers }.setChannel c { s.channel c with handed := true })
  | clientRefused {c : ChannelId} {callers : List Frame} {err : DocaError}
      (before : s.stack = .clientStart c :: callers) :
      Taken s (.sdk err)
        ({ s with stack := callers }.setChannel c
          { s.channel c with
            base := { (s.channel c).base with handle := false } })
  | disconnectFailed {c : ChannelId} {callers : List Frame} {err : DocaError}
      (before : s.stack = .serverDisconnect c :: callers) (failed : err ≠ .success) :
      Taken s (.sdk err) ({ s with stack := callers }.record (.serverDisconnected c err))
  | disconnectSucceeded {c : ChannelId} {callers : List Frame}
      (before : s.stack = .serverDisconnect c :: callers) :
      Taken s (.sdk .success)
        (({ s with stack := callers }.record (.serverDisconnected c .success)).signalDisconnect c)
  | clientStopReturned {c : ChannelId} {callers : List Frame} {err : DocaError}
      (before : s.stack = .clientStop c :: callers) :
      Taken s (.sdk err) ({ s with stack := callers }.record (.clientStopped c err))
  | serverStopReturned {callers : List Frame} {err : DocaError}
      (before : s.stack = .serverStop :: callers) :
      Taken s (.sdk err) ({ s with stack := callers }.record (.serverStopped err))

/-! ## The step inversion lemma -/

/-- Taking a coroutine out of its slot leaves no new one waiting. -/
theorem vacant_clear (vacant : s.waiting.Vacant s.objects) (slot : Slot) :
    Waiting.Vacant { s.waiting with slot := Function.update s.waiting.slot slot none }
      s.objects := by
  intro other child same unhanded
  by_cases cleared : other = slot
  · simp [cleared]
  · simpa [cleared] using vacant other child same unhanded

/-- A coroutine may wait for a child that user code has. -/
theorem vacant_fill (vacant : s.waiting.Vacant s.objects) {slot : Slot} {coro : Coro}
    (handed : ∀ child, slot.ofChild = some child → (s.child child).handed = true) :
    Waiting.Vacant { s.waiting with slot := Function.update s.waiting.slot slot (some coro) }
      s.objects := by
  intro other child same unhanded
  by_cases filled : other = slot
  · subst filled
    rw [handed child same] at unhanded
    contradiction
  · simpa [filled] using vacant other child same unhanded

theorem vacant_coAwait (vacant : s.waiting.Vacant s.objects) {point : AwaitPoint} {coro : Coro}
    (awaitable : s.awaitable point = true) : (s.coAwait coro point).Vacant s.objects := by
  cases point with
  | message c ticket | consumer c ticket | connection ticket => exact vacant
  | disconnect c =>
    simp only [System.coAwait]
    split
    · exact vacant
    · exact vacant_fill vacant (by simp [Slot.ofChild])
  | started ctx | stopped ctx =>
    simp only [System.coAwait]
    split
    · exact vacant
    · refine vacant_fill vacant fun child same => ?_
      -- Only the slots of a child are for a child, and user code has that child
      cases ctx with
      | server | client c => cases same
      | child handed =>
        obtain rfl := Option.some.inj same
        exact awaitable

theorem calm_of_userControl (control : s.userControl = true) : s.Calm := by
  intro frame head
  unfold userControl at control
  split at control
  · rename_i empty
    simp [empty] at head
  · rename_i stack
    rw [stack] at head
    cases Option.some.inj head
    exact id
  · contradiction

theorem calm_of_empty (empty : s.stack = []) : s.Calm := by
  intro frame head
  simp [empty] at head

/-- A step that wakes nobody. -/
theorem Taken.of_wake_none (taken : Taken s label (t.wake t.waiting none)) : Taken s label t :=
  taken

theorem call_taken {call : UserCall} (vacant : s.waiting.Vacant s.objects)
    (control : s.userControl = true) (taken : s.call call = some t) : Taken s (.call call) t := by
  have calm := calm_of_userControl control
  cases call with
  | disconnect c =>
    simp only [System.call, Option.ite_none_right_eq_some, Option.some.injEq] at taken
    obtain ⟨handed, rfl⟩ := taken
    exact .disconnect calm handed
  | stopServer =>
    obtain rfl := Option.some.inj taken
    exact .stopServer calm
  | create c placement =>
    simp only [System.call, Option.ite_none_right_eq_some, Option.some.injEq] at taken
    obtain ⟨handed, rfl⟩ := taken
    exact .create calm handed
  | stopChild child =>
    simp only [System.call, Option.ite_none_right_eq_some, Option.some.injEq] at taken
    obtain ⟨handed, rfl⟩ := taken
    exact .stopChild calm handed
  | createClient =>
    obtain rfl := Option.some.inj taken
    exact .createClient calm
  | msgRecv c | acceptConsumer c =>
    simp only [System.call, Option.ite_none_right_eq_some, Option.some.injEq] at taken
    obtain ⟨-, rfl⟩ := taken
    exact .of_wake_none (.waited calm vacant)
  | accept =>
    obtain rfl := Option.some.inj taken
    exact .of_wake_none (.waited calm vacant)
  | coAwait point coro =>
    simp only [System.call, Option.ite_none_right_eq_some, Option.some.injEq] at taken
    obtain ⟨awaitable, rfl⟩ := taken
    exact .of_wake_none (.waited calm (vacant_coAwait vacant awaitable))

theorem event_taken {event : SdkEvent} (vacant : s.waiting.Vacant s.objects)
    (empty : s.stack = []) (taken : s.event event = some t) : Taken s (.event event) t := by
  have calm := calm_of_empty empty
  have ignored : Taken s (.event event) s := .of_wake_none (.waited calm vacant)
  cases event with
  | connection handle successful placement =>
    simp only [System.event, Option.ite_none_left_eq_some, not_or] at taken
    obtain ⟨⟨fresh, alive⟩, taken⟩ := taken
    cases successful with
    | false =>
      obtain rfl := Option.some.inj taken
      exact ignored
    | true =>
      obtain rfl := Option.some.inj taken
      exact .connect empty fresh (by simpa using alive) vacant
  | disconnection handle successful =>
    simp only [System.event, Option.ite_none_left_eq_some] at taken
    obtain ⟨-, taken⟩ := taken
    split at taken
    · rename_i found
      obtain ⟨rfl, present⟩ := found
      obtain rfl := Option.some.inj taken
      exact .disconnection empty present
    · obtain rfl := Option.some.inj taken
      exact ignored
  | message peer message | newConsumer peer id =>
    simp only [System.event] at taken
    split at taken
    · obtain rfl := Option.some.inj taken
      exact .waited calm vacant
    · obtain rfl := Option.some.inj taken
      exact ignored
  | expiredConsumer peer id =>
    simp only [System.event] at taken
    split at taken
    · obtain rfl := Option.some.inj taken
      exact .of_wake_none (.waited calm vacant)
    · obtain rfl := Option.some.inj taken
      exact ignored

theorem childChange_taken {child : ChildId} {next : CtxState} (vacant : s.waiting.Vacant s.objects)
    (reports : s.reports (.child child) = true) (alive : (s.child child).base.handle = true)
    (created : child < s.objects.childCount) :
    Taken s (.change (.child child) next) (s.childChange child next) := by
  cases next with
  -- The slot of a child that was not handed out is empty
  | running =>
    exact .childReported reports alive created (by decide)
      (vacant (.start (.child child)) child rfl) (vacant_clear vacant _)
  | idle =>
    exact .childIdled reports alive created (vacant_clear vacant _)
      (vacant (.stop (.child child)) child rfl)
  | starting | stopping =>
    exact .of_wake_none (.childReported reports alive created (by decide) (fun _ => rfl) vacant)

theorem clientChange_taken {c : ChannelId} {next : CtxState}
    (vacant : s.waiting.Vacant s.objects)
    (reports : s.reports (.client c) = true) (client : (s.channel c).role = .client)
    (created : c < s.objects.channelCount) (alive : (s.channel c).base.idled = false)
    (follows : (s.channel c).base.currentState.Follows next) :
    Taken s (.change (.client c) next) (s.clientChange c next) := by
  cases next with
  | running =>
    exact .clientReported reports client created alive (.inl ⟨rfl, rfl⟩) follows
      (vacant_clear vacant _)
  | idle => exact .clientIdled reports client created alive
  | starting =>
    exact .of_wake_none
      (.clientReported reports client created alive (.inr (.inr ⟨rfl, rfl⟩)) follows vacant)
  | stopping =>
    exact .of_wake_none
      (.clientReported reports client created alive (.inr (.inl ⟨rfl, rfl⟩)) follows vacant)

theorem serverChange_taken {next : CtxState} (vacant : s.waiting.Vacant s.objects)
    (reports : s.reports .server = true)
    (alive : s.objects.server.idled = false) :
    Taken s (.change .server next) (s.serverChange next) := by
  cases next with
  | running => exact .serverReported reports alive (by decide) (vacant_clear vacant _)
  | idle => exact .serverIdled reports alive vacant
  | starting | stopping => exact .of_wake_none (.serverReported reports alive (by decide) vacant)

theorem change_taken {ctx : CtxId} {next : CtxState} (vacant : s.waiting.Vacant s.objects)
    (reports : s.reports ctx = true) (taken : s.change ctx next = some t) :
    Taken s (.change ctx next) t := by
  simp only [System.change, Option.ite_none_right_eq_some] at taken
  obtain ⟨⟨known, active, alive, follows⟩, taken⟩ := taken
  cases ctx with
  | server =>
    obtain rfl := Option.some.inj taken
    exact serverChange_taken vacant reports alive
  | client c =>
    obtain rfl := Option.some.inj taken
    simp only [System.known, Bool.and_eq_true, decide_eq_true_eq] at known
    exact clientChange_taken vacant reports known.2 known.1 alive follows
  | child child =>
    obtain rfl := Option.some.inj taken
    exact childChange_taken vacant reports active (of_decide_eq_true known)

/-- A round of a release loop: one more accepter is answered, and the loop stays. -/
theorem waited_round {frame : Frame} {callers : List Frame}
    (before : s.stack = frame :: callers) (calm : ¬ frame.InSdk)
    (vacant : waiting.Vacant s.objects) (coro : Option Coro) :
    Taken s label
      ((({ s with waiting := waiting, stack := callers } : System).push frame).resume coro) := by
  have head : s.Calm := by
    intro top found
    rw [before] at found
    obtain rfl := Option.some.inj found
    exact calm
  rw [System.push, ← before]
  exact .waited head vacant

theorem afterRelease_taken {c : ChannelId} {callers : List Frame}
    (vacant : s.waiting.Vacant s.objects)
    (before : s.stack = .releaseConsumers c :: callers) :
    Taken s .tick (({ s with stack := callers } : System).afterRelease c) := by
  unfold System.afterRelease
  split
  · exact .connectionReleased before ‹_› (vacant_clear vacant _)
  · exact .clientReleased before ‹_› (vacant_clear vacant _)

theorem tick_taken (vacant : s.waiting.Vacant s.objects) (taken : s.tick = some t) :
    Taken s .tick t := by
  unfold System.tick at taken
  split at taken
  · rename_i c next callers before
    split at taken
    · rename_i valid
      obtain rfl := Option.some.inj taken
      unfold System.stopAllNext
      split
      · exact .stopAllEnded before valid ‹_›
      · exact .stopAllAsked before valid ‹_›
    · obtain rfl := Option.some.inj taken
      exact .faulted
  · rename_i c callers before
    obtain rfl := Option.some.inj taken
    unfold System.releaseMessagesNext
    split
    -- One more accepter is answered, and the loop goes on
    · refine waited_round before id ?_ _
      exact vacant
    · exact .messagesReleased before vacant
  · rename_i c callers before
    obtain rfl := Option.some.inj taken
    unfold System.releaseConsumersNext
    split
    · refine waited_round before id ?_ _
      exact vacant
    · exact afterRelease_taken vacant before
  · rename_i next callers before
    split at taken
    · rename_i valid
      obtain rfl := Option.some.inj taken
      unfold System.stopConnectionsNext
      split
      · exact .connectionsEnded before valid ‹_›
      · exact .connectionAsked before valid ‹_›
    · obtain rfl := Option.some.inj taken
      exact .faulted
  · rename_i callers before
    obtain rfl := Option.some.inj taken
    exact .stopReturned before
  · rename_i callers before
    obtain rfl := Option.some.inj taken
    unfold System.releaseConnectionsNext
    split
    · refine waited_round before id ?_ _
      exact vacant
    · exact .serverReleased before (vacant_clear vacant _)
  · contradiction

theorem sdkReturn_taken {err : DocaError} (taken : s.sdkReturn err = some t) :
    Taken s (.sdk err) t := by
  unfold System.sdkReturn at taken
  split at taken
  · rename_i child callers before
    obtain rfl := Option.some.inj taken
    exact .childStopReturned before
  -- A refused start leaves a child without a handle
  · rename_i c child placement callers before
    obtain rfl := Option.some.inj taken
    unfold System.childStarted
    split
    · exact .childAccepted before
    · exact .childRefused before
  · rename_i c callers before
    obtain rfl := Option.some.inj taken
    unfold System.clientStarted
    split
    · exact .clientAccepted before
    · exact .clientRefused before
  · rename_i c callers before
    simp only at taken
    split at taken
    · rename_i succeeded
      subst succeeded
      obtain rfl := Option.some.inj taken
      exact .disconnectSucceeded before
    · rename_i failed
      obtain rfl := Option.some.inj taken
      exact .disconnectFailed before failed
  · rename_i c callers before
    obtain rfl := Option.some.inj taken
    exact .clientStopReturned before
  · rename_i callers before
    obtain rfl := Option.some.inj taken
    exact .serverStopReturned before
  · contradiction

/-- Every step is one of the cases. -/
theorem step_taken (vacant : s.waiting.Vacant s.objects) (taken : s.step label = some t) :
    Taken s label t := by
  unfold System.step at taken
  rw [Option.ite_none_left_eq_some] at taken
  obtain ⟨-, taken⟩ := taken
  cases label with
  | call call =>
    simp only [Option.ite_none_right_eq_some] at taken
    exact call_taken vacant taken.1 taken.2
  | ret =>
    simp only at taken
    split at taken
    · rename_i coro callers before
      obtain rfl := Option.some.inj taken
      exact .suspended before
    · contradiction
  | event event =>
    simp only [Option.ite_none_right_eq_some] at taken
    exact event_taken vacant taken.1 taken.2
  | change ctx next =>
    simp only [Option.ite_none_right_eq_some] at taken
    exact change_taken vacant taken.1 taken.2
  | sdk err => exact sdkReturn_taken taken
  | tick => exact tick_taken vacant taken

/-- Nothing is struck from the log. -/
theorem Taken.mem_log (taken : Taken s label t) {call : Call} (mem : call ∈ s.log) :
    call ∈ t.log := by
  cases taken with
  | childIdled =>
    rw [log_signalStoppedChild]
    split <;> simp [mem]
  | stopAllEnded =>
    rw [log_disconnectIfAble]
    split <;> simp [mem]
  | connectionsEnded =>
    rw [log_doStopIfAble]
    split <;> simp [mem]
  | connectionReleased =>
    simp [log_serverSignalDisconnect, mem]
  | _ => simp [mem]

end System

end Shoc.Comch

/-
# Whoever waits is released

When a connection is disconnected, or a client or the server idle, the accepters of
its queues are released one after the other: first those that wait for messages,
then those that wait for remote consumers. Each release may resume a coroutine, and
that may call the same object again, queue more accepts or end other connections,
before the loop goes on.

What the loops have in common is a queue that is marked disconnected first. Nobody
joins such a queue, so when its loop ends it is closed, and it stays closed. The
invariant says which queues of a channel are marked and which are closed, given the
loops in progress for it.
-/

import Shoc.Comch.Sound
import Shoc.Common.Delivery

namespace Shoc.Comch

open Common Data Transition

@[simp] def Frame.relieves : Frame → Option Frame
  | .releaseMessages c => some (.releaseMessages c)
  | .releaseConsumers c => some (.releaseConsumers c)
  | .releaseConnections => some .releaseConnections
  | _ => none

/-- The loops that release accepters. -/
def relieving : View Frame := ⟨Frame.relieves, fun _ => rfl, fun _ => rfl⟩

@[simp] theorem look_relieving : relieving.look = Frame.relieves := rfl

/-- A call that tears a channel down is none of them. -/
theorem teardown_relieving (c : ChannelId) (role : Role) : relieving.teardown c role = [] := by
  simp

namespace Waiting

/-- In every queue at most one thing happened. -/
structure Served (before after : Waiting) : Prop where
  messages : ∀ c, (before.messages c).Served (after.messages c)
  consumers : ∀ c, (before.consumers c).Served (after.consumers c)
  connections : before.connections.Served after.connections

/-- Besides, queues are marked disconnected nowhere, and accepters released in the given
loops only. -/
structure Handled (loops : List Frame) (before after : Waiting) : Prop where
  messages : ∀ c, (before.messages c).Handled (.releaseMessages c ∈ loops) (after.messages c)
  consumers : ∀ c, (before.consumers c).Handled (.releaseConsumers c ∈ loops) (after.consumers c)
  connections : before.connections.Handled (.releaseConnections ∈ loops) after.connections

variable {w after : Waiting} {c : ChannelId} {loops : List Frame}

theorem Handled.served (handled : w.Handled loops after) : w.Served after :=
  ⟨fun c => (handled.messages c).served, fun c => (handled.consumers c).served,
    handled.connections.served⟩

theorem served_update {α : Type} {queues : ChannelId → AccepterQueues α} {q : AccepterQueues α}
    (served : (queues c).Served q) (other : ChannelId) :
    (queues other).Served (Function.update queues c q other) :=
  (Function.forall_update_iff queues fun c q => (queues c).Served q).mpr
    ⟨served, fun _ _ => .same⟩ other

theorem handled_slot (slot : Slot → Option Coro) : w.Handled loops { w with slot := slot } :=
  ⟨fun _ => .same, fun _ => .same, .same⟩

theorem handled_rfl : w.Handled loops w := ⟨fun _ => .same, fun _ => .same, .same⟩

theorem handled_messages {q : AccepterQueues Message}
    (handled : (w.messages c).Handled (.releaseMessages c ∈ loops) q) :
    w.Handled loops { w with messages := Function.update w.messages c q } where
  messages := (Function.forall_update_iff w.messages fun c q =>
    (w.messages c).Handled (.releaseMessages c ∈ loops) q).mpr ⟨handled, fun _ _ => .same⟩
  consumers _ := .same
  connections := .same

theorem handled_consumers {q : AccepterQueues ConsumerId}
    (handled : (w.consumers c).Handled (.releaseConsumers c ∈ loops) q)
    (remotes : ChannelId → RemoteConsumers) :
    w.Handled loops { w with consumers := Function.update w.consumers c q, remotes := remotes }
    where
  messages _ := .same
  consumers := (Function.forall_update_iff w.consumers fun c q =>
    (w.consumers c).Handled (.releaseConsumers c ∈ loops) q).mpr ⟨handled, fun _ _ => .same⟩
  connections := .same

theorem handled_connections {q : AccepterQueues ChannelId}
    (handled : w.connections.Handled (.releaseConnections ∈ loops) q) :
    w.Handled loops { w with connections := q } :=
  ⟨fun _ => .same, fun _ => .same, handled⟩

/-- Only slots have changed. -/
theorem served_slot (slot : Slot → Option Coro) : w.Served { w with slot := slot } :=
  ⟨fun _ => .same, fun _ => .same, .same⟩

theorem served_messages {q : AccepterQueues Message} (served : (w.messages c).Served q) :
    w.Served { w with messages := Function.update w.messages c q } :=
  ⟨served_update served, fun _ => .same, .same⟩

theorem served_consumers {q : AccepterQueues ConsumerId} (served : (w.consumers c).Served q)
    (remotes : ChannelId → RemoteConsumers) :
    w.Served { w with consumers := Function.update w.consumers c q, remotes := remotes } :=
  ⟨fun _ => .same, served_update served, .same⟩

theorem served_connections {q : AccepterQueues ChannelId} (served : w.connections.Served q) :
    w.Served { w with connections := q } :=
  ⟨fun _ => .same, fun _ => .same, served⟩

/-- The first statement of `message_queues_.disconnect()`. -/
def markMessages (c : ChannelId) (w : Waiting) : Waiting :=
  { w with messages := Function.update w.messages c (w.messages c).markDisconnected }

/-- The first statement of `remote_consumer_queues_.disconnect()`. -/
def markConsumers (c : ChannelId) (w : Waiting) : Waiting :=
  { w with consumers := Function.update w.consumers c (w.consumers c).markDisconnected }

end Waiting

namespace System

variable {s t : System} {label : Label}

/-- What a step does to the queues and to the loops that release accepters: it serves the
queues, or it begins or ends a loop. -/
inductive Relief (s t : System) : Prop
  | kept (served : s.waiting.Served t.waiting)
      (stack : relieving.see t.stack = relieving.see s.stack)
  | begun (c : ChannelId) (waiting : t.waiting = s.waiting.markMessages c)
      (stack : relieving.see t.stack = .releaseMessages c :: relieving.see s.stack)
  | messages (c : ChannelId) (callers : List Frame)
      (before : relieving.see s.stack = .releaseMessages c :: callers)
      (nobody : (s.waiting.messages c).pendingAccepters = [])
      (waiting : t.waiting = s.waiting.markConsumers c)
      (stack : relieving.see t.stack = .releaseConsumers c :: callers)
  | consumers (c : ChannelId) (callers : List Frame)
      (before : relieving.see s.stack = .releaseConsumers c :: callers)
      (nobody : (s.waiting.consumers c).pendingAccepters = [])
      (slot : Slot → Option Coro) (waiting : t.waiting = { s.waiting with slot := slot })
      (stack : relieving.see t.stack = callers)
  | serverBegun
      (waiting : t.waiting =
        { s.waiting with connections := s.waiting.connections.markDisconnected })
      (stack : relieving.see t.stack = .releaseConnections :: relieving.see s.stack)
  | server (callers : List Frame)
      (before : relieving.see s.stack = .releaseConnections :: callers)
      (nobody : s.waiting.connections.pendingAccepters = [])
      (slot : Slot → Option Coro) (waiting : t.waiting = { s.waiting with slot := slot })
      (stack : relieving.see t.stack = callers)

/-- The same, with the loops in which accepters were released. -/
inductive Handling (s t : System) : Prop
  | kept (handled : s.waiting.Handled (relieving.see s.stack) t.waiting)
      (stack : relieving.see t.stack = relieving.see s.stack)
  | begun (c : ChannelId) (waiting : t.waiting = s.waiting.markMessages c)
      (stack : relieving.see t.stack = .releaseMessages c :: relieving.see s.stack)
  | messages (c : ChannelId) (callers : List Frame)
      (before : relieving.see s.stack = .releaseMessages c :: callers)
      (nobody : (s.waiting.messages c).pendingAccepters = [])
      (waiting : t.waiting = s.waiting.markConsumers c)
      (stack : relieving.see t.stack = .releaseConsumers c :: callers)
  | consumers (c : ChannelId) (callers : List Frame)
      (before : relieving.see s.stack = .releaseConsumers c :: callers)
      (nobody : (s.waiting.consumers c).pendingAccepters = [])
      (slot : Slot → Option Coro) (waiting : t.waiting = { s.waiting with slot := slot })
      (stack : relieving.see t.stack = callers)
  | serverBegun
      (waiting : t.waiting =
        { s.waiting with connections := s.waiting.connections.markDisconnected })
      (stack : relieving.see t.stack = .releaseConnections :: relieving.see s.stack)
  | server (callers : List Frame)
      (before : relieving.see s.stack = .releaseConnections :: callers)
      (nobody : s.waiting.connections.pendingAccepters = [])
      (slot : Slot → Option Coro) (waiting : t.waiting = { s.waiting with slot := slot })
      (stack : relieving.see t.stack = callers)

theorem Handling.relief (handling : Handling s t) : Relief s t := by
  cases handling with
  | kept handled stack => exact .kept handled.served stack
  | begun c waiting stack => exact .begun c waiting stack
  | messages c callers before nobody waiting stack =>
    exact .messages c callers before nobody waiting stack
  | consumers c callers before nobody slot waiting stack =>
    exact .consumers c callers before nobody slot waiting stack
  | serverBegun waiting stack => exact .serverBegun waiting stack
  | server callers before nobody slot waiting stack =>
    exact .server callers before nobody slot waiting stack

@[simp] theorem waiting_resume (coro : Option Coro) : (s.resume coro).waiting = s.waiting := by
  cases coro <;> rfl

@[simp] theorem see_resume (coro : Option Coro) :
    relieving.see (s.resume coro).stack = relieving.see s.stack := by
  cases coro <;> simp [resume]

theorem waiting_resumeSlot (slot : Slot) : (s.resumeSlot slot).waiting =
    { s.waiting with slot := Function.update s.waiting.slot slot none } := by
  simp [resumeSlot]

@[simp] theorem see_resumeSlot (slot : Slot) :
    relieving.see (s.resumeSlot slot).stack = relieving.see s.stack := by
  simp [resumeSlot]

/-- The queues and loops are as they were. -/
theorem Handling.of_eq (waiting : t.waiting = s.waiting)
    (stack : relieving.see t.stack = relieving.see s.stack) : Handling s t :=
  .kept (waiting ▸ Waiting.handled_rfl) stack

theorem Handling.of_slot (slot : Slot → Option Coro)
    (waiting : t.waiting = { s.waiting with slot := slot })
    (stack : relieving.see t.stack = relieving.see s.stack) : Handling s t :=
  .kept (waiting ▸ Waiting.handled_slot slot) stack

theorem call_handling {call : UserCall} (taken : s.call call = some t) : Handling s t := by
  cases call with
  | disconnect c =>
    simp only [System.call, Option.ite_none_right_eq_some, Option.some.injEq] at taken
    obtain ⟨-, rfl⟩ := taken
    exact .of_eq (by simp) (by simp)
  | stopServer =>
    obtain rfl := Option.some.inj taken
    exact .of_eq rfl (by simp)
  | create c placement =>
    simp only [System.call, Option.ite_none_right_eq_some, Option.some.injEq] at taken
    obtain ⟨-, rfl⟩ := taken
    exact .of_eq rfl (by simp)
  | stopChild child =>
    simp only [System.call, Option.ite_none_right_eq_some, Option.some.injEq] at taken
    obtain ⟨-, rfl⟩ := taken
    exact .of_eq (by simp) (by simp)
  | createClient =>
    obtain rfl := Option.some.inj taken
    exact .of_eq rfl (by simp)
  | msgRecv c =>
    simp only [System.call, Option.ite_none_right_eq_some, Option.some.injEq] at taken
    obtain ⟨-, rfl⟩ := taken
    exact .kept (Waiting.handled_messages .accepted) rfl
  | acceptConsumer c =>
    simp only [System.call, Option.ite_none_right_eq_some, Option.some.injEq] at taken
    obtain ⟨-, rfl⟩ := taken
    exact .kept (Waiting.handled_consumers .accepted _) rfl
  | accept =>
    obtain rfl := Option.some.inj taken
    exact .kept (Waiting.handled_connections .accepted) rfl
  | coAwait point coro =>
    simp only [System.call, Option.ite_none_right_eq_some, Option.some.injEq] at taken
    obtain ⟨-, rfl⟩ := taken
    refine .kept ?_ rfl
    cases point with
    | message c ticket => exact Waiting.handled_messages (.awaited ticket coro)
    | consumer c ticket => exact Waiting.handled_consumers (.awaited ticket coro) _
    | connection ticket => exact Waiting.handled_connections (.awaited ticket coro)
    | disconnect c =>
      simp only [System.coAwait]
      split
      · exact Waiting.handled_rfl
      · exact Waiting.handled_slot _
    | started ctx | stopped ctx =>
      simp only [System.coAwait]
      split
      · exact Waiting.handled_rfl
      · exact Waiting.handled_slot _

theorem event_handling {event : SdkEvent} (taken : s.event event = some t) : Handling s t := by
  have ignored : Handling s s := .of_eq rfl rfl
  cases event with
  | connection handle successful placement =>
    simp only [System.event, Option.ite_none_left_eq_some, not_or] at taken
    obtain ⟨-, taken⟩ := taken
    cases successful with
    | false =>
      obtain rfl := Option.some.inj taken
      exact ignored
    | true =>
      obtain rfl := Option.some.inj taken
      refine .kept ?_ (by simp [System.connect])
      simp only [System.connect, waiting_resume]
      exact Waiting.handled_connections (.supplied _)
  | disconnection handle successful =>
    simp only [System.event, Option.ite_none_left_eq_some] at taken
    obtain ⟨-, taken⟩ := taken
    split at taken
    · obtain rfl := Option.some.inj taken
      exact .begun _ rfl (by simp)
    · obtain rfl := Option.some.inj taken
      exact ignored
  | message peer message =>
    simp only [System.event] at taken
    split at taken
    · obtain rfl := Option.some.inj taken
      refine .kept ?_ (by simp [supplyMessage])
      simp only [supplyMessage, waiting_resume]
      exact Waiting.handled_messages (.supplied _)
    · obtain rfl := Option.some.inj taken
      exact ignored
  | newConsumer peer id =>
    simp only [System.event] at taken
    split at taken
    · obtain rfl := Option.some.inj taken
      refine .kept ?_ (by simp [supplyConsumer])
      simp only [supplyConsumer, waiting_resume]
      exact Waiting.handled_consumers (.supplied _) _
    · obtain rfl := Option.some.inj taken
      exact ignored
  | expiredConsumer peer id =>
    simp only [System.event] at taken
    split at taken
    · obtain rfl := Option.some.inj taken
      exact .kept ⟨fun _ => .same, fun _ => .same, .same⟩ rfl
    · obtain rfl := Option.some.inj taken
      exact ignored

theorem change_handling {ctx : CtxId} {next : CtxState} (taken : s.change ctx next = some t) :
    Handling s t := by
  simp only [System.change, Option.ite_none_right_eq_some] at taken
  obtain ⟨-, taken⟩ := taken
  cases ctx with
  | server =>
    obtain rfl := Option.some.inj taken
    cases next with
    | running => exact .of_slot _ (waiting_resumeSlot _) (by simp [serverChange])
    | idle => exact .serverBegun rfl (by simp [serverChange])
    | starting | stopping => exact .of_eq rfl rfl
  | client c =>
    obtain rfl := Option.some.inj taken
    cases next with
    | running => exact .of_slot _ (waiting_resumeSlot _) (by simp [clientChange])
    | idle => exact .begun c rfl (by simp [clientChange])
    | starting | stopping => exact .of_eq rfl rfl
  | child child =>
    obtain rfl := Option.some.inj taken
    cases next with
    | running => exact .of_slot _ (waiting_resumeSlot _) (by simp [childChange])
    | idle =>
      refine .of_slot (Function.update s.waiting.slot (.stop (.child child)) none) ?_ ?_
      · simp [childChange, waiting_resumeSlot]
      · simp only [childChange, View.see_signalStoppedChild, see_resumeSlot, teardown_relieving,
          ite_self, List.nil_append, setChild]
    | starting | stopping => exact .of_eq rfl rfl

theorem sdkReturn_handling {err : DocaError} (taken : s.sdkReturn err = some t) : Handling s t := by
  unfold sdkReturn at taken
  split at taken
  · rename_i child callers stack
    obtain rfl := Option.some.inj taken
    exact .of_eq rfl (by simp [stack])
  · rename_i c child placement callers stack
    obtain rfl := Option.some.inj taken
    unfold childStarted
    split
    · exact .of_eq rfl (by simp [stack])
    · exact .of_eq rfl (by simp [stack])
  · rename_i c callers stack
    obtain rfl := Option.some.inj taken
    unfold clientStarted
    split
    · exact .of_eq rfl (by simp [stack])
    · exact .of_eq rfl (by simp [stack])
  · rename_i c callers stack
    simp only at taken
    split at taken
    · obtain rfl := Option.some.inj taken
      exact .begun c rfl (by simp [stack])
    · obtain rfl := Option.some.inj taken
      exact .of_eq rfl (by simp [stack])
  · rename_i c callers stack
    obtain rfl := Option.some.inj taken
    exact .of_eq rfl (by simp [stack])
  · rename_i callers stack
    obtain rfl := Option.some.inj taken
    exact .of_eq rfl (by simp [stack])
  · contradiction

theorem afterRelease_handling {c : ChannelId} {callers : List Frame}
    (stack : s.stack = .releaseConsumers c :: callers)
    (nobody : (s.waiting.consumers c).pendingAccepters = []) :
    Handling s ({ s with stack := callers }.afterRelease c) := by
  unfold afterRelease
  split
  · refine .consumers c (relieving.see callers) (by simp [stack]) nobody
      (Function.update s.waiting.slot (.disconnect c) none) ?_ ?_
    · simp [waiting_resumeSlot]
    · simp
  · refine .consumers c (relieving.see callers) (by simp [stack]) nobody
      (Function.update s.waiting.slot (.stop (.client c)) none) ?_ ?_
    · exact waiting_resumeSlot _
    · simp

theorem tick_handling (taken : s.tick = some t) : Handling s t := by
  unfold tick at taken
  split at taken
  · rename_i c next callers stack
    split at taken
    · obtain rfl := Option.some.inj taken
      unfold stopAllNext
      split
      · exact .of_eq (by simp) (by simp [stack])
      · exact .of_eq (by simp) (by simp [stack])
    · obtain rfl := Option.some.inj taken
      exact .of_eq rfl rfl
  · rename_i c callers stack
    obtain rfl := Option.some.inj taken
    unfold releaseMessagesNext
    split
    · rename_i queues coro released
      refine .kept ?_ (by simp [stack])
      rw [waiting_resume]
      exact Waiting.handled_messages (.released (by simp [stack]) released)
    · rename_i ended
      exact .messages c (relieving.see callers) (by simp [stack])
        (AccepterQueues.release_eq_none.mp ended) rfl (by simp)
  · rename_i c callers stack
    obtain rfl := Option.some.inj taken
    unfold releaseConsumersNext
    split
    · rename_i queues coro released
      refine .kept ?_ (by simp [stack])
      rw [waiting_resume]
      exact Waiting.handled_consumers (.released (by simp [stack]) released) _
    · rename_i ended
      exact afterRelease_handling stack (AccepterQueues.release_eq_none.mp ended)
  · rename_i next callers stack
    split at taken
    · obtain rfl := Option.some.inj taken
      unfold stopConnectionsNext
      split
      · exact .of_eq (by simp) (by simp [stack])
      · exact .of_eq (by simp) (by simp [stack])
    · obtain rfl := Option.some.inj taken
      exact .of_eq rfl rfl
  · rename_i callers stack
    obtain rfl := Option.some.inj taken
    exact .of_eq rfl (by simp [stack])
  · rename_i callers stack
    obtain rfl := Option.some.inj taken
    unfold releaseConnectionsNext
    split
    · rename_i queues coro released
      refine .kept ?_ (by simp [stack])
      rw [waiting_resume]
      exact Waiting.handled_connections (.released (by simp [stack]) released)
    · rename_i ended
      exact .server (relieving.see callers) (by simp [stack])
        (AccepterQueues.release_eq_none.mp ended) _ (waiting_resumeSlot _) (by simp)
  · contradiction

/-- Every step serves the queues, or begins or ends a loop. -/
theorem step_handling (taken : s.step label = some t) : Handling s t := by
  unfold System.step at taken
  rw [Option.ite_none_left_eq_some] at taken
  obtain ⟨-, taken⟩ := taken
  cases label with
  | call call =>
    simp only [Option.ite_none_right_eq_some] at taken
    exact call_handling taken.2
  | ret =>
    simp only at taken
    split at taken
    · rename_i coro callers stack
      obtain rfl := Option.some.inj taken
      exact .of_eq rfl (by simp [stack])
    · contradiction
  | event event =>
    simp only [Option.ite_none_right_eq_some] at taken
    exact event_handling taken.2
  | change ctx next =>
    simp only [Option.ite_none_right_eq_some] at taken
    exact change_handling taken.2
  | sdk err => exact sdkReturn_handling taken
  | tick => exact tick_handling taken

theorem step_relief (taken : s.step label = some t) : Relief s t := (step_handling taken).relief

/-! ## Queues that are marked and queues that are closed -/

/-- The loops in progress have marked their queues, and are through with those before. Without
a loop everything that was torn down is closed. -/
structure Relieved (s : System) : Prop where
  messages : ∀ c, .releaseMessages c ∈ relieving.see s.stack →
    (s.waiting.messages c).disconnected = true
  consumers : ∀ c, .releaseConsumers c ∈ relieving.see s.stack →
    (s.waiting.messages c).Closed ∧ (s.waiting.consumers c).disconnected = true
  connections : .releaseConnections ∈ relieving.see s.stack →
    s.waiting.connections.disconnected = true
  torn : ∀ c, (s.channel c).TornDown → .releaseMessages c ∈ relieving.see s.stack ∨
    .releaseConsumers c ∈ relieving.see s.stack ∨
    (s.waiting.messages c).Closed ∧ (s.waiting.consumers c).Closed
  idled : s.objects.server.idled = true → .releaseConnections ∈ relieving.see s.stack ∨
    s.waiting.connections.Closed

/-- Every queue serves in order and wakes whom it serves. -/
structure InOrder (w : Waiting) : Prop where
  messages : ∀ c, (w.messages c).Orderly ∧ (w.messages c).Woken
  consumers : ∀ c, (w.consumers c).Orderly ∧ (w.consumers c).Woken
  connections : w.connections.Orderly ∧ w.connections.Woken

theorem served_of_relief (relief : Relief s t) : s.waiting.Served t.waiting := by
  cases relief with
  | kept served stack => exact served
  | begun c waiting stack => exact waiting ▸ Waiting.served_messages .marked
  | messages c callers before nobody waiting stack =>
    exact waiting ▸ Waiting.served_consumers .marked _
  | consumers c callers before nobody slot waiting stack => exact waiting ▸ Waiting.served_slot slot
  | serverBegun waiting stack => exact waiting ▸ Waiting.served_connections .marked
  | server callers before nobody slot waiting stack => exact waiting ▸ Waiting.served_slot slot

theorem inOrder_step (inOrder : InOrder s.waiting) (relief : Relief s t) : InOrder t.waiting := by
  have served := served_of_relief relief
  exact ⟨fun c => ⟨(served.messages c).orderly (inOrder.messages c).1,
      (served.messages c).woken (inOrder.messages c).2⟩,
    fun c => ⟨(served.consumers c).orderly (inOrder.consumers c).1,
      (served.consumers c).woken (inOrder.consumers c).2⟩,
    served.connections.orderly inOrder.connections.1,
    served.connections.woken inOrder.connections.2⟩

/-- A loop begins: it has marked its queue, and the one before it has released everybody. -/
inductive Begins (s t : System) : Frame → Prop
  | messages {c : ChannelId} (marked : (t.waiting.messages c).disconnected = true) :
      Begins s t (.releaseMessages c)
  | consumers {c : ChannelId} (before : .releaseMessages c ∈ relieving.see s.stack)
      (nobody : (s.waiting.messages c).pendingAccepters = [])
      (marked : (t.waiting.consumers c).disconnected = true) : Begins s t (.releaseConsumers c)
  | connections (marked : t.waiting.connections.disconnected = true) :
      Begins s t .releaseConnections

/-- A loop ends: it has released everybody. -/
inductive Finishes (s t : System) : Frame → Prop
  | messages {c : ChannelId} (next : .releaseConsumers c ∈ relieving.see t.stack) :
      Finishes s t (.releaseMessages c)
  | consumers {c : ChannelId} (nobody : (s.waiting.consumers c).pendingAccepters = []) :
      Finishes s t (.releaseConsumers c)
  | connections (nobody : s.waiting.connections.pendingAccepters = []) :
      Finishes s t .releaseConnections

section Loops

variable (relief : Relief s t) {frame : Frame}

include relief

theorem Relief.mem_or_begins (mem : frame ∈ relieving.see t.stack) :
    frame ∈ relieving.see s.stack ∨ Begins s t frame := by
  cases relief with
  | kept served stack => exact .inl (stack ▸ mem)
  | begun c waiting stack =>
    rw [stack] at mem
    obtain rfl | before := List.mem_cons.mp mem
    · refine .inr (.messages ?_)
      simp [waiting, Waiting.markMessages, AccepterQueues.markDisconnected]
    · exact .inl before
  | messages c callers before nobody waiting stack =>
    rw [stack] at mem
    rw [before]
    obtain rfl | later := List.mem_cons.mp mem
    · refine .inr (.consumers (by simp [before]) nobody ?_)
      simp [waiting, Waiting.markConsumers, AccepterQueues.markDisconnected]
    · exact .inl (List.mem_cons_of_mem _ later)
  | serverBegun waiting stack =>
    rw [stack] at mem
    obtain rfl | before := List.mem_cons.mp mem
    · exact .inr (.connections (by simp [waiting, AccepterQueues.markDisconnected]))
    · exact .inl before
  | consumers c callers before nobody slot waiting stack
  | server callers before nobody slot waiting stack =>
    rw [before]
    exact .inl (List.mem_cons_of_mem _ (stack ▸ mem))

theorem Relief.mem_or_finishes (mem : frame ∈ relieving.see s.stack) :
    frame ∈ relieving.see t.stack ∨ Finishes s t frame := by
  cases relief with
  | kept served stack => exact .inl (stack ▸ mem)
  | begun c waiting stack | serverBegun waiting stack =>
    rw [stack]
    exact .inl (List.mem_cons_of_mem _ mem)
  | messages c callers before nobody waiting stack =>
    rw [before] at mem
    obtain rfl | later := List.mem_cons.mp mem
    · exact .inr (.messages (by simp [stack]))
    · rw [stack]
      exact .inl (List.mem_cons_of_mem _ later)
  | consumers c callers before nobody slot waiting stack =>
    rw [before] at mem
    obtain rfl | later := List.mem_cons.mp mem
    · exact .inr (.consumers nobody)
    · exact .inl (stack ▸ later)
  | server callers before nobody slot waiting stack =>
    rw [before] at mem
    obtain rfl | later := List.mem_cons.mp mem
    · exact .inr (.connections nobody)
    · exact .inl (stack ▸ later)

end Loops

theorem relieved_step (relieved : Relieved s) (taken : Taken s label t) (relief : Relief s t) :
    Relieved t := by
  have served := served_of_relief relief
  constructor
  · intro c mem
    obtain before | begins := relief.mem_or_begins mem
    · exact ((served.messages c).closing (relieved.messages c before)).1
    · cases begins with
      | messages marked => exact marked
  · intro c mem
    obtain before | begins := relief.mem_or_begins mem
    · obtain ⟨closed, marked⟩ := relieved.consumers c before
      exact ⟨(served.messages c).closed closed, ((served.consumers c).closing marked).1⟩
    · cases begins with
      | consumers loop nobody marked =>
        exact ⟨(served.messages c).closed ⟨relieved.messages c loop, nobody⟩, marked⟩
  · intro mem
    obtain before | begins := relief.mem_or_begins mem
    · exact (served.connections.closing (relieved.connections before)).1
    · cases begins with
      | connections marked => exact marked
  · intro c torn
    obtain before | ⟨callers, after⟩ := (taken.channelMoved c).tornDown_or_releases torn
    · obtain loop | loop | closed := relieved.torn c before
      · obtain goesOn | finishes := relief.mem_or_finishes loop
        · exact .inl goesOn
        · cases finishes with
          | messages next => exact .inr (.inl next)
      -- The last loop is over
      · obtain goesOn | finishes := relief.mem_or_finishes loop
        · exact .inr (.inl goesOn)
        · cases finishes with
          | consumers nobody =>
            obtain ⟨closed, marked⟩ := relieved.consumers c loop
            exact .inr (.inr ⟨(served.messages c).closed closed,
              (served.consumers c).closed ⟨marked, nobody⟩⟩)
      · exact .inr (.inr ⟨(served.messages c).closed closed.1,
          (served.consumers c).closed closed.2⟩)
    · exact .inl (by simp [after])
  · intro idled
    obtain before | ⟨-, after⟩ := taken.server_idled idled
    · obtain loop | closed := relieved.idled before
      · obtain goesOn | finishes := relief.mem_or_finishes loop
        · exact .inl goesOn
        · cases finishes with
          | connections nobody =>
            exact .inr (served.connections.closed ⟨relieved.connections loop, nobody⟩)
      · exact .inr (served.connections.closed closed)
    · exact .inl (by simp [after])

/-! ## Whole runs -/

/-- Everything that holds of the queues in every reachable state. -/
structure Serving (s : System) : Prop where
  sound : s.Sound
  relieved : Relieved s
  inOrder : InOrder s.waiting

theorem serving_init : Serving {} where
  sound := sound_init
  relieved := by constructor <;> simp [Channel.TornDown]
  inOrder :=
    ⟨fun _ => ⟨Delivers.init, by simp [AccepterQueues.Woken]⟩,
      fun _ => ⟨Delivers.init, by simp [AccepterQueues.Woken]⟩,
      Delivers.init, by simp [AccepterQueues.Woken]⟩

theorem serving_step (serving : Serving s) (taken : s.step label = some t) : Serving t := by
  have inverted := serving.sound.taken taken
  have relief := step_relief taken
  exact ⟨sound_step serving.sound inverted, relieved_step serving.relieved inverted relief,
    inOrder_step serving.inOrder relief⟩

theorem serving_of_run {ok : System → Label → Prop} {labels : List Label}
    (run : Run step ok s labels t) (serving : Serving s) : Serving t :=
  run.invariant Serving (fun _ _ _ serving _ taken => serving_step serving taken) serving

/-- Once a queue is closed it stays closed. -/
theorem closed_of_run {ok : System → Label → Prop} {labels : List Label} {α : Type}
    (queue : Waiting → AccepterQueues α)
    (serves : ∀ {before after : Waiting}, before.Served after →
      (queue before).Served (queue after))
    (run : Run step ok s labels t) (closed : (queue s.waiting).Closed) :
    (queue t.waiting).Closed :=
  run.invariant (fun s => (queue s.waiting).Closed)
    (fun _ _ _ closed _ taken => (serves (served_of_relief (step_relief taken))).closed closed)
    closed

/-- Every accept call has its result and everybody who waited for one was resumed; another call
gets its result at once, the oldest item or else the error. -/
structure Answers {α : Type} (q : AccepterQueues α) : Prop where
  results : ∀ r ∈ q.receptables, r.hasValue = true
  resumed : ∀ (ticket : Ticket) r coro, q.receptables[ticket]? = some r → r.waiter = some coro →
    (ticket, coro) ∈ q.resumed
  next : q.accept.receptables = q.receptables ++
    [match q.pendingData.head? with
      | some item => .fromValue item
      | none => .fromError .notConnected]

theorem answers_of_closed {α : Type} {q : AccepterQueues α} (inOrder : q.Orderly ∧ q.Woken)
    (closed : q.Closed) : Answers q where
  results := AccepterQueues.hasValue_of_closed inOrder.1 closed
  resumed ticket r coro found waits := by
    have has := AccepterQueues.hasValue_of_closed inOrder.1 closed r (List.mem_of_getElem? found)
    exact inOrder.2 ticket r coro found (Coro.Receptable.hasValue_iff.mp has) waits
  next := AccepterQueues.receptables_accept closed

theorem see_relieving {frame : Frame} {stack : List Frame} (mem : frame ∈ relieving.see stack) :
    frame ∈ stack := by
  obtain ⟨other, present, look⟩ := relieving.mem_see.mp mem
  cases other <;> simp_all

/-- Once a connection was disconnected or a client is idle, and the accepters of its queues have
been released, its queues answer everybody, then and ever after, and so do those of a server
that is idle. -/
theorem accepters_released (labels : List Label) (s : System) (run : Run step Always {} labels s) :
    (∀ c, (s.channel c).TornDown → .releaseMessages c ∉ s.stack → .releaseConsumers c ∉ s.stack →
      ∀ more t, Run step Always s more t →
        Answers (t.waiting.messages c) ∧ Answers (t.waiting.consumers c)) ∧
    (s.objects.server.idled = true → .releaseConnections ∉ s.stack →
      ∀ more t, Run step Always s more t → Answers t.waiting.connections) := by
  have serving := serving_of_run run serving_init
  constructor
  · intro c torn noMessages noConsumers more t later
    have inOrder := (serving_of_run later serving).inOrder
    obtain loop | loop | closed := serving.relieved.torn c torn
    · exact absurd (see_relieving loop) noMessages
    · exact absurd (see_relieving loop) noConsumers
    · exact ⟨answers_of_closed (inOrder.messages c)
          (closed_of_run (·.messages c) (fun served => served.messages c) later closed.1),
        answers_of_closed (inOrder.consumers c)
          (closed_of_run (·.consumers c) (fun served => served.consumers c) later closed.2)⟩
  · intro idled noConnections more t later
    obtain loop | closed := serving.relieved.idled idled
    · exact absurd (see_relieving loop) noConnections
    · exact answers_of_closed (serving_of_run later serving).inOrder.connections
        (closed_of_run (·.connections) (fun served => served.connections) later closed)

/-- Coroutines wait for a message and for a consumer when the connection is disconnected by the
client. The first one asks for both again when it is resumed. -/
def waitedInVain : List Label :=
  [.event (.connection 1 true (.position 0)), .call (.msgRecv 0), .call (.coAwait (.message 0 0) 5),
    .call (.acceptConsumer 0), .call (.coAwait (.consumer 0 0) 6),
    .event (.disconnection 1 true), .tick, .call (.msgRecv 0), .call (.acceptConsumer 0), .ret,
    .tick, .tick, .ret, .tick, .tick]

theorem accepters_released_waitedInVain :
    ∃ s, Run step Always {} waitedInVain s ∧ (s.channel 0).TornDown ∧ s.stack = [] ∧
      (s.waiting.messages 0).resumed = [(0, 5)] ∧ (s.waiting.consumers 0).resumed = [(0, 6)] ∧
      Answers (s.waiting.messages 0) ∧ Answers (s.waiting.consumers 0) := by
  have run : Run step Always {} waitedInVain _ := ⟨rfl, meets_always _ _⟩
  have answered := (accepters_released waitedInVain _ run).1 0 (by decide) (by decide) (by decide)
    [] _ (.nil _)
  exact ⟨_, run, by decide, rfl, rfl, rfl, answered⟩

end System

end Shoc.Comch

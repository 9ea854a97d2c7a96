/-
# The objects of a communication channel

A comch server with its connections, any number of comch clients, and the
consumers and producers created on connections and clients. A connection and a
client have most of their state and logic in common; both are channels here, and
where the source has one function for each the model has one function that looks
at the role of the channel.

The state comes in three parts. The objects are what teardown is about: states,
registries, requests. Who waits for what, in the accepter queues and in the slots
for coroutine handles, only decides which coroutines run when. The stack says what
is in progress: calls into the SDK, functions of the library that are in the
middle of a loop or have called something, and coroutines that were resumed.
-/

import Mathlib.Logic.Function.Basic
import Shoc.Common.AccepterQueues
import Shoc.Data.Registry

namespace Shoc.Comch

open Common Data

/-- A `doca_comch_connection *`. -/
abbrev Handle := ℕ

/-- A `server_connection` or `client` object. -/
abbrev ChannelId := ℕ

/-- A `consumer` or `producer` object. -/
abbrev ChildId := ℕ

/-- `comch::message`. -/
abbrev Message := List UInt8

/-- The id of a remote consumer. -/
abbrev ConsumerId := UInt32

/-- `connection_state`. -/
inductive ConnectionState
  | connected
  | disconnecting
  | disconnected
  deriving DecidableEq, Repr

theorem ConnectionState.eq_disconnecting {state : ConnectionState} (left : state ≠ .connected)
    (up : state ≠ .disconnected) : state = .disconnecting := by
  cases state <;> trivial

/-- What `context_base` keeps of a DOCA context. `idled` says that the SDK has reported the
context idle after it was started, which is the last thing it reports; `handle` that the
DOCA handle has not been destroyed. -/
structure ContextBase where
  currentState : CtxState := .idle
  idled : Bool := false
  handle : Bool := true
  deriving DecidableEq, Repr

/-- A channel is a connection of the server, known to the SDK by its handle, or a client. -/
inductive Role
  | connection (handle : Handle)
  | client
  deriving DecidableEq, Repr

/-- A `server_connection` or a `client`. Connections have no context of their own. `handed`
says that the object was returned to the user, `requested` that `disconnect` or `stop` has
been called on it. -/
structure Channel where
  role : Role := .client
  base : ContextBase := {}
  state : ConnectionState := .disconnected
  activeChildren : Registry ChildId := {}
  handed : Bool := false
  requested : Bool := false

/-- The channel was torn down: the client is idle, the connection disconnected. -/
def Channel.TornDown (channel : Channel) : Prop :=
  if channel.role = .client then channel.base.idled = true else channel.state = .disconnected

instance (channel : Channel) : Decidable channel.TornDown :=
  inferInstanceAs (Decidable (if channel.role = .client then channel.base.idled = true else
    channel.state = .disconnected))

theorem Channel.tornDown_iff {channel : Channel} :
    channel.TornDown ↔ (channel.role = .client → channel.base.idled = true) ∧
      (channel.role ≠ .client → channel.state = .disconnected) := by
  unfold TornDown
  split <;> simp [*]

theorem Channel.not_tornDown {channel : Channel} :
    ¬ channel.TornDown ↔ (channel.role = .client → channel.base.idled = false) ∧
      (channel.role ≠ .client → channel.state ≠ .disconnected) := by
  unfold TornDown
  split <;> simp [*]

/-- A `consumer` or `producer`. `handed` says that `create_context` has returned, `asked`
that `stop` has been called on it. -/
structure Child where
  parent : ChannelId := 0
  base : ContextBase := {}
  handed : Bool := false
  asked : Bool := false

/-- The server and all channels and children. Objects are numbered in the order of their
creation; `connectionAt` are the values of the map `open_connections_`. `stopReturned` says
that a call of `server::stop` has returned. -/
structure Objects where
  server : ContextBase := {}
  stopRequested : Bool := false
  stopReturned : Bool := false
  openConnections : Registry Handle := {}
  connectionAt : Handle → ChannelId := fun _ => 0
  channels : ChannelId → Channel := fun _ => {}
  channelCount : ℕ := 0
  children : ChildId → Child := fun _ => {}
  childCount : ℕ := 0

/-- A DOCA context. -/
inductive CtxId
  | server
  | client (channel : ChannelId)
  | child (child : ChildId)
  deriving DecidableEq, Repr

/-- A slot for a coroutine handle: `coro_disconnect_`, `coro_start_`, `coro_stop_`. -/
inductive Slot
  | disconnect (channel : ChannelId)
  | start (ctx : CtxId)
  | stop (ctx : CtxId)
  deriving DecidableEq, Repr

/-- The `remote_consumer` objects of a channel, numbered as they were supplied: `index_`, which
finds the present one of an id, and those that are marked expired. -/
structure RemoteConsumers where
  index : List (ConsumerId × ℕ) := []
  expired : List ℕ := []
  deriving DecidableEq, Repr

namespace RemoteConsumers

/-- `index_[id] = payload`. -/
def add (id : ConsumerId) (number : ℕ) (r : RemoteConsumers) : RemoteConsumers :=
  { r with index := (id, number) :: r.index.filter (·.1 ≠ id) }

/-- `remote_consumer_queues::expire`. An unknown id is logged and ignored. -/
def expire (id : ConsumerId) (r : RemoteConsumers) : RemoteConsumers :=
  match r.index.lookup id with
  | some number => { index := r.index.filter (·.1 ≠ id), expired := number :: r.expired }
  | none => r

end RemoteConsumers

/-- What a call of `send` comes to: an awaitable that is ready, or the offload of a task. -/
inductive Sent
  | ready (status : DocaError)
  | offloaded
  deriving DecidableEq, Repr

/-- The accepter queues and the slots. -/
structure Waiting where
  messages : ChannelId → AccepterQueues Message := fun _ => {}
  consumers : ChannelId → AccepterQueues ConsumerId := fun _ => {}
  remotes : ChannelId → RemoteConsumers := fun _ => {}
  connections : AccepterQueues ChannelId := {}
  slot : Slot → Option Coro := fun _ => none

/-- What is in progress. -/
inductive Frame
  /-- A coroutine that was resumed and has not given control back. -/
  | coroutine (coro : Coro)
  /-- `doca_ctx_stop` on a child. -/
  | childStop (child : ChildId)
  /-- `doca_ctx_start` on a new child, which will be registered as the placement says. -/
  | childStart (channel : ChannelId) (child : ChildId) (placement : Placement ChildId)
  /-- `doca_ctx_start` on a new client. -/
  | clientStart (channel : ChannelId)
  /-- `doca_comch_server_disconnect`. -/
  | serverDisconnect (channel : ChannelId)
  /-- `doca_ctx_stop` on a client. -/
  | clientStop (channel : ChannelId)
  /-- `doca_ctx_stop` on the server. -/
  | serverStop
  /-- `stop_all` at the head of its loop, called by `disconnect` or `stop`, whose next
  statement is `disconnect_if_able`. -/
  | stopAll (channel : ChannelId) (next : Cursor ChildId)
  /-- The loop of `message_queues_.disconnect()`. -/
  | releaseMessages (channel : ChannelId)
  /-- The loop of `remote_consumer_queues_.disconnect()`. -/
  | releaseConsumers (channel : ChannelId)
  /-- The loop of `server::stop`. -/
  | stopConnections (next : Cursor Handle)
  /-- The return from `server::stop`. -/
  | stopReturn
  /-- The loop of `connection_queues_.disconnect()`. -/
  | releaseConnections
  deriving DecidableEq, Repr

/-- What was done to the outside: the calls that tear something down, with their results,
and the removals from a registry. An entry records what its reader needs to know of the
state at that moment. -/
inductive Call
  /-- `open_connections_` forgets a connection with these active children. -/
  | erased (channel : ChannelId) (activeChildren : List ChildId)
  /-- The engine forgets a client with these active children. -/
  | removed (channel : ChannelId) (activeChildren : List ChildId)
  /-- `signal_disconnect` begins. -/
  | signalDisconnect (channel : ChannelId)
  | serverDisconnect (channel : ChannelId)
  | serverDisconnected (channel : ChannelId) (err : DocaError)
  /-- `doca_ctx_stop` on a client that has been idle or not, and with these active children. -/
  | clientStop (channel : ChannelId) (idled : Bool) (active : List ChildId)
  | clientStopped (channel : ChannelId) (err : DocaError)
  /-- `doca_ctx_stop` on the server, likewise. -/
  | serverStop (idled : Bool) (active : List ChildId)
  | serverStopped (err : DocaError)
  deriving DecidableEq, Repr

/-- The whole state. `fault` says that a traversal used an invalid iterator. -/
structure System where
  objects : Objects := {}
  waiting : Waiting := {}
  stack : List Frame := []
  log : List Call := []
  fault : Bool := false

namespace Objects

variable (o : Objects)

def setChannel (c : ChannelId) (channel : Channel) : Objects :=
  { o with channels := Function.update o.channels c channel }

def setChild (child : ChildId) (value : Child) : Objects :=
  { o with children := Function.update o.children child value }

/-- The children of a channel that have been created and still have their DOCA context. -/
def activeOn (c : ChannelId) : List ChildId :=
  (List.range o.childCount).filter fun child =>
    (o.children child).parent = c ∧ (o.children child).base.handle = true

/-- The children of connections that have been created and still have their DOCA context. -/
def activeOnConnections : List ChildId :=
  (List.range o.childCount).filter fun child =>
    (o.channels (o.children child).parent).role ≠ .client ∧
      (o.children child).base.handle = true

variable {o} {c c' : ChannelId} {child child' : ChildId} {channel : Channel} {value : Child}

theorem channels_setChannel : (o.setChannel c channel).channels c' =
    if c' = c then channel else o.channels c' := Function.update_apply ..

theorem children_setChild : (o.setChild child value).children child' =
    if child' = child then value else o.children child' := Function.update_apply ..

section Fields

/-! What an update does to a field: nothing, if the new value has the old one's. -/

variable {α : Type}

theorem apply_setChannel (field : Channel → α) : field ((o.setChannel c channel).channels c') =
    if c' = c then field channel else field (o.channels c') := by
  rw [channels_setChannel, apply_ite field]

theorem apply_setChannel_same (field : Channel → α) (same : field channel = field (o.channels c)) :
    field ((o.setChannel c channel).channels c') = field (o.channels c') := by
  rw [apply_setChannel field, ite_eq_right_iff]
  rintro rfl
  exact same

theorem apply_setChild (field : Child → α) : field ((o.setChild child value).children child') =
    if child' = child then field value else field (o.children child') := by
  rw [children_setChild, apply_ite field]

theorem apply_setChild_same (field : Child → α) (same : field value = field (o.children child)) :
    field ((o.setChild child value).children child') = field (o.children child') := by
  rw [apply_setChild field, ite_eq_right_iff]
  rintro rfl
  exact same

end Fields

@[simp high] theorem role_setChannel_same (same : channel.role = (o.channels c).role) :
    ((o.setChannel c channel).channels c').role = (o.channels c').role :=
  apply_setChannel_same Channel.role same

@[simp] theorem role_setChannel : ((o.setChannel c channel).channels c').role =
    if c' = c then channel.role else (o.channels c').role := apply_setChannel Channel.role

@[simp high] theorem base_setChannel_same (same : channel.base = (o.channels c).base) :
    ((o.setChannel c channel).channels c').base = (o.channels c').base :=
  apply_setChannel_same Channel.base same

@[simp] theorem base_setChannel : ((o.setChannel c channel).channels c').base =
    if c' = c then channel.base else (o.channels c').base := apply_setChannel Channel.base

@[simp high] theorem state_setChannel_same (same : channel.state = (o.channels c).state) :
    ((o.setChannel c channel).channels c').state = (o.channels c').state :=
  apply_setChannel_same Channel.state same

@[simp] theorem state_setChannel : ((o.setChannel c channel).channels c').state =
    if c' = c then channel.state else (o.channels c').state := apply_setChannel Channel.state

@[simp high] theorem activeChildren_setChannel_same
    (same : channel.activeChildren = (o.channels c).activeChildren) :
    ((o.setChannel c channel).channels c').activeChildren = (o.channels c').activeChildren :=
  apply_setChannel_same Channel.activeChildren same

@[simp] theorem activeChildren_setChannel : ((o.setChannel c channel).channels c').activeChildren =
    if c' = c then channel.activeChildren else (o.channels c').activeChildren :=
  apply_setChannel Channel.activeChildren

@[simp high] theorem handed_setChannel_same (same : channel.handed = (o.channels c).handed) :
    ((o.setChannel c channel).channels c').handed = (o.channels c').handed :=
  apply_setChannel_same Channel.handed same

@[simp] theorem handed_setChannel : ((o.setChannel c channel).channels c').handed =
    if c' = c then channel.handed else (o.channels c').handed := apply_setChannel Channel.handed

@[simp high] theorem parent_setChild_same (same : value.parent = (o.children child).parent) :
    ((o.setChild child value).children child').parent = (o.children child').parent :=
  apply_setChild_same Child.parent same

@[simp] theorem base_setChild : ((o.setChild child value).children child').base =
    if child' = child then value.base else (o.children child').base := apply_setChild Child.base

@[simp] theorem asked_setChild : ((o.setChild child value).children child').asked =
    if child' = child then value.asked else (o.children child').asked := apply_setChild Child.asked

@[simp] theorem children_setChannel : (o.setChannel c channel).children = o.children := by
  cases o
  rfl

@[simp] theorem channels_setChild : (o.setChild child value).channels = o.channels := by
  cases o
  rfl

@[simp] theorem server_setChannel : (o.setChannel c channel).server = o.server := rfl

@[simp] theorem server_setChild : (o.setChild child value).server = o.server := rfl

@[simp] theorem stopRequested_setChannel :
    (o.setChannel c channel).stopRequested = o.stopRequested := rfl

@[simp] theorem stopRequested_setChild :
    (o.setChild child value).stopRequested = o.stopRequested := rfl

@[simp] theorem stopReturned_setChannel :
    (o.setChannel c channel).stopReturned = o.stopReturned := rfl

@[simp] theorem stopReturned_setChild :
    (o.setChild child value).stopReturned = o.stopReturned := rfl

@[simp] theorem openConnections_setChannel :
    (o.setChannel c channel).openConnections = o.openConnections := rfl

@[simp] theorem openConnections_setChild :
    (o.setChild child value).openConnections = o.openConnections := rfl

@[simp] theorem connectionAt_setChannel :
    (o.setChannel c channel).connectionAt = o.connectionAt := rfl

@[simp] theorem connectionAt_setChild :
    (o.setChild child value).connectionAt = o.connectionAt := rfl

@[simp] theorem channelCount_setChannel :
    (o.setChannel c channel).channelCount = o.channelCount := rfl

@[simp] theorem channelCount_setChild :
    (o.setChild child value).channelCount = o.channelCount := rfl

@[simp] theorem childCount_setChannel : (o.setChannel c channel).childCount = o.childCount := rfl

@[simp] theorem childCount_setChild : (o.setChild child value).childCount = o.childCount := rfl

@[simp] theorem activeOn_setChannel : (o.setChannel c channel).activeOn c' = o.activeOn c' := rfl

end Objects

namespace System

variable (s : System)

@[simp] abbrev channel (c : ChannelId) : Channel := s.objects.channels c

@[simp] abbrev child (child : ChildId) : Child := s.objects.children child

@[simp] def push (frame : Frame) : System := { s with stack := frame :: s.stack }

@[simp] def record (call : Call) : System := { s with log := call :: s.log }

@[simp] def setChannel (c : ChannelId) (channel : Channel) : System :=
  { s with objects := s.objects.setChannel c channel }

@[simp] def setChild (child : ChildId) (value : Child) : System :=
  { s with objects := s.objects.setChild child value }

/-- Let a coroutine run, if there is one. -/
def resume : Option Coro → System
  | none => s
  | some coro => s.push (.coroutine coro)

/-- Take the coroutine out of a slot and let it run. -/
def resumeSlot (slot : Slot) : System :=
  { s with
    waiting := { s.waiting with slot := Function.update s.waiting.slot slot none } }.resume
      (s.waiting.slot slot)

/-! ## Connections and clients -/

/-- `server_connection::disconnect_if_able` and `client::disconnect_if_able`, up to the
call they make. -/
def disconnectIfAble (c : ChannelId) : System :=
  -- The last child that stops will come here again
  if (s.channel c).activeChildren.entries ≠ [] then s
  else match (s.channel c).role with
    | .connection _ => (s.record (.serverDisconnect c)).push (.serverDisconnect c)
    | .client =>
        (s.record (.clientStop c (s.channel c).base.idled (s.objects.activeOn c))).push
          (.clientStop c)

/-- `server_connection::disconnect` and `client::stop`, up to the loop of `stop_all`. -/
def disconnect (c : ChannelId) : System :=
  let channel := { s.channel c with requested := true }
  -- A second call, or one on a client that is not up, only returns an awaitable
  if channel.state = .connected then
    (s.setChannel c { channel with state := .disconnecting }).push
      (.stopAll c channel.activeChildren.first)
  else s.setChannel c channel

/-- `signal_stopped_child` of the parent of a child. -/
def signalStoppedChild (child : ChildId) : System :=
  let c := (s.child child).parent
  let channel := s.channel c
  let s := s.setChannel c { channel with activeChildren := channel.activeChildren.erase child }
  -- A child may stop by itself, on a channel that nobody wants to leave
  if channel.state = .disconnecting then s.disconnectIfAble c else s

/-- Mark the message queues of a channel disconnected and begin to release their accepters. -/
@[simp] def disconnectMessages (c : ChannelId) : System :=
  { s with
    waiting := { s.waiting with
      messages := Function.update s.waiting.messages c (s.waiting.messages c).markDisconnected }
    stack := .releaseMessages c :: s.stack }

/-- `server_connection::signal_disconnect`, up to the loop of `message_queues_.disconnect()`. -/
@[simp] def signalDisconnect (c : ChannelId) : System :=
  ((s.setChannel c { s.channel c with state := .disconnected }).record
    (.signalDisconnect c)).disconnectMessages c

/-! ## The server -/

/-- `server::do_stop_if_able`, up to the call it makes. -/
def doStopIfAble : System :=
  if s.objects.openConnections.entries = [] then
    (s.record (.serverStop s.objects.server.idled s.objects.activeOnConnections)).push .serverStop
  else s

/-- `server::stop`, up to its loop. -/
@[simp] def stopServer : System :=
  { s with
    objects := { s.objects with stopRequested := true }
    stack := .stopConnections s.objects.openConnections.first :: s.stack }

/-- `server::signal_disconnect`. -/
def serverSignalDisconnect (handle : Handle) : System :=
  let s :=
    -- An unknown handle is logged and otherwise ignored
    if handle ∈ s.objects.openConnections then
      let c := s.objects.connectionAt handle
      { s with
        objects := { s.objects with openConnections := s.objects.openConnections.erase handle }
        log := .erased c (s.channel c).activeChildren.entries :: s.log }
    else s
  -- The server was waiting for this one, or for others still
  if s.objects.stopRequested then s.doStopIfAble else s

/-- The rest of `server_connection::signal_disconnect`, or of the callback that reports a
client idle, once all accepters of the channel are released. -/
def afterRelease (c : ChannelId) : System :=
  match (s.channel c).role with
  -- The coroutine is taken out of its slot first and resumed last, after the server is through
  | .connection handle => (s.resumeSlot (.disconnect c)).serverSignalDisconnect handle
  | .client =>
      -- `state_changed` has returned; the engine forgets the client and the waiter is resumed
      let channel := s.channel c
      ((s.setChannel c
        { channel with
          state := .disconnected
          base := { channel.base with handle := false } }).record
        (.removed c channel.activeChildren.entries)).resumeSlot (.stop (.client c))

end System

/-! ## What the functions do to each part of the state -/

/-- The call into the SDK that tears a channel down. -/
def Role.teardown (c : ChannelId) : Role → Frame
  | .connection _ => .serverDisconnect c
  | .client => .clientStop c

/-- The same call as the log shows it. -/
def Objects.teardownCall (o : Objects) (c : ChannelId) : Call :=
  match (o.channels c).role with
  | .connection _ => .serverDisconnect c
  | .client => .clientStop c (o.channels c).base.idled (o.activeOn c)

namespace System

variable {s : System} {c : ChannelId} {child : ChildId} {handle : Handle}

@[simp] theorem objects_disconnectIfAble : (s.disconnectIfAble c).objects = s.objects := by
  unfold disconnectIfAble
  split
  · rfl
  · split <;> rfl

@[simp] theorem waiting_disconnectIfAble : (s.disconnectIfAble c).waiting = s.waiting := by
  unfold disconnectIfAble
  split
  · rfl
  · split <;> rfl

theorem stack_disconnectIfAble :
    (s.disconnectIfAble c).stack =
      if (s.channel c).activeChildren.entries = [] then
        (s.channel c).role.teardown c :: s.stack
      else s.stack := by
  unfold disconnectIfAble
  split
  · simp_all
  · rw [if_pos (not_ne_iff.mp ‹_›)]
    split <;> simp_all [Role.teardown]

theorem log_disconnectIfAble :
    (s.disconnectIfAble c).log =
      if (s.channel c).activeChildren.entries = [] then
        s.objects.teardownCall c :: s.log
      else s.log := by
  unfold disconnectIfAble
  split
  · simp_all
  · rw [if_pos (not_ne_iff.mp ‹_›)]
    split <;> simp_all [Objects.teardownCall]

@[simp] theorem objects_disconnect :
    (s.disconnect c).objects =
      s.objects.setChannel c
        { s.channel c with
          requested := true
          state :=
            if (s.channel c).state = .connected then .disconnecting else (s.channel c).state } := by
  unfold disconnect
  simp only
  split <;> rfl

@[simp] theorem waiting_disconnect : (s.disconnect c).waiting = s.waiting := by
  unfold disconnect
  simp only
  split <;> rfl

theorem stack_disconnect :
    (s.disconnect c).stack =
      if (s.channel c).state = .connected then
        .stopAll c (s.channel c).activeChildren.first :: s.stack
      else s.stack := by
  unfold disconnect
  simp only
  split <;> rfl

@[simp] theorem log_disconnect : (s.disconnect c).log = s.log := by
  unfold disconnect
  simp only
  split <;> rfl

@[simp] theorem objects_signalStoppedChild :
    (s.signalStoppedChild child).objects =
      s.objects.setChannel (s.child child).parent
        { s.channel (s.child child).parent with
          activeChildren := (s.channel (s.child child).parent).activeChildren.erase child } := by
  unfold signalStoppedChild
  simp only
  split
  · exact objects_disconnectIfAble
  · rfl

@[simp] theorem waiting_signalStoppedChild : (s.signalStoppedChild child).waiting = s.waiting := by
  unfold signalStoppedChild
  simp only
  split <;> simp

theorem stack_signalStoppedChild :
    (s.signalStoppedChild child).stack =
      if (s.channel (s.child child).parent).state = .disconnecting ∧
          ((s.channel (s.child child).parent).activeChildren.erase child).entries = [] then
        (s.channel (s.child child).parent).role.teardown (s.child child).parent :: s.stack
      else s.stack := by
  unfold signalStoppedChild
  simp only
  split
  · simp [stack_disconnectIfAble, setChannel, *]
  · simp [setChannel, *]

theorem log_signalStoppedChild :
    (s.signalStoppedChild child).log =
      if (s.channel (s.child child).parent).state = .disconnecting ∧
          ((s.channel (s.child child).parent).activeChildren.erase child).entries = [] then
        s.objects.teardownCall (s.child child).parent :: s.log
      else s.log := by
  unfold signalStoppedChild
  simp only
  split
  · simp [log_disconnectIfAble, setChannel, Objects.teardownCall, *]
  · simp [setChannel, *]

@[simp] theorem objects_doStopIfAble : s.doStopIfAble.objects = s.objects := by
  unfold doStopIfAble
  split <;> rfl

@[simp] theorem waiting_doStopIfAble : s.doStopIfAble.waiting = s.waiting := by
  unfold doStopIfAble
  split <;> rfl

theorem stack_doStopIfAble :
    s.doStopIfAble.stack =
      if s.objects.openConnections.entries = [] then .serverStop :: s.stack else s.stack := by
  unfold doStopIfAble
  split <;> rfl

theorem log_doStopIfAble :
    s.doStopIfAble.log =
      if s.objects.openConnections.entries = [] then
        .serverStop s.objects.server.idled s.objects.activeOnConnections :: s.log
      else s.log := by
  unfold doStopIfAble
  split <;> rfl

@[simp] theorem objects_serverSignalDisconnect :
    (s.serverSignalDisconnect handle).objects =
      { s.objects with openConnections := s.objects.openConnections.erase handle } := by
  unfold serverSignalDisconnect
  by_cases present : handle ∈ s.objects.openConnections
  · simp only [if_pos present]
    split <;> simp
  · simp only [if_neg present, Registry.erase_of_notMem present]
    split <;> simp

@[simp] theorem waiting_serverSignalDisconnect :
    (s.serverSignalDisconnect handle).waiting = s.waiting := by
  unfold serverSignalDisconnect
  by_cases present : handle ∈ s.objects.openConnections
  · simp only [if_pos present]
    split <;> simp
  · simp only [if_neg present]
    split <;> simp

theorem stack_serverSignalDisconnect :
    (s.serverSignalDisconnect handle).stack =
      if s.objects.stopRequested = true ∧ (s.objects.openConnections.erase handle).entries = [] then
        .serverStop :: s.stack
      else s.stack := by
  unfold serverSignalDisconnect
  by_cases present : handle ∈ s.objects.openConnections
  · simp only [if_pos present]
    split <;> simp [stack_doStopIfAble, *]
  · simp only [if_neg present, Registry.erase_of_notMem present]
    split <;> simp [stack_doStopIfAble, *]

theorem log_serverSignalDisconnect :
    (s.serverSignalDisconnect handle).log =
      (if s.objects.stopRequested = true ∧
          (s.objects.openConnections.erase handle).entries = [] then
        [.serverStop s.objects.server.idled s.objects.activeOnConnections]
      else []) ++
        ((if handle ∈ s.objects.openConnections then
          [.erased (s.objects.connectionAt handle)
            (s.channel (s.objects.connectionAt handle)).activeChildren.entries]
        else []) ++ s.log) := by
  unfold serverSignalDisconnect
  by_cases present : handle ∈ s.objects.openConnections
  · simp only [if_pos present]
    split
    · simp only [log_doStopIfAble, true_and, *]
      split <;> rfl
    · simp [*]
  · simp only [if_neg present, Registry.erase_of_notMem present]
    split
    · simp only [log_doStopIfAble, true_and, *]
      split <;> rfl
    · simp [*]

end System

end Shoc.Comch

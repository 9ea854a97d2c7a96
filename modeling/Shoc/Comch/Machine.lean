/-
# The channel system step by step

Everything happens in one thread. When nothing is in progress the SDK delivers
events from `doca_pe_progress`, or user code runs; a coroutine on top of the stack
is user code too. A call into the SDK on top of the stack returns at some point,
and before that the SDK may report state changes of the context it was called on.
A function of the library on top of the stack goes on.

The SDK reports no event of a context that it has reported idle or that is gone, and
no connection under a handle that an open connection has.
-/

import Shoc.Comch.Objects

namespace Shoc.Comch

open Common Data

/-- What can be awaited: the results of the accepter queues, the end of a connection, and a
state of a context. -/
inductive AwaitPoint
  | message (channel : ChannelId) (ticket : Ticket)
  | consumer (channel : ChannelId) (ticket : Ticket)
  | connection (ticket : Ticket)
  | disconnect (channel : ChannelId)
  | started (ctx : CtxId)
  | stopped (ctx : CtxId)
  deriving DecidableEq, Repr

/-- Calls of user code. `disconnect` is `client::stop` on a client, `create` is
`create_consumer` or `create_producer`. -/
inductive UserCall
  | disconnect (channel : ChannelId)
  | stopServer
  | create (channel : ChannelId) (placement : Placement ChildId)
  | stopChild (child : ChildId)
  | createClient
  | msgRecv (channel : ChannelId)
  | acceptConsumer (channel : ChannelId)
  | accept
  | coAwait (point : AwaitPoint) (coro : Coro)
  deriving DecidableEq, Repr

/-- Whom a message or a consumer event is for, as the SDK knows it. -/
inductive Peer
  | connection (handle : Handle)
  | client (channel : ChannelId)
  deriving DecidableEq, Repr

/-- Events that the SDK delivers from `doca_pe_progress`, the state changes of contexts apart. -/
inductive SdkEvent
  | connection (handle : Handle) (successful : Bool) (placement : Placement Handle)
  | disconnection (handle : Handle) (successful : Bool)
  | message (peer : Peer) (message : Message)
  | newConsumer (peer : Peer) (id : ConsumerId)
  | expiredConsumer (peer : Peer) (id : ConsumerId)
  deriving DecidableEq, Repr

/-- What can happen next: user code makes a call, or gives control back; the SDK delivers an
event, reports a state change, or returns from a call; a function of the library goes on. -/
inductive Label
  | call (call : UserCall)
  | ret
  | event (event : SdkEvent)
  | change (ctx : CtxId) (next : CtxState)
  | sdk (err : DocaError)
  | tick
  deriving DecidableEq, Repr

namespace ContextBase

/-- The context after the SDK has reported a state. -/
def report (next : CtxState) (base : ContextBase) : ContextBase :=
  { base with currentState := next, idled := base.idled || next = .idle }

end ContextBase

namespace Objects

variable (o : Objects)

/-- The DOCA part of a context. -/
def base : CtxId → ContextBase
  | .server => o.server
  | .client c => (o.channels c).base
  | .child child => (o.children child).base

/-- A new `server_connection` in `open_connections_`. -/
def connect (handle : Handle) (placement : Placement Handle) : Objects :=
  let c := o.channelCount
  { o.setChannel c { role := .connection handle, state := .connected, handed := true } with
    channelCount := c + 1
    openConnections := o.openConnections.insert handle placement
    connectionAt := Function.update o.connectionAt handle c }

/-- User code can have got hold of the context. -/
def reachable : CtxId → Bool
  | .server => true
  | .client c => (o.channels c).handed && (o.channels c).role = .client
  | .child child => (o.children child).handed

/-- The channel an event is for: `server::resolve_connection` or `client::resolve`. -/
def resolve : Peer → Option ChannelId
  | .connection handle => if handle ∈ o.openConnections then some (o.connectionAt handle) else none
  | .client c =>
      if o.reachable (.client c) && !(o.channels c).base.idled then some c else none

end Objects

namespace System

variable (s : System) {child : ChildId}

/-! ## Calls of user code -/

/-- `context_base::stop` on a child, up to the call it makes. -/
def stopContext (child : ChildId) : System :=
  let s' := s.setChild child { s.child child with asked := true }
  -- Without a handle the child has stopped already and there is nothing to call
  if (s.child child).base.handle then s'.push (.childStop child) else s'

@[simp] theorem objects_stopContext :
    (s.stopContext child).objects =
      s.objects.setChild child { s.child child with asked := true } := by
  unfold stopContext
  simp only
  split <;> rfl

@[simp] theorem waiting_stopContext : (s.stopContext child).waiting = s.waiting := by
  unfold stopContext
  simp only
  split <;> rfl

theorem stack_stopContext :
    (s.stopContext child).stack =
      if (s.child child).base.handle then .childStop child :: s.stack else s.stack := by
  unfold stopContext
  simp only
  split <;> rfl

@[simp] theorem log_stopContext : (s.stopContext child).log = s.log := by
  unfold stopContext
  simp only
  split <;> rfl

/-- `create_consumer` and `create_producer`, up to the start of the new context. -/
@[simp] def create (c : ChannelId) (placement : Placement ChildId) : System :=
  let child := s.objects.childCount
  { s with
    objects := { s.objects.setChild child { parent := c } with childCount := child + 1 }
    stack := .childStart c child placement :: s.stack }

/-- `client::create`, up to the start of the new client. -/
@[simp] def createClient : System :=
  let c := s.objects.channelCount
  { s with
    objects := { s.objects.setChannel c { role := .client } with channelCount := c + 1 }
    stack := .clientStart c :: s.stack }

/-- `await_ready` and, if need be, `await_suspend`. -/
def coAwait (coro : Coro) : AwaitPoint → Waiting
  | .message c ticket =>
      { s.waiting with
        messages :=
          Function.update s.waiting.messages c ((s.waiting.messages c).await ticket coro) }
  | .consumer c ticket =>
      { s.waiting with
        consumers :=
          Function.update s.waiting.consumers c ((s.waiting.consumers c).await ticket coro) }
  | .connection ticket =>
      { s.waiting with connections := s.waiting.connections.await ticket coro }
  -- One slot for each: a coroutine that waits there already is overwritten
  | .disconnect c =>
      if (s.channel c).state = .disconnected then s.waiting
      else { s.waiting with slot := Function.update s.waiting.slot (.disconnect c) (some coro) }
  | .started ctx =>
      if (s.objects.base ctx).currentState = .running then s.waiting
      else { s.waiting with slot := Function.update s.waiting.slot (.start ctx) (some coro) }
  | .stopped ctx =>
      if (s.objects.base ctx).currentState = .idle then s.waiting
      else { s.waiting with slot := Function.update s.waiting.slot (.stop ctx) (some coro) }

/-- The awaitable can be in the hands of user code. -/
def awaitable : AwaitPoint → Bool
  | .message c _ | .consumer c _ | .disconnect c => (s.channel c).handed
  | .connection _ => true
  | .started ctx | .stopped ctx => s.objects.reachable ctx

/-- A call of user code. -/
def call : UserCall → Option System
  | .disconnect c => if (s.channel c).handed then some (s.disconnect c) else none
  | .stopServer => some s.stopServer
  | .create c placement => if (s.channel c).handed then some (s.create c placement) else none
  | .stopChild child => if (s.child child).handed then some (s.stopContext child) else none
  | .createClient => some s.createClient
  | .msgRecv c =>
      if (s.channel c).handed then
        some { s with waiting := { s.waiting with
          messages := Function.update s.waiting.messages c (s.waiting.messages c).accept } }
      else none
  | .acceptConsumer c =>
      if (s.channel c).handed then
        some { s with waiting := { s.waiting with
          consumers := Function.update s.waiting.consumers c (s.waiting.consumers c).accept } }
      else none
  | .accept =>
      some { s with waiting := { s.waiting with connections := s.waiting.connections.accept } }
  | .coAwait point coro =>
      if s.awaitable point then some { s with waiting := s.coAwait coro point } else none

/-! ## Events -/

/-- `server::connection_callback` for a successful connection. -/
def connect (handle : Handle) (placement : Placement Handle) : System :=
  let served := s.waiting.connections.supply s.objects.channelCount
  { s with
    objects := s.objects.connect handle placement
    waiting := { s.waiting with connections := served.1 } }.resume served.2

/-- `server_connection::signal_message`, and `client::msg_recv_callback`. -/
def supplyMessage (c : ChannelId) (message : Message) : System :=
  let served := (s.waiting.messages c).supply message
  { s with waiting := { s.waiting with
    messages := Function.update s.waiting.messages c served.1 } }.resume served.2

/-- `signal_new_consumer`, and `client::new_consumer_callback`. -/
def supplyConsumer (c : ChannelId) (id : ConsumerId) : System :=
  let served := (s.waiting.consumers c).supply id
  let number := (s.waiting.consumers c).supplied.length
  { s with waiting := { s.waiting with
    consumers := Function.update s.waiting.consumers c served.1
    remotes := Function.update s.waiting.remotes c ((s.waiting.remotes c).add id number) } }.resume
      served.2

/-- `signal_expired_consumer`, and `client::expired_consumer_callback`. -/
def expireConsumer (c : ChannelId) (id : ConsumerId) : System :=
  { s with waiting := { s.waiting with
    remotes := Function.update s.waiting.remotes c ((s.waiting.remotes c).expire id) } }

/-- An event other than a state change. -/
def event : SdkEvent → Option System
  -- Whether the server is about to stop is not looked at
  | .connection handle successful placement =>
      if handle ∈ s.objects.openConnections ∨ s.objects.server.idled then none
      else if successful then some (s.connect handle placement) else some s
  -- An unsuccessful change and an unknown connection are logged and ignored
  | .disconnection handle successful =>
      if s.objects.server.idled then none
      else if successful ∧ handle ∈ s.objects.openConnections then
        some (s.signalDisconnect (s.objects.connectionAt handle))
      else some s
  | .message peer message =>
      match s.objects.resolve peer with
      | some c => some (s.supplyMessage c message)
      | none => some s
  | .newConsumer peer id =>
      match s.objects.resolve peer with
      | some c => some (s.supplyConsumer c id)
      | none => some s
  | .expiredConsumer peer id =>
      match s.objects.resolve peer with
      | some c => some (s.expireConsumer c id)
      | none => some s

/-- The `state_changed_callback` of a child. -/
def childChange (child : ChildId) (next : CtxState) : System :=
  let base := (s.child child).base.report next
  match next with
  | .running =>
      (s.setChild child { s.child child with base := base }).resumeSlot (.start (.child child))
  -- The coroutine is taken out of its slot first, and runs when the parent is through
  | .idle =>
      ((s.setChild child { s.child child with base := { base with handle := false } }).resumeSlot
        (.stop (.child child))).signalStoppedChild child
  | .starting | .stopping => s.setChild child { s.child child with base := base }

/-- The `state_changed_callback` of a client; when it is idle, up to the loop of
`message_queues_.disconnect()`. -/
def clientChange (c : ChannelId) (next : CtxState) : System :=
  let channel := { s.channel c with base := (s.channel c).base.report next }
  match next with
  | .running =>
      (s.setChannel c { channel with state := .connected }).resumeSlot (.start (.client c))
  -- The SDK may stop a client that nobody has asked to stop
  | .stopping => s.setChannel c { channel with state := .disconnecting }
  | .idle => (s.setChannel c channel).disconnectMessages c
  | .starting => s.setChannel c channel

/-- The `state_changed_callback` of the server; when it is idle, up to the loop of
`connection_queues_.disconnect()`. -/
def serverChange (next : CtxState) : System :=
  let s := { s with objects := { s.objects with server := s.objects.server.report next } }
  match next with
  | .running => s.resumeSlot (.start .server)
  | .idle =>
      { s with
        waiting := { s.waiting with connections := s.waiting.connections.markDisconnected }
        stack := .releaseConnections :: s.stack }
  | .starting | .stopping => s

/-- A context of the machine. -/
def known : CtxId → Bool
  | .server => true
  | .client c => c < s.objects.channelCount && (s.channel c).role = .client
  | .child child => child < s.objects.childCount

/-- The SDK reports a state change. -/
def change (ctx : CtxId) (next : CtxState) : Option System :=
  if s.known ctx ∧ (s.objects.base ctx).handle ∧ (s.objects.base ctx).idled = false ∧
      (s.objects.base ctx).currentState.Follows next then
    match ctx with
    | .server => some (s.serverChange next)
    | .client c => some (s.clientChange c next)
    | .child child => some (s.childChange child next)
  else none

/-! ## Functions of the library that are in progress -/

/-- The loop of `stop_all`, called by `disconnect` or `stop`. -/
def stopAllNext (c : ChannelId) (next : Cursor ChildId) : System :=
  match next.target with
  | none => s.disconnectIfAble c
  -- The iterator is advanced before the call, which may remove the child
  | some child =>
      (s.push (.stopAll c ((s.channel c).activeChildren.next next))).stopContext child

/-- The loop of `message_queues_.disconnect()`. -/
def releaseMessagesNext (c : ChannelId) : System :=
  match (s.waiting.messages c).release with
  | some (queues, coro) =>
      ({ s with waiting := { s.waiting with
        messages := Function.update s.waiting.messages c queues } }.push
          (.releaseMessages c)).resume coro
  | none =>
      { s with waiting := { s.waiting with
        consumers := Function.update s.waiting.consumers c
          (s.waiting.consumers c).markDisconnected } }.push (.releaseConsumers c)

/-- The loop of `remote_consumer_queues_.disconnect()`. -/
def releaseConsumersNext (c : ChannelId) : System :=
  match (s.waiting.consumers c).release with
  | some (queues, coro) =>
      ({ s with waiting := { s.waiting with
        consumers := Function.update s.waiting.consumers c queues } }.push
          (.releaseConsumers c)).resume coro
  | none => s.afterRelease c

/-- The loop of `server::stop`. -/
def stopConnectionsNext (next : Cursor Handle) : System :=
  match next.target with
  | none => (s.push .stopReturn).doStopIfAble
  | some handle =>
      (s.push (.stopConnections (s.objects.openConnections.next next))).disconnect
        (s.objects.connectionAt handle)

/-- The loop of `connection_queues_.disconnect()`, and the rest of the callback that reports
the server idle. -/
def releaseConnectionsNext : System :=
  match s.waiting.connections.release with
  | some (queues, coro) =>
      ({ s with waiting := { s.waiting with connections := queues } }.push
        .releaseConnections).resume coro
  | none =>
      { s with objects := { s.objects with
        server := { s.objects.server with handle := false } } }.resumeSlot (.stop .server)

/-- The function on top of the stack goes on. A traversal whose iterator has become invalid
is a fault, after which nothing is known. -/
def tick : Option System :=
  match s.stack with
  | .stopAll c next :: callers =>
      if (s.channel c).activeChildren.Valid next then
        some ({ s with stack := callers }.stopAllNext c next)
      else some { s with fault := true }
  | .releaseMessages c :: callers => some ({ s with stack := callers }.releaseMessagesNext c)
  | .releaseConsumers c :: callers => some ({ s with stack := callers }.releaseConsumersNext c)
  | .stopConnections next :: callers =>
      if s.objects.openConnections.Valid next then
        some ({ s with stack := callers }.stopConnectionsNext next)
      else some { s with fault := true }
  | .stopReturn :: callers =>
      some { s with objects := { s.objects with stopReturned := true }, stack := callers }
  | .releaseConnections :: callers => some { s with stack := callers }.releaseConnectionsNext
  | _ => none

/-- The end of `create_context` for a child. -/
def childStarted (c : ChannelId) (child : ChildId) (placement : Placement ChildId)
    (err : DocaError) : System :=
  -- Only now is the child registered with its channel
  if err.Accepted then
    let channel := s.channel c
    (s.setChild child { s.child child with handed := true }).setChannel c
      { channel with activeChildren := channel.activeChildren.insert child placement }
  else s.setChild child { s.child child with base := { (s.child child).base with handle := false } }

/-- The end of `create_context` for a client. -/
def clientStarted (c : ChannelId) (err : DocaError) : System :=
  if err.Accepted then s.setChannel c { s.channel c with handed := true }
  else s.setChannel c { s.channel c with base := { (s.channel c).base with handle := false } }

/-- The call into the SDK on top of the stack returns. -/
def sdkReturn (err : DocaError) : Option System :=
  match s.stack with
  | .childStop _ :: callers => some { s with stack := callers }
  | .childStart c child placement :: callers =>
      some ({ s with stack := callers }.childStarted c child placement err)
  | .clientStart c :: callers => some ({ s with stack := callers }.clientStarted c err)
  | .serverDisconnect c :: callers =>
      -- Anything but success is logged and leaves the state as it is
      let s := { s with stack := callers }.record (.serverDisconnected c err)
      if err = .success then some (s.signalDisconnect c) else some s
  | .clientStop c :: callers => some ({ s with stack := callers }.record (.clientStopped c err))
  | .serverStop :: callers => some ({ s with stack := callers }.record (.serverStopped err))
  | _ => none

/-! ## One step -/

/-- User code has control. -/
def userControl : Bool :=
  match s.stack with
  | [] | .coroutine _ :: _ => true
  | _ => false

/-- The SDK can report a state change of the context. -/
def reports (ctx : CtxId) : Bool :=
  match s.stack with
  | [] => true
  | .childStop child :: _ | .childStart _ child _ :: _ => ctx = .child child
  | .clientStart c :: _ | .clientStop c :: _ => ctx = .client c
  | .serverStop :: _ => ctx = .server
  | _ => false

/-- One step of the system. -/
def step (label : Label) : Option System :=
  if s.fault then none
  else match label with
    | .call call => if s.userControl then s.call call else none
    | .ret =>
        match s.stack with
        | .coroutine _ :: callers => some { s with stack := callers }
        | _ => none
    | .event event => if s.stack = [] then s.event event else none
    | .change ctx next => if s.reports ctx then s.change ctx next else none
    | .sdk err => s.sdkReturn err
    | .tick => s.tick

end System

end Shoc.Comch

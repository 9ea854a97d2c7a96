/-
# The connection manager of an RDMA context

`rdma_context::connect` and `listen` hand out an awaitable each, and the events of
the SDK complete it: a connection that is established, one that fails, or a request
that could not be accepted. Which receptable an event belongs to is decided by
`cm_role_`. A client finds it in the user data of the connection, a server in
`listeners_` under the port of the connection, where one entry stands for all
requests to the port.

Calls and callbacks run to their end: a resumed coroutine is the last thing a
callback starts, so what the coroutine calls comes after it. The SDK reports a
request only for a port it was told to listen to, and one result at most for a
connection, none for a rejected one. A connection remembers what caused it, which
the code does not look at.
-/

import Shoc.Coro.Receptable

namespace Shoc.Rdma

open Coro

abbrev Port := UInt16

/-- A call of `connect` or `listen`, in the order of the calls. -/
abbrev CallId := ℕ

/-- A connection of the SDK, in the order in which they come up. -/
abbrev ConnectionId := ℕ

/-- `rdma_cm_role`. -/
inductive CmRole
  | none
  | server
  | client
  deriving DecidableEq, Repr

/-- The two kinds of calls, which are also the two ways in which connections come up. -/
inductive Origin
  | connect
  | listen (port : Port)
  deriving DecidableEq, Repr

/-- A call, with the receptable of the awaitable it returned. -/
structure Call where
  origin : Origin
  receptable : Receptable ConnectionId
  deriving DecidableEq, Repr

/-- A request is rejected if nobody listens, or accepting it gave an error. -/
inductive Phase
  | pending
  | rejected (err : Option DocaError)
  | established
  | failed
  deriving DecidableEq, Repr

structure Connection where
  origin : Origin
  /-- The call that caused the connection. -/
  cause : Option CallId
  /-- `conn_user_data`, a pointer to a receptable. -/
  userData : Option CallId
  /-- What `get_port_from_connection` finds. -/
  port : Option Port
  phase : Phase := .pending
  deriving DecidableEq, Repr

/-- A receptable gets its result. -/
structure Completion where
  call : CallId
  /-- The connection whose event this is. -/
  connection : Option ConnectionId
  result : Except DocaError ConnectionId
  /-- The coroutine that is resumed. -/
  resumed : Option Coro

/-- The context, and what the SDK knows of its connections. -/
structure ConnectionManager where
  role : CmRole := .none
  listeners : Port → Option CallId := fun _ => none
  calls : List Call := []
  connections : List Connection := []
  /-- The ports the SDK was told to listen to. -/
  listening : List Port := []
  log : List Completion := []
  /-- The assertion in `connection_request` held so far. -/
  asserted : Bool := true

namespace ConnectionManager

variable (s : ConnectionManager)

/-- `emplace_value` or `set_error`. -/
def store (result : Except DocaError ConnectionId) (call : Call) : Call :=
  match result with
  | .ok connection => { call with receptable := call.receptable.setValue connection }
  | .error err => { call with receptable := call.receptable.setError err }

/-- A coroutine waits for the result of a call. -/
def awaited (coro : Coro) (call : Call) : Call :=
  { call with receptable := call.receptable.await coro }

/-- The receptable of a call gets its result. Not every callback resumes the waiter. -/
def complete (call : CallId) (connection : Option ConnectionId)
    (result : Except DocaError ConnectionId) (resumes : Bool) : ConnectionManager :=
  let waiter := s.calls[call]?.bind (·.receptable.resume)
  { s with
    calls := s.calls.modify call (store result)
    log := s.log ++ [⟨call, connection, result, if resumes then waiter else none⟩] }

/-- A call returns an awaitable on an empty receptable. -/
def call (origin : Origin) : ConnectionManager := { s with calls := s.calls ++ [⟨origin, {}⟩] }

/-- A call returns an awaitable that holds an error. -/
def refuse (origin : Origin) (err : DocaError) : ConnectionManager :=
  (s.call origin).complete s.calls.length none (.error err) false

/-- A connection comes up. -/
def appear (connection : Connection) : ConnectionManager :=
  { s with connections := s.connections ++ [connection] }

def setPhase (id : ConnectionId) (phase : Phase) : ConnectionManager :=
  { s with connections := s.connections.modify id ({ · with phase := phase }) }

/-- `doca_rdma_connection_set_user_data(conn, empty)`. -/
def clearUserData (id : ConnectionId) : ConnectionManager :=
  { s with connections := s.connections.modify id ({ · with userData := none }) }

def eraseListener (port : Port) : ConnectionManager :=
  { s with listeners := fun other => if other = port then none else s.listeners other }

/-- `rdma_context::connect`. The SDK answers `err`, and will report `port` as that of the
connection. -/
def connect (err : DocaError) (port : Option Port) : ConnectionManager :=
  if s.role ≠ .none then s.refuse .connect .badState
  else if err = .success then
    { (s.call .connect).appear
        { origin := .connect, cause := s.calls.length, userData := s.calls.length, port := port }
      with role := .client }
  else s.refuse .connect err

/-- `rdma_context::listen`. -/
def listen (port : Port) (err : DocaError) : ConnectionManager :=
  if (s.listeners port).isSome then s.refuse (.listen port) .alreadyExist
  else if err ≠ .success then s.refuse (.listen port) err
  else
    { s.call (.listen port) with
      role := .server
      listeners := fun other => if other = port then some s.calls.length else s.listeners other
      listening := port :: s.listening }

/-- `assert(rdma->cm_role_ == rdma_cm_role::server)`. -/
def assertServer : ConnectionManager :=
  { s with asserted := s.asserted && decide (s.role = .server) }

/-- `rdma_context::connection_request`, for a connection that comes up with it. -/
def connectionRequest (connection : Connection) (accept : DocaError) : ConnectionManager :=
  match connection.port with
  | none => s.assertServer.appear { connection with phase := .rejected none }
  | some port =>
    match s.listeners port with
    | none => s.assertServer.appear { connection with phase := .rejected none }
    | some dest =>
      if accept = .success then s.assertServer.appear connection
      else
        -- The error is stored, but nobody is resumed
        ((s.assertServer.appear { connection with phase := .rejected accept }).complete dest
          s.connections.length (.error accept) false).eraseListener port

/-- `rdma_context::take_connection_receptable`. -/
def takeConnectionReceptable (id : ConnectionId) (connection : Connection) :
    Option CallId × ConnectionManager :=
  match s.role with
  | .server =>
    match connection.port with
    | none => (none, s)
    | some port =>
      match s.listeners port with
      | none => (none, s)
      | some dest => (some dest, s.eraseListener port)
  | .client => (connection.userData, s.clearUserData id)
  | .none => (none, s)

/-- `connection_established` and `connection_failure`, which store different results. -/
def connectionResult (id : ConnectionId) (connection : Connection) (phase : Phase)
    (result : Except DocaError ConnectionId) : ConnectionManager :=
  match (s.setPhase id phase).takeConnectionReceptable id connection with
  | (none, s) => s
  | (some dest, s) => s.complete dest id result true

/-- `rdma_context::connection_established`. -/
def connectionEstablished (id : ConnectionId) (connection : Connection) : ConnectionManager :=
  s.connectionResult id connection .established (.ok id)

/-- `rdma_context::connection_failure`. -/
def connectionFailure (id : ConnectionId) (connection : Connection) : ConnectionManager :=
  s.connectionResult id connection .failed (.error .connectionAborted)

/-- Calls of the user and events of the SDK. -/
inductive CmLabel
  | connect (err : DocaError) (port : Option Port)
  | listen (port : Port) (err : DocaError)
  | await (call : CallId) (coro : Coro)
  | connectionRequest (port : Port) (accept : DocaError)
  | connectionEstablished (id : ConnectionId)
  | connectionFailure (id : ConnectionId)
  deriving DecidableEq, Repr

/-- A connection for which the SDK has not yet reported a result. -/
def pending (id : ConnectionId) : Option Connection :=
  s.connections[id]?.filter (·.phase = .pending)

def step (s : ConnectionManager) : CmLabel → Option ConnectionManager
  | .connect err port => s.connect err port
  | .listen port err => s.listen port err
  | .await call coro =>
    if call < s.calls.length then
      some { s with calls := s.calls.modify call (awaited coro) }
    else none
  | .connectionRequest port accept =>
    if port ∈ s.listening then
      let connection : Connection :=
        { origin := .listen port, cause := s.listeners port, userData := none, port := port }
      some (s.connectionRequest connection accept)
    else none
  | .connectionEstablished id => (s.pending id).map (s.connectionEstablished id)
  | .connectionFailure id => (s.pending id).map (s.connectionFailure id)

/-- What stands in a list after something was added to it. -/
theorem getElem?_append_singleton {α : Type*} {list : List α} {last value : α} {i : ℕ}
    (found : (list ++ [last])[i]? = some value) :
    list[i]? = some value ∨ i = list.length ∧ value = last := by
  rw [List.getElem?_append] at found
  split at found
  · exact Or.inl found
  · rw [List.getElem?_singleton] at found
    split at found
    · exact Or.inr ⟨by omega, (Option.some.inj found).symm⟩
    · contradiction

end ConnectionManager

end Shoc.Rdma

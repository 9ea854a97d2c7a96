/-
# Results reach the calls they belong to

Every result of a connection goes to the call that caused the connection, and to no
other, as long as the role that routes it is still the one it was when the
connection came up, and a listener stands for one request. Neither is ensured by
the code: `listen` makes a server of a client, and the entry of a listener stays where
it is when a request is accepted.
-/

import Shoc.Rdma.ConnectionManager
import Shoc.Transition.Runs

namespace Shoc.Rdma

open Coro Transition

/-- What a connection owes to its cause, as soon as it owes something. -/
def Connection.due (connection : Connection) (id : ConnectionId) :
    Option (Option CallId × Except DocaError ConnectionId) :=
  match connection.phase with
  | .pending => none
  | .rejected err => err.map (connection.cause, .error ·)
  | .established => some (connection.cause, .ok id)
  | .failed => some (connection.cause, .error .connectionAborted)

namespace ConnectionManager

/-- No call of `connect` is under way when `listen` succeeds, and no connection waits
for its result when another request comes to the same port. -/
def Separate (s : ConnectionManager) : CmLabel → Prop
  | .listen port err => s.listeners port = none → err = .success →
      ∀ connection ∈ s.connections, connection.phase = .pending → connection.origin ≠ .connect
  | .connectionRequest port _ =>
      ∀ connection ∈ s.connections, connection.phase = .pending → connection.origin ≠ .listen port
  | _ => True

instance (s : ConnectionManager) : ∀ label, Decidable (s.Separate label)
  | .listen _ _ => inferInstanceAs (Decidable (_ → _ → ∀ _ ∈ _, _))
  | .connectionRequest _ _ => inferInstanceAs (Decidable (∀ _ ∈ _, _))
  | .connect _ _ | .await _ _ | .connectionEstablished _ | .connectionFailure _ =>
      inferInstanceAs (Decidable True)

/-! ## Calls and their results -/

/-- A call that has not got its result. -/
def Open (calls : List Call) (log : List Completion) (call : CallId) : Prop :=
  call < calls.length ∧ ∀ entry ∈ log, entry.call ≠ call

/-- The receptables hold what the log says, and nobody got two results. -/
structure Recorded (calls : List Call) (log : List Completion) : Prop where
  once : (log.map Completion.call).Nodup
  stored : ∀ entry ∈ log, ∃ call, calls[entry.call]? = some call ∧
    call.receptable.hasValue = true ∧ call.receptable.value = entry.result
  empty : ∀ (id : CallId) call, calls[id]? = some call → (∀ entry ∈ log, entry.call ≠ id) →
    call.receptable.hasValue = false

section Calls

variable {calls : List Call} {log : List Completion} {call : CallId} {entry : Completion}

theorem Recorded.lt (recorded : Recorded calls log) : ∀ entry ∈ log, entry.call < calls.length := by
  intro entry mem
  obtain ⟨call, found, -⟩ := recorded.stored entry mem
  exact (List.getElem?_eq_some_iff.mp found).1

theorem Recorded.append (recorded : Recorded calls log) (origin : Origin) :
    Recorded (calls ++ [⟨origin, {}⟩]) log where
  once := recorded.once
  stored entry mem := by
    obtain ⟨call, found, holds⟩ := recorded.stored entry mem
    exact ⟨call, by rw [List.getElem?_append_left (recorded.lt entry mem), found], holds⟩
  empty id call found quiet := by
    obtain before | ⟨-, rfl⟩ := getElem?_append_singleton found
    · exact recorded.empty id call before quiet
    · rfl

theorem Recorded.complete (recorded : Recorded calls log) (entry : Completion)
    (waits : Open calls log entry.call) :
    Recorded (calls.modify entry.call (store entry.result)) (log ++ [entry]) where
  once := by
    rw [List.map_append, List.nodup_append]
    refine ⟨recorded.once, by simp, ?_⟩
    intro earlier mem
    obtain ⟨other, mem', rfl⟩ := List.mem_map.mp mem
    simpa using waits.2 other mem'
  stored other mem := by
    obtain before | rfl := (List.mem_append.mp mem).imp_right List.mem_singleton.mp
    · obtain ⟨call, found, holds⟩ := recorded.stored other before
      exact ⟨call, by rwa [List.getElem?_modify_ne _ _ (Ne.symm (waits.2 other before))], holds⟩
    · obtain ⟨call, found⟩ : ∃ call, calls[other.call]? = some call :=
        ⟨_, List.getElem?_eq_getElem waits.1⟩
      refine ⟨store other.result call, by simp [found], ?_⟩
      unfold store
      cases other.result <;> simp [Receptable.hasValue_iff]
  empty id call found quiet := by
    have other := quiet entry (List.mem_append_right _ (List.mem_singleton_self _))
    rw [List.getElem?_modify_ne _ _ other] at found
    exact recorded.empty id call found fun earlier mem => quiet earlier (List.mem_append_left _ mem)

/-- Waiting for a result changes none. -/
theorem Recorded.await (recorded : Recorded calls log) (target : CallId) (coro : Coro) :
    Recorded (calls.modify target (awaited coro)) log := by
  refine ⟨recorded.once, ?_, ?_⟩
  · intro entry mem
    obtain ⟨call, found, has, holds⟩ := recorded.stored entry mem
    simp only [List.getElem?_modify, found, Option.map_eq_map, Option.map_some, Option.some.injEq,
      exists_eq_left']
    split
    · exact ⟨(Receptable.hasValue_await ..).trans has, (Receptable.value_await ..).trans holds⟩
    · exact ⟨has, holds⟩
  · intro id call found quiet
    simp only [List.getElem?_modify, Option.map_eq_map, Option.map_eq_some_iff] at found
    obtain ⟨before, found, rfl⟩ := found
    have empty := recorded.empty id before found quiet
    split
    · exact (Receptable.hasValue_await ..).trans empty
    · exact empty

theorem Open.append (waits : Open calls log call) (added : Call) :
    Open (calls ++ [added]) log call :=
  ⟨by simpa using Nat.lt_succ_of_lt waits.1, waits.2⟩

theorem Open.complete (waits : Open calls log call) (other : call ≠ entry.call) (f : Call → Call) :
    Open (calls.modify entry.call f) (log ++ [entry]) call := by
  refine ⟨by simpa using waits.1, fun earlier mem => ?_⟩
  obtain before | rfl := (List.mem_append.mp mem).imp_right List.mem_singleton.mp
  · exact waits.2 earlier before
  · exact Ne.symm other

/-- What kind of call it was. -/
def originOf (calls : List Call) (call : CallId) : Option Origin := calls[call]?.map Call.origin

theorem originOf_append {origin : Origin} (known : originOf calls call = some origin)
    (added : Call) : originOf (calls ++ [added]) call = some origin := by
  unfold originOf at known ⊢
  obtain ⟨found, at_, -⟩ := Option.map_eq_some_iff.mp known
  rw [List.getElem?_append_left (List.getElem?_eq_some_iff.mp at_).1, known]

theorem originOf_modify {target : CallId} {f : Call → Call}
    (same : ∀ call, (f call).origin = call.origin) :
    originOf (calls.modify target f) call = originOf calls call := by
  unfold originOf
  rw [List.getElem?_modify]
  cases calls[call]? with
  | none => rfl
  | some found =>
    simp only [Option.map_eq_map, Option.map_some]
    split
    · rw [same]
    · rfl

theorem origin_store (result : Except DocaError ConnectionId) (call : Call) :
    (store result call).origin = call.origin := by
  cases result <;> rfl

theorem origin_awaited (coro : Coro) (call : Call) : (awaited coro call).origin = call.origin := rfl

end Calls

/-! ## Connections and their results -/

/-- The log has the result of every connection once, and no other results of connections. -/
structure Settled (connections : List Connection) (log : List Completion) : Prop where
  results : ∀ (id : ConnectionId) connection, connections[id]? = some connection →
    (log.filter (·.connection = some id)).map (fun entry => (some entry.call, entry.result)) =
      (connection.due id).toList
  known : ∀ entry ∈ log, ∀ id ∈ entry.connection, id < connections.length

namespace Settled

variable {connections : List Connection} {log : List Completion} {entry : Completion}

theorem refuse (settled : Settled connections log) (own : entry.connection = none) :
    Settled connections (log ++ [entry]) where
  results id connection found := by
    rw [List.filter_append, List.map_append, settled.results id connection found]
    simp [own]
  known other mem id here := by
    obtain before | rfl := (List.mem_append.mp mem).imp_right List.mem_singleton.mp
    · exact settled.known other before id here
    · simp [own] at here

/-- Nothing was said about a connection that is new. -/
theorem filter_new (settled : Settled connections log) {id : ConnectionId}
    (new : connections.length ≤ id) : log.filter (·.connection = some id) = [] := by
  refine List.filter_eq_nil_iff.mpr fun entry mem here => ?_
  exact absurd (settled.known entry mem id (by simpa using here)) (Nat.not_lt.mpr new)

theorem appear (settled : Settled connections log) {connection : Connection}
    (quiet : ∀ id, connection.due id = none) : Settled (connections ++ [connection]) log where
  results id other found := by
    obtain before | ⟨rfl, rfl⟩ := getElem?_append_singleton found
    · exact settled.results id other before
    · rw [settled.filter_new (Nat.le_refl _), quiet]
      rfl
  known entry mem id here := by
    rw [List.length_append]
    exact Nat.lt_add_right _ (settled.known entry mem id here)

/-- One connection gets its result. -/
theorem answer (settled : Settled connections log) {after : List Connection} {id : ConnectionId}
    (own : entry.connection = some id) (longer : connections.length ≤ after.length)
    (bound : id < after.length)
    (others : ∀ (other : ConnectionId) connection, other ≠ id → after[other]? = some connection →
      connections[other]? = some connection)
    (before : log.filter (·.connection = some id) = [])
    (due : ∀ connection, after[id]? = some connection →
      connection.due id = some (some entry.call, entry.result)) :
    Settled after (log ++ [entry]) where
  results other connection found := by
    rw [List.filter_append]
    by_cases same : other = id
    · subst same
      rw [before, due connection found]
      simp [own]
    · rw [List.map_append, settled.results other connection (others other connection same found)]
      simp [own, Ne.symm same]
  known other mem id' here := by
    obtain earlier | rfl := (List.mem_append.mp mem).imp_right List.mem_singleton.mp
    · exact Nat.lt_of_lt_of_le (settled.known other earlier id' here) longer
    · rw [own] at here
      cases here
      exact bound

end Settled

/-! ## Who waits for what -/

/-- The result of a connection would reach a call now. -/
def Reaches (s : ConnectionManager) (connection : Connection) (call : CallId) : Prop :=
  match connection.origin with
  | .connect => s.role = .client ∧ connection.userData = some call
  | .listen port => s.listeners port = some call ∧ connection.port = some port

structure Owed (s : ConnectionManager) : Prop where
  listeners : ∀ port call, s.listeners port = some call →
    s.role = .server ∧ Open s.calls s.log call ∧ originOf s.calls call = some (.listen port)
  pending : ∀ (id : ConnectionId) connection, s.connections[id]? = some connection →
    connection.phase = .pending → ∃ call, connection.cause = some call ∧
      Open s.calls s.log call ∧ s.Reaches connection call
  unique : ∀ (id id' : ConnectionId) connection connection', s.connections[id]? = some connection →
    s.connections[id']? = some connection' → connection.phase = .pending →
    connection'.phase = .pending → connection.cause = connection'.cause → id = id'
  caused : ∀ (id : ConnectionId) connection call, s.connections[id]? = some connection →
    connection.cause = some call → originOf s.calls call = some connection.origin
  server : ∀ port ∈ s.listening, s.role = .server
  asserted : s.asserted = true

structure Routed (s : ConnectionManager) : Prop where
  recorded : Recorded s.calls s.log
  settled : Settled s.connections s.log
  owed : Owed s

namespace Owed

variable {s t : ConnectionManager}

/-- Two listeners are never the same call. -/
theorem port_eq (owed : Owed s) {port port' : Port} {call : CallId}
    (left : s.listeners port = some call) (right : s.listeners port' = some call) :
    port = port' := by
  have same := (owed.listeners port call left).2.2.symm.trans (owed.listeners port' call right).2.2
  simpa using same

theorem call (owed : Owed s) (origin : Origin) : Owed (s.call origin) where
  listeners port call found := by
    obtain ⟨role, waits, known⟩ := owed.listeners port call found
    exact ⟨role, waits.append _, originOf_append known _⟩
  pending id connection found phase := by
    obtain ⟨call, cause, waits, reaches⟩ := owed.pending id connection found phase
    exact ⟨call, cause, waits.append _, reaches⟩
  unique := owed.unique
  caused id connection call found cause :=
    originOf_append (owed.caused id connection call found cause) _
  server := owed.server
  asserted := owed.asserted

theorem await (owed : Owed s) (target : CallId) (coro : Coro) :
    Owed { s with calls := s.calls.modify target (awaited coro) } where
  listeners port call found := by
    obtain ⟨role, waits, known⟩ := owed.listeners port call found
    exact ⟨role, ⟨by simpa using waits.1, waits.2⟩,
      (originOf_modify (origin_awaited coro)).trans known⟩
  pending id connection found phase := by
    obtain ⟨call, cause, waits, reaches⟩ := owed.pending id connection found phase
    exact ⟨call, cause, ⟨by simpa using waits.1, waits.2⟩, reaches⟩
  unique := owed.unique
  caused id connection call found cause :=
    (originOf_modify (origin_awaited coro)).trans (owed.caused id connection call found cause)
  server := owed.server
  asserted := owed.asserted

/-- A call gets its result, and whatever led to it is gone. -/
theorem answer (owed : Owed s) {entry : Completion}
    (calls : t.calls = s.calls.modify entry.call (store entry.result))
    (log : t.log = s.log ++ [entry]) (role : t.role = s.role)
    (listening : t.listening = s.listening) (asserted : t.asserted = s.asserted)
    (listeners : ∀ port call, t.listeners port = some call ↔
      s.listeners port = some call ∧ call ≠ entry.call)
    (pending : ∀ (id : ConnectionId) connection, t.connections[id]? = some connection →
      connection.phase = .pending →
      s.connections[id]? = some connection ∧ connection.cause ≠ some entry.call)
    (caused : ∀ (id : ConnectionId) connection call, t.connections[id]? = some connection →
      connection.cause = some call → originOf s.calls call = some connection.origin) :
    Owed t where
  listeners port call found := by
    obtain ⟨before, other⟩ := (listeners port call).mp found
    obtain ⟨server, waits, known⟩ := owed.listeners port call before
    rw [role, calls, log, originOf_modify (origin_store entry.result)]
    exact ⟨server, waits.complete other _, known⟩
  pending id connection found phase := by
    obtain ⟨before, other⟩ := pending id connection found phase
    obtain ⟨call, cause, waits, reaches⟩ := owed.pending id connection before phase
    have ne : call ≠ entry.call := by
      rintro rfl
      exact other cause
    rw [calls, log]
    refine ⟨call, cause, waits.complete ne _, ?_⟩
    unfold Reaches at reaches ⊢
    cases origin : connection.origin with
    | connect =>
      rw [origin] at reaches
      exact ⟨role.trans reaches.1, reaches.2⟩
    | listen port =>
      rw [origin] at reaches
      exact ⟨(listeners port call).mpr ⟨reaches.1, ne⟩, reaches.2⟩
  unique id id' connection connection' found found' phase phase' :=
    owed.unique id id' connection connection' (pending id connection found phase).1
      (pending id' connection' found' phase').1 phase phase'
  caused id connection call found cause := by
    rw [calls, originOf_modify (origin_store entry.result)]
    exact caused id connection call found cause
  server port mem := by
    rw [role]
    exact owed.server port (listening ▸ mem)
  asserted := asserted.trans owed.asserted

end Owed

/-! ## Steps -/

variable {s t : ConnectionManager} {label : CmLabel}

/-- The next call has not got its result. -/
theorem Recorded.open_new (recorded : Recorded s.calls s.log) (origin : Origin) :
    Open (s.calls ++ [⟨origin, {}⟩]) s.log s.calls.length :=
  ⟨by simp, fun entry mem => Nat.ne_of_lt (recorded.lt entry mem)⟩

theorem originOf_new (origin : Origin) (r : Receptable ConnectionId) :
    originOf (s.calls ++ [⟨origin, r⟩]) s.calls.length = some origin := by
  simp [originOf]

theorem Routed.refuse (routed : Routed s) (origin : Origin) (err : DocaError) :
    Routed (s.refuse origin err) := by
  refine ⟨(routed.recorded.append origin).complete ⟨s.calls.length, none, .error err, _⟩
    (routed.recorded.open_new origin), routed.settled.refuse rfl,
    (routed.owed.call origin).answer rfl rfl rfl rfl rfl ?_ ?_ ?_⟩
  · intro port call
    refine ⟨fun found => ⟨found, ?_⟩, fun found => found.1⟩
    exact Nat.ne_of_lt (routed.owed.listeners port call found).2.1.1
  · intro id connection found phase
    obtain ⟨call, cause, waits, -⟩ := routed.owed.pending id connection found phase
    refine ⟨found, ?_⟩
    rw [cause]
    simpa using Nat.ne_of_lt waits.1
  · exact (routed.owed.call origin).caused

/-- Without a role there is nothing to wait for. -/
theorem Owed.not_pending (owed : Owed s) (role : s.role = .none) {id : ConnectionId}
    {connection : Connection} (found : s.connections[id]? = some connection) :
    connection.phase ≠ .pending := by
  intro phase
  obtain ⟨call, -, -, reaches⟩ := owed.pending id connection found phase
  unfold Reaches at reaches
  split at reaches
  · simp [role] at reaches
  · rename_i port _
    have server := (owed.listeners port call reaches.1).1
    simp [role] at server

theorem routed_connect (routed : Routed s) (err : DocaError) (port : Option Port) :
    Routed (s.connect err port) := by
  obtain ⟨recorded, settled, owed⟩ := routed
  unfold connect
  split_ifs with role success
  · exact Routed.refuse ⟨recorded, settled, owed⟩ _ _
  · have none := not_not.mp role
    refine ⟨recorded.append _, settled.appear fun id => rfl, ?_, ?_, ?_, ?_, ?_, owed.asserted⟩
    · intro port call found
      have server := (owed.listeners port call found).1
      simp [none] at server
    · intro id connection found phase
      obtain before | ⟨-, rfl⟩ := getElem?_append_singleton found
      · exact absurd phase (owed.not_pending none before)
      · exact ⟨_, rfl, recorded.open_new _, rfl, rfl⟩
    · intro id id' connection connection' found found' phase phase' _
      obtain before | ⟨rfl, -⟩ := getElem?_append_singleton found
      · exact absurd phase (owed.not_pending none before)
      obtain before | ⟨rfl, -⟩ := getElem?_append_singleton found'
      · exact absurd phase' (owed.not_pending none before)
      rfl
    · intro id connection call found cause
      obtain before | ⟨-, rfl⟩ := getElem?_append_singleton found
      · exact originOf_append (owed.caused id connection call before cause) _
      · cases cause
        exact originOf_new _ _
    · intro port mem
      have server := owed.server port mem
      simp [none] at server
  · exact Routed.refuse ⟨recorded, settled, owed⟩ _ _

theorem routed_listen (routed : Routed s) {port : Port} {err : DocaError}
    (separate : s.Separate (.listen port err)) : Routed (s.listen port err) := by
  obtain ⟨recorded, settled, owed⟩ := routed
  unfold listen
  split_ifs with taken failed
  · exact Routed.refuse ⟨recorded, settled, owed⟩ _ _
  · exact Routed.refuse ⟨recorded, settled, owed⟩ _ _
  · have free : s.listeners port = none := by simpa using taken
    have servers := separate free (not_not.mp failed)
    refine ⟨recorded.append _, settled, ?_, ?_, owed.unique, ?_, ?_, owed.asserted⟩
    · intro other call found
      change (if other = port then _ else _) = _ at found
      refine ⟨rfl, ?_⟩
      split_ifs at found with same
      · subst same
        cases found
        exact ⟨recorded.open_new _, originOf_new _ _⟩
      · obtain ⟨-, waits, known⟩ := owed.listeners other call found
        exact ⟨waits.append _, originOf_append known _⟩
    · intro id connection found phase
      obtain ⟨call, cause, waits, reaches⟩ := owed.pending id connection found phase
      refine ⟨call, cause, waits.append _, ?_⟩
      have served := servers connection (List.mem_of_getElem? found) phase
      unfold Reaches at reaches ⊢
      split at reaches
      · contradiction
      · rename_i other origin
        have differ : other ≠ port := by
          rintro rfl
          simp [free] at reaches
        exact ⟨(if_neg differ).trans reaches.1, reaches.2⟩
    · intro id connection call found cause
      exact originOf_append (owed.caused id connection call found cause) _
    · intro _ _
      rfl

/-- A connection comes up that waits for nothing, or for a call nobody else waits for. -/
theorem Owed.appear (owed : Owed s) {connection : Connection}
    (pending : connection.phase = .pending → ∃ call, connection.cause = some call ∧
      Open s.calls s.log call ∧ s.Reaches connection call)
    (alone : connection.phase = .pending → ∀ (id : ConnectionId) other,
      s.connections[id]? = some other → other.phase = .pending → other.cause ≠ connection.cause)
    (caused : ∀ call, connection.cause = some call →
      originOf s.calls call = some connection.origin) : Owed (s.appear connection) where
  listeners := owed.listeners
  pending id other found phase := by
    obtain before | ⟨-, rfl⟩ := getElem?_append_singleton found
    · exact owed.pending id other before phase
    · exact pending phase
  unique id id' left right found found' phase phase' same := by
    obtain before | ⟨rfl, rfl⟩ := getElem?_append_singleton found
    · obtain before' | ⟨rfl, rfl⟩ := getElem?_append_singleton found'
      · exact owed.unique id id' left right before before' phase phase' same
      · exact absurd same (alone phase' id left before phase)
    · obtain before' | ⟨rfl, rfl⟩ := getElem?_append_singleton found'
      · exact absurd same.symm (alone phase id' right before' phase')
      · rfl
  caused id other call found cause := by
    obtain before | ⟨-, rfl⟩ := getElem?_append_singleton found
    · exact owed.caused id other call before cause
    · exact caused call cause
  server := owed.server
  asserted := owed.asserted

/-- A connection that waits for a listener came to its port. -/
theorem Owed.origin_of_cause (owed : Owed s) {port : Port} {dest : CallId}
    (listens : s.listeners port = some dest) {id : ConnectionId} {connection : Connection}
    (found : s.connections[id]? = some connection) (cause : connection.cause = some dest) :
    connection.origin = .listen port := by
  have known := (owed.caused id connection dest found cause).symm.trans
    (owed.listeners port dest listens).2.2
  simpa using known

theorem Owed.eraseListener_iff (owed : Owed s) {port other : Port} {dest call : CallId}
    (listens : s.listeners port = some dest) :
    (s.eraseListener port).listeners other = some call ↔
      s.listeners other = some call ∧ call ≠ dest := by
  simp only [eraseListener]
  split_ifs with same
  · simp [same, listens, eq_comm]
  · refine ⟨fun found => ⟨found, ?_⟩, fun found => found.1⟩
    rintro rfl
    exact same (owed.port_eq found listens)

theorem Routed.assertServer (routed : Routed s) (role : s.role = .server) :
    Routed s.assertServer where
  recorded := routed.recorded
  settled := routed.settled
  owed :=
    { listeners := routed.owed.listeners
      pending := routed.owed.pending
      unique := routed.owed.unique
      caused := routed.owed.caused
      server := routed.owed.server
      asserted := by simp [ConnectionManager.assertServer, routed.owed.asserted, role] }

theorem routed_request (routed : Routed s) {port : Port} (accept : DocaError)
    (listening : port ∈ s.listening) (separate : s.Separate (.connectionRequest port accept)) :
    Routed (s.connectionRequest
      { origin := .listen port, cause := s.listeners port, userData := none, port := port }
      accept) := by
  have role := routed.owed.server port listening
  obtain ⟨recorded, settled, owed⟩ := routed.assertServer role
  unfold connectionRequest
  simp only
  cases listens : s.listeners port with
  | none =>
    refine ⟨recorded, settled.appear fun id => rfl, owed.appear ?_ ?_ ?_⟩ <;> simp
  | some dest =>
    obtain ⟨-, waits, known⟩ := owed.listeners port dest listens
    -- Nobody waits for the listener yet
    have alone : ∀ (id : ConnectionId) other, s.connections[id]? = some other →
        other.phase = .pending → other.cause ≠ some dest := fun id other found phase cause =>
      separate other (List.mem_of_getElem? found) phase
        (owed.origin_of_cause listens found cause)
    simp only
    split_ifs with success
    · refine ⟨recorded, settled.appear fun id => rfl, owed.appear ?_ (fun _ => alone) ?_⟩
      · exact fun _ => ⟨dest, rfl, waits, listens, rfl⟩
      · intro call cause
        cases cause
        exact known
    · have appeared : Owed (s.assertServer.appear
          { origin := .listen port, cause := some dest, userData := none, port := port
            phase := .rejected accept }) := by
        refine owed.appear (by simp) (by simp) fun call cause => ?_
        cases cause
        exact known
      refine ⟨recorded.complete ⟨dest, some s.connections.length, .error accept, _⟩ waits,
        settled.answer rfl ?_ ?_ ?_ (settled.filter_new (Nat.le_refl _)) ?_,
        appeared.answer rfl rfl rfl rfl rfl ?_ ?_ appeared.caused⟩
      · exact List.length_append ▸ Nat.le_add_right _ _
      · exact List.length_append ▸ Nat.lt_succ_self _
      · intro id other differs found
        exact (getElem?_append_singleton found).resolve_right fun new => differs new.1
      · intro other found
        obtain before | ⟨-, rfl⟩ := getElem?_append_singleton found
        · exact absurd (List.getElem?_eq_some_iff.mp before).1 (Nat.lt_irrefl _)
        · rfl
      · exact fun other call => owed.eraseListener_iff listens
      · intro id other found phase
        obtain before | ⟨-, rfl⟩ := getElem?_append_singleton found
        · exact ⟨found, alone id other before phase⟩
        · simp at phase

/-- A connection has got its result, and nothing leads to the call any more. -/
structure Released (s u : ConnectionManager) (id : ConnectionId) (connection : Connection)
    (call : CallId) (phase : Phase) : Prop where
  calls : u.calls = s.calls
  log : u.log = s.log
  role : u.role = s.role
  listening : u.listening = s.listening
  asserted : u.asserted = s.asserted
  listeners : ∀ port other, u.listeners port = some other ↔
    s.listeners port = some other ∧ other ≠ call
  length : u.connections.length = s.connections.length
  others : ∀ other, other ≠ id → u.connections[other]? = s.connections[other]?
  here : ∃ after, u.connections[id]? = some after ∧ after.cause = connection.cause ∧
    after.origin = connection.origin ∧ after.phase = phase

/-- The result of a connection reaches the call that caused it. -/
theorem Owed.take_pending (owed : Owed s) {id : ConnectionId} {connection : Connection}
    (found : s.connections[id]? = some connection) (waiting : connection.phase = .pending)
    (phase : Phase) : ∃ call u, connection.cause = some call ∧ Open s.calls s.log call ∧
      (s.setPhase id phase).takeConnectionReceptable id connection = (some call, u) ∧
      Released s u id connection call phase := by
  obtain ⟨call, cause, waits, reaches⟩ := owed.pending id connection found waiting
  have known := owed.caused id connection call found cause
  unfold Reaches at reaches
  split at reaches
  · rename_i origin
    refine ⟨call, (s.setPhase id phase).clearUserData id, cause, waits,
      by simp [takeConnectionReceptable, setPhase, reaches], ?_⟩
    refine ⟨rfl, rfl, rfl, rfl, rfl, fun port other => ?_, by simp [setPhase, clearUserData],
      fun other differs => ?_, ?_⟩
    · -- There are no listeners
      have none : s.listeners port ≠ some other := fun listens => by
        have server := (owed.listeners port other listens).1
        simp [reaches.1] at server
      exact ⟨fun listens => absurd listens none, fun listens => absurd listens.1 none⟩
    · exact (List.getElem?_modify_ne _ _ (Ne.symm differs)).trans
        (List.getElem?_modify_ne _ _ (Ne.symm differs))
    · exact ⟨{ connection with phase := phase, userData := none },
        by simp [setPhase, clearUserData, found], rfl, rfl, rfl⟩
  · rename_i port origin
    have server := (owed.listeners port call reaches.1).1
    refine ⟨call, (s.setPhase id phase).eraseListener port, cause, waits,
      by simp [takeConnectionReceptable, setPhase, reaches, server], ?_⟩
    refine ⟨rfl, rfl, rfl, rfl, rfl, fun other call => owed.eraseListener_iff reaches.1,
      by simp [setPhase, eraseListener], fun other differs => ?_, ?_⟩
    · exact List.getElem?_modify_ne _ _ (Ne.symm differs)
    · exact ⟨{ connection with phase := phase },
        by simp [setPhase, eraseListener, found], rfl, rfl, rfl⟩

theorem routed_result (routed : Routed s) {id : ConnectionId} {connection : Connection}
    (waiting : s.pending id = some connection) {phase : Phase}
    {result : Except DocaError ConnectionId} (ended : phase ≠ .pending)
    (due : ∀ (after : Connection) call, after.phase = phase → after.cause = some call →
      after.due id = some (some call, result)) :
    Routed (s.connectionResult id connection phase result) := by
  obtain ⟨recorded, settled, owed⟩ := routed
  obtain ⟨found, open_⟩ := Option.filter_eq_some_iff.mp waiting
  have waiting : connection.phase = .pending := by simpa using open_
  obtain ⟨call, u, cause, waits, taken, released⟩ := owed.take_pending found waiting phase
  obtain ⟨after, now, cause', origin', phase'⟩ := released.here
  have quiet : s.log.filter (·.connection = some id) = [] := by
    have none := settled.results id connection found
    unfold Connection.due at none
    rw [waiting] at none
    simpa using none
  have completed : ∃ entry : Completion, entry.call = call ∧ entry.connection = some id ∧
      entry.result = result ∧
      (u.complete call id result true).calls = s.calls.modify entry.call (store entry.result) ∧
      (u.complete call id result true).log = s.log ++ [entry] :=
    ⟨⟨call, id, result, _⟩, rfl, rfl, rfl, by rw [← released.calls]; rfl,
      by rw [← released.log]; rfl⟩
  obtain ⟨entry, rfl, own, rfl, calls, log⟩ := completed
  have others : ∀ (other : ConnectionId) connection', other ≠ id →
      u.connections[other]? = some connection' → s.connections[other]? = some connection' :=
    fun other connection' differs found' => released.others other differs ▸ found'
  unfold connectionResult
  rw [taken]
  refine ⟨?_, ?_, owed.answer calls log released.role released.listening released.asserted
    released.listeners ?_ ?_⟩
  · rw [calls, log]
    exact recorded.complete entry waits
  · rw [log]
    refine settled.answer own (Nat.le_of_eq released.length.symm)
      (List.getElem?_eq_some_iff.mp now).1 others quiet ?_
    intro connection' found'
    cases now.symm.trans found'
    exact due after entry.call phase' (cause'.trans cause)
  -- What still waits is another connection, and so waits for another call
  · intro other connection' found' waiting'
    by_cases same : other = id
    · subst same
      cases now.symm.trans found'
      exact absurd (phase'.symm.trans waiting') ended
    · have before := others other connection' same found'
      refine ⟨before, fun cause'' => same ?_⟩
      exact owed.unique other id connection' connection before found waiting' waiting
        (cause''.trans cause.symm)
  · intro other connection' call found' cause''
    by_cases same : other = id
    · subst same
      cases now.symm.trans found'
      rw [origin']
      exact owed.caused other connection call found (cause'.symm.trans cause'')
    · exact owed.caused other connection' call (others other connection' same found') cause''

/-- Every step the condition allows keeps the routes. -/
theorem routed_step (routed : Routed s) (separate : s.Separate label)
    (taken : step s label = some t) : Routed t := by
  cases label with
  | connect err port =>
    cases taken
    exact routed_connect routed err port
  | listen port err =>
    cases taken
    exact routed_listen routed separate
  | await call coro =>
    simp only [step] at taken
    split_ifs at taken
    cases taken
    exact ⟨routed.recorded.await call coro, routed.settled, routed.owed.await call coro⟩
  | connectionRequest port accept =>
    simp only [step] at taken
    split_ifs at taken with listening
    cases taken
    exact routed_request routed accept listening separate
  | connectionEstablished id =>
    obtain ⟨connection, waiting, rfl⟩ := Option.map_eq_some_iff.mp taken
    refine routed_result routed waiting (by simp) fun after call phase cause => ?_
    simp [Connection.due, phase, cause]
  | connectionFailure id =>
    obtain ⟨connection, waiting, rfl⟩ := Option.map_eq_some_iff.mp taken
    refine routed_result routed waiting (by simp) fun after call phase cause => ?_
    simp [Connection.due, phase, cause]

/-! ## Whole runs -/

/-- What an established or failed connection means to its cause. -/
def outcome (id : ConnectionId) (connection : Connection) : Except DocaError ConnectionId :=
  if connection.phase = .established then .ok id else .error .connectionAborted

/-- Every result of a connection completed one receptable, that of the call that caused
the connection. No receptable is completed twice, each holds what it was completed with,
and the others hold nothing. -/
theorem results_reach_their_calls (labels : List CmLabel) (s : ConnectionManager)
    (run : Run step Separate {} labels s) :
    (∀ (id : ConnectionId) connection, s.connections[id]? = some connection →
      connection.phase = .established ∨ connection.phase = .failed →
      ∃ call, connection.cause = some call ∧ originOf s.calls call = some connection.origin ∧
        (s.log.filter (·.connection = some id)).map (fun entry => (entry.call, entry.result)) =
          [(call, outcome id connection)]) ∧
    (s.log.map Completion.call).Nodup ∧
    (∀ entry ∈ s.log, ∃ call, s.calls[entry.call]? = some call ∧
      call.receptable.hasValue = true ∧ call.receptable.value = entry.result) ∧
    (∀ (id : CallId) call, s.calls[id]? = some call → (∀ entry ∈ s.log, entry.call ≠ id) →
      call.receptable.hasValue = false) ∧
    s.asserted = true := by
  have start : Routed {} :=
    ⟨⟨List.nodup_nil, by simp, by simp⟩, ⟨by simp, by simp⟩,
      ⟨by simp, by simp, by simp, by simp, by simp, rfl⟩⟩
  obtain ⟨recorded, settled, owed⟩ := run.invariant Routed
    (fun _ _ _ routed separate taken => routed_step routed separate taken) start
  refine ⟨fun id connection found ended => ?_, recorded.once, recorded.stored, recorded.empty,
    owed.asserted⟩
  have due : connection.due id = some (connection.cause, outcome id connection) := by
    unfold Connection.due outcome
    obtain phase | phase := ended <;> simp [phase]
  have results := settled.results id connection found
  rw [due] at results
  obtain ⟨entry, only, same⟩ := List.map_eq_singleton_iff.mp results
  obtain ⟨cause, result⟩ := Prod.mk.inj same
  refine ⟨entry.call, cause.symm, owed.caused id connection entry.call found cause.symm, ?_⟩
  rw [only, ← result]
  rfl

/-- A port serves one request after the other, and another one is listened to meanwhile. -/
def servedInTurn : List CmLabel :=
  [.listen 7 .success, .await 0 3, .connectionRequest 7 .success, .listen 8 .success,
    .connectionEstablished 0, .listen 7 .success, .connectionRequest 7 .success,
    .connectionRequest 8 (.other 1), .connectionFailure 1]

theorem results_reach_their_calls_servedInTurn :
    ∃ s, Run step Separate {} servedInTurn s ∧ (s.log.map Completion.call).Nodup ∧
      s.log.map Completion.call = [0, 1, 2] ∧
      s.log.map Completion.resumed = [some 3, none, none] := by
  have run : Run step Separate {} servedInTurn _ := ⟨rfl, by decide⟩
  have routed := results_reach_their_calls servedInTurn _ run
  exact ⟨_, run, routed.2.1, rfl, rfl⟩

/-- Two requests to one port are accepted and established, and nobody gets the second
connection; `listen` after `connect` turns the result of `connect` over to the listener. -/
theorem results_go_astray :
    (∃ s, Run step Always {} [.listen 7 .success, .connectionRequest 7 .success,
        .connectionRequest 7 .success, .connectionEstablished 0, .connectionEstablished 1] s ∧
      s.connections.map Connection.phase = [.established, .established] ∧
      (∀ entry ∈ s.log, entry.connection ≠ some 1)) ∧
    ∃ s, Run step Always {} [.connect .success (some 7), .listen 7 .success,
        .connectionEstablished 0] s ∧
      s.connections.map Connection.cause = [some 0] ∧ s.log.map Completion.call = [1] ∧
      s.log.map Completion.connection = [some 0] :=
  ⟨⟨_, ⟨rfl, meets_always _ _⟩, by decide, by decide⟩,
    ⟨_, ⟨rfl, meets_always _ _⟩, by decide, by decide, by decide⟩⟩

end ConnectionManager

end Shoc.Rdma

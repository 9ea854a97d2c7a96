/-
# Teardown happens once

A connection is disconnected successfully at most once and signals its end at most
once, and neither the server nor a client is stopped after it has become idle. Two
attempts meet when the first one runs inside the second: `disconnect` and `stop`
first ask the children to stop and then try to tear down, but every child that
stops right away has already made the same attempt.
-/

import Shoc.Comch.Sound

namespace Shoc.Comch

open Common Data Transition

/-- What may stand in the log after what: nothing disconnects a connection again, and no
connection signals its end twice. -/
def Call.MayFollow : Call → Call → Bool
  | .serverDisconnect c, .serverDisconnected c' err => c ≠ c' || err ≠ .success
  | .signalDisconnect c, .signalDisconnect c' => c ≠ c'
  | _, _ => true

/-- The call does not stop what is idle already. -/
def Call.Timely : Call → Bool
  | .clientStop _ idled _ | .serverStop idled _ => !idled
  | _ => true

/-- Every teardown primitive ran at most once. The log has the latest call first. -/
structure TornDownOnce (log : List Call) : Prop where
  ordered : log.Pairwise (Call.MayFollow · ·)
  timely : ∀ call ∈ log, call.Timely

namespace TornDownOnce

variable {log : List Call} {call : Call}

theorem cons (known : TornDownOnce log) (follows : ∀ earlier ∈ log, call.MayFollow earlier)
    (timely : call.Timely) : TornDownOnce (call :: log) where
  ordered := List.pairwise_cons.mpr ⟨follows, known.ordered⟩
  timely := List.forall_mem_cons.mpr ⟨timely, known.timely⟩

/-- A call that tears nothing down may always follow. -/
theorem cons_quiet (known : TornDownOnce log) (quiet : ∀ earlier, call.MayFollow earlier)
    (timely : call.Timely) : TornDownOnce (call :: log) :=
  known.cons (fun earlier _ => quiet earlier) timely

/-- A connection that was not disconnected, or a client that is not idle, may be torn down. -/
theorem teardown (known : TornDownOnce log) {o : Objects} {c : ChannelId}
    (connection : (o.channels c).role ≠ .client → .serverDisconnected c .success ∉ log)
    (client : (o.channels c).role = .client → (o.channels c).base.idled = false) :
    TornDownOnce (o.teardownCall c :: log) := by
  unfold Objects.teardownCall
  split
  · rename_i handle role
    refine known.cons (fun earlier mem => ?_) rfl
    cases earlier with
    | serverDisconnected c' err =>
      by_contra again
      obtain ⟨rfl, rfl⟩ : c = c' ∧ err = .success := by simpa [Call.MayFollow] using again
      exact connection (by simp [role]) mem
    | _ => rfl
  · rename_i role
    exact known.cons_quiet (fun _ => rfl) (by simp [Call.Timely, client role])

/-- A connection that has not signalled its end may do so. -/
theorem signal (known : TornDownOnce log) {c : ChannelId} (fresh : .signalDisconnect c ∉ log) :
    TornDownOnce (.signalDisconnect c :: log) := by
  refine known.cons (fun earlier mem => ?_) rfl
  cases earlier with
  | signalDisconnect c' =>
    refine decide_eq_true ?_
    rintro rfl
    exact fresh mem
  | _ => rfl

end TornDownOnce

namespace System

variable {s t : System} {label : Label}

/-- The answers of the SDK do not overtake the function that is waiting for them. A
connection is not disconnected successfully while its children are being asked to stop. The
server does not become idle in the middle of `server::stop`, nor while it has connections,
and is not stopped again when it is idle. A client does not become idle while its children
are being asked to stop, and until its end is dealt with nothing makes it go through its
teardown again: no `stop` that finds it connected, and no last child that becomes idle while
it disconnects. -/
def InTurn (s : System) : Label → Prop
  | .sdk err => err = .success →
      ∀ c ∈ disconnecting.see (s.stack.take 1), c ∉ stopping.see s.stack
  | .call .stopServer => s.objects.server.idled = false
  | .change .server next => next = .idle →
      s.objects.openConnections.entries = [] ∧ stoppingServer.see s.stack = []
  | .change (.client c) next => next = .idle → c ∉ stopping.see s.stack
  | .call (.disconnect c) => (s.channel c).role = .client → (s.channel c).state = .connected →
      c ∉ releasing.see s.stack
  | .change (.child child) next => next = .idle →
      (s.channel (s.child child).parent).role = .client →
      (s.channel (s.child child).parent).state = .disconnecting →
      ((s.channel (s.child child).parent).activeChildren.erase child).entries = [] →
        (s.child child).parent ∉ releasing.see s.stack
  | _ => True

instance (s : System) : ∀ label, Decidable (s.InTurn label)
  | .sdk _ => inferInstanceAs (Decidable (_ → ∀ c ∈ disconnecting.see _, c ∉ _))
  | .call .stopServer => inferInstanceAs (Decidable (_ = _))
  | .change .server _ => inferInstanceAs (Decidable (_ → _ ∧ _))
  | .change (.client _) _ => inferInstanceAs (Decidable (_ → _ ∉ _))
  | .call (.disconnect _) => inferInstanceAs (Decidable (_ → _ → _ ∉ _))
  | .change (.child _) _ => inferInstanceAs (Decidable (_ → _ → _ → _ → _ ∉ _))
  | .event _ | .call (.create _ _) | .call (.stopChild _) | .call .createClient
  | .call (.msgRecv _) | .call (.acceptConsumer _) | .call .accept | .call (.coAwait _ _)
  | .ret | .tick => inferInstanceAs (Decidable True)

/-- What has ended, and what is still going on for it. -/
structure Once (s : System) : Prop where
  signalled : ∀ c, .signalDisconnect c ∈ s.log ∨ .serverDisconnected c .success ∈ s.log →
    c < s.objects.channelCount ∧ (s.channel c).role ≠ .client ∧
      (s.channel c).state = .disconnected
  ended : ∀ c, (s.channel c).role ≠ .client → (s.channel c).state = .disconnected →
    c ∉ stopping.see s.stack ∧ c ∉ disconnecting.see s.stack
  present : ∀ c handle, (s.channel c).role = .connection handle → c ∈ releasing.see s.stack →
    handle ∈ s.objects.openConnections
  once : (releasing.see s.stack).Nodup
  server : s.objects.server.idled = true →
    s.objects.openConnections.entries = [] ∧ stoppingServer.see s.stack = [] ∧
      ∀ c ∈ releasing.see s.stack, (s.channel c).role = .client
  client : ∀ c, (s.channel c).role = .client → (s.channel c).base.idled = true →
    c ∉ stopping.see s.stack ∧ ((s.channel c).state = .disconnected ∨ c ∈ releasing.see s.stack)
  log : TornDownOnce s.log

/-- A connection for which `doca_comch_server_disconnect` is being called is still listed. -/
theorem Once.listed_of_disconnecting (once : s.Once) (sound : s.Sound) (c : ChannelId)
    (mem : c ∈ disconnecting.see s.stack) :
    (s.channel c).state ≠ .disconnected ∧ ∃ handle ∈ s.objects.openConnections,
      (s.channel c).role = .connection handle := by
  have role := sound.listed.called c mem
  have connected : (s.channel c).state ≠ .disconnected := fun disconnected =>
    (once.ended c role disconnected).2 mem
  cases same : (s.channel c).role with
  | client => contradiction
  | connection handle =>
    exact ⟨connected, handle, (sound.listed.found c handle same connected).1, rfl⟩

/-- A connection that ends is still listed. -/
theorem Once.listed_of_ends (once : s.Once) (sound : s.Sound) {c : ChannelId} {handle : Handle}
    (ends : Ends s c label) (role : (s.channel c).role = .connection handle) :
    handle ∈ s.objects.openConnections := by
  cases ends with
  | @remote handle' empty present found =>
    have same := sound.listed.role handle' present
    rw [found, role] at same
    cases same
    exact present
  | told before =>
    obtain ⟨-, handle', present, same⟩ :=
      once.listed_of_disconnecting sound c (by simp [before])
    rw [role] at same
    cases same
    exact present

section OnceStep

variable (sound : s.Sound) (once : s.Once) (inTurn : s.InTurn label) (taken : Taken s label t)

include sound once taken

theorem signalled_step (c : ChannelId)
    (mem : .signalDisconnect c ∈ t.log ∨ .serverDisconnected c .success ∈ t.log) :
    c < t.objects.channelCount ∧ (t.channel c).role ≠ .client ∧
      (t.channel c).state = .disconnected := by
  suffices known : (s.channel c).role ≠ .client ∧ (t.channel c).state = .disconnected by
    have counted := sound.numbered.lt_of_connection known.1
    refine ⟨counted.trans_le taken.channelCount_le, ?_, known.2⟩
    rw [(taken.channelMoved c).role_eq counted]
    exact known.1
  have stays : .signalDisconnect c ∈ s.log ∨ .serverDisconnected c .success ∈ s.log →
      (s.channel c).role ≠ .client ∧ (t.channel c).state = .disconnected := by
    intro before
    obtain ⟨counted, connection, down⟩ := once.signalled c before
    exact ⟨connection,
      (taken.channelMoved c).disconnected_stays down (absurd · connection) counted⟩
  obtain signalled | disconnected := mem
  · obtain before | logged := taken.logged signalled
    · exact stays (.inl before)
    · cases logged with
      | signalDisconnect ends now => exact ⟨sound.listed.connection_of_ends ends, now⟩
  · obtain before | logged := taken.logged disconnected
    · exact stays (.inr before)
    · cases logged with
      | serverDisconnected same before now =>
        subst same
        exact ⟨sound.listed.connection_of_ends (.told before), now rfl⟩

include inTurn

theorem ended_step (c : ChannelId) (role : (t.channel c).role ≠ .client)
    (disconnected : (t.channel c).state = .disconnected) :
    c ∉ stopping.see t.stack ∧ c ∉ disconnecting.see t.stack := by
  have connection := (taken.channelMoved c).connection_of_disconnected role disconnected
  have counted := sound.numbered.lt_of_connection connection
  obtain down | ⟨ends, after⟩ :=
    (taken.channelMoved c).disconnected_or_ends disconnected connection counted
  · obtain ⟨notStopping, notCalled⟩ := once.ended c connection down
    refine ⟨fun stops => ?_, fun called => ?_⟩
    · obtain before | ⟨-, up, -⟩ := taken.stopping_shifted.mem stops
      · exact notStopping before
      · rw [down] at up
        contradiction
    · obtain before | ⟨calls, -⟩ := taken.disconnecting_shifted.mem called
      · exact notCalled before
      · cases calls with
        | lastChild _ _ _ leaves =>
          rw [down] at leaves
          contradiction
        | loopEnded onTop => exact notStopping (by simp [onTop])
  · rw [after]
    cases ends with
    | remote empty => simp [empty]
    -- The condition: the success does not come while the children are being asked
    | told onTop =>
      have outside := inTurn rfl c (by simp [onTop])
      have below := sound.starting.not_disconnecting_below onTop c
      rw [onTop] at outside ⊢
      exact ⟨by simpa using outside, by simpa using below⟩

omit inTurn in
theorem present_step (c : ChannelId) (handle : Handle)
    (role : (t.channel c).role = .connection handle) (mem : c ∈ releasing.see t.stack) :
    handle ∈ t.objects.openConnections := by
  obtain before | begins := taken.releasing_shifted.mem mem
  · have tearing := mem_tearing_of_releasing before
    rw [(taken.channelMoved c).role_eq (sound.listed.counted c tearing)] at role
    have present := once.present c handle role before
    obtain stays | ⟨gone, callers, onTop, released, popped⟩ :=
      taken.connectionsMoved.open_or_released present
    · exact stays
    · -- Each connection is released once, so it is another one that goes
      have own := sound.listed.own c handle role tearing present
      have ownGone := sound.listed.own gone handle released (by simp [onTop]) present
      obtain rfl : c = gone := own.symm.trans ownGone
      have nodup := once.once
      rw [popped, List.nodup_cons] at nodup
      exact (nodup.1 mem).elim
  · cases begins with
    | connection ends =>
      have connection := sound.listed.connection_of_ends ends
      rw [(taken.channelMoved c).role_eq (sound.numbered.lt_of_connection connection)] at role
      have present := once.listed_of_ends sound ends role
      refine (taken.connectionsMoved.open_or_released present).resolve_right ?_
      rintro ⟨gone, callers, onTop, -⟩
      cases ends with
      | remote empty => simp [empty] at onTop
      | told before => simp [before] at onTop
    | client _ client created =>
      rw [(taken.channelMoved c).role_eq created, client] at role
      contradiction

omit inTurn in
theorem onceReleased_step : (releasing.see t.stack).Nodup := by
  refine taken.releasing_shifted.pairwise once.once ?_
  rintro new begins _ mem rfl
  cases begins with
  | connection ends =>
    cases ends with
    | remote empty => simp [empty] at mem
    -- A connection that is being disconnected has not been released before
    | told onTop =>
      obtain ⟨up, handle, -, role⟩ :=
        once.listed_of_disconnecting sound new (by simp [onTop])
      exact up (sound.listed.released new handle role mem)
  -- A client is reported idle once
  | client _ client _ alive =>
    rw [sound.listed.idled new mem client] at alive
    contradiction

omit sound in
/-- When the server is idle or becomes so, no connection is open, none is being released and no
`server::stop` is in its loop. -/
theorem closed_before (idled : t.objects.server.idled = true) :
    s.objects.openConnections.entries = [] ∧ stoppingServer.see s.stack = [] ∧
      ∀ c ∈ releasing.see s.stack, (s.channel c).role = .client := by
  obtain before | ⟨rfl, -⟩ := taken.server_idled idled
  · exact once.server before
  · obtain ⟨closed, outside⟩ := inTurn rfl
    refine ⟨closed, outside, fun c mem => ?_⟩
    cases role : (s.channel c).role with
    | client => rfl
    | connection handle =>
      exact absurd (once.present c handle role mem) (Registry.eq_nil_iff.mp closed handle)

theorem server_step (idled : t.objects.server.idled = true) :
    t.objects.openConnections.entries = [] ∧ stoppingServer.see t.stack = [] ∧
      ∀ c ∈ releasing.see t.stack, (t.channel c).role = .client := by
  obtain ⟨closed, outside, clients⟩ := closed_before once inTurn taken idled
  refine ⟨?_, ?_, fun c mem => ?_⟩
  · cases taken.connectionsMoved with
    | kept same =>
      rw [same]
      exact closed
    | connected _ _ _ alive =>
      rw [idled] at alive
      contradiction
    | erased _ _ gone =>
      rw [gone]
      exact Registry.entries_erase_of_nil closed
  · refine (taken.stoppingServer_eq_nil outside).resolve_right ?_
    rintro rfl
    -- The condition: the server is not stopped again when it is idle
    obtain before | ⟨other, -⟩ := taken.server_idled idled
    · rw [show s.objects.server.idled = false from inTurn] at before
      contradiction
    · cases other
  · obtain before | begins := taken.releasing_shifted.mem mem
    · rw [(taken.channelMoved c).role_eq (sound.listed.counted c (mem_tearing_of_releasing before))]
      exact clients c before
    · cases begins with
      | connection ends =>
        cases role : (s.channel c).role with
        | client => exact (sound.listed.connection_of_ends ends role).elim
        | connection handle =>
          exact absurd (once.listed_of_ends sound ends role)
            (Registry.eq_nil_iff.mp closed handle)
      | client _ client created =>
        rw [(taken.channelMoved c).role_eq created]
        exact client

theorem clientOnce_step (c : ChannelId) (role : (t.channel c).role = .client)
    (idled : (t.channel c).base.idled = true) :
    c ∉ stopping.see t.stack ∧
      ((t.channel c).state = .disconnected ∨ c ∈ releasing.see t.stack) := by
  obtain before | ⟨rfl, -, after⟩ := (taken.channelMoved c).idled_or_reported idled
  · have counted := sound.numbered.idled c before
    rw [(taken.channelMoved c).role_eq counted] at role
    obtain ⟨notStopping, ended⟩ := once.client c role before
    refine ⟨fun stops => ?_, ?_⟩
    · obtain earlier | ⟨asks, up, -⟩ := taken.stopping_shifted.mem stops
      · exact notStopping earlier
      · cases asks with
        -- The condition: no `stop` finds the client connected
        | user handed =>
          obtain down | releases := ended
          · rw [up] at down
            contradiction
          · exact inTurn role up releases
        | @server handle _ _ _ present found =>
          have connection := sound.listed.role handle present
          rw [found, role] at connection
          contradiction
    · obtain down | releases := ended
      · exact .inl ((taken.channelMoved c).disconnected_stays down (fun _ => before) counted)
      · obtain still | ⟨-, now⟩ := taken.releasing_shifted.mem_or_leaves releases
        · exact .inr still
        · exact .inl (now role)
  -- The condition: the client does not become idle while its children are being asked
  · have outside : c ∉ stopping.see s.stack := inTurn rfl
    rw [after]
    exact ⟨by simpa using outside, .inr (by simp)⟩

theorem tornDownOnce_step : TornDownOnce t.log := by
  have known := once.log
  cases taken with
  | @childIdled child =>
    rw [log_childIdled]
    split
    -- The last child tears the channel down, which has not happened before
    · rename_i last
      obtain ⟨leaves, last⟩ := last
      rw [objects_childIdled]
      refine known.teardown (fun _ mem => ?_) (fun client => ?_)
      · have down := (once.signalled _ (.inr mem)).2.2
        rw [leaves] at down
        contradiction
      · simp only [Objects.role_setChannel_same, Objects.channels_setChild] at client
        by_contra idled
        obtain ⟨-, down | releases⟩ := once.client _ client (by simpa using idled)
        · rw [leaves] at down
          contradiction
        · exact inTurn rfl client leaves last releases
    · exact known
  | @stopAllEnded c _ _ before =>
    rw [log_disconnectIfAble]
    split
    · refine known.teardown (fun connection mem => ?_) (fun client => ?_)
      · have down := (once.signalled c (.inr mem)).2.2
        exact (once.ended c connection down).1 (by simp [before])
      · by_contra idled
        exact (once.client c client (by simpa using idled)).1 (by simp [before])
    · exact known
  | @connectionReleased c handle _ _ _ before role =>
    -- A connection that is being released keeps the server from being idle
    have alive : s.objects.server.idled = false := by
      by_contra idled
      have client := (once.server (by simpa using idled)).2.2 c (by simp [before])
      rw [role] at client
      contradiction
    have erased : TornDownOnce
        ((if handle ∈ s.objects.openConnections then
          [.erased (s.objects.connectionAt handle)
            (s.channel (s.objects.connectionAt handle)).activeChildren.entries]
        else []) ++ s.log) := by
      split
      · exact known.cons_quiet (fun _ => rfl) rfl
      · exact known
    simp only [log_serverSignalDisconnect, log_wake, objects_wake, System.channel]
    split
    · rw [List.singleton_append]
      exact erased.cons_quiet (fun _ => rfl) (by simp [Call.Timely, alive])
    · exact erased
  -- `server::stop` is in its loop, so the server is not idle
  | connectionsEnded before =>
    rw [log_doStopIfAble]
    split
    · refine known.cons_quiet (fun _ => rfl) ?_
      by_contra idled
      have looping := (once.server (by simpa [Call.Timely] using idled)).2.1
      simp [before] at looping
    · exact known
  -- A second signal would find the connection in the middle of the first
  | @disconnection handle empty present =>
    refine known.signal fun mem => ?_
    have disconnected := (once.signalled _ (.inl mem)).2.2
    have releasing := sound.listed.releases handle present disconnected
    simp [empty] at releasing
  | @disconnectSucceeded c _ before =>
    have connected := (once.listed_of_disconnecting sound c (by simp [before])).1
    have failed : TornDownOnce (.serverDisconnected c .success :: s.log) :=
      known.cons_quiet (fun _ => rfl) rfl
    refine failed.signal fun mem => ?_
    have signalled := once.signalled c (.inl (by simpa using mem))
    exact connected signalled.2.2
  | clientReleased =>
    rw [log_wake]
    exact known.cons_quiet (fun _ => rfl) rfl
  | disconnectFailed | clientStopReturned | serverStopReturned =>
    exact known.cons_quiet (fun _ => rfl) rfl
  | _ => simpa using known

theorem teardown_step : t.Once where
  signalled := signalled_step sound once taken
  ended := ended_step sound once inTurn taken
  present := present_step sound once taken
  once := onceReleased_step sound once taken
  server := server_step sound once inTurn taken
  client := clientOnce_step sound once inTurn taken
  log := tornDownOnce_step sound once inTurn taken

end OnceStep

theorem once_init : Once {} := by
  refine ⟨?_, ?_, ?_, ?_, ?_, ?_, ⟨?_, ?_⟩⟩ <;> simp

/-! ## Runs -/

/-- In every run in which the answers come in turn, teardown happens once. -/
theorem torn_down_once (labels : List Label) (s : System) (run : Run step InTurn {} labels s) :
    TornDownOnce s.log := by
  have known := invariant_of_run Once
    (fun _ _ _ sound once inTurn taken => teardown_step sound once inTurn taken) run once_init
  exact known.2.log

/-- A connection with one child is disconnected, a client is stopped, and then the server,
and everything that stops does so when it was asked to. -/
def stoppedInTurn : List Label :=
  [.change .server .running, .event (.connection 1 true (.position 0)),
    .call (.create 0 (.position 0)), .change (.child 0) .running, .sdk .success,
    .call (.disconnect 0), .tick, .sdk .inProgress, .tick, .change (.child 0) .idle,
    .sdk .success, .tick, .tick,
    .call .createClient, .change (.client 1) .running, .sdk .success, .call (.disconnect 1), .tick,
    .change (.client 1) .idle, .tick, .tick, .sdk .success,
    .call .stopServer, .tick, .change .server .idle, .tick, .sdk .success, .tick]

theorem torn_down_once_stoppedInTurn :
    ∃ s, Run step InTurn {} stoppedInTurn s ∧ TornDownOnce s.log ∧
      .serverDisconnected 0 .success ∈ s.log ∧ .clientStop 1 false [] ∈ s.log ∧
      .serverStop false [] ∈ s.log := by
  have run : Run step InTurn {} stoppedInTurn _ := ⟨rfl, by decide⟩
  exact ⟨_, run, torn_down_once stoppedInTurn _ run, by decide, by decide, by decide⟩

/-- The only child stops while it is being asked to, and the connection is disconnected: once
all children were asked, the connection is disconnected again. -/
theorem nested_stop_disconnects_twice :
    ¬ ∀ (labels : List Label) (s : System), Run step Always {} labels s → TornDownOnce s.log := by
  intro tornDownOnce
  have once := tornDownOnce
    [.event (.connection 1 true (.position 0)), .call (.create 0 (.position 0)),
      .change (.child 0) .running, .sdk .success, .call (.disconnect 0), .tick,
      .change (.child 0) .idle, .sdk .success, .tick, .tick, .sdk .success, .tick] _
    ⟨rfl, meets_always _ _⟩
  have ordered := once.ordered
  revert ordered
  decide

end System

end Shoc.Comch

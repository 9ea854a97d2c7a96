/-
# A stopping server drains

`server::stop` asks every open connection to disconnect and then waits for the
connections to leave one by one; the last of them stops the server. Once the call has
returned no open connection is `CONNECTED`, and when no connection is open the server
has been stopped. Connections that arrive after the request are the one thing the
callbacks do not turn away, and such a connection stays open unasked.
-/

import Shoc.Comch.Sound

namespace Shoc.Comch

open Common Data Transition

/-- The connection under a handle was asked to disconnect, or has disconnected. -/
def Objects.Leaving (o : Objects) (handle : Handle) : Prop :=
  (o.channels (o.connectionAt handle)).state ≠ .connected

@[simp] def Frame.returnsFromStop : Frame → Option Unit
  | .stopReturn => some ()
  | _ => none

/-- The calls of `server::stop` that are through with their loop. -/
def returning : View Unit := ⟨Frame.returnsFromStop, fun _ => rfl, fun _ => rfl⟩

@[simp] theorem look_returning : returning.look = Frame.returnsFromStop := rfl

namespace System

variable {s t : System} {label : Label}

/-- No connection is open that was not asked to leave, and with none open the server was
stopped. -/
structure Drained (s : System) : Prop where
  leaving : ∀ handle ∈ s.objects.openConnections, s.objects.Leaving handle
  stopped : s.objects.openConnections.entries = [] →
    ∃ idled active, .serverStop idled active ∈ s.log

/-- No connection arrives once the server was asked to stop. -/
def TurnsAway (s : System) : Label → Prop
  | .event (.connection _ successful _) => successful = true → s.objects.stopRequested = false
  | _ => True

instance (s : System) : ∀ label, Decidable (s.TurnsAway label)
  | .event (.connection _ _ _) => inferInstanceAs (Decidable (_ → _))
  | .event (.disconnection _ _) | .event (.message _ _) | .event (.newConsumer _ _)
  | .event (.expiredConsumer _ _)
  | .change _ _ | .call _ | .ret | .sdk _ | .tick => inferInstanceAs (Decidable True)

/-! ## The invariant -/

/-- A call of `server::stop` is through with its loop. -/
def Asked (s : System) : Prop := s.objects.stopReturned = true ∨ returning.see s.stack ≠ []

/-- What is known of calls of `server::stop` in their loop and after it. -/
structure Draining (s : System) : Prop where
  requested : stoppingServer.see s.stack ≠ [] ∨ s.Asked → s.objects.stopRequested = true
  treated : ∀ next ∈ stoppingServer.see s.stack,
    s.objects.openConnections.Treated s.objects.Leaving next
  drained : s.Asked → s.Drained

/-- A connection that is asked to disconnect leaves. -/
theorem leaving_disconnect (s : System) (handle : Handle) :
    (s.disconnect (s.objects.connectionAt handle)).objects.Leaving handle := by
  rw [Objects.Leaving, objects_disconnect, Objects.connectionAt_setChannel,
    Objects.channels_setChannel, if_pos rfl]
  split
  · exact ConnectionState.noConfusion
  · assumption

/-- A connection that arrives after the loop is not turned away. -/
theorem Draining.not_turnsAway (draining : s.Draining) (asked : s.Asked) {handle : Handle}
    {placement : Placement Handle} :
    ¬ s.TurnsAway (.event (.connection handle true placement)) := by
  intro turnsAway
  have free := turnsAway rfl
  rw [draining.requested (.inr asked)] at free
  contradiction

section DrainingStep

variable (sound : s.Sound) (draining : s.Draining) (turnsAway : s.TurnsAway label)
  (taken : Taken s label t)

include taken

theorem requested_step (draining : s.Draining)
    (going : stoppingServer.see t.stack ≠ [] ∨ t.Asked) : t.objects.stopRequested = true := by
  have known := draining.requested
  cases taken with
  | stopServer => rfl
  | connectionsEnded before =>
    rw [objects_doStopIfAble]
    exact known (.inl (by simp [before]))
  | connectionAsked before =>
    rw [objects_disconnect]
    exact known (.inl (by simp [before]))
  | stopReturned before => exact known (.inr (.inr (by simp [before])))
  | connect =>
    rw [objects_wake]
    exact known (by simpa [Asked, Objects.connect] using going)
  | _ => simpa using known (by simpa [Asked, *] using going)

/-- A call of `server::stop` was through with its loop before, or gets there in this step, and
then it stops a server without open connections. -/
theorem asked_or_ended (asked : t.Asked) :
    s.Asked ∨ ∃ reached ∈ stoppingServer.see s.stack,
      s.objects.openConnections.Valid reached ∧ reached.target = none ∧ t.objects = s.objects ∧
        (s.objects.openConnections.entries = [] →
          ∃ idled active, .serverStop idled active ∈ t.log) := by
  cases taken with
  | @connectionsEnded reached callers before valid ended =>
    refine .inr ⟨reached, by simp [before], valid, ended, objects_doStopIfAble, fun empty => ?_⟩
    rw [log_doStopIfAble, if_pos empty]
    exact ⟨_, _, List.mem_cons_self⟩
  | stopReturned before => exact .inl (.inr (by simp [before]))
  | connect => exact .inl (by simpa [Asked, Objects.connect] using asked)
  | _ => exact .inl (by simpa [Asked, *] using asked)

include sound

/-- A connection that leaves goes on to leave. -/
theorem leaving_step (handle : Handle) (present : handle ∈ s.objects.openConnections)
    (leaving : s.objects.Leaving handle) : t.objects.Leaving handle := by
  have role := sound.listed.role handle present
  have counted := sound.numbered.connection _ handle role
  rw [Objects.Leaving, taken.connectionsMoved.connectionAt_eq present]
  refine (taken.channelMoved _).unconnected_stays leaving (fun client => ?_) counted
  rw [role] at client
  contradiction

/-- While something is in progress connections only leave the registry, so what a traversal
of it has treated stays treated. -/
theorem treated_kept (busy : s.stack ≠ []) {next : Cursor Handle}
    (treated : s.objects.openConnections.Treated s.objects.Leaving next) :
    t.objects.openConnections.Treated t.objects.Leaving next := by
  have kept := treated.mono (leaving_step sound taken)
  cases taken.connectionsMoved with
  | kept same => exact same ▸ kept
  -- Connections arrive only when nothing is in progress
  | connected empty => contradiction
  | erased _ _ closed =>
    rw [closed]
    exact kept.erase _

include draining

theorem treated_step (next : Cursor Handle) (mem : next ∈ stoppingServer.see t.stack) :
    t.objects.openConnections.Treated t.objects.Leaving next := by
  have kept : ∀ going ∈ stoppingServer.see s.stack,
      t.objects.openConnections.Treated t.objects.Leaving going := fun going found =>
    treated_kept sound taken (by rintro empty; simp [empty] at found)
      (draining.treated going found)
  cases taken with
  -- The loop begins, or goes on
  | stopServer =>
    simp only [stopServer, View.see_cons, look_stoppingServer, Frame.stopsConnections,
      Option.toList_some, List.singleton_append, List.mem_cons] at mem
    obtain rfl | found := mem
    · exact Registry.treated_first
    · exact kept next found
  | @connectionAsked reached handle callers before valid target =>
    obtain rfl | found : next = s.objects.openConnections.next reached ∨
        next ∈ stoppingServer.see callers := by simpa using mem
    · -- The loop has just asked the connection it was at
      have leaves := leaving_disconnect s handle
      have treated := kept reached (by simp [before])
      simp only [objects_disconnect] at treated leaves ⊢
      exact treated.next valid target leaves
    · exact kept next (by simp [before, found])
  | _ => exact kept next (by simp_all)

include turnsAway

theorem leavingAll_step (asked : t.Asked) (handle : Handle)
    (present : handle ∈ t.objects.openConnections) : t.objects.Leaving handle := by
  obtain before | ⟨reached, loop, valid, ended, same, -⟩ := asked_or_ended taken asked
  · obtain earlier | ⟨-, -, -, placement, rfl⟩ := taken.connectionsMoved.open_or_new present
    · exact leaving_step sound taken handle earlier
        ((draining.drained before).leaving handle earlier)
    -- The condition: no connection arrives any more
    · exact (draining.not_turnsAway before turnsAway).elim
  -- The loop is over: all that is open was passed
  · rw [same] at present ⊢
    exact (draining.treated reached loop).all valid ended handle present

omit sound turnsAway in
theorem stopped_step (asked : t.Asked) (empty : t.objects.openConnections.entries = []) :
    ∃ idled active, .serverStop idled active ∈ t.log := by
  obtain before | ⟨reached, -, -, -, same, stops⟩ := asked_or_ended taken asked
  · have kept : s.objects.openConnections.entries = [] →
        ∃ idled active, .serverStop idled active ∈ t.log := by
      intro earlier
      obtain ⟨idled, active, mem⟩ := (draining.drained before).stopped earlier
      exact ⟨idled, active, taken.mem_log mem⟩
    cases taken.connectionsMoved with
    | kept same => exact kept (same ▸ empty)
    | @connected handle _ _ _ _ _ opened =>
      rw [opened] at empty
      exact (Registry.eq_nil_iff.mp empty handle (Registry.mem_insert.mpr (.inl rfl))).elim
    -- The last connection stops the server
    | erased _ _ _ _ _ stops => exact stops (draining.requested (.inr before)) empty
  -- Nothing was open, and `server::stop` stops the server itself
  · exact stops (same ▸ empty)

theorem draining_step : t.Draining where
  requested := requested_step taken draining
  treated := treated_step sound draining taken
  drained asked :=
    ⟨leavingAll_step sound draining turnsAway taken asked,
      stopped_step draining taken asked⟩

end DrainingStep

theorem draining_init : Draining {} := by
  refine ⟨?_, ?_, ?_⟩ <;> simp [Asked]

/-! ## Runs -/

/-- In every run in which no connection arrives once the server was asked to stop, the server
drains after `server::stop` has returned. -/
theorem stopped_server_drains (labels : List Label) (s : System)
    (run : Run step TurnsAway {} labels s) (returned : s.objects.stopReturned = true) :
    s.Drained := by
  have known := invariant_of_run Draining
    (fun _ _ _ sound draining turnsAway taken => draining_step sound draining turnsAway taken)
    run draining_init
  exact known.2.drained (.inl returned)

/-- The server is asked to stop while a connection has an active child. The child stops after
`server::stop` has returned, then the connection leaves, and last the server is stopped. -/
def drainedRun : List Label :=
  [.change .server .running, .event (.connection 1 true (.position 0)),
    .call (.create 0 (.position 0)), .change (.child 0) .running, .sdk .success,
    .call .stopServer, .tick, .tick, .sdk .inProgress, .tick, .tick, .tick,
    .change (.child 0) .idle, .sdk .success, .tick, .tick, .sdk .inProgress]

theorem stopped_server_drains_drainedRun :
    ∃ s, Run step TurnsAway {} drainedRun s ∧ s.objects.stopReturned = true ∧ s.Drained ∧
      s.objects.openConnections.entries = [] := by
  have run : Run step TurnsAway {} drainedRun _ := ⟨rfl, by decide⟩
  exact ⟨_, run, rfl, stopped_server_drains drainedRun _ run rfl, rfl⟩

/-- A connection arrives after `server::stop` has returned, while an older one waits for its
child: it is open and nobody has asked it to disconnect. -/
theorem late_connection_stays_open :
    ¬ ∀ (labels : List Label) (s : System), Run step Always {} labels s →
      s.objects.stopReturned = true → s.Drained := by
  intro drains
  have drained := drains
    [.change .server .running, .event (.connection 1 true (.position 0)),
      .call (.create 0 (.position 0)), .change (.child 0) .running, .sdk .success,
      .call .stopServer, .tick, .tick, .sdk .inProgress, .tick, .tick, .tick,
      .event (.connection 2 true (.position 0))] _
    ⟨rfl, meets_always _ _⟩ rfl
  exact drained.leaving 2 (by decide) rfl

end System

end Shoc.Comch

/-
# Shutdown does not get stuck

`disconnect` and `stop` ask the children to stop and leave the rest to the last child
that stops: there is no other trigger. So as long as an object on which the call was
made is not torn down, either its teardown has been accepted, or there are children
left and all of them were asked to stop. Three things break this: a teardown call
that the SDK refuses, a child that is created after the request, and a client that
is stopped when it is not connected.
-/

import Shoc.Comch.Sound

namespace Shoc.Comch

open Common Data Transition

@[simp] def Frame.asks : Frame → Option (ChannelId × Cursor ChildId)
  | .stopAll c next => some (c, next)
  | _ => none

/-- The channels whose children are being asked to stop, and how far that has got. -/
def asking : View (ChannelId × Cursor ChildId) := ⟨Frame.asks, fun _ => rfl, fun _ => rfl⟩

@[simp] theorem look_asking : asking.look = Frame.asks := rfl

theorem mem_stopping_of_asking {c : ChannelId} {next : Cursor ChildId} {stack : List Frame}
    (mem : (c, next) ∈ asking.see stack) : c ∈ stopping.see stack := by
  obtain ⟨frame, present, look⟩ := asking.mem_see.mp mem
  refine stopping.mem_see.mpr ⟨frame, present, ?_⟩
  cases frame with
  | stopAll =>
    cases look
    rfl
  | _ => contradiction

namespace System

variable {s t : System} {label : Label}

/-- The SDK has taken on the teardown of a channel. -/
def TeardownAccepted (s : System) (c : ChannelId) : Prop :=
  ∃ err : DocaError, err.Accepted ∧
    (.serverDisconnected c err ∈ s.log ∨ .clientStopped c err ∈ s.log)

/-- All registered children of a channel were asked to stop. -/
def ChildrenAsked (s : System) (c : ChannelId) : Prop :=
  ∀ child ∈ (s.channel c).activeChildren, (s.child child).asked = true

/-- A further `disconnect` or `stop` goes through the teardown. -/
def Retries (s : System) (c : ChannelId) : Prop :=
  ∃ next, (s.disconnect c).stack = .stopAll c next :: s.stack

/-- Something will go on with the teardown of a channel: the call or what it has called is in
progress, the SDK has taken it on, a child that was asked to stop will signal it, or the user
can ask again. -/
def GoesOn (s : System) (c : ChannelId) : Prop :=
  (c ∈ stopping.see s.stack ∨ c ∈ calling.see s.stack) ∨ s.TeardownAccepted c ∨
    ((s.channel c).activeChildren.entries ≠ [] ∧ s.ChildrenAsked c) ∨ s.Retries c

/-- The SDK refuses no teardown, no child is created on a channel that disconnects, and a
client is not stopped before it is connected, or after it began to stop by itself. -/
def Cooperates (s : System) : Label → Prop
  | .sdk err => calling.see (s.stack.take 1) ≠ [] → err.Accepted
  | .call (.create c _) => (s.channel c).state ≠ .disconnecting
  | .call (.disconnect c) =>
      (s.channel c).role = .client → (s.channel c).base.idled = false →
        (s.channel c).requested = false → (s.channel c).state = .connected
  | _ => True

instance (s : System) : ∀ label, Decidable (s.Cooperates label)
  | .sdk _ => inferInstanceAs (Decidable (_ → _))
  | .call (.create _ _) => inferInstanceAs (Decidable (_ ≠ _))
  | .call (.disconnect _) => inferInstanceAs (Decidable (_ → _ → _ → _))
  | .call .stopServer | .call (.stopChild _) | .call .createClient | .call (.msgRecv _)
  | .call (.acceptConsumer _) | .call .accept | .call (.coAwait _ _) | .event _ | .change _ _
  | .ret | .tick => inferInstanceAs (Decidable True)

/-! ## The invariant -/

/-- What is known of channels that disconnect. -/
structure Shutdown (s : System) : Prop where
  running : ∀ c, (s.channel c).role = .client → (s.channel c).state ≠ .disconnected →
    (s.channel c).base.idled = false →
    (s.channel c).base.currentState = .running ∨ (s.channel c).base.currentState = .stopping
  requested : ∀ c, (s.channel c).role ≠ .client → (s.channel c).state = .disconnecting →
    (s.channel c).requested = true
  disconnects : ∀ c, (s.channel c).requested = true → ¬ (s.channel c).TornDown →
    (s.channel c).state = .disconnecting
  stops : ∀ c ∈ stopping.see s.stack, (s.channel c).state = .disconnecting ∨
    (s.channel c).state = .disconnected ∧ (s.channel c).TornDown
  starts : starting.see s.stack = [] ∨ ∃ c child placement callers,
    s.stack = .childStart c child placement :: callers ∧ starting.see callers = [] ∧
      (s.channel c).state ≠ .disconnecting
  created : ∀ c, ∀ child ∈ (s.channel c).activeChildren, child < s.objects.childCount
  treated : ∀ c next, (c, next) ∈ asking.see s.stack → (s.channel c).state = .disconnecting →
    (s.channel c).activeChildren.Treated (fun child => (s.child child).asked = true) next
  asked : ∀ c, (s.channel c).requested = true → ¬ (s.channel c).TornDown →
    c ∉ stopping.see s.stack → s.ChildrenAsked c
  accepted : ∀ c, (s.channel c).requested = true → ¬ (s.channel c).TornDown →
    c ∉ stopping.see s.stack → c ∉ calling.see s.stack →
    (s.channel c).activeChildren.entries = [] → s.TeardownAccepted c

/-- A child is started on a channel that does not disconnect. -/
theorem Shutdown.not_disconnecting_of_starts (shutdown : s.Shutdown) {c : ChannelId}
    {child : ChildId} {placement : Placement ChildId} {callers : List Frame}
    (before : s.stack = .childStart c child placement :: callers) :
    (s.channel c).state ≠ .disconnecting := by
  obtain none | ⟨c', child', placement', callers', onTop, -, up⟩ := shutdown.starts
  · simp [before] at none
  · rw [before] at onTop
    cases onTop
    exact up

/-- A client that disconnects is not reported to be anything but stopping. -/
theorem Shutdown.disconnecting_of_reported (shutdown : s.Shutdown) {c : ChannelId}
    {next : CtxState} {state : ConnectionState} (client : (s.channel c).role = .client)
    (alive : (s.channel c).base.idled = false) (leaves : (s.channel c).state = .disconnecting)
    (moved : next = .running ∧ state = .connected ∨ next = .stopping ∧ state = .disconnecting ∨
      next = .starting ∧ state = (s.channel c).state)
    (follows : (s.channel c).base.currentState.Follows next) : state = .disconnecting := by
  have current := shutdown.running c client (by simp [leaves]) alive
  obtain ⟨rfl, -⟩ | ⟨-, now⟩ | ⟨-, same⟩ := moved
  · obtain running | stopping := current
    · rw [running] at follows
      contradiction
    · rw [stopping] at follows
      contradiction
  · exact now
  · rw [same, leaves]

/-- What is asked for the first time is connected, if it is not torn down. -/
theorem Shutdown.requested_of_asks (shutdown : s.Shutdown) (sound : s.Sound)
    (cooperates : s.Cooperates label) {c : ChannelId} (asks : Asks s c label)
    (up : ¬ (s.channel c).TornDown) (left : (s.channel c).state ≠ .connected) :
    (s.channel c).requested = true := by
  obtain ⟨alive, connected⟩ := Channel.not_tornDown.mp up
  by_cases client : (s.channel c).role = .client
  · cases asks with
    -- The condition: a client is up when it is stopped for the first time
    | user handed =>
      by_contra fresh
      exact left (cooperates client (alive client) (by simpa using fresh))
    | @server handle next callers before present found =>
      have role := sound.listed.role handle present
      rw [found, client] at role
      contradiction
  · exact shutdown.requested c client
      (ConnectionState.eq_disconnecting left (connected client))

/-- Where a loop that asks the children has got to: it has just begun, or it has just asked the
child that it was at before. -/
theorem Taken.mem_asking (taken : Taken s label t) {c : ChannelId} {next : Cursor ChildId}
    (mem : (c, next) ∈ asking.see t.stack) :
    (c, next) ∈ asking.see s.stack ∨ next = (t.channel c).activeChildren.first ∨
      ∃ reached child, (c, reached) ∈ asking.see s.stack ∧
        (t.channel c).activeChildren.Valid reached ∧ reached.target = some child ∧
        (t.child child).asked = true ∧ next = (t.channel c).activeChildren.next reached := by
  cases taken with
  | @disconnect c' calm =>
    rw [View.see_disconnect, List.mem_append, List.mem_ite_nil_right] at mem
    obtain ⟨-, new⟩ | before := mem
    · obtain ⟨rfl, rfl⟩ : c = c' ∧ next = (s.channel c').activeChildren.first := by simpa using new
      exact .inr (.inl (by simp))
    · exact .inl before
  | @connectionAsked reached handle callers onTop =>
    rw [View.see_disconnect, List.mem_append, List.mem_ite_nil_right] at mem
    obtain ⟨-, new⟩ | before := mem
    · obtain ⟨rfl, rfl⟩ : c = s.objects.connectionAt handle ∧
          next = (s.channel (s.objects.connectionAt handle)).activeChildren.first := by
        simpa using new
      exact .inr (.inl (by simp))
    · exact .inl (by simpa [onTop] using before)
  | @stopAllAsked c' reached child callers onTop valid target =>
    obtain ⟨rfl, rfl⟩ | before : c = c' ∧ next = (s.channel c').activeChildren.next reached ∨
        (c, next) ∈ asking.see callers := by
      simpa using mem
    · refine .inr (.inr ⟨reached, child, by simp [onTop], ?_, target, by simp, by simp⟩)
      simpa using valid
    · exact .inl (by simp [onTop, before])
  | _ => exact .inl (by simp_all)

section ShutdownStep

variable (sound : s.Sound) (shutdown : s.Shutdown) (cooperates : s.Cooperates label)
  (taken : Taken s label t)

include taken

/-- What is not torn down now has not been so before. -/
theorem not_tornDown_before (numbered : s.Numbered) (c : ChannelId)
    (up : ¬ (t.channel c).TornDown) : ¬ (s.channel c).TornDown := fun down =>
  up ((taken.channelMoved c).tornDown_stays down (numbered.lt_of_tornDown down))

include shutdown

theorem running_step (c : ChannelId) (client : (t.channel c).role = .client)
    (up : (t.channel c).state ≠ .disconnected) (alive : (t.channel c).base.idled = false) :
    (t.channel c).base.currentState = .running ∨
      (t.channel c).base.currentState = .stopping := by
  have known := shutdown.running c
  have moved := taken.channelMoved c
  generalize t.channel c = channel at moved client up alive ⊢
  cases moved with
  | connected => contradiction
  | created | ended | released => exact (up rfl).elim
  | asked => exact known client (fun down => up (by simp [down])) alive
  | reported client notIdled moved follows =>
    obtain ⟨rfl, -⟩ | ⟨rfl, -⟩ | ⟨rfl, same⟩ := moved
    · exact .inl rfl
    · exact .inr rfl
    -- A client that is up does not start once more
    · obtain running | stopping := known client (same ▸ up) notIdled
      · rw [running] at follows
        contradiction
      · rw [stopping] at follows
        contradiction
  | idled => simp [ContextBase.report] at alive
  | _ => exact known client up alive

theorem requestedConnection_step (c : ChannelId) (connection : (t.channel c).role ≠ .client)
    (disconnects : (t.channel c).state = .disconnecting) : (t.channel c).requested = true := by
  have known := shutdown.requested c
  have moved := taken.channelMoved c
  generalize t.channel c = channel at moved connection disconnects ⊢
  cases moved with
  | created => exact (connection rfl).elim
  | connected | ended | released => contradiction
  | asked => rfl
  | reported client => exact (connection client).elim
  | _ => exact known connection disconnects

include sound

/-- A channel that disconnects goes on to do so until it is torn down. -/
theorem disconnecting_or_tornDown (c : ChannelId) (counted : c < s.objects.channelCount)
    (leaves : (s.channel c).state = .disconnecting) :
    (t.channel c).state = .disconnecting ∨
      (t.channel c).state = .disconnected ∧ (t.channel c).TornDown := by
  have moved := taken.channelMoved c
  generalize t.channel c = channel at moved ⊢
  cases moved with
  | created new | connected new => exact (counted.ne new).elim
  | asked =>
    simp only [leaves]
    exact .inl rfl
  | ended ends =>
    refine .inr ⟨rfl, Channel.tornDown_iff.mpr ⟨fun client => ?_, fun _ => rfl⟩⟩
    exact (sound.listed.connection_of_ends ends client).elim
  | reported client alive moved follows =>
    exact .inl (shutdown.disconnecting_of_reported client alive leaves moved follows)
  -- A client that is released was reported idle, so it is torn down
  | released before client =>
    refine .inr ⟨rfl, Channel.tornDown_iff.mpr ⟨fun _ => ?_, fun _ => rfl⟩⟩
    exact sound.listed.idled c (by simp [before]) client
  | _ => exact .inl leaves

theorem disconnects_step (cooperates : s.Cooperates label) (c : ChannelId)
    (requested : (t.channel c).requested = true)
    (up : ¬ (t.channel c).TornDown) : (t.channel c).state = .disconnecting := by
  have wasUp := not_tornDown_before taken sound.numbered c up
  have goesOn : (s.channel c).requested = true → (t.channel c).state = .disconnecting := by
    intro before
    have leaves := shutdown.disconnects c before wasUp
    have counted := sound.listed.requested c before
    exact (disconnecting_or_tornDown sound shutdown taken c counted leaves).resolve_right
      fun down => up down.2
  obtain before | ⟨asks, begun⟩ := (taken.channelMoved c).requested_or_asks requested
  · exact goesOn before
  · by_cases connected : (s.channel c).state = .connected
    · exact (begun connected).2
    · exact goesOn (shutdown.requested_of_asks sound cooperates asks wasUp connected)

theorem stops_step (c : ChannelId) (mem : c ∈ stopping.see t.stack) :
    (t.channel c).state = .disconnecting ∨
      (t.channel c).state = .disconnected ∧ (t.channel c).TornDown := by
  obtain before | ⟨-, -, now⟩ := taken.stopping_shifted.mem mem
  · have counted := sound.listed.counted c (mem_tearing_of_stopping before)
    obtain leaves | ⟨disconnected, down⟩ := shutdown.stops c before
    · exact disconnecting_or_tornDown sound shutdown taken c counted leaves
    · refine .inr ⟨?_, (taken.channelMoved c).tornDown_stays down counted⟩
      exact (taken.channelMoved c).disconnected_stays disconnected
        (Channel.tornDown_iff.mp down).1 counted
  · exact .inl now

theorem starts_step (cooperates : s.Cooperates label) :
    starting.see t.stack = [] ∨ ∃ c child placement callers,
      t.stack = .childStart c child placement :: callers ∧ starting.see callers = [] ∧
        (t.channel c).state ≠ .disconnecting := by
  obtain none | ⟨c, child, placement, callers, onTop, below, up⟩ := shutdown.starts
  · cases taken with
    | @create c placement calm =>
      exact .inr ⟨c, s.objects.childCount, placement, s.stack, rfl, none, cooperates⟩
    | _ => exact .inl (by simp_all)
  · -- Nobody but the child that is being started can do anything
    have unhanded := sound.starting.unhanded c child (by simp [onTop])
    cases taken with
    | faulted => exact .inr ⟨c, child, placement, callers, onTop, below, up⟩
    | childReported reports _ _ _ unheard | childIdled reports _ _ _ unheard =>
      obtain rfl : child = _ := by simpa [System.reports, onTop, eq_comm] using reports
      obtain rfl := unheard unhanded.2
      refine .inr ⟨c, child, placement, callers, ?_, below, by simpa using up⟩
      simp_all [stack_wake, stack_signalStoppedChild]
    | childAccepted before | childRefused before => exact .inl (by simp_all)
    | waited calm | disconnect calm | stopServer calm | create calm | stopChild calm
    | createClient calm =>
      have inSdk := calm (.childStart c child placement) (by rw [onTop, List.head?_cons])
      exact (inSdk trivial).elim
    | _ => simp_all [System.reports]

theorem created_step (c : ChannelId) (child : ChildId)
    (registered : child ∈ (t.channel c).activeChildren) : child < t.objects.childCount := by
  refine lt_of_lt_of_le ?_ taken.childCount_le
  obtain before | ⟨placement, callers, onTop⟩ :=
    (taken.channelMoved c).registered_or_started registered
  · exact shutdown.created c child before
  · exact sound.numbered.started c child (by simp [onTop])

/-- No child is registered with a channel that disconnects, so all that a traversal of its
children has passed stays asked. -/
theorem askedSoFar_kept (c : ChannelId) (next : Cursor ChildId)
    (mem : (c, next) ∈ asking.see s.stack) (disconnects : (t.channel c).state = .disconnecting) :
    (t.channel c).activeChildren.Treated (fun child => (t.child child).asked = true) next := by
  have stops := mem_stopping_of_asking mem
  have counted := sound.listed.counted c (mem_tearing_of_stopping stops)
  -- A channel that was torn down does not begin to disconnect again
  have before : (s.channel c).state = .disconnecting := by
    refine (shutdown.stops c stops).resolve_right fun ⟨disconnected, down⟩ => ?_
    rw [(taken.channelMoved c).disconnected_stays disconnected
      (Channel.tornDown_iff.mp down).1 counted] at disconnects
    contradiction
  have kept := (shutdown.treated c next mem before).mono fun child registered asked =>
    (taken.childMoved child).asked_stays asked (shutdown.created c child registered)
  have moved := taken.channelMoved c
  generalize t.channel c = channel at moved ⊢
  cases moved with
  | created new | connected new => exact (counted.ne new).elim
  -- The child that is registered belongs to another channel
  | joined onTop => exact (shutdown.not_disconnecting_of_starts onTop before).elim
  -- A child that stops is erased under the traversal
  | left => exact kept.erase _
  | _ => exact kept

theorem askedSoFar_step (c : ChannelId) (next : Cursor ChildId)
    (mem : (c, next) ∈ asking.see t.stack) (disconnects : (t.channel c).state = .disconnecting) :
    (t.channel c).activeChildren.Treated (fun child => (t.child child).asked = true) next := by
  have kept := fun next found => askedSoFar_kept sound shutdown taken c next found disconnects
  obtain before | rfl | ⟨reached, child, before, valid, target, asked, rfl⟩ := taken.mem_asking mem
  · exact kept next before
  · exact Registry.treated_first
  -- The loop has just asked the child it was at
  · exact (kept reached before).next valid target asked

omit sound in
/-- No child joins a channel that disconnects. -/
theorem registered_before (c : ChannelId) (disconnects : (s.channel c).state = .disconnecting)
    (child : ChildId) (registered : child ∈ (t.channel c).activeChildren) :
    child ∈ (s.channel c).activeChildren := by
  obtain before | ⟨placement, callers, onTop⟩ :=
    (taken.channelMoved c).registered_or_started registered
  · exact before
  · exact (shutdown.not_disconnecting_of_starts onTop disconnects).elim

include cooperates

/-- A channel whose shutdown is pending was so before, unless it is just being asked. -/
theorem pending_before (c : ChannelId) (requested : (t.channel c).requested = true)
    (up : ¬ (t.channel c).TornDown) (idle : c ∉ stopping.see t.stack) :
    (s.channel c).requested = true ∧ ¬ (s.channel c).TornDown := by
  have wasUp := not_tornDown_before taken sound.numbered c up
  refine ⟨?_, wasUp⟩
  obtain before | ⟨asks, begun⟩ := (taken.channelMoved c).requested_or_asks requested
  · exact before
  · exact shutdown.requested_of_asks sound cooperates asks wasUp
      fun connected => idle (begun connected).1

theorem asked_step (c : ChannelId) (requested : (t.channel c).requested = true)
    (up : ¬ (t.channel c).TornDown) (idle : c ∉ stopping.see t.stack) : t.ChildrenAsked c := by
  obtain ⟨wasRequested, wasUp⟩ := pending_before sound shutdown cooperates taken c requested up idle
  have disconnects := shutdown.disconnects c wasRequested wasUp
  have kept : s.ChildrenAsked c → t.ChildrenAsked c := fun asked child registered =>
    have registered := registered_before shutdown taken c disconnects child registered
    (taken.childMoved child).asked_stays (asked child registered)
      (shutdown.created c child registered)
  refine kept ?_
  by_cases stops : c ∈ stopping.see s.stack
  · -- The children were being asked before, so this step was the end of the loop
    obtain still | ⟨reached, callers, onTop, valid, ended, -⟩ :=
      taken.stopping_shifted.mem_or_leaves stops
    · exact (idle still).elim
    · exact (shutdown.treated c reached (by simp [onTop]) disconnects).all valid ended
  · exact shutdown.asked c wasRequested wasUp stops

theorem accepted_step (c : ChannelId) (requested : (t.channel c).requested = true)
    (up : ¬ (t.channel c).TornDown) (idle : c ∉ stopping.see t.stack)
    (answered : c ∉ calling.see t.stack) (empty : (t.channel c).activeChildren.entries = []) :
    t.TeardownAccepted c := by
  obtain ⟨wasRequested, wasUp⟩ := pending_before sound shutdown cooperates taken c requested up idle
  have disconnects := shutdown.disconnects c wasRequested wasUp
  -- The last child that leaves and the end of the loop both lead to a call
  have gone := ((taken.channelMoved c).empty_or_called empty disconnects
    (sound.listed.requested c wasRequested)).resolve_right answered
  have stopped : c ∉ stopping.see s.stack := by
    intro stops
    obtain still | ⟨reached, callers, -, -, -, called⟩ :=
      taken.stopping_shifted.mem_or_leaves stops
    · exact idle still
    · exact answered (called gone)
  by_cases calls : c ∈ calling.see s.stack
  · -- The call has just been answered, and the condition says how
    obtain still | ⟨err, rfl, onTop, logged⟩ := taken.calling_shifted.mem_or_leaves calls
    · exact (answered still).elim
    · exact ⟨err, cooperates (List.ne_nil_of_mem onTop), logged⟩
  · obtain ⟨err, accepted, mem⟩ := shutdown.accepted c wasRequested wasUp stopped calls gone
    exact ⟨err, accepted, mem.imp taken.mem_log taken.mem_log⟩

theorem shutdown_step : t.Shutdown where
  running := running_step shutdown taken
  requested := requestedConnection_step shutdown taken
  disconnects := disconnects_step sound shutdown taken cooperates
  stops := stops_step sound shutdown taken
  starts := starts_step sound shutdown taken cooperates
  created := created_step sound shutdown taken
  treated := askedSoFar_step sound shutdown taken
  asked := asked_step sound shutdown cooperates taken
  accepted := accepted_step sound shutdown cooperates taken

end ShutdownStep

theorem shutdown_init : Shutdown {} := by
  constructor <;> simp [Registry.mem_def]

/-! ## Runs -/

/-- In every run in which the SDK and the user cooperate, something goes on with every channel
on which `disconnect` or `stop` was called and that is not torn down. -/
theorem shutdown_goes_on (labels : List Label) (s : System)
    (run : Run step Cooperates {} labels s) (c : ChannelId)
    (requested : (s.channel c).requested = true) (up : ¬ (s.channel c).TornDown) : s.GoesOn c := by
  have known := invariant_of_run Shutdown
    (fun _ _ _ sound shutdown cooperates taken => shutdown_step sound shutdown cooperates taken)
    run shutdown_init
  have shutdown := known.2
  by_cases stops : c ∈ stopping.see s.stack
  · exact .inl (.inl stops)
  by_cases calls : c ∈ calling.see s.stack
  · exact .inl (.inr calls)
  by_cases empty : (s.channel c).activeChildren.entries = []
  · exact .inr (.inl (shutdown.accepted c requested up stops calls empty))
  · exact .inr (.inr (.inl ⟨empty, shutdown.asked c requested up stops⟩))

/-- A connection is disconnected that has a child, and the child takes its time. -/
def disconnectedWithChild : List Label :=
  [.event (.connection 1 true (.position 0)), .call (.create 0 (.position 0)),
    .change (.child 0) .running, .sdk .success, .call (.disconnect 0), .tick, .sdk .inProgress,
    .tick]

theorem shutdown_goes_on_disconnectedWithChild :
    ∃ s, Run step Cooperates {} disconnectedWithChild s ∧ (s.channel 0).requested = true ∧
      ¬ (s.channel 0).TornDown ∧ s.stack = [] ∧ s.GoesOn 0 := by
  have run : Run step Cooperates {} disconnectedWithChild _ := ⟨rfl, by decide⟩
  exact ⟨_, run, rfl, by decide, rfl,
    shutdown_goes_on disconnectedWithChild _ run 0 rfl (by decide)⟩

/-- The SDK refuses to disconnect a connection, which stays `DISCONNECTING`: no child is left
to try again, and a further `disconnect` does nothing. -/
theorem refused_disconnect_gets_stuck :
    ¬ ∀ (labels : List Label) (s : System), Run step Always {} labels s → ∀ c,
      (s.channel c).requested = true → ¬ (s.channel c).TornDown → s.GoesOn c := by
  intro neverStuck
  have goesOn := neverStuck
    [.event (.connection 1 true (.position 0)), .call (.disconnect 0), .tick, .sdk (.other 1)] _
    ⟨rfl, meets_always _ _⟩ 0 rfl (by decide)
  obtain inProgress | ⟨err, accepted, mem⟩ | ⟨children, -⟩ | ⟨next, retried⟩ := goesOn
  · revert inProgress
    decide
  · obtain rfl | rfl := accepted
    all_goals
      revert mem
      decide
  · exact children rfl
  · cases retried

end System

end Shoc.Comch

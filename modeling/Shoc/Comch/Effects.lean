/-
# What a step does to each part of the system

`Taken` lists what a step can do to the system as a whole. An invariant speaks of one
channel, one child, the map of open connections or one view of the stack, and most steps
leave these as they are. Here it is said once for each of them what a step can make of it,
and under which circumstances. The steps are told apart in this module; where an invariant
is shown to be preserved, only the changes of the part it speaks of are.
-/

import Shoc.Comch.Views

namespace Shoc.Comch

open Common Data

namespace System

variable {s t : System} {label : Label} {c : ChannelId} {child : ChildId} {handle : Handle}

/-! ## Objects that exist -/

theorem Taken.channelCount_le (taken : Taken s label t) :
    s.objects.channelCount ≤ t.objects.channelCount := by
  cases taken with
  | createClient => exact Nat.le_succ _
  | connect =>
    rw [objects_wake]
    exact Nat.le_succ _
  | _ => simp

theorem Taken.childCount_le (taken : Taken s label t) :
    s.objects.childCount ≤ t.objects.childCount := by
  cases taken with
  | create => exact Nat.le_succ _
  | connect =>
    rw [objects_wake]
    exact le_rfl
  | _ => simp

/-! ## One channel -/

/-- A connection ends: the peer has disconnected, or the SDK has done as it was told. -/
inductive Ends (s : System) (c : ChannelId) : Label → Prop
  | remote {handle : Handle} (empty : s.stack = [])
      (present : handle ∈ s.objects.openConnections)
      (found : s.objects.connectionAt handle = c) : Ends s c (.event (.disconnection handle true))
  | told {callers : List Frame} (before : s.stack = .serverDisconnect c :: callers) :
      Ends s c (.sdk .success)

/-- A channel is asked to disconnect, by user code or by the server, which stops. -/
inductive Asks (s : System) (c : ChannelId) : Label → Prop
  | user (handed : (s.channel c).handed = true) : Asks s c (.call (.disconnect c))
  | server {handle : Handle} {next : Cursor Handle} {callers : List Frame}
      (before : s.stack = .stopConnections next :: callers)
      (present : handle ∈ s.objects.openConnections)
      (found : s.objects.connectionAt handle = c) : Asks s c .tick

/-- What a step makes of a channel. -/
inductive ChannelMoved (s t : System) (c : ChannelId) (label : Label) : Channel → Prop
  | kept : ChannelMoved s t c label (s.channel c)
  | created (new : c = s.objects.channelCount) (counted : c < t.objects.channelCount) :
      ChannelMoved s t c label { role := .client }
  | connected {handle : Handle} (new : c = s.objects.channelCount)
      (counted : c < t.objects.channelCount) (present : handle ∈ t.objects.openConnections)
      (found : t.objects.connectionAt handle = c) :
      ChannelMoved s t c label { role := .connection handle, state := .connected, handed := true }
  | asked (asks : Asks s c label)
      (begun : (s.channel c).state = .connected → c ∈ stopping.see t.stack) :
      ChannelMoved s t c label
        { s.channel c with
          requested := true
          state :=
            if (s.channel c).state = .connected then .disconnecting else (s.channel c).state }
  | ended (ends : Ends s c label) (after : t.stack = .releaseMessages c :: s.stack.tail) :
      ChannelMoved s t c label { s.channel c with state := .disconnected }
  | reported {next : CtxState} {state : ConnectionState} (client : (s.channel c).role = .client)
      (alive : (s.channel c).base.idled = false)
      (moved : next = .running ∧ state = .connected ∨ next = .stopping ∧ state = .disconnecting ∨
        next = .starting ∧ state = (s.channel c).state)
      (follows : (s.channel c).base.currentState.Follows next) :
      ChannelMoved s t c label
        { s.channel c with base := (s.channel c).base.report next, state }
  | idled (same : label = .change (.client c) .idle) (client : (s.channel c).role = .client)
      (counted : c < s.objects.channelCount) (after : t.stack = .releaseMessages c :: s.stack) :
      ChannelMoved s t c label { s.channel c with base := (s.channel c).base.report .idle }
  | released {callers : List Frame} (before : s.stack = .releaseConsumers c :: callers)
      (client : (s.channel c).role = .client) :
      ChannelMoved s t c label
        { s.channel c with
          state := .disconnected
          base := { (s.channel c).base with handle := false } }
  | accepted {callers : List Frame} (before : s.stack = .clientStart c :: callers) :
      ChannelMoved s t c label { s.channel c with handed := true }
  | refused {callers : List Frame} (before : s.stack = .clientStart c :: callers) :
      ChannelMoved s t c label
        { s.channel c with base := { (s.channel c).base with handle := false } }
  | joined {child : ChildId} {placement : Placement ChildId} {callers : List Frame}
      (before : s.stack = .childStart c child placement :: callers) :
      ChannelMoved s t c label
        { s.channel c with
          activeChildren := (s.channel c).activeChildren.insert child placement }
  | left {child : ChildId} (gone : (t.child child).base.handle = false)
      (called : (s.channel c).state = .disconnecting →
        ((s.channel c).activeChildren.erase child).entries = [] → c ∈ calling.see t.stack) :
      ChannelMoved s t c label
        { s.channel c with activeChildren := (s.channel c).activeChildren.erase child }

namespace ChannelMoved

theorem of_eq (same : t.objects.channels = s.objects.channels) :
    ChannelMoved s t c label (t.channel c) := by
  rw [channel, same]
  exact .kept

/-- A step that changes one channel. -/
theorem of_update {c' : ChannelId} {channel : Channel}
    (updated : t.objects.channels = Function.update s.objects.channels c' channel)
    (here : c = c' → ChannelMoved s t c label channel) :
    ChannelMoved s t c label (t.channel c) := by
  rw [System.channel, updated, Function.update_apply]
  split
  · exact here ‹_›
  · exact .kept

end ChannelMoved

/-- The objects when a child has become idle and its parent has dealt with it. -/
theorem objects_childIdled (child : ChildId) (base : ContextBase) (waiting : Waiting)
    (coro : Option Coro) :
    (((s.setChild child { s.child child with base }).wake waiting coro).signalStoppedChild
        child).objects =
      (s.objects.setChild child { s.child child with base }).setChannel (s.child child).parent
        { s.channel (s.child child).parent with
          activeChildren := (s.channel (s.child child).parent).activeChildren.erase child } := by
  simp

/-- What a step can make of a channel. -/
theorem Taken.channelMoved (taken : Taken s label t) (c : ChannelId) :
    ChannelMoved s t c label (t.channel c) := by
  cases taken with
  | disconnect calm handed =>
    refine .of_update (congrArg Objects.channels objects_disconnect) ?_
    rintro rfl
    refine .asked (.user handed) fun up => ?_
    rw [View.see_disconnect, if_pos up]
    exact List.mem_cons_self
  | createClient =>
    refine .of_update rfl fun new => .created new ?_
    exact new.trans_lt (Nat.lt_succ_self _)
  | @connect handle placement waiting coro empty fresh alive =>
    refine .of_update (congrArg Objects.channels (objects_wake coro)) fun new => ?_
    refine .connected new ?_ ?_ ?_
    · rw [objects_wake]
      exact new.trans_lt (Nat.lt_succ_self _)
    · rw [objects_wake]
      exact Registry.mem_insert.mpr (.inl rfl)
    · rw [objects_wake, new]
      exact Function.update_self ..
  | disconnection empty present =>
    refine .of_update rfl ?_
    rintro rfl
    exact .ended (.remote empty present rfl) (by simp [empty])
  | childIdled =>
    refine .of_update (congrArg Objects.channels (objects_childIdled ..)) ?_
    rintro rfl
    exact .left (by simp) (fun leaves last => by simp [leaves, last])
  | clientReported reports client created alive moved follows =>
    refine .of_update (congrArg Objects.channels (objects_wake _)) ?_
    rintro rfl
    exact .reported client alive moved follows
  | clientIdled reports client created alive =>
    refine .of_update rfl ?_
    rintro rfl
    exact .idled rfl client created rfl
  | clientReleased before client =>
    refine .of_update (congrArg Objects.channels (objects_wake _)) ?_
    rintro rfl
    exact .released before client
  | @connectionAsked next handle callers before valid target =>
    refine .of_update (congrArg Objects.channels objects_disconnect) ?_
    rintro rfl
    refine .asked (.server before (valid.2 handle target) rfl) fun up => ?_
    rw [View.see_disconnect, if_pos up]
    exact List.mem_cons_self
  | childAccepted before =>
    refine .of_update rfl ?_
    rintro rfl
    exact .joined before
  | clientAccepted before =>
    refine .of_update rfl ?_
    rintro rfl
    exact .accepted before
  | clientRefused before =>
    refine .of_update rfl ?_
    rintro rfl
    exact .refused before
  | disconnectSucceeded before =>
    refine .of_update rfl ?_
    rintro rfl
    exact .ended (.told before) (by rw [before]; rfl)
  | _ => exact .of_eq (by simp)

namespace ChannelMoved

variable {channel : Channel} (moved : ChannelMoved s t c label channel)

include moved

theorem role_eq (counted : c < s.objects.channelCount) : channel.role = (s.channel c).role := by
  cases moved with
  | created new | connected new => exact (counted.ne new).elim
  | _ => rfl

/-- A connection was one before, or it is new. -/
theorem connection_or_new (role : channel.role = .connection handle) :
    (s.channel c).role = .connection handle ∨
      c = s.objects.channelCount ∧ c < t.objects.channelCount ∧
        handle ∈ t.objects.openConnections ∧ t.objects.connectionAt handle = c ∧
        channel.state = .connected := by
  cases moved with
  | created => cases role
  | connected new counted present found =>
    cases role
    exact .inr ⟨new, counted, present, found, rfl⟩
  | _ => exact .inl role

theorem handed_stays (handed : (s.channel c).handed = true)
    (counted : c < s.objects.channelCount) : channel.handed = true := by
  cases moved with
  | created new | connected new => exact (counted.ne new).elim
  | accepted => rfl
  | _ => exact handed

/-- A connection that is disconnected is not new. -/
theorem connection_of_disconnected (connection : channel.role ≠ .client)
    (disconnected : channel.state = .disconnected) : (s.channel c).role ≠ .client := by
  cases moved with
  | created => exact (connection rfl).elim
  | connected => contradiction
  | _ => exact connection

/-- A connection that is disconnected was so before, or ends in this step. -/
theorem disconnected_or_ends (disconnected : channel.state = .disconnected)
    (role : (s.channel c).role ≠ .client) (counted : c < s.objects.channelCount) :
    (s.channel c).state = .disconnected ∨
      Ends s c label ∧ t.stack = .releaseMessages c :: s.stack.tail := by
  cases moved with
  | created new | connected new => exact (counted.ne new).elim
  | ended ends after => exact .inr ⟨ends, after⟩
  | asked =>
    simp only at disconnected
    split at disconnected
    · contradiction
    · exact .inl disconnected
  | reported client | released _ client => exact (role client).elim
  | _ => exact .inl disconnected

/-- A channel that has been torn down stays disconnected. -/
theorem disconnected_stays (disconnected : (s.channel c).state = .disconnected)
    (down : (s.channel c).role = .client → (s.channel c).base.idled = true)
    (counted : c < s.objects.channelCount) : channel.state = .disconnected := by
  cases moved with
  | created new | connected new => exact (counted.ne new).elim
  | ended | released => rfl
  | asked =>
    simp only [disconnected]
    rfl
  | reported client alive =>
    rw [down client] at alive
    contradiction
  | _ => exact disconnected

/-- A channel that has been torn down does not become connected again. -/
theorem unconnected_stays (left : (s.channel c).state ≠ .connected)
    (down : (s.channel c).role = .client → (s.channel c).base.idled = true)
    (counted : c < s.objects.channelCount) : channel.state ≠ .connected := by
  cases moved with
  | created new | connected new => exact (counted.ne new).elim
  | ended | released => exact ConnectionState.noConfusion
  | asked =>
    simp only [if_neg left]
    exact left
  | reported client alive =>
    rw [down client] at alive
    contradiction
  | _ => exact left

/-- A client that is idle was so before, or is just reported to be. -/
theorem idled_or_reported (idled : channel.base.idled = true) :
    (s.channel c).base.idled = true ∨
      label = .change (.client c) .idle ∧ c < s.objects.channelCount ∧
        t.stack = .releaseMessages c :: s.stack := by
  cases moved with
  | created | connected => contradiction
  | reported client alive moved =>
    obtain ⟨rfl, -⟩ | ⟨rfl, -⟩ | ⟨rfl, -⟩ := moved
    all_goals simp [ContextBase.report, alive] at idled
  | idled same client counted after => exact .inr ⟨same, counted, after⟩
  | _ => exact .inl idled

theorem idled_stays (idled : (s.channel c).base.idled = true)
    (counted : c < s.objects.channelCount) : channel.base.idled = true := by
  cases moved with
  | created new | connected new => exact (counted.ne new).elim
  | reported | idled => simp [ContextBase.report, idled]
  | _ => exact idled

theorem tornDown_stays (down : (s.channel c).TornDown) (counted : c < s.objects.channelCount) :
    channel.TornDown := by
  obtain ⟨idled, disconnected⟩ := Channel.tornDown_iff.mp down
  rw [Channel.tornDown_iff, moved.role_eq counted]
  refine ⟨fun client => moved.idled_stays (idled client) counted, fun connection => ?_⟩
  exact moved.disconnected_stays (disconnected connection) (absurd · connection) counted

/-- A channel is torn down only together with the beginning of a loop. -/
theorem tornDown_or_releases (down : channel.TornDown) :
    (s.channel c).TornDown ∨ ∃ callers, t.stack = .releaseMessages c :: callers := by
  cases moved with
  | created | connected => contradiction
  | asked =>
    obtain ⟨idled, disconnected⟩ := Channel.tornDown_iff.mp down
    refine .inl (Channel.tornDown_iff.mpr ⟨idled, fun connection => ?_⟩)
    have after := disconnected connection
    simp only at after
    split at after
    · contradiction
    · exact after
  | ended _ after | idled _ _ _ after => exact .inr ⟨_, after⟩
  | reported client alive moved =>
    have idled := (Channel.tornDown_iff.mp down).1 client
    obtain ⟨rfl, -⟩ | ⟨rfl, -⟩ | ⟨rfl, -⟩ := moved
    all_goals simp [ContextBase.report, alive] at idled
  | released _ client =>
    refine .inl (Channel.tornDown_iff.mpr ⟨(Channel.tornDown_iff.mp down).1, ?_⟩)
    exact fun connection => (connection client).elim
  | _ => exact .inl down

/-- A channel on which `disconnect` or `stop` was called is just being asked, if it was not asked
before. One that is connected then begins to disconnect. -/
theorem requested_or_asks (requested : channel.requested = true) :
    (s.channel c).requested = true ∨
      Asks s c label ∧ ((s.channel c).state = .connected →
        c ∈ stopping.see t.stack ∧ channel.state = .disconnecting) := by
  cases moved with
  | created | connected => contradiction
  | asked asks begun => exact .inr ⟨asks, fun up => ⟨begun up, if_pos up⟩⟩
  | _ => exact .inl requested

/-- A child is registered until it has stopped. -/
theorem registered_stays (registered : child ∈ (s.channel c).activeChildren)
    (counted : c < s.objects.channelCount) :
    child ∈ channel.activeChildren ∨ (t.child child).base.handle = false := by
  cases moved with
  | created new | connected new => exact (counted.ne new).elim
  | joined => exact .inl (Registry.mem_insert.mpr (.inr registered))
  | @left other gone =>
    by_cases same : child = other
    · exact .inr (same ▸ gone)
    · exact .inl (Registry.mem_erase.mpr ⟨same, registered⟩)
  | _ => exact .inl registered

/-- A registered child was so before, unless its start has just ended. -/
theorem registered_or_started (registered : child ∈ channel.activeChildren) :
    child ∈ (s.channel c).activeChildren ∨
      ∃ placement callers, s.stack = .childStart c child placement :: callers := by
  cases moved with
  | created | connected => cases registered
  | joined before =>
    obtain rfl | earlier := Registry.mem_insert.mp registered
    · exact .inr ⟨_, _, before⟩
    · exact .inl earlier
  | left => exact .inl (Registry.mem_erase.mp registered).2
  | _ => exact .inl registered

/-- A registry without entries stays so, unless a child has just been started. -/
theorem empty_or_started (empty : (s.channel c).activeChildren.entries = []) :
    channel.activeChildren.entries = [] ∨
      ∃ child placement callers, s.stack = .childStart c child placement :: callers := by
  cases moved with
  | created | connected => exact .inl rfl
  | joined before => exact .inr ⟨_, _, _, before⟩
  | left => exact .inl (Registry.entries_erase_of_nil empty)
  | _ => exact .inl empty

/-- When the last child leaves a channel that disconnects, the channel is torn down. -/
theorem empty_or_called (empty : channel.activeChildren.entries = [])
    (leaves : (s.channel c).state = .disconnecting) (counted : c < s.objects.channelCount) :
    (s.channel c).activeChildren.entries = [] ∨ c ∈ calling.see t.stack := by
  cases moved with
  | created new | connected new => exact (counted.ne new).elim
  | joined => exact (Registry.eq_nil_iff.mp empty _ (Registry.mem_insert.mpr (.inl rfl))).elim
  | left _ called => exact .inr (called leaves empty)
  | _ => exact .inl empty

end ChannelMoved

/-! ## One child -/

/-- What a step makes of a child. -/
inductive ChildMoved (s t : System) (child : ChildId) (label : Label) : Child → Prop
  | kept : ChildMoved s t child label (s.child child)
  | created {c : ChannelId} {placement : Placement ChildId}
      (same : label = .call (.create c placement)) (new : child = s.objects.childCount)
      (handed : (s.channel c).handed = true) (starts : (c, child) ∈ starting.see t.stack) :
      ChildMoved s t child label { parent := c }
  | asked : ChildMoved s t child label { s.child child with asked := true }
  | reported {next : CtxState} (alive : (s.child child).base.handle = true) :
      ChildMoved s t child label
        { s.child child with base := (s.child child).base.report next }
  | idled :
      ChildMoved s t child label
        { s.child child with
          base := { (s.child child).base.report .idle with handle := false } }
  | accepted {c : ChannelId} (popped : starting.see s.stack = (c, child) :: starting.see t.stack) :
      ChildMoved s t child label { s.child child with handed := true }
  | refused {c : ChannelId} (popped : starting.see s.stack = (c, child) :: starting.see t.stack) :
      ChildMoved s t child label
        { s.child child with base := { (s.child child).base with handle := false } }

namespace ChildMoved

theorem of_eq (same : t.objects.children = s.objects.children) :
    ChildMoved s t child label (t.child child) := by
  rw [System.child, same]
  exact .kept

/-- A step that changes one child. -/
theorem of_update {other : ChildId} {value : Child}
    (updated : t.objects.children = Function.update s.objects.children other value)
    (here : child = other → ChildMoved s t child label value) :
    ChildMoved s t child label (t.child child) := by
  rw [System.child, updated, Function.update_apply]
  split
  · exact here ‹_›
  · exact .kept

end ChildMoved

/-- What a step can make of a child. -/
theorem Taken.childMoved (taken : Taken s label t) (child : ChildId) :
    ChildMoved s t child label (t.child child) := by
  cases taken with
  | create calm handed =>
    refine .of_update rfl fun new => .created rfl new handed ?_
    simp [new]
  | stopChild =>
    refine .of_update (congrArg Objects.children (objects_stopContext ..)) ?_
    rintro rfl
    exact .asked
  | stopAllAsked =>
    refine .of_update (congrArg Objects.children (objects_stopContext ..)) ?_
    rintro rfl
    exact .asked
  | childReported reports alive =>
    refine .of_update (congrArg Objects.children (objects_wake _)) ?_
    rintro rfl
    exact .reported alive
  | childIdled =>
    refine .of_update (congrArg Objects.children (objects_childIdled ..)) ?_
    rintro rfl
    exact .idled
  | childAccepted before =>
    refine .of_update rfl ?_
    rintro rfl
    exact .accepted (by rw [before]; rfl)
  | childRefused before =>
    refine .of_update rfl ?_
    rintro rfl
    exact .refused (by rw [before]; rfl)
  | connect =>
    refine .of_eq ?_
    rw [objects_wake]
    rfl
  | _ => exact .of_eq (by simp)

/-- Every child existed before or is just being created. -/
theorem Taken.existed_or_created (taken : Taken s label t) (child : ChildId)
    (counted : child < t.objects.childCount) :
    child < s.objects.childCount ∨
      ∃ c placement, label = .call (.create c placement) ∧ (s.channel c).handed = true ∧
        t.child child = { parent := c } ∧ (c, child) ∈ starting.see t.stack := by
  cases taken with
  | create calm handed =>
    obtain earlier | rfl := Nat.lt_succ_iff_lt_or_eq.mp counted
    · exact .inl earlier
    · refine .inr ⟨_, _, rfl, handed, ?_, by simp⟩
      exact Function.update_self ..
  | connect =>
    rw [objects_wake] at counted
    exact .inl counted
  | _ => exact .inl (by simpa using counted)

namespace ChildMoved

variable {value : Child} (moved : ChildMoved s t child label value)

include moved

theorem parent_eq (counted : child < s.objects.childCount) :
    value.parent = (s.child child).parent := by
  cases moved with
  | created _ new => exact (counted.ne new).elim
  | _ => rfl

theorem handed_stays (handed : (s.child child).handed = true)
    (counted : child < s.objects.childCount) : value.handed = true := by
  cases moved with
  | created _ new => exact (counted.ne new).elim
  | accepted => rfl
  | _ => exact handed

/-- A child that is gone stays so. -/
theorem gone_stays (gone : (s.child child).base.handle = false)
    (counted : child < s.objects.childCount) : value.base.handle = false := by
  cases moved with
  | created _ new => exact (counted.ne new).elim
  | reported alive =>
    rw [gone] at alive
    contradiction
  | idled | refused => rfl
  | _ => exact gone

/-- A child that was asked to stop stays so. -/
theorem asked_stays (asked : (s.child child).asked = true)
    (counted : child < s.objects.childCount) : value.asked = true := by
  cases moved with
  | created _ new => exact (counted.ne new).elim
  | asked => rfl
  | _ => exact asked

end ChildMoved

/-! ## The open connections -/

/-- What a step makes of `open_connections_`. -/
inductive ConnectionsMoved (s t : System) (label : Label) : Prop
  | kept (same : t.objects.openConnections = s.objects.openConnections)
      (values : t.objects.connectionAt = s.objects.connectionAt)
  | connected {handle : Handle} {placement : Placement Handle} (empty : s.stack = [])
      (same : label = .event (.connection handle true placement))
      (fresh : handle ∉ s.objects.openConnections) (alive : t.objects.server.idled = false)
      (opened : t.objects.openConnections = s.objects.openConnections.insert handle placement)
      (values : t.objects.connectionAt =
        Function.update s.objects.connectionAt handle s.objects.channelCount)
      (role : (t.channel s.objects.channelCount).role = .connection handle)
  | erased {c : ChannelId} {handle : Handle} {callers : List Frame}
      (before : s.stack = .releaseConsumers c :: callers)
      (role : (s.channel c).role = .connection handle)
      (closed : t.objects.openConnections = s.objects.openConnections.erase handle)
      (values : t.objects.connectionAt = s.objects.connectionAt)
      (popped : releasing.see s.stack = c :: releasing.see t.stack)
      (stopped : s.objects.stopRequested = true → t.objects.openConnections.entries = [] →
        ∃ idled active, .serverStop idled active ∈ t.log)

/-- What a step can make of `open_connections_`. -/
theorem Taken.connectionsMoved (taken : Taken s label t) : ConnectionsMoved s t label := by
  cases taken with
  | @connect handle placement waiting coro empty fresh alive =>
    refine .connected empty rfl fresh ?_ (congrArg Objects.openConnections (objects_wake coro))
      (congrArg Objects.connectionAt (objects_wake coro)) ?_
    · rw [objects_wake]
      exact alive
    · simp [Objects.connect]
  | connectionReleased before role =>
    refine .erased before role (by simp) (by simp) (by simp [before]) fun requested last => ?_
    rw [log_serverSignalDisconnect, if_pos ⟨by simpa using requested, by simpa using last⟩]
    exact ⟨_, _, List.mem_append_left _ List.mem_cons_self⟩
  | _ => exact .kept (by simp) (by simp)

namespace ConnectionsMoved

variable (moved : ConnectionsMoved s t label)

include moved

/-- A connection that is open is found where it was. -/
theorem connectionAt_eq (present : handle ∈ s.objects.openConnections) :
    t.objects.connectionAt handle = s.objects.connectionAt handle := by
  cases moved with
  | kept _ values | erased _ _ _ values => rw [values]
  | connected _ _ fresh _ _ values =>
    rw [values, Function.update_of_ne]
    rintro rfl
    exact fresh present

/-- A connection stays open until it has been released. -/
theorem open_or_released (present : handle ∈ s.objects.openConnections) :
    handle ∈ t.objects.openConnections ∨
      ∃ c callers, s.stack = .releaseConsumers c :: callers ∧
        (s.channel c).role = .connection handle ∧
        releasing.see s.stack = c :: releasing.see t.stack := by
  cases moved with
  | kept same => exact .inl (same ▸ present)
  | connected _ _ _ _ opened =>
    rw [opened]
    exact .inl (Registry.mem_insert.mpr (.inr present))
  | @erased c gone callers before role closed values popped =>
    by_cases same : handle = gone
    · subst same
      exact .inr ⟨c, callers, before, role, popped⟩
    · rw [closed]
      exact .inl (Registry.mem_erase.mpr ⟨same, present⟩)

/-- An open connection was open before, or the event is its arrival. -/
theorem open_or_new (present : handle ∈ t.objects.openConnections) :
    handle ∈ s.objects.openConnections ∨
      s.stack = [] ∧ t.objects.connectionAt handle = s.objects.channelCount ∧
        (t.channel s.objects.channelCount).role = .connection handle ∧
        ∃ placement, label = .event (.connection handle true placement) := by
  cases moved with
  | kept same => exact .inl (same ▸ present)
  | connected empty same _ _ opened values role =>
    rw [opened] at present
    obtain rfl | earlier := Registry.mem_insert.mp present
    · rw [values]
      exact .inr ⟨empty, Function.update_self .., role, _, same⟩
    · exact .inl earlier
  | erased _ _ closed =>
    rw [closed] at present
    exact .inl (Registry.mem_erase.mp present).2

end ConnectionsMoved

/-! ## The views of the stack -/

/-- What a step does to what a view shows: nothing, or it adds an entry, or it takes the latest
one away. -/
inductive Shifted {α : Type} (Enters Leaves : α → Prop) (before after : List α) : Prop
  | kept (same : after = before)
  | entered (entry : α) (enters : Enters entry) (pushed : after = entry :: before)
  | left (entry : α) (leaves : Leaves entry) (popped : before = entry :: after)

namespace Shifted

variable {α : Type} {Enters Leaves : α → Prop} {before after : List α} {entry : α}

theorem mem (shifted : Shifted Enters Leaves before after) (shown : entry ∈ after) :
    entry ∈ before ∨ Enters entry := by
  cases shifted with
  | kept same => exact .inl (same ▸ shown)
  | entered new enters pushed =>
    rw [pushed] at shown
    obtain rfl | earlier := List.mem_cons.mp shown
    · exact .inr enters
    · exact .inl earlier
  | left gone leaves popped =>
    rw [popped]
    exact .inl (List.mem_cons_of_mem _ shown)

theorem mem_or_leaves (shifted : Shifted Enters Leaves before after) (shown : entry ∈ before) :
    entry ∈ after ∨ Leaves entry := by
  cases shifted with
  | kept same => exact .inl (same ▸ shown)
  | entered new enters pushed =>
    rw [pushed]
    exact .inl (List.mem_cons_of_mem _ shown)
  | left gone leaves popped =>
    rw [popped] at shown
    obtain rfl | later := List.mem_cons.mp shown
    · exact .inr leaves
    · exact .inl later

/-- What is in a relation with all that is there before it stays so. -/
theorem pairwise {R : α → α → Prop} (shifted : Shifted Enters Leaves before after)
    (known : before.Pairwise R) (related : ∀ new, Enters new → ∀ earlier ∈ before, R new earlier) :
    after.Pairwise R := by
  cases shifted with
  | kept same => exact same ▸ known
  | entered new enters pushed =>
    rw [pushed, List.pairwise_cons]
    exact ⟨related new enters, known⟩
  | left gone leaves popped =>
    rw [popped] at known
    exact known.of_cons

end Shifted

/-- A child enters when it is created. When it leaves it is registered, or it is gone. -/
theorem Taken.starting_shifted (taken : Taken s label t) :
    Shifted
      (fun (c, child) => child = s.objects.childCount ∧ child < t.objects.childCount ∧
        t.child child = { parent := c })
      (fun (c, child) => child ∈ (t.channel c).activeChildren ∨
        (t.child child).base.handle = false)
      (starting.see s.stack) (starting.see t.stack) := by
  cases taken with
  | create =>
    refine .entered _ ⟨rfl, Nat.lt_succ_self _, ?_⟩ rfl
    exact Function.update_self ..
  | childAccepted before =>
    refine .left _ (.inl ?_) (by rw [before]; rfl)
    simp
  | childRefused before =>
    refine .left _ (.inr ?_) (by rw [before]; rfl)
    simp
  | _ => exact .kept (by simp_all)

theorem Taken.startingClients_shifted (taken : Taken s label t) :
    Shifted (· < t.objects.channelCount) (fun _ => True) (startingClients.see s.stack)
      (startingClients.see t.stack) := by
  cases taken with
  | createClient => exact .entered _ (Nat.lt_succ_self _) rfl
  | clientAccepted before | clientRefused before => exact .left _ trivial (by rw [before]; rfl)
  | _ => exact .kept (by simp_all)

/-- The accepters of a channel begin to be released: a connection has ended, or a client is
idle. -/
inductive Releases (s t : System) (c : ChannelId) (label : Label) : Prop
  | connection (ends : Ends s c label) (now : (t.channel c).state = .disconnected)
      (kept : (t.channel c).activeChildren = (s.channel c).activeChildren)
  | client (same : label = .change (.client c) .idle) (client : (s.channel c).role = .client)
      (created : c < s.objects.channelCount) (alive : (s.channel c).base.idled = false)
      (now : (t.channel c).base.idled = true)
      (kept : (t.channel c).activeChildren = (s.channel c).activeChildren)
      (state : (t.channel c).state = (s.channel c).state)

/-- A connection that leaves is open no more, a client is disconnected. -/
theorem Taken.releasing_shifted (taken : Taken s label t) :
    Shifted (Releases s t · label)
      (fun c => (∀ handle, (s.channel c).role = .connection handle →
          handle ∉ t.objects.openConnections) ∧
        ((s.channel c).role = .client → (t.channel c).state = .disconnected))
      (releasing.see s.stack) (releasing.see t.stack) := by
  cases taken with
  | disconnection empty present =>
    exact .entered _ (.connection (.remote empty present rfl) (by simp) (by simp)) rfl
  | disconnectSucceeded before =>
    exact .entered _ (.connection (.told before) (by simp) (by simp)) (by rw [before]; rfl)
  | clientIdled reports client created alive =>
    refine .entered _ (.client rfl client created alive ?_ (by simp) (by simp)) rfl
    simp [ContextBase.report]
  | @connectionReleased c handle waiting coro callers before role =>
    refine .left c ⟨fun handle' same => ?_, fun client => ?_⟩ (by simp [before])
    · cases role.symm.trans same
      simp
    · cases role.symm.trans client
  | @clientReleased c waiting coro callers before client =>
    refine .left c ⟨fun handle same => ?_, fun _ => by simp⟩ (by simp [before])
    cases client.symm.trans same
  | _ => exact .kept (by simp_all)

/-- What `disconnect` and `stop` do to a channel that is connected. -/
theorem disconnect_of_connected (up : (s.channel c).state = .connected) :
    ((s.disconnect c).channel c).state = .disconnecting ∧
      stopping.see (s.disconnect c).stack = c :: stopping.see s.stack := by
  constructor
  · simp [show (s.objects.channels c).state = .connected from up]
  · rw [View.see_disconnect, if_pos up]
    rfl

theorem stopping_disconnect_of_not (left : (s.channel c).state ≠ .connected) :
    stopping.see (s.disconnect c).stack = stopping.see s.stack := by
  rw [View.see_disconnect, if_neg left]
  rfl

/-- The children of a channel begin to be asked when the channel is. When that ends, none is left
that was not asked, and without children the channel is torn down. -/
theorem Taken.stopping_shifted (taken : Taken s label t) :
    Shifted
      (fun c => Asks s c label ∧ (s.channel c).state = .connected ∧
        (t.channel c).state = .disconnecting)
      (fun c => ∃ next callers, s.stack = .stopAll c next :: callers ∧
        (s.channel c).activeChildren.Valid next ∧ next.target = none ∧
        ((s.channel c).activeChildren.entries = [] → c ∈ calling.see t.stack))
      (stopping.see s.stack) (stopping.see t.stack) := by
  cases taken with
  | @disconnect c calm handed =>
    by_cases up : (s.channel c).state = .connected
    · obtain ⟨now, pushed⟩ := disconnect_of_connected up
      exact .entered c ⟨.user handed, up, now⟩ pushed
    · exact .kept (stopping_disconnect_of_not up)
  | @connectionAsked next handle callers before valid target =>
    have rest : stopping.see s.stack = stopping.see callers := by rw [before]; rfl
    rw [rest]
    by_cases up : (s.channel (s.objects.connectionAt handle)).state = .connected
    · obtain ⟨now, pushed⟩ := disconnect_of_connected (s := { s with
        stack := .stopConnections (s.objects.openConnections.next next) :: callers }) up
      exact .entered _ ⟨.server before (valid.2 handle target) rfl, up, now⟩ pushed
    · exact .kept (stopping_disconnect_of_not up)
  | @stopAllEnded c next callers before valid ended =>
    refine .left c ⟨next, callers, before, valid, ended, fun empty => ?_⟩ ?_
    · rw [View.see_disconnectIfAble, if_pos empty]
      simp
    · simp [before]
  | _ => exact .kept (by simp_all)

/-- The SDK is told to tear down a channel that has no children left: the last one has become
idle, or there is none when all were asked to stop. -/
inductive Calls (s t : System) (c : ChannelId) (label : Label) : Prop
  | lastChild {child : ChildId} (same : label = .change (.child child) .idle)
      (created : child < s.objects.childCount) (parent : (s.child child).parent = c)
      (leaves : (s.channel c).state = .disconnecting)
      (last : ((s.channel c).activeChildren.erase child).entries = [])
      (now : (t.channel c).state = .disconnecting)
      (empty : (t.channel c).activeChildren.entries = [])
  | loopEnded {next : Cursor ChildId} {callers : List Frame}
      (before : s.stack = .stopAll c next :: callers)
      (empty : (t.channel c).activeChildren.entries = [])

theorem Calls.activeChildren_eq_nil (calls : Calls s t c label) :
    (t.channel c).activeChildren.entries = [] := by
  cases calls with
  | lastChild _ _ _ _ _ _ empty => exact empty
  | loopEnded _ empty => exact empty

/-- What a view shows when a child has become idle and its parent has dealt with it. -/
theorem see_childIdled {α : Type} (v : View α) (child : ChildId) (base : ContextBase)
    (waiting : Waiting) (coro : Option Coro) :
    v.see (((s.setChild child { s.child child with base }).wake waiting coro).signalStoppedChild
        child).stack =
      (if (s.channel (s.child child).parent).state = .disconnecting ∧
          ((s.channel (s.child child).parent).activeChildren.erase child).entries = [] then
        v.teardown (s.child child).parent (s.channel (s.child child).parent).role
      else []) ++ v.see s.stack := by
  simp

/-- The child that becomes idle is the last one of a channel that disconnects. -/
theorem Calls.of_last {waiting : Waiting} {coro : Option Coro} {base : ContextBase}
    (created : child < s.objects.childCount)
    (leaves : (s.channel (s.child child).parent).state = .disconnecting)
    (last : ((s.channel (s.child child).parent).activeChildren.erase child).entries = []) :
    Calls s
      (((s.setChild child { s.child child with base }).wake waiting coro).signalStoppedChild child)
      (s.child child).parent (.change (.child child) .idle) := by
  refine .lastChild rfl created rfl leaves last ?_ ?_
  · rw [System.channel, objects_childIdled]
    simpa using leaves
  · rw [System.channel, objects_childIdled]
    simpa using last

/-- A channel that leaves has been answered. -/
theorem Taken.calling_shifted (taken : Taken s label t) :
    Shifted (Calls s t · label)
      (fun c => ∃ err, label = .sdk err ∧ c ∈ calling.see (s.stack.take 1) ∧
        (.serverDisconnected c err ∈ t.log ∨ .clientStopped c err ∈ t.log))
      (calling.see s.stack) (calling.see t.stack) := by
  cases taken with
  | @childIdled child waiting coro reports alive created =>
    by_cases last : (s.channel (s.child child).parent).state = .disconnecting ∧
        ((s.channel (s.child child).parent).activeChildren.erase child).entries = []
    · refine .entered _ (.of_last created last.1 last.2) ?_
      rw [see_childIdled, if_pos last]
      simp
    · refine .kept ?_
      rw [see_childIdled, if_neg last]
      rfl
  | @stopAllEnded c next callers before =>
    have rest : calling.see s.stack = calling.see callers := by rw [before]; rfl
    rw [rest]
    by_cases empty : (s.channel c).activeChildren.entries = []
    · refine .entered c (.loopEnded before (by simpa using empty)) ?_
      rw [View.see_disconnectIfAble, if_pos empty]
      simp
    · refine .kept ?_
      rw [View.see_disconnectIfAble, if_neg empty]
      rfl
  | @disconnectFailed c callers err before =>
    exact .left c ⟨err, rfl, by simp [before], .inl (by simp)⟩ (by simp [before])
  | @disconnectSucceeded c callers before =>
    exact .left c ⟨.success, rfl, by simp [before], .inl (by simp)⟩ (by simp [before])
  | @clientStopReturned c callers err before =>
    exact .left c ⟨err, rfl, by simp [before], .inr (by simp)⟩ (by simp [before])
  | _ => exact .kept (by simp_all)

/-- `doca_comch_server_disconnect` is called for connections only. -/
theorem Taken.disconnecting_shifted (taken : Taken s label t) :
    Shifted (fun c => Calls s t c label ∧ (s.channel c).role ≠ .client) (fun _ => True)
      (disconnecting.see s.stack) (disconnecting.see t.stack) := by
  cases taken with
  | @childIdled child waiting coro reports alive created =>
    by_cases last : (s.channel (s.child child).parent).state = .disconnecting ∧
        ((s.channel (s.child child).parent).activeChildren.erase child).entries = []
    · by_cases client : (s.channel (s.child child).parent).role = .client
      · refine .kept ?_
        rw [see_childIdled, if_pos last, View.teardown, if_pos client]
        rfl
      · refine .entered _ ⟨.of_last created last.1 last.2, client⟩ ?_
        rw [see_childIdled, if_pos last, View.teardown, if_neg client]
        rfl
    · refine .kept ?_
      rw [see_childIdled, if_neg last]
      rfl
  | @stopAllEnded c next callers before =>
    have rest : disconnecting.see s.stack = disconnecting.see callers := by rw [before]; rfl
    rw [rest, View.see_disconnectIfAble]
    by_cases empty : (s.channel c).activeChildren.entries = []
    · by_cases client : (s.channel c).role = .client
      · refine .kept ?_
        rw [if_pos empty, View.teardown, if_pos client]
        rfl
      · refine .entered c ⟨.loopEnded before (by simpa using empty), client⟩ ?_
        rw [if_pos empty, View.teardown, if_neg client]
        rfl
    · exact .kept (by rw [if_neg empty]; rfl)
  | disconnectFailed before | disconnectSucceeded before =>
    exact .left _ trivial (by rw [before]; rfl)
  | _ => exact .kept (by simp_all)

/-- A channel that is being torn down was so before, or something has just begun for it. -/
theorem Taken.mem_tearing (taken : Taken s label t) (mem : c ∈ tearing.see t.stack) :
    c ∈ tearing.see s.stack ∨ (Asks s c label ∧ (t.channel c).state = .disconnecting) ∨
      Calls s t c label ∨ Releases s t c label := by
  obtain stops | calls | releases := mem_tearing_iff.mp mem
  · obtain old | ⟨asks, -, now⟩ := taken.stopping_shifted.mem stops
    · exact .inl (mem_tearing_of_stopping old)
    · exact .inr (.inl ⟨asks, now⟩)
  · obtain old | called := taken.calling_shifted.mem calls
    · exact .inl (mem_tearing_iff.mpr (.inr (.inl old)))
    · exact .inr (.inr (.inl called))
  · obtain old | begins := taken.releasing_shifted.mem releases
    · exact .inl (mem_tearing_of_releasing old)
    · exact .inr (.inr (.inr begins))

/-! ## The server and the log -/

/-- The server is idle from the moment on when it is reported to be. -/
theorem Taken.server_idled (taken : Taken s label t) (idled : t.objects.server.idled = true) :
    s.objects.server.idled = true ∨
      label = .change .server .idle ∧ t.stack = .releaseConnections :: s.stack := by
  cases taken with
  | serverReported reports alive goesOn => simp [ContextBase.report, alive, goesOn] at idled
  | serverIdled => exact .inr ⟨rfl, rfl⟩
  | connect =>
    rw [objects_wake] at idled
    exact .inl idled
  | _ => exact .inl (by simpa using idled)

/-- `server::stop` is only called by the user. -/
theorem Taken.stoppingServer_eq_nil (taken : Taken s label t)
    (outside : stoppingServer.see s.stack = []) :
    stoppingServer.see t.stack = [] ∨ label = .call .stopServer := by
  cases taken with
  | stopServer => exact .inr rfl
  | _ => exact .inl (by simp_all)

/-- What a step can write to the log. -/
inductive Logged (s t : System) (label : Label) : Call → Prop
  | serverDisconnect {c : ChannelId} (calls : Calls s t c label) :
      Logged s t label (.serverDisconnect c)
  | clientStop {c : ChannelId} (calls : Calls s t c label)
      (after : t.stack.head? = some (.clientStop c)) :
      Logged s t label (.clientStop c (t.channel c).base.idled (t.objects.activeOn c))
  | signalDisconnect {c : ChannelId} (ends : Ends s c label)
      (now : (t.channel c).state = .disconnected) : Logged s t label (.signalDisconnect c)
  | serverDisconnected {c : ChannelId} {err : DocaError} {callers : List Frame}
      (same : label = .sdk err) (before : s.stack = .serverDisconnect c :: callers)
      (now : err = .success → (t.channel c).state = .disconnected) :
      Logged s t label (.serverDisconnected c err)
  | clientStopped {c : ChannelId} {err : DocaError} : Logged s t label (.clientStopped c err)
  | serverStop {idled : Bool} {active : List ChildId}
      (all : active = t.objects.activeOnConnections)
      (closed : t.objects.openConnections.entries = []) :
      Logged s t label (.serverStop idled active)
  | serverStopped {err : DocaError} : Logged s t label (.serverStopped err)
  | erased {c : ChannelId} {handle : Handle} {callers : List Frame}
      (before : s.stack = .releaseConsumers c :: callers)
      (role : (s.channel c).role = .connection handle)
      (present : handle ∈ s.objects.openConnections) :
      Logged s t label (.erased (s.objects.connectionAt handle)
        (s.channel (s.objects.connectionAt handle)).activeChildren.entries)
  | removed {c : ChannelId} {callers : List Frame}
      (before : s.stack = .releaseConsumers c :: callers) :
      Logged s t label (.removed c (s.channel c).activeChildren.entries)

/-- A teardown call is logged as it is made. -/
theorem Logged.of_teardown (calls : Calls s t c label)
    (after : t.stack.head? = some ((t.channel c).role.teardown c)) :
    Logged s t label (t.objects.teardownCall c) := by
  unfold Objects.teardownCall
  split
  · exact .serverDisconnect calls
  · rename_i role
    rw [System.channel, role] at after
    exact .clientStop calls after

section ChildIdled

variable (child : ChildId) (base : ContextBase) (waiting : Waiting) (coro : Option Coro)

/-- The stack when a child has become idle and its parent has dealt with it. -/
theorem stack_childIdled :
    let t := ((s.setChild child { s.child child with base }).wake waiting coro).signalStoppedChild
      child
    t.stack =
      if (s.channel (s.child child).parent).state = .disconnecting ∧
          ((s.channel (s.child child).parent).activeChildren.erase child).entries = [] then
        (t.channel (s.child child).parent).role.teardown (s.child child).parent ::
          (coro.toList.map .coroutine ++ s.stack)
      else coro.toList.map .coroutine ++ s.stack := by
  simp [stack_signalStoppedChild, stack_wake]

/-- The log when a child has become idle and its parent has dealt with it. -/
theorem log_childIdled :
    let t := ((s.setChild child { s.child child with base }).wake waiting coro).signalStoppedChild
      child
    t.log =
      if (s.channel (s.child child).parent).state = .disconnecting ∧
          ((s.channel (s.child child).parent).activeChildren.erase child).entries = [] then
        t.objects.teardownCall (s.child child).parent :: s.log
      else s.log := by
  simp [log_signalStoppedChild, Objects.teardownCall]

end ChildIdled

theorem Taken.logged (taken : Taken s label t) {call : Call} (mem : call ∈ t.log) :
    call ∈ s.log ∨ Logged s t label call := by
  cases taken with
  | @childIdled child waiting coro reports alive created =>
    rw [log_childIdled] at mem
    split at mem
    · rename_i last
      obtain rfl | earlier := List.mem_cons.mp mem
      · refine .inr (.of_teardown (.of_last created last.1 last.2) ?_)
        rw [stack_childIdled, if_pos last]
        rfl
      · exact .inl earlier
    · exact .inl mem
  | @stopAllEnded c next callers before =>
    rw [log_disconnectIfAble] at mem
    split at mem
    · rename_i empty
      obtain rfl | earlier := List.mem_cons.mp mem
      · let popped : System := { s with stack := callers }
        have logged : Logged s (popped.disconnectIfAble c) .tick
            ((popped.disconnectIfAble c).objects.teardownCall c) := by
          refine .of_teardown (.loopEnded before (by simpa using empty)) ?_
          rw [stack_disconnectIfAble, if_pos empty]
          simp
        rw [objects_disconnectIfAble] at logged
        exact .inr logged
      · exact .inl earlier
    · exact .inl mem
  | disconnection empty present =>
    obtain rfl | earlier := List.mem_cons.mp mem
    · exact .inr (.signalDisconnect (.remote empty present rfl) (by simp))
    · exact .inl earlier
  | @connectionReleased c handle waiting coro callers before role =>
    simp only [log_serverSignalDisconnect, log_wake, objects_wake, List.mem_append,
      List.mem_ite_nil_right, List.mem_singleton] at mem
    obtain ⟨⟨-, last⟩, rfl⟩ | ⟨present, rfl⟩ | earlier := mem
    · exact .inr (.serverStop (by simp [Objects.activeOnConnections]) (by simpa using last))
    · rw [System.channel, objects_wake]
      exact .inr (.erased before role present)
    · exact .inl earlier
  | clientReleased before =>
    rw [log_wake] at mem
    obtain rfl | earlier := List.mem_cons.mp mem
    · exact .inr (.removed before)
    · exact .inl earlier
  | connectionsEnded before =>
    rw [log_doStopIfAble] at mem
    split at mem
    · rename_i empty
      obtain rfl | earlier := List.mem_cons.mp mem
      · exact .inr (.serverStop (by simp) (by simpa using empty))
      · exact .inl earlier
    · exact .inl mem
  | disconnectFailed before failed =>
    obtain rfl | earlier := List.mem_cons.mp mem
    · exact .inr (.serverDisconnected rfl before fun succeeded => (failed succeeded).elim)
    · exact .inl earlier
  | disconnectSucceeded before =>
    obtain rfl | later := List.mem_cons.mp mem
    · exact .inr (.signalDisconnect (.told before) (by simp))
    obtain rfl | earlier := List.mem_cons.mp later
    · exact .inr (.serverDisconnected rfl before fun _ => by simp)
    · exact .inl earlier
  | clientStopReturned =>
    obtain rfl | earlier := List.mem_cons.mp mem
    · exact .inr .clientStopped
    · exact .inl earlier
  | serverStopReturned =>
    obtain rfl | earlier := List.mem_cons.mp mem
    · exact .inr .serverStopped
    · exact .inl earlier
  | _ => exact .inl (by simpa using mem)

end System

end Shoc.Comch

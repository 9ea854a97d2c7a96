/-
# What holds in every reachable state

The facts about the channel system that need no assumption on its environment, in
three groups. Objects are numbered consecutively, and nothing refers to an object
that does not exist. A child that is being started is not known to anybody else,
so that its start is either what is going on right now or is over for the child.
And a connection is found under its handle until it is disconnected.
-/

import Shoc.Comch.Effects
import Shoc.Transition.Runs

namespace Shoc.Comch

open Common Data Transition

namespace System

variable {s t : System} {label : Label}

/-! ## Objects are numbered -/

/-- Whatever has been set up, or is being set up, has a number below the count. -/
structure Numbered (s : System) : Prop where
  connection : ∀ c handle, (s.channel c).role = .connection handle → c < s.objects.channelCount
  client : ∀ c ∈ startingClients.see s.stack, c < s.objects.channelCount
  channel : ∀ c, (s.channel c).handed = true → c < s.objects.channelCount
  idled : ∀ c, (s.channel c).base.idled = true → c < s.objects.channelCount
  started : ∀ c child, (c, child) ∈ starting.see s.stack → child < s.objects.childCount
  child : ∀ child, (s.child child).handed = true → child < s.objects.childCount
  parent : ∀ child < s.objects.childCount, (s.channel (s.child child).parent).handed = true

section NumberedStep

variable (numbered : s.Numbered) (taken : Taken s label t)

include numbered taken

theorem connection_step (c : ChannelId) (handle : Handle)
    (role : (t.channel c).role = .connection handle) : c < t.objects.channelCount := by
  obtain before | ⟨-, counted, -⟩ := (taken.channelMoved c).connection_or_new role
  · exact (numbered.connection c handle before).trans_le taken.channelCount_le
  · exact counted

theorem client_step (c : ChannelId) (found : c ∈ startingClients.see t.stack) :
    c < t.objects.channelCount := by
  obtain before | counted := taken.startingClients_shifted.mem found
  · exact (numbered.client c before).trans_le taken.channelCount_le
  · exact counted

theorem channel_step (c : ChannelId) (handed : (t.channel c).handed = true) :
    c < t.objects.channelCount := by
  have moved := taken.channelMoved c
  generalize t.channel c = channel at moved handed
  cases moved with
  | created _ counted | connected _ counted => exact counted
  | accepted before =>
    exact (numbered.client c (by simp [before])).trans_le taken.channelCount_le
  | _ => exact (numbered.channel c handed).trans_le taken.channelCount_le

theorem idled_step (c : ChannelId) (idled : (t.channel c).base.idled = true) :
    c < t.objects.channelCount := by
  refine lt_of_lt_of_le ?_ taken.channelCount_le
  obtain before | ⟨-, counted, -⟩ := (taken.channelMoved c).idled_or_reported idled
  · exact numbered.idled c before
  · exact counted

theorem started_step (c : ChannelId) (child : ChildId)
    (found : (c, child) ∈ starting.see t.stack) : child < t.objects.childCount := by
  obtain before | ⟨-, counted, -⟩ := taken.starting_shifted.mem found
  · exact (numbered.started c child before).trans_le taken.childCount_le
  · exact counted

theorem child_step (child : ChildId) (handed : (t.child child).handed = true) :
    child < t.objects.childCount := by
  have moved := taken.childMoved child
  generalize t.child child = value at moved handed
  cases moved with
  | created => contradiction
  | @accepted c popped =>
    have counted := numbered.started c child (by simp [popped])
    exact counted.trans_le taken.childCount_le
  | _ => exact (numbered.child child handed).trans_le taken.childCount_le

theorem parent_step (child : ChildId) (created : child < t.objects.childCount) :
    (t.channel (t.child child).parent).handed = true := by
  -- A child is created on a channel that was handed out
  have parent : (s.channel (t.child child).parent).handed = true := by
    obtain before | ⟨c, placement, -, handed, made, -⟩ := taken.existed_or_created child created
    · rw [(taken.childMoved child).parent_eq before]
      exact numbered.parent child before
    · rw [made]
      exact handed
  exact (taken.channelMoved _).handed_stays parent (numbered.channel _ parent)

theorem numbered_step : t.Numbered where
  connection := connection_step numbered taken
  client := client_step numbered taken
  channel := channel_step numbered taken
  idled := idled_step numbered taken
  started := started_step numbered taken
  child := child_step numbered taken
  parent := parent_step numbered taken

end NumberedStep

theorem Numbered.parent_lt (numbered : s.Numbered) (child : ChildId)
    (created : child < s.objects.childCount) :
    (s.child child).parent < s.objects.channelCount :=
  numbered.channel _ (numbered.parent child created)

theorem Numbered.lt_of_connection (numbered : s.Numbered) {c : ChannelId}
    (connection : (s.channel c).role ≠ .client) : c < s.objects.channelCount := by
  cases role : (s.channel c).role with
  | client => contradiction
  | connection handle => exact numbered.connection c handle role

theorem Numbered.lt_of_tornDown (numbered : s.Numbered) {c : ChannelId}
    (down : (s.channel c).TornDown) : c < s.objects.channelCount := by
  by_cases client : (s.channel c).role = .client
  · exact numbered.idled c ((Channel.tornDown_iff.mp down).1 client)
  · exact numbered.lt_of_connection client

/-! ## Children that are being started -/

/-- A frame that is not on top of the stack. Nothing calls back from
`doca_comch_server_disconnect`, and from the start of a child only the child itself
does, when it is idle again. -/
def Buried (o : Objects) : Frame → Prop
  | .serverDisconnect _ => False
  | .childStart _ child _ => (o.children child).base.handle = false
  | _ => True

/-- What is known about the children that are being started. -/
structure Starting (s : System) : Prop where
  vacant : s.waiting.Vacant s.objects
  unhanded : ∀ c child, (c, child) ∈ starting.see s.stack →
    (s.child child).parent = c ∧ (s.child child).handed = false
  once : ((starting.see s.stack).map Prod.snd).Nodup
  buried : ∀ frame ∈ s.stack.tail, Buried s.objects frame

theorem vacant_step (numbered : s.Numbered) (vacant : s.waiting.Vacant s.objects)
    (taken : Taken s label t) : t.waiting.Vacant t.objects := by
  have empty : t.waiting.Vacant s.objects := by
    cases taken with
    | waited calm after => simpa using after
    | connect _ _ _ after | clientReported _ _ _ _ _ _ after | serverIdled _ _ after
    | childReported _ _ _ _ _ after | childIdled _ _ _ after | serverReported _ _ _ after
    | messagesReleased _ after | connectionReleased _ _ after | clientReleased _ _ after
    | serverReleased _ after => simpa using after
    | disconnection | clientIdled | disconnectSucceeded => exact vacant
    | _ => simpa using vacant
  intro slot child same unhanded
  refine empty slot child same ?_
  -- A child that is not handed out in the end was not before
  by_contra handed
  have before : (s.child child).handed = true := by simpa using handed
  have after := (taken.childMoved child).handed_stays before (numbered.child child before)
  rw [show (t.child child).handed = false from unhanded] at after
  contradiction

theorem unhanded_step (numbered : s.Numbered) (starts : s.Starting)
    (taken : Taken s label t) (c : ChannelId) (child : ChildId)
    (found : (c, child) ∈ Comch.starting.see t.stack) :
    (t.child child).parent = c ∧ (t.child child).handed = false := by
  obtain before | ⟨-, -, made⟩ := taken.starting_shifted.mem found
  · obtain ⟨parent, unhanded⟩ := starts.unhanded c child before
    have counted := numbered.started c child before
    have moved := taken.childMoved child
    refine ⟨(moved.parent_eq counted).trans parent, ?_⟩
    generalize t.child child = value at moved
    cases moved with
    | created => rfl
    | @accepted c' popped =>
      -- The start of this child is over, and there is no other one
      have once := starts.once
      rw [popped, List.map_cons, List.nodup_cons] at once
      exact (once.1 (List.mem_map.mpr ⟨_, found, rfl⟩)).elim
    | _ => exact unhanded
  · rw [made]
    exact ⟨rfl, rfl⟩

theorem once_step (numbered : s.Numbered) (starts : s.Starting)
    (taken : Taken s label t) : ((Comch.starting.see t.stack).map Prod.snd).Nodup := by
  have known := List.pairwise_map.mp starts.once
  refine List.pairwise_map.mpr (taken.starting_shifted.pairwise known ?_)
  -- The child that is created has a number that no other one has
  rintro ⟨c, child⟩ ⟨new, -, -⟩ ⟨c', child'⟩ mem same
  have counted := numbered.started c' child' mem
  exact counted.ne (same.symm.trans new)

/-- At most one frame is pushed. -/
def Grows (stack grown : List Frame) : Prop := grown = stack ∨ ∃ top, grown = top :: stack

theorem Grows.mem {stack grown : List Frame} (grows : Grows stack grown) {frame : Frame}
    (mem : frame ∈ grown.tail) : frame ∈ stack := by
  obtain rfl | ⟨top, rfl⟩ := grows
  · exact List.mem_of_mem_tail mem
  · exact mem

theorem grows_wake {waiting : Waiting} {coro : Option Coro} :
    Grows s.stack (s.wake waiting coro).stack := by
  cases coro with
  | none => exact .inl rfl
  | some coro => exact .inr ⟨_, rfl⟩

theorem grows_ite {stack : List Frame} {top : Frame} {p : Prop} [Decidable p] :
    Grows stack (if p then top :: stack else stack) := by
  split
  · exact .inr ⟨top, rfl⟩
  · exact .inl rfl

theorem grows_stopContext {child : ChildId} : Grows s.stack (s.stopContext child).stack := by
  rw [stack_stopContext]
  exact grows_ite

theorem grows_disconnect {c : ChannelId} : Grows s.stack (s.disconnect c).stack := by
  rw [stack_disconnect]
  exact grows_ite

theorem grows_disconnectIfAble {c : ChannelId} : Grows s.stack (s.disconnectIfAble c).stack := by
  rw [stack_disconnectIfAble]
  exact grows_ite

theorem grows_signalStoppedChild {child : ChildId} :
    Grows s.stack (s.signalStoppedChild child).stack := by
  rw [stack_signalStoppedChild]
  exact grows_ite

theorem grows_doStopIfAble : Grows s.stack s.doStopIfAble.stack := by
  rw [stack_doStopIfAble]
  exact grows_ite

theorem grows_serverSignalDisconnect {handle : Handle} :
    Grows s.stack (s.serverSignalDisconnect handle).stack := by
  rw [stack_serverSignalDisconnect]
  exact grows_ite

/-- User code has control only where everything below is buried. -/
theorem buried_of_calm (calm : s.Calm) (buried : ∀ frame ∈ s.stack.tail, Buried s.objects frame)
    (frame : Frame) (mem : frame ∈ s.stack) : Buried s.objects frame := by
  cases stack : s.stack with
  | nil => simp [stack] at mem
  | cons top callers =>
    rw [stack] at mem
    obtain rfl | below := List.mem_cons.mp mem
    · have outside := calm frame (by simp [stack])
      cases frame <;> simp_all [Frame.InSdk, Buried]
    · exact buried frame (by simpa [stack] using below)

/-- The SDK calls back from no call but the ones that start or stop a context. -/
theorem buried_of_reports {ctx : CtxId} (reports : s.reports ctx = true)
    (buried : ∀ frame ∈ s.stack.tail, Buried s.objects frame) (frame : Frame)
    (mem : frame ∈ s.stack) :
    Buried s.objects frame ∨
      ∃ c child placement callers, s.stack = .childStart c child placement :: callers ∧
        frame = .childStart c child placement ∧ ctx = .child child := by
  cases stack : s.stack with
  | nil => simp [stack] at mem
  | cons top callers =>
    rw [stack] at mem
    obtain rfl | below := List.mem_cons.mp mem
    · cases frame <;> simp_all [System.reports, Buried]
    · exact .inl (buried frame (by simpa [stack] using below))

/-- What is buried stays so. -/
theorem buried_mono (numbered : s.Numbered) (taken : Taken s label t) {frame : Frame}
    (mem : frame ∈ s.stack) (buried : Buried s.objects frame) : Buried t.objects frame := by
  cases frame with
  | childStart c child placement =>
    have created := numbered.started c child (starting.mem_see.mpr ⟨_, mem, rfl⟩)
    exact (taken.childMoved child).gone_stays buried created
  | _ => exact buried

theorem buried_step (numbered : s.Numbered) (starts : s.Starting) (taken : Taken s label t) :
    ∀ frame ∈ t.stack.tail, Buried t.objects frame := by
  intro frame mem
  have mono : frame ∈ s.stack → Buried s.objects frame → Buried t.objects frame :=
    buried_mono numbered taken
  -- The code on top is not the SDK's, so nothing is in the middle of a start
  have onCalm : s.Calm → frame ∈ s.stack → Buried t.objects frame := fun calm below =>
    mono below (buried_of_calm calm starts.buried frame below)
  -- The top is taken off; what comes up was buried
  have onPop : ∀ {top callers}, s.stack = top :: callers → frame ∈ callers →
      Buried t.objects frame := by
    intro top callers before below
    refine mono ?_ (starts.buried frame ?_)
    · rw [before]
      exact List.mem_cons_of_mem top below
    · rwa [before]
  cases taken with
  | waited calm => exact onCalm calm (grows_wake.mem mem)
  | disconnect calm => exact onCalm calm (grows_disconnect.mem mem)
  | stopServer calm | create calm | createClient calm => exact onCalm calm mem
  | stopChild calm => exact onCalm calm (grows_stopContext.mem mem)
  | connect empty =>
    have below := grows_wake.mem mem
    simp [empty] at below
  | disconnection empty =>
    have below : frame ∈ s.stack := mem
    simp [empty] at below
  | faulted => exact mono (List.mem_of_mem_tail mem) (starts.buried frame mem)
  | suspended before | childStopReturned before | stopReturned before | childAccepted before
  | childRefused before  | clientAccepted before | clientRefused before | disconnectFailed before
  | clientStopReturned before | serverStopReturned before =>
    exact onPop before (List.mem_of_mem_tail mem)
  | messagesReleased before | disconnectSucceeded before => exact onPop before mem
  | stopAllEnded before => exact onPop before (grows_disconnectIfAble.mem mem)
  | clientReleased before | serverReleased before => exact onPop before (grows_wake.mem mem)
  | stopAllAsked before =>
    obtain rfl | below := List.mem_cons.mp (grows_stopContext.mem mem)
    · trivial
    · exact onPop before below
  | connectionsEnded before =>
    obtain rfl | below := List.mem_cons.mp (grows_doStopIfAble.mem mem)
    · trivial
    · exact onPop before below
  | connectionAsked before =>
    obtain rfl | below := List.mem_cons.mp (grows_disconnect.mem mem)
    · trivial
    · exact onPop before below
  | connectionReleased before =>
    obtain ⟨coro, -, rfl⟩ | below := mem_stack_wake.mp (grows_serverSignalDisconnect.mem mem)
    · trivial
    · exact onPop before below
  -- The SDK reports on a client or the server, so no start is on top
  | clientReported reports | serverReported reports =>
    have below := grows_wake.mem mem
    obtain buried | ⟨c, child, placement, callers, -, -, other⟩ :=
      buried_of_reports reports starts.buried frame below
    · exact mono below buried
    · cases other
  | clientIdled reports | serverIdled reports =>
    obtain buried | ⟨c, child, placement, callers, -, -, other⟩ :=
      buried_of_reports reports starts.buried frame mem
    · exact mono mem buried
    · cases other
  | @childReported child _ _ _ reports alive created goesOn unheard =>
    have below := grows_wake.mem mem
    obtain buried | ⟨c, _, placement, callers, before, -, same⟩ :=
      buried_of_reports reports starts.buried frame below
    · exact mono below buried
    · -- nobody waits for a child that is being started, so its start stays on top
      cases same
      have unhanded := (starts.unhanded c child (by simp [before])).2
      rw [unheard unhanded] at mem
      exact mono below (starts.buried frame mem)
  -- The child whose start is on top is gone from now on
  | childIdled reports =>
    obtain ⟨coro, -, rfl⟩ | below := mem_stack_wake.mp (grows_signalStoppedChild.mem mem)
    · trivial
    · obtain buried | ⟨c, child, placement, callers, before, rfl, same⟩ :=
        buried_of_reports reports starts.buried frame below
      · exact mono below buried
      · cases same
        simp [Buried, ContextBase.report]

theorem starting_step (numbered : s.Numbered) (starts : s.Starting) (taken : Taken s label t) :
    t.Starting where
  vacant := vacant_step numbered starts.vacant taken
  unhanded := unhanded_step numbered starts taken
  once := once_step numbered starts taken
  buried := buried_step numbered starts taken

/-- A start that is not on top of the stack is one of a child that is gone. -/
theorem Starting.gone_below (starts : s.Starting) {top : Frame} {callers : List Frame}
    (before : s.stack = top :: callers) {c : ChannelId} {child : ChildId}
    (mem : (c, child) ∈ Comch.starting.see callers) : (s.child child).base.handle = false := by
  obtain ⟨frame, below, same⟩ := (Comch.starting.mem_see).mp mem
  have buried := starts.buried frame (by rwa [before])
  cases frame with
  | childStart c' child' placement =>
    cases same
    exact buried
  | _ => cases same

/-- `doca_comch_server_disconnect` is only ever on top of the stack. -/
theorem Starting.not_disconnecting_below (starts : s.Starting) {top : Frame}
    {callers : List Frame} (before : s.stack = top :: callers) (c : ChannelId) :
    c ∉ disconnecting.see callers := by
  intro mem
  obtain ⟨frame, below, same⟩ := disconnecting.mem_see.mp mem
  have buried := starts.buried frame (by rwa [before])
  cases frame with
  | serverDisconnect c' => exact buried
  | _ => cases same

theorem Starting.not_disconnecting_of_calm (starts : s.Starting) (calm : s.Calm) (c : ChannelId) :
    c ∉ disconnecting.see s.stack := by
  intro mem
  obtain ⟨frame, below, same⟩ := disconnecting.mem_see.mp mem
  have buried := buried_of_calm calm starts.buried frame below
  cases frame with
  | serverDisconnect c' => exact buried
  | _ => cases same

/-! ## Connections and their handles -/

/-- A connection is in `open_connections_` until it is disconnected, and what is done for a
connection is done for the one that `open_connections_` has under the handle. Accepters are
released when the channel is torn down. -/
structure Listed (s : System) : Prop where
  role : ∀ handle ∈ s.objects.openConnections,
    (s.channel (s.objects.connectionAt handle)).role = .connection handle
  found : ∀ c handle, (s.channel c).role = .connection handle →
    (s.channel c).state ≠ .disconnected →
    handle ∈ s.objects.openConnections ∧ s.objects.connectionAt handle = c
  released : ∀ c handle, (s.channel c).role = .connection handle → c ∈ releasing.see s.stack →
    (s.channel c).state = .disconnected
  releases : ∀ handle ∈ s.objects.openConnections,
    (s.channel (s.objects.connectionAt handle)).state = .disconnected →
    s.objects.connectionAt handle ∈ releasing.see s.stack
  own : ∀ c handle, (s.channel c).role = .connection handle → c ∈ tearing.see s.stack →
    handle ∈ s.objects.openConnections → s.objects.connectionAt handle = c
  counted : ∀ c ∈ tearing.see s.stack, c < s.objects.channelCount
  requested : ∀ c, (s.channel c).requested = true → c < s.objects.channelCount
  called : ∀ c ∈ disconnecting.see s.stack, (s.channel c).role ≠ .client
  idled : ∀ c ∈ releasing.see s.stack, (s.channel c).role = .client →
    (s.channel c).base.idled = true

/-- What ends is a connection. -/
theorem Listed.connection_of_ends (listed : s.Listed) {c : ChannelId} (ends : Ends s c label) :
    (s.channel c).role ≠ .client := by
  cases ends with
  | @remote handle empty present found =>
    rw [← found, listed.role handle present]
    simp
  | told before => exact listed.called c (by simp [before])

/-- A channel that is asked to disconnect exists. -/
theorem Listed.lt_of_asks (listed : s.Listed) (numbered : s.Numbered) {c : ChannelId}
    (asks : Asks s c label) : c < s.objects.channelCount := by
  cases asks with
  | user handed => exact numbered.channel c handed
  | @server handle next callers before present found =>
    rw [← found]
    exact numbered.connection _ handle (listed.role handle present)

section ListedStep

variable (numbered : s.Numbered) (listed : s.Listed) (taken : Taken s label t)

include numbered listed taken

theorem role_step (handle : Handle) (present : handle ∈ t.objects.openConnections) :
    (t.channel (t.objects.connectionAt handle)).role = .connection handle := by
  obtain before | ⟨-, found, role, -⟩ := taken.connectionsMoved.open_or_new present
  · have role := listed.role handle before
    rw [taken.connectionsMoved.connectionAt_eq before,
      (taken.channelMoved _).role_eq (numbered.connection _ handle role)]
    exact role
  · rw [found]
    exact role

theorem found_step (c : ChannelId) (handle : Handle)
    (role : (t.channel c).role = .connection handle)
    (connected : (t.channel c).state ≠ .disconnected) :
    handle ∈ t.objects.openConnections ∧ t.objects.connectionAt handle = c := by
  obtain before | ⟨-, -, present, found, -⟩ := (taken.channelMoved c).connection_or_new role
  · -- The connection was not disconnected before, so it was found then
    have up : (s.channel c).state ≠ .disconnected := by
      intro down
      refine connected ((taken.channelMoved c).disconnected_stays down ?_
        (numbered.connection c handle before))
      simp [show (s.objects.channels c).role = .connection handle from before]
    obtain ⟨present, found⟩ := listed.found c handle before up
    refine ⟨?_, (taken.connectionsMoved.connectionAt_eq present).trans found⟩
    obtain stays | ⟨gone, callers, onTop, released, -⟩ :=
      taken.connectionsMoved.open_or_released present
    · exact stays
    · -- What is released is disconnected, so it is not this connection
      have own := listed.own gone handle released (by simp [onTop]) present
      have down := listed.released gone handle released (by simp [onTop])
      rw [← own, found] at down
      exact (up down).elim
  · exact ⟨present, found⟩

omit numbered in
theorem released_step (c : ChannelId) (handle : Handle)
    (role : (t.channel c).role = .connection handle) (mem : c ∈ releasing.see t.stack) :
    (t.channel c).state = .disconnected := by
  obtain before | begins := taken.releasing_shifted.mem mem
  · have counted := listed.counted c (mem_tearing_of_releasing before)
    rw [(taken.channelMoved c).role_eq counted] at role
    have down := listed.released c handle role before
    refine (taken.channelMoved c).disconnected_stays down ?_ counted
    simp [show (s.objects.channels c).role = .connection handle from role]
  · cases begins with
    | connection ends now => exact now
    | client _ client created =>
      rw [(taken.channelMoved c).role_eq created, client] at role
      contradiction

theorem releases_step (handle : Handle) (present : handle ∈ t.objects.openConnections)
    (disconnected : (t.channel (t.objects.connectionAt handle)).state = .disconnected) :
    t.objects.connectionAt handle ∈ releasing.see t.stack := by
  obtain before | ⟨-, found, role, -⟩ := taken.connectionsMoved.open_or_new present
  · have role := listed.role handle before
    have counted := numbered.connection _ handle role
    rw [taken.connectionsMoved.connectionAt_eq before] at disconnected ⊢
    obtain down | ⟨-, after⟩ := (taken.channelMoved _).disconnected_or_ends disconnected
      (by rw [role]; exact Role.noConfusion) counted
    · have releases := listed.releases handle before down
      exact (taken.releasing_shifted.mem_or_leaves releases).resolve_right
        fun leaves => leaves.1 handle role present
    · simp [after]
  -- A new connection is connected
  · rw [found] at disconnected
    obtain before | ⟨-, -, -, -, up⟩ := (taken.channelMoved _).connection_or_new role
    · exact ((numbered.connection _ handle before).ne rfl).elim
    · rw [up] at disconnected
      contradiction

theorem own_step (c : ChannelId) (handle : Handle)
    (role : (t.channel c).role = .connection handle) (mem : c ∈ tearing.see t.stack)
    (present : handle ∈ t.objects.openConnections) : t.objects.connectionAt handle = c := by
  have known : c ∈ tearing.see s.stack → t.objects.connectionAt handle = c := by
    intro before
    rw [(taken.channelMoved c).role_eq (listed.counted c before)] at role
    obtain earlier | ⟨empty, -⟩ := taken.connectionsMoved.open_or_new present
    · rw [taken.connectionsMoved.connectionAt_eq earlier]
      exact listed.own c handle role before earlier
    · simp [empty] at before
  have disconnects : (t.channel c).state = .disconnecting → t.objects.connectionAt handle = c :=
    fun now => (found_step numbered listed taken c handle role (by simp [now])).2
  obtain before | ⟨-, now⟩ | calls | begins := taken.mem_tearing mem
  · exact known before
  · exact disconnects now
  · cases calls with
    | lastChild _ _ _ _ _ now => exact disconnects now
    | loopEnded onTop => exact known (by simp [onTop])
  · cases begins with
    | connection ends =>
      cases ends with
      -- The connection that the event is for is the one under the handle
      | @remote handle' empty opened found =>
        have same := listed.role handle' opened
        rw [found] at same
        rw [(taken.channelMoved c).role_eq (numbered.connection c handle' same), same] at role
        cases role
        exact (taken.connectionsMoved.connectionAt_eq opened).trans found
      | told onTop => exact known (by simp [onTop])
    | client _ client created =>
      rw [(taken.channelMoved c).role_eq created, client] at role
      contradiction

theorem counted_step (c : ChannelId) (mem : c ∈ tearing.see t.stack) :
    c < t.objects.channelCount := by
  refine lt_of_lt_of_le ?_ taken.channelCount_le
  -- Each way to begin with a channel names one that exists
  obtain before | ⟨asks, -⟩ | calls | begins := taken.mem_tearing mem
  · exact listed.counted c before
  · exact listed.lt_of_asks numbered asks
  · cases calls with
    | lastChild _ created parent => exact parent ▸ numbered.parent_lt _ created
    | loopEnded onTop => exact listed.counted c (by simp [onTop])
  · cases begins with
    | connection ends => exact numbered.lt_of_connection (listed.connection_of_ends ends)
    | client _ _ created => exact created

theorem requestedChannel_step (c : ChannelId) (requested : (t.channel c).requested = true) :
    c < t.objects.channelCount := by
  refine lt_of_lt_of_le ?_ taken.channelCount_le
  obtain before | ⟨asks, -⟩ := (taken.channelMoved c).requested_or_asks requested
  · exact listed.requested c before
  · exact listed.lt_of_asks numbered asks

theorem called_step (c : ChannelId) (mem : c ∈ disconnecting.see t.stack) :
    (t.channel c).role ≠ .client := by
  obtain before | ⟨-, role⟩ := taken.disconnecting_shifted.mem mem
  · have counted := listed.counted c (mem_tearing_of_disconnecting before)
    rw [(taken.channelMoved c).role_eq counted]
    exact listed.called c before
  · rw [(taken.channelMoved c).role_eq (numbered.lt_of_connection role)]
    exact role

theorem idledClient_step (c : ChannelId) (mem : c ∈ releasing.see t.stack)
    (role : (t.channel c).role = .client) : (t.channel c).base.idled = true := by
  obtain before | begins := taken.releasing_shifted.mem mem
  · have counted := listed.counted c (mem_tearing_of_releasing before)
    rw [(taken.channelMoved c).role_eq counted] at role
    exact (taken.channelMoved c).idled_stays (listed.idled c before role) counted
  · cases begins with
    | connection ends =>
      have connection := listed.connection_of_ends ends
      rw [(taken.channelMoved c).role_eq (numbered.lt_of_connection connection)] at role
      exact (connection role).elim
    | client _ _ _ _ now => exact now

theorem listed_step : t.Listed where
  counted := counted_step numbered listed taken
  requested := requestedChannel_step numbered listed taken
  called := called_step numbered listed taken
  idled := idledClient_step numbered listed taken
  role := role_step numbered listed taken
  found := found_step numbered listed taken
  released := released_step listed taken
  releases := releases_step numbered listed taken
  own := own_step numbered listed taken

end ListedStep

/-- What `server::resolve_connection` finds between two events, in terms of the connections: the
one that was made under the handle and is not disconnected. -/
theorem Listed.resolve_eq_some (listed : s.Listed) (empty : s.stack = []) {c : ChannelId}
    {handle : Handle} :
    s.objects.resolve (.connection handle) = some c ↔
      (s.channel c).role = .connection handle ∧ (s.channel c).state ≠ .disconnected := by
  rw [Objects.resolve, Option.ite_none_right_eq_some, Option.some.injEq]
  constructor
  · rintro ⟨present, rfl⟩
    refine ⟨listed.role handle present, fun disconnected => ?_⟩
    have releases := listed.releases handle present disconnected
    simp [empty] at releases
  · rintro ⟨role, connected⟩
    exact listed.found c handle role connected

/-! ## Every reachable state -/

/-- The three groups of facts together. -/
structure Sound (s : System) : Prop where
  numbered : s.Numbered
  starting : s.Starting
  listed : s.Listed

theorem sound_init : Sound {} where
  numbered := by constructor <;> simp
  starting := ⟨fun _ _ _ _ => rfl, by simp, by simp, by simp⟩
  listed := by constructor <;> simp [Registry.mem_def]

/-- Every step from a sound state is one of the cases. -/
theorem Sound.taken (sound : s.Sound) (stepped : s.step label = some t) : Taken s label t :=
  step_taken sound.starting.vacant stepped

theorem sound_step (sound : s.Sound) (taken : Taken s label t) : t.Sound where
  numbered := numbered_step sound.numbered taken
  starting := starting_step sound.numbered sound.starting taken
  listed := listed_step sound.numbered sound.listed taken

/-- The invariant rule for the channel system: what every allowed step from a sound state
preserves holds in every state that a run of allowed steps reaches. -/
theorem invariant_of_run {ok : System → Label → Prop} {labels : List Label} (Inv : System → Prop)
    (keep : ∀ s label t, s.Sound → Inv s → ok s label → Taken s label t → Inv t)
    (run : Run step ok {} labels s) (initial : Inv {}) : s.Sound ∧ Inv s := by
  refine run.invariant (fun s => s.Sound ∧ Inv s) ?_ ⟨sound_init, initial⟩
  intro s label t known allowed stepped
  have taken := known.1.taken stepped
  exact ⟨sound_step known.1 taken, keep s label t known.1 known.2 allowed taken⟩

end System

end Shoc.Comch

/-
# Views of the stack

An invariant of the channel system usually speaks of one kind of frame: the
children that are being started, the channels whose accepters are being released.
A view picks these frames out of the stack, in order. No view shows coroutines or
calls that stop a child, so resuming the one and making the other changes no view,
and for each function of the library there is a rule that says what it adds.
-/

import Shoc.Comch.Steps

namespace Shoc.Comch

open Common Data

/-- Some frames of the stack, under whatever they carry. -/
structure View (α : Type) where
  look : Frame → Option α
  coroutine : ∀ coro, look (.coroutine coro) = none := by exact fun _ => rfl
  childStop : ∀ child, look (.childStop child) = none := by exact fun _ => rfl

namespace View

variable {α : Type} (v : View α) {frame : Frame} {stack : List Frame} {entry : α}

attribute [simp] coroutine childStop

/-- What a view shows of a stack, latest first. -/
def see (stack : List Frame) : List α := stack.filterMap v.look

@[simp] theorem see_nil : v.see [] = [] := rfl

@[simp] theorem see_cons : v.see (frame :: stack) = (v.look frame).toList ++ v.see stack := by
  unfold see
  rw [List.filterMap_cons]
  cases v.look frame <;> rfl

theorem mem_see : entry ∈ v.see stack ↔ ∃ frame ∈ stack, v.look frame = some entry :=
  List.mem_filterMap

/-- What shows in a view shows in every view that has as much to say about each frame. -/
theorem mem_see_of_imp {v w : View α}
    (imp : ∀ frame entry, v.look frame = some entry → w.look frame = some entry)
    (mem : entry ∈ v.see stack) : entry ∈ w.see stack := by
  obtain ⟨frame, present, look⟩ := v.mem_see.mp mem
  exact w.mem_see.mpr ⟨frame, present, imp frame entry look⟩

/-- What a view shows of the call that tears a channel down. -/
@[simp] def teardown (c : ChannelId) (role : Role) : List α :=
  if role = .client then (v.look (.clientStop c)).toList else (v.look (.serverDisconnect c)).toList

@[simp] theorem look_teardown {c : ChannelId} {role : Role} :
    (v.look (role.teardown c)).toList = v.teardown c role := by
  cases role <;> simp [Role.teardown, teardown]

/-! ## What the functions of the library add -/

section Functions

variable {s : System} {c : ChannelId} {child : ChildId} {handle : Handle} {waiting : Waiting}
  {coro : Option Coro}

@[simp] theorem see_wake : v.see (s.wake waiting coro).stack = v.see s.stack := by
  cases coro <;> simp [System.stack_wake]

@[simp] theorem see_stopContext : v.see (s.stopContext child).stack = v.see s.stack := by
  rw [System.stack_stopContext]
  split <;> simp

@[simp] theorem see_disconnect :
    v.see (s.disconnect c).stack =
      (if (s.channel c).state = .connected then
        (v.look (.stopAll c (s.channel c).activeChildren.first)).toList else []) ++
        v.see s.stack := by
  rw [System.stack_disconnect]
  split <;> simp

@[simp] theorem see_disconnectIfAble :
    v.see (s.disconnectIfAble c).stack =
      (if (s.channel c).activeChildren.entries = [] then
        v.teardown c (s.channel c).role else []) ++ v.see s.stack := by
  rw [System.stack_disconnectIfAble]
  split <;> simp

@[simp] theorem see_signalStoppedChild :
    v.see (s.signalStoppedChild child).stack =
      (if (s.channel (s.child child).parent).state = .disconnecting ∧
          ((s.channel (s.child child).parent).activeChildren.erase child).entries = [] then
        v.teardown (s.child child).parent (s.channel (s.child child).parent).role
      else []) ++ v.see s.stack := by
  rw [System.stack_signalStoppedChild]
  split <;> simp

@[simp] theorem see_doStopIfAble :
    v.see s.doStopIfAble.stack =
      (if s.objects.openConnections.entries = [] then (v.look .serverStop).toList else []) ++
        v.see s.stack := by
  rw [System.stack_doStopIfAble]
  split <;> simp

@[simp] theorem see_serverSignalDisconnect :
    v.see (s.serverSignalDisconnect handle).stack =
      (if s.objects.stopRequested = true ∧
          (s.objects.openConnections.erase handle).entries = [] then
        (v.look .serverStop).toList else []) ++ v.see s.stack := by
  rw [System.stack_serverSignalDisconnect]
  split <;> simp

end Functions

end View

/-! ## The views -/

@[simp] def Frame.starts : Frame → Option (ChannelId × ChildId)
  | .childStart c child _ => some (c, child)
  | _ => none

@[simp] def Frame.startsClient : Frame → Option ChannelId
  | .clientStart c => some c
  | _ => none

@[simp] def Frame.releases : Frame → Option ChannelId
  | .releaseMessages c | .releaseConsumers c => some c
  | _ => none

@[simp] def Frame.disconnects : Frame → Option ChannelId
  | .serverDisconnect c => some c
  | _ => none

@[simp] def Frame.callsTeardown : Frame → Option ChannelId
  | .serverDisconnect c | .clientStop c => some c
  | _ => none

@[simp] def Frame.stops : Frame → Option ChannelId
  | .stopAll c _ => some c
  | _ => none

@[simp] def Frame.stopsConnections : Frame → Option (Cursor Handle)
  | .stopConnections next => some next
  | _ => none

@[simp] def Frame.tearsDown : Frame → Option ChannelId
  | .stopAll c _ | .serverDisconnect c | .clientStop c | .releaseMessages c
  | .releaseConsumers c => some c
  | _ => none

/-- The children that are being started, with their channels. -/
def starting : View (ChannelId × ChildId) := ⟨Frame.starts, fun _ => rfl, fun _ => rfl⟩

/-- The clients that are being started. -/
def startingClients : View ChannelId := ⟨Frame.startsClient, fun _ => rfl, fun _ => rfl⟩

/-- The channels whose accepters are being released, which comes after they were torn down. -/
def releasing : View ChannelId := ⟨Frame.releases, fun _ => rfl, fun _ => rfl⟩

/-- The connections that `doca_comch_server_disconnect` is being called for. -/
def disconnecting : View ChannelId := ⟨Frame.disconnects, fun _ => rfl, fun _ => rfl⟩

/-- The channels that the SDK is just told to tear down. -/
def calling : View ChannelId := ⟨Frame.callsTeardown, fun _ => rfl, fun _ => rfl⟩

/-- The channels whose children are being asked to stop. -/
def stopping : View ChannelId := ⟨Frame.stops, fun _ => rfl, fun _ => rfl⟩

/-- The calls of `server::stop` that are in the middle of their loop. -/
def stoppingServer : View (Cursor Handle) := ⟨Frame.stopsConnections, fun _ => rfl, fun _ => rfl⟩

/-- The channels that some function of theirs is in progress for. -/
def tearing : View ChannelId := ⟨Frame.tearsDown, fun _ => rfl, fun _ => rfl⟩

@[simp] theorem look_starting : starting.look = Frame.starts := rfl

@[simp] theorem look_startingClients : startingClients.look = Frame.startsClient := rfl

@[simp] theorem look_releasing : releasing.look = Frame.releases := rfl

@[simp] theorem look_disconnecting : disconnecting.look = Frame.disconnects := rfl

@[simp] theorem look_calling : calling.look = Frame.callsTeardown := rfl

@[simp] theorem look_stopping : stopping.look = Frame.stops := rfl

@[simp] theorem look_stoppingServer : stoppingServer.look = Frame.stopsConnections := rfl

@[simp] theorem look_tearing : tearing.look = Frame.tearsDown := rfl

section Tearing

variable {c : ChannelId} {stack : List Frame}

/-- A channel is torn down in three parts: its children are asked to stop, the SDK is told, and
its accepters are released. -/
theorem mem_tearing_iff :
    c ∈ tearing.see stack ↔
      c ∈ stopping.see stack ∨ c ∈ calling.see stack ∨ c ∈ releasing.see stack := by
  induction stack with
  | nil => simp
  | cons frame stack ih => cases frame <;> simp [ih, or_assoc, or_left_comm]

theorem mem_tearing_of_releasing (mem : c ∈ releasing.see stack) : c ∈ tearing.see stack :=
  mem_tearing_iff.mpr (.inr (.inr mem))

theorem mem_tearing_of_stopping (mem : c ∈ stopping.see stack) : c ∈ tearing.see stack :=
  mem_tearing_iff.mpr (.inl mem)

theorem mem_tearing_of_disconnecting (mem : c ∈ disconnecting.see stack) :
    c ∈ tearing.see stack :=
  View.mem_see_of_imp (by intro frame; cases frame <;> simp) mem

end Tearing

end Shoc.Comch

/-
# Connections do not interfere

What a connection does is what it would do if it were the only one: the events and
calls that are about it, taken by themselves, are a run of the system again, in which
its queues are at every moment the same. This is for code that runs for a connection
and acts on no other one, and for a server that is not being stopped.

The proof is a simulation. Beside the system runs a second one that knows nothing but
the one connection, under the number 0; its stack is what runs for the connection.
A step about another connection leaves the relation as it is, and a step about this
one is taken by both.
-/

import Shoc.Comch.Apart

namespace Shoc.Comch

open Common Data Transition

/-! ## The same for the only connection -/

@[simp] def AwaitPoint.renamed : AwaitPoint → AwaitPoint
  | .message _ ticket => .message 0 ticket
  | .consumer _ ticket => .consumer 0 ticket
  | .disconnect _ => .disconnect 0
  | point => point

@[simp] def UserCall.renamed : UserCall → UserCall
  | .msgRecv _ => .msgRecv 0
  | .acceptConsumer _ => .acceptConsumer 0
  | .disconnect _ => .disconnect 0
  | .coAwait point coro => .coAwait point.renamed coro
  | call => call

@[simp] def Frame.renamed : Frame → Frame
  | .stopAll _ next => .stopAll 0 next
  | .serverDisconnect _ => .serverDisconnect 0
  | .releaseMessages _ => .releaseMessages 0
  | .releaseConsumers _ => .releaseConsumers 0
  | frame => frame

@[simp] def Label.renamed : Label → Label
  | .call request => .call request.renamed
  | label => label

/-- The steps that are about a connection, as they are when it is the only one and so has
the number 0. -/
def Marked.own (c : ChannelId) (x : Marked) (label : Label) : Option Label :=
  if x.concerns label = some c then some label.renamed else none

/-- The messages that the SDK reports for a connection. -/
def System.heard (c : ChannelId) (s : System) : Label → Option Message
  | .event (.message peer message) =>
      if s.objects.resolve peer = some c then some message else none
  | _ => none

/-! ## What runs for a connection -/

/-- The frames of a stack that run for a connection. -/
def ownFrames (c : ChannelId) : List Frame → List (Option ChannelId) → List Frame
  | frame :: stack, mark :: marks =>
      if mark = some c then frame.renamed :: ownFrames c stack marks else ownFrames c stack marks
  | _, _ => []

section OwnFrames

variable {c : ChannelId} {frame : Frame} {stack : List Frame} {mark : Option ChannelId}
  {marks : List (Option ChannelId)}

@[simp] theorem ownFrames_nil : ownFrames c [] marks = [] := by
  cases marks <;> rfl

theorem ownFrames_own : ownFrames c (frame :: stack) (some c :: marks) =
    frame.renamed :: ownFrames c stack marks := if_pos rfl

theorem ownFrames_append (new : List Frame) :
    ownFrames c (new ++ stack) (List.replicate new.length mark ++ marks) =
      (if mark = some c then new.map Frame.renamed else []) ++ ownFrames c stack marks := by
  induction new with
  | nil => simp
  | cons frame rest ih =>
    simp only [List.cons_append, List.length_cons, List.replicate_succ, ownFrames, ih]
    split <;> rfl

end OwnFrames

namespace Marked

open Comch.System

variable {x : Marked} {t : System} {label : Label} {c : ChannelId}

/-- What runs for a connection after a step: what the step has added, if it runs for it, and what
was below. -/
theorem ownFrames_mark (lengths : x.marks.length = x.system.stack.length) (new : List Frame)
    (stack : t.stack = new ++ label.below x.system.stack) :
    ownFrames c t.stack (x.mark label t) =
      (if x.runsFor label = some c then new.map Frame.renamed else []) ++
        ownFrames c (label.below x.system.stack) (label.below x.marks) := by
  rw [mark_eq lengths new stack, stack]
  exact ownFrames_append new

/-- Without a frame that runs for somebody else, the same runs for the connection. -/
theorem ownFrames_tail (other : x.active ≠ some c) :
    ownFrames c x.system.stack.tail x.marks.tail = ownFrames c x.system.stack x.marks := by
  unfold active at other
  cases x.system.stack with
  | nil => simp
  | cons frame stack =>
    cases marks : x.marks with
    | nil => cases stack <;> rfl
    | cons mark rest =>
      rw [marks] at other
      exact (if_neg other).symm

/-- A step about somebody else leaves what runs for the connection as it is. -/
theorem ownFrames_foreign (tame : Tame x) (move : Move x.active x.system label t)
    (other : x.concerns label ≠ some c) :
    ownFrames c t.stack (x.mark label t) = ownFrames c x.system.stack x.marks := by
  obtain ⟨new, stack⟩ := stack_move tame move
  have idle : x.runsFor label ≠ some c := by
    unfold runsFor
    split
    · simp
    · exact other
  rw [ownFrames_mark tame.lengths new stack, if_neg idle, List.nil_append]
  cases label with
  | ret | sdk _ | tick => exact ownFrames_tail other
  | call _ | event _ | change _ _ => rfl

end Marked

/-! ## Two connections that are alike -/

/-- What is waited for on the one connection is the same as on the other. -/
structure Waiting.Like (c d : ChannelId) (w w' : Waiting) : Prop where
  messages : w'.messages d = w.messages c
  consumers : w'.consumers d = w.consumers c
  remotes : w'.remotes d = w.remotes c
  slot : w'.slot (.disconnect d) = w.slot (.disconnect c)

/-- The one connection is in the same state as the other, and is found under the same handle. -/
structure Objects.Like (c d : ChannelId) (o o' : Objects) : Prop where
  channel : o'.channels d = o.channels c
  resolved : ∀ handle, o'.resolve (.connection handle) = some d ↔
    o.resolve (.connection handle) = some c

/-- Nothing of what a connection waits for has changed. -/
abbrev Waiting.Untouched (c : ChannelId) (w w' : Waiting) : Prop := Waiting.Like c c w w'

/-- Nothing of a connection has changed. -/
abbrev Objects.Untouched (c : ChannelId) (o o' : Objects) : Prop := Objects.Like c c o o'

namespace Waiting.Untouched

variable {w : Waiting} {c c' : ChannelId}

theorem refl : w.Untouched c w := ⟨rfl, rfl, rfl, rfl⟩

theorem setMessages (other : c' ≠ c) (q : AccepterQueues Message) :
    w.Untouched c { w with messages := Function.update w.messages c' q } :=
  ⟨Function.update_of_ne other.symm _ _, rfl, rfl, rfl⟩

theorem setConsumers (other : c' ≠ c) (q : AccepterQueues ConsumerId) :
    w.Untouched c { w with consumers := Function.update w.consumers c' q } :=
  ⟨rfl, Function.update_of_ne other.symm _ _, rfl, rfl⟩

theorem setRemotes (other : c' ≠ c) (r : RemoteConsumers) :
    w.Untouched c { w with remotes := Function.update w.remotes c' r } :=
  ⟨rfl, rfl, Function.update_of_ne other.symm _ _, rfl⟩

theorem setSlot {slot : Slot} (other : slot ≠ .disconnect c) (value : Option Coro) :
    w.Untouched c { w with slot := Function.update w.slot slot value } :=
  ⟨rfl, rfl, rfl, Function.update_of_ne other.symm _ _⟩

end Waiting.Untouched

namespace Objects.Untouched

variable {o : Objects} {c c' : ChannelId}

theorem refl : o.Untouched c o := ⟨rfl, fun _ => Iff.rfl⟩

theorem setChannel (other : c' ≠ c) (channel : Channel) :
    o.Untouched c (o.setChannel c' channel) :=
  ⟨Function.update_of_ne other.symm _ _, fun _ => Iff.rfl⟩

/-- Another connection is taken out of `open_connections_`. -/
theorem erase {handle : Handle}
    (other : handle ∈ o.openConnections → o.connectionAt handle ≠ c) :
    o.Untouched c { o with openConnections := o.openConnections.erase handle } := by
  refine ⟨rfl, fun present => ?_⟩
  simp only [Objects.resolve, Registry.mem_erase, Option.ite_none_right_eq_some,
    Option.some.injEq]
  constructor
  · exact fun found => ⟨found.1.2, found.2⟩
  · rintro ⟨mem, found⟩
    refine ⟨⟨?_, mem⟩, found⟩
    rintro rfl
    exact other mem found

/-- Another connection is made, under a handle that is not in use. -/
theorem connect {handle : Handle} (fresh : handle ∉ o.openConnections)
    (other : o.channelCount ≠ c) (placement : Placement Handle) :
    o.Untouched c (o.connect handle placement) := by
  refine ⟨Function.update_of_ne other.symm _ _, fun present => ?_⟩
  simp only [Objects.resolve, Objects.connect, Registry.mem_insert, Function.update_apply]
  by_cases same : present = handle
  · subst same
    simp [fresh, other]
  · simp [same]

end Objects.Untouched

namespace Marked

open Comch.System

variable {x : Marked} {t : System} {label : Label} {c : ChannelId}

/-- What waits for a connection does not change in a step about another one. -/
theorem waiting_foreign (tame : Tame x) (move : Move x.active x.system label t)
    (other : x.concerns label ≠ some c) : x.system.waiting.Untouched c t.waiting := by
  cases move with
  | connect =>
    simp only [System.connect]
    rw [waiting_resume]
    exact ⟨rfl, rfl, rfl, rfl⟩
  | disconnection empty found =>
    simp only [concerns, target, found, ne_eq, Option.some.injEq] at other
    exact .setMessages other _
  | message empty found =>
    simp only [concerns, target, found, ne_eq, Option.some.injEq] at other
    simp only [supplyMessage]
    rw [waiting_resume]
    exact .setMessages other _
  | newConsumer empty found =>
    simp only [concerns, target, found, ne_eq, Option.some.injEq] at other
    simp only [supplyConsumer]
    rw [waiting_resume]
    exact ⟨rfl, Function.update_of_ne (Ne.symm other) _ _,
      Function.update_of_ne (Ne.symm other) _ _, rfl⟩
  | expiredConsumer empty found =>
    simp only [concerns, target, found, ne_eq, Option.some.injEq] at other
    exact .setRemotes other _
  | @serverReported next _ goesOn =>
    cases next with
    | running =>
      simp only [serverChange]
      rw [waiting_resumeSlot]
      exact .setSlot (by simp) _
    | idle => contradiction
    | starting | stopping => exact .refl
  | msgRecv => exact .setMessages (by simpa using other) _
  | acceptConsumer => exact .setConsumers (by simpa using other) _
  | accept => exact ⟨rfl, rfl, rfl, rfl⟩
  | @coAwait point coro =>
    cases point with
    | message c' ticket => exact .setMessages (by simpa using other) _
    | consumer c' ticket => exact .setConsumers (by simpa using other) _
    | connection ticket => exact ⟨rfl, rfl, rfl, rfl⟩
    | disconnect c' =>
      simp only [System.coAwait]
      split
      · exact .refl
      · exact .setSlot (by simpa using other) _
    | started ctx | stopped ctx =>
      simp only [System.coAwait]
      split
      · exact .refl
      · exact .setSlot (by simp) _
  | disconnect =>
    rw [waiting_disconnect]
    exact .refl
  | stoppedAll =>
    rw [waiting_disconnectIfAble]
    exact .refl
  -- What is on top of the stack runs for the connection that is torn down
  | disconnectSucceeded before =>
    have active := (tame.shape.works before rfl).2.1
    exact .setMessages (by simpa [active] using other) _
  | messagesRound before =>
    have active := (tame.shape.works before rfl).2.1
    rw [waiting_resume]
    exact .setMessages (by simpa [active] using other) _
  | messagesEnded before =>
    have active := (tame.shape.works before rfl).2.1
    exact .setConsumers (by simpa [active] using other) _
  | consumersRound before =>
    have active := (tame.shape.works before rfl).2.1
    rw [waiting_resume]
    exact .setConsumers (by simpa [active] using other) _
  | consumersEnded before =>
    have active := (tame.shape.works before rfl).2.1
    rw [waiting_serverSignalDisconnect, waiting_resumeSlot]
    exact .setSlot (by simpa [active] using other) _
  | unknown | failed | suspended | disconnectFailed => exact .refl

theorem objects_foreign (sound : x.system.Sound) (tame : Tame x)
    (move : Move x.active x.system label t) (other : x.concerns label ≠ some c) :
    x.system.objects.Untouched c t.objects := by
  cases move with
  | connect empty fresh =>
    simp only [System.connect]
    rw [objects_resume]
    exact .connect fresh (by simpa using other) _
  | disconnection empty found =>
    simp only [concerns, target, found, ne_eq, Option.some.injEq] at other
    exact .setChannel other _
  | message =>
    simp only [supplyMessage]
    rw [objects_resume]
    exact .refl
  | newConsumer =>
    simp only [supplyConsumer]
    rw [objects_resume]
    exact .refl
  | @serverReported next _ goesOn =>
    cases next with
    | running =>
      simp only [serverChange]
      rw [objects_resumeSlot]
      exact ⟨rfl, fun _ => Iff.rfl⟩
    | idle => contradiction
    | starting | stopping => exact ⟨rfl, fun _ => Iff.rfl⟩
  | disconnect =>
    rw [objects_disconnect]
    exact .setChannel (by simpa using other) _
  | stoppedAll =>
    rw [objects_disconnectIfAble]
    exact .refl
  | disconnectSucceeded before =>
    have active := (tame.shape.works before rfl).2.1
    exact .setChannel (by simpa [active] using other) _
  | messagesRound | consumersRound =>
    rw [objects_resume]
    exact .refl
  -- The handle is no other connection's before the one that is torn down is through
  | @consumersEnded c' handle rest before ended role =>
    have active := (tame.shape.works before rfl).2.1
    have own := sound.listed.own c' handle role (by simp [before])
    rw [objects_serverSignalDisconnect, objects_resumeSlot]
    refine .erase fun present found => ?_
    rw [own present] at found
    simp [active, found] at other
  | _ => exact .refl

end Marked

/-! ## A step about the connection -/

namespace Waiting.Like

variable {w w' : Waiting} {c d : ChannelId}

theorem mapMessages (like : w.Like c d w')
    (op : AccepterQueues Message → AccepterQueues Message) :
    Waiting.Like c d { w with messages := Function.update w.messages c (op (w.messages c)) }
      { w' with messages := Function.update w'.messages d (op (w'.messages d)) } :=
  ⟨by simp [like.messages], like.consumers, like.remotes, like.slot⟩

theorem mapConsumers (like : w.Like c d w')
    (op : AccepterQueues ConsumerId → AccepterQueues ConsumerId) :
    Waiting.Like c d { w with consumers := Function.update w.consumers c (op (w.consumers c)) }
      { w' with consumers := Function.update w'.consumers d (op (w'.consumers d)) } :=
  ⟨like.messages, by simp [like.consumers], like.remotes, like.slot⟩

theorem mapRemotes (like : w.Like c d w') (op : RemoteConsumers → RemoteConsumers) :
    Waiting.Like c d { w with remotes := Function.update w.remotes c (op (w.remotes c)) }
      { w' with remotes := Function.update w'.remotes d (op (w'.remotes d)) } :=
  ⟨like.messages, like.consumers, by simp [like.remotes], like.slot⟩

theorem setSlot (like : w.Like c d w') (value : Option Coro) :
    Waiting.Like c d { w with slot := Function.update w.slot (.disconnect c) value }
      { w' with slot := Function.update w'.slot (.disconnect d) value } :=
  ⟨like.messages, like.consumers, like.remotes, by simp⟩

end Waiting.Like

namespace Objects.Like

variable {o o' : Objects} {c d : ChannelId}

theorem mapChannel (like : o.Like c d o') (op : Channel → Channel) :
    Objects.Like c d (o.setChannel c (op (o.channels c))) (o'.setChannel d (op (o'.channels d))) :=
  ⟨by simp [Objects.setChannel, like.channel], like.resolved⟩

theorem erase (like : o.Like c d o') (handle : Handle) :
    Objects.Like c d { o with openConnections := o.openConnections.erase handle }
      { o' with openConnections := o'.openConnections.erase handle } := by
  refine ⟨like.channel, fun present => ?_⟩
  have known := like.resolved present
  simp only [Objects.resolve, Registry.mem_erase, Option.ite_none_right_eq_some,
    Option.some.injEq] at known ⊢
  rw [and_assoc, and_assoc, known]

end Objects.Like

/-- A system with no connection but the one with the number 0, in which nobody accepts
connections. -/
structure System.Alone (u : System) : Prop where
  only : ∀ handle, u.objects.connectionAt handle = 0
  nobody : u.waiting.connections.pendingAccepters = []
  running : u.objects.stopRequested = false ∧ u.objects.server.idled = false
  fault : u.fault = false

/-- The second system shows what becomes of one connection. -/
structure Mirrors (c : ChannelId) (x : Marked) (u : System) : Prop where
  stack : u.stack = ownFrames c x.system.stack x.marks
  waiting : x.system.waiting.Like c 0 u.waiting
  objects : x.system.objects.Like c 0 u.objects
  fresh : x.system.objects.channelCount ≤ c → u.objects.channelCount = 0
  alone : u.Alone

namespace System

variable {s : System} {c : ChannelId}

theorem resume_eq (coro : Option Coro) :
    s.resume coro = { s with stack := callers coro ++ s.stack } := by
  cases coro <;> rfl

theorem fault_disconnect : (s.disconnect c).fault = s.fault := by
  unfold disconnect
  simp only
  split <;> rfl

theorem fault_disconnectIfAble : (s.disconnectIfAble c).fault = s.fault := by
  unfold disconnectIfAble
  split
  · rfl
  · split <;> rfl

theorem fault_serverSignalDisconnect (handle : Handle) :
    (s.serverSignalDisconnect handle).fault = s.fault := by
  unfold serverSignalDisconnect doStopIfAble
  simp only
  split <;> split <;> (try split) <;> rfl

end System

namespace Mirrors

open Marked Comch.System

variable {x : Marked} {t u : System} {label : Label} {c : ChannelId}

theorem init : Mirrors c {} {} where
  stack := rfl
  waiting := ⟨rfl, rfl, rfl, rfl⟩
  objects := ⟨rfl, by simp [Objects.resolve, Registry.mem_def]⟩
  fresh _ := rfl
  alone := ⟨fun _ => rfl, rfl, ⟨rfl, rfl⟩, rfl⟩

theorem foreign (sound : x.system.Sound) (tame : Tame x) (mirrors : Mirrors c x u)
    (move : Move x.active x.system label t) (other : x.concerns label ≠ some c) :
    Mirrors c ⟨t, x.mark label t⟩ u := by
  obtain ⟨stack, waiting, objects, fresh, alone⟩ := mirrors
  have waited := waiting_foreign tame move other
  have changed := objects_foreign sound tame move other
  refine ⟨?_, ⟨?_, ?_, ?_, ?_⟩, ⟨?_, fun handle => ?_⟩, ?_, alone⟩
  · rw [ownFrames_foreign tame move other, stack]
  · rw [waiting.messages, waited.messages]
  · rw [waiting.consumers, waited.consumers]
  · rw [waiting.remotes, waited.remotes]
  · rw [waiting.slot, waited.slot]
  · rw [objects.channel, changed.channel]
  · rw [objects.resolved, changed.resolved]
  · intro later
    refine fresh (Nat.le_trans ?_ later)
    exact count_edit (edit_move move)

/-- User code has control of the second system too. -/
theorem userControl (tame : Tame x) (mirrors : Mirrors c x u)
    (control : x.system.userControl = true) (permitted : x.active = none ∨ x.active = some c) :
    u.userControl = true := by
  have frames := mirrors.stack
  cases tame.shape with
  | user caller stack =>
    rw [stack] at frames
    cases caller with
    | none => simp [System.userControl, frames, callers]
    | some coro =>
      cases marks : x.marks with
      | nil => simp [System.userControl, frames, callers, marks, ownFrames]
      | cons mark rest =>
        simp only [callers, Option.toList_some, List.map_cons, List.map_nil, marks, ownFrames,
          Frame.renamed] at frames
        split at frames <;> simp [System.userControl, frames]
  | teardown other work caller below works stack marks =>
    obtain rfl | rfl | rfl | rfl := works.2 <;> simp [System.userControl, stack] at control
  | inside other coro work caller below works down stack marks =>
    obtain rfl : other = c := by simpa [active, marks] using permitted
    rw [stack, marks, ownFrames_own] at frames
    simp [System.userControl, frames]

theorem step_call (tame : Tame x) (mirrors : Mirrors c x u)
    (control : x.system.userControl = true) (permitted : x.active = none ∨ x.active = some c)
    (call : UserCall) : u.step (.call call) = u.call call := by
  simp [System.step, mirrors.alone.fault, userControl tame mirrors control permitted]

theorem stack_empty (mirrors : Mirrors c x u) (empty : x.system.stack = []) : u.stack = [] := by
  rw [mirrors.stack, empty, ownFrames_nil]

theorem step_event (mirrors : Mirrors c x u) (empty : x.system.stack = []) (event : SdkEvent) :
    u.step (.event event) = u.event event := by
  simp [System.step, mirrors.alone.fault, stack_empty mirrors empty]

/-- What the second system has on its stack after a step that takes nothing away. -/
theorem stack_push (label : Label) (tame : Tame x) (mirrors : Mirrors c x u) (new : List Frame)
    (stack : t.stack = new ++ x.system.stack)
    (keeps : label.below x.system.stack = x.system.stack ∧ label.below x.marks = x.marks)
    (runs : x.runsFor label = some c) :
    new.map Frame.renamed ++ u.stack = ownFrames c t.stack (x.mark label t) := by
  rw [ownFrames_mark tame.lengths new (by rw [stack, keeps.1]), if_pos runs, keeps.1, keeps.2,
    mirrors.stack]

theorem stack_same (label : Label) (tame : Tame x) (mirrors : Mirrors c x u)
    (stack : t.stack = x.system.stack)
    (keeps : label.below x.system.stack = x.system.stack ∧ label.below x.marks = x.marks)
    (runs : x.runsFor label = some c) :
    u.stack = ownFrames c t.stack (x.mark label t) :=
  stack_push label tame mirrors [] stack keeps runs

/-- What the second system has on its stack when code of the connection is on top. -/
theorem stack_pop (mirrors : Mirrors c x u) {frame : Frame} {rest : List Frame}
    (before : x.system.stack = frame :: rest) (running : x.active = some c) :
    u.stack = frame.renamed :: ownFrames c rest x.marks.tail := by
  rw [mirrors.stack, before]
  unfold active at running
  cases marks : x.marks with
  | nil => simp [marks] at running
  | cons mark below =>
    obtain rfl : mark = some c := by simpa [marks] using running
    exact ownFrames_own

/-- What it has after something took the place of the frame on top. -/
theorem stack_replace (label : Label) (tame : Tame x) {frame : Frame} {rest : List Frame}
    (before : x.system.stack = frame :: rest) (new : List Frame) (stack : t.stack = new ++ rest)
    (pops : x.runsFor label = some c ∧ label.below x.system.stack = x.system.stack.tail ∧
      label.below x.marks = x.marks.tail) :
    new.map Frame.renamed ++ ownFrames c rest x.marks.tail =
      ownFrames c t.stack (x.mark label t) := by
  obtain ⟨runs, frames, marks⟩ := pops
  rw [ownFrames_mark tame.lengths new (by rw [stack, frames, before, List.tail_cons]), if_pos runs,
    frames, marks, before, List.tail_cons]

theorem notMem_openConnections (mirrors : Mirrors c x u) {handle : Handle}
    (fresh : handle ∉ x.system.objects.openConnections) :
    handle ∉ u.objects.openConnections := by
  intro present
  have found := (mirrors.objects.resolved handle).mp (by
    simp [Objects.resolve, present, mirrors.alone.only])
  simp [Objects.resolve, fresh] at found

/-- Messages and consumers for the connection reach it in the second system. -/
theorem resolve (tame : Tame x) (mirrors : Mirrors c x u) (peer : Peer)
    (found : x.system.objects.resolve peer = some c) : u.objects.resolve peer = some 0 := by
  cases peer with
  | connection handle => exact (mirrors.objects.resolved handle).mpr found
  -- There are no clients
  | client other =>
    simp only [Objects.resolve, Objects.reachable, Bool.and_eq_true, decide_eq_true_eq,
      Option.ite_none_right_eq_some] at found
    obtain ⟨handle, role⟩ := tame.connections other found.1.1.1
    rw [role] at found
    simp at found

/-- The second system takes the step too. -/
def Followed (c : ChannelId) (x : Marked) (u : System) (label : Label) (t : System) : Prop :=
  ∃ u', u.step label.renamed = some u' ∧ Mirrors c ⟨t, x.mark label t⟩ u'

/-! ### Events -/

theorem followed_failed (tame : Tame x) (mirrors : Mirrors c x u) {handle : Handle}
    (empty : x.system.stack = []) (found : x.system.objects.resolve (.connection handle) = some c) :
    Followed c x u (.event (.disconnection handle false)) x.system := by
  refine ⟨u, ?_, ?_, mirrors.waiting, mirrors.objects, mirrors.fresh, mirrors.alone⟩
  · simp [step_event mirrors empty, System.event, mirrors.alone.running.2]
  · exact stack_same (u := u) _ tame mirrors rfl ⟨rfl, rfl⟩ found

/-- The connection is made. It gets the number 0 in the second system. -/
theorem followed_connect (tame : Tame x) (mirrors : Mirrors c x u) {handle : Handle}
    {placement : Placement Handle} (empty : x.system.stack = [])
    (fresh : handle ∉ x.system.objects.openConnections)
    (new : x.system.objects.channelCount = c) :
    Followed c x u (.event (.connection handle true placement))
      (x.system.connect handle placement) := by
  have fresh' := notMem_openConnections mirrors fresh
  have count := mirrors.fresh (Nat.le_of_eq new)
  have supplied : u.waiting.connections.supply 0 = ({ u.waiting.connections with
      pendingData := u.waiting.connections.pendingData ++ [0]
      supplied := u.waiting.connections.supplied ++ [0] }, none) := by
    simp [AccepterQueues.supply, mirrors.alone.nobody]
  refine ⟨u.connect handle placement, ?_, ?_⟩
  · simp [step_event mirrors empty, System.event, mirrors.alone.running.2, fresh']
  simp only [System.connect, count, supplied, resume_eq]
  refine ⟨?_, ⟨mirrors.waiting.messages, mirrors.waiting.consumers, mirrors.waiting.remotes,
    mirrors.waiting.slot⟩, ⟨?_, fun present => ?_⟩, ?_, ⟨?_, mirrors.alone.nobody,
    mirrors.alone.running, mirrors.alone.fault⟩⟩
  -- Whoever accepts the connection runs for none
  · rw [ownFrames_mark tame.lengths _ rfl, if_neg (by simp)]
    simp [empty, callers, stack_empty mirrors empty]
  · simp [Objects.connect, Objects.setChannel, count, new]
  · have known := mirrors.objects.resolved present
    simp only [Objects.resolve, Objects.connect, Registry.mem_insert, Function.update_apply, count,
      new] at known ⊢
    by_cases same : present = handle
    · simp [same]
    · simpa [same] using known
  · simp [Objects.connect, new]
  · simp [Objects.connect, Function.update_apply, mirrors.alone.only, count]

theorem followed_disconnection (tame : Tame x) (mirrors : Mirrors c x u) {handle : Handle}
    (empty : x.system.stack = []) (found : x.system.objects.resolve (.connection handle) = some c) :
    Followed c x u (.event (.disconnection handle true)) (x.system.signalDisconnect c) := by
  have found' := (mirrors.objects.resolved handle).mpr found
  simp only [Objects.resolve, Option.ite_none_right_eq_some, Option.some.injEq] at found'
  refine ⟨u.signalDisconnect 0, ?_, ?_, mirrors.waiting.mapMessages AccepterQueues.markDisconnected,
    mirrors.objects.mapChannel ({ · with state := .disconnected }), mirrors.fresh,
    mirrors.alone.only, mirrors.alone.nobody, mirrors.alone.running, mirrors.alone.fault⟩
  · simp [step_event mirrors empty, System.event, mirrors.alone.running.2, found']
  · exact stack_push _ tame mirrors [.releaseMessages c] rfl ⟨rfl, rfl⟩ found

@[simp] theorem map_renamed_callers (coro : Option Coro) :
    (callers coro).map Frame.renamed = callers coro := by
  cases coro <;> rfl

theorem followed_message (tame : Tame x) (mirrors : Mirrors c x u) {peer : Peer} {message : Message}
    (empty : x.system.stack = []) (found : x.system.objects.resolve peer = some c) :
    Followed c x u (.event (.message peer message)) (x.system.supplyMessage c message) := by
  refine ⟨u.supplyMessage 0 message, ?_, ?_⟩
  · simp [step_event mirrors empty, System.event, resolve tame mirrors peer found]
  simp only [supplyMessage, mirrors.waiting.messages, resume_eq]
  refine ⟨?_, ⟨?_, mirrors.waiting.consumers, mirrors.waiting.remotes, mirrors.waiting.slot⟩,
    mirrors.objects, mirrors.fresh, mirrors.alone.only, mirrors.alone.nobody,
    mirrors.alone.running, mirrors.alone.fault⟩
  · refine Eq.trans ?_ (stack_push _ tame mirrors (callers _) rfl ⟨rfl, rfl⟩ found)
    rw [map_renamed_callers]
  · simp

theorem followed_newConsumer (tame : Tame x) (mirrors : Mirrors c x u) {peer : Peer}
    {id : ConsumerId} (empty : x.system.stack = [])
    (found : x.system.objects.resolve peer = some c) :
    Followed c x u (.event (.newConsumer peer id)) (x.system.supplyConsumer c id) := by
  refine ⟨u.supplyConsumer 0 id, ?_, ?_⟩
  · simp [step_event mirrors empty, System.event, resolve tame mirrors peer found]
  simp only [supplyConsumer, mirrors.waiting.consumers, mirrors.waiting.remotes, resume_eq]
  refine ⟨?_, ⟨mirrors.waiting.messages, ?_, ?_, mirrors.waiting.slot⟩,
    mirrors.objects, mirrors.fresh, mirrors.alone.only, mirrors.alone.nobody,
    mirrors.alone.running, mirrors.alone.fault⟩
  · refine Eq.trans ?_ (stack_push _ tame mirrors (callers _) rfl ⟨rfl, rfl⟩ found)
    rw [map_renamed_callers]
  · simp
  · simp

theorem followed_expiredConsumer (tame : Tame x) (mirrors : Mirrors c x u) {peer : Peer}
    {id : ConsumerId} (empty : x.system.stack = [])
    (found : x.system.objects.resolve peer = some c) :
    Followed c x u (.event (.expiredConsumer peer id)) (x.system.expireConsumer c id) := by
  refine ⟨u.expireConsumer 0 id, ?_, ?_, mirrors.waiting.mapRemotes (·.expire id), mirrors.objects,
    mirrors.fresh, mirrors.alone.only, mirrors.alone.nobody, mirrors.alone.running,
    mirrors.alone.fault⟩
  · simp [step_event mirrors empty, System.event, resolve tame mirrors peer found]
  · exact stack_same (u := u) _ tame mirrors rfl ⟨rfl, rfl⟩ found

/-! ### Calls -/

section Calls

variable (tame : Tame x) (mirrors : Mirrors c x u) (control : x.system.userControl = true)
  (permitted : x.active = none ∨ x.active = some c)

include tame mirrors control permitted

theorem followed_msgRecv (handed : (x.system.channel c).handed = true) :
    Followed c x u (.call (.msgRecv c))
      { x.system with waiting := { x.system.waiting with
        messages := Function.update x.system.waiting.messages c
          (x.system.waiting.messages c).accept } } := by
  refine ⟨{ u with waiting := { u.waiting with
      messages := Function.update u.waiting.messages 0 (u.waiting.messages 0).accept } },
    ?_, ?_, mirrors.waiting.mapMessages AccepterQueues.accept, mirrors.objects, mirrors.fresh,
    mirrors.alone.only, mirrors.alone.nobody, mirrors.alone.running, mirrors.alone.fault⟩
  · refine (step_call tame mirrors control permitted _).trans (if_pos ?_)
    rwa [channel, mirrors.objects.channel]
  · exact stack_same (u := u) _ tame mirrors rfl ⟨rfl, rfl⟩ rfl

theorem followed_acceptConsumer (handed : (x.system.channel c).handed = true) :
    Followed c x u (.call (.acceptConsumer c))
      { x.system with waiting := { x.system.waiting with
        consumers := Function.update x.system.waiting.consumers c
          (x.system.waiting.consumers c).accept } } := by
  refine ⟨{ u with waiting := { u.waiting with
      consumers := Function.update u.waiting.consumers 0 (u.waiting.consumers 0).accept } },
    ?_, ?_, mirrors.waiting.mapConsumers AccepterQueues.accept, mirrors.objects, mirrors.fresh,
    mirrors.alone.only, mirrors.alone.nobody, mirrors.alone.running, mirrors.alone.fault⟩
  · refine (step_call tame mirrors control permitted _).trans (if_pos ?_)
    rwa [channel, mirrors.objects.channel]
  · exact stack_same (u := u) _ tame mirrors rfl ⟨rfl, rfl⟩ rfl

theorem followed_coAwait {point : AwaitPoint} {coro : Coro} (owner : point.owner = some c)
    (awaitable : x.system.awaitable point = true) :
    Followed c x u (.call (.coAwait point coro))
      { x.system with waiting := x.system.coAwait coro point } := by
  have handed : (u.channel 0).handed = (x.system.channel c).handed := by
    rw [channel, mirrors.objects.channel]
  have state : (u.channel 0).state = (x.system.channel c).state := by
    rw [channel, mirrors.objects.channel]
  refine ⟨{ u with waiting := u.coAwait coro point.renamed }, ?_, ?_, ?_, mirrors.objects,
    mirrors.fresh, mirrors.alone.only, ?_, mirrors.alone.running, mirrors.alone.fault⟩
  · refine (step_call tame mirrors control permitted _).trans (if_pos ?_)
    cases point <;> simp_all [System.awaitable]
  · exact stack_same (u := u) _ tame mirrors rfl ⟨rfl, rfl⟩ owner
  · cases point with
    | message other ticket =>
      obtain rfl : other = c := by simpa using owner
      exact mirrors.waiting.mapMessages (·.await ticket coro)
    | consumer other ticket =>
      obtain rfl : other = c := by simpa using owner
      exact mirrors.waiting.mapConsumers (·.await ticket coro)
    | disconnect other =>
      obtain rfl : other = c := by simpa using owner
      simp only [AwaitPoint.renamed, System.coAwait, state]
      split
      · exact mirrors.waiting
      · exact mirrors.waiting.setSlot (some coro)
    | connection _ | started _ | stopped _ => cases owner
  · cases point with
    | disconnect other =>
      simp only [AwaitPoint.renamed, System.coAwait]
      split <;> exact mirrors.alone.nobody
    | message _ _ | consumer _ _ => exact mirrors.alone.nobody
    | connection _ | started _ | stopped _ => cases owner

theorem followed_disconnect (handed : (x.system.channel c).handed = true) :
    Followed c x u (.call (.disconnect c)) (x.system.disconnect c) := by
  have stack := stack_disconnect (s := x.system) (c := c)
  have stack' := stack_disconnect (s := u) (c := 0)
  have waiting := mirrors.waiting
  have objects := mirrors.objects.mapChannel fun channel => { channel with
    requested := true
    state := if channel.state = .connected then .disconnecting else channel.state }
  refine ⟨u.disconnect 0, ?_, ?_, ?_, ?_, ?_, ?_, ?_, ?_, ?_⟩
  · refine (step_call tame mirrors control permitted _).trans (if_pos ?_)
    rwa [channel, mirrors.objects.channel]
  · rw [channel, mirrors.objects.channel] at stack'
    rw [stack']
    split at stack
    · rename_i up
      rw [if_pos up]
      exact stack_push _ tame mirrors [_] stack ⟨rfl, rfl⟩ rfl
    · rename_i down
      rw [if_neg down]
      exact stack_same (u := u) _ tame mirrors stack ⟨rfl, rfl⟩ rfl
  · simpa using waiting
  · simpa using objects
  · simpa using mirrors.fresh
  · simpa using mirrors.alone.only
  · simpa using mirrors.alone.nobody
  · simpa using mirrors.alone.running
  · rw [fault_disconnect, mirrors.alone.fault]

end Calls

/-! ### What runs for the connection -/

section Running

variable (tame : Tame x) (mirrors : Mirrors c x u) {rest : List Frame}

include tame mirrors

theorem followed_suspended {coro : Coro} (before : x.system.stack = .coroutine coro :: rest)
    (running : x.active = some c) :
    Followed c x u .ret { x.system with stack := rest } := by
  have stack := stack_pop mirrors before running
  refine ⟨{ u with stack := ownFrames c rest x.marks.tail }, ?_, ?_, mirrors.waiting,
    mirrors.objects, mirrors.fresh, mirrors.alone.only, mirrors.alone.nobody,
    mirrors.alone.running, mirrors.alone.fault⟩
  · simp [System.step, mirrors.alone.fault, stack]
  · exact stack_replace _ tame before [] rfl ⟨running, rfl, rfl⟩

theorem followed_stoppedAll (before : x.system.stack = .stopAll c ⟨none, 0⟩ :: rest) :
    Followed c x u .tick (({ x.system with stack := rest } : System).disconnectIfAble c) := by
  obtain ⟨works, running, -⟩ := tame.shape.works before rfl
  obtain ⟨handle, role⟩ := works.1
  have stack := stack_pop mirrors before running
  have children : (u.channel 0).activeChildren = {} := by
    rw [channel, mirrors.objects.channel, ← channel, tame.children]
  have role' : (u.channel 0).role = .connection handle := by
    rw [channel, mirrors.objects.channel, ← channel, role]
  have after : (({ x.system with stack := rest } : System).disconnectIfAble c).stack =
      [.serverDisconnect c] ++ rest := by
    rw [stack_disconnectIfAble, if_pos (by simp [tame.children c])]
    simp [role, Role.teardown]
  refine ⟨({ u with stack := ownFrames c rest x.marks.tail } : System).disconnectIfAble 0,
    ?_, ?_, ?_, ?_, ?_, ?_, ?_, ?_, ?_⟩
  · simp only [Label.renamed, System.step, mirrors.alone.fault, System.tick, stack, Frame.renamed,
      children]
    rfl
  · rw [← stack_replace .tick tame before _ after ⟨running, rfl, rfl⟩, stack_disconnectIfAble,
      if_pos (congrArg Registry.entries children)]
    simp [role', Role.teardown]
  · simpa using mirrors.waiting
  · simpa using mirrors.objects
  · simpa using mirrors.fresh
  · simpa using mirrors.alone.only
  · simpa using mirrors.alone.nobody
  · simpa using mirrors.alone.running
  · rw [fault_disconnectIfAble, mirrors.alone.fault]

theorem followed_disconnectFailed {err : DocaError}
    (before : x.system.stack = .serverDisconnect c :: rest) (failed : err ≠ .success) :
    Followed c x u (.sdk err)
      (({ x.system with stack := rest } : System).record (.serverDisconnected c err)) := by
  obtain ⟨-, running, -⟩ := tame.shape.works before rfl
  have stack := stack_pop mirrors before running
  refine ⟨({ u with stack := ownFrames c rest x.marks.tail } : System).record
    (.serverDisconnected 0 err), ?_, ?_, mirrors.waiting, mirrors.objects, mirrors.fresh,
    mirrors.alone.only, mirrors.alone.nobody, mirrors.alone.running, mirrors.alone.fault⟩
  · simp [System.step, mirrors.alone.fault, System.sdkReturn, stack, failed]
  · exact stack_replace _ tame before [] rfl ⟨running, rfl, rfl⟩

theorem followed_disconnectSucceeded (before : x.system.stack = .serverDisconnect c :: rest) :
    Followed c x u (.sdk .success)
      ((({ x.system with stack := rest } : System).record
        (.serverDisconnected c .success)).signalDisconnect c) := by
  obtain ⟨-, running, -⟩ := tame.shape.works before rfl
  have stack := stack_pop mirrors before running
  refine ⟨(({ u with stack := ownFrames c rest x.marks.tail } : System).record
    (.serverDisconnected 0 .success)).signalDisconnect 0, ?_, ?_,
    mirrors.waiting.mapMessages AccepterQueues.markDisconnected,
    mirrors.objects.mapChannel ({ · with state := .disconnected }), mirrors.fresh,
    mirrors.alone.only, mirrors.alone.nobody, mirrors.alone.running, mirrors.alone.fault⟩
  · simp [System.step, mirrors.alone.fault, System.sdkReturn, stack]
  · exact stack_replace _ tame before [.releaseMessages c] rfl ⟨running, rfl, rfl⟩

theorem followed_messagesRound {queues : AccepterQueues Message} {coro : Option Coro}
    (before : x.system.stack = .releaseMessages c :: rest)
    (round : (x.system.waiting.messages c).release = some (queues, coro)) :
    Followed c x u .tick
      (({ x.system with
        waiting := { x.system.waiting with
          messages := Function.update x.system.waiting.messages c queues }
        stack := .releaseMessages c :: rest } : System).resume coro) := by
  obtain ⟨-, running, -⟩ := tame.shape.works before rfl
  have stack := stack_pop mirrors before running
  rw [← mirrors.waiting.messages] at round
  refine ⟨({ u with
    waiting := { u.waiting with messages := Function.update u.waiting.messages 0 queues }
    stack := .releaseMessages 0 :: ownFrames c rest x.marks.tail } : System).resume coro, ?_, ?_⟩
  · simp only [Label.renamed, System.step, mirrors.alone.fault, System.tick, stack, Frame.renamed,
      releaseMessagesNext, round]
    rfl
  simp only [resume_eq]
  refine ⟨?_, mirrors.waiting.mapMessages fun _ => queues, mirrors.objects, mirrors.fresh,
    mirrors.alone.only, mirrors.alone.nobody, mirrors.alone.running, mirrors.alone.fault⟩
  refine Eq.trans ?_ (stack_replace _ tame before (callers coro ++ [.releaseMessages c]) (by simp)
    ⟨running, rfl, rfl⟩)
  simp

theorem followed_messagesEnded (before : x.system.stack = .releaseMessages c :: rest)
    (ended : (x.system.waiting.messages c).release = none) :
    Followed c x u .tick
      { x.system with
        waiting := { x.system.waiting with
          consumers := Function.update x.system.waiting.consumers c
            (x.system.waiting.consumers c).markDisconnected }
        stack := .releaseConsumers c :: rest } := by
  obtain ⟨-, running, -⟩ := tame.shape.works before rfl
  have stack := stack_pop mirrors before running
  rw [← mirrors.waiting.messages] at ended
  refine ⟨{ u with
      waiting := { u.waiting with
        consumers := Function.update u.waiting.consumers 0
          (u.waiting.consumers 0).markDisconnected }
      stack := .releaseConsumers 0 :: ownFrames c rest x.marks.tail }, ?_, ?_,
    mirrors.waiting.mapConsumers AccepterQueues.markDisconnected, mirrors.objects, mirrors.fresh,
    mirrors.alone.only, mirrors.alone.nobody, mirrors.alone.running, mirrors.alone.fault⟩
  · simp only [Label.renamed, System.step, mirrors.alone.fault, System.tick, stack, Frame.renamed,
      releaseMessagesNext, ended]
    rfl
  · exact stack_replace _ tame before [.releaseConsumers c] rfl ⟨running, rfl, rfl⟩

theorem followed_consumersRound {queues : AccepterQueues ConsumerId} {coro : Option Coro}
    (before : x.system.stack = .releaseConsumers c :: rest)
    (round : (x.system.waiting.consumers c).release = some (queues, coro)) :
    Followed c x u .tick
      (({ x.system with
        waiting := { x.system.waiting with
          consumers := Function.update x.system.waiting.consumers c queues }
        stack := .releaseConsumers c :: rest } : System).resume coro) := by
  obtain ⟨-, running, -⟩ := tame.shape.works before rfl
  have stack := stack_pop mirrors before running
  rw [← mirrors.waiting.consumers] at round
  refine ⟨({ u with
    waiting := { u.waiting with consumers := Function.update u.waiting.consumers 0 queues }
    stack := .releaseConsumers 0 :: ownFrames c rest x.marks.tail } : System).resume coro, ?_, ?_⟩
  · simp only [Label.renamed, System.step, mirrors.alone.fault, System.tick, stack, Frame.renamed,
      releaseConsumersNext, round]
    rfl
  simp only [resume_eq]
  refine ⟨?_, mirrors.waiting.mapConsumers fun _ => queues, mirrors.objects, mirrors.fresh,
    mirrors.alone.only, mirrors.alone.nobody, mirrors.alone.running, mirrors.alone.fault⟩
  refine Eq.trans ?_ (stack_replace _ tame before (callers coro ++ [.releaseConsumers c]) (by simp)
    ⟨running, rfl, rfl⟩)
  simp

theorem followed_consumersEnded {handle : Handle}
    (before : x.system.stack = .releaseConsumers c :: rest)
    (ended : (x.system.waiting.consumers c).release = none)
    (role : (x.system.channel c).role = .connection handle) :
    Followed c x u .tick
      ((({ x.system with stack := rest } : System).resumeSlot
        (.disconnect c)).serverSignalDisconnect handle) := by
  obtain ⟨-, running, -⟩ := tame.shape.works before rfl
  have stack := stack_pop mirrors before running
  have role' : (u.channel 0).role = .connection handle := by
    rw [channel, mirrors.objects.channel, ← channel, role]
  rw [← mirrors.waiting.consumers] at ended
  have after : ((({ x.system with stack := rest } : System).resumeSlot
      (.disconnect c)).serverSignalDisconnect handle).stack =
      callers (x.system.waiting.slot (.disconnect c)) ++ rest := by
    rw [stack_serverSignalDisconnect, if_neg (by simp [tame.running.1]), stack_resumeSlot]
  refine ⟨(({ u with stack := ownFrames c rest x.marks.tail } : System).resumeSlot
    (.disconnect 0)).serverSignalDisconnect handle, ?_, ?_, ?_, ?_, ?_, ?_, ?_, ?_, ?_⟩
  · simp only [Label.renamed, System.step, mirrors.alone.fault, System.tick, stack, Frame.renamed,
      releaseConsumersNext, ended, afterRelease, channel, role']
    rfl
  · rw [← stack_replace .tick tame before _ after ⟨running, rfl, rfl⟩,
      stack_serverSignalDisconnect, if_neg (by simp [mirrors.alone.running.1]), stack_resumeSlot,
      map_renamed_callers, mirrors.waiting.slot]
  · simpa [waiting_resumeSlot] using mirrors.waiting.setSlot none
  · simpa using mirrors.objects.erase handle
  · simpa using mirrors.fresh
  · simpa using mirrors.alone.only
  · simpa [waiting_resumeSlot] using mirrors.alone.nobody
  · simpa using mirrors.alone.running
  · rw [fault_serverSignalDisconnect]
    simp [resumeSlot, resume_eq, mirrors.alone.fault]

end Running

/-- The second system follows every step about the connection. -/
theorem follow (tame : Tame x) (mirrors : Mirrors c x u) (move : Move x.active x.system label t)
    (own : x.concerns label = some c) : Followed c x u label t := by
  cases move with
  | unknown empty nobody => cases nobody.symm.trans own
  | failed empty => exact followed_failed tame mirrors empty own
  | connect empty fresh => exact followed_connect tame mirrors empty fresh (Option.some.inj own)
  | disconnection empty found =>
    obtain rfl := Option.some.inj (found.symm.trans own)
    exact followed_disconnection tame mirrors empty found
  | message empty found =>
    obtain rfl := Option.some.inj (found.symm.trans own)
    exact followed_message tame mirrors empty found
  | newConsumer empty found =>
    obtain rfl := Option.some.inj (found.symm.trans own)
    exact followed_newConsumer tame mirrors empty found
  | expiredConsumer empty found =>
    obtain rfl := Option.some.inj (found.symm.trans own)
    exact followed_expiredConsumer tame mirrors empty found
  | serverReported | accept => cases own
  | msgRecv control permitted handed =>
    obtain rfl := Option.some.inj own
    exact followed_msgRecv tame mirrors control permitted handed
  | acceptConsumer control permitted handed =>
    obtain rfl := Option.some.inj own
    exact followed_acceptConsumer tame mirrors control permitted handed
  | coAwait control permitted awaitable =>
    exact followed_coAwait tame mirrors control (permitted c own) own awaitable
  | disconnect control permitted handed =>
    obtain rfl := Option.some.inj own
    exact followed_disconnect tame mirrors control permitted handed
  | suspended before => exact followed_suspended tame mirrors before own
  | stoppedAll before =>
    obtain rfl := Option.some.inj ((tame.shape.works before rfl).2.1.symm.trans own)
    exact followed_stoppedAll tame mirrors before
  | disconnectFailed before failed =>
    obtain rfl := Option.some.inj ((tame.shape.works before rfl).2.1.symm.trans own)
    exact followed_disconnectFailed tame mirrors before failed
  | disconnectSucceeded before =>
    obtain rfl := Option.some.inj ((tame.shape.works before rfl).2.1.symm.trans own)
    exact followed_disconnectSucceeded tame mirrors before
  | messagesRound before round =>
    obtain rfl := Option.some.inj ((tame.shape.works before rfl).2.1.symm.trans own)
    exact followed_messagesRound tame mirrors before round
  | messagesEnded before ended =>
    obtain rfl := Option.some.inj ((tame.shape.works before rfl).2.1.symm.trans own)
    exact followed_messagesEnded tame mirrors before ended
  | consumersRound before round =>
    obtain rfl := Option.some.inj ((tame.shape.works before rfl).2.1.symm.trans own)
    exact followed_consumersRound tame mirrors before round
  | consumersEnded before ended role =>
    obtain rfl := Option.some.inj ((tame.shape.works before rfl).2.1.symm.trans own)
    exact followed_consumersEnded tame mirrors before ended role

end Mirrors

/-! ## What the SDK reports for a connection -/

namespace System

variable {s t : System} {label : Label} {active : Option ChannelId} {c c' : ChannelId}

theorem supplied_update {queues : ChannelId → AccepterQueues Message} {q : AccepterQueues Message}
    (same : q.supplied = (queues c').supplied) :
    (Function.update queues c' q c).supplied = (queues c).supplied := by
  by_cases here : c = c'
  · subst here
    simpa using same
  · rw [Function.update_of_ne here]

/-- A message event supplies its message, and nothing else does. -/
theorem supplied_move (move : Move active s label t) :
    (t.waiting.messages c).supplied =
      (s.waiting.messages c).supplied ++ (s.heard c label).toList := by
  cases move with
  | @message peer c' message empty found =>
    simp only [supplyMessage, waiting_resume, heard, found, Option.some.injEq]
    by_cases here : c' = c
    · subst here
      simp
    · rw [if_neg here, Function.update_of_ne (Ne.symm here)]
      simp
  | @unknown event empty nobody =>
    cases event with
    | message peer message =>
      have missed : s.objects.resolve peer ≠ some c := by
        rw [show s.objects.resolve peer = none from nobody]
        simp
      simp [heard, missed]
    | _ => simp [heard]
  | connect => simp [System.connect, heard]
  | disconnection | disconnectSucceeded =>
    simp only [heard, Option.toList_none, List.append_nil]
    exact supplied_update rfl
  | newConsumer => simp [supplyConsumer, heard]
  | @serverReported next _ goesOn =>
    cases next with
    | running => simp [serverChange, waiting_resumeSlot, heard]
    | idle => contradiction
    | starting | stopping => simp [serverChange, heard]
  | msgRecv =>
    simp only [heard, Option.toList_none, List.append_nil]
    exact supplied_update AccepterQueues.supplied_accept
  | @coAwait point coro =>
    simp only [heard, Option.toList_none, List.append_nil]
    cases point with
    | message c' ticket => exact supplied_update rfl
    | consumer _ _ | connection _ => rfl
    | disconnect _ | started _ | stopped _ =>
      simp only [System.coAwait]
      split <;> rfl
  | messagesRound before round =>
    simp only [heard, Option.toList_none, List.append_nil, waiting_resume]
    exact supplied_update (AccepterQueues.supplied_release round)
  | consumersEnded => simp [heard, waiting_resumeSlot]
  | _ => simp [heard, expireConsumer]

end System

namespace Marked

open Comch.System

variable {x y : Marked} {s t : System} {label : Label} {labels : List Label} {c : ChannelId}

theorem step_eq_some : x.step label = some y ↔
    ∃ t, x.system.step label = some t ∧ y = ⟨t, x.mark label t⟩ := by
  unfold step
  rw [Option.map_eq_some_iff]
  exact exists_congr fun t => and_congr_right fun _ => eq_comm

/-- Every run of the system can be marked. -/
theorem exec_marked (reached : exec System.step x.system labels = some t) :
    ∃ marks, exec step x labels = some ⟨t, marks⟩ := by
  induction labels generalizing x with
  | nil =>
    obtain rfl := Option.some.inj reached
    exact ⟨x.marks, rfl⟩
  | cons label rest ih =>
    obtain ⟨next, taken, later⟩ := Option.bind_eq_some_iff.mp reached
    obtain ⟨marks, run⟩ := ih (x := ⟨next, x.mark label next⟩) later
    refine ⟨marks, ?_⟩
    rw [exec, step_eq_some.mpr ⟨next, taken, rfl⟩]
    exact run

/-- A step of a run in which connections are kept apart is a move, and keeps what is known. -/
theorem step_apart (sound : x.system.Sound) (tame : Tame x) (apart : x.Apart label)
    (taken : x.step label = some y) :
    ∃ t, y = ⟨t, x.mark label t⟩ ∧ Move x.active x.system label t ∧ y.system.Sound ∧ Tame y := by
  obtain ⟨t, stepped, rfl⟩ := step_eq_some.mp taken
  have move := step_move tame apart stepped
  exact ⟨t, rfl, move, sound_step sound (sound.taken stepped), tame_move sound tame move⟩

/-- The second system runs along the steps that are about the connection. -/
theorem mirrored_of_run {u : System} (run : Run step Apart x labels y) (sound : x.system.Sound)
    (tame : Tame x) (mirrors : Mirrors c x u) :
    ∃ u', Run System.step Always u (subRun step (own c) x labels) u' ∧
      y.system.Sound ∧ Tame y ∧ Mirrors c y u' := by
  refine run.simulates (R := fun x u => x.system.Sound ∧ Tame x ∧ Mirrors c x u) ?omitted
    ?followed ⟨sound, tame, mirrors⟩
  case omitted =>
    rintro x label y u ⟨sound, tame, mirrors⟩ apart taken omitted
    obtain ⟨t, rfl, move, sound', tame'⟩ := step_apart sound tame apart taken
    have other : x.concerns label ≠ some c := by
      intro about
      rw [own, if_pos about] at omitted
      contradiction
    exact ⟨sound', tame', mirrors.foreign sound tame move other⟩
  case followed =>
    rintro x label y u renamed ⟨sound, tame, mirrors⟩ apart taken followed
    obtain ⟨t, rfl, move, sound', tame'⟩ := step_apart sound tame apart taken
    unfold own at followed
    rw [Option.ite_none_right_eq_some] at followed
    obtain ⟨about, same⟩ := followed
    obtain rfl := Option.some.inj same
    obtain ⟨u', moved, mirrors'⟩ := mirrors.follow tame move about
    exact ⟨u', moved, sound', tame', mirrors'⟩

/-- The messages supplied to a connection are those that the SDK has reported for it. -/
theorem supplied_of_run (run : Run step Apart x labels y) (sound : x.system.Sound)
    (tame : Tame x) :
    (y.system.waiting.messages c).supplied = (x.system.waiting.messages c).supplied ++
      subRun step (fun x => x.system.heard c) x labels := by
  refine run.accumulates (fun x => x.system.Sound ∧ Tame x)
    (fun x => (x.system.waiting.messages c).supplied) ?_ ⟨sound, tame⟩
  rintro x label y ⟨sound, tame⟩ apart taken
  obtain ⟨t, rfl, move, sound', tame'⟩ := step_apart sound tame apart taken
  exact ⟨⟨sound', tame'⟩, supplied_move move⟩

/-- Connections do not interfere. In a run of a server that is not being stopped, in which code
that runs for a connection acts on no other one, the calls and events that are about a connection
are a run by themselves, in which the queues of the connection are the same. In particular, what
is received are the messages that were reported for the connection, from the first one on. Events
are for the connection that was made under their handle and is not disconnected. -/
theorem connections_do_not_interfere (labels : List Label) (s : System)
    (run : Run System.step Always {} labels s) (apart : Meets step Apart {} labels)
    (c : ChannelId) :
    (∃ u, Run System.step Always {} (subRun step (own c) {} labels) u ∧
      u.waiting.messages 0 = s.waiting.messages c ∧
      u.waiting.consumers 0 = s.waiting.consumers c ∧
      u.waiting.remotes 0 = s.waiting.remotes c) ∧
    (s.waiting.messages c).delivered <+: subRun step (fun x => x.system.heard c) {} labels ∧
    (s.stack = [] → ∀ handle, s.objects.resolve (.connection handle) = some c ↔
      (s.channel c).role = .connection handle ∧ (s.channel c).state ≠ .disconnected) := by
  obtain ⟨marks, reached⟩ := exec_marked (x := {}) run.reached
  have marked : Run step Apart {} labels ⟨s, marks⟩ := ⟨reached, apart⟩
  have serving := serving_of_run run serving_init
  refine ⟨?_, ?_, fun empty handle => serving.sound.listed.resolve_eq_some empty⟩
  · obtain ⟨u, alone, -, -, mirrors⟩ := mirrored_of_run marked sound_init tame_init .init
    exact ⟨u, alone, mirrors.waiting.messages, mirrors.waiting.consumers, mirrors.waiting.remotes⟩
  · have supplied := supplied_of_run (c := c) marked sound_init tame_init
    have orderly := (serving.inOrder.messages c).1
    refine ⟨(s.waiting.messages c).pendingData, ?_⟩
    exact orderly.conserved.trans supplied

/-- A coroutine takes a connection and serves it: it waits for a message, and then disconnects.
Meanwhile another connection is made, which gets messages before, between and after. -/
def takingTurns : List Label :=
  [.call .accept, .call (.coAwait (.connection 0) 5),
    .event (.connection 7 true (.position 0)),
    .call (.msgRecv 0), .call (.coAwait (.message 0 0) 5), .ret,
    .event (.connection 8 true (.position 0)), .event (.message (.connection 8) [1]),
    .event (.message (.connection 7) [2]),
    .call (.disconnect 0), .tick, .sdk .success, .tick, .tick, .ret,
    .event (.message (.connection 8) [3]), .call (.msgRecv 1), .call (.msgRecv 1)]

theorem connections_do_not_interfere_takingTurns :
    ∃ s, Run System.step Always {} takingTurns s ∧ Meets step Apart {} takingTurns ∧
      subRun step (own 1) {} takingTurns =
        [.event (.connection 8 true (.position 0)), .event (.message (.connection 8) [1]),
          .event (.message (.connection 8) [3]), .call (.msgRecv 0), .call (.msgRecv 0)] ∧
      (s.waiting.messages 1).delivered = [[1], [3]] ∧
      (∃ u, Run System.step Always {} (subRun step (own 1) {} takingTurns) u ∧
        u.waiting.messages 0 = s.waiting.messages 1) ∧
      (s.waiting.messages 1).delivered <+:
        subRun step (fun x => x.system.heard 1) {} takingTurns ∧
      s.objects.resolve (.connection 8) = some 1 ∧ (s.channel 1).role = .connection 8 ∧
      (s.channel 1).state ≠ .disconnected := by
  have run : Run System.step Always {} takingTurns _ := ⟨rfl, meets_always _ _⟩
  have apart : Meets step Apart {} takingTurns := by decide
  obtain ⟨⟨u, alone, messages, -⟩, received, resolved⟩ :=
    connections_do_not_interfere takingTurns _ run apart 1
  have found := (resolved rfl 8).mp (by decide)
  exact ⟨_, run, apart, by decide, by decide, ⟨u, alone, messages⟩, received, by decide, found⟩

end Marked

end Shoc.Comch

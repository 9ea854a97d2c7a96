/-
# Code that runs for a connection

Any number of connections of one server share a thread, the registry of open
connections and the SDK. What runs is marked here with the connection it runs for:
a coroutine that is resumed by an event of a connection, or when the connection is
torn down, runs for that connection, and so do the functions that tear it down.
Coroutines that are resumed with a new connection, and code that is no coroutine, run
for none. The marks are an annotation of the stack and restrict nothing.

The runs of interest are those in which code that runs for a connection acts on no
other one, and the server is not being stopped; children and clients are left aside.
In such a run the stack has a simple form. A connection that is torn down resumes
coroutines that run for it, which find it disconnected and so do not begin anything;
below stands at most the caller who has begun the teardown.
-/

import Shoc.Comch.Release

namespace Shoc.Comch

open Common Data Transition

/-! ## The connection that something is about -/

/-- The connection whose awaitable it is. -/
@[simp] def AwaitPoint.owner : AwaitPoint → Option ChannelId
  | .message c _ | .consumer c _ | .disconnect c => some c
  | .connection _ | .started _ | .stopped _ => none

/-- The connection that is called. -/
@[simp] def UserCall.owner : UserCall → Option ChannelId
  | .msgRecv c | .acceptConsumer c | .disconnect c => some c
  | .coAwait point _ => point.owner
  | .stopServer | .create _ _ | .stopChild _ | .createClient | .accept => none

/-- The connection an event is about; a new one has the next number. -/
@[simp] def System.target (s : System) : SdkEvent → Option ChannelId
  | .connection _ true _ => some s.objects.channelCount
  | .connection _ false _ => none
  | .disconnection handle _ => s.objects.resolve (.connection handle)
  | .message peer _ | .newConsumer peer _ | .expiredConsumer peer _ => s.objects.resolve peer

/-! ## Marks -/

/-- The system with a mark for every frame of the stack: the connection it runs for. -/
structure Marked where
  system : System := {}
  marks : List (Option ChannelId) := []

/-- What is below the frames that a step adds: a return and the next part of a function take
the frame on top of the stack away first. -/
@[simp] def Label.below {α : Type} (list : List α) : Label → List α
  | .ret | .sdk _ | .tick => list.tail
  | .call _ | .event _ | .change _ _ => list

namespace Marked

variable (x : Marked)

/-- The connection that the code on top of the stack runs for. -/
def active : Option ChannelId := x.marks.headD none

/-- The connection that a step is about. -/
@[simp] def concerns : Label → Option ChannelId
  | .call call => call.owner
  | .event event => x.system.target event
  | .change _ _ => none
  | .ret | .sdk _ | .tick => x.active

/-- The connection for which everything runs that a step sets going. -/
@[simp] def runsFor : Label → Option ChannelId
  | .event (.connection _ _ _) => none
  | label => x.concerns label

/-- The marks after a step. -/
def mark (label : Label) (t : System) : List (Option ChannelId) :=
  List.replicate (t.stack.length - (label.below x.marks).length) (x.runsFor label) ++
    label.below x.marks

/-- A step of the system, with the marks. -/
def step (label : Label) : Option Marked :=
  (x.system.step label).map fun t => { system := t, marks := x.mark label t }

/-- The server is not being stopped, and code that runs for a connection acts on no other
connection. -/
def Apart : Label → Prop
  | .call call =>
      match call with
      | .msgRecv _ | .acceptConsumer _ | .disconnect _ | .accept | .coAwait _ _ =>
          ∀ c ∈ call.owner, x.active = none ∨ x.active = some c
      | .stopServer | .create _ _ | .stopChild _ | .createClient => False
  | .change ctx next => ctx = .server ∧ next ≠ .idle
  | .ret | .event _ | .sdk _ | .tick => True

instance : (label : Label) → Decidable (x.Apart label)
  | .call call =>
      match call with
      | .msgRecv _ | .acceptConsumer _ | .disconnect _ | .accept | .coAwait _ _ =>
          Option.decidableForallMem _
      | .stopServer | .create _ _ | .stopChild _ | .createClient =>
          inferInstanceAs (Decidable False)
  | .change ctx next => inferInstanceAs (Decidable (ctx = .server ∧ next ≠ .idle))
  | .ret | .event _ | .sdk _ | .tick => inferInstanceAs (Decidable True)

end Marked

/-! ## The form of the stack -/

namespace System

/-- A coroutine as the whole stack, or nothing. -/
def callers (caller : Option Coro) : List Frame := caller.toList.map .coroutine

/-- A frame of the teardown of a connection. -/
def Works (s : System) (c : ChannelId) (frame : Frame) : Prop :=
  (∃ handle, (s.channel c).role = .connection handle) ∧
    (frame = .stopAll c ⟨none, 0⟩ ∨ frame = .serverDisconnect c ∨ frame = .releaseMessages c ∨
      frame = .releaseConsumers c)

end System

namespace Marked

open Comch.System

/-- The form of the stack: user code; the teardown of a connection that user code or the SDK
has begun; or a coroutine that was resumed by the teardown of a connection. -/
inductive Shape (x : Marked) : Prop
  | user (caller : Option Coro) (stack : x.system.stack = callers caller)
  | teardown (c : ChannelId) (work : Frame) (caller : Option Coro) (below : List (Option ChannelId))
      (works : x.system.Works c work) (stack : x.system.stack = work :: callers caller)
      (marks : x.marks = some c :: below)
  | inside (c : ChannelId) (coro : Coro) (work : Option Frame) (caller : Option Coro)
      (below : List (Option ChannelId)) (works : ∀ frame ∈ work, x.system.Works c frame)
      (down : (x.system.channel c).state = .disconnected)
      (stack : x.system.stack = .coroutine coro :: (work.toList ++ callers caller))
      (marks : x.marks = some c :: (work.toList.map (fun _ => some c) ++ below))

/-- What holds at every moment of a run in which connections are kept apart. -/
structure Tame (x : Marked) : Prop where
  children : ∀ c, (x.system.channel c).activeChildren = {}
  connections : ∀ c, (x.system.channel c).handed = true →
    ∃ handle, (x.system.channel c).role = .connection handle
  running : x.system.objects.stopRequested = false ∧ x.system.objects.server.idled = false
  lengths : x.marks.length = x.system.stack.length
  shape : Shape x

end Marked

namespace System

/-- Everything that one step of a run can do in which connections are kept apart, given the
connection that the code on top of the stack runs for. -/
inductive Move (active : Option ChannelId) (s : System) : Label → System → Prop
  | unknown {event : SdkEvent} (empty : s.stack = []) (nobody : s.target event = none) :
      Move active s (.event event) s
  | failed {handle : Handle} (empty : s.stack = []) :
      Move active s (.event (.disconnection handle false)) s
  | connect {handle : Handle} {placement : Placement Handle} (empty : s.stack = [])
      (fresh : handle ∉ s.objects.openConnections) :
      Move active s (.event (.connection handle true placement)) (s.connect handle placement)
  | disconnection {handle : Handle} {c : ChannelId} (empty : s.stack = [])
      (found : s.objects.resolve (.connection handle) = some c) :
      Move active s (.event (.disconnection handle true)) (s.signalDisconnect c)
  | message {peer : Peer} {c : ChannelId} {message : Message} (empty : s.stack = [])
      (found : s.objects.resolve peer = some c) :
      Move active s (.event (.message peer message)) (s.supplyMessage c message)
  | newConsumer {peer : Peer} {c : ChannelId} {id : ConsumerId} (empty : s.stack = [])
      (found : s.objects.resolve peer = some c) :
      Move active s (.event (.newConsumer peer id)) (s.supplyConsumer c id)
  | expiredConsumer {peer : Peer} {c : ChannelId} {id : ConsumerId} (empty : s.stack = [])
      (found : s.objects.resolve peer = some c) :
      Move active s (.event (.expiredConsumer peer id)) (s.expireConsumer c id)
  | serverReported {next : CtxState} (empty : s.stack = []) (goesOn : next ≠ .idle) :
      Move active s (.change .server next) (s.serverChange next)
  | msgRecv {c : ChannelId} (control : s.userControl = true)
      (permitted : active = none ∨ active = some c)
      (handed : (s.channel c).handed = true) :
      Move active s (.call (.msgRecv c))
        { s with waiting := { s.waiting with
          messages := Function.update s.waiting.messages c (s.waiting.messages c).accept } }
  | acceptConsumer {c : ChannelId} (control : s.userControl = true)
      (permitted : active = none ∨ active = some c)
      (handed : (s.channel c).handed = true) :
      Move active s (.call (.acceptConsumer c))
        { s with waiting := { s.waiting with
          consumers := Function.update s.waiting.consumers c (s.waiting.consumers c).accept } }
  | accept :
      Move active s (.call .accept)
        { s with waiting := { s.waiting with connections := s.waiting.connections.accept } }
  | coAwait {point : AwaitPoint} {coro : Coro} (control : s.userControl = true)
      (permitted : ∀ c ∈ point.owner, active = none ∨ active = some c)
      (awaitable : s.awaitable point = true) :
      Move active s (.call (.coAwait point coro)) { s with waiting := s.coAwait coro point }
  | disconnect {c : ChannelId} (control : s.userControl = true)
      (permitted : active = none ∨ active = some c)
      (handed : (s.channel c).handed = true) :
      Move active s (.call (.disconnect c)) (s.disconnect c)
  | suspended {coro : Coro} {callers : List Frame} (before : s.stack = .coroutine coro :: callers) :
      Move active s .ret { s with stack := callers }
  | stoppedAll {c : ChannelId} {callers : List Frame}
      (before : s.stack = .stopAll c ⟨none, 0⟩ :: callers) :
      Move active s .tick ({ s with stack := callers }.disconnectIfAble c)
  | disconnectFailed {c : ChannelId} {callers : List Frame} {err : DocaError}
      (before : s.stack = .serverDisconnect c :: callers) (failed : err ≠ .success) :
      Move active s (.sdk err) ({ s with stack := callers }.record (.serverDisconnected c err))
  | disconnectSucceeded {c : ChannelId} {callers : List Frame}
      (before : s.stack = .serverDisconnect c :: callers) :
      Move active s (.sdk .success)
        (({ s with stack := callers }.record (.serverDisconnected c .success)).signalDisconnect c)
  | messagesRound {c : ChannelId} {queues : AccepterQueues Message} {coro : Option Coro}
      {callers : List Frame} (before : s.stack = .releaseMessages c :: callers)
      (round : (s.waiting.messages c).release = some (queues, coro)) :
      Move active s .tick
        ({ s with
          waiting := { s.waiting with
            messages := Function.update s.waiting.messages c queues }
          stack := .releaseMessages c :: callers : System }.resume coro)
  | messagesEnded {c : ChannelId} {callers : List Frame}
      (before : s.stack = .releaseMessages c :: callers)
      (ended : (s.waiting.messages c).release = none) :
      Move active s .tick
        { s with
          waiting := { s.waiting with
            consumers := Function.update s.waiting.consumers c
              (s.waiting.consumers c).markDisconnected }
          stack := .releaseConsumers c :: callers }
  | consumersRound {c : ChannelId} {queues : AccepterQueues ConsumerId} {coro : Option Coro}
      {callers : List Frame} (before : s.stack = .releaseConsumers c :: callers)
      (round : (s.waiting.consumers c).release = some (queues, coro)) :
      Move active s .tick
        ({ s with
          waiting := { s.waiting with
            consumers := Function.update s.waiting.consumers c queues }
          stack := .releaseConsumers c :: callers : System }.resume coro)
  | consumersEnded {c : ChannelId} {handle : Handle} {callers : List Frame}
      (before : s.stack = .releaseConsumers c :: callers)
      (ended : (s.waiting.consumers c).release = none)
      (role : (s.channel c).role = .connection handle) :
      Move active s .tick
        (({ s with stack := callers : System }.resumeSlot (.disconnect c)).serverSignalDisconnect
          handle)

end System

namespace Marked

open Comch.System

variable {x : Marked} {t : System} {label : Label}

/-- On top of the stack is a coroutine, or the teardown of a connection. -/
theorem Shape.top (shape : Shape x) {frame : Frame} {rest : List Frame}
    (before : x.system.stack = frame :: rest) : (∃ coro, frame = .coroutine coro) ∨
      ∃ c, x.system.Works c frame ∧ ∃ caller, rest = callers caller := by
  cases shape with
  | user caller stack =>
    have both := before.symm.trans stack
    cases caller with
    | none => contradiction
    | some coro => exact .inl ⟨coro, (List.cons.inj both).1⟩
  | teardown c work caller below works stack marks =>
    obtain ⟨rfl, rfl⟩ := List.cons.inj (before.symm.trans stack)
    exact .inr ⟨c, works, caller, rfl⟩
  | inside c coro work caller below works down stack marks =>
    exact .inl ⟨coro, (List.cons.inj (before.symm.trans stack)).1⟩

/-- What tears a connection down runs for that connection and stands on its caller. -/
theorem Shape.works (shape : Shape x) {frame : Frame} {rest : List Frame} {c : ChannelId}
    (before : x.system.stack = frame :: rest) (tears : frame.tearsDown = some c) :
    x.system.Works c frame ∧ x.active = some c ∧ ∃ caller, rest = callers caller := by
  cases shape with
  | user caller stack =>
    have both := before.symm.trans stack
    cases caller with
    | none => contradiction
    | some coro =>
      obtain ⟨rfl, -⟩ := List.cons.inj both
      contradiction
  | teardown other work caller below works stack marks =>
    obtain ⟨rfl, rfl⟩ := List.cons.inj (before.symm.trans stack)
    obtain rfl : other = c := by
      obtain rfl | rfl | rfl | rfl := works.2 <;> simpa using tears
    exact ⟨works, by simp [active, marks], caller, rfl⟩
  | inside other coro work caller below works down stack marks =>
    obtain ⟨rfl, -⟩ := List.cons.inj (before.symm.trans stack)
    contradiction

theorem call_move {call : UserCall} (apart : x.Apart (.call call))
    (control : x.system.userControl = true) (taken : x.system.call call = some t) :
    Move x.active x.system (.call call) t := by
  cases call with
  | msgRecv c =>
    simp only [System.call, Option.ite_none_right_eq_some, Option.some.injEq] at taken
    obtain ⟨handed, rfl⟩ := taken
    exact .msgRecv control (apart c rfl) handed
  | acceptConsumer c =>
    simp only [System.call, Option.ite_none_right_eq_some, Option.some.injEq] at taken
    obtain ⟨handed, rfl⟩ := taken
    exact .acceptConsumer control (apart c rfl) handed
  | disconnect c =>
    simp only [System.call, Option.ite_none_right_eq_some, Option.some.injEq] at taken
    obtain ⟨handed, rfl⟩ := taken
    exact .disconnect control (apart c rfl) handed
  | accept =>
    obtain rfl := Option.some.inj taken
    exact .accept
  | coAwait point coro =>
    simp only [System.call, Option.ite_none_right_eq_some, Option.some.injEq] at taken
    obtain ⟨awaitable, rfl⟩ := taken
    exact .coAwait control apart awaitable
  | stopServer | create _ _ | stopChild _ | createClient => exact apart.elim

theorem event_move {event : SdkEvent} (empty : x.system.stack = [])
    (taken : x.system.event event = some t) : Move x.active x.system (.event event) t := by
  cases event with
  | connection handle successful placement =>
    simp only [System.event, Option.ite_none_left_eq_some, not_or] at taken
    obtain ⟨⟨fresh, -⟩, taken⟩ := taken
    cases successful with
    | false =>
      obtain rfl := Option.some.inj taken
      exact .unknown empty rfl
    | true =>
      obtain rfl := Option.some.inj taken
      exact .connect empty fresh
  | disconnection handle successful =>
    simp only [System.event, Option.ite_none_left_eq_some] at taken
    obtain ⟨-, taken⟩ := taken
    split at taken
    · rename_i found
      obtain ⟨rfl, present⟩ := found
      obtain rfl := Option.some.inj taken
      exact .disconnection empty (if_pos present)
    · rename_i missing
      obtain rfl := Option.some.inj taken
      cases successful with
      | false => exact .failed empty
      | true => exact .unknown empty (if_neg (by simpa using missing))
  | message peer message =>
    simp only [System.event] at taken
    split at taken
    · obtain rfl := Option.some.inj taken
      exact .message empty ‹_›
    · obtain rfl := Option.some.inj taken
      exact .unknown empty ‹_›
  | newConsumer peer id =>
    simp only [System.event] at taken
    split at taken
    · obtain rfl := Option.some.inj taken
      exact .newConsumer empty ‹_›
    · obtain rfl := Option.some.inj taken
      exact .unknown empty ‹_›
  | expiredConsumer peer id =>
    simp only [System.event] at taken
    split at taken
    · obtain rfl := Option.some.inj taken
      exact .expiredConsumer empty ‹_›
    · obtain rfl := Option.some.inj taken
      exact .unknown empty ‹_›

theorem change_move {ctx : CtxId} {next : CtxState} (tame : Tame x)
    (apart : x.Apart (.change ctx next)) (reports : x.system.reports ctx = true)
    (taken : x.system.change ctx next = some t) : Move x.active x.system (.change ctx next) t := by
  obtain ⟨rfl, goesOn⟩ := apart
  simp only [System.change, Option.ite_none_right_eq_some, Option.some.injEq] at taken
  obtain ⟨-, rfl⟩ := taken
  refine .serverReported ?_ goesOn
  -- Without a call of `doca_ctx_stop` on the server in progress only an idle thread reports
  cases stack : x.system.stack with
  | nil => rfl
  | cons frame rest =>
    obtain ⟨coro, rfl⟩ | ⟨c, works, -⟩ := tame.shape.top stack
    · simp [System.reports, stack] at reports
    · obtain rfl | rfl | rfl | rfl := works.2 <;> simp [System.reports, stack] at reports

theorem tick_move (tame : Tame x) (taken : x.system.tick = some t) :
    Move x.active x.system .tick t := by
  unfold System.tick at taken
  split at taken
  · rename_i c next callers before
    obtain ⟨coro, clash⟩ | ⟨c', works, -⟩ := tame.shape.top before
    · cases clash
    · obtain rfl : next = ⟨none, 0⟩ := by
        obtain same | clash | clash | clash := works.2
        · exact (Frame.stopAll.inj same).2
        all_goals cases clash
      rw [tame.children c, if_pos (by decide)] at taken
      obtain rfl := Option.some.inj taken
      exact .stoppedAll before
  · rename_i c callers before
    obtain rfl := Option.some.inj taken
    unfold releaseMessagesNext
    split
    · exact .messagesRound before ‹_›
    · exact .messagesEnded before ‹_›
  · rename_i c callers before
    obtain rfl := Option.some.inj taken
    unfold releaseConsumersNext
    split
    · exact .consumersRound before ‹_›
    · rename_i ended
      obtain ⟨⟨handle, role⟩, -⟩ := (tame.shape.works before rfl).1
      simp only [afterRelease, channel, role]
      exact .consumersEnded before ended role
  · rename_i next callers before
    obtain ⟨coro, clash⟩ | ⟨c, works, -⟩ := tame.shape.top before
    · cases clash
    · simp [Works] at works
  · rename_i callers before
    obtain ⟨coro, clash⟩ | ⟨c, works, -⟩ := tame.shape.top before
    · cases clash
    · simp [Works] at works
  · rename_i callers before
    obtain ⟨coro, clash⟩ | ⟨c, works, -⟩ := tame.shape.top before
    · cases clash
    · simp [Works] at works
  · contradiction

theorem sdkReturn_move {err : DocaError} (tame : Tame x) (taken : x.system.sdkReturn err = some t) :
    Move x.active x.system (.sdk err) t := by
  -- The only call into the SDK is the one that disconnects
  have only : ∃ c callers, x.system.stack = .serverDisconnect c :: callers := by
    cases stack : x.system.stack with
    | nil => simp [System.sdkReturn, stack] at taken
    | cons frame rest =>
      obtain ⟨coro, rfl⟩ | ⟨c, works, -⟩ := tame.shape.top stack
      · simp [System.sdkReturn, stack] at taken
      · obtain rfl | rfl | rfl | rfl := works.2
        · simp [System.sdkReturn, stack] at taken
        · exact ⟨c, rest, rfl⟩
        · simp [System.sdkReturn, stack] at taken
        · simp [System.sdkReturn, stack] at taken
  obtain ⟨c, callers, before⟩ := only
  simp only [System.sdkReturn, before] at taken
  split at taken
  · rename_i succeeded
    subst succeeded
    obtain rfl := Option.some.inj taken
    exact .disconnectSucceeded before
  · rename_i failed
    obtain rfl := Option.some.inj taken
    exact .disconnectFailed before failed

/-- Every step is one of the cases. -/
theorem step_move (tame : Tame x) (apart : x.Apart label)
    (taken : x.system.step label = some t) : Move x.active x.system label t := by
  unfold System.step at taken
  rw [Option.ite_none_left_eq_some] at taken
  obtain ⟨-, taken⟩ := taken
  cases label with
  | call call =>
    simp only [Option.ite_none_right_eq_some] at taken
    exact call_move apart taken.1 taken.2
  | ret =>
    simp only at taken
    split at taken
    · obtain rfl := Option.some.inj taken
      exact .suspended ‹_›
    · contradiction
  | event event =>
    simp only [Option.ite_none_right_eq_some] at taken
    exact event_move taken.1 taken.2
  | change ctx next =>
    simp only [Option.ite_none_right_eq_some] at taken
    exact change_move tame apart taken.1 taken.2
  | sdk err => exact sdkReturn_move tame taken
  | tick => exact tick_move tame taken

/-! ## What a step adds to the stack -/

theorem length_below (lengths : x.marks.length = x.system.stack.length) :
    (label.below x.marks).length = (label.below x.system.stack).length := by
  cases label <;> simp [lengths]

/-- Everything that a step adds runs for the same connection. -/
theorem mark_eq (lengths : x.marks.length = x.system.stack.length) (new : List Frame)
    (stack : t.stack = new ++ label.below x.system.stack) :
    x.mark label t = List.replicate new.length (x.runsFor label) ++ label.below x.marks := by
  unfold mark
  rw [stack, List.length_append, length_below lengths, Nat.add_sub_cancel]

/-- Whatever takes the place of the frame on top of the stack runs for the same connection. -/
theorem mark_of_pop (lengths : x.marks.length = x.system.stack.length) {frame : Frame}
    {rest : List Frame} (before : x.system.stack = frame :: rest)
    (pops : x.runsFor label = x.active ∧ label.below x.system.stack = x.system.stack.tail ∧
      label.below x.marks = x.marks.tail) (new : List Frame) (stack : t.stack = new ++ rest) :
    x.mark label t = List.replicate new.length x.active ++ x.marks.tail := by
  obtain ⟨runs, frames, marks⟩ := pops
  rw [mark_eq lengths new (by rw [stack, frames, before, List.tail_cons]), runs, marks]

theorem length_mark (lengths : x.marks.length = x.system.stack.length) {new : List Frame}
    (stack : t.stack = new ++ label.below x.system.stack) :
    (x.mark label t).length = t.stack.length := by
  rw [mark_eq lengths new stack, stack, List.length_append, List.length_append,
    List.length_replicate, length_below lengths]

end Marked

namespace System

variable {s : System} {c : ChannelId}

@[simp] theorem objects_resume (coro : Option Coro) : (s.resume coro).objects = s.objects := by
  cases coro <;> rfl

theorem stack_resume (coro : Option Coro) : (s.resume coro).stack = callers coro ++ s.stack := by
  cases coro <;> rfl

@[simp] theorem objects_resumeSlot (slot : Slot) : (s.resumeSlot slot).objects = s.objects :=
  objects_resume _

theorem stack_resumeSlot (slot : Slot) :
    (s.resumeSlot slot).stack = callers (s.waiting.slot slot) ++ s.stack :=
  stack_resume _

end System

namespace Marked

open Comch.System

variable {x y : Marked} {t : System} {label : Label} {c : ChannelId}

/-! ## The form of the stack is kept -/

/-- The caller runs on, or a coroutine that waited for the end of the connection does. -/
theorem shape_of_resumed {coro caller : Option Coro} {below : List (Option ChannelId)}
    (down : (x.system.channel c).state = .disconnected)
    (stack : x.system.stack = callers coro ++ callers caller)
    (marks : x.marks = List.replicate (callers coro).length (some c) ++ below) : Shape x := by
  cases coro with
  | none => exact .user caller stack
  | some coro => exact .inside c coro none caller below (by simp) down stack marks

theorem Shape.congr (shape : Shape x) (objects : y.system.objects = x.system.objects)
    (stack : y.system.stack = x.system.stack) (marks : y.marks = x.marks) : Shape y := by
  cases shape with
  | user caller before => exact .user caller (stack.trans before)
  | teardown c work caller below works before marked =>
    refine .teardown c work caller below ?_ (stack.trans before) (marks.trans marked)
    simpa [Works, objects] using works
  | inside c coro work caller below works down before marked =>
    refine .inside c coro work caller below ?_ ?_ (stack.trans before) (marks.trans marked)
    · simpa [Works, objects] using works
    · simpa [objects] using down

theorem shape_disconnect (tame : Tame x) (control : x.system.userControl = true)
    (permitted : x.active = none ∨ x.active = some c)
    (handed : (x.system.channel c).handed = true) :
    Shape ⟨x.system.disconnect c, x.mark (.call (.disconnect c)) (x.system.disconnect c)⟩ := by
  have stack := stack_disconnect (s := x.system) (c := c)
  cases tame.shape with
  | user caller before =>
    split at stack
    · refine .teardown c _ caller x.marks ⟨?_, .inl rfl⟩ ?_
        (mark_eq tame.lengths [_] stack)
      · simpa using tame.connections c handed
      · rw [stack, before, tame.children c]
        rfl
    · exact .user caller (stack.trans before)
  | teardown other work caller below works before marks =>
    obtain rfl | rfl | rfl | rfl := works.2 <;> simp [userControl, before] at control
  -- The coroutine runs for the connection, which is disconnected already
  | inside other coro work caller below works down before marks =>
    obtain rfl : other = c := by simpa [active, marks] using permitted
    rw [if_neg (by simp [down])] at stack
    refine .inside other coro work caller below ?_ ?_ (stack.trans before)
      ((mark_eq tame.lengths [] stack).trans marks)
    · simpa [Works] using works
    · simp [down]

theorem shape_suspended (tame : Tame x) {coro : Coro} {rest : List Frame}
    (before : x.system.stack = .coroutine coro :: rest) :
    Shape ⟨{ x.system with stack := rest }, x.marks.tail⟩ := by
  cases tame.shape with
  | user caller stack =>
    have both := before.symm.trans stack
    cases caller with
    | none => contradiction
    | some other => exact .user none (List.cons.inj both).2
  | teardown c work caller below works stack marks =>
    obtain ⟨rfl, -⟩ := List.cons.inj (before.symm.trans stack)
    simp [Works] at works
  | inside c other work caller below works down stack marks =>
    obtain ⟨-, rfl⟩ := List.cons.inj (before.symm.trans stack)
    cases work with
    | none => exact .user caller rfl
    | some frame => exact .teardown c frame caller below (works frame rfl) rfl (by simp [marks])

/-- Accepters are released after the connection was marked disconnected. -/
theorem disconnected_of_releasing (sound : x.system.Sound) {frame : Frame} {rest : List Frame}
    (before : x.system.stack = frame :: rest) (releases : frame.releases = some c)
    (works : x.system.Works c frame) : (x.system.channel c).state = .disconnected := by
  obtain ⟨⟨handle, role⟩, -⟩ := works
  exact sound.listed.released c handle role
    (releasing.mem_see.mpr ⟨frame, by simp [before], releases⟩)

/-- A loop that releases accepters goes on, or a coroutine that it has resumed runs. -/
theorem shape_of_round (sound : x.system.Sound) (tame : Tame x) {work : Frame} {rest : List Frame}
    (before : x.system.stack = work :: rest) (releases : work.releases = some c)
    (tears : work.tearsDown = some c) (waiting : Waiting) (coro : Option Coro)
    (after : t =
      ({ x.system with waiting := waiting, stack := work :: rest } : System).resume coro) :
    Shape ⟨t, x.mark .tick t⟩ := by
  obtain ⟨works, active, caller, rfl⟩ := tame.shape.works before tears
  have down := disconnected_of_releasing sound before releases works
  have stack : t.stack = (callers coro ++ [work]) ++ callers caller := by
    rw [after, stack_resume]
    simp
  have marks : x.mark .tick _ = _ := mark_of_pop tame.lengths before ⟨rfl, rfl, rfl⟩ _ stack
  have objects : t.objects = x.system.objects := by rw [after, objects_resume]
  rw [active] at marks
  cases coro with
  | none =>
    refine .teardown c work caller x.marks.tail ?_ stack marks
    simpa [Works, objects] using works
  | some coro =>
    refine .inside c coro (some work) caller x.marks.tail ?_ ?_ stack marks
    · simpa [Works, objects] using works
    · simpa [objects] using down

theorem shape_move (sound : x.system.Sound) (tame : Tame x)
    (move : Move x.active x.system label t) : Shape ⟨t, x.mark label t⟩ := by
  cases move with
  | unknown | failed | expiredConsumer | msgRecv | acceptConsumer | accept | coAwait =>
    exact tame.shape.congr rfl rfl (mark_eq tame.lengths [] rfl)
  | connect empty =>
    refine .user (x.system.waiting.connections.supply x.system.objects.channelCount).2 ?_
    simp only [System.connect]
    rw [stack_resume, empty, List.append_nil]
  | @message peer c message empty =>
    refine .user ((x.system.waiting.messages c).supply message).2 ?_
    simp only [supplyMessage]
    rw [stack_resume, empty, List.append_nil]
  | @newConsumer peer c id empty =>
    refine .user ((x.system.waiting.consumers c).supply id).2 ?_
    simp only [supplyConsumer]
    rw [stack_resume, empty, List.append_nil]
  | @serverReported next empty goesOn =>
    cases next with
    | running =>
      refine .user (x.system.waiting.slot (.start .server)) ?_
      simp only [serverChange]
      rw [stack_resumeSlot, empty, List.append_nil]
    | idle => contradiction
    | starting | stopping => exact .user none empty
  | @disconnection handle c empty found =>
    refine .teardown c (.releaseMessages c) none x.marks ⟨⟨handle, ?_⟩, .inr (.inr (.inl rfl))⟩
      ?_ ?_
    · simp only [Objects.resolve, Option.ite_none_right_eq_some, Option.some.injEq] at found
      obtain ⟨present, rfl⟩ := found
      simpa using sound.listed.role handle present
    · simp [empty, callers]
    · rw [mark_eq tame.lengths [.releaseMessages c] rfl, runsFor, concerns, target, found]
      · rfl
      · simp
  | disconnect control permitted handed => exact shape_disconnect tame control permitted handed
  | suspended before =>
    refine (shape_suspended tame before).congr rfl rfl ?_
    exact mark_eq tame.lengths [] (by simp [before])
  | @stoppedAll c rest before =>
    obtain ⟨works, active, caller, rfl⟩ := tame.shape.works before rfl
    obtain ⟨handle, role⟩ := works.1
    have stack : (({ x.system with stack := callers caller } : System).disconnectIfAble c).stack =
        [.serverDisconnect c] ++ callers caller := by
      rw [stack_disconnectIfAble, if_pos (by simp [tame.children c])]
      simp [role, Role.teardown]
    refine .teardown c (.serverDisconnect c) caller x.marks.tail ⟨?_, .inr (.inl rfl)⟩ stack ?_
    · simpa using works.1
    · rw [mark_of_pop tame.lengths before ⟨rfl, rfl, rfl⟩ _ stack, active]
      rfl
  | @disconnectFailed c rest err before =>
    obtain ⟨-, -, caller, rfl⟩ := tame.shape.works before rfl
    exact .user caller rfl
  | @disconnectSucceeded c rest before =>
    obtain ⟨works, active, caller, rfl⟩ := tame.shape.works before rfl
    refine .teardown c (.releaseMessages c) caller x.marks.tail ⟨?_, .inr (.inr (.inl rfl))⟩ rfl ?_
    · simpa using works.1
    · rw [mark_of_pop tame.lengths before ⟨rfl, rfl, rfl⟩ [.releaseMessages c] rfl, active]
      rfl
  | messagesRound before round => exact shape_of_round sound tame before rfl rfl _ _ rfl
  | consumersRound before round => exact shape_of_round sound tame before rfl rfl _ _ rfl
  | @messagesEnded c rest before ended =>
    obtain ⟨works, active, caller, rfl⟩ := tame.shape.works before rfl
    refine .teardown c (.releaseConsumers c) caller x.marks.tail ⟨works.1, .inr (.inr (.inr rfl))⟩
      rfl ?_
    rw [mark_of_pop tame.lengths before ⟨rfl, rfl, rfl⟩ [.releaseConsumers c] rfl, active]
    rfl
  | @consumersEnded c handle rest before ended role =>
    obtain ⟨works, active, caller, rfl⟩ := tame.shape.works before rfl
    have down := disconnected_of_releasing sound before rfl works
    have stack : ((({ x.system with stack := callers caller } : System).resumeSlot
        (.disconnect c)).serverSignalDisconnect handle).stack =
        callers (x.system.waiting.slot (.disconnect c)) ++ callers caller := by
      rw [stack_serverSignalDisconnect, if_neg (by simp [tame.running.1]), stack_resumeSlot]
    have marks : x.mark .tick _ = _ := mark_of_pop tame.lengths before ⟨rfl, rfl, rfl⟩ _ stack
    rw [active] at marks
    exact shape_of_resumed (by simpa using down) stack marks

/-! ## Every moment of such a run -/

/-- What a move does to the objects. -/
inductive Edit (o : Objects) : Objects → Prop
  | same : Edit o o
  | reported (next : CtxState) (goesOn : next ≠ .idle) :
      Edit o { o with server := o.server.report next }
  | made (handle : Handle) (placement : Placement Handle) : Edit o (o.connect handle placement)
  | changed (c : ChannelId) (state : ConnectionState) (requested : Bool) :
      Edit o (o.setChannel c { o.channels c with state := state, requested := requested })
  | erased (handle : Handle) : Edit o { o with openConnections := o.openConnections.erase handle }

theorem edit_move {active : Option ChannelId} {s : System} (move : Move active s label t) :
    Edit s.objects t.objects := by
  cases move with
  | @connect handle placement =>
    simp only [System.connect]
    rw [objects_resume]
    exact .made handle placement
  | disconnection | disconnectSucceeded => exact .changed _ _ _
  | disconnect =>
    rw [objects_disconnect]
    exact .changed _ _ _
  | message =>
    simp only [supplyMessage]
    rw [objects_resume]
    exact .same
  | newConsumer =>
    simp only [supplyConsumer]
    rw [objects_resume]
    exact .same
  | messagesRound | consumersRound =>
    rw [objects_resume]
    exact .same
  | @serverReported next _ goesOn =>
    cases next with
    | running =>
      simp only [serverChange]
      rw [objects_resumeSlot]
      exact .reported .running goesOn
    | idle => contradiction
    | starting => exact .reported .starting goesOn
    | stopping => exact .reported .stopping goesOn
  | stoppedAll =>
    rw [objects_disconnectIfAble]
    exact .same
  | @consumersEnded c handle =>
    rw [objects_serverSignalDisconnect, objects_resumeSlot]
    exact .erased handle
  | _ => exact .same

/-- Every move keeps what is below the frames that it may take away and adds others. -/
theorem stack_move (tame : Tame x) (move : Move x.active x.system label t) :
    ∃ new, t.stack = new ++ label.below x.system.stack := by
  cases move with
  | connect | message | newConsumer => exact ⟨_, stack_resume _⟩
  | disconnection => exact ⟨[_], rfl⟩
  | disconnect =>
    rw [stack_disconnect]
    split
    · exact ⟨[_], rfl⟩
    · exact ⟨[], rfl⟩
  | @serverReported next _ goesOn =>
    cases next with
    | running => exact ⟨_, stack_resumeSlot _⟩
    | idle => contradiction
    | starting | stopping => exact ⟨[], rfl⟩
  | suspended before | disconnectFailed before => exact ⟨[], by simp [before]⟩
  | @stoppedAll c rest before =>
    rw [stack_disconnectIfAble, if_pos (by simp [tame.children])]
    exact ⟨[(x.system.channel c).role.teardown c], by simp [before]⟩
  | @disconnectSucceeded c rest before => exact ⟨[.releaseMessages c], by simp [before]⟩
  | @messagesEnded c rest before => exact ⟨[.releaseConsumers c], by simp [before]⟩
  | @messagesRound c queues coro rest before =>
    exact ⟨callers coro ++ [.releaseMessages c], by simp [stack_resume, before]⟩
  | @consumersRound c queues coro rest before =>
    exact ⟨callers coro ++ [.releaseConsumers c], by simp [stack_resume, before]⟩
  | @consumersEnded c handle rest before =>
    rw [stack_serverSignalDisconnect, if_neg (by simp [tame.running.1]), stack_resumeSlot]
    exact ⟨callers (x.system.waiting.slot (.disconnect c)), by simp [before]⟩
  | _ => exact ⟨[], rfl⟩

section Edit

variable {o after : Objects} (edit : Edit o after)

include edit

theorem children_edit (known : ∀ c, (o.channels c).activeChildren = {}) (c : ChannelId) :
    (after.channels c).activeChildren = {} := by
  cases edit with
  | made handle placement =>
    simp only [Objects.connect, Objects.activeChildren_setChannel]
    split
    · rfl
    · exact known c
  | changed => simpa using known c
  | _ => exact known c

theorem connections_edit
    (known : ∀ c, (o.channels c).handed = true → ∃ handle, (o.channels c).role = .connection handle)
    (c : ChannelId) (handed : (after.channels c).handed = true) :
    ∃ handle, (after.channels c).role = .connection handle := by
  cases edit with
  | made handle placement =>
    simp only [Objects.connect, Objects.role_setChannel, Objects.handed_setChannel] at handed ⊢
    split
    · exact ⟨handle, rfl⟩
    · rename_i old
      rw [if_neg old] at handed
      exact known c handed
  | changed => simp_all
  | _ => exact known c handed

theorem running_edit (known : o.stopRequested = false ∧ o.server.idled = false) :
    after.stopRequested = false ∧ after.server.idled = false := by
  cases edit with
  | reported next goesOn => simpa [ContextBase.report, goesOn] using known
  | _ => exact known

/-- Connections are never forgotten. -/
theorem count_edit : o.channelCount ≤ after.channelCount := by
  cases edit with
  | made handle placement => exact Nat.le_succ _
  | _ => exact Nat.le_refl _

end Edit

theorem tame_init : Tame {} where
  children _ := rfl
  connections := by simp
  running := ⟨rfl, rfl⟩
  lengths := rfl
  shape := .user none rfl

theorem tame_move (sound : x.system.Sound) (tame : Tame x)
    (move : Move x.active x.system label t) : Tame ⟨t, x.mark label t⟩ where
  children := children_edit (edit_move move) tame.children
  connections := connections_edit (edit_move move) tame.connections
  running := running_edit (edit_move move) tame.running
  lengths := by
    obtain ⟨new, stack⟩ := stack_move tame move
    exact length_mark tame.lengths stack
  shape := shape_move sound tame move

end Marked

end Shoc.Comch

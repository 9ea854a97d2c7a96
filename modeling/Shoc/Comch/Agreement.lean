/-
# Being disconnected, on both sides

A coroutine that is told `DOCA_ERROR_NOT_CONNECTED` by `msg_recv` or
`accept_consumer` should find the object disconnected in every other respect: a
`send` is refused without a task, and there is nothing left to tear down. It runs in
the middle of the function that released it, so this depends on what that function
has done by then.

`server_connection::signal_disconnect` leaves the state `CONNECTED` before it
releases anybody. `client::state_changed` does so afterwards: a client that the SDK
reports idle while it is connected wakes its accepters in the state `CONNECTED`.
Those are the only ones to find it so.
-/

import Shoc.Comch.Release

namespace Shoc.Comch

open Common Data Transition

namespace System

variable {s t : System} {label : Label} {labels : List Label} {c : ChannelId}

/-- `server_connection::send` and `client::send`. A client first asks the SDK for its
connection, which may fail. -/
def send (s : System) (c : ChannelId) (connection : DocaError) : Sent :=
  if (s.channel c).state ≠ .connected then .ready .notConnected
  else match (s.channel c).role with
    | .connection _ => .offloaded
    | .client => if connection ≠ .success then .ready connection else .offloaded

/-- A call of `msg_recv` or `accept_consumer` on the channel was answered with
`DOCA_ERROR_NOT_CONNECTED`. -/
def TurnedAway (s : System) (c : ChannelId) : Prop :=
  .exception .notConnected ∈ (s.waiting.messages c).fates ∨
    .exception .notConnected ∈ (s.waiting.consumers c).fates

/-- The channel is disconnected for its user: sending is refused, whatever the SDK would
answer, and `disconnect` or `stop` calls nobody. -/
structure Apart (s : System) (c : ChannelId) : Prop where
  send : ∀ connection, s.send c connection = .ready .notConnected
  stack : (s.disconnect c).stack = s.stack
  log : (s.disconnect c).log = s.log

/-- A client that is connected is not reported idle. -/
def ClosesFirst (s : System) : Label → Prop
  | .change (.client c) .idle => (s.channel c).state ≠ .connected
  | _ => True

instance (s : System) : ∀ label, Decidable (s.ClosesFirst label)
  | .change (.client _) .idle => inferInstanceAs (Decidable (_ ≠ _))
  | .change (.client _) .starting | .change (.client _) .running | .change (.client _) .stopping
  | .change .server _ | .change (.child _) _ | .call _ | .ret | .event _ | .sdk _ | .tick =>
      isTrue trivial

/-- Outside the state `CONNECTED` the channel is disconnected for its user. -/
theorem apart_of_state (left : (s.channel c).state ≠ .connected) : s.Apart c where
  send _ := if_pos left
  stack := by rw [stack_disconnect, if_neg left]
  log := log_disconnect

/-! ## Queues that turn away -/

/-- One of the queues of the channel is marked disconnected. -/
def Refuses (s : System) (c : ChannelId) : Prop :=
  (s.waiting.messages c).disconnected = true ∨ (s.waiting.consumers c).disconnected = true

theorem mem_releasing {frame : Frame} {stack : List Frame} (mem : frame ∈ relieving.see stack)
    (releases : frame.releases = some c) : c ∈ releasing.see stack :=
  releasing.mem_see.mpr ⟨frame, see_relieving mem, releases⟩

/-- Queues are marked when their release begins. -/
theorem refuses_step (handling : Handling s t) (refuses : t.Refuses c) :
    s.Refuses c ∨ c ∈ releasing.see t.stack := by
  cases handling with
  | kept handled stack =>
    left
    rwa [Refuses, (handled.messages c).disconnected, (handled.consumers c).disconnected] at refuses
  | begun begun waiting stack =>
    by_cases same : c = begun
    · subst same
      exact .inr (mem_releasing (stack ▸ List.mem_cons_self) rfl)
    · left
      simpa [Refuses, waiting, Waiting.markMessages, same] using refuses
  | messages begun callers before nobody waiting stack =>
    by_cases same : c = begun
    · subst same
      exact .inr (mem_releasing (stack ▸ List.mem_cons_self) rfl)
    · left
      simpa [Refuses, waiting, Waiting.markConsumers, same] using refuses
  | consumers _ _ _ _ slot waiting _ | server _ _ _ slot waiting _ | serverBegun waiting _ =>
    left
    rwa [Refuses, waiting] at refuses

/-- Whoever is turned away by a channel is turned away by queues that are marked. -/
structure Refusing (w : Waiting) : Prop where
  messages : ∀ c, (w.messages c).Refused
  consumers : ∀ c, (w.consumers c).Refused

theorem Refusing.refuses (refusing : Refusing s.waiting) (turned : s.TurnedAway c) :
    s.Refuses c :=
  turned.imp (refusing.messages c _) (refusing.consumers c _)

theorem refusing_step (refusing : Refusing s.waiting) (relieved : s.Relieved)
    (handling : Handling s t) : Refusing t.waiting := by
  cases handling with
  | kept handled stack =>
    exact ⟨fun c => (handled.messages c).refused (relieved.messages c) (refusing.messages c),
      fun c => (handled.consumers c).refused (fun loop => (relieved.consumers c loop).2)
        (refusing.consumers c)⟩
  -- Queues that are marked may turn everybody away
  | begun begun waiting stack =>
    rw [waiting]
    refine ⟨(Function.forall_update_iff _ fun _ => AccepterQueues.Refused).mpr ⟨fun _ _ => rfl, ?_⟩,
      refusing.consumers⟩
    exact fun c _ => refusing.messages c
  | messages begun callers before nobody waiting stack =>
    rw [waiting]
    refine ⟨refusing.messages,
      (Function.forall_update_iff _ fun _ => AccepterQueues.Refused).mpr ⟨fun _ _ => rfl, ?_⟩⟩
    exact fun c _ => refusing.consumers c
  | consumers _ _ _ _ slot waiting _ | server _ _ _ slot waiting _ | serverBegun waiting _ =>
    rw [waiting]
    exact ⟨refusing.messages, refusing.consumers⟩

/-! ## Channels that are torn down -/

/-- The channel exists and was torn down. -/
def Gone (s : System) (c : ChannelId) : Prop :=
  c < s.objects.channelCount ∧ (s.channel c).TornDown

theorem gone_of_releasing (sound : s.Sound) (mem : c ∈ releasing.see s.stack) : s.Gone c := by
  refine ⟨sound.listed.counted c (mem_tearing_of_releasing mem), ?_⟩
  rw [Channel.tornDown_iff]
  refine ⟨sound.listed.idled c mem, fun connection => ?_⟩
  cases role : (s.channel c).role with
  | connection handle => exact sound.listed.released c handle role mem
  | client => exact absurd role connection

theorem gone_stays (taken : Taken s label t) (gone : s.Gone c) : t.Gone c :=
  ⟨gone.1.trans_le taken.channelCount_le, (taken.channelMoved c).tornDown_stays gone.2 gone.1⟩

/-- A channel that was torn down does not become connected again. -/
theorem unconnected_of_gone (taken : Taken s label t) (gone : s.Gone c)
    (left : (s.channel c).state ≠ .connected) : (t.channel c).state ≠ .connected :=
  (taken.channelMoved c).unconnected_stays left (Channel.tornDown_iff.mp gone.2).1 gone.1

/-- Accepters are released outside the state `CONNECTED`, if the condition is met. -/
theorem releasing_step (sound : s.Sound) (allowed : s.ClosesFirst label) (taken : Taken s label t)
    (known : ∀ c ∈ releasing.see s.stack, (s.channel c).state ≠ .connected) (c : ChannelId)
    (mem : c ∈ releasing.see t.stack) : (t.channel c).state ≠ .connected := by
  obtain before | begins := taken.releasing_shifted.mem mem
  · exact unconnected_of_gone taken (gone_of_releasing sound before) (known c before)
  · cases begins with
    | connection ends now => simp [now]
    | client same _ _ _ _ _ state =>
      subst same
      rw [state]
      exact allowed

/-! ## Whole runs -/

/-- What holds of every channel that turns somebody away, on every run. -/
structure Turning (s : System) : Prop where
  serving : s.Serving
  refusing : Refusing s.waiting
  gone : ∀ c, s.Refuses c → s.Gone c

theorem turning_init : Turning {} where
  serving := serving_init
  refusing := ⟨fun _ _ mem => by simp [AccepterQueues.fates] at mem,
    fun _ _ mem => by simp [AccepterQueues.fates] at mem⟩
  gone c refuses := by simp [Refuses] at refuses

theorem turning_step (turning : s.Turning) (taken : s.step label = some t) : t.Turning := by
  have handling := step_handling taken
  have serving := serving_step turning.serving taken
  refine ⟨serving, refusing_step turning.refusing turning.serving.relieved handling, ?_⟩
  intro c refuses
  rcases refuses_step handling refuses with before | begun
  · exact gone_stays (turning.serving.sound.taken taken) (turning.gone c before)
  · exact gone_of_releasing serving.sound begun

theorem turning_of_run {ok : System → Label → Prop} (run : Run step ok {} labels s) : s.Turning :=
  run.invariant Turning (fun _ _ _ turning _ taken => turning_step turning taken) turning_init

/-- A channel that releases its accepters, or turns somebody away, is not connected. -/
structure Closing (s : System) : Prop where
  releasing : ∀ c ∈ releasing.see s.stack, (s.channel c).state ≠ .connected
  refuses : ∀ c, s.Refuses c → (s.channel c).state ≠ .connected

theorem closing_step (turning : s.Turning) (closing : s.Closing) (allowed : s.ClosesFirst label)
    (taken : s.step label = some t) : t.Closing := by
  have inverted := turning.serving.sound.taken taken
  have releasing := releasing_step turning.serving.sound allowed inverted closing.releasing
  refine ⟨releasing, fun c refuses => ?_⟩
  rcases refuses_step (step_handling taken) refuses with before | begun
  · exact unconnected_of_gone inverted (turning.gone c before) (closing.refuses c before)
  · exact releasing c begun

theorem closing_of_run (run : Run step ClosesFirst {} labels s) : s.Closing := by
  have both : s.Turning ∧ s.Closing := by
    refine run.invariant (fun s => s.Turning ∧ s.Closing) ?_
      ⟨turning_init, by simp, fun c refuses => by simp [Refuses] at refuses⟩
    exact fun _ _ _ h allowed taken =>
      ⟨turning_step h.1 taken, closing_step h.1 h.2 allowed taken⟩
  exact both.2

/-- Out of the state `CONNECTED`, and torn down, once and for all. -/
theorem apart_of_run {more : List Label} (sound : s.Sound) (gone : s.Gone c)
    (left : (s.channel c).state ≠ .connected) (run : Run step Always s more t) : t.Apart c := by
  have all : t.Sound ∧ t.Gone c ∧ (t.channel c).state ≠ .connected := by
    refine run.invariant (fun t => t.Sound ∧ t.Gone c ∧ (t.channel c).state ≠ .connected) ?_
      ⟨sound, gone, left⟩
    rintro u label v ⟨sound, gone, left⟩ - taken
    have inverted := sound.taken taken
    exact ⟨sound_step sound inverted, gone_stays inverted gone,
      unconnected_of_gone inverted gone left⟩
  exact apart_of_state all.2.2

/-- **Both sides agree on being disconnected.** Whoever a connection turns away, from then on
finds it disconnected: sends are refused and `disconnect` calls nobody. The same holds of
a client, if clients are not reported idle while they are connected. -/
theorem disconnection_agreed (labels : List Label) (s : System) (c : ChannelId)
    (turned : s.TurnedAway c) :
    (Run step Always {} labels s → (s.channel c).role ≠ .client →
      ∀ more t, Run step Always s more t → t.Apart c) ∧
    (Run step ClosesFirst {} labels s → ∀ more t, Run step Always s more t → t.Apart c) := by
  constructor
  · intro run connection more t later
    have turning := turning_of_run run
    have gone := turning.gone c (turning.refusing.refuses turned)
    have disconnected := (Channel.tornDown_iff.mp gone.2).2 connection
    exact apart_of_run turning.serving.sound gone (by simp [disconnected]) later
  · intro run more t later
    have turning := turning_of_run run
    have refuses := turning.refusing.refuses turned
    exact apart_of_run turning.serving.sound (turning.gone c refuses)
      ((closing_of_run run).refuses c refuses) later

/-- A client is created, started and handed out, and a coroutine waits for a message. -/
def clientWaiting : List Label :=
  [.call .createClient, .change (.client 0) .running, .sdk .success, .call (.msgRecv 0),
    .call (.coAwait (.message 0 0) 5)]

/-- The client is reported stopping and then idle; the coroutine is woken. -/
def stoppedClient : List Label :=
  clientWaiting ++ [.change (.client 0) .stopping, .change (.client 0) .idle, .tick]

/-- The client is reported idle at once. -/
def idledClient : List Label := clientWaiting ++ [.change (.client 0) .idle, .tick]

theorem disconnection_agreed_stoppedClient :
    ∃ s, Run step ClosesFirst {} stoppedClient s ∧ s.stack.head? = some (.coroutine 5) ∧
      s.TurnedAway 0 ∧ s.Apart 0 := by
  have run : Run step ClosesFirst {} stoppedClient _ := ⟨rfl, by decide⟩
  refine ⟨_, run, rfl, .inl List.mem_cons_self, ?_⟩
  exact (disconnection_agreed stoppedClient _ 0 (.inl List.mem_cons_self)).2 run [] _ (.nil _)

/-- The coroutine that is woken by a client that goes idle at once can send, and its `stop`
calls `doca_ctx_stop` on the client. -/
theorem woken_client_still_connected :
    ∃ s, Run step Always {} idledClient s ∧ s.stack.head? = some (.coroutine 5) ∧
      s.TurnedAway 0 ∧ s.send 0 .success = .offloaded ∧
      ∃ t, Run step Always s [.call (.disconnect 0), .tick] t ∧
        t.log = .clientStop 0 true [] :: s.log := by
  refine ⟨_, ⟨rfl, meets_always _ _⟩, rfl, .inl List.mem_cons_self, rfl, _,
    ⟨rfl, meets_always _ _⟩, rfl⟩

end System

end Shoc.Comch

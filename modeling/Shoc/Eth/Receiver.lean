/-
# Receivers of a managed receive queue

`eth_rxq_managed` and `eth_rxq_batch_managed` put what the SDK delivers into
accepter queues, from which `receive` and `batch_receive` take it. The two
classes differ in the payload and in what a callback makes of an event.

Neither class looks at the state of its context: there is no handler that would
disconnect the queues. So a receiver that waits when the context becomes idle
goes on waiting, and a later call is served only from the packets that are left.
The receivers are released exactly if none of them waits at the end. By numbers, a
call is served exactly if more packets came in than there were calls before it.
-/

import Shoc.Common.QueueInUse
import Shoc.Context.Waiters

namespace Shoc.Eth

open Coro Common Context Transition

variable {Incoming Payload Buffer : Type*}

/-- `eth_rxq_managed::event_managed_recv_callback` up to the supply: what it supplies. -/
def eventManagedRecv (pkt : Buffer) : Option Buffer := some pkt

/-- The arguments of a batch event. -/
structure BatchEvent (Buffer : Type*) where
  eventsNumber : UInt16
  status : DocaError
  pktArray : List Buffer

/-- `eth_rxq_batch_managed::event_batch_managed_recv_callback` up to the supply. -/
def eventBatchManagedRecv (event : BatchEvent Buffer) : Option (List Buffer) :=
  -- A failed batch is logged and dropped
  if event.status ≠ .success then none else some (event.pktArray.take event.eventsNumber.toNat)

/-- A receive context: the context it is and the queues it has. -/
structure Receiver (Payload : Type*) where
  context : ContextLife := {}
  queue : QueueInUse Payload := {}

/-- What can happen next: anything that happens to a context; a call of `receive` or
`batch_receive`; an event; a `co_await` on the awaitable of a call; a coroutine that was
resumed gives control back. -/
inductive ReceiverLabel (Incoming : Type*)
  | context (event : ContextEvent)
  | receive
  | incoming (event : Incoming)
  | coAwait (ticket : Ticket) (coro : Coro)
  | suspend

namespace Receiver

variable {received : Incoming → Option Payload} {s t : Receiver Payload}
  {label : ReceiverLabel Incoming} {labels : List (ReceiverLabel Incoming)}

/-- One step. An idle context gets no events. -/
def step (received : Incoming → Option Payload) (s : Receiver Payload) :
    ReceiverLabel Incoming → Option (Receiver Payload)
  | .context event => (s.context.step event).map fun context => { s with context }
  | .receive => (s.queue.step .accept).map fun queue => { s with queue }
  | .incoming event =>
      if s.context.currentState = .idle then none
      else match received event with
        | none => some s
        | some payload => (s.queue.step (.supply payload)).map fun queue => { s with queue }
  | .coAwait ticket coro => (s.queue.step (.coAwait ticket coro)).map fun queue => { s with queue }
  | .suspend => (s.queue.step .suspend).map fun queue => { s with queue }

/-- The context is idle again and the callback that reported it has returned. -/
def Stopped (s : Receiver Payload) : Prop :=
  s.context.idled = true ∧ ∀ frame ∈ s.context.stack, frame.ofIdle = false

/-- Every coroutine that was registered with a receive call has been resumed, with a packet
or with `DOCA_ERROR_NOT_CONNECTED`. -/
def NobodySuspended (s : Receiver Payload) : Prop :=
  ∀ ticket r coro, s.queue.queues.receptables[ticket]? = some r → r.waiter = some coro →
    (ticket, coro) ∈ s.queue.queues.resumed ∧
      ((∃ value, r.stored = .payload value) ∨ r.stored = .exception .notConnected)

/-- The awaitable of the next receive call is ready. -/
def ReadyAtOnce (s : Receiver Payload) : Prop :=
  ∃ r, s.queue.queues.accept.receptables = s.queue.queues.receptables ++ [r] ∧
    r.hasValue = true

/-- The context is not reported idle while a receive call waits, and a call made later finds
a packet. -/
def ServedInTime (s : Receiver Payload) : ReceiverLabel Incoming → Prop
  | .context (.stateChange .idle) => s.queue.queues.pendingAccepters = []
  | .receive => s.context.idled = true → s.queue.queues.pendingData ≠ []
  | _ => True

instance (s : Receiver Payload) : Decidable s.Stopped := inferInstanceAs (Decidable (_ ∧ _))

instance [DecidableEq Payload] (s : Receiver Payload) :
    ∀ label : ReceiverLabel Incoming, Decidable (s.ServedInTime label)
  | .context (.stateChange .idle) => inferInstanceAs (Decidable (_ = _))
  | .receive => inferInstanceAs (Decidable (_ → _))
  | .context (.stateChange .starting) | .context (.stateChange .running)
  | .context (.stateChange .stopping) | .context (.start _) | .context (.stop _)
  | .context (.drop _) | .context (.coAwait _ _) | .context .ret
  | .incoming _ | .coAwait _ _ | .suspend => isTrue trivial

/-! ## One step -/

/-- What an event supplies. -/
def supplies (received : Incoming → Option Payload) : ReceiverLabel Incoming → Option Payload
  | .incoming event => received event
  | _ => none

/-- Everything one step can do. -/
inductive Taken (received : Incoming → Option Payload) (s : Receiver Payload) :
    ReceiverLabel Incoming → Receiver Payload → Prop
  | context {event : ContextEvent} {context : ContextLife}
      (moved : s.context.step event = some context) :
      Taken received s (.context event) { s with context }
  | received : Taken received s .receive { s with queue.queues := s.queue.queues.accept }
  | dropped {event : Incoming} (nothing : received event = none) :
      Taken received s (.incoming event) s
  | supplied {event : Incoming} {payload : Payload} (busy : s.context.currentState ≠ .idle)
      (given : received event = some payload) :
      Taken received s (.incoming event)
        { s with queue := s.queue.resume (s.queue.queues.supply payload) }
  | awaited (ticket : Ticket) (coro : Coro) :
      Taken received s (.coAwait ticket coro)
        { s with queue.queues := s.queue.queues.await ticket coro }
  | suspended (callers : List QueueFrame) :
      Taken received s .suspend { s with queue.stack := callers }

theorem step_taken (taken : step received s label = some t) : Taken received s label t := by
  cases label with
  | context event =>
    obtain ⟨context, moved, rfl⟩ := Option.map_eq_some_iff.mp taken
    exact .context moved
  | receive =>
    obtain ⟨queue, moved, rfl⟩ := Option.map_eq_some_iff.mp taken
    obtain rfl := QueueInUse.eq_of_called moved
    exact .received
  | incoming event =>
    simp only [step, Option.ite_none_left_eq_some] at taken
    obtain ⟨busy, taken⟩ := taken
    split at taken
    · rename_i nothing
      obtain rfl := Option.some.inj taken
      exact .dropped nothing
    · rename_i payload given
      obtain ⟨queue, moved, rfl⟩ := Option.map_eq_some_iff.mp taken
      obtain rfl := QueueInUse.eq_of_called moved
      exact .supplied busy given
  | coAwait ticket coro =>
    obtain ⟨queue, moved, rfl⟩ := Option.map_eq_some_iff.mp taken
    obtain rfl := QueueInUse.eq_of_called moved
    exact .awaited ticket coro
  | suspend =>
    obtain ⟨queue, moved, rfl⟩ := Option.map_eq_some_iff.mp taken
    simp only [QueueInUse.step] at moved
    split at moved
    · obtain rfl := Option.some.inj moved
      exact .suspended _
    · contradiction

/-- Only events add to what was supplied. -/
theorem supplied_step (taken : step received s label = some t) :
    t.queue.queues.supplied =
      s.queue.queues.supplied ++ (supplies received label).toList := by
  cases step_taken taken with
  | context moved => exact (List.append_nil _).symm
  | dropped nothing =>
    rw [supplies, nothing]
    exact (List.append_nil _).symm
  | received => exact AccepterQueues.supplied_accept.trans (List.append_nil _).symm
  | supplied busy given =>
    rw [supplies, given]
    exact AccepterQueues.supplied_supply _
  | awaited | suspended => exact (List.append_nil _).symm

theorem supplied_of_run {ok : Receiver Payload → ReceiverLabel Incoming → Prop}
    (run : Run (step received) ok {} labels s) :
    s.queue.queues.supplied = labels.filterMap (supplies received) := by
  have added := run.accumulates (fun _ => True) (fun s => s.queue.queues.supplied)
    (fun _ _ _ _ _ taken => ⟨trivial, supplied_step taken⟩) trivial
  rwa [run.subRun_eq_filterMap] at added

/-- The queues serve in order, wake whom they serve, turn nobody away and are never
disconnected; a context that was reported idle is idle. -/
structure Serving (s : Receiver Payload) : Prop where
  orderly : s.queue.queues.Orderly
  woken : s.queue.queues.Woken
  refused : s.queue.queues.Refused
  connected : s.queue.queues.disconnected = false
  idle : s.context.idled = true → s.context.currentState = .idle

/-- Nobody calls `disconnect`. -/
theorem Serving.serve {queue : QueueInUse Payload} (h : s.Serving)
    (handled : AccepterQueues.Handled False s.queue.queues queue.queues) :
    ({ s with queue } : Receiver Payload).Serving :=
  ⟨handled.served.orderly h.orderly, handled.served.woken h.woken,
    handled.refused False.elim h.refused, handled.disconnected.trans h.connected, h.idle⟩

theorem serving_step (h : s.Serving) (taken : step received s label = some t) : t.Serving := by
  cases step_taken taken with
  | context moved =>
    exact ⟨h.orderly, h.woken, h.refused, h.connected, ContextLife.idle_step h.idle moved⟩
  | dropped => exact h
  | received => exact h.serve .accepted
  | supplied => exact h.serve (.supplied _)
  | awaited ticket coro => exact h.serve (.awaited ticket coro)
  | suspended => exact h.serve .same

theorem serving_init : ({} : Receiver Payload).Serving :=
  ⟨Delivers.init, by simp [AccepterQueues.Woken],
    by simp [AccepterQueues.Refused, AccepterQueues.fates], rfl, by simp⟩

theorem serving_of_run {ok : Receiver Payload → ReceiverLabel Incoming → Prop}
    (run : Run (step received) ok {} labels s) : s.Serving :=
  run.invariant _ (fun _ _ _ h _ taken => serving_step h taken) serving_init

/-- No call was given an error. -/
theorem Serving.unrefused (h : s.Serving) (err : DocaError) :
    .exception err ∉ s.queue.queues.fates := by
  intro refused
  have disconnected := h.refused err refused
  rw [h.connected] at disconnected
  contradiction

/-- A call has its packet exactly if more came in than there were calls before it. -/
theorem Serving.hasValue_iff {ticket : Ticket} {r : Receptable Payload} (h : s.Serving)
    (found : s.queue.queues.receptables[ticket]? = some r) :
    r.hasValue = true ↔ ticket < s.queue.queues.supplied.length := by
  rw [Receptable.hasValue_iff]
  exact h.orderly.served_iff h.unrefused (AccepterQueues.getElem?_fates found)

/-! ## After the stop -/

/-- After the stop nobody is served who waits, and nothing comes in. -/
structure Left (s t : Receiver Payload) : Prop where
  idled : t.context.idled = true
  waiting : s.queue.queues.pendingAccepters <+: t.queue.queues.pendingAccepters
  queued : t.queue.queues.pendingData <:+ s.queue.queues.pendingData

theorem left_step (serving : s.Serving) (idled : s.context.idled = true)
    (taken : step received s label = some t) : Left s t := by
  cases step_taken taken with
  | context moved =>
    exact ⟨ContextLife.idled_step idled moved, List.prefix_refl _, List.suffix_refl _⟩
  | dropped | awaited | suspended => exact ⟨idled, List.prefix_refl _, List.suffix_refl _⟩
  | supplied busy given => exact absurd (serving.idle idled) busy
  | received =>
    constructor
    case idled => exact idled
    -- The call takes the first packet, or joins the queue of those who wait
    all_goals simp only [AccepterQueues.accept, serving.connected, Bool.false_eq_true, if_false]
    case waiting =>
      split
      · exact List.prefix_refl _
      · exact List.prefix_append _ _
    case queued =>
      split
      · rename_i queued
        rw [queued]
        exact List.suffix_cons _ _
      · exact List.suffix_refl _

/-- What is left after the stop is left for ever. -/
theorem left_of_run {ok : Receiver Payload → ReceiverLabel Incoming → Prop}
    (serving : s.Serving) (idled : s.context.idled = true)
    (run : Run (step received) ok s labels t) : Left s t := by
  have both : t.Serving ∧ Left s t := by
    refine run.invariant (fun t => t.Serving ∧ Left s t) ?_
      ⟨serving, idled, List.prefix_refl _, List.suffix_refl _⟩
    rintro u label v ⟨serving, left⟩ - taken
    have next := left_step serving left.idled taken
    exact ⟨serving_step serving taken, next.idled, left.waiting.trans next.waiting,
      next.queued.trans left.queued⟩
  exact both.2

/-- Served in time, nobody waits once the context is idle. -/
theorem unwaiting_step (serving : s.Serving) (allowed : s.ServedInTime label)
    (h : s.context.idled = true → s.queue.queues.pendingAccepters = [])
    (taken : step received s label = some t) :
    t.context.idled = true → t.queue.queues.pendingAccepters = [] := by
  intro idled
  cases step_taken taken with
  | context moved =>
    rcases ContextLife.idled_of_step moved idled with before | rfl
    · exact h before
    · exact allowed
  | dropped | awaited | suspended => exact h idled
  | supplied busy given => exact absurd (serving.idle idled) busy
  | received =>
    obtain ⟨value, rest, queued⟩ := List.exists_cons_of_ne_nil (allowed idled)
    simp only [AccepterQueues.accept, queued]
    exact h idled

theorem unwaiting_of_run (run : Run (step received) ServedInTime {} labels s) :
    s.context.idled = true → s.queue.queues.pendingAccepters = [] := by
  have both : s.Serving ∧ (s.context.idled = true → s.queue.queues.pendingAccepters = []) := by
    refine run.invariant (fun s => s.Serving ∧
      (s.context.idled = true → s.queue.queues.pendingAccepters = [])) ?_
      ⟨serving_init, fun _ => rfl⟩
    exact fun _ _ _ h allowed taken =>
      ⟨serving_step h.1 taken, unwaiting_step h.1 allowed h.2 taken⟩
  exact both.2

/-! ## Who is released -/

theorem Serving.nobodySuspended_iff (h : s.Serving) :
    s.NobodySuspended ↔ ∀ ticket ∈ s.queue.queues.pendingAccepters, ∀ r,
      s.queue.queues.receptables[ticket]? = some r → r.waiter = none := by
  constructor
  · intro nobody ticket waits r found
    -- Who waits has no result, so nobody can have been resumed there
    have empty := (h.orderly.waiting_iff ticket).mp waits
    rw [AccepterQueues.getElem?_fates found, Option.some.injEq] at empty
    cases registered : r.waiter with
    | none => rfl
    | some coro => simpa [empty] using (nobody ticket r coro found registered).2
  · intro unregistered ticket r coro found registered
    have called : ticket < s.queue.queues.receptables.length :=
      (List.getElem?_eq_some_iff.mp found).1
    have woken := h.woken ticket r coro found
    have settled := AccepterQueues.settled_of_orderly h.orderly called
    simp only [AccepterQueues.Settled, AccepterQueues.getElem?_fates found,
      Option.some.injEq] at settled
    rcases settled with ⟨⟨value, given⟩, -⟩ | ⟨refused, -⟩ | ⟨-, waits⟩
    · exact ⟨woken (by simp [given]) registered, .inl ⟨value, given⟩⟩
    · exact ⟨woken (by simp [refused]) registered, .inr refused⟩
    · rw [unregistered ticket waits r found] at registered
      contradiction

theorem Serving.readyAtOnce_iff (h : s.Serving) :
    s.ReadyAtOnce ↔ s.queue.queues.pendingData ≠ [] := by
  unfold ReadyAtOnce AccepterQueues.accept
  cases s.queue.queues.pendingData with
  | nil => simp [h.connected, Receptable.hasValue]
  | cons value rest => simp [AccepterQueues.answer, Receptable.fromValue, Receptable.hasValue]

/-- Nobody is suspended exactly if there was a packet for every call that is awaited. -/
theorem Serving.nobodySuspended_iff_lt (h : s.Serving) :
    s.NobodySuspended ↔ ∀ ticket r coro, s.queue.queues.receptables[ticket]? = some r →
      r.waiter = some coro → ticket < s.queue.queues.supplied.length := by
  constructor
  · intro nobody ticket r coro found registered
    rw [← h.hasValue_iff found, Receptable.hasValue_iff]
    obtain ⟨-, ⟨value, given⟩ | refused⟩ := nobody ticket r coro found registered
    · simp [given]
    · simp [refused]
  · intro enough
    refine h.nobodySuspended_iff.mpr fun ticket waits r found => ?_
    have empty := (h.orderly.waiting_iff ticket).mp waits
    rw [AccepterQueues.getElem?_fates found, Option.some.injEq] at empty
    -- A call that waits has no packet
    cases registered : r.waiter with
    | none => rfl
    | some coro =>
      have given := (h.hasValue_iff found).mpr (enough ticket r coro found registered)
      exact absurd empty (Receptable.hasValue_iff.mp given)

/-- The next call is ready exactly if there were more packets than calls. -/
theorem Serving.readyAtOnce_iff_lt (h : s.Serving) :
    s.ReadyAtOnce ↔
      s.queue.queues.receptables.length < s.queue.queues.supplied.length := by
  rw [h.readyAtOnce_iff, ← AccepterQueues.length_fates]
  exact h.orderly.queued_iff h.unrefused

/-- While a coroutine waits no packet is left either, so the next call has to wait as well. -/
theorem Serving.stranded {ticket : Ticket} {r : Receptable Payload} {coro : Coro} (h : s.Serving)
    (waits : ticket ∈ s.queue.queues.pendingAccepters)
    (found : s.queue.queues.receptables[ticket]? = some r) (registered : r.waiter = some coro) :
    ¬ s.NobodySuspended ∧ ¬ s.ReadyAtOnce := by
  rw [h.nobodySuspended_iff, h.readyAtOnce_iff]
  constructor
  · intro unregistered
    rw [unregistered ticket waits r found] at registered
    contradiction
  · intro queued
    simp [h.orderly.exclusive.resolve_left queued] at waits

/-- **Receivers are released if none of them waits.** If the context is not reported idle
while a receive call waits, and a later call finds a packet, then at the end every call has
its result and nobody is suspended. Without that, once the callback has returned: nobody
is suspended exactly if no waiting call has a coroutine registered, the next call is ready
exactly if a packet is left, and whoever waits does so for ever. By numbers: a call is served
exactly if more packets came in than there were calls before it, nobody is suspended
exactly if that holds of every call that is awaited, and the next call is ready exactly if it
holds of it. -/
theorem receivers_released_iff (received : Incoming → Option Payload)
    (labels : List (ReceiverLabel Incoming)) (s : Receiver Payload) :
    (Run (step received) ServedInTime {} labels s → s.Stopped →
      s.NobodySuspended ∧ ∀ r ∈ s.queue.queues.receptables, r.hasValue = true) ∧
    (Run (step received) Always {} labels s → s.Stopped →
      (s.NobodySuspended ↔ ∀ ticket ∈ s.queue.queues.pendingAccepters, ∀ r,
        s.queue.queues.receptables[ticket]? = some r → r.waiter = none) ∧
      (s.ReadyAtOnce ↔ s.queue.queues.pendingData ≠ []) ∧
      (∀ (more : List (ReceiverLabel Incoming)) (t : Receiver Payload),
        Run (step received) Always s more t → Left s t) ∧
      (∀ ticket r, s.queue.queues.receptables[ticket]? = some r →
        (r.hasValue = true ↔ ticket < (labels.filterMap (supplies received)).length)) ∧
      (s.NobodySuspended ↔ ∀ ticket r coro, s.queue.queues.receptables[ticket]? = some r →
        r.waiter = some coro → ticket < (labels.filterMap (supplies received)).length) ∧
      (s.ReadyAtOnce ↔ s.queue.queues.receptables.length <
        (labels.filterMap (supplies received)).length)) := by
  refine ⟨fun run stopped => ?_, fun run stopped => ?_⟩
  · have serving := serving_of_run run
    have nobody := unwaiting_of_run run stopped.1
    refine ⟨serving.nobodySuspended_iff.mpr fun ticket waits => ?_,
      AccepterQueues.hasValue_of_nobody serving.orderly nobody⟩
    simp [nobody] at waits
  · have serving := serving_of_run run
    rw [← supplied_of_run run]
    exact ⟨serving.nobodySuspended_iff, serving.readyAtOnce_iff,
      fun more t later => left_of_run serving stopped.1 later,
      fun ticket r found => serving.hasValue_iff found, serving.nobodySuspended_iff_lt,
      serving.readyAtOnce_iff_lt⟩

/-- The context is started and runs. -/
def starting : List (ReceiverLabel Incoming) :=
  [.context (.start .inProgress), .context (.stateChange .starting), .context .ret,
    .context (.stateChange .running), .context .ret]

/-- The context is stopped and becomes idle. -/
def stopping : List (ReceiverLabel Incoming) :=
  [.context (.stop .inProgress), .context (.stateChange .stopping), .context .ret,
    .context (.stateChange .idle), .context .ret, .context .ret]

/-- A receiver waits when a packet comes in, another one takes a packet after the stop. -/
def stoppedInTime : List (ReceiverLabel ℕ) :=
  starting ++ [.receive, .coAwait 0 7, .incoming 100, .suspend, .incoming 101] ++ stopping ++
    [.receive]

/-- A receiver waits when the context is stopped. -/
def stoppedWaiting : List (ReceiverLabel ℕ) := starting ++ [.receive, .coAwait 0 7] ++ stopping

/-- A receiver waits for a batch when the context is stopped, after a batch that failed. -/
def stoppedAfterFailure : List (ReceiverLabel (BatchEvent ℕ)) :=
  starting ++ [.receive, .coAwait 0 7, .incoming ⟨2, .other 5, [100, 101]⟩] ++ stopping

theorem receivers_released_iff_stoppedInTime :
    ∃ s, Run (step eventManagedRecv) ServedInTime {} stoppedInTime s ∧ s.Stopped ∧
      s.queue.queues.resumed = [(0, 7)] ∧ s.NobodySuspended := by
  refine ⟨_, ⟨rfl, by decide⟩, by decide, rfl, ?_⟩
  exact ((receivers_released_iff eventManagedRecv stoppedInTime _).1 ⟨rfl, by decide⟩
    (by decide)).1

/-- Of both kinds, a receiver that waits when the context becomes idle stays suspended, and a
later call waits as well. -/
theorem stop_leaves_receiver :
    (∃ labels, ∃ s : Receiver ℕ, Run (step eventManagedRecv) Always {} labels s ∧ s.Stopped ∧
      ¬ s.NobodySuspended ∧ ¬ s.ReadyAtOnce) ∧
    ∃ labels, ∃ s : Receiver (List ℕ), Run (step eventBatchManagedRecv) Always {} labels s ∧
      s.Stopped ∧ ¬ s.NobodySuspended ∧ ¬ s.ReadyAtOnce := by
  constructor
  · obtain ⟨s, run, stopped, waits, found⟩ :
        ∃ s, Run (step eventManagedRecv) Always {} stoppedWaiting s ∧ s.Stopped ∧
          0 ∈ s.queue.queues.pendingAccepters ∧
          s.queue.queues.receptables[0]? = some ⟨.monostate, some 7⟩ :=
      ⟨_, ⟨rfl, meets_always _ _⟩, by decide, by decide, rfl⟩
    exact ⟨_, s, run, stopped, (serving_of_run run).stranded waits found rfl⟩
  · obtain ⟨s, run, stopped, waits, found⟩ :
        ∃ s, Run (step eventBatchManagedRecv) Always {} stoppedAfterFailure s ∧ s.Stopped ∧
          0 ∈ s.queue.queues.pendingAccepters ∧
          s.queue.queues.receptables[0]? = some ⟨.monostate, some 7⟩ :=
      ⟨_, ⟨rfl, meets_always _ _⟩, by decide, by decide, rfl⟩
    exact ⟨_, s, run, stopped, (serving_of_run run).stranded waits found rfl⟩

end Receiver

end Shoc.Eth

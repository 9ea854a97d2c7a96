/-
# Accepter queues in use

`supply` and `disconnect` resume coroutines in the middle of their work, and these
may call the queue again, so the run of a queue interleaves calls freely. A stack
says which `disconnect` calls are in progress and which coroutines have been
resumed and not yet given control back; calls come from outside or from the
coroutine on top.
-/

import Shoc.Common.Delivery
import Shoc.Transition.Runs

namespace Shoc.Common

open Coro Transition

variable {Payload : Type*}

/-- What is in progress: a `disconnect` call in its loop, or a coroutine that was resumed
by a `supply` or `disconnect` call and has not given control back. -/
inductive QueueFrame
  | disconnecting
  | resumed (coro : Coro)
  deriving DecidableEq, Repr

/-- A queue in use. `returned` says that some `disconnect` call has returned, `rounds`
counts the rounds of all `disconnect` loops. -/
structure QueueInUse (Payload : Type*) where
  queues : AccepterQueues Payload := {}
  stack : List QueueFrame := []
  returned : Bool := false
  rounds : ℕ := 0
  deriving DecidableEq, Repr

/-- What can happen next: a call on the queue or a `co_await`, from outside or by the
coroutine that runs; the next round of the `disconnect` loop that runs; the coroutine
that runs gives control back. -/
inductive QueueLabel (Payload : Type*)
  | accept
  | supply (payload : Payload)
  | disconnect
  | coAwait (ticket : Ticket) (coro : Coro)
  | round
  | suspend
  deriving DecidableEq, Repr

namespace QueueInUse

variable {s t : QueueInUse Payload} {label : QueueLabel Payload}
  {labels : List (QueueLabel Payload)}

/-- Code that can call the queue has control: no `disconnect` loop is on top. -/
def callable (s : QueueInUse Payload) : Bool := s.stack.head? ≠ some .disconnecting

/-- Resume the given coroutine, if there is one. -/
def resume (served : AccepterQueues Payload × Option Coro) (s : QueueInUse Payload) :
    QueueInUse Payload :=
  { s with queues := served.1, stack := served.2.toList.map .resumed ++ s.stack }

/-- One step of a queue in use. -/
def step (s : QueueInUse Payload) : QueueLabel Payload → Option (QueueInUse Payload)
  | .accept => if s.callable then some { s with queues := s.queues.accept } else none
  | .supply payload => if s.callable then some (s.resume (s.queues.supply payload)) else none
  | .disconnect =>
      if s.callable then
        some { s with queues := s.queues.markDisconnected, stack := .disconnecting :: s.stack }
      else none
  | .coAwait ticket coro =>
      if s.callable then some { s with queues := s.queues.await ticket coro } else none
  -- The loop condition looks at the queue after every resume
  | .round =>
      match s.stack with
      | .disconnecting :: callers =>
          match s.queues.release with
          | some served => some { s.resume served with rounds := s.rounds + 1 }
          | none => some { s with stack := callers, returned := true }
      | _ => none
  | .suspend =>
      match s.stack with
      | .resumed _ :: callers => some { s with stack := callers }
      | _ => none

/-- Everything a step can do: it serves the queue in one of four ways, begins or ends a
`disconnect` call, or does not touch the queue. -/
inductive Taken (s : QueueInUse Payload) : QueueInUse Payload → Prop
  | accepted : Taken s { s with queues := s.queues.accept }
  | supplied (payload : Payload) : Taken s (s.resume (s.queues.supply payload))
  | marked : Taken s
      { s with queues := s.queues.markDisconnected, stack := .disconnecting :: s.stack }
  | awaited (ticket : Ticket) (coro : Coro) :
      Taken s { s with queues := s.queues.await ticket coro }
  | released {served : AccepterQueues Payload × Option Coro} {callers : List QueueFrame}
      (loops : s.stack = .disconnecting :: callers) (taken : s.queues.release = some served) :
      Taken s { s.resume served with rounds := s.rounds + 1 }
  | returned {callers : List QueueFrame} (loops : s.stack = .disconnecting :: callers)
      (nobody : s.queues.pendingAccepters = []) :
      Taken s { s with stack := callers, returned := true }
  | suspended {coro : Coro} {callers : List QueueFrame}
      (runs : s.stack = .resumed coro :: callers) : Taken s { s with stack := callers }

/-- A call has one result. -/
theorem eq_of_called {u : QueueInUse Payload}
    (taken : (if s.callable then some u else none) = some t) : t = u := by
  rw [Option.ite_none_right_eq_some] at taken
  exact (Option.some.inj taken.2).symm

theorem step_taken (taken : step s label = some t) : Taken s t := by
  cases label with
  | accept | supply payload | disconnect | coAwait ticket coro =>
    obtain rfl := eq_of_called taken
    constructor
  | round =>
    simp only [step] at taken
    split at taken
    · rename_i callers loops
      split at taken
      · rename_i served released
        obtain rfl := Option.some.inj taken
        exact .released loops released
      · rename_i ended
        obtain rfl := Option.some.inj taken
        exact .returned loops (AccepterQueues.release_eq_none.mp ended)
    · contradiction
  | suspend =>
    simp only [step] at taken
    split at taken
    · rename_i coro callers runs
      obtain rfl := Option.some.inj taken
      exact .suspended runs
    · contradiction

/-- Only a `supply` adds to what was supplied. -/
theorem supplied_step (other : ∀ payload, label ≠ .supply payload)
    (taken : step s label = some t) : t.queues.supplied = s.queues.supplied := by
  cases label with
  | supply payload => exact absurd rfl (other payload)
  | accept | disconnect | coAwait =>
    obtain rfl := eq_of_called taken
    simp [AccepterQueues.markDisconnected, AccepterQueues.await]
  | round =>
    simp only [step] at taken
    split at taken
    · split at taken
      · rename_i released
        obtain rfl := Option.some.inj taken
        exact AccepterQueues.supplied_release released
      · obtain rfl := Option.some.inj taken
        rfl
    · contradiction
  | suspend =>
    simp only [step] at taken
    split at taken
    · obtain rfl := Option.some.inj taken
      rfl
    · contradiction

/-- The invariant of a queue in use: it serves in order, a `disconnect` call in progress
has disconnected it, and one that has returned has left nobody waiting. -/
structure Orderly (s : QueueInUse Payload) : Prop where
  queues : s.queues.Orderly
  looping : .disconnecting ∈ s.stack → s.queues.disconnected = true
  released : s.returned = true →
    s.queues.disconnected = true ∧ s.queues.pendingAccepters = []

/-- What a step does to the end of a `disconnect` call: the queue stays disconnected, and
the rounds still to come are no more than the accepters still waiting. -/
def Closing (s t : QueueInUse Payload) : Prop :=
  s.queues.disconnected = true → t.queues.disconnected = true ∧ s.rounds ≤ t.rounds ∧
    t.rounds + t.queues.pendingAccepters.length ≤ s.rounds + s.queues.pendingAccepters.length

theorem closing_refl (s : QueueInUse Payload) : Closing s s :=
  fun disconnected => ⟨disconnected, Nat.le_refl _, Nat.le_refl _⟩

theorem closing_trans {u : QueueInUse Payload} (first : Closing s t) (second : Closing t u) :
    Closing s u := by
  intro disconnected
  obtain ⟨still, later, fewer⟩ := first disconnected
  obtain ⟨ever, latest, least⟩ := second still
  exact ⟨ever, Nat.le_trans later latest, Nat.le_trans least fewer⟩

/-- A step that only does something to the queue. -/
theorem closing_of_queues {q : AccepterQueues Payload} {stack : List QueueFrame} {returned : Bool}
    (closing : AccepterQueues.Closing s.queues q) : Closing s ⟨q, stack, returned, s.rounds⟩ := by
  intro disconnected
  obtain ⟨still, fewer⟩ := closing disconnected
  exact ⟨still, Nat.le_refl _, Nat.add_le_add_left fewer _⟩

/-- Every step serves the queue, or leaves it as it is. -/
theorem served_step (taken : step s label = some t) : s.queues.Served t.queues := by
  cases step_taken taken with
  | accepted => exact .accepted
  | supplied payload => exact .supplied payload
  | marked => exact .marked
  | awaited ticket coro => exact .awaited ticket coro
  | released loops release => exact .released release
  | returned | suspended => exact .same

theorem closing_step (taken : step s label = some t) : Closing s t := by
  have served := served_step taken
  cases step_taken taken with
  | accepted | supplied | marked | awaited | returned | suspended =>
    exact closing_of_queues served.closing
  | released loops release =>
    -- A round counts, and takes an accepter out of the queue
    intro disconnected
    obtain ⟨same, fewer⟩ := AccepterQueues.closing_release release
    refine ⟨same.trans disconnected, Nat.le_succ _, ?_⟩
    simp only [resume]
    omega

theorem closing_of_run {ok : QueueInUse Payload → QueueLabel Payload → Prop}
    (run : Run step ok s labels t) : Closing s t :=
  run.relates closing_refl closing_trans fun _ _ _ _ taken => closing_step taken

/-- The new frames of a resume are never `disconnect` loops. -/
theorem looping_resume {served : AccepterQueues Payload × Option Coro}
    (loops : .disconnecting ∈ (s.resume served).stack) : .disconnecting ∈ s.stack := by
  simpa [resume] using loops

theorem orderly_step (h : s.Orderly) (taken : step s label = some t) : t.Orderly := by
  -- Once some `disconnect` call has returned nobody joins the queue again
  have released : s.returned = true →
      t.queues.disconnected = true ∧ t.queues.pendingAccepters = [] := by
    intro before
    obtain ⟨disconnected, nobody⟩ := h.released before
    obtain ⟨still, later, fewer⟩ := closing_step taken disconnected
    rw [nobody, List.length_nil] at fewer
    exact ⟨still, List.length_eq_zero_iff.mp (by omega)⟩
  have served := served_step taken
  have queues := served.orderly h.queues
  cases step_taken taken with
  | accepted | awaited =>
    exact ⟨queues, fun loops => (served.closing (h.looping loops)).1, released⟩
  | supplied | released =>
    exact ⟨queues, fun loops => (served.closing (h.looping (looping_resume loops))).1, released⟩
  | marked => exact ⟨queues, fun _ => rfl, released⟩
  | returned loops nobody =>
    refine ⟨queues, fun inside => h.looping (loops ▸ .tail _ inside), fun _ => ?_⟩
    exact ⟨h.looping (loops ▸ List.mem_cons_self), nobody⟩
  | suspended runs =>
    exact ⟨queues, fun inside => h.looping (runs ▸ .tail _ inside), h.released⟩

theorem orderly_of_run {ok : QueueInUse Payload → QueueLabel Payload → Prop}
    (run : Run step ok {} labels s) : s.Orderly :=
  run.invariant _ (fun _ _ _ h _ taken => orderly_step h taken)
    ⟨Delivers.init, by simp, by simp⟩

/-- A `disconnect` loop that has control can always go on. -/
theorem round_enabled (loops : s.stack.head? = some .disconnecting) : (step s .round).isSome := by
  obtain ⟨callers, stack⟩ := List.head?_eq_some_iff.mp loops
  simp only [step, stack]
  cases s.queues.release <;> rfl

theorem returned_of_run {ok : QueueInUse Payload → QueueLabel Payload → Prop}
    (run : Run step ok s labels t) (before : s.returned = true) : t.returned = true := by
  refine run.invariant (fun s => s.returned = true) (fun s _ _ before _ taken => ?_) before
  cases step_taken taken with
  | accepted | supplied | marked | awaited | released | suspended => exact before
  | returned => rfl

/-- **Accepter queues deliver every payload exactly once and in order**, whatever the
coroutines do that they resume: the payloads handed out, in the order of the accept
calls, followed by those still queued are the payloads supplied; every accept call was
given a payload, was refused or is waiting, and was given a result at most once; items
and accepters are never queued at the same time. A `disconnect` call always finds its
next round, makes at most as many rounds as accepters were waiting, and when it has
returned nobody waits, then or ever after. -/
theorem delivers_once_in_order (labels : List (QueueLabel Payload)) (s : QueueInUse Payload)
    (run : Run step Always {} labels s) :
    (s.queues.delivered ++ s.queues.pendingData = s.queues.supplied) ∧
    ((∀ ticket < s.queues.receptables.length, s.queues.Settled ticket) ∧
      s.queues.completed.Nodup ∧
      ∀ ticket, ticket ∈ s.queues.completed ↔
        ticket < s.queues.receptables.length ∧ ticket ∉ s.queues.pendingAccepters) ∧
    (s.queues.pendingData = [] ∨ s.queues.pendingAccepters = []) ∧
    (s.stack.head? = some .disconnecting → (step s .round).isSome) ∧
    ∀ (more : List (QueueLabel Payload)) (t : QueueInUse Payload), Run step Always s more t →
      (s.returned = true → t.queues.pendingAccepters = []) ∧
      (.disconnecting ∈ s.stack → t.rounds + t.queues.pendingAccepters.length ≤
        s.rounds + s.queues.pendingAccepters.length) := by
  have orderly := orderly_of_run run
  refine ⟨orderly.queues.conserved, ⟨fun ticket => AccepterQueues.settled_of_orderly orderly.queues,
    orderly.queues.once, fun ticket => AccepterQueues.completed_iff_of_orderly orderly.queues⟩,
    orderly.queues.exclusive, round_enabled, ?_⟩
  -- What was true at the end of a `disconnect` call stays true, since nobody joins
  intro more t later
  refine ⟨fun returned => ?_, fun loops => ?_⟩
  · exact ((orderly_of_run (run.append later)).released (returned_of_run later returned)).2
  · exact (closing_of_run later (orderly.looping loops)).2.2

/-- Three accepters wait. The first is given an item and disconnects the queue when it is
resumed; the second is refused and supplies an item, which goes to the third, when it is
resumed in turn. -/
def reentrant : List (QueueLabel ℕ) :=
  [.accept, .accept, .accept, .coAwait 0 7, .coAwait 1 8, .supply 10, .disconnect, .round,
    .supply 20, .accept, .suspend, .round, .suspend, .supply 30, .accept, .supply 40]

theorem delivers_once_in_order_reentrant :
    ∃ s : QueueInUse ℕ, Run step Always {} reentrant s ∧ s.queues.supplied = [10, 20, 30, 40] ∧
      s.queues.delivered ++ s.queues.pendingData = s.queues.supplied :=
  ⟨_, ⟨rfl, meets_always _ _⟩, rfl,
    (delivers_once_in_order reentrant _ ⟨rfl, meets_always _ _⟩).1⟩

end QueueInUse

end Shoc.Common

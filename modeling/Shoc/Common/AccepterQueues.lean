/-
# Accepter queues

`accepter_queues` pairs queued items with waiting accepters: messages,
connections, remote consumers and received packets all go through one. An accept
call is known by its number in the order of the calls; its awaitable owns the
receptable of that number, and the queue of waiting accepters holds numbers.

Storing a result in a receptable and resuming its waiter are the last two steps
of `supply` and of each round of `disconnect`. The functions here do everything
up to the resume and return the coroutine to resume, so that their callers decide
what it does with the queue before control comes back.
-/

import Mathlib.Data.List.Nodup
import Shoc.Coro.Receptable

namespace Shoc.Common

open Coro

variable {Payload : Type*}

/-- An accept call, numbered in the order of the calls. -/
abbrev Ticket := ℕ

/-- `accepter_queues<Payload>` with the receptables of its awaitables. The payloads
supplied, the accept calls that were given a result and the coroutines resumed for
them are recorded besides, the last two latest first. -/
structure AccepterQueues (Payload : Type*) where
  pendingData : List Payload := []
  pendingAccepters : List Ticket := []
  disconnected : Bool := false
  receptables : List (Receptable Payload) := []
  supplied : List Payload := []
  completed : List Ticket := []
  resumed : List (Ticket × Coro) := []
  deriving DecidableEq, Repr

namespace AccepterQueues

/-- The awaitable of a new accept call that is ready at once. -/
def answer (receptable : Receptable Payload) (q : AccepterQueues Payload) :
    AccepterQueues Payload :=
  { q with
    receptables := q.receptables ++ [receptable]
    completed := q.receptables.length :: q.completed }

/-- `accepter_queues::accept`. -/
def accept (q : AccepterQueues Payload) : AccepterQueues Payload :=
  match q.pendingData with
  | value :: rest => { q with pendingData := rest }.answer (.fromValue value)
  -- Items that came before the disconnect are still handed out
  | [] =>
      if q.disconnected then q.answer (.fromError .notConnected)
      else { q with
        receptables := q.receptables ++ [{}]
        pendingAccepters := q.pendingAccepters ++ [q.receptables.length] }

/-- Give the first accepter of the queue its result and take it out of the queue. What
is left to do is to resume the returned coroutine. -/
def serve (write : Receptable Payload → Receptable Payload) (ticket : Ticket)
    (rest : List Ticket) (q : AccepterQueues Payload) : AccepterQueues Payload × Option Coro :=
  let waiter := q.receptables[ticket]?.bind Receptable.resume
  ({ q with
    receptables := q.receptables.modify ticket write
    pendingAccepters := rest
    completed := ticket :: q.completed
    resumed := waiter.toList.map (ticket, ·) ++ q.resumed }, waiter)

/-- `accepter_queues::supply` up to the resume. -/
def supply (payload : Payload) (q : AccepterQueues Payload) :
    AccepterQueues Payload × Option Coro :=
  match q.pendingAccepters with
  | [] =>
      ({ q with
        pendingData := q.pendingData ++ [payload]
        supplied := q.supplied ++ [payload] }, none)
  | ticket :: rest =>
      { q with supplied := q.supplied ++ [payload] }.serve (·.setValue payload) ticket rest

/-- The first statement of `accepter_queues::disconnect`. -/
def markDisconnected (q : AccepterQueues Payload) : AccepterQueues Payload :=
  { q with disconnected := true }

/-- One round of the loop of `accepter_queues::disconnect` up to the resume, or nothing
if the loop has ended. -/
def release (q : AccepterQueues Payload) : Option (AccepterQueues Payload × Option Coro) :=
  match q.pendingAccepters with
  | [] => none
  | ticket :: rest => some (q.serve (·.setError .notConnected) ticket rest)

/-- `co_await` on the awaitable of an accept call. -/
def await (ticket : Ticket) (coro : Coro) (q : AccepterQueues Payload) : AccepterQueues Payload :=
  { q with receptables := q.receptables.modify ticket (·.await coro) }

/-- What the accept calls have come to, in the order of the calls. -/
def fates (q : AccepterQueues Payload) : List (Stored Payload) := q.receptables.map (·.stored)

variable {q : AccepterQueues Payload} {ticket : Ticket} {rest : List Ticket}

@[simp] theorem length_fates : q.fates.length = q.receptables.length := by simp [fates]

theorem getElem?_fates {r : Receptable Payload} (found : q.receptables[ticket]? = some r) :
    q.fates[ticket]? = some r.stored := by
  rw [fates, List.getElem?_map, found]
  rfl

@[simp] theorem fates_answer (receptable : Receptable Payload) :
    (q.answer receptable).fates = q.fates ++ [receptable.stored] := by simp [fates, answer]

theorem getElem?_fates_modify (write : Receptable Payload → Receptable Payload) (index : ℕ) :
    ((q.receptables.modify ticket write).map (·.stored))[index]? =
      if ticket = index then q.receptables[index]?.map fun r => (write r).stored
      else q.fates[index]? := by
  simp only [fates, List.getElem?_map, List.getElem?_modify]
  split <;> cases q.receptables[index]? <;> rfl

/-- Serving an accepter replaces its fate. -/
theorem fates_serve {write : Receptable Payload → Receptable Payload} {fate : Stored Payload}
    (writes : ∀ r, (write r).stored = fate) :
    (q.serve write ticket rest).1.fates = q.fates.set ticket fate := by
  apply List.ext_getElem?
  intro index
  rw [fates, serve, getElem?_fates_modify, List.getElem?_set]
  -- The ticket itself, which may be out of range, and all others
  split
  · rename_i same
    subst same
    simp only [writes, length_fates]
    split
    · rename_i inside
      simp [List.getElem?_eq_getElem inside]
    · rename_i outside
      simp [List.getElem?_eq_none (Nat.le_of_not_lt outside)]
  · rfl

/-- Registering a waiter changes nobody's fate. -/
@[simp] theorem fates_await (coro : Coro) : (q.await ticket coro).fates = q.fates := by
  apply List.ext_getElem?
  intro index
  rw [fates, await, getElem?_fates_modify]
  split
  · simp [fates]
  · rfl

/-! Only `supply` adds to what was supplied. -/

@[simp] theorem supplied_accept : q.accept.supplied = q.supplied := by
  unfold accept
  split
  · rfl
  · split <;> rfl

@[simp] theorem supplied_supply (payload : Payload) :
    (q.supply payload).1.supplied = q.supplied ++ [payload] := by
  unfold supply
  split <;> rfl

theorem supplied_release {next : AccepterQueues Payload} {coro : Option Coro}
    (taken : q.release = some (next, coro)) : next.supplied = q.supplied := by
  unfold release at taken
  split at taken
  · contradiction
  · obtain rfl : (q.serve _ _ _).1 = next := congrArg Prod.fst (Option.some.inj taken)
    rfl

/-! Only `disconnect` disconnects. -/

@[simp] theorem disconnected_accept : q.accept.disconnected = q.disconnected := by
  unfold accept
  split
  · rfl
  · split <;> rfl

@[simp] theorem disconnected_supply (payload : Payload) :
    (q.supply payload).1.disconnected = q.disconnected := by
  unfold supply
  split <;> rfl

end AccepterQueues

end Shoc.Common

/-
# What accepter queues deliver

Items and accepters meet first come, first served: while items are queued nobody
waits, so an accept call takes the oldest item, and while accepters wait nothing
is queued, so an item goes to the oldest of them. This is an invariant of the
queues at every moment, in particular whenever a coroutine is resumed in the
middle of `supply` or `disconnect`; what that coroutine then does with the queue
is one more call.

The order is stated about the lists behind the queues, and the operations of
`accepter_queues` are shown to keep it. Two more facts about single operations
are here for their users: a coroutine is resumed when its accept call is given a
result, and nobody joins a disconnected queue.
-/

import Shoc.Common.AccepterQueues

namespace Shoc.Common

open Coro

variable {Payload : Type*}

/-! ## First come, first served -/

/-- The payload among the alternatives a receptable can hold. -/
def payloadOf : Stored Payload → Option Payload
  | .payload value => some value
  | .monostate | .exception _ => none

/-- Items and accept calls meet first come, first served: the waiting accept calls are
those without a result, in the order of the calls; no call after a waiting one was given
a payload; what was handed out, in the order of the accept calls, and what is queued make
up what was supplied; a result is given once, and an error only because the queues are
disconnected. -/
structure Delivers (fates : List (Stored Payload)) (queued : List Payload) (waiting : List Ticket)
    (supplied : List Payload) (completed : List Ticket) : Prop where
  waiting_iff : ∀ ticket, ticket ∈ waiting ↔ fates[ticket]? = some .monostate
  sorted : waiting.Pairwise (· < ·)
  undelivered : ∀ ticket ∈ waiting, (fates.drop ticket).filterMap payloadOf = []
  conserved : fates.filterMap payloadOf ++ queued = supplied
  exclusive : queued = [] ∨ waiting = []
  refused : ∀ err, .exception err ∈ fates → err = .notConnected
  completed_iff : ∀ ticket, ticket ∈ completed ↔
    ∃ fate, fates[ticket]? = some fate ∧ fate ≠ .monostate
  once : completed.Nodup

section Lists

variable {fate other : Stored Payload} {fates : List (Stored Payload)} {index : ℕ}

theorem getElem?_concat_eq_some : (fates ++ [fate])[index]? = some other ↔
    fates[index]? = some other ∨ index = fates.length ∧ fate = other := by
  rw [List.getElem?_append]
  split
  · rename_i inside
    have ne : index ≠ fates.length := Nat.ne_of_lt inside
    simp [ne]
  · rename_i outside
    have none : fates[index]? = none := List.getElem?_eq_none (Nat.le_of_not_lt outside)
    rw [none, List.getElem?_singleton]
    split
    · have last : index = fates.length := by omega
      simp [last]
    · have ne : index ≠ fates.length := by omega
      simp [ne]

/-- A payload for an accept call behind which none was handed out comes last in the
order of the accept calls. -/
theorem filterMap_set (inside : index < fates.length)
    (undelivered : (fates.drop index).filterMap payloadOf = []) :
    (fates.set index fate).filterMap payloadOf =
      fates.filterMap payloadOf ++ (payloadOf fate).toList := by
  -- Neither at the position nor behind it stands a payload
  have later : (fates.drop (index + 1)).filterMap payloadOf = [] := by
    rw [List.drop_eq_getElem_cons inside, List.filterMap_cons] at undelivered
    split at undelivered
    · exact undelivered
    · contradiction
  have earlier : (fates.take index).filterMap payloadOf = fates.filterMap payloadOf := by
    conv_rhs => rw [← List.take_append_drop index fates]
    rw [List.filterMap_append, undelivered, List.append_nil]
  rw [List.set_eq_take_append_cons_drop, if_pos inside, List.filterMap_append, earlier,
    List.filterMap_cons]
  cases payloadOf fate <;> simp [later]

theorem filterMap_concat : (fates ++ [fate]).filterMap payloadOf =
    fates.filterMap payloadOf ++ (payloadOf fate).toList := by
  rw [List.filterMap_append, List.filterMap_cons]
  cases payloadOf fate <;> rfl

end Lists

namespace Delivers

variable {fate : Stored Payload} {fates : List (Stored Payload)} {queued supplied : List Payload}
  {waiting completed rest : List Ticket} {ticket : Ticket}

theorem init : Delivers ([] : List (Stored Payload)) [] [] [] [] := by
  constructor <;> simp

theorem waiting_lt (h : Delivers fates queued waiting supplied completed)
    (waits : ticket ∈ waiting) : ticket < fates.length :=
  (List.getElem?_eq_some_iff.mp ((h.waiting_iff ticket).mp waits)).1

theorem completed_lt (h : Delivers fates queued waiting supplied completed)
    (done : ticket ∈ completed) : ticket < fates.length := by
  obtain ⟨fate, found, -⟩ := (h.completed_iff ticket).mp done
  exact (List.getElem?_eq_some_iff.mp found).1

/-- Without errors, as many payloads were handed out as calls have a result. -/
theorem length_filterMap_payloadOf (full : ∀ fate ∈ fates, fate ≠ .monostate)
    (unrefused : ∀ err, .exception err ∉ fates) :
    (fates.filterMap payloadOf).length = fates.length := by
  refine List.filterMap_length_eq_length.mpr fun fate mem => ?_
  cases fate with
  | payload value => rfl
  | monostate => exact (full _ mem rfl).elim
  | exception err => exact (unrefused err mem).elim

/-- Without errors, a call has a result exactly if there were more items than calls before
it. -/
theorem served_iff {ticket : ℕ} (h : Delivers fates queued waiting supplied completed)
    (unrefused : ∀ err, .exception err ∉ fates) (found : fates[ticket]? = some fate) :
    fate ≠ .monostate ↔ ticket < supplied.length := by
  have inside : ticket < fates.length := (List.getElem?_eq_some_iff.mp found).1
  constructor
  · intro full
    -- Nobody waits in front of a call that has a payload
    have earlier : ∀ other ∈ fates.take (ticket + 1), other ≠ .monostate := by
      rintro other mem rfl
      obtain ⟨index, before⟩ := List.mem_iff_getElem?.mp mem
      rw [List.getElem?_take, Option.ite_none_right_eq_some] at before
      obtain ⟨below, before⟩ := before
      have none := h.undelivered index ((h.waiting_iff index).mpr before)
      rw [List.filterMap_eq_nil_iff] at none
      have behind : fate ∈ fates.drop index := by
        refine List.mem_iff_getElem?.mpr ⟨ticket - index, ?_⟩
        rw [List.getElem?_drop, Nat.add_sub_cancel' (by omega), found]
      cases fate with
      | payload value => exact absurd (none _ behind) (by simp [payloadOf])
      | monostate => exact full rfl
      | exception err => exact unrefused err (List.mem_of_getElem? found)
    have given := length_filterMap_payloadOf earlier fun err mem =>
      unrefused err (List.mem_of_mem_take mem)
    have part := ((List.take_sublist (ticket + 1) fates).filterMap payloadOf).length_le
    have whole := congrArg List.length h.conserved
    rw [List.length_append] at whole
    rw [List.length_take] at given
    omega
  · rintro below rfl
    have waits := (h.waiting_iff ticket).mpr found
    have drained : queued = [] := h.exclusive.resolve_right (List.ne_nil_of_mem waits)
    have first : fates.filterMap payloadOf = (fates.take ticket).filterMap payloadOf := by
      conv_lhs => rw [← List.take_append_drop ticket fates]
      rw [List.filterMap_append, h.undelivered ticket waits, List.append_nil]
    have few := List.length_filterMap_le payloadOf (fates.take ticket)
    have whole := congrArg List.length h.conserved
    rw [drained, List.append_nil, first] at whole
    rw [List.length_take] at few
    omega

/-- Without errors, items are queued exactly if there were more of them than calls. -/
theorem queued_iff (h : Delivers fates queued waiting supplied completed)
    (unrefused : ∀ err, .exception err ∉ fates) : queued ≠ [] ↔ fates.length < supplied.length := by
  have whole := congrArg List.length h.conserved
  rw [List.length_append] at whole
  constructor
  · intro more
    have nobody : waiting = [] := h.exclusive.resolve_left more
    have full : ∀ fate ∈ fates, fate ≠ .monostate := by
      rintro fate mem rfl
      obtain ⟨ticket, found⟩ := List.mem_iff_getElem?.mp mem
      have waits := (h.waiting_iff ticket).mpr found
      simp [nobody] at waits
    have given := length_filterMap_payloadOf full unrefused
    have pos := List.length_pos_of_ne_nil more
    omega
  · rintro more rfl
    have few := List.length_filterMap_le payloadOf fates
    rw [List.length_nil] at whole
    omega

/-- Queueing an item while nobody waits. -/
theorem enqueue (h : Delivers fates queued [] supplied completed) (payload : Payload) :
    Delivers fates (queued ++ [payload]) [] (supplied ++ [payload]) completed where
  waiting_iff := h.waiting_iff
  sorted := h.sorted
  undelivered := h.undelivered
  conserved := by rw [← List.append_assoc, h.conserved]
  exclusive := .inr rfl
  refused := h.refused
  completed_iff := h.completed_iff
  once := h.once

/-- Answering an accept call at once: with a payload only while nobody waits. -/
theorem answer {data : List Payload} (h : Delivers fates queued waiting supplied completed)
    (full : fate ≠ .monostate) (reason : ∀ err, fate = .exception err → err = .notConnected)
    (fair : payloadOf fate = none ∨ waiting = [])
    (balanced : (payloadOf fate).toList ++ data = queued) :
    Delivers (fates ++ [fate]) data waiting supplied (fates.length :: completed) := by
  constructor
  case waiting_iff =>
    intro ticket
    rw [getElem?_concat_eq_some, ← h.waiting_iff]
    simp [full]
  case sorted => exact h.sorted
  -- A payload goes to a new call only when nobody waits before it
  case undelivered =>
    intro ticket waits
    rw [List.drop_append_of_le_length (Nat.le_of_lt (h.waiting_lt waits)), filterMap_concat,
      h.undelivered ticket waits]
    rcases fair with nothing | nobody
    · simp [nothing]
    · simp [nobody] at waits
  case conserved => rw [filterMap_concat, List.append_assoc, balanced, h.conserved]
  case exclusive =>
    refine h.exclusive.imp_left fun none => ?_
    rw [none] at balanced
    exact (List.append_eq_nil_iff.mp balanced).2
  case refused =>
    intro err mem
    rw [List.mem_append, List.mem_singleton] at mem
    exact mem.elim (h.refused err) fun last => reason err last.symm
  case completed_iff =>
    intro ticket
    simp only [List.mem_cons, getElem?_concat_eq_some, h.completed_iff]
    constructor
    · rintro (rfl | ⟨earlier, found, given⟩)
      · exact ⟨fate, .inr ⟨rfl, rfl⟩, full⟩
      · exact ⟨earlier, .inl found, given⟩
    · rintro ⟨earlier, found | ⟨last, -⟩, given⟩
      · exact .inr ⟨earlier, found, given⟩
      · exact .inl last
  case once => exact List.nodup_cons.mpr ⟨fun done => Nat.lt_irrefl _ (h.completed_lt done), h.once⟩

/-- Making an accept call wait while nothing is queued. -/
theorem wait (h : Delivers fates [] waiting supplied completed) :
    Delivers (fates ++ [.monostate]) [] (waiting ++ [fates.length]) supplied completed := by
  constructor
  case waiting_iff =>
    intro ticket
    rw [getElem?_concat_eq_some, ← h.waiting_iff]
    simp
  -- The new call has the highest number
  case sorted =>
    refine List.pairwise_append.mpr ⟨h.sorted, List.pairwise_singleton _ _, ?_⟩
    intro earlier waits last here
    rw [List.mem_singleton.mp here]
    exact h.waiting_lt waits
  case undelivered =>
    intro ticket waits
    rcases List.mem_append.mp waits with earlier | last
    · rw [List.drop_append_of_le_length (Nat.le_of_lt (h.waiting_lt earlier)), filterMap_concat,
        h.undelivered ticket earlier]
      rfl
    · rw [List.mem_singleton.mp last, List.drop_left]
      rfl
  case conserved => rw [filterMap_concat, ← h.conserved]; simp [payloadOf]
  case exclusive => exact .inl rfl
  case refused =>
    intro err mem
    simp only [List.mem_append, List.mem_singleton, reduceCtorEq, or_false] at mem
    exact h.refused err mem
  case completed_iff =>
    intro ticket
    simp only [h.completed_iff, getElem?_concat_eq_some]
    constructor
    · rintro ⟨fate, found, given⟩
      exact ⟨fate, .inl found, given⟩
    · rintro ⟨fate, found | ⟨-, rfl⟩, given⟩
      · exact ⟨fate, found, given⟩
      · contradiction
  case once => exact h.once

/-- Giving the first waiting accept call its result. -/
theorem serve (h : Delivers fates queued (ticket :: rest) supplied completed)
    (full : fate ≠ .monostate) (reason : ∀ err, fate = .exception err → err = .notConnected) :
    Delivers (fates.set ticket fate) queued rest (supplied ++ (payloadOf fate).toList)
      (ticket :: completed) := by
  have inside : ticket < fates.length := h.waiting_lt List.mem_cons_self
  have empty : fates[ticket]? = some .monostate := (h.waiting_iff ticket).mp List.mem_cons_self
  have others : ∀ later ∈ rest, ticket < later := (List.pairwise_cons.mp h.sorted).1
  have nothing : queued = [] := h.exclusive.resolve_right (List.cons_ne_nil _ _)
  constructor
  -- The numbers that wait are distinct, so only this one leaves
  case waiting_iff =>
    intro other
    rw [List.getElem?_set]
    by_cases same : ticket = other
    · subst same
      simp only [if_true, inside, Option.some.injEq, full, iff_false]
      exact fun waits => Nat.lt_irrefl _ (others ticket waits)
    · rw [if_neg same, ← h.waiting_iff, List.mem_cons]
      simp [Ne.symm same]
  case sorted => exact (List.pairwise_cons.mp h.sorted).2
  case undelivered =>
    intro later waits
    rw [List.drop_set_of_lt (others later waits)]
    exact h.undelivered later (.tail _ waits)
  -- Nothing is queued, and behind the first waiting call nothing was handed out
  case conserved =>
    rw [filterMap_set inside (h.undelivered ticket List.mem_cons_self), ← h.conserved, nothing]
    simp
  case exclusive => exact .inl nothing
  case refused =>
    intro err mem
    rcases List.mem_or_eq_of_mem_set mem with earlier | now
    · exact h.refused err earlier
    · exact reason err now.symm
  case completed_iff =>
    intro other
    rw [List.mem_cons, h.completed_iff, List.getElem?_set]
    by_cases same : ticket = other
    · subst same
      simp [inside, full]
    · simp [same, Ne.symm same]
  case once =>
    refine List.nodup_cons.mpr ⟨fun done => ?_, h.once⟩
    obtain ⟨fate, found, given⟩ := (h.completed_iff ticket).mp done
    exact given (Option.some.inj (found.symm.trans empty))

end Delivers

/-! ## The operations keep the order -/

namespace AccepterQueues

variable {q next : AccepterQueues Payload} {ticket : Ticket} {rest : List Ticket}
  {supplied : List Payload} {coro : Option Coro}

/-- The payloads handed out, in the order of the accept calls that got them. -/
def delivered (q : AccepterQueues Payload) : List Payload := q.fates.filterMap payloadOf

/-- The queues serve first come, first served. -/
def Orderly (q : AccepterQueues Payload) : Prop :=
  Delivers q.fates q.pendingData q.pendingAccepters q.supplied q.completed

theorem orderly_answer {receptable : Receptable Payload} {data : List Payload} (h : q.Orderly)
    (full : receptable.stored ≠ .monostate)
    (reason : ∀ err, receptable.stored = .exception err → err = .notConnected)
    (fair : payloadOf receptable.stored = none ∨ q.pendingAccepters = [])
    (balanced : (payloadOf receptable.stored).toList ++ data = q.pendingData) :
    ({ q with pendingData := data }.answer receptable).Orderly := by
  have answered := h.answer full reason fair balanced
  rw [length_fates] at answered
  rw [Orderly, fates_answer]
  exact answered

theorem orderly_accept (h : q.Orderly) : q.accept.Orderly := by
  unfold accept
  split
  -- An item is queued, so nobody waits
  · rename_i value data queued
    have nobody : q.pendingAccepters = [] := h.exclusive.resolve_left (by simp [queued])
    exact orderly_answer h (by simp [Receptable.fromValue]) (by simp [Receptable.fromValue])
      (.inr nobody) queued.symm
  · rename_i nothing
    split
    · exact orderly_answer h (by simp [Receptable.fromError]) (by simp [Receptable.fromError])
        (.inl rfl) rfl
    -- Nothing is queued and the queues are connected: the call waits
    · have waits : Delivers q.fates [] q.pendingAccepters q.supplied q.completed := nothing ▸ h
      have waiting := waits.wait
      rw [length_fates] at waiting
      simpa [Orderly, fates, nothing] using waiting

theorem orderly_serve {write : Receptable Payload → Receptable Payload} {fate : Stored Payload}
    (h : Delivers q.fates q.pendingData (ticket :: rest) supplied q.completed)
    (writes : ∀ r, (write r).stored = fate) (full : fate ≠ .monostate)
    (reason : ∀ err, fate = .exception err → err = .notConnected)
    (balanced : supplied ++ (payloadOf fate).toList = q.supplied) :
    (q.serve write ticket rest).1.Orderly := by
  have served := h.serve full reason
  rw [← fates_serve writes, balanced] at served
  exact served

theorem orderly_supply (h : q.Orderly) (payload : Payload) : (q.supply payload).1.Orderly := by
  unfold supply
  split
  · rename_i nobody
    have queued : Delivers q.fates q.pendingData [] q.supplied q.completed := nobody ▸ h
    simpa [Orderly, fates, nobody] using queued.enqueue payload
  -- The first accepter in the queue is the oldest
  · rename_i ticket rest waiting
    have served : Delivers q.fates q.pendingData (ticket :: rest) q.supplied q.completed :=
      waiting ▸ h
    exact orderly_serve served (fun _ => rfl) (by simp) (by simp) rfl

theorem orderly_release (h : q.Orderly) (taken : q.release = some (next, coro)) :
    next.Orderly := by
  unfold release at taken
  split at taken
  · contradiction
  · rename_i ticket rest waiting
    obtain rfl : (q.serve _ ticket rest).1 = next := congrArg Prod.fst (Option.some.inj taken)
    have served : Delivers q.fates q.pendingData (ticket :: rest) q.supplied q.completed :=
      waiting ▸ h
    exact orderly_serve served (fun _ => rfl) (by simp) (by simp) (List.append_nil _)

theorem orderly_await (h : q.Orderly) (coro : Coro) : (q.await ticket coro).Orderly := by
  rw [Orderly, fates_await]
  exact h

/-- The three things that can become of an accept call. -/
def Settled (q : AccepterQueues Payload) (ticket : Ticket) : Prop :=
  (∃ value, q.fates[ticket]? = some (.payload value)) ∧ ticket ∉ q.pendingAccepters ∨
  q.fates[ticket]? = some (.exception .notConnected) ∧ ticket ∉ q.pendingAccepters ∨
  q.fates[ticket]? = some .monostate ∧ ticket ∈ q.pendingAccepters

theorem settled_of_orderly (h : q.Orderly)
    (called : ticket < q.receptables.length) : q.Settled ticket := by
  rw [← q.length_fates] at called
  have found := List.getElem?_eq_getElem called
  have waits := h.waiting_iff ticket
  cases fate : q.fates[ticket] with
  | payload value =>
    rw [found, fate] at waits
    exact .inl ⟨⟨value, by rw [found, fate]⟩, by simp [waits]⟩
  | exception err =>
    obtain rfl := h.refused err (fate ▸ List.getElem_mem called)
    rw [found, fate] at waits
    exact .inr (.inl ⟨by rw [found, fate], by simp [waits]⟩)
  | monostate =>
    rw [found, fate] at waits
    exact .inr (.inr ⟨by rw [found, fate], by simp [waits]⟩)

/-- An accept call has been given a result as soon as it does not wait any more. -/
theorem completed_iff_of_orderly (h : q.Orderly) :
    ticket ∈ q.completed ↔ ticket < q.receptables.length ∧ ticket ∉ q.pendingAccepters := by
  rw [h.completed_iff, h.waiting_iff, ← length_fates]
  constructor
  · rintro ⟨fate, found, given⟩
    refine ⟨(List.getElem?_eq_some_iff.mp found).1, fun empty => given ?_⟩
    exact Option.some.inj (found.symm.trans empty)
  · rintro ⟨called, given⟩
    refine ⟨q.fates[ticket], List.getElem?_eq_getElem called, fun empty => given ?_⟩
    rw [List.getElem?_eq_getElem called, empty]

/-! ## Whoever was given a result was resumed -/

/-- A coroutine registered with an accept call that was given a result has been resumed. -/
def Woken (q : AccepterQueues Payload) : Prop :=
  ∀ ticket r coro, q.receptables[ticket]? = some r → r.stored ≠ .monostate →
    r.waiter = some coro → (ticket, coro) ∈ q.resumed

/-- A new accept call has no waiter yet. -/
theorem woken_concat {receptable : Receptable Payload} (h : q.Woken)
    (fresh : receptable.waiter = none) (waiting completed : List Ticket) (data : List Payload) :
    Woken { q with
      receptables := q.receptables ++ [receptable]
      pendingAccepters := waiting
      completed := completed
      pendingData := data } := by
  intro ticket r coro found given registered
  rw [List.getElem?_append] at found
  split at found
  · exact h ticket r coro found given registered
  · obtain rfl := List.mem_singleton.mp (List.mem_of_getElem? found)
    rw [fresh] at registered
    contradiction

theorem woken_accept (h : q.Woken) : q.accept.Woken := by
  unfold accept
  split
  · exact woken_concat h rfl _ _ _
  · split <;> exact woken_concat h rfl _ _ _

/-- Who is found in a list after one of its entries was modified. -/
theorem found_modify {write : Receptable Payload → Receptable Payload} {index : ℕ}
    {receptables : List (Receptable Payload)} {r : Receptable Payload}
    (found : (receptables.modify ticket write)[index]? = some r) :
    (ticket = index ∧ ∃ old, receptables[index]? = some old ∧ write old = r) ∨
      receptables[index]? = some r := by
  by_cases same : ticket = index
  · subst same
    rw [List.getElem?_modify_eq] at found
    exact .inl ⟨rfl, Option.map_eq_some_iff.mp found⟩
  · rw [List.getElem?_modify_ne _ _ same] at found
    exact .inr found

theorem woken_serve {write : Receptable Payload → Receptable Payload} (h : q.Woken)
    (keeps : ∀ r, (write r).waiter = r.waiter) : (q.serve write ticket rest).1.Woken := by
  intro index r coro found given registered
  rcases found_modify found with ⟨rfl, old, before, rfl⟩ | before
  -- The waiter of the accepter that is served is the coroutine that is resumed
  · rw [keeps] at registered
    simp [serve, before, Receptable.resume, registered]
  · exact List.mem_append_right _ (h index r coro before given registered)

theorem woken_supply (h : q.Woken) (payload : Payload) : (q.supply payload).1.Woken := by
  unfold supply
  split
  · exact h
  · exact woken_serve h fun _ => rfl

theorem woken_release (h : q.Woken) (taken : q.release = some (next, coro)) : next.Woken := by
  unfold release at taken
  split at taken
  · contradiction
  · obtain rfl : (q.serve _ _ _).1 = next := congrArg Prod.fst (Option.some.inj taken)
    exact woken_serve h fun _ => rfl

/-- Nobody registers with an accept call that already has its result. -/
theorem woken_await (h : q.Woken) (coro : Coro) : (q.await ticket coro).Woken := by
  intro index r other found given registered
  rcases found_modify found with ⟨rfl, old, before, rfl⟩ | before
  -- With a result there, `await_ready` is true and nothing is registered
  · rw [Receptable.stored_await] at given
    rw [Receptable.await, if_pos (Receptable.hasValue_iff.mpr given)] at registered
    exact h ticket old other before given registered
  · exact h index r other before given registered

/-! ## Nobody joins a disconnected queue -/

/-- Every call keeps the queues disconnected and lets no accepter join them. -/
def Closing (before after : AccepterQueues Payload) : Prop :=
  before.disconnected = true → after.disconnected = true ∧
    after.pendingAccepters.length ≤ before.pendingAccepters.length

theorem closing_accept : Closing q q.accept := by
  intro disconnected
  unfold accept
  split
  · exact ⟨disconnected, Nat.le_refl _⟩
  · rw [if_pos disconnected]
    exact ⟨disconnected, Nat.le_refl _⟩

theorem closing_supply (payload : Payload) : Closing q (q.supply payload).1 := by
  intro disconnected
  unfold supply
  split
  · exact ⟨disconnected, by simp⟩
  · rename_i waiting
    exact ⟨disconnected, by simp [serve, waiting]⟩

/-- A round of the `disconnect` loop takes one accepter out of the queue. -/
theorem closing_release (taken : q.release = some (next, coro)) :
    next.disconnected = q.disconnected ∧
      q.pendingAccepters.length = next.pendingAccepters.length + 1 := by
  unfold release at taken
  split at taken
  · contradiction
  · rename_i waiting
    obtain rfl : (q.serve _ _ _).1 = next := congrArg Prod.fst (Option.some.inj taken)
    exact ⟨rfl, by simp [waiting, serve]⟩

theorem release_eq_none : q.release = none ↔ q.pendingAccepters = [] := by
  unfold release
  cases q.pendingAccepters <;> simp

/-! ## Everything at once -/

/-- Everything that an operation, or a round of one, can do to the queues. -/
inductive Served (q : AccepterQueues Payload) : AccepterQueues Payload → Prop
  | same : Served q q
  | accepted : Served q q.accept
  | supplied (payload : Payload) : Served q (q.supply payload).1
  | awaited (ticket : Ticket) (coro : Coro) : Served q (q.await ticket coro)
  | marked : Served q q.markDisconnected
  | released {next : AccepterQueues Payload} {coro : Option Coro}
      (taken : q.release = some (next, coro)) : Served q next

/-- The queues are disconnected and everybody was released. -/
def Closed (q : AccepterQueues Payload) : Prop :=
  q.disconnected = true ∧ q.pendingAccepters = []

namespace Served

theorem orderly (served : Served q next) (h : q.Orderly) : next.Orderly := by
  cases served with
  | same | marked => exact h
  | accepted => exact orderly_accept h
  | supplied payload => exact orderly_supply h payload
  | awaited ticket coro => exact orderly_await h coro
  | released taken => exact orderly_release h taken

theorem woken (served : Served q next) (h : q.Woken) : next.Woken := by
  cases served with
  | same | marked => exact h
  | accepted => exact woken_accept h
  | supplied payload => exact woken_supply h payload
  | awaited ticket coro => exact woken_await h coro
  | released taken => exact woken_release h taken

theorem closing (served : Served q next) : Closing q next := by
  cases served with
  | same | awaited ticket coro => exact fun disconnected => ⟨disconnected, Nat.le_refl _⟩
  | marked => exact fun _ => ⟨rfl, Nat.le_refl _⟩
  | accepted => exact closing_accept
  | supplied payload => exact closing_supply payload
  | released taken =>
    intro disconnected
    obtain ⟨same, fewer⟩ := closing_release taken
    exact ⟨same.trans disconnected, by omega⟩

/-- Nobody joins queues that are closed. -/
theorem closed (served : Served q next) (h : q.Closed) : next.Closed := by
  obtain ⟨still, fewer⟩ := served.closing h.1
  rw [h.2, List.length_nil] at fewer
  exact ⟨still, List.length_eq_zero_iff.mp (by omega)⟩

end Served

/-- What calls do to the queues, and what a `disconnect` does that is in its loop. -/
inductive Handled (looping : Prop) (q : AccepterQueues Payload) : AccepterQueues Payload → Prop
  | same : Handled looping q q
  | accepted : Handled looping q q.accept
  | supplied (payload : Payload) : Handled looping q (q.supply payload).1
  | awaited (ticket : Ticket) (coro : Coro) : Handled looping q (q.await ticket coro)
  | released {next : AccepterQueues Payload} {coro : Option Coro} (inside : looping)
      (taken : q.release = some (next, coro)) : Handled looping q next

/-- Only queues that are disconnected turn somebody away. -/
def Refused (q : AccepterQueues Payload) : Prop :=
  ∀ err, .exception err ∈ q.fates → q.disconnected = true

namespace Handled

variable {looping : Prop}

theorem served (handled : Handled looping q next) : Served q next := by
  cases handled with
  | same => exact .same
  | accepted => exact .accepted
  | supplied payload => exact .supplied payload
  | awaited ticket coro => exact .awaited ticket coro
  | released inside taken => exact .released taken

theorem disconnected (handled : Handled looping q next) : next.disconnected = q.disconnected := by
  cases handled with
  | same | awaited => rfl
  | accepted => exact disconnected_accept
  | supplied payload => exact disconnected_supply payload
  | released inside taken => exact (closing_release taken).1

theorem refused (handled : Handled looping q next) (marked : looping → q.disconnected = true)
    (h : q.Refused) : next.Refused := by
  intro err refused
  by_contra unmarked
  rw [handled.disconnected, Bool.not_eq_true] at unmarked
  have before : .exception err ∉ q.fates := fun before => by
    rw [h err before] at unmarked
    contradiction
  cases handled with
  | same => exact before refused
  | awaited => exact before (by simpa using refused)
  | released inside taken =>
    rw [marked inside] at unmarked
    contradiction
  -- A new call, or one that waits, gets a payload or nothing
  | accepted =>
    unfold accept at refused
    split at refused
    · rw [fates_answer, List.mem_append] at refused
      exact refused.elim before (by simp [Receptable.fromValue])
    · exact before (by simpa [unmarked, fates] using refused)
  | supplied payload =>
    unfold supply at refused
    split at refused
    · exact before refused
    · rw [fates_serve (Receptable.stored_setValue payload)] at refused
      rcases List.mem_or_eq_of_mem_set refused with earlier | given
      · exact before earlier
      · contradiction

end Handled

/-- The receptable of an accept call on queues that are closed: it holds the oldest item, or
the error. -/
theorem receptables_accept (closed : q.Closed) :
    q.accept.receptables = q.receptables ++
      [match q.pendingData.head? with
        | some value => .fromValue value
        | none => .fromError .notConnected] := by
  unfold accept
  cases q.pendingData with
  | cons value rest => rfl
  | nil =>
    simp only [List.head?_nil]
    rw [if_pos closed.1]
    rfl

/-- If nobody waits every accept call has its result. -/
theorem hasValue_of_nobody (h : q.Orderly) (nobody : q.pendingAccepters = []) :
    ∀ r ∈ q.receptables, r.hasValue = true := by
  intro r mem
  obtain ⟨ticket, found⟩ := List.mem_iff_getElem?.mp mem
  rw [Receptable.hasValue_iff]
  intro empty
  have waits : ticket ∈ q.pendingAccepters := by
    rw [h.waiting_iff, getElem?_fates found, empty]
  simp [nobody] at waits

/-- In queues that are closed every accept call has its result. -/
theorem hasValue_of_closed (h : q.Orderly) (closed : q.Closed) :
    ∀ r ∈ q.receptables, r.hasValue = true := hasValue_of_nobody h closed.2

end AccepterQueues

end Shoc.Common

/-
# Remote consumers and their expiry

A `remote_consumer` object is made when the SDK announces a consumer, and shared by
the index under its id, the queue and whoever accepts it. When the SDK reports that
the id has expired, the object in the index is marked and taken out. Ids are reused,
so there may be several objects of one id; objects are numbered in the order of
their creation.

What the index does is compared with the history: an object is marked exactly if
its id expired after the object was made and before the next object of that id. The
coroutines that accept consumers, or are resumed with one in the middle of a
`supply`, may do anything with the queues in the meantime, and send.
-/

import Shoc.Common.QueueInUse
import Shoc.Comch.Objects
import Shoc.Engine.Offload

namespace Shoc.Comch

open Common Coro Engine Transition

/-! ## The index -/

namespace RemoteConsumers

variable {r : RemoteConsumers} {id other : ConsumerId} {number : ℕ}

/-- `index_.find(id)`. -/
def find (id : ConsumerId) (r : RemoteConsumers) : Option ℕ := r.index.lookup id

theorem lookup_filter (index : List (ConsumerId × ℕ)) (id other : ConsumerId) :
    (index.filter (·.1 ≠ id)).lookup other = if other = id then none else index.lookup other := by
  induction index with
  | nil => simp
  | cons entry rest ih =>
    obtain ⟨key, number⟩ := entry
    -- The first entry is dropped, or is the one looked for, or another
    by_cases dropped : key = id
    · subst dropped
      rw [List.filter_cons_of_neg (by simp), ih]
      by_cases same : other = key
      · rw [if_pos same, if_pos same]
      · rw [if_neg same, if_neg same, List.lookup_cons, beq_false_of_ne same]
    · rw [List.filter_cons_of_pos (by simpa using dropped), List.lookup_cons, List.lookup_cons, ih]
      by_cases here : other = key
      · subst here
        simp [dropped]
      · rw [beq_false_of_ne here]

theorem find_add : (r.add id number).find other =
    if other = id then some number else r.find other := by
  unfold find add
  rw [List.lookup_cons, lookup_filter]
  by_cases same : other = id
  · simp [same]
  · simp [same, beq_false_of_ne same]

theorem find_expire : (r.expire id).find other =
    if other = id then none else r.find other := by
  unfold find expire
  cases known : r.index.lookup id with
  | some number => exact lookup_filter r.index id other
  | none =>
    by_cases same : other = id
    · rw [if_pos same, same, known]
    · rw [if_neg same]

theorem mem_expired_expire :
    number ∈ (r.expire id).expired ↔ r.find id = some number ∨ number ∈ r.expired := by
  unfold find expire
  cases known : r.index.lookup id with
  | some present => simp [eq_comm]
  | none => simp

end RemoteConsumers

/-! ## The queues, and the producers that send -/

/-- `remote_consumer_queues`. The payload in the queues is the number of an object, `ids` are
the ids of the objects. `announced` are the ids the SDK has announced and not expired since;
`tasks` are the send tasks that were requested, each with the object it is for. -/
structure RemoteConsumerQueues where
  queues : QueueInUse ℕ := {}
  remotes : RemoteConsumers := {}
  ids : List ConsumerId := []
  announced : List ConsumerId := []
  tasks : List (ℕ × Offload) := []

/-- What can happen next: the SDK announces or expires a consumer; a call on the queues, a
`co_await`, the next round of a `disconnect` loop, a coroutine that gives control back; a
`send` to an object, with the answers of the SDK until it returns; something happens to a
task later on. -/
inductive RemoteLabel
  | supply (id : ConsumerId)
  | expire (id : ConsumerId)
  | accept
  | disconnect
  | coAwait (ticket : Ticket) (coro : Coro)
  | round
  | suspend
  | send (number : ℕ) (events : List Event)
  | progress (task : ℕ) (event : Event)
  deriving DecidableEq, Repr

/-- The id of the object a label makes. -/
def RemoteLabel.supplied : RemoteLabel → Option ConsumerId
  | .supply id => some id
  | _ => none

/-- An id expired, and before that was not supplied again. -/
def Lapsed (id : ConsumerId) (labels : List RemoteLabel) : Prop :=
  ∃ before after, labels = before ++ .expire id :: after ∧ .supply id ∉ before

theorem not_lapsed_nil (id : ConsumerId) : ¬ Lapsed id [] := by
  rintro ⟨before, after, split, -⟩
  simp at split

theorem lapsed_cons {id : ConsumerId} {label : RemoteLabel} {labels : List RemoteLabel} :
    Lapsed id (label :: labels) ↔
      label = .expire id ∨ label ≠ .supply id ∧ Lapsed id labels := by
  constructor
  · rintro ⟨before, after, split, not_supplied⟩
    cases before with
    | nil => exact .inl (List.cons.inj split).1
    | cons first before =>
      obtain ⟨rfl, rfl⟩ := List.cons.inj split
      rw [List.mem_cons, not_or] at not_supplied
      exact .inr ⟨Ne.symm not_supplied.1, before, after, rfl, not_supplied.2⟩
  · rintro (rfl | ⟨other, before, after, rfl, not_supplied⟩)
    · exact ⟨[], labels, rfl, List.not_mem_nil⟩
    · refine ⟨label :: before, after, rfl, ?_⟩
      rw [List.mem_cons, not_or]
      exact ⟨other.symm, not_supplied⟩

namespace RemoteConsumerQueues

variable {cfg : Config} {allocation : Allocation} {s t : RemoteConsumerQueues}
  {label : RemoteLabel} {labels : List RemoteLabel} {id : ConsumerId} {number : ℕ}

/-- `producer::send`. -/
def send (number : ℕ) (s : RemoteConsumerQueues) : Sent :=
  if number ∈ s.remotes.expired then .ready .notConnected else .offloaded

/-- A call on the queues, or what is in progress there, goes on. -/
def onQueues (label : QueueLabel ℕ) (s : RemoteConsumerQueues) : Option RemoteConsumerQueues :=
  (QueueInUse.step s.queues label).map fun queues => { s with queues := queues }

/-- One step of the queues and of the producers. -/
def step (cfg : Config) (allocation : Allocation) (s : RemoteConsumerQueues) :
    RemoteLabel → Option RemoteConsumerQueues
  -- The object is in the index before the queue hands it to anybody
  | .supply id =>
      { s with
        remotes := s.remotes.add id s.ids.length
        ids := s.ids ++ [id]
        announced := id :: s.announced }.onQueues (.supply s.ids.length)
  | .expire id =>
      if s.queues.callable then
        some { s with
          remotes := s.remotes.expire id
          announced := s.announced.filter (· ≠ id) }
      else none
  | .accept => s.onQueues .accept
  | .disconnect => s.onQueues .disconnect
  | .coAwait ticket coro => s.onQueues (.coAwait ticket coro)
  | .round => s.onQueues .round
  | .suspend => s.onQueues .suspend
  | .send number events =>
      if s.queues.callable ∧ number < s.ids.length then
        match s.send number with
        | .ready _ => some s
        -- The offload call is not interrupted before it has returned
        | .offloaded =>
            ((exec (Offload.step cfg (.plainStatusOffload allocation)) {} events).filter
              Offload.returned).map fun task => { s with tasks := s.tasks ++ [(number, task)] }
      else none
  | .progress task event =>
      match s.tasks[task]? with
      | none => none
      | some (number, offload) =>
          (Offload.step cfg (.plainStatusOffload allocation) offload event).map fun offload =>
            { s with tasks := s.tasks.set task (number, offload) }

/-- The SDK announces an id again only after it has expired it. -/
def AnnouncedOnce (s : RemoteConsumerQueues) : RemoteLabel → Prop
  | .supply id => id ∉ s.announced
  | _ => True

instance (s : RemoteConsumerQueues) : ∀ label, Decidable (s.AnnouncedOnce label)
  | .supply id => inferInstanceAs (Decidable (id ∉ s.announced))
  | .expire _ | .accept | .disconnect | .coAwait _ _ | .round | .suspend | .send _ _
  | .progress _ _ => inferInstanceAs (Decidable True)

/-- Everything a step can do. -/
inductive Taken (s : RemoteConsumerQueues) : RemoteLabel → RemoteConsumerQueues → Prop
  | supplied {queues : QueueInUse ℕ} (id : ConsumerId)
      (moved : QueueInUse.step s.queues (.supply s.ids.length) = some queues) :
      Taken s (.supply id)
        { s with
          queues := queues
          remotes := s.remotes.add id s.ids.length
          ids := s.ids ++ [id]
          announced := id :: s.announced }
  | expired (id : ConsumerId) :
      Taken s (.expire id)
        { s with
          remotes := s.remotes.expire id
          announced := s.announced.filter (· ≠ id) }
  | served {queues : QueueInUse ℕ} {inner : QueueLabel ℕ} {label : RemoteLabel}
      (moved : QueueInUse.step s.queues inner = some queues)
      (nothing : queues.queues.supplied = s.queues.queues.supplied)
      (other : ∀ id, label ≠ .supply id ∧ label ≠ .expire id) :
      Taken s label { s with queues := queues }
  | sent {number : ℕ} {events : List Event} (task : Offload) (fresh : number ∉ s.remotes.expired) :
      Taken s (.send number events) { s with tasks := s.tasks ++ [(number, task)] }
  | refused {number : ℕ} {events : List Event} : Taken s (.send number events) s
  | progressed {task number : ℕ} {event : Event} {offload : Offload} (next : Offload)
      (found : s.tasks[task]? = some (number, offload)) :
      Taken s (.progress task event) { s with tasks := s.tasks.set task (number, next) }

theorem taken_onQueues {inner : QueueLabel ℕ} (call : ∀ payload, inner ≠ .supply payload)
    (other : ∀ id, label ≠ .supply id ∧ label ≠ .expire id)
    (taken : s.onQueues inner = some t) : s.Taken label t := by
  obtain ⟨queues, moved, rfl⟩ := Option.map_eq_some_iff.mp taken
  exact .served moved (QueueInUse.supplied_step call moved) other

theorem step_taken (taken : step cfg allocation s label = some t) : s.Taken label t := by
  cases label with
  | supply id =>
    obtain ⟨queues, moved, rfl⟩ := Option.map_eq_some_iff.mp taken
    exact .supplied id moved
  | expire id =>
    simp only [step, Option.ite_none_right_eq_some, Option.some.injEq] at taken
    obtain ⟨-, rfl⟩ := taken
    exact .expired id
  | accept | disconnect | coAwait | round | suspend =>
    exact taken_onQueues (by simp) (by simp) taken
  | send number events =>
    simp only [step, Option.ite_none_right_eq_some] at taken
    obtain ⟨-, taken⟩ := taken
    by_cases expired : number ∈ s.remotes.expired
    · simp only [send, if_pos expired, Option.some.injEq] at taken
      subst taken
      exact .refused
    · simp only [send, if_neg expired] at taken
      obtain ⟨task, -, rfl⟩ := Option.map_eq_some_iff.mp taken
      exact .sent task expired
  | progress task event =>
    simp only [step] at taken
    split at taken
    · contradiction
    · rename_i number offload found
      obtain ⟨next, -, rfl⟩ := Option.map_eq_some_iff.mp taken
      exact .progressed next found

/-! ## The objects and the history -/

/-- The queues hold the numbers of the objects in order. What the index finds under an id is an
object of this id that is not expired. -/
structure Tracks (s : RemoteConsumerQueues) : Prop where
  queues : s.queues.Orderly
  supplied : s.queues.queues.supplied = List.range s.ids.length
  found : ∀ id number, s.remotes.find id = some number →
    s.ids[number]? = some id ∧ number ∉ s.remotes.expired
  made : ∀ number ∈ s.remotes.expired, number < s.ids.length

/-- The objects in the index are all that have been made and not expired. -/
structure Exact (s : RemoteConsumerQueues) : Prop where
  announced : ∀ id, id ∈ s.announced ↔ (s.remotes.find id).isSome
  present : ∀ id number, s.ids[number]? = some id → number ∉ s.remotes.expired →
    s.remotes.find id = some number

theorem made_lt (made : s.ids[number]? = some id) : number < s.ids.length :=
  (List.getElem?_eq_some_iff.mp made).1

theorem made_append {other : ConsumerId} (made : s.ids[number]? = some id) :
    (s.ids ++ [other])[number]? = some id := by
  rw [List.getElem?_append_left (made_lt made), made]

theorem tracks_step (h : s.Tracks) (taken : step cfg allocation s label = some t) : t.Tracks := by
  cases step_taken taken with
  | @supplied queues id moved =>
    refine ⟨QueueInUse.orderly_step h.queues moved, ?_, fun other number present => ?_,
      fun number expired => ?_⟩
    · obtain rfl := QueueInUse.eq_of_called moved
      simp [QueueInUse.resume, h.supplied, List.range_succ]
    · rw [RemoteConsumers.find_add] at present
      split at present
      · -- The new object has a number of its own
        rename_i same
        obtain rfl := Option.some.inj present
        refine ⟨by simp [same], fun expired => ?_⟩
        exact Nat.lt_irrefl _ (h.made _ expired)
      · obtain ⟨made, fresh⟩ := h.found other number present
        exact ⟨made_append made, fresh⟩
    · rw [List.length_append]
      exact Nat.lt_add_right _ (h.made number expired)
  | expired id =>
    refine ⟨h.queues, h.supplied, fun other number present => ?_, fun number expired => ?_⟩
    · rw [RemoteConsumers.find_expire] at present
      split at present
      · contradiction
      · rename_i different
        obtain ⟨made, fresh⟩ := h.found other number present
        refine ⟨made, fun expired => ?_⟩
        -- The object that was marked is one of the expired id
        rcases RemoteConsumers.mem_expired_expire.mp expired with marked | before
        · exact different (Option.some.inj (made.symm.trans (h.found id number marked).1))
        · exact fresh before
    · rcases RemoteConsumers.mem_expired_expire.mp expired with marked | before
      · exact made_lt (h.found id number marked).1
      · exact h.made number before
  | served moved nothing =>
    exact ⟨QueueInUse.orderly_step h.queues moved, nothing.trans h.supplied, h.found, h.made⟩
  | sent | refused | progressed => exact ⟨h.queues, h.supplied, h.found, h.made⟩

theorem exact_step (h : s.Exact) (once : s.AnnouncedOnce label)
    (taken : step cfg allocation s label = some t) : t.Exact := by
  cases step_taken taken with
  | supplied id =>
    refine ⟨fun other => ?_, fun other number made fresh => ?_⟩
    · rw [RemoteConsumers.find_add, List.mem_cons, h.announced]
      by_cases same : other = id <;> simp [same]
    · rw [RemoteConsumers.find_add]
      by_cases new : number < s.ids.length
      · rw [List.getElem?_append_left new] at made
        have present := h.present other number made fresh
        -- The index had nothing under the id that is announced
        have different : other ≠ id := by
          rintro rfl
          exact once ((h.announced other).mpr (by simp [present]))
        rw [if_neg different, present]
      · obtain ⟨inside, rfl⟩ := List.getElem?_eq_some_iff.mp made
        rw [List.length_append, List.length_singleton] at inside
        obtain rfl : number = s.ids.length := by omega
        simp
  | expired id =>
    refine ⟨fun other => ?_, fun other number made fresh => ?_⟩
    · rw [RemoteConsumers.find_expire, List.mem_filter, h.announced]
      by_cases same : other = id <;> simp [same]
    · rw [RemoteConsumers.mem_expired_expire, not_or] at fresh
      have present := h.present other number made fresh.2
      have different : other ≠ id := by
        rintro rfl
        exact fresh.1 present
      rw [RemoteConsumers.find_expire, if_neg different, present]
  | served | sent | refused | progressed => exact ⟨h.announced, h.present⟩

theorem tracks_init : Tracks {} where
  queues := ⟨Delivers.init, by simp, by simp⟩
  supplied := rfl
  found := by simp [RemoteConsumers.find]
  made := by simp

theorem tracks_of_run {ok : RemoteConsumerQueues → RemoteLabel → Prop} (h : s.Tracks)
    (run : Run (step cfg allocation) ok s labels t) : t.Tracks :=
  run.invariant Tracks (fun _ _ _ tracks _ taken => tracks_step tracks taken) h

theorem exact_of_run (run : Run (step cfg allocation) AnnouncedOnce {} labels s) : s.Exact :=
  run.invariant Exact (fun _ _ _ h once taken => exact_step h once taken)
    ⟨by simp [RemoteConsumers.find], by simp⟩

/-- The objects are made by the `supply` calls, in this order. -/
theorem ids_of_run {ok : RemoteConsumerQueues → RemoteLabel → Prop}
    (run : Run (step cfg allocation) ok s labels t) :
    t.ids = s.ids ++ labels.filterMap RemoteLabel.supplied := by
  rw [← run.subRun_eq_filterMap]
  refine run.accumulates (fun _ => True) ids (fun s label t _ _ taken => ⟨trivial, ?_⟩) trivial
  cases step_taken taken with
  | supplied => rfl
  | served _ _ other =>
    cases label with
    | supply id => exact absurd rfl (other id).1
    | expire | accept | disconnect | coAwait | round | suspend | send | progress =>
      simp [RemoteLabel.supplied]
  | expired | sent | refused | progressed => simp [RemoteLabel.supplied]

/-- An object that is marked stays marked. -/
theorem expired_step (before : number ∈ s.remotes.expired)
    (taken : step cfg allocation s label = some t) : number ∈ t.remotes.expired := by
  cases step_taken taken with
  | expired id => exact RemoteConsumers.mem_expired_expire.mpr (.inr before)
  | supplied | served | sent | refused | progressed => exact before

theorem expired_of_run {ok : RemoteConsumerQueues → RemoteLabel → Prop}
    (run : Run (step cfg allocation) ok s labels t) (before : number ∈ s.remotes.expired) :
    number ∈ t.remotes.expired :=
  run.invariant (fun s => number ∈ s.remotes.expired)
    (fun _ _ _ marked _ taken => expired_step marked taken) before

/-- An object whose place in the index another one has taken is never marked. -/
theorem fresh_of_replaced {ok : RemoteConsumerQueues → RemoteLabel → Prop} (h : s.Tracks)
    (made : s.ids[number]? = some id) (replaced : s.remotes.find id ≠ some number)
    (fresh : number ∉ s.remotes.expired) (run : Run (step cfg allocation) ok s labels t) :
    number ∉ t.remotes.expired := by
  refine (run.invariant (fun s => s.Tracks ∧ s.ids[number]? = some id ∧
    s.remotes.find id ≠ some number ∧ number ∉ s.remotes.expired) (fun s label t inv _ taken => ?_)
    ⟨h, made, replaced, fresh⟩).2.2.2
  obtain ⟨tracks, made, replaced, fresh⟩ := inv
  refine ⟨tracks_step tracks taken, ?_⟩
  cases step_taken taken with
  | supplied other =>
    refine ⟨made_append made, fun present => ?_, fresh⟩
    rw [RemoteConsumers.find_add] at present
    split at present
    · -- What is new has a number of its own
      have inside := made_lt made
      exact Nat.ne_of_gt inside (Option.some.inj present)
    · exact replaced present
  | expired other =>
    refine ⟨made, fun present => ?_, fun marked => ?_⟩
    · rw [RemoteConsumers.find_expire] at present
      split at present
      · contradiction
      · exact replaced present
    · rcases RemoteConsumers.mem_expired_expire.mp marked with found | before
      · obtain rfl := Option.some.inj (made.symm.trans (tracks.found other number found).1)
        exact replaced found
      · exact fresh before
  | served | sent | refused | progressed => exact ⟨made, replaced, fresh⟩

/-- An object stays in the index until its id expires or is supplied again. -/
theorem found_step (found : s.remotes.find id = some number) (lasts : label ≠ .expire id)
    (alone : label ≠ .supply id) (taken : step cfg allocation s label = some t) :
    t.remotes.find id = some number := by
  cases step_taken taken with
  | supplied other =>
    rw [RemoteConsumers.find_add, if_neg (by rintro rfl; exact alone rfl), found]
  | expired other =>
    rw [RemoteConsumers.find_expire, if_neg (by rintro rfl; exact lasts rfl), found]
  | served | sent | refused | progressed => exact found

/-- The object under an id in the index has expired by the end of a run exactly if its id
lapsed. -/
theorem expired_iff_lapsed {ok : RemoteConsumerQueues → RemoteLabel → Prop} (h : s.Tracks)
    (found : s.remotes.find id = some number) (run : Run (step cfg allocation) ok s labels t) :
    number ∈ t.remotes.expired ↔ Lapsed id labels := by
  induction labels generalizing s with
  | nil =>
    obtain rfl : s = t := Option.some.inj run.reached
    exact iff_of_false (h.found id number found).2 (not_lapsed_nil id)
  | cons label rest ih =>
    obtain ⟨-, next, taken, later⟩ := Run.cons_iff.mp run
    have tracks := tracks_step h taken
    rw [lapsed_cons]
    -- The id expires now, is supplied again now, or the object stays where it is
    by_cases expires : label = .expire id
    · subst expires
      refine iff_of_true (expired_of_run later ?_) (.inl rfl)
      cases step_taken taken with
      | expired => exact RemoteConsumers.mem_expired_expire.mpr (.inl found)
      | served _ _ other => exact absurd rfl (other id).2
    by_cases supplies : label = .supply id
    · subst supplies
      obtain ⟨made, fresh⟩ := h.found id number found
      refine iff_of_false ?_ (by simp)
      cases step_taken taken with
      | supplied =>
        refine fresh_of_replaced tracks (made_append made) ?_ fresh later
        rw [RemoteConsumers.find_add, if_pos rfl, ne_eq, Option.some.injEq]
        exact Nat.ne_of_gt (made_lt made)
      | served _ _ other => exact absurd rfl (other id).1
    · rw [ih tracks (found_step found expires supplies taken) later]
      simp [expires, supplies]

/-- How many send tasks were requested for an object. -/
def requests (number : ℕ) (s : RemoteConsumerQueues) : ℕ := (s.tasks.map Prod.fst).count number

/-- No task is requested for an object that is marked. -/
theorem requests_step (expired : number ∈ s.remotes.expired)
    (taken : step cfg allocation s label = some t) : t.requests number = s.requests number := by
  unfold requests
  cases step_taken taken with
  | @sent other _ _ fresh =>
    have different : other ≠ number := by
      rintro rfl
      exact fresh expired
    simp [different]
  | @progressed task other _ _ _ found =>
    -- Whatever happens to a task, it is for the same object as before
    obtain ⟨inside, there⟩ := List.getElem?_eq_some_iff.mp found
    have place : task < (s.tasks.map Prod.fst).length := by rwa [List.length_map]
    have same : (s.tasks.map Prod.fst)[task] = other := by rw [List.getElem_map, there]
    rw [List.map_set, ← same, List.set_getElem_self place]
  | supplied | expired | served | refused => rfl

theorem requests_of_run {ok : RemoteConsumerQueues → RemoteLabel → Prop}
    (run : Run (step cfg allocation) ok s labels t) (expired : number ∈ s.remotes.expired) :
    t.requests number = s.requests number := by
  refine (run.invariant (fun u => number ∈ u.remotes.expired ∧ u.requests number =
    s.requests number) (fun u _ _ h _ taken => ?_) ⟨expired, rfl⟩).2
  exact ⟨expired_step h.1 taken, (requests_step h.1 taken).trans h.2⟩

/-- The `supply` that made an object. -/
theorem exists_supply {ok : RemoteConsumerQueues → RemoteLabel → Prop}
    (run : Run (step cfg allocation) ok {} labels s) (made : number < s.ids.length) :
    ∃ before id after, labels = before ++ .supply id :: after ∧
      (before.filterMap RemoteLabel.supplied).length = number := by
  have ids : labels.filterMap RemoteLabel.supplied =
      s.ids.take number ++ s.ids[number] :: s.ids.drop (number + 1) := by
    rw [← List.drop_eq_getElem_cons made, List.take_append_drop, ids_of_run run, List.nil_append]
  -- The labels are split where the ids are; what lies between the split and the `supply`
  -- supplies nothing
  obtain ⟨before, rest, rfl, earlier, later⟩ := List.filterMap_eq_append_iff.mp ids
  obtain ⟨between, label, after, rfl, quiet, supplies, -⟩ := List.filterMap_eq_cons_iff.mp later
  cases label with
  | supply id =>
    refine ⟨before ++ between, id, after, (List.append_assoc ..).symm, ?_⟩
    rw [List.filterMap_append, earlier, List.filterMap_eq_nil_iff.mpr quiet, List.append_nil,
      List.length_take_of_le made.le]
  | expire | accept | disconnect | coAwait | round | suspend | send | progress =>
    simp [RemoteLabel.supplied] at supplies

/-- An object has expired by the end of a run exactly if its id lapsed after the `supply` that
made it. -/
theorem expired_iff_lapsed_after {ok : RemoteConsumerQueues → RemoteLabel → Prop}
    {before after : List RemoteLabel}
    (run : Run (step cfg allocation) ok {} (before ++ .supply id :: after) s) :
    (before.filterMap RemoteLabel.supplied).length ∈ s.remotes.expired ↔ Lapsed id after := by
  obtain ⟨earlier, first, second⟩ := run.split
  obtain ⟨-, next, taken, later⟩ := Run.cons_iff.mp second
  have tracks := tracks_of_run tracks_init first
  have ids : earlier.ids = before.filterMap RemoteLabel.supplied := by simpa using ids_of_run first
  refine expired_iff_lapsed (tracks_step tracks taken) ?_ later
  cases step_taken taken with
  | supplied => rw [RemoteConsumers.find_add, if_pos rfl, ids]
  | served _ _ other => exact absurd rfl (other id).1

/-- **Expiry is tracked exactly**, whatever the coroutines do that accept consumers, if the SDK
announces an id again only after it has expired it: an object that was handed out is marked
exactly if its id expired after the `supply` that made it and before it was supplied again; the
index finds exactly the objects that were made and are not marked; and once an object is marked,
a `send` to it is refused and no task is requested for it any more. -/
theorem expiry_tracked (labels : List RemoteLabel) (s : RemoteConsumerQueues)
    (run : Run (step cfg allocation) AnnouncedOnce {} labels s) :
    (∀ number ∈ s.queues.queues.delivered, ∃ before id after,
      labels = before ++ .supply id :: after ∧
      (before.filterMap RemoteLabel.supplied).length = number ∧
      (number ∈ s.remotes.expired ↔ Lapsed id after)) ∧
    (∀ id number, s.remotes.find id = some number ↔
      s.ids[number]? = some id ∧ number ∉ s.remotes.expired) ∧
    ∀ number ∈ s.remotes.expired, ∀ (more : List RemoteLabel) (t : RemoteConsumerQueues),
      Run (step cfg allocation) AnnouncedOnce s more t →
      t.send number = .ready .notConnected ∧
      t.requests number = s.requests number := by
  have tracks := tracks_of_run tracks_init run
  have complete := exact_of_run run
  refine ⟨fun number delivered => ?_, fun id number => ?_, fun number expired more t later => ?_⟩
  · -- What was handed out was supplied, and so was made
    have supplied : number ∈ s.queues.queues.supplied := by
      rw [← tracks.queues.queues.conserved]
      exact List.mem_append_left _ delivered
    rw [tracks.supplied, List.mem_range] at supplied
    obtain ⟨before, id, after, rfl, rfl⟩ := exists_supply run supplied
    exact ⟨before, id, after, rfl, rfl, expired_iff_lapsed_after run⟩
  · exact ⟨tracks.found id number, fun ⟨made, fresh⟩ => complete.present id number made fresh⟩
  · exact ⟨if_pos (expired_of_run later expired), requests_of_run later expired⟩

/-- A coroutine waits for a consumer, is resumed with the first one and sends to it. The
consumer expires and its id is announced again, while somebody keeps the first object and sends
to it in vain; then the second object is accepted and sent to. -/
def reannounced : List RemoteLabel :=
  [.accept, .coAwait 0 7, .supply 5, .send 0 [.allocate .success, .submit .success], .suspend,
    .expire 5, .send 0 [], .supply 5, .send 0 [], .accept,
    .send 1 [.allocate .success, .submit .success]]

theorem expiry_tracked_reannounced :
    ∃ s, Run (step {} .attachUserData) AnnouncedOnce {} reannounced s ∧
      s.queues.queues.delivered = [0, 1] ∧ s.remotes.expired = [0] ∧
      s.remotes.find 5 = some 1 ∧ s.send 0 = .ready .notConnected ∧ s.requests 0 = 1 := by
  have run : Run (step {} .attachUserData) AnnouncedOnce {} reannounced _ := ⟨rfl, by decide⟩
  obtain ⟨-, index, sends⟩ := expiry_tracked reannounced _ run
  refine ⟨_, run, by decide, by decide, (index 5 1).mpr (by decide), ?_, by decide⟩
  exact (sends 0 (by decide) [] _ (.nil _)).1

end RemoteConsumerQueues

end Shoc.Comch

/-
# Stopping everything in a registry

`dependent_contexts::stop_all` and the loop of `server::stop` go through a registry
and call `stop` or `disconnect` on every entry. A call may do anything to the
registry before it returns: its target may be removed from it at once, and
coroutines that are resumed may remove other entries or add some. The loops have
moved on to the next entry by then, so that the iterator they go on with does not
point to the entry that is most likely to go.

That is enough if no call removes the entry the loop has moved on to and none makes
the table rehash. The handler for exceptions looks at the entry of the call once
more, so a call that throws must not have removed it.

An entry is an object; one that is added is never one that was there before, even
if it has its address. The registry outlives the loop, and an object outlives the call
that is made on it, also when the call removes it; what a destructor in the middle of a
call would do is left out.
-/

import Shoc.Data.Registry
import Shoc.Transition.Runs

namespace Shoc.Context

open Data Transition

/-- The two loops. Only `stop_all` calls something that throws, and it goes on then. -/
inductive StopLoop
  | stopAll
  | serverStop
  deriving DecidableEq, Repr

/-- Where the loop is: about to compare `next` with the end, in the call on the entry at `it`,
or behind the loop. -/
inductive TraversalPoint (κ : Type*)
  | head (next : Cursor κ)
  | calling (it next : Cursor κ)
  | done
  deriving DecidableEq, Repr

/-- The iterator at the entry that is called. -/
def TraversalPoint.current {κ : Type*} : TraversalPoint κ → Option (Cursor κ)
  | .calling it _ => some it
  | .head _ | .done => none

structure Traversal (κ : Type*) where
  registry : Registry κ
  point : TraversalPoint κ
  /-- The entries that `stop` or `disconnect` was called on, latest first. -/
  called : List κ := []
  /-- The entries that were removed before their turn. -/
  missed : List κ := []
  /-- Everything that ever was in the registry. -/
  seen : List κ
  /-- How many entries were added. -/
  inserted : ℕ := 0
  /-- An iterator was used that was not valid. -/
  fault : Bool := false

/-- The loop goes round, or its call returns or throws; during a call entries are removed and
added. -/
inductive TraversalLabel (κ : Type*)
  | head
  | returned
  | threw
  | erase (key : κ)
  | insert (key : κ) (placement : Placement κ)
  deriving DecidableEq, Repr

namespace Traversal

variable {κ : Type*} [DecidableEq κ]

omit [DecidableEq κ] in
/-- The loop begins. -/
def start (r : Registry κ) : Traversal κ :=
  { registry := r, point := .head r.first, seen := r.entries }

omit [DecidableEq κ] in
/-- The iterator the loop goes on with. Behind the loop that is the end. -/
def next (s : Traversal κ) : Cursor κ :=
  match s.point with
  | .head next | .calling _ next => next
  | .done => ⟨none, s.registry.epoch⟩

/-- `while(next != end()) { it = next; ++next; it->second->stop() …`. -/
def advance (next : Cursor κ) (s : Traversal κ) : Traversal κ :=
  if s.registry.Valid next then
    match next.target with
    | none => { s with point := .done }
    | some key =>
      { s with point := .calling next (s.registry.next next), called := key :: s.called }
  else { s with point := .done, fault := true }

/-- The handler for exceptions logs `it->second.get()`. -/
def handle (it next : Cursor κ) (s : Traversal κ) : Traversal κ :=
  { s with point := .head next, fault := s.fault || decide (¬ s.registry.Valid it) }

def erase (key : κ) (s : Traversal κ) : Traversal κ :=
  { s with
    registry := s.registry.erase key
    missed := if key ∈ s.registry ∧ key ∉ s.called then key :: s.missed else s.missed }

def insert (key : κ) (placement : Placement κ) (s : Traversal κ) : Traversal κ :=
  { s with
    registry := s.registry.insert key placement
    seen := key :: s.seen
    inserted := s.inserted + 1 }

def step (loop : StopLoop) (s : Traversal κ) : TraversalLabel κ → Option (Traversal κ)
  | .head =>
    match s.point with
    | .head next => some (s.advance next)
    | _ => none
  | .returned =>
    match s.point with
    | .calling _ next => some { s with point := .head next }
    | _ => none
  | .threw =>
    match loop, s.point with
    | .stopAll, .calling it next => some (s.handle it next)
    | _, _ => none
  | .erase key =>
    match s.point with
    | .calling _ _ => some (s.erase key)
    | _ => none
  | .insert key placement =>
    match s.point with
    | .calling _ _ => if key ∈ s.seen then none else some (s.insert key placement)
    | _ => none

/-- What the loop can cope with: the entry it has moved on to stays, the table is not rehashed,
and what throws is still there. -/
def Tolerated (s : Traversal κ) : TraversalLabel κ → Prop
  | .erase key => s.next.target ≠ some key
  | .insert _ placement => placement.rehashes = false
  | .threw => ∀ it ∈ s.point.current, s.registry.Valid it
  | .head | .returned => True

instance (s : Traversal κ) : ∀ label, Decidable (s.Tolerated label)
  | .erase _ => inferInstanceAs (Decidable (_ ≠ _))
  | .insert _ _ => inferInstanceAs (Decidable (_ = _))
  | .threw => inferInstanceAs (Decidable (∀ _ ∈ _, _))
  | .head | .returned => inferInstanceAs (Decidable True)

/-! ## Entries and their turns -/

/-- What the loop has passed was called or came later, and what it has before it was not
called. Every entry of the beginning is there, was called or missed its turn. -/
structure Orderly (initial : List κ) (s : Traversal κ) : Prop where
  valid : s.registry.Valid s.next
  behind : ∀ key ∈ s.registry.passed s.next, key ∈ s.called ∨ key ∉ initial
  ahead : ∀ key ∈ s.registry.rest s.next, key ∉ s.called
  once : s.called.Nodup
  missed : ∀ key ∈ s.missed, key ∉ s.called ∧ key ∉ s.registry ∧ key ∈ s.seen
  accounted : ∀ key ∈ initial, key ∈ s.registry ∨ key ∈ s.called ∨ key ∈ s.missed
  seen : (∀ key ∈ s.registry, key ∈ s.seen) ∧ (∀ key ∈ s.called, key ∈ s.seen) ∧
    ∀ key ∈ initial, key ∈ s.seen
  bounded : s.called.length + (s.registry.rest s.next).length ≤ initial.length + s.inserted
  sound : s.fault = false

variable {s t : Traversal κ} {initial : List κ} {loop : StopLoop} {label : TraversalLabel κ}

theorem orderly_start (r : Registry κ) : Orderly r.entries (start r) where
  valid := Registry.valid_first
  behind key mem := by
    simp [start, Traversal.next, Registry.passed_first] at mem
  ahead _ _ := List.not_mem_nil
  once := List.nodup_nil
  missed key mem := by simp [start] at mem
  accounted key mem := .inl mem
  seen := ⟨fun key mem => mem, by simp [start], fun key mem => mem⟩
  bounded := by simp [start, Traversal.next, Registry.rest_first]
  sound := rfl

/-- Whether the loop is in a call or not makes no difference. -/
theorem Orderly.move (orderly : Orderly initial s) {point : TraversalPoint κ}
    (same : ({ s with point := point } : Traversal κ).next = s.next) :
    Orderly initial { s with point := point } where
  valid := same ▸ orderly.valid
  behind := same ▸ orderly.behind
  ahead := same ▸ orderly.ahead
  once := orderly.once
  missed := orderly.missed
  accounted := orderly.accounted
  seen := orderly.seen
  bounded := same ▸ orderly.bounded
  sound := orderly.sound

theorem orderly_advance (orderly : Orderly initial s) {next : Cursor κ}
    (at_ : s.point = .head next) : Orderly initial (s.advance next) := by
  have here : s.next = next := by simp [Traversal.next, at_]
  have valid := orderly.valid
  rw [here] at valid
  unfold advance
  rw [if_pos valid]
  cases target : next.target with
  | none =>
    refine orderly.move ?_
    rw [here]
    cases next
    simp_all [Traversal.next, Registry.Valid]
  | some key =>
    obtain ⟨passed, rest⟩ := Registry.passed_next valid target
    have ahead := orderly.ahead
    have bounded := orderly.bounded
    have nodup := s.registry.nodup
    rw [← Registry.passed_append_rest (c := next), rest] at nodup
    rw [here, rest] at ahead bounded
    have fresh : key ∉ s.called := ahead key List.mem_cons_self
    have present : key ∈ s.registry := valid.2 key target
    refine ⟨Registry.valid_next valid, ?_, ?_, List.nodup_cons.mpr ⟨fresh, orderly.once⟩, ?_, ?_,
      ⟨orderly.seen.1, ?_, orderly.seen.2.2⟩, ?_, orderly.sound⟩
    · intro other mem
      change other ∈ s.registry.passed (s.registry.next next) at mem
      rw [passed] at mem
      obtain before | rfl := (List.mem_append.mp mem).imp_right List.mem_singleton.mp
      · exact (orderly.behind other (here ▸ before)).imp_left (List.mem_cons_of_mem key)
      · exact .inl List.mem_cons_self
    · intro other mem called
      obtain rfl | before := List.mem_cons.mp called
      · have apart := (List.nodup_cons.mp nodup.of_append_right).1
        exact apart mem
      · exact ahead other (List.mem_cons_of_mem key mem) before
    · intro other mem
      obtain ⟨uncalled, absent, known⟩ := orderly.missed other mem
      refine ⟨fun called => ?_, absent, known⟩
      obtain rfl | before := List.mem_cons.mp called
      · exact absent present
      · exact uncalled before
    · intro other mem
      exact (orderly.accounted other mem).imp_right
        fun later => later.imp_left (List.mem_cons_of_mem key)
    · intro other mem
      obtain rfl | before := List.mem_cons.mp mem
      · exact orderly.seen.1 other present
      · exact orderly.seen.2.1 other before
    · change (key :: s.called).length + (s.registry.rest (s.registry.next next)).length ≤ _
      simp only [List.length_cons] at bounded ⊢
      omega

omit [DecidableEq κ] in
/-- During a call the loop goes on with the iterator it has, whatever happens to the registry. -/
theorem next_of_point (same : t.point = s.point) (inside : s.point ≠ .done) : t.next = s.next := by
  unfold Traversal.next
  rw [same]
  cases point : s.point with
  | head next => rfl
  | calling it next => rfl
  | done => exact absurd point inside

/-- Who has missed its turn does not come back when something is erased. -/
theorem missed_erase (orderly : Orderly initial s) {key other : κ}
    (mem : other ∈ (s.erase key).missed) :
    other ∉ s.called ∧ other ∉ s.registry.erase key ∧ other ∈ s.seen := by
  have before : other ∈ s.missed →
      other ∉ s.called ∧ other ∉ s.registry.erase key ∧ other ∈ s.seen := by
    intro before
    obtain ⟨uncalled, absent, known⟩ := orderly.missed other before
    exact ⟨uncalled, fun present => absent (Registry.mem_erase.mp present).2, known⟩
  simp only [Traversal.erase] at mem
  split_ifs at mem with gone
  · obtain rfl | earlier := List.mem_cons.mp mem
    · exact ⟨gone.2, by simp, orderly.seen.1 other gone.1⟩
    · exact before earlier
  · exact before mem

theorem accounted_erase (orderly : Orderly initial s) {key other : κ} (mem : other ∈ initial) :
    other ∈ s.registry.erase key ∨ other ∈ s.called ∨ other ∈ (s.erase key).missed := by
  simp only [Traversal.erase, Registry.mem_erase]
  obtain present | called | missed := orderly.accounted other mem
  · by_cases same : other = key
    · subst same
      -- What is erased was called, or has missed its turn now
      by_cases called : other ∈ s.called
      · exact .inr (.inl called)
      · exact .inr (.inr (by simp [present, called]))
    · exact .inl ⟨same, present⟩
  · exact .inr (.inl called)
  · refine .inr (.inr ?_)
    split
    · exact List.mem_cons_of_mem key missed
    · exact missed

theorem orderly_erase (orderly : Orderly initial s) {key : κ} (spared : s.next.target ≠ some key)
    (inside : s.point ≠ .done) : Orderly initial (s.erase key) := by
  have same : (s.erase key).next = s.next := next_of_point rfl inside
  obtain ⟨passed, rest⟩ := Registry.passed_erase orderly.valid spared
  refine ⟨?_, ?_, ?_, orderly.once, fun _ => missed_erase orderly, fun _ => accounted_erase orderly,
    ⟨fun other mem => orderly.seen.1 other (Registry.mem_erase.mp mem).2, orderly.seen.2⟩, ?_,
    orderly.sound⟩
  all_goals
    rw [same]
    simp only [Traversal.erase]
  · exact Registry.valid_erase orderly.valid spared
  · intro other mem
    rw [passed] at mem
    exact orderly.behind other (List.mem_of_mem_erase mem)
  · intro other mem
    rw [rest] at mem
    exact orderly.ahead other (List.mem_of_mem_erase mem)
  · rw [rest]
    exact Nat.le_trans (Nat.add_le_add_left List.length_erase_le _) orderly.bounded

theorem orderly_insert (orderly : Orderly initial s) {key : κ} (fresh : key ∉ s.seen)
    (inside : s.point ≠ .done) (index : ℕ) :
    Orderly initial (s.insert key (.position index)) := by
  have same : (s.insert key (.position index)).next = s.next := next_of_point rfl inside
  obtain ⟨known, knownCalled, knownInitial⟩ := orderly.seen
  have absent : key ∉ s.registry := fun mem => fresh (known key mem)
  constructor
  case valid =>
    rw [same]
    exact Registry.valid_insert orderly.valid absent index
  case behind =>
    rw [same]
    intro other mem
    obtain rfl | before := Registry.mem_passed_insert orderly.valid absent index mem
    · exact .inr fun present => fresh (knownInitial other present)
    · exact orderly.behind other before
  case ahead =>
    rw [same]
    intro other mem
    obtain rfl | before := Registry.mem_rest_insert orderly.valid absent index mem
    · exact fun called => fresh (knownCalled other called)
    · exact orderly.ahead other before
  case once => exact orderly.once
  case missed =>
    intro other mem
    obtain ⟨uncalled, gone, before⟩ := orderly.missed other mem
    refine ⟨uncalled, fun present => ?_, List.mem_cons_of_mem key before⟩
    obtain rfl | still := Registry.mem_insert.mp present
    · exact fresh before
    · exact gone still
  case accounted =>
    intro other mem
    exact (orderly.accounted other mem).imp_left
      fun present => Registry.mem_insert.mpr (.inr present)
  case seen =>
    refine ⟨fun other mem => ?_, fun other mem => List.mem_cons_of_mem key (knownCalled other mem),
      fun other mem => List.mem_cons_of_mem key (knownInitial other mem)⟩
    obtain rfl | present := Registry.mem_insert.mp mem
    · exact List.mem_cons_self
    · exact List.mem_cons_of_mem key (known other present)
  case bounded =>
    have bounded := orderly.bounded
    have longer := Registry.length_rest_insert_le orderly.valid absent index
    rw [same]
    simp only [Traversal.insert]
    omega
  case sound => exact orderly.sound

theorem orderly_step (orderly : Orderly initial s) (tolerated : s.Tolerated label)
    (taken : step loop s label = some t) : Orderly initial t := by
  cases label with
  | head =>
    simp only [step] at taken
    split at taken
    · rename_i next point
      cases taken
      exact orderly_advance orderly point
    · contradiction
  | returned =>
    simp only [step] at taken
    split at taken
    · rename_i it next point
      cases taken
      exact orderly.move (by simp [Traversal.next, point])
    · contradiction
  | threw =>
    simp only [step] at taken
    split at taken
    · rename_i it next point
      cases taken
      have valid : s.registry.Valid it := tolerated it (by simp [point, TraversalPoint.current])
      have unchanged : s.handle it next = { s with point := .head next } := by
        simp [handle, valid]
      rw [unchanged]
      exact orderly.move (by simp [Traversal.next, point])
    · contradiction
  | erase key =>
    simp only [step] at taken
    split at taken
    · rename_i it next point
      cases taken
      exact orderly_erase orderly tolerated (by simp [point])
    · contradiction
  | insert key placement =>
    simp only [step] at taken
    split at taken
    · rename_i it next point
      split_ifs at taken with known
      cases taken
      cases placement with
      | position index => exact orderly_insert orderly known (by simp [point]) index
      | rehash order => contradiction
    · contradiction

/-- A loop whose calls are tolerated uses no invalid iterator and calls nobody twice. When it
is done, every entry it began with was called, unless it was removed before its turn.
It makes no more rounds than there were entries and were added, and it can always go on. -/
theorem stop_all_safe (loop : StopLoop) (r : Registry κ) (labels : List (TraversalLabel κ))
    (s : Traversal κ) (run : Run (step loop) Tolerated (start r) labels s) :
    s.fault = false ∧ s.called.Nodup ∧
      (s.point = .done → ∀ key ∈ r,
        key ∈ s.called ∧ key ∉ s.missed ∨ key ∉ s.called ∧ key ∈ s.missed) ∧
      s.called.length ≤ r.entries.length + s.inserted ∧
      (s.point ≠ .done → ∃ label t, (label = .head ∨ label = .returned) ∧
        step loop s label = some t) := by
  have orderly := run.invariant (Orderly r.entries)
    (fun _ _ _ orderly tolerated taken => orderly_step orderly tolerated taken) (orderly_start r)
  refine ⟨orderly.sound, orderly.once, fun done key mem => ?_, ?_, fun busy => ?_⟩
  · by_cases missed : key ∈ s.missed
    · exact .inr ⟨(orderly.missed key missed).1, missed⟩
    · refine .inl ⟨?_, missed⟩
      -- What is left in the registry is behind the loop
      obtain present | called | later := orderly.accounted key mem
      · have behind : key ∈ s.registry.passed s.next := by
          simpa [Traversal.next, done, Registry.passed] using Registry.mem_def.mp present
        exact (orderly.behind key behind).resolve_right fun absent => absent mem
      · exact called
      · exact absurd later missed
  · exact Nat.le_trans (Nat.le_add_right _ _) orderly.bounded
  · cases point : s.point with
    | head next => exact ⟨.head, _, .inl rfl, by simp [step, point]; rfl⟩
    | calling it next => exact ⟨.returned, _, .inr rfl, by simp [step, point]; rfl⟩
    | done => exact absurd point busy

def fourContexts : Registry ℕ := { entries := [0, 1, 2, 3], nodup := by decide }

/-- The first context takes the third one with it and makes a new one, the second one throws. -/
def busyStop : List (TraversalLabel ℕ) :=
  [.head, .erase 0, .erase 2, .insert 4 (.position 2), .returned, .head, .threw, .head, .erase 3,
    .returned, .head, .returned, .head]

theorem stop_all_safe_busyStop :
    ∃ s, Run (step .stopAll) Tolerated (start fourContexts) busyStop s ∧ s.point = .done ∧
      s.called = [4, 3, 1, 0] ∧ s.missed = [2] ∧ s.fault = false := by
  have run : Run (step .stopAll) Tolerated (start fourContexts) busyStop _ := ⟨rfl, by decide⟩
  have safe := stop_all_safe .stopAll fourContexts busyStop _ run
  exact ⟨_, run, rfl, rfl, rfl, safe.1⟩

def twoEntries : Registry ℕ := { entries := [0, 1], nodup := by decide }

/-- The first call removes both entries, and the loop goes on with an iterator to the second
one; or it removes its own and throws, and the handler looks at it. -/
theorem stop_all_uses_removed_entry :
    (∀ loop, ∃ s, Run (step loop) Always (start twoEntries)
      [.head, .erase 0, .erase 1, .returned, .head] s ∧ s.fault = true) ∧
    ∃ s, Run (step .stopAll) Always (start twoEntries) [.head, .erase 0, .threw] s ∧
      s.fault = true :=
  ⟨fun loop => ⟨_, ⟨by cases loop <;> rfl, meets_always _ _⟩, by cases loop <;> rfl⟩,
    ⟨_, ⟨rfl, meets_always _ _⟩, rfl⟩⟩

end Traversal

end Shoc.Context

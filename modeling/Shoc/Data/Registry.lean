/-
# Registries with iterators

A finite set of keys in the order in which a hash table lists them, and iterators
over it with the validity rules of hash tables: erasing a key invalidates the
iterators that point to it, inserting one invalidates none unless it makes the
table rehash, which invalidates all. Where an inserted key appears and what order
a rehash leaves are not the user's choice, so both are parameters of the insertion.

A traversal visits the keys from the front. What it has seen is what stands
before its iterator, and the rules for erasing, inserting and advancing say how
that part of the registry changes.
-/

import Mathlib.Data.List.Nodup
import Mathlib.Data.List.TakeWhile

namespace Shoc.Data

/-- A set of keys in table order. `epoch` counts the rehashes. -/
structure Registry (κ : Type*) where
  entries : List κ := []
  nodup : entries.Nodup := by simp
  epoch : ℕ := 0

/-- Where an insertion puts its key: at a position of the present order, or into a table
that is rehashed and then has the given order. -/
inductive Placement (κ : Type*)
  | position (index : ℕ)
  | rehash (order : List κ)
  deriving DecidableEq, Repr

def Placement.rehashes {κ : Type*} : Placement κ → Bool
  | .position _ => false
  | .rehash _ => true

/-- An iterator: the key it points to, none at the end, and the epoch it belongs to. -/
structure Cursor (κ : Type*) where
  target : Option κ
  epoch : ℕ
  deriving DecidableEq, Repr

namespace Registry

variable {κ : Type*} [DecidableEq κ] {r : Registry κ} {key other : κ} {c : Cursor κ}
  {placement : Placement κ} {order : List κ}

instance : Membership κ (Registry κ) := ⟨fun r key => key ∈ r.entries⟩

instance (key : κ) (r : Registry κ) : Decidable (key ∈ r) :=
  inferInstanceAs (Decidable (key ∈ r.entries))

omit [DecidableEq κ] in
theorem mem_def : key ∈ r ↔ key ∈ r.entries := Iff.rfl

/-- Erase a key, if it is there. -/
def erase (key : κ) (r : Registry κ) : Registry κ :=
  { r with entries := r.entries.erase key, nodup := r.nodup.erase key }

theorem entries_erase_of_nil (empty : r.entries = []) : (r.erase key).entries = [] := by
  simp [erase, empty]

theorem erase_of_notMem (absent : key ∉ r) : r.erase key = r := by
  cases r
  simp only [erase, Registry.mk.injEq, and_true]
  exact List.erase_of_not_mem absent

/-- The table order after a key was inserted that was not there. An order that is none of
this key and the present ones stands for the one with the key in front. -/
def reordered (key : κ) (placement : Placement κ) (r : Registry κ) : List κ :=
  match placement with
  | .position index => r.entries.take index ++ key :: r.entries.drop index
  | .rehash order => if order.Perm (key :: r.entries) then order else key :: r.entries

theorem reordered_perm (key : κ) (placement : Placement κ) (r : Registry κ) :
    (r.reordered key placement).Perm (key :: r.entries) := by
  -- Both placements only choose an order
  cases placement with
  | position index =>
    refine List.perm_middle.trans ?_
    rw [List.take_append_drop]
  | rehash order =>
    simp only [reordered]
    split
    · assumption
    · exact List.Perm.refl _

/-- Insert a key. Nothing happens if it is there already. -/
def insert (key : κ) (placement : Placement κ) (r : Registry κ) : Registry κ :=
  if fresh : key ∈ r.entries then r
  else
    { entries := r.reordered key placement
      nodup := (r.reordered_perm key placement).nodup_iff.mpr (List.nodup_cons.mpr ⟨fresh, r.nodup⟩)
      epoch := match placement with
        | .position _ => r.epoch
        | .rehash _ => r.epoch + 1 }

@[simp] theorem mem_erase : other ∈ r.erase key ↔ other ≠ key ∧ other ∈ r :=
  r.nodup.mem_erase_iff

@[simp] theorem mem_insert : other ∈ r.insert key placement ↔ other = key ∨ other ∈ r := by
  unfold insert
  split
  · rename_i present
    refine ⟨.inr, fun mem => mem.elim (fun same => ?_) id⟩
    subst same
    exact present
  · exact (r.reordered_perm key placement).mem_iff.trans List.mem_cons

omit [DecidableEq κ] in
theorem eq_nil_iff : r.entries = [] ↔ ∀ key, key ∉ r := List.eq_nil_iff_forall_not_mem

/-! ## Iterators -/

/-- `begin()`. -/
def first (r : Registry κ) : Cursor κ := ⟨r.entries.head?, r.epoch⟩

/-- What an iterator has still before it, its own key first. -/
def rest (r : Registry κ) (c : Cursor κ) : List κ :=
  match c.target with
  | none => []
  | some key => r.entries.dropWhile (· ≠ key)

/-- What a traversal has passed by the time it is at an iterator. -/
def passed (r : Registry κ) (c : Cursor κ) : List κ :=
  match c.target with
  | none => r.entries
  | some key => r.entries.takeWhile (· ≠ key)

/-- The incremented iterator. -/
def next (r : Registry κ) (c : Cursor κ) : Cursor κ := ⟨(r.rest c).tail.head?, c.epoch⟩

/-- An iterator may be used: the table was not rehashed since, and its key is there. -/
def Valid (r : Registry κ) (c : Cursor κ) : Prop :=
  c.epoch = r.epoch ∧ ∀ key, c.target = some key → key ∈ r

instance (r : Registry κ) : ∀ c : Cursor κ, Decidable (r.Valid c)
  | ⟨none, epoch⟩ => decidable_of_iff (epoch = r.epoch) (by simp [Valid])
  | ⟨some key, epoch⟩ => decidable_of_iff (epoch = r.epoch ∧ key ∈ r) (by simp [Valid])

section Split

variable {before after : List κ}

/-- Before a key stands what a traversal has passed when it is at the key. -/
theorem passed_of_split (split : r.entries = before ++ key :: after)
    (target : c.target = some key) : r.passed c = before := by
  have nodup := split ▸ r.nodup
  have other : ∀ entry ∈ before, decide (entry ≠ key) = true := by grind
  simp only [passed, target, split]
  rw [List.takeWhile_append_of_pos other]
  simp

/-- From a key on stands what the traversal has before it. -/
theorem rest_of_split (split : r.entries = before ++ key :: after)
    (target : c.target = some key) : r.rest c = key :: after := by
  have nodup := split ▸ r.nodup
  have other : ∀ entry ∈ before, decide (entry ≠ key) = true := by grind
  simp only [rest, target, split]
  rw [List.dropWhile_append_of_pos other]
  simp

end Split

/-! ## Both sides of an iterator -/

theorem passed_append_rest : r.passed c ++ r.rest c = r.entries := by
  unfold passed rest
  split
  · exact List.append_nil _
  · exact List.takeWhile_append_dropWhile

theorem passed_first : r.passed r.first = [] := by
  cases entries : r.entries with
  | nil => simp [first, passed, entries]
  | cons head tail => simp [first, passed, entries]

theorem rest_first : r.rest r.first = r.entries := by
  have both := passed_append_rest (r := r) (c := r.first)
  rwa [passed_first] at both

omit [DecidableEq κ] in
theorem valid_first : r.Valid r.first :=
  ⟨rfl, fun _ target => List.mem_of_mem_head? (Option.mem_def.mpr target)⟩

/-- Incrementing an iterator moves one key from one side to the other. -/
theorem passed_next (valid : r.Valid c) (target : c.target = some key) :
    r.passed (r.next c) = r.passed c ++ [key] ∧ r.rest c = key :: r.rest (r.next c) := by
  obtain ⟨before, after, split⟩ := List.append_of_mem (valid.2 key target)
  rw [passed_of_split split target, rest_of_split split target]
  cases after with
  | nil =>
    have ended : (r.next c).target = none := by simp [next, rest_of_split split target]
    simp [passed, rest, ended, split]
  | cons following after =>
    have ahead : r.entries = (before ++ [key]) ++ following :: after := by simpa using split
    have at_ : (r.next c).target = some following := by simp [next, rest_of_split split target]
    rw [passed_of_split ahead at_, rest_of_split ahead at_]
    exact ⟨rfl, rfl⟩

theorem valid_next (valid : r.Valid c) : r.Valid (r.next c) := by
  refine ⟨valid.1, fun following at_ => ?_⟩
  have mem : following ∈ r.rest c :=
    List.mem_of_mem_tail (List.mem_of_mem_head? (Option.mem_def.mpr at_))
  rw [mem_def, ← passed_append_rest (c := c)]
  exact List.mem_append_right _ mem

/-- Erasing a key erases it on its side of every iterator that does not point to it. -/
theorem passed_erase (valid : r.Valid c) (other : c.target ≠ some key) :
    (r.erase key).passed c = (r.passed c).erase key ∧
      (r.erase key).rest c = (r.rest c).erase key := by
  cases target : c.target with
  | none => simp [passed, rest, target, erase]
  | some at_ =>
    have differs : at_ ≠ key := fun same => other (same ▸ target)
    obtain ⟨before, after, split⟩ := List.append_of_mem (valid.2 at_ target)
    rw [passed_of_split split target, rest_of_split split target]
    have nodup := split ▸ r.nodup
    by_cases earlier : key ∈ before
    · have erased : (r.erase key).entries = before.erase key ++ at_ :: after := by
        simp [Registry.erase, split, List.erase_append_left _ earlier]
      have later : key ∉ at_ :: after := fun mem => List.disjoint_of_nodup_append nodup earlier mem
      rw [passed_of_split erased target, rest_of_split erased target,
        List.erase_of_not_mem later]
      exact ⟨rfl, rfl⟩
    · have erased : (r.erase key).entries = before ++ at_ :: after.erase key := by
        simp [Registry.erase, split, List.erase_append_right _ earlier, differs]
      rw [passed_of_split erased target, rest_of_split erased target,
        List.erase_of_not_mem earlier, List.erase_cons_tail (by simpa using differs)]
      exact ⟨rfl, rfl⟩

/-- Erasing a key invalidates no iterator but those that point to it. -/
theorem valid_erase (valid : r.Valid c) (other : c.target ≠ some key) :
    (r.erase key).Valid c := by
  refine ⟨valid.1, fun at_ target => mem_erase.mpr ⟨?_, valid.2 at_ target⟩⟩
  rintro rfl
  exact other target

/-- Without a rehash no iterator becomes invalid. -/
theorem valid_insert (valid : r.Valid c) (fresh : key ∉ r) (index : ℕ) :
    (r.insert key (.position index)).Valid c := by
  have epoch : (r.insert key (.position index)).epoch = r.epoch := by
    have absent : key ∉ r.entries := fresh
    rw [insert, dif_neg absent]
  exact ⟨valid.1.trans epoch.symm, fun at_ target => mem_insert.mpr (.inr (valid.2 at_ target))⟩

/-- A key that is inserted without a rehash appears on one side of every iterator. -/
theorem passed_insert (valid : r.Valid c) (fresh : key ∉ r) (index : ℕ) :
    ((r.insert key (.position index)).passed c).Perm (key :: r.passed c) ∧
        (r.insert key (.position index)).rest c = r.rest c ∨
      (r.insert key (.position index)).passed c = r.passed c ∧
        ((r.insert key (.position index)).rest c).Perm (key :: r.rest c) := by
  have entries : (r.insert key (.position index)).entries =
      r.entries.take index ++ key :: r.entries.drop index := by
    have absent : key ∉ r.entries := fresh
    rw [insert, dif_neg absent]
    rfl
  cases target : c.target with
  | none =>
    left
    simp only [passed, rest, target, entries, and_true]
    refine List.perm_middle.trans ?_
    rw [List.take_append_drop]
  | some at_ =>
    obtain ⟨before, after, split⟩ := List.append_of_mem (valid.2 at_ target)
    rw [passed_of_split split target, rest_of_split split target]
    rw [split] at entries
    obtain short | long := Nat.lt_or_ge before.length index
    · -- The key comes after the one the iterator is at
      obtain ⟨count, rfl⟩ := Nat.exists_eq_add_of_lt short
      have behind : (r.insert key (.position (before.length + count + 1))).entries =
          before ++ at_ :: (after.take count ++ key :: after.drop count) := by
        rw [entries, Nat.add_assoc, List.take_length_add_append, List.drop_length_add_append]
        simp
      rw [passed_of_split behind target, rest_of_split behind target]
      refine .inr ⟨rfl, ?_⟩
      refine (List.Perm.cons at_ (List.perm_middle.trans ?_)).trans (List.Perm.swap key at_ after)
      rw [List.take_append_drop]
    · have ahead : (r.insert key (.position index)).entries =
          (before.take index ++ key :: before.drop index) ++ at_ :: after := by
        rw [entries, List.take_append_of_le_length long, List.drop_append_of_le_length long]
        simp
      rw [passed_of_split ahead target, rest_of_split ahead target]
      refine .inl ⟨List.perm_middle.trans ?_, rfl⟩
      rw [List.take_append_drop]

theorem mem_passed_insert (valid : r.Valid c) (fresh : key ∉ r) (index : ℕ)
    (mem : other ∈ (r.insert key (.position index)).passed c) :
    other = key ∨ other ∈ r.passed c := by
  obtain ⟨perm, -⟩ | ⟨equal, -⟩ := passed_insert valid fresh index
  · exact List.mem_cons.mp (perm.mem_iff.mp mem)
  · exact .inr (equal ▸ mem)

theorem mem_rest_insert (valid : r.Valid c) (fresh : key ∉ r) (index : ℕ)
    (mem : other ∈ (r.insert key (.position index)).rest c) :
    other = key ∨ other ∈ r.rest c := by
  obtain ⟨-, equal⟩ | ⟨-, perm⟩ := passed_insert valid fresh index
  · exact .inr (equal ▸ mem)
  · exact List.mem_cons.mp (perm.mem_iff.mp mem)

theorem length_rest_insert_le (valid : r.Valid c) (fresh : key ∉ r) (index : ℕ) :
    ((r.insert key (.position index)).rest c).length ≤ (r.rest c).length + 1 := by
  obtain ⟨-, equal⟩ | ⟨-, perm⟩ := passed_insert valid fresh index
  · rw [equal]
    exact Nat.le_succ _
  · exact Nat.le_of_eq perm.length_eq

/-! ## Traversals -/

/-- A traversal has treated every key it has passed, unless it cannot go on. -/
def Treated (r : Registry κ) (P : κ → Prop) (c : Cursor κ) : Prop :=
  r.Valid c → ∀ key ∈ r.passed c, P key

section Treated

variable {P Q : κ → Prop}

theorem Treated.mono (treated : r.Treated P c) (weaker : ∀ key ∈ r, P key → Q key) :
    r.Treated Q c := by
  intro valid key mem
  refine weaker key ?_ (treated valid key mem)
  unfold passed at mem
  split at mem
  · exact mem
  · exact List.takeWhile_subset _ mem

/-- A traversal begins. -/
theorem treated_first : r.Treated P r.first := by
  intro _ key mem
  simp [passed_first] at mem

/-- A traversal treats the key it is at and goes on. -/
theorem Treated.next (treated : r.Treated P c) (valid : r.Valid c) (target : c.target = some key)
    (here : P key) : r.Treated P (r.next c) := by
  intro _ other mem
  rw [(passed_next valid target).1] at mem
  obtain earlier | rfl := List.mem_append.mp mem |>.imp_right List.mem_singleton.mp
  · exact treated valid other earlier
  · exact here

/-- A traversal has come to its end. -/
theorem Treated.all (treated : r.Treated P c) (valid : r.Valid c) (ended : c.target = none) :
    ∀ key ∈ r, P key := by
  intro key present
  refine treated valid key ?_
  rw [passed, ended]
  exact present

/-- A key is erased during a traversal. -/
theorem Treated.erase (treated : r.Treated P c) (gone : κ) : (r.erase gone).Treated P c := by
  intro valid other mem
  have before : r.Valid c :=
    ⟨valid.1, fun key target => (mem_erase.mp (valid.2 key target)).2⟩
  have differs : c.target ≠ some gone := fun target => (mem_erase.mp (valid.2 gone target)).1 rfl
  rw [(passed_erase before differs).1] at mem
  exact treated before other (List.mem_of_mem_erase mem)

end Treated

end Registry

end Shoc.Data

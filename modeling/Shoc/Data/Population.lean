/-
# Populations of objects

Objects of one class that are created, written and destroyed in any order. An
object is known by its number in the order of creation, which no other object
gets after it was destroyed. What a population is asked for is how many of its
objects have a property, such as to refer to a given thing, and the rules say how
creating, writing, destroying and exchanging objects changes that.
-/

import Mathlib.Data.List.Basic
import Mathlib.Data.Option.Basic

namespace Shoc.Data

/-- The objects in the order of their creation. A destroyed one leaves an empty slot. -/
structure Population (α : Type*) where
  slots : List (Option α) := []
  deriving DecidableEq, Repr

namespace Population

variable {α : Type*} {p : Population α} {i j : ℕ} {value old other : α} {P : α → Bool}

/-- The number the next object gets. -/
def size (p : Population α) : ℕ := p.slots.length

/-- The value of a live object. -/
def read (i : ℕ) (p : Population α) : Option α := p.slots[i]?.join

/-- A new object, under the number `size`. -/
def create (value : α) (p : Population α) : Population α := ⟨p.slots ++ [some value]⟩

def write (i : ℕ) (value : α) (p : Population α) : Population α := ⟨p.slots.set i (some value)⟩

def destroy (i : ℕ) (p : Population α) : Population α := ⟨p.slots.set i none⟩

/-- How many live objects have a property. -/
def count (P : α → Bool) (p : Population α) : ℕ := p.slots.countP (·.any P)

/-! ## Reading -/

theorem getElem?_of_read (alive : p.read i = some old) : p.slots[i]? = some (some old) :=
  Option.join_eq_some_iff.mp alive

theorem lt_size_of_read (alive : p.read i = some old) : i < p.size :=
  (List.getElem?_eq_some_iff.mp (getElem?_of_read alive)).1

theorem read_create : (p.create value).read j = if j = p.size then some value else p.read j := by
  unfold read create size
  by_cases new : j = p.slots.length
  · simp [new]
  · simp only [new, if_false, List.getElem?_append]
    split
    · rfl
    · rw [List.getElem?_singleton, if_neg (by omega), List.getElem?_eq_none (by omega)]

theorem read_write (alive : p.read i = some old) :
    (p.write i value).read j = if j = i then some value else p.read j := by
  have inside := lt_size_of_read alive
  unfold size at inside
  unfold read write
  rw [List.getElem?_set]
  by_cases same : j = i
  · simp [same, inside]
  · simp [same, Ne.symm same]

theorem read_destroy : (p.destroy i).read j = if j = i then none else p.read j := by
  unfold read destroy
  rw [List.getElem?_set]
  by_cases same : j = i
  · subst same
    simp only [if_true]
    split <;> rfl
  · simp [same, Ne.symm same]

/-- A live object of optional values has the one that a dead one is taken to have. -/
theorem read_eq_some_join {q : Population (Option α)} (alive : (q.read i).isSome) :
    q.read i = some (q.read i).join := by
  obtain ⟨value, found⟩ := Option.isSome_iff_exists.mp alive
  rw [found]
  rfl

theorem isSome_read_create :
    ((p.create value).read j).isSome ↔ j = p.size ∨ (p.read j).isSome := by
  rw [read_create]
  split <;> simp [*]

theorem isSome_read_write (alive : (p.read i).isSome) :
    ((p.write i value).read j).isSome ↔ (p.read j).isSome := by
  obtain ⟨old, found⟩ := Option.isSome_iff_exists.mp alive
  rw [read_write found]
  split
  · rename_i same
    simp [same, found]
  · rfl

@[simp] theorem size_write : (p.write i value).size = p.size := by simp [size, write]

@[simp] theorem size_destroy : (p.destroy i).size = p.size := by simp [size, destroy]

@[simp] theorem size_create : (p.create value).size = p.size + 1 := by simp [size, create]

/-- Writing back what an object has changes nothing. -/
theorem write_read (alive : p.read i = some value) : p.write i value = p := by
  obtain ⟨inside, found⟩ := List.getElem?_eq_some_iff.mp (getElem?_of_read alive)
  unfold write
  rw [← found, List.set_getElem_self inside]

@[simp] theorem write_write : (p.write i value).write i other = p.write i other := by
  simp [write]

theorem write_comm (differ : i ≠ j) :
    (p.write i value).write j other = (p.write j other).write i value := by
  unfold write
  rw [List.set_comm _ _ differ]

/-! ## Properties of all objects -/

/-- All live objects have a property. -/
def All (P : α → Prop) (p : Population α) : Prop := ∀ i value, p.read i = some value → P value

section All

variable {P : α → Prop}

theorem All.empty : All P ({} : Population α) := by
  intro i value alive
  simp [read] at alive

theorem All.create (all : p.All P) (holds : P value) : (p.create value).All P := by
  intro j found alive
  rw [read_create] at alive
  split at alive
  · cases alive
    exact holds
  · exact all j found alive

theorem All.write (all : p.All P) (there : p.read i = some old) (holds : P value) :
    (p.write i value).All P := by
  intro j found alive
  rw [read_write there] at alive
  split at alive
  · cases alive
    exact holds
  · exact all j found alive

theorem All.destroy (all : p.All P) : (p.destroy i).All P := by
  intro j found alive
  rw [read_destroy] at alive
  split at alive
  · cases alive
  · exact all j found alive

end All

/-! ## Counting -/

@[simp] theorem count_empty : count P ({} : Population α) = 0 := rfl

theorem count_create : (p.create value).count P = p.count P + if P value then 1 else 0 := by
  simp [count, create, List.countP_append, List.countP_singleton]

/-- What an object counted for is exchanged for what its new slot counts for. -/
theorem count_set (alive : p.read i = some old) (slot : Option α) :
    (p.slots.set i slot).countP (·.any P) + (if P old then 1 else 0) =
      p.count P + if slot.any P then 1 else 0 := by
  obtain ⟨inside, found⟩ := List.getElem?_eq_some_iff.mp (getElem?_of_read alive)
  have counted : P old = true → 0 < p.slots.countP (·.any P) := by
    intro has
    refine List.countP_pos_iff.mpr ⟨some old, ?_, by simpa using has⟩
    exact found ▸ List.getElem_mem inside
  rw [List.countP_set inside, found]
  unfold count
  by_cases has : P old
  · have := counted has
    simp only [Option.any_some, has, if_true]
    omega
  · simp [has]

theorem count_write (alive : p.read i = some old) (value : α) :
    (p.write i value).count P + (if P old then 1 else 0) =
      p.count P + if P value then 1 else 0 :=
  count_set alive (some value)

theorem count_destroy (alive : p.read i = some old) :
    (p.destroy i).count P + (if P old then 1 else 0) = p.count P := by
  simpa [count, destroy] using count_set (P := P) alive none

/-- Two objects that exchange their values leave all counts as they are. -/
theorem count_exchange (first : p.read i = some old) (second : p.read j = some other)
    (differ : i ≠ j) : ((p.write i other).write j old).count P = p.count P := by
  have one := count_write (P := P) first other
  have kept : (p.write i other).read j = some other := by
    rw [read_write first, if_neg differ.symm, second]
  have two := count_write (P := P) kept old
  omega

theorem count_eq_zero_iff : p.count P = 0 ↔ ∀ i value, p.read i = some value → P value = false := by
  unfold count
  rw [List.countP_eq_zero]
  constructor
  · intro none i value alive
    have found := List.mem_of_getElem? (getElem?_of_read alive)
    simpa using none _ found
  · intro none slot mem
    obtain ⟨i, inside, found⟩ := List.getElem_of_mem mem
    cases slot with
    | none => simp
    | some value =>
      have alive : p.read i = some value := by simp [read, List.getElem?_eq_getElem inside, found]
      simp [none i value alive]

theorem count_lt_size (alive : p.read i = some value) (not : P value = false) :
    p.count P < p.size := by
  have found := List.mem_of_getElem? (getElem?_of_read alive)
  refine Nat.lt_of_le_of_ne List.countP_le_length fun all => ?_
  have has := List.countP_eq_length.mp all _ found
  simp [not] at has

theorem count_pos_of_read (alive : p.read i = some value) (has : P value = true) :
    0 < p.count P := by
  refine Nat.pos_of_ne_zero fun zero => ?_
  rw [count_eq_zero_iff.mp zero i value alive] at has
  contradiction

end Population

end Shoc.Data

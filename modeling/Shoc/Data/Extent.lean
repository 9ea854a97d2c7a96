/-
# Extents of addresses

An extent is a number of consecutive addresses. A part of it is taken by offset and
size, and it is cut into pieces of one size that lie one behind the other. Values
are stored one address after another, and a store beyond given bounds fails.
-/

import Mathlib.Algebra.Group.Nat.Defs
import Mathlib.Data.List.Basic
import Mathlib.Logic.Function.Basic

namespace Shoc.Data

/-- The addresses from `start` on. -/
structure Extent where
  start : ℕ := 0
  size : ℕ := 0
  deriving DecidableEq, Repr

namespace Extent

variable {α : Type*} {e inner outer bounds : Extent} {memory final : ℕ → α}
  {a start offset size count alignment : ℕ} {values more : List α}

instance : Membership ℕ Extent := ⟨fun e a => e.start ≤ a ∧ a < e.start + e.size⟩

theorem mem_iff : a ∈ e ↔ e.start ≤ a ∧ a < e.start + e.size := Iff.rfl

instance : Decidable (a ∈ e) := decidable_of_iff _ mem_iff.symm

instance : HasSubset Extent := ⟨fun inner outer => ∀ a ∈ inner, a ∈ outer⟩

/-- Nothing is asked of an extent without addresses. -/
theorem subset_iff : inner ⊆ outer ↔ inner.size = 0 ∨
    outer.start ≤ inner.start ∧ inner.start + inner.size ≤ outer.start + outer.size := by
  constructor
  · intro contained
    by_cases empty : inner.size = 0
    · exact Or.inl empty
    · have first := contained inner.start (mem_iff.mpr ⟨Nat.le_refl _, by omega⟩)
      have last := contained (inner.start + inner.size - 1) (mem_iff.mpr (by omega))
      rw [mem_iff] at first last
      exact Or.inr (by omega)
  · intro bounded a within
    rw [mem_iff] at within ⊢
    omega

/-- No address is in both. -/
def Apart (e other : Extent) : Prop := ∀ a ∈ e, a ∉ other

/-- The addresses in ascending order. -/
def addresses (e : Extent) : List ℕ := List.range' e.start e.size

theorem mem_addresses : a ∈ e.addresses ↔ a ∈ e := List.mem_range'_1

/-! ## Alignment -/

/-- The first multiple of the alignment from an address on. -/
def alignUp (alignment a : ℕ) : ℕ := (a + (alignment - 1)) / alignment * alignment

theorem dvd_alignUp : alignment ∣ alignUp alignment a := Nat.dvd_mul_left _ _

theorem le_alignUp (positive : 0 < alignment) : a ≤ alignUp alignment a := by
  have rest := Nat.div_add_mod' (a + (alignment - 1)) alignment
  have small := Nat.mod_lt (a + (alignment - 1)) positive
  unfold alignUp
  omega

theorem alignUp_lt (positive : 0 < alignment) : alignUp alignment a < a + alignment := by
  have rest := Nat.div_add_mod' (a + (alignment - 1)) alignment
  unfold alignUp
  omega

/-! ## Parts and pieces -/

/-- The part of a size at an offset, which has to lie inside. -/
def part (offset size : ℕ) (e : Extent) : Option Extent :=
  if offset + size ≤ e.size then some ⟨e.start + offset, size⟩ else none

/-- Pieces of one size, one behind the other. -/
def pieces (start size count : ℕ) : List Extent :=
  (List.range count).map fun i => ⟨start + i * size, size⟩

theorem pieces_succ : pieces start size (count + 1) =
    pieces start size count ++ [⟨start + count * size, size⟩] := by
  rw [pieces, List.range_succ, List.map_append]
  rfl

theorem mem_pieces : e ∈ pieces start size count ↔
    ∃ i < count, e = ⟨start + i * size, size⟩ := by
  simp only [pieces, List.mem_map, List.mem_range, eq_comm]

theorem end_le_of_mem_pieces (one : e ∈ pieces start size count) :
    e.start + e.size ≤ start + count * size := by
  obtain ⟨i, before, rfl⟩ := mem_pieces.mp one
  have ends : (i + 1) * size ≤ count * size := Nat.mul_le_mul_right _ before
  rw [Nat.succ_mul] at ends
  simp only
  omega

theorem subset_of_mem_pieces (one : e ∈ pieces start size count) :
    e ⊆ (⟨start, count * size⟩ : Extent) := by
  refine subset_iff.mpr (Or.inr ⟨?_, end_le_of_mem_pieces one⟩)
  obtain ⟨i, -, rfl⟩ := mem_pieces.mp one
  exact Nat.le_add_right _ _

theorem pieces_apart : (pieces start size count).Pairwise Apart := by
  induction count with
  | zero => exact List.Pairwise.nil
  | succ count ih =>
    rw [pieces_succ, List.pairwise_append]
    refine ⟨ih, List.pairwise_singleton _ _, ?_⟩
    intro earlier among latest last a within also
    obtain rfl := List.mem_singleton.mp last
    -- The earlier piece ends before this one begins
    have ends := end_le_of_mem_pieces among
    rw [mem_iff] at within also
    exact absurd (Nat.lt_of_lt_of_le within.2 ends) (Nat.not_lt.mpr also.1)

/-- In their order the pieces make up one extent. -/
theorem flatMap_addresses_pieces :
    (pieces start size count).flatMap addresses = addresses ⟨start, count * size⟩ := by
  induction count with
  | zero => simp [pieces, addresses]
  | succ count ih =>
    rw [pieces_succ, List.flatMap_append, ih, Nat.succ_mul]
    simp only [addresses, List.flatMap_cons, List.flatMap_nil, List.append_nil]
    exact List.range'_append_1

/-! ## Values at the addresses -/

/-- The values at the addresses. -/
def read (memory : ℕ → α) (e : Extent) : List α := e.addresses.map memory

theorem flatMap_read (memory : ℕ → α) (extents : List Extent) :
    extents.flatMap (read memory) = (extents.flatMap addresses).map memory :=
  List.map_flatMap.symm

/-- Values are written to one address after another. -/
def store : (ℕ → α) → ℕ → List α → ℕ → α
  | memory, _, [] => memory
  | memory, start, value :: rest => store (Function.update memory start value) (start + 1) rest

theorem store_append : store memory start (values ++ more) =
    store (store memory start values) (start + values.length) more := by
  induction values generalizing memory start with
  | nil => rfl
  | cons value rest ih =>
    rw [List.cons_append, store, ih, store, List.length_cons, Nat.add_right_comm, Nat.add_assoc]

theorem store_of_notMem (outside : a ∉ (⟨start, values.length⟩ : Extent)) :
    store memory start values a = memory a := by
  induction values generalizing memory start with
  | nil => rfl
  | cons value rest ih =>
    simp only [mem_iff, List.length_cons] at outside
    rw [store, ih, Function.update_of_ne (by omega)]
    simp only [mem_iff]
    omega

theorem read_store : read (store memory start values) ⟨start, values.length⟩ = values := by
  induction values generalizing memory start with
  | nil => rfl
  | cons value rest ih =>
    -- The first value is not written over
    have head : store memory start (value :: rest) start = value := by
      rw [store, store_of_notMem, Function.update_self]
      simp only [mem_iff]
      omega
    have tail := @ih (Function.update memory start value) (start + 1)
    simp only [read, addresses, List.length_cons, List.range'_succ, List.map_cons] at tail ⊢
    rw [head]
    exact congrArg (value :: ·) tail

/-- Each address that is written has to be inside the bounds. -/
def storeIn (bounds : Extent) : (ℕ → α) → ℕ → List α → Option (ℕ → α)
  | memory, _, [] => some memory
  | memory, start, value :: rest =>
      if start ∈ bounds then
        storeIn bounds (Function.update memory start value) (start + 1) rest
      else none

theorem storeIn_eq_some_iff : storeIn bounds memory start values = some final ↔
    (⟨start, values.length⟩ : Extent) ⊆ bounds ∧ store memory start values = final := by
  induction values generalizing memory start with
  | nil => simp [storeIn, store, subset_iff]
  | cons value rest ih =>
    rw [storeIn, Option.ite_none_right_eq_some, ih, store, ← and_assoc]
    refine and_congr_left fun _ => ?_
    simp only [subset_iff, mem_iff, List.length_cons]
    omega

end Extent

end Shoc.Data

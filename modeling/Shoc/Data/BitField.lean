/-
# Fields inside of words

A field is a run of bits of a word. Words are put together from masks, shifts and
disjunctions, and reading a field goes through all of them: a mask keeps the field or
clears it, and a value that was shifted into its place is read there, cut to the width
of the field, and nowhere else as long as it is not too wide.
-/

import Mathlib.Data.Nat.Bitwise
import Mathlib.Data.Nat.Notation

namespace Shoc.Data.BitField

variable {k n k' n' m mask w x y v : ℕ}

/-- The field of `n` bits that begins at bit `k` of a word. -/
def read (k n word : ℕ) : ℕ := (word >>> k) % 2 ^ n

theorem testBit_read (i : ℕ) : (read k n w).testBit i = (decide (i < n) && w.testBit (k + i)) := by
  rw [read, Nat.testBit_mod_two_pow, Nat.testBit_shiftRight]

theorem read_lt : read k n w < 2 ^ n := Nat.mod_lt _ (Nat.two_pow_pos n)

/-- A field at the top of its word. -/
theorem read_eq_shiftRight (short : w < 2 ^ (k + n)) : read k n w = w >>> k := by
  rw [read, Nat.shiftRight_eq_div_pow]
  exact Nat.mod_eq_of_lt (Nat.div_lt_of_lt_mul (by rwa [← Nat.pow_add]))

@[simp] theorem read_or : read k n (x ||| y) = read k n x ||| read k n y := by
  rw [read, Nat.shiftRight_or_distrib, Nat.or_mod_two_pow]
  rfl

/-- Cutting a word leaves the fields alone that lie inside. -/
theorem read_mod (inside : k + n ≤ m) : read k n (w % 2 ^ m) = read k n w := by
  refine Nat.eq_of_testBit_eq fun i => ?_
  rw [testBit_read, testBit_read, Nat.testBit_mod_two_pow]
  by_cases short : i < n
  · simp [short, show k + i < m by omega]
  · simp [short]

/-! ## Masks -/

theorem read_and : read k n (w &&& mask) = read k n w &&& read k n mask := by
  rw [read, Nat.shiftRight_and_distrib, Nat.and_mod_two_pow]
  rfl

theorem read_and_of_ones (ones : read k n mask = 2 ^ n - 1) :
    read k n (w &&& mask) = read k n w := by
  rw [read_and, ones, Nat.and_two_pow_sub_one_eq_mod, Nat.mod_eq_of_lt read_lt]

theorem read_and_of_zeros (zeros : read k n mask = 0) : read k n (w &&& mask) = 0 := by
  rw [read_and, zeros, Nat.and_zero]

/-! ## Values shifted into their place -/

theorem read_shiftLeft_same : read k n (v <<< k) = v % 2 ^ n := by
  rw [read, Nat.shiftLeft_shiftRight]

theorem read_shiftLeft_below (below : k' + n' ≤ k) : read k' n' (v <<< k) = 0 := by
  refine Nat.eq_of_testBit_eq fun i => ?_
  rw [testBit_read, Nat.testBit_shiftLeft, Nat.zero_testBit]
  by_cases short : i < n'
  · simp [show ¬ k' + i ≥ k by omega]
  · simp [short]

/-- A value of at most `n` bits does not reach the fields above it. -/
theorem read_shiftLeft_above (short : v < 2 ^ n) (above : k + n ≤ k') :
    read k' n' (v <<< k) = 0 := by
  have small : v <<< k < 2 ^ k' := by
    rw [Nat.shiftLeft_eq]
    calc v * 2 ^ k < 2 ^ n * 2 ^ k := Nat.mul_lt_mul_of_pos_right short (Nat.two_pow_pos k)
      _ = 2 ^ (k + n) := by rw [← Nat.pow_add, Nat.add_comm]
      _ ≤ 2 ^ k' := Nat.pow_le_pow_right (by decide) above
  rw [read, Nat.shiftRight_eq_div_pow, Nat.div_eq_of_lt small, Nat.zero_mod]

/-! ## Words that get a new field -/

/-- The field that was cleared has what was put there. -/
theorem read_or_of_zeros (zeros : read k n mask = 0) :
    read k n (w &&& mask ||| v) = read k n v := by
  rw [read_or, read_and_of_zeros zeros, Nat.zero_or]

/-- A field that was kept has what was put there in addition. -/
theorem read_or_of_ones (ones : read k n mask = 2 ^ n - 1) :
    read k n (w &&& mask ||| v) = read k n w ||| read k n v := by
  rw [read_or, read_and_of_ones ones]

theorem read_insert_same (zeros : read k n mask = 0) (inside : k + n ≤ m) :
    read k n (w &&& mask ||| v <<< k % 2 ^ m) = v % 2 ^ n := by
  rw [read_or_of_zeros zeros, read_mod inside, read_shiftLeft_same]

/-- A value that does not reach a field that was kept does not change it. -/
theorem read_insert_other (ones : read k' n' mask = 2 ^ n' - 1) (inside : k' + n' ≤ m)
    (apart : read k' n' (v <<< k) = 0) :
    read k' n' (w &&& mask ||| v <<< k % 2 ^ m) = read k' n' w := by
  rw [read_or_of_ones ones, read_mod inside, apart, Nat.or_zero]

end Shoc.Data.BitField

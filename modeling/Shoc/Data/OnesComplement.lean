/-
# One's complement sums

Numbers in base `b` are added with an end-around carry: what does not fit into one
digit is added back at the other end. Such a sum is the ordinary one modulo `b - 1`,
with the digits `1` to `b - 1` as representatives, and `0` only for a sum that is
zero. So it does not matter when carries are added back, as long as none is
lost, and exchanging the two halves of all summands exchanges the halves of the
sum.
-/

import Mathlib.Data.Nat.ModEq
import Mathlib.Tactic.Ring

namespace Shoc.Data.OnesComplement

variable {b c m n x y : ℕ}

/-- One carry is added back. -/
def carry (b n : ℕ) : ℕ := n % b + n / b

/-- The sum with end-around carry. -/
def sum (b : ℕ) (words : List ℕ) : ℕ := words.foldl (fun total word => carry b (total + word)) 0

/-- The representative of a number among `0` and the digits `1` to `m`. -/
def reduce (m n : ℕ) : ℕ := if n = 0 then 0 else (n - 1) % m + 1

/-! ## Representatives -/

theorem reduce_modEq : reduce m n ≡ n [MOD m] := by
  unfold reduce
  split
  · rename_i zero
    rw [zero]
  · have pos : n - 1 + 1 = n := by omega
    exact (Nat.ModEq.add_right 1 (Nat.mod_modEq (n - 1) m)).trans (by rw [pos])

theorem reduce_pos (pos : 0 < n) : 0 < reduce m n := by
  unfold reduce
  rw [if_neg (Nat.ne_of_gt pos)]
  exact Nat.succ_pos _

theorem reduce_le (pos : 0 < m) : reduce m n ≤ m := by
  unfold reduce
  split
  · exact Nat.zero_le m
  · exact Nat.mod_lt (n - 1) pos

/-- Positive digits with the same residue are the same. -/
theorem eq_of_modEq (congr : x ≡ y [MOD m]) (left : 0 < x) (left' : x ≤ m) (right : 0 < y)
    (right' : y ≤ m) : x = y := by
  have same : x - 1 ≡ y - 1 [MOD m] := by
    refine Nat.ModEq.add_right_cancel' 1 ?_
    rwa [Nat.sub_add_cancel left, Nat.sub_add_cancel right]
  have bounded := Nat.ModEq.eq_of_lt_of_lt same (by omega) (by omega)
  omega

/-- A positive digit is the representative of whatever it is congruent to. -/
theorem eq_reduce_iff (left : 0 < x) (left' : x ≤ m) (pos : 0 < n) :
    x = reduce m n ↔ x ≡ n [MOD m] := by
  constructor
  · rintro rfl
    exact reduce_modEq
  · intro congr
    exact eq_of_modEq (congr.trans reduce_modEq.symm) left left' (reduce_pos pos)
      (reduce_le (by omega))

theorem reduce_eq_self (bound : n ≤ m) : reduce m n = n := by
  unfold reduce
  split
  · omega
  · rw [Nat.mod_eq_of_lt (by omega)]
    omega

/-! ## Carries -/

theorem carry_modEq : carry (m + 1) n ≡ n [MOD m] := by
  have split := Nat.mod_add_div n (m + 1)
  have once : (m + 1) * (n / (m + 1)) ≡ n / (m + 1) [MOD m] := by
    have base : m + 1 ≡ 1 [MOD m] := by simp [Nat.ModEq]
    simpa using base.mul_right (n / (m + 1))
  calc carry (m + 1) n = n % (m + 1) + n / (m + 1) := rfl
    _ ≡ n % (m + 1) + (m + 1) * (n / (m + 1)) [MOD m] := once.symm.add_left _
    _ = n := split

theorem carry_pos (pos : 0 < n) : 0 < carry b n := by
  unfold carry
  refine Nat.pos_of_ne_zero fun zero => ?_
  have split := Nat.mod_add_div n b
  obtain ⟨rest, quotient⟩ := Nat.add_eq_zero_iff.mp zero
  rw [rest, quotient] at split
  omega

/-- What is less than two digits fits into one after a carry, the largest number apart. -/
theorem carry_le (bound : n ≤ 2 * m) : carry (m + 1) n ≤ m := by
  unfold carry
  by_cases small : n < m + 1
  · rw [Nat.mod_eq_of_lt small, Nat.div_eq_of_lt small]
    omega
  · have quotient : n / (m + 1) = 1 := by
      rw [Nat.div_eq_iff (Nat.succ_pos m)]
      omega
    have split := Nat.mod_add_div n (m + 1)
    rw [quotient] at split ⊢
    omega

/-- Adding back the carry once more than needed changes nothing. -/
theorem carry_carry_eq_reduce (bound : carry (m + 1) n ≤ 2 * m) :
    carry (m + 1) (carry (m + 1) n) = reduce m n := by
  by_cases zero : n = 0
  · subst zero
    simp [carry, reduce]
  · have pos := Nat.pos_of_ne_zero zero
    exact (eq_reduce_iff (carry_pos (carry_pos pos)) (carry_le bound) pos).mpr
      (carry_modEq.trans carry_modEq)

/-- The sum with end-around carry is the representative of the ordinary sum. -/
theorem sum_eq_reduce (words : List ℕ) (digits : ∀ word ∈ words, word ≤ m) :
    sum (m + 1) words = reduce m words.sum := by
  unfold sum
  -- The total so far stands for what was added
  have general : ∀ total, total ≤ m →
      words.foldl (fun total word => carry (m + 1) (total + word)) total =
        reduce m (total + words.sum) := by
    induction words with
    | nil =>
      intro total bound
      simp [reduce_eq_self bound]
    | cons word rest ih =>
      intro total bound
      have digit := digits word List.mem_cons_self
      have fits : carry (m + 1) (total + word) ≤ m := carry_le (by omega)
      rw [List.foldl_cons, ih (fun other mem => digits other (List.mem_cons_of_mem _ mem)) _ fits,
        List.sum_cons]
      by_cases zero : total + word = 0
      · have both : total = 0 ∧ word = 0 := by omega
        simp [both, carry]
      · have pos := Nat.pos_of_ne_zero zero
        have carried := carry_pos (b := m + 1) pos
        refine (eq_reduce_iff (reduce_pos (by omega)) (reduce_le (by omega)) (by omega)).mpr ?_
        calc reduce m (carry (m + 1) (total + word) + rest.sum)
            ≡ carry (m + 1) (total + word) + rest.sum [MOD m] := reduce_modEq
          _ ≡ total + word + rest.sum [MOD m] := carry_modEq.add_right _
          _ = total + (word + rest.sum) := by ring
  simpa using general 0 (Nat.zero_le m)

/-! ## Exchanging halves -/

/-- The two halves of a digit of base `c * c` change places. -/
def swap (c x : ℕ) : ℕ := x % c * c + x / c

theorem square_modEq_one (two : 2 ≤ c) : c * c ≡ 1 [MOD c * c - 1] := by
  have square : c * c - 1 + 1 = c * c := Nat.sub_add_cancel (Nat.mul_pos (by omega) (by omega))
  conv_lhs => rw [← square]
  simp [Nat.ModEq]

theorem swap_modEq (two : 2 ≤ c) : swap c x ≡ c * x [MOD c * c - 1] := by
  have split := Nat.mod_add_div x c
  calc swap c x = x % c * c + 1 * (x / c) := by simp [swap]
    _ ≡ x % c * c + c * c * (x / c) [MOD c * c - 1] :=
      ((square_modEq_one two).symm.mul_right _).add_left _
    _ = c * (x % c + c * (x / c)) := by ring
    _ = c * x := by rw [split]

theorem swap_swap (digit : x < c * c) : swap c (swap c x) = x := by
  have high := Nat.div_lt_of_lt_mul digit
  have base : 0 < c := Nat.pos_of_lt_mul_left digit
  have quotient : (x % c * c + x / c) / c = x % c := by
    rw [Nat.mul_comm, Nat.mul_add_div base, Nat.div_eq_of_lt high, Nat.add_zero]
  have rest : (x % c * c + x / c) % c = x / c := by
    rw [Nat.mul_comm, Nat.mul_add_mod, Nat.mod_eq_of_lt high]
  unfold swap
  rw [quotient, rest, Nat.add_comm, Nat.mul_comm]
  exact Nat.mod_add_div x c

/-- In terms of residues, exchanging the halves twice gives back the digit. -/
theorem mul_mul_modEq (two : 2 ≤ c) : c * (c * x) ≡ x [MOD c * c - 1] := by
  rw [← Nat.mul_assoc]
  simpa using (square_modEq_one two).mul_right x

theorem swap_pos (base : 0 < c) (pos : 0 < x) : 0 < swap c x := by
  unfold swap
  refine Nat.pos_of_ne_zero fun zero => ?_
  obtain ⟨low, high⟩ := Nat.add_eq_zero_iff.mp zero
  have split := Nat.mod_add_div x c
  rw [high, Nat.mul_zero, Nat.add_zero] at split
  obtain rest | none := Nat.mul_eq_zero.mp low <;> omega

theorem swap_lt (digit : x < c * c) : swap c x < c * c := by
  have base : 0 < c := Nat.pos_of_lt_mul_left digit
  have low := Nat.mod_lt x base
  have high := Nat.div_lt_of_lt_mul digit
  calc swap c x < x % c * c + c := Nat.add_lt_add_left high _
    _ = (x % c + 1) * c := by ring
    _ ≤ c * c := Nat.mul_le_mul_right c low

/-- When a sum with its halves exchanged is a sum with end-around carry. -/
theorem swap_reduce_eq_sum_iff (two : 2 ≤ c) (pos : 0 < n) (words : List ℕ)
    (digits : ∀ word ∈ words, word ≤ c * c - 1) (pos' : 0 < words.sum) :
    swap c (reduce (c * c - 1) n) = sum (c * c) words ↔ c * n ≡ words.sum [MOD c * c - 1] := by
  have square : c * c - 1 + 1 = c * c := Nat.sub_add_cancel (Nat.mul_pos (by omega) (by omega))
  have base : 0 < c * c - 1 := by
    have four := Nat.mul_le_mul two two
    omega
  have reduced := reduce_le (n := n) base
  have swapped_lt := swap_lt (c := c) (x := reduce (c * c - 1) n) (by omega)
  have total := sum_eq_reduce words digits
  rw [square] at total
  rw [total, eq_reduce_iff (swap_pos (by omega) (reduce_pos pos)) (by omega) pos']
  have residue : swap c (reduce (c * c - 1) n) ≡ c * n [MOD c * c - 1] :=
    (swap_modEq two).trans (reduce_modEq.mul_left c)
  exact ⟨residue.symm.trans, residue.trans⟩

end Shoc.Data.OnesComplement

/-
# Words in memory

What the loads and stores of a little-endian host do to words in network order. A load
followed by an exchange of bytes gives the big-endian word, a store of an exchanged word
is read back as the word and changes nothing beside it. Sums of words that the
host loads are those of the big-endian words, up to an exchange of bytes.
-/

import Mathlib.Algebra.BigOperators.Intervals
import Mathlib.Algebra.Group.Action.Defs
import Mathlib.Algebra.Order.BigOperators.Group.List
import Shoc.Data.OnesComplement
import Shoc.Eth.Frame

namespace Shoc.Eth

open Data
open scoped BigOperators

/-! ## Words and bytes -/

/-- The big-endian word at an offset. -/
def Memory.bigEndian (memory : Memory) (offset : ℕ) : ℕ :=
  256 * (memory offset).toNat + (memory (offset + 1)).toNat

theorem toNat_swap16 (value : UInt16) :
    (swap16 value).toNat = OnesComplement.swap 256 value.toNat := by
  have bound := value.toNat_lt
  have high : value.toNat / 256 < 2 ^ 8 := by omega
  have shifted : value.toNat * 2 ^ 8 % 65536 = (value.toNat % 256) <<< 8 := by
    rw [Nat.shiftLeft_eq]
    omega
  unfold swap16 OnesComplement.swap
  rw [UInt16.toNat_or, UInt16.toNat_shiftLeft, UInt16.toNat_shiftRight]
  simp only [UInt16.reduceToNat, Nat.reduceMod, Nat.shiftRight_eq_div_pow]
  rw [Nat.shiftLeft_eq, shifted, ← Nat.shiftLeft_add_eq_or_of_lt high,
    Nat.shiftLeft_eq]

theorem swap16_swap16 (value : UInt16) : swap16 (swap16 value) = value := by
  refine UInt16.toNat_inj.mp ?_
  rw [toNat_swap16, toNat_swap16]
  exact OnesComplement.swap_swap value.toNat_lt

theorem toNat_or_shiftLeft (low high : UInt16) :
    (low.toUInt32 ||| high.toUInt32 <<< 16).toNat = low.toNat + 65536 * high.toNat := by
  have low_lt := low.toNat_lt
  have high_lt := high.toNat_lt
  have fits : high.toNat <<< 16 < 2 ^ 32 := by
    rw [Nat.shiftLeft_eq]
    omega
  rw [UInt32.toNat_or, UInt32.toNat_shiftLeft, UInt16.toNat_toUInt32, UInt16.toNat_toUInt32]
  simp only [UInt32.reduceToNat, Nat.reduceMod]
  rw [Nat.mod_eq_of_lt fits, Nat.or_comm, ← Nat.shiftLeft_add_eq_or_of_lt low_lt,
    Nat.shiftLeft_eq]
  omega

theorem toNat_swap32 (value : UInt32) : (swap32 value).toNat =
    OnesComplement.swap 256 (value.toNat / 65536) +
      65536 * OnesComplement.swap 256 (value.toNat % 65536) := by
  have bound := value.toNat_lt
  unfold swap32
  rw [UInt32.or_comm, toNat_or_shiftLeft, toNat_swap16, toNat_swap16, UInt32.toNat_toUInt16,
    UInt32.toNat_toUInt16, UInt32.toNat_shiftRight]
  simp only [UInt32.reduceToNat, Nat.reduceMod, Nat.shiftRight_eq_div_pow]
  rw [Nat.mod_eq_of_lt (by omega)]

theorem swap32_swap32 (value : UInt32) : swap32 (swap32 value) = value := by
  have bound := value.toNat_lt
  have high : value.toNat / 65536 < 256 * 256 := by omega
  have low : value.toNat % 65536 < 256 * 256 := by omega
  have high' := OnesComplement.swap_lt high
  have low' := OnesComplement.swap_lt low
  have doubleHigh := OnesComplement.swap_swap high
  have doubleLow := OnesComplement.swap_swap low
  refine UInt32.toNat_inj.mp ?_
  rw [toNat_swap32, toNat_swap32, Nat.add_mul_div_left _ _ (by decide), Nat.div_eq_of_lt high',
    Nat.zero_add, doubleLow, Nat.add_mul_mod_self_left, Nat.mod_eq_of_lt high', doubleHigh]
  omega

namespace Memory

variable (memory : Memory) (offset : ℕ)

theorem toNat_load16 :
    (memory.load16 offset).toNat = (memory offset).toNat + 256 * (memory (offset + 1)).toNat := by
  have low := (memory offset).toNat_lt
  have high := (memory (offset + 1)).toNat_lt
  have fits : (memory (offset + 1)).toNat <<< 8 < 2 ^ 16 := by
    rw [Nat.shiftLeft_eq]
    omega
  unfold load16
  rw [UInt16.toNat_or, UInt16.toNat_shiftLeft]
  simp only [UInt8.toNat_toUInt16, UInt16.reduceToNat, Nat.reduceMod]
  rw [Nat.mod_eq_of_lt fits, Nat.or_comm, ← Nat.shiftLeft_add_eq_or_of_lt low, Nat.shiftLeft_eq]
  omega

theorem toNat_swap16_load16 : (swap16 (memory.load16 offset)).toNat = memory.bigEndian offset := by
  have low := (memory offset).toNat_lt
  have high := (memory (offset + 1)).toNat_lt
  rw [toNat_swap16, toNat_load16, OnesComplement.swap, bigEndian]
  omega

theorem toNat_swap32_load32 : (swap32 (memory.load32 offset)).toNat =
    memory.bigEndian (offset + 2) + 65536 * memory.bigEndian offset := by
  have low_lt := (memory.load16 offset).toNat_lt
  have loaded := toNat_or_shiftLeft (memory.load16 offset) (memory.load16 (offset + 2))
  have low : (memory.load32 offset).toUInt16 = memory.load16 offset := by
    refine UInt16.toNat_inj.mp ?_
    rw [UInt32.toNat_toUInt16, load32, loaded]
    omega
  have high : (memory.load32 offset >>> 16).toUInt16 = memory.load16 (offset + 2) := by
    refine UInt16.toNat_inj.mp ?_
    have high_lt := (memory.load16 (offset + 2)).toNat_lt
    rw [UInt32.toNat_toUInt16, UInt32.toNat_shiftRight, load32, loaded]
    simp only [UInt32.reduceToNat, Nat.reduceMod, Nat.shiftRight_eq_div_pow]
    omega
  unfold swap32
  rw [low, high, UInt32.or_comm, toNat_or_shiftLeft, toNat_swap16_load16, toNat_swap16_load16]

theorem bigEndian_le : memory.bigEndian offset ≤ 65535 := by
  have low := (memory offset).toNat_lt
  have high := (memory (offset + 1)).toNat_lt
  unfold bigEndian
  omega

/-- A word that the host loads is the big-endian one with its bytes exchanged. -/
theorem load16_modEq :
    (memory.load16 offset).toNat ≡ 256 * memory.bigEndian offset [MOD 65535] := by
  have swapped : (memory.load16 offset).toNat =
      OnesComplement.swap 256 (memory.bigEndian offset) := by
    have low := (memory offset).toNat_lt
    have high := (memory (offset + 1)).toNat_lt
    rw [toNat_load16, OnesComplement.swap, bigEndian]
    omega
  rw [swapped]
  exact OnesComplement.swap_modEq (by decide)

/-! ## Stores -/

section Stores

variable {memory offset} {other : ℕ}

theorem store8_same (value : UInt8) : memory.store8 offset value offset = value := if_pos rfl

theorem store8_outside (value : UInt8) (outside : other ≠ offset) :
    memory.store8 offset value other = memory other := if_neg outside

theorem store16_outside (value : UInt16) (outside : other < offset ∨ offset + 2 ≤ other) :
    memory.store16 offset value other = memory other := by
  rw [store16, store8_outside _ (by omega), store8_outside _ (by omega)]

theorem store32_outside (value : UInt32) (outside : other < offset ∨ offset + 4 ≤ other) :
    memory.store32 offset value other = memory other := by
  rw [store32, store16_outside _ (by omega), store16_outside _ (by omega)]

theorem load16_store16 (value : UInt16) : (memory.store16 offset value).load16 offset = value := by
  have bound := value.toNat_lt
  refine UInt16.toNat_inj.mp ?_
  rw [toNat_load16, store16, store8_same, store8_outside _ (by omega), store8_same,
    UInt16.toNat_toUInt8, UInt16.toNat_toUInt8, UInt16.toNat_shiftRight]
  simp only [UInt16.reduceToNat, Nat.reduceMod, Nat.shiftRight_eq_div_pow]
  omega

theorem store16_store16 (value : UInt16) :
    (memory.store16 offset value).store16 offset value = memory.store16 offset value := by
  funext other
  simp only [store16, store8]
  split <;> simp_all

/-- A load depends on the bytes it reads. -/
theorem load16_congr {memory' : Memory} (first : memory' offset = memory offset)
    (second : memory' (offset + 1) = memory (offset + 1)) :
    memory'.load16 offset = memory.load16 offset := by
  rw [load16, load16, first, second]

theorem load32_store32 (value : UInt32) : (memory.store32 offset value).load32 offset = value := by
  have bound := value.toNat_lt
  have low : (memory.store32 offset value).load16 offset = value.toUInt16 := by
    rw [store32, load16_congr (store16_outside _ (by omega)) (store16_outside _ (by omega)),
      load16_store16]
  refine UInt32.toNat_inj.mp ?_
  rw [load32, toNat_or_shiftLeft, low, store32, load16_store16, UInt32.toNat_toUInt16,
    UInt32.toNat_toUInt16, UInt32.toNat_shiftRight]
  simp only [UInt32.reduceToNat, Nat.reduceMod, Nat.shiftRight_eq_div_pow]
  omega

end Stores

/-! ## Sums of words -/

/-- What the byte at an offset contributes to a sum of the words that the host loads. -/
def weighted (memory : Memory) (offset : ℕ) : ℕ :=
  (if offset % 2 = 0 then 1 else 256) * (memory offset).toNat

theorem sum_load16 (count : ℕ) : ∑ i ∈ Finset.range count, (memory.load16 (2 * i)).toNat =
    ∑ offset ∈ Finset.range (2 * count), memory.weighted offset := by
  induction count with
  | zero => rfl
  | succ count ih =>
    rw [Finset.sum_range_succ, ih, Nat.mul_succ, Finset.sum_range_succ, Finset.sum_range_succ,
      toNat_load16]
    simp [weighted, Nat.add_assoc]

theorem sum_load16_modEq (count : ℕ) (counted : ℕ → Prop) [DecidablePred counted] :
    ∑ i ∈ Finset.range count, (if counted i then (memory.load16 (2 * i)).toNat else 0) ≡
      256 * ∑ i ∈ Finset.range count, (if counted i then memory.bigEndian (2 * i) else 0)
      [MOD 65535] := by
  induction count with
  | zero => rfl
  | succ count ih =>
    rw [Finset.sum_range_succ, Finset.sum_range_succ, Nat.mul_add]
    refine ih.add ?_
    split
    · exact memory.load16_modEq _
    · rfl

/-- With its bytes exchanged back, the sum is the one of the big-endian words. -/
theorem mul_sum_load16_modEq (count : ℕ) (counted : ℕ → Prop) [DecidablePred counted] :
    256 * ∑ i ∈ Finset.range count, (if counted i then (memory.load16 (2 * i)).toNat else 0) ≡
      ∑ i ∈ Finset.range count, (if counted i then memory.bigEndian (2 * i) else 0)
      [MOD 65535] :=
  ((memory.sum_load16_modEq count counted).mul_left 256).trans
    (OnesComplement.mul_mul_modEq (c := 256) (by decide))

end Memory

theorem mul_swap16_modEq (value : UInt16) :
    256 * (swap16 value).toNat ≡ value.toNat [MOD 65535] := by
  rw [toNat_swap16]
  exact ((OnesComplement.swap_modEq (c := 256) (by decide)).mul_left 256).trans
    (OnesComplement.mul_mul_modEq (c := 256) (by decide))

/-- Adding up words does not overflow while the total fits. -/
theorem toNat_foldl_add (words : List UInt16) (total : UInt32)
    (fits : total.toNat + (words.map UInt16.toNat).sum < 2 ^ 32) :
    (words.foldl (fun sum word => sum + word.toUInt32) total).toNat =
      total.toNat + (words.map UInt16.toNat).sum := by
  induction words generalizing total with
  | nil => rfl
  | cons word rest ih =>
    rw [List.map_cons, List.sum_cons] at fits
    have added : (total + word.toUInt32).toNat = total.toNat + word.toNat := by
      rw [UInt32.toNat_add, UInt16.toNat_toUInt32, Nat.mod_eq_of_lt (by omega)]
    rw [List.foldl_cons, ih _ (by omega), added, List.map_cons, List.sum_cons, Nat.add_assoc]

theorem sum_toNat_le (words : List UInt16) :
    (words.map UInt16.toNat).sum ≤ 65535 * words.length := by
  have each : ∀ word ∈ words.map UInt16.toNat, word ≤ 65535 := by
    intro word mem
    obtain ⟨value, -, rfl⟩ := List.mem_map.mp mem
    exact Nat.le_of_lt_succ value.toNat_lt
  have bound := List.sum_le_card_nsmul _ _ each
  rw [List.length_map, smul_eq_mul] at bound
  omega

/-! ## The length of a header -/

namespace Ipv4Packet

variable (packet : Ipv4Packet)

theorem toNat_ihl_eq_mod : packet.ihl.toNat = packet.rawVersionIhl.toNat % 16 :=
  (UInt8.toNat_and ..).trans (Nat.and_two_pow_sub_one_eq_mod packet.rawVersionIhl.toNat 4)

theorem ihl_lt : packet.ihl.toNat < 16 := by
  rw [toNat_ihl_eq_mod]
  exact Nat.mod_lt _ (by decide)

end Ipv4Packet

/-! ## Folding and taking the complement -/

theorem toNat_fold (sum : UInt32) : (fold sum).toNat = OnesComplement.carry 65536 sum.toNat := by
  have bound := sum.toNat_lt
  have mask : sum.toNat &&& 65535 = sum.toNat % 65536 :=
    Nat.and_two_pow_sub_one_eq_mod sum.toNat 16
  unfold fold OnesComplement.carry
  rw [UInt32.toNat_add, UInt32.toNat_and, UInt32.toNat_shiftRight]
  simp only [UInt32.reduceToNat, Nat.reduceMod, Nat.shiftRight_eq_div_pow, mask]
  omega

/-- The complement of a word, with its bytes exchanged. -/
theorem toNat_complement (sum : UInt32) (word : sum.toNat ≤ 65535) :
    (swap16 (~~~sum &&& 0xffff).toUInt16).toNat = 65535 - OnesComplement.swap 256 sum.toNat := by
  have mask : (UInt32.size - 1 - sum.toNat) &&& 65535 = (UInt32.size - 1 - sum.toNat) % 65536 :=
    Nat.and_two_pow_sub_one_eq_mod _ 16
  rw [toNat_swap16, UInt32.toNat_toUInt16, UInt32.toNat_and, UInt32.toNat_not]
  simp only [UInt32.reduceToNat, mask, OnesComplement.swap, UInt32.size]
  omega

/-- What both checksums do with their sum, once it is in 32 bits. -/
theorem toNat_complement_fold_fold (sum : UInt32)
    (folds : OnesComplement.carry 65536 sum.toNat ≤ 2 * 65535) :
    (swap16 (~~~fold (fold sum) &&& 0xffff).toUInt16).toNat =
      65535 - OnesComplement.swap 256 (OnesComplement.reduce 65535 sum.toNat) := by
  have reduced : (fold (fold sum)).toNat = OnesComplement.reduce 65535 sum.toNat := by
    rw [toNat_fold, toNat_fold]
    exact OnesComplement.carry_carry_eq_reduce folds
  rw [toNat_complement, reduced]
  rw [reduced]
  exact OnesComplement.reduce_le (by decide)

end Shoc.Eth

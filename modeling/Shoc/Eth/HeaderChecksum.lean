/-
# The checksum of an IPv4 header

`calculate_header_checksum` starts from the negated checksum that is in the header, so
that adding up all words counts the field as zero, and adds the words as the host loads
them. The header is short enough for its sum to fit into 32 bits and for two carries
to be all there are, and it is never zero, since its length is part of it. So the
result is the checksum of the RFCs for every header.
-/

import Mathlib.Algebra.BigOperators.Intervals
import Mathlib.Algebra.Order.BigOperators.Group.Finset
import Shoc.Eth.Words

namespace Shoc.Eth

open Data
open scoped BigOperators

namespace Ipv4Packet

variable (packet : Ipv4Packet)

/-- The words of a header in network order. -/
def bigEndianWords : List ℕ :=
  (List.range (packet.ihl.toNat * 2)).map fun i => packet.memory.bigEndian (2 * i)

/-- The same with the field of the checksum, which is the sixth word, counted as zero. -/
def wordsWithoutChecksum : List ℕ :=
  (List.range (packet.ihl.toNat * 2)).map fun i =>
    if i ≠ 5 then packet.memory.bigEndian (2 * i) else 0

/-- The checksum that RFC 791 defines. -/
def rfcChecksum : ℕ := 65535 - OnesComplement.sum 65536 packet.wordsWithoutChecksum

/-- The sum that the code takes the complement of. -/
def total : ℕ :=
  ∑ i ∈ Finset.range (packet.ihl.toNat * 2),
    if i ≠ 5 then (packet.memory.load16 (2 * i)).toNat else 0

theorem sum_headerWords : (packet.headerWords.map UInt16.toNat).sum =
    ∑ i ∈ Finset.range (packet.ihl.toNat * 2), (packet.memory.load16 (2 * i)).toNat := by
  unfold headerWords
  rw [List.map_map]
  rfl

variable {packet}

theorem sum_headerWords_eq_total (long : 5 ≤ packet.ihl.toNat) :
    (packet.headerWords.map UInt16.toNat).sum =
      packet.total + packet.rawHeaderChecksum.toNat := by
  have among : 5 ∈ Finset.range (packet.ihl.toNat * 2) := Finset.mem_range.mpr (by omega)
  have split := Finset.sum_erase_add _ (fun i => (packet.memory.load16 (2 * i)).toNat) among
  rw [sum_headerWords, total, ← Finset.sum_filter, Finset.filter_ne', ← split]
  rfl

/-- The length of a header is part of its first byte. -/
theorem rawVersionIhl_pos (long : 5 ≤ packet.ihl.toNat) : 0 < (packet.memory 0).toNat := by
  have length := packet.toNat_ihl_eq_mod
  unfold rawVersionIhl at length
  omega

theorem total_pos (long : 5 ≤ packet.ihl.toNat) : 0 < packet.total := by
  have among : 0 ∈ Finset.range (packet.ihl.toNat * 2) := Finset.mem_range.mpr (by omega)
  have field : 0 < (packet.memory.load16 (2 * 0)).toNat := by
    rw [Memory.toNat_load16]
    exact Nat.lt_add_right _ (rawVersionIhl_pos long)
  have below := Finset.single_le_sum (fun _ _ => Nat.zero_le _) among
    (f := fun i => if i ≠ 5 then (packet.memory.load16 (2 * i)).toNat else 0)
  rw [if_pos (by decide)] at below
  exact Nat.lt_of_lt_of_le field below

theorem total_modEq : 256 * packet.total ≡ packet.wordsWithoutChecksum.sum [MOD 65535] := by
  have listed : ∑ i ∈ Finset.range (packet.ihl.toNat * 2),
      (if i ≠ 5 then packet.memory.bigEndian (2 * i) else 0) =
      packet.wordsWithoutChecksum.sum := rfl
  rw [← listed]
  exact packet.memory.mul_sum_load16_modEq (packet.ihl.toNat * 2) (· ≠ 5)

/-- Adding up words from any start. -/
theorem foldl_add_start (words : List UInt16) (start : UInt32) :
    words.foldl (fun sum word => sum + word.toUInt32) start =
      words.foldl (fun sum word => sum + word.toUInt32) 0 + start := by
  induction words generalizing start with
  | nil => simp
  | cons word rest ih =>
    rw [List.foldl_cons, List.foldl_cons, ih, ih (0 + word.toUInt32), UInt32.zero_add,
      UInt32.add_comm start, UInt32.add_assoc]

theorem toNat_calculateHeaderChecksum (long : 5 ≤ packet.ihl.toNat) :
    packet.calculateHeaderChecksum.toNat =
      65535 - OnesComplement.swap 256 (OnesComplement.reduce 65535 packet.total) := by
  have counted := sum_headerWords_eq_total long
  have bound := sum_toNat_le packet.headerWords
  have count : packet.headerWords.length = packet.ihl.toNat * 2 := by simp [headerWords]
  have short := packet.ihl_lt
  have added := toNat_foldl_add packet.headerWords 0 (by
    rw [UInt32.toNat_zero]
    omega)
  rw [counted, UInt32.toNat_zero, Nat.zero_add] at added
  -- The negated checksum at the start takes back what the field adds
  have subtracted : (packet.headerWords.foldl (fun sum word => sum + word.toUInt32)
      (-packet.rawHeaderChecksum.toUInt32)).toNat = packet.total := by
    rw [foldl_add_start, ← sub_eq_add_neg,
      UInt32.toNat_sub_of_le _ _ (by rw [UInt32.le_iff_toNat_le, added]; simp), added]
    simp
  have folded : OnesComplement.carry 65536 packet.total ≤ 2 * 65535 := by
    unfold OnesComplement.carry
    omega
  unfold calculateHeaderChecksum
  rw [toNat_complement_fold_fold, subtracted]
  rwa [subtracted]

theorem wordsWithoutChecksum_le : ∀ word ∈ packet.wordsWithoutChecksum, word ≤ 65535 := by
  intro word mem
  obtain ⟨i, -, rfl⟩ := List.mem_map.mp mem
  split
  · exact Memory.bigEndian_le _ _
  · exact Nat.zero_le _

theorem bigEndianWords_le : ∀ word ∈ packet.bigEndianWords, word ≤ 65535 := by
  intro word mem
  obtain ⟨i, -, rfl⟩ := List.mem_map.mp mem
  exact Memory.bigEndian_le _ _

theorem sum_words_pos (long : 5 ≤ packet.ihl.toNat) : 0 < packet.wordsWithoutChecksum.sum := by
  have first : packet.memory.bigEndian 0 ∈ packet.wordsWithoutChecksum :=
    List.mem_map.mpr ⟨0, List.mem_range.mpr (by omega), by simp⟩
  have pos : 0 < packet.memory.bigEndian 0 := by
    have byte := rawVersionIhl_pos long
    unfold Memory.bigEndian
    omega
  exact Nat.lt_of_lt_of_le pos (List.single_le_sum (by simp) _ first)

theorem calculateHeaderChecksum_eq (long : 5 ≤ packet.ihl.toNat) :
    packet.calculateHeaderChecksum.toNat = packet.rfcChecksum := by
  have swapped := (OnesComplement.swap_reduce_eq_sum_iff (c := 256) (by decide) (total_pos long)
    packet.wordsWithoutChecksum wordsWithoutChecksum_le (sum_words_pos long)).mpr total_modEq
  rw [toNat_calculateHeaderChecksum long, rfcChecksum]
  exact congrArg (65535 - ·) swapped

/-! ## After the update -/

theorem memory_update_of_ne {offset : ℕ} (first : offset ≠ 10) (second : offset ≠ 11) :
    packet.updateHeaderChecksum.memory offset = packet.memory offset :=
  Memory.store16_outside _ (by omega)

theorem ihl_update : packet.updateHeaderChecksum.ihl = packet.ihl := by
  unfold ihl rawVersionIhl
  rw [memory_update_of_ne (by decide) (by decide)]

theorem headerChecksum_update :
    packet.updateHeaderChecksum.headerChecksum = packet.calculateHeaderChecksum := by
  unfold headerChecksum rawHeaderChecksum updateHeaderChecksum
  rw [Memory.load16_store16, swap16_swap16]

/-- The words that the update leaves alone. -/
theorem bigEndian_update {i : ℕ} (other : i ≠ 5) :
    packet.updateHeaderChecksum.memory.bigEndian (2 * i) = packet.memory.bigEndian (2 * i) := by
  unfold Memory.bigEndian
  rw [memory_update_of_ne (by omega) (by omega), memory_update_of_ne (by omega) (by omega)]

theorem wordsWithoutChecksum_update :
    packet.updateHeaderChecksum.wordsWithoutChecksum = packet.wordsWithoutChecksum := by
  unfold wordsWithoutChecksum
  rw [ihl_update]
  refine List.map_congr_left fun i _ => ?_
  split
  · exact bigEndian_update ‹_›
  · rfl

theorem calculateHeaderChecksum_update (long : 5 ≤ packet.ihl.toNat) :
    packet.updateHeaderChecksum.calculateHeaderChecksum = packet.calculateHeaderChecksum := by
  refine UInt16.toNat_inj.mp ?_
  rw [calculateHeaderChecksum_eq long, calculateHeaderChecksum_eq (by rwa [ihl_update]),
    rfcChecksum, wordsWithoutChecksum_update, rfcChecksum]

theorem update_update (long : 5 ≤ packet.ihl.toNat) :
    packet.updateHeaderChecksum.updateHeaderChecksum = packet.updateHeaderChecksum := by
  conv_lhs => rw [updateHeaderChecksum, calculateHeaderChecksum_update long]
  unfold updateHeaderChecksum
  rw [Memory.store16_store16]

theorem sum_bigEndianWords (long : 5 ≤ packet.ihl.toNat) :
    packet.bigEndianWords.sum =
      packet.wordsWithoutChecksum.sum + packet.headerChecksum.toNat := by
  have among : 5 ∈ Finset.range (packet.ihl.toNat * 2) := Finset.mem_range.mpr (by omega)
  have split := Finset.sum_erase_add _ (fun i => packet.memory.bigEndian (2 * i)) among
  have rest : ∑ i ∈ (Finset.range (packet.ihl.toNat * 2)).erase 5,
      packet.memory.bigEndian (2 * i) = packet.wordsWithoutChecksum.sum := by
    rw [← Finset.filter_ne', Finset.sum_filter]
    rfl
  rw [headerChecksum, rawHeaderChecksum, Memory.toNat_swap16_load16, ← rest]
  exact split.symm

/-- With the right checksum all words add up to the negative zero. -/
theorem sum_update (long : 5 ≤ packet.ihl.toNat) :
    OnesComplement.sum 65536 packet.updateHeaderChecksum.bigEndianWords = 0xffff := by
  have long' : 5 ≤ packet.updateHeaderChecksum.ihl.toNat := by rwa [ihl_update]
  have pos := sum_words_pos long
  have digits := OnesComplement.sum_eq_reduce packet.wordsWithoutChecksum
    (m := 65535) wordsWithoutChecksum_le
  have small := OnesComplement.reduce_le (m := 65535) (n := packet.wordsWithoutChecksum.sum)
    (by decide)
  have residue := OnesComplement.reduce_modEq (m := 65535) (n := packet.wordsWithoutChecksum.sum)
  rw [OnesComplement.sum_eq_reduce _ (m := 65535) bigEndianWords_le, sum_bigEndianWords long',
    wordsWithoutChecksum_update, headerChecksum_update, calculateHeaderChecksum_eq long,
    rfcChecksum, digits]
  refine ((OnesComplement.eq_reduce_iff (by decide) (by decide) (by omega)).mpr ?_).symm
  calc 65535 = OnesComplement.reduce 65535 packet.wordsWithoutChecksum.sum +
        (65535 - OnesComplement.reduce 65535 packet.wordsWithoutChecksum.sum) := by omega
    _ ≡ packet.wordsWithoutChecksum.sum +
        (65535 - OnesComplement.reduce 65535 packet.wordsWithoutChecksum.sum) [MOD 65535] :=
      residue.add_right _

/-- **The header checksum is the one of RFC 791**, whatever the header says and whatever its
checksum was before; after `update_header_checksum` the words of the header add up to
`0xffff`, the getter returns the checksum that was calculated, nothing else has changed, and
updating again changes nothing. -/
theorem header_checksum_correct (packet : Ipv4Packet) (long : 5 ≤ packet.ihl.toNat) :
    packet.calculateHeaderChecksum.toNat = packet.rfcChecksum ∧
    OnesComplement.sum 65536 packet.updateHeaderChecksum.bigEndianWords = 0xffff ∧
    packet.updateHeaderChecksum.headerChecksum = packet.calculateHeaderChecksum ∧
    (∀ offset, offset ≠ 10 → offset ≠ 11 →
      packet.updateHeaderChecksum.memory offset = packet.memory offset) ∧
    packet.updateHeaderChecksum.updateHeaderChecksum = packet.updateHeaderChecksum :=
  ⟨calculateHeaderChecksum_eq long, sum_update long, headerChecksum_update,
    fun _ => memory_update_of_ne, update_update long⟩

/-- The header of a small UDP packet, with its checksum. -/
def udpHeader : Ipv4Packet :=
  ⟨fun offset => [0x45, 0x00, 0x00, 0x21, 0xde, 0x3b, 0x40, 0x00, 0x40, 0x11, 0x12, 0x64, 0xc0,
    0xa8, 0x64, 0x01, 0xc0, 0xa8, 0x64, 0xda].getD offset 0⟩

theorem header_checksum_correct_udpHeader :
    udpHeader.calculateHeaderChecksum = 0x1264 ∧ 5 ≤ udpHeader.ihl.toNat ∧
    udpHeader.calculateHeaderChecksum.toNat = udpHeader.rfcChecksum ∧
    OnesComplement.sum 65536 udpHeader.updateHeaderChecksum.bigEndianWords = 0xffff := by
  have correct := header_checksum_correct udpHeader (by decide)
  exact ⟨by decide, by decide, correct.1, correct.2.1⟩

end Ipv4Packet

end Shoc.Eth

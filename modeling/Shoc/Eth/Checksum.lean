/-
# Checksums of UDP segments

What `calculate_checksum` computes, against the checksum that the RFCs define:
the one's complement of the one's complement sum of a pseudo-header and the segment
in big-endian words. The code sums the words as the little-endian host loads them
and exchanges the bytes of the result, which is the same thing. Three things are
not: it sums twice as many words as the segment has, the carry of the
pseudo-header is added back once and what is then left of it cut off, and the
addresses of an IPv6 header are exchanged before they are added. How much each of
them contributes is known exactly, and so are when the result is right and how far
the code reads.
-/

import Mathlib.Algebra.BigOperators.Intervals
import Mathlib.Algebra.Order.BigOperators.Group.Finset
import Shoc.Eth.Words

namespace Shoc.Eth

open Data
open scoped BigOperators

/-! ## The checksum of a segment -/

namespace UdpSegment

variable (segment : UdpSegment)

/-- The segment alone, with zeros where its memory goes on. -/
def padded : Memory :=
  fun offset => if offset < segment.length.toNat then segment.memory offset else 0

/-- The words of a segment in network order: the field of the checksum counts as zero,
and an odd last byte is padded. -/
def bigEndianWords : List ℕ :=
  (List.range ((segment.length.toNat + 1) / 2)).map fun i =>
    if i ≠ 3 then segment.padded.bigEndian (2 * i) else 0

/-- The checksum that the RFCs define, over a pseudo-header in big-endian words. -/
def checksum (pseudoheader : List ℕ) : ℕ :=
  65535 - OnesComplement.sum 65536 (pseudoheader ++ segment.bigEndianWords)

/-- What the memory behind the segment adds to the sum of the code, which goes on for
another `length` bytes. -/
def excess : ℕ :=
  ∑ i ∈ Finset.range segment.length.toNat, segment.memory.weighted (segment.length.toNat + i)

/-- The sum that the code takes the complement of, in terms of the words of the segment. -/
def total (part : ℕ) : ℕ :=
  part + ∑ i ∈ Finset.range ((segment.length.toNat + 1) / 2),
    (if i ≠ 3 then (segment.padded.load16 (2 * i)).toNat else 0) + segment.excess

/-- The bytes of the segment are its words, padded, and those behind it are the excess. -/
theorem sum_words : (segment.words.map UInt16.toNat).sum =
    ∑ i ∈ Finset.range ((segment.length.toNat + 1) / 2),
      (segment.padded.load16 (2 * i)).toNat + segment.excess := by
  have listed : (segment.words.map UInt16.toNat).sum =
      ∑ i ∈ Finset.range segment.length.toNat, (segment.memory.load16 (2 * i)).toNat := by
    unfold words
    rw [List.map_map]
    rfl
  have inside : ∀ offset ∈ Finset.range segment.length.toNat,
      segment.memory.weighted offset = segment.padded.weighted offset := by
    intro offset mem
    simp [Memory.weighted, padded, Finset.mem_range.mp mem]
  have odd : ∑ offset ∈ Finset.range (2 * ((segment.length.toNat + 1) / 2)),
      segment.padded.weighted offset =
      ∑ offset ∈ Finset.range segment.length.toNat, segment.padded.weighted offset := by
    obtain even | odd : 2 * ((segment.length.toNat + 1) / 2) = segment.length.toNat ∨
        2 * ((segment.length.toNat + 1) / 2) = segment.length.toNat + 1 := by omega
    · rw [even]
    · rw [odd, Finset.sum_range_succ]
      simp [Memory.weighted, padded]
  rw [listed, Memory.sum_load16, Nat.two_mul, Finset.sum_range_add, Finset.sum_congr rfl inside,
    Memory.sum_load16, odd]
  rfl

variable {segment : UdpSegment}

/-- Without the field of the checksum, which is the fourth word. -/
theorem total_eq (long : 8 ≤ segment.length.toNat) (part : ℕ) :
    part + (segment.words.map UInt16.toNat).sum =
      segment.total part + segment.rawChecksum.toNat := by
  have field : segment.rawChecksum = segment.padded.load16 (2 * 3) := by
    simp [rawChecksum, Memory.load16, padded, show 6 < segment.length.toNat by omega,
      show 7 < segment.length.toNat by omega]
  have among : 3 ∈ Finset.range ((segment.length.toNat + 1) / 2) :=
    Finset.mem_range.mpr (by omega)
  have split := Finset.sum_erase_add _ (fun i => (segment.padded.load16 (2 * i)).toNat) among
  have rest : ∑ i ∈ (Finset.range ((segment.length.toNat + 1) / 2)).erase 3,
      (segment.padded.load16 (2 * i)).toNat = ∑ i ∈ Finset.range ((segment.length.toNat + 1) / 2),
        (if i ≠ 3 then (segment.padded.load16 (2 * i)).toNat else 0) := by
    rw [← Finset.sum_filter, Finset.filter_ne']
  rw [sum_words, total, field, ← split, rest]
  ring

/-- The length of a segment is not zero, and it is part of it. -/
theorem total_pos (long : 8 ≤ segment.length.toNat) (part : ℕ) : 0 < segment.total part := by
  have among : 2 ∈ Finset.range ((segment.length.toNat + 1) / 2) :=
    Finset.mem_range.mpr (by omega)
  have field : 0 < (segment.padded.load16 (2 * 2)).toNat := by
    have length : segment.length.toNat =
        256 * (segment.memory 4).toNat + (segment.memory 5).toNat :=
      segment.memory.toNat_swap16_load16 4
    have fourth : segment.padded 4 = segment.memory 4 := if_pos (by omega)
    have fifth : segment.padded 5 = segment.memory 5 := if_pos (by omega)
    rw [Memory.toNat_load16, fourth, fifth]
    omega
  have below := Finset.single_le_sum (fun _ _ => Nat.zero_le _) among
    (f := fun i => if i ≠ 3 then (segment.padded.load16 (2 * i)).toNat else 0)
  rw [if_pos (by decide)] at below
  unfold total
  omega

theorem toNat_calculateChecksum (long : 8 ≤ segment.length.toNat) (part : UInt16) :
    (segment.calculateChecksum part).toNat =
      65535 - OnesComplement.swap 256 (OnesComplement.reduce 65535 (segment.total part.toNat)) := by
  have counted := total_eq long part.toNat
  have bound := sum_toNat_le segment.words
  have count : segment.words.length = segment.length.toNat := by simp [words]
  have small := segment.length.toNat_lt
  have part_small := part.toNat_lt
  have added := toNat_foldl_add segment.words part.toUInt32 (by
    rw [UInt16.toNat_toUInt32]
    omega)
  rw [UInt16.toNat_toUInt32, counted] at added
  have subtracted : (segment.words.foldl (fun sum word => sum + word.toUInt32) part.toUInt32 -
      segment.rawChecksum.toUInt32).toNat = segment.total part.toNat := by
    rw [UInt32.toNat_sub_of_le _ _ (by rw [UInt32.le_iff_toNat_le, added]; simp), added]
    simp
  have folded : OnesComplement.carry 65536 (segment.total part.toNat) ≤ 2 * 65535 := by
    unfold OnesComplement.carry
    omega
  unfold calculateChecksum
  rw [toNat_complement_fold_fold, subtracted]
  rwa [subtracted]

theorem bigEndianWords_le : ∀ word ∈ segment.bigEndianWords, word ≤ 65535 := by
  intro word mem
  obtain ⟨i, -, rfl⟩ := List.mem_map.mp mem
  split
  · exact Memory.bigEndian_le _ _
  · exact Nat.zero_le _

/-- In network order the words of the segment come into their own. -/
theorem total_modEq (part : ℕ) : 256 * segment.total part ≡
    256 * part + 256 * segment.excess + segment.bigEndianWords.sum [MOD 65535] := by
  have loaded := segment.padded.mul_sum_load16_modEq ((segment.length.toNat + 1) / 2) (· ≠ 3)
  have listed : ∑ i ∈ Finset.range ((segment.length.toNat + 1) / 2),
      (if i ≠ 3 then segment.padded.bigEndian (2 * i) else 0) = segment.bigEndianWords.sum := rfl
  rw [listed] at loaded
  calc 256 * segment.total part
      = 256 * part + 256 * segment.excess +
        256 * ∑ i ∈ Finset.range ((segment.length.toNat + 1) / 2),
          (if i ≠ 3 then (segment.padded.load16 (2 * i)).toNat else 0) := by
        unfold total
        ring
    _ ≡ 256 * part + 256 * segment.excess + segment.bigEndianWords.sum [MOD 65535] :=
        loaded.add_left _

/-- When the code computes the checksum over a pseudo-header: its own contribution and
the memory behind the segment have to make up for the pseudo-header. -/
theorem calculateChecksum_eq_iff (long : 8 ≤ segment.length.toNat) (part : UInt16)
    (pseudoheader : List ℕ) (words : ∀ word ∈ pseudoheader, word ≤ 65535)
    (pos : 0 < pseudoheader.sum) :
    (segment.calculateChecksum part).toNat = segment.checksum pseudoheader ↔
      256 * part.toNat + 256 * segment.excess ≡ pseudoheader.sum [MOD 65535] := by
  have digits : ∀ word ∈ pseudoheader ++ segment.bigEndianWords, word ≤ 65535 := fun word mem =>
    (List.mem_append.mp mem).elim (words word) (bigEndianWords_le word)
  have reduced_le := OnesComplement.reduce_le (m := 65535) (n := segment.total part.toNat)
    (by decide)
  have swapped_lt := OnesComplement.swap_lt (c := 256) (Nat.lt_succ_of_le reduced_le)
  have right_le := OnesComplement.reduce_le (m := 65535)
    (n := (pseudoheader ++ segment.bigEndianWords).sum) (by decide)
  have right := OnesComplement.sum_eq_reduce _ digits
  -- Both sides are complements of words
  have complements : ∀ x y : ℕ, x ≤ 65535 → y ≤ 65535 → (65535 - x = 65535 - y ↔ x = y) := by
    omega
  rw [toNat_calculateChecksum long, checksum, complements _ _ (by omega) (by rwa [right]),
    OnesComplement.swap_reduce_eq_sum_iff (c := 256) (by decide) (total_pos long part.toNat) _
      digits (by rw [List.sum_append]; omega), List.sum_append]
  constructor
  · intro congr
    exact Nat.ModEq.add_right_cancel' _ ((total_modEq part.toNat).symm.trans congr)
  · intro congr
    exact (total_modEq part.toNat).trans (congr.add_right _)

/-! ## What the code reads -/

/-- Nothing behind twice the length of the segment is read. -/
theorem calculateChecksum_congr (long : 8 ≤ segment.length.toNat) {other : UdpSegment}
    (agree : ∀ offset < 2 * segment.length.toNat, other.memory offset = segment.memory offset) :
    other.rawLength = segment.rawLength ∧
      other.calculateChecksum = segment.calculateChecksum := by
  have load : ∀ offset, offset + 1 < 2 * segment.length.toNat →
      other.memory.load16 offset = segment.memory.load16 offset := by
    intro offset inside
    unfold Memory.load16
    rw [agree offset (by omega), agree (offset + 1) inside]
  have lengths : other.rawLength = segment.rawLength := load 4 (by omega)
  have checksums : other.rawChecksum = segment.rawChecksum := load 6 (by omega)
  have same : other.words = segment.words := by
    unfold words length
    rw [lengths]
    refine List.map_congr_left fun i mem => load (2 * i) ?_
    have inside := List.mem_range.mp mem
    unfold length at inside ⊢
    omega
  refine ⟨lengths, funext fun part => ?_⟩
  unfold calculateChecksum
  rw [same, checksums]

/-- Equal checksums come from equal sums, up to the carries. -/
theorem total_modEq_of_calculateChecksum_eq {other : UdpSegment}
    (long : 8 ≤ segment.length.toNat) (long' : 8 ≤ other.length.toNat) {part : UInt16}
    (same : other.calculateChecksum part = segment.calculateChecksum part) :
    other.total part.toNat ≡ segment.total part.toNat [MOD 65535] := by
  have words : ∀ n, OnesComplement.reduce 65535 n < 256 * 256 := fun n =>
    Nat.lt_succ_of_le (OnesComplement.reduce_le (by decide))
  have left := words (other.total part.toNat)
  have right := words (segment.total part.toNat)
  have left' := OnesComplement.swap_lt left
  have right' := OnesComplement.swap_lt right
  have complements := congrArg UInt16.toNat same
  rw [toNat_calculateChecksum long', toNat_calculateChecksum long] at complements
  have swapped : OnesComplement.swap 256 (OnesComplement.reduce 65535 (other.total part.toNat)) =
      OnesComplement.swap 256 (OnesComplement.reduce 65535 (segment.total part.toNat)) := by
    omega
  have reduced := congrArg (OnesComplement.swap 256) swapped
  rw [OnesComplement.swap_swap left, OnesComplement.swap_swap right] at reduced
  exact OnesComplement.reduce_modEq.symm.trans (reduced ▸ OnesComplement.reduce_modEq)

/-- The segment in a memory in which the last byte that the code reads is another one. -/
def withLast (segment : UdpSegment) (value : UInt8) : UdpSegment :=
  ⟨segment.memory.store8 (2 * segment.length.toNat - 1) value⟩

theorem withLast_agrees {value : UInt8} {offset : ℕ}
    (inside : offset < 2 * segment.length.toNat - 1) :
    (segment.withLast value).memory offset = segment.memory offset :=
  Memory.store8_outside _ (Nat.ne_of_lt inside)

/-- The fields of the segment are in front of the byte. -/
theorem rawLength_withLast (long : 8 ≤ segment.length.toNat) (value : UInt8) :
    (segment.withLast value).rawLength = segment.rawLength :=
  Memory.load16_congr (withLast_agrees (by omega)) (withLast_agrees (by omega))

/-- The byte has the weight of a high byte in the words that the host loads. -/
theorem total_withLast (long : 8 ≤ segment.length.toNat) (value : UInt8) (part : ℕ) :
    (segment.withLast value).total part +
        256 * (segment.memory (2 * segment.length.toNat - 1)).toNat =
      segment.total part + 256 * value.toNat := by
  have lengths : (segment.withLast value).length = segment.length :=
    congrArg swap16 (rawLength_withLast long value)
  have padded : (segment.withLast value).padded = segment.padded := by
    funext offset
    unfold UdpSegment.padded
    rw [lengths]
    split
    · exact withLast_agrees (by omega)
    · rfl
  obtain ⟨before, last⟩ : ∃ before, segment.length.toNat = before + 1 :=
    ⟨segment.length.toNat - 1, by omega⟩
  have offset : before + 1 + before = 2 * segment.length.toNat - 1 := by omega
  have odd : (before + 1 + before) % 2 ≠ 0 := by omega
  -- All bytes behind the segment but the last are the same
  have same : ∀ i ∈ Finset.range before,
      (segment.withLast value).memory.weighted (before + 1 + i) =
        segment.memory.weighted (before + 1 + i) := by
    intro i mem
    have inside := Finset.mem_range.mp mem
    unfold Memory.weighted
    rw [withLast_agrees (by omega)]
  have new : (segment.withLast value).memory (before + 1 + before) = value := by
    rw [offset]
    exact Memory.store8_same value
  unfold total excess
  rw [lengths, padded, ← offset, last, Finset.sum_range_succ, Finset.sum_range_succ,
    Finset.sum_congr rfl same]
  unfold Memory.weighted
  rw [if_neg odd, new]
  ring

/-- Every bound on what the code reads is at least twice the length of the segment, since the
last byte counts. -/
theorem le_of_determined (long : 8 ≤ segment.length.toNat) (part : UInt16) {reach : ℕ}
    (determined : ∀ other : UdpSegment,
      (∀ offset < reach, other.memory offset = segment.memory offset) →
      other.rawLength = segment.rawLength →
      other.calculateChecksum part = segment.calculateChecksum part) :
    2 * segment.length.toNat ≤ reach := by
  by_contra short
  -- Any other byte would have to be congruent to the one that is there
  have bytes : ∀ value : UInt8,
      value.toNat ≡ (segment.memory (2 * segment.length.toNat - 1)).toNat [MOD 65535] := by
    intro value
    have lengths := rawLength_withLast long value
    have same := determined (segment.withLast value)
      (fun offset inside => withLast_agrees (by omega)) lengths
    have long' : 8 ≤ (segment.withLast value).length.toNat := by
      unfold length at long ⊢
      rwa [lengths]
    have totals := total_modEq_of_calculateChecksum_eq long long' same
    have moved := (totals.add_right
      (256 * (segment.memory (2 * segment.length.toNat - 1)).toNat)).symm
    rw [total_withLast long] at moved
    have weighted := (Nat.ModEq.add_left_cancel' _ moved).symm.mul_left 256
    have cancel := fun n => OnesComplement.mul_mul_modEq (c := 256) (x := n) (by decide)
    exact (cancel _).symm.trans (weighted.trans (cancel _))
  have zero := Nat.ModEq.eq_of_lt_of_lt (bytes 0) (by decide)
    (Nat.lt_trans (UInt8.toNat_lt _) (by decide))
  have one := Nat.ModEq.eq_of_lt_of_lt (bytes 1) (by decide)
    (Nat.lt_trans (UInt8.toNat_lt _) (by decide))
  exact absurd (zero.trans one.symm) (by decide)

/-! ## Pseudo-headers -/

/-- What is cut off of the sum of a pseudo-header: its carry is added back once, and the
result may have another. -/
def cutOff (sum : ℕ) : ℕ := if OnesComplement.carry 65536 sum < 65536 then 0 else 1

/-- Adding it would have been the second carry. -/
theorem truncated_add_cutOff (sum : UInt32) : (fold sum).toUInt16.toNat + cutOff sum.toNat =
    OnesComplement.carry 65536 (OnesComplement.carry 65536 sum.toNat) := by
  have bound := sum.toNat_lt
  rw [UInt32.toNat_toUInt16, toNat_fold]
  unfold cutOff OnesComplement.carry
  split <;> omega

theorem truncated_modEq (sum : UInt32) :
    (fold sum).toUInt16.toNat + cutOff sum.toNat ≡ sum.toNat [MOD 65535] := by
  rw [truncated_add_cutOff]
  exact OnesComplement.carry_modEq.trans OnesComplement.carry_modEq

/-- The pseudo-header of RFC 768. -/
def pseudoheaderIpv4 (wrapper : Ipv4Packet) : List ℕ :=
  [wrapper.memory.bigEndian 12, wrapper.memory.bigEndian 14, wrapper.memory.bigEndian 16,
    wrapper.memory.bigEndian 18, 17, segment.length.toNat]

/-- The words of both addresses of an IPv6 header. -/
def addressWords (wrapper : Ipv6Packet) : List ℕ :=
  (List.range 16).map fun i => wrapper.memory.bigEndian (8 + 2 * i)

/-- The pseudo-header of RFC 8200, in which the length and the next header have four bytes. -/
def pseudoheaderIpv6 (wrapper : Ipv6Packet) : List ℕ :=
  addressWords wrapper ++ [0, segment.length.toNat, 0, 17]

theorem pseudoheaderIpv4_le (wrapper : Ipv4Packet) :
    ∀ word ∈ segment.pseudoheaderIpv4 wrapper, word ≤ 65535 := by
  have length := segment.length.toNat_lt
  simp only [pseudoheaderIpv4, List.forall_mem_cons, Memory.bigEndian_le, true_and]
  simp
  omega

theorem pseudoheaderIpv6_le (wrapper : Ipv6Packet) :
    ∀ word ∈ segment.pseudoheaderIpv6 wrapper, word ≤ 65535 := by
  have length := segment.length.toNat_lt
  intro word mem
  obtain address | rest := List.mem_append.mp mem
  · obtain ⟨i, -, rfl⟩ := List.mem_map.mp address
    exact Memory.bigEndian_le _ _
  · simp at rest
    omega

theorem pseudoheaderIpv4_sum_le (wrapper : Ipv4Packet) :
    (segment.pseudoheaderIpv4 wrapper).sum ≤ 17 + 5 * 65535 := by
  have length := segment.length.toNat_lt
  have sourceHigh := wrapper.memory.bigEndian_le 12
  have sourceLow := wrapper.memory.bigEndian_le 14
  have destHigh := wrapper.memory.bigEndian_le 16
  have destLow := wrapper.memory.bigEndian_le 18
  simp only [pseudoheaderIpv4, List.sum_cons, List.sum_nil]
  omega

/-- The sum over an IPv4 header is the one of its pseudo-header. -/
theorem toNat_pseudoheaderSumIpv4 (wrapper : Ipv4Packet) :
    (segment.pseudoheaderSumIpv4 wrapper).toNat = (segment.pseudoheaderIpv4 wrapper).sum := by
  have upper : ∀ offset, (swap32 (wrapper.memory.load32 offset) >>> (16 : UInt32)).toNat =
      wrapper.memory.bigEndian offset := by
    intro offset
    have low := wrapper.memory.bigEndian_le (offset + 2)
    rw [UInt32.toNat_shiftRight, Memory.toNat_swap32_load32]
    simp only [UInt32.reduceToNat, Nat.reduceMod, Nat.shiftRight_eq_div_pow]
    omega
  have lower : ∀ offset, (swap32 (wrapper.memory.load32 offset) &&& (0xffff : UInt32)).toNat =
      wrapper.memory.bigEndian (offset + 2) := by
    intro offset
    have low := wrapper.memory.bigEndian_le (offset + 2)
    have mask := Nat.and_two_pow_sub_one_eq_mod (swap32 (wrapper.memory.load32 offset)).toNat 16
    rw [UInt32.toNat_and]
    refine mask.trans ?_
    rw [Memory.toNat_swap32_load32]
    omega
  have bound : (segment.pseudoheaderIpv4 wrapper).sum ≤ 17 + 5 * 65535 :=
    pseudoheaderIpv4_sum_le wrapper
  simp only [pseudoheaderIpv4, List.sum_cons, List.sum_nil] at bound
  simp only [pseudoheaderSumIpv4, Ipv4Packet.sourceAddress, Ipv4Packet.destinationAddress,
    Ipv4Packet.rawSourceAddress, Ipv4Packet.rawDestinationAddress, pseudoheaderIpv4,
    UInt32.toNat_add, UInt16.toNat_toUInt32, upper, lower, UInt32.reduceToNat, Nat.reduceAdd,
    List.sum_cons, List.sum_nil]
  omega

/-- The sum over an IPv6 header: the addresses are in host order, the rest is not. -/
theorem toNat_pseudoheaderSumIpv6 (wrapper : Ipv6Packet) :
    (segment.pseudoheaderSumIpv6 wrapper).toNat =
      256 * 17 + OnesComplement.swap 256 segment.length.toNat + (addressWords wrapper).sum := by
  have length := segment.rawLength.toNat_lt
  have swapped : OnesComplement.swap 256 segment.length.toNat = segment.rawLength.toNat := by
    unfold UdpSegment.length
    rw [← toNat_swap16, swap16_swap16]
  have start : ((swap16 17).toUInt32 + segment.rawLength.toUInt32).toNat =
      256 * 17 + segment.rawLength.toNat := by
    rw [UInt32.toNat_add, UInt16.toNat_toUInt32, UInt16.toNat_toUInt32, toNat_swap16]
    simp only [UInt16.reduceToNat, OnesComplement.swap]
    omega
  have addresses : (((List.range 16).map fun i => wrapper.memory.load16 (8 + 2 * i)).map
      swap16).map UInt16.toNat =
      addressWords wrapper := by
    rw [List.map_map, List.map_map]
    exact List.map_congr_left fun i _ => wrapper.memory.toNat_swap16_load16 (8 + 2 * i)
  have bound := sum_toNat_le
    (((List.range 16).map fun i => wrapper.memory.load16 (8 + 2 * i)).map swap16)
  have added := toNat_foldl_add
    (((List.range 16).map fun i => wrapper.memory.load16 (8 + 2 * i)).map swap16)
    ((swap16 17).toUInt32 + segment.rawLength.toUInt32) (by
      rw [start]
      simp only [List.length_map, List.length_range] at bound
      omega)
  rw [addresses, start, List.foldl_map, ← swapped] at added
  exact added

/-! ## The part that is passed on -/

/-- The `pseudoheader_part` of `calculate_checksum(ipv4_packet const &)`. -/
def pseudoheaderPartIpv4 (wrapper : Ipv4Packet) : UInt16 :=
  swap16 (fold (segment.pseudoheaderSumIpv4 wrapper)).toUInt16

/-- What is passed on and what is cut off of it are the folded sum. -/
theorem pseudoheaderPartIpv4_add_cutOff (wrapper : Ipv4Packet) :
    (swap16 (segment.pseudoheaderPartIpv4 wrapper)).toNat +
        cutOff (segment.pseudoheaderIpv4 wrapper).sum =
      OnesComplement.sum 65536 (segment.pseudoheaderIpv4 wrapper) := by
  have bound : (segment.pseudoheaderIpv4 wrapper).sum ≤ 17 + 5 * 65535 :=
    pseudoheaderIpv4_sum_le wrapper
  rw [pseudoheaderPartIpv4, swap16_swap16, ← toNat_pseudoheaderSumIpv4, truncated_add_cutOff,
    toNat_pseudoheaderSumIpv4, OnesComplement.sum_eq_reduce _ (pseudoheaderIpv4_le wrapper)]
  refine OnesComplement.carry_carry_eq_reduce ?_
  unfold OnesComplement.carry
  omega

/-- **The pseudo-header is folded completely exactly if one carry suffices**: then the part that
is passed on is the one's complement sum of the pseudo-header. Otherwise it was truncated, is
less by one and does not even have the same residue. -/
theorem pseudoheader_folded_iff (segment : UdpSegment) (wrapper : Ipv4Packet) :
    segment.calculateChecksumIpv4 wrapper =
      segment.calculateChecksum (segment.pseudoheaderPartIpv4 wrapper) ∧
    ((swap16 (segment.pseudoheaderPartIpv4 wrapper)).toNat =
        OnesComplement.sum 65536 (segment.pseudoheaderIpv4 wrapper) ↔
      OnesComplement.carry 65536 (segment.pseudoheaderIpv4 wrapper).sum < 65536) ∧
    ((swap16 (segment.pseudoheaderPartIpv4 wrapper)).toNat ≡
        (segment.pseudoheaderIpv4 wrapper).sum [MOD 65535] ↔
      OnesComplement.carry 65536 (segment.pseudoheaderIpv4 wrapper).sum < 65536) := by
  have whole := @pseudoheaderPartIpv4_add_cutOff segment wrapper
  unfold cutOff at whole
  refine ⟨rfl, ?_, ?_⟩
  · split at whole <;> omega
  · have residue : OnesComplement.sum 65536 (segment.pseudoheaderIpv4 wrapper) ≡
        (segment.pseudoheaderIpv4 wrapper).sum [MOD 65535] := by
      rw [OnesComplement.sum_eq_reduce _ (pseudoheaderIpv4_le wrapper)]
      exact OnesComplement.reduce_modEq
    rw [← whole] at residue
    split at residue
    · rename_i fits
      exact iff_of_true residue fits
    · rename_i carries
      refine iff_of_false (fun congr => ?_) carries
      -- Otherwise one would be a multiple of 65535
      have one : (swap16 (segment.pseudoheaderPartIpv4 wrapper)).toNat + 1 ≡
          (swap16 (segment.pseudoheaderPartIpv4 wrapper)).toNat + 0 [MOD 65535] :=
        residue.trans congr.symm
      exact absurd (Nat.ModEq.add_left_cancel' _ one) (by decide)

/-- **Over IPv4 the checksum is right exactly if what the memory behind the segment adds makes
up for what is cut off of the pseudo-header.** That memory is always read: the bytes below a
bound determine the result exactly if the bound is at least twice the length. -/
theorem checksum_ipv4 (wrapper : Ipv4Packet) (long : 8 ≤ segment.length.toNat) :
    ((segment.calculateChecksumIpv4 wrapper).toNat =
        segment.checksum (segment.pseudoheaderIpv4 wrapper) ↔
      256 * segment.excess ≡ cutOff (segment.pseudoheaderIpv4 wrapper).sum [MOD 65535]) ∧
    ∀ reach, (∀ other : UdpSegment,
        (∀ offset < reach, other.memory offset = segment.memory offset) →
        other.calculateChecksumIpv4 wrapper = segment.calculateChecksumIpv4 wrapper) ↔
      2 * segment.length.toNat ≤ reach := by
  constructor
  · have kept := truncated_modEq (segment.pseudoheaderSumIpv4 wrapper)
    rw [toNat_pseudoheaderSumIpv4] at kept
    have part := mul_swap16_modEq (fold (segment.pseudoheaderSumIpv4 wrapper)).toUInt16
    have pos : 0 < (segment.pseudoheaderIpv4 wrapper).sum := by
      simp [pseudoheaderIpv4]
    unfold calculateChecksumIpv4
    rw [calculateChecksum_eq_iff long _ _ (pseudoheaderIpv4_le wrapper) pos]
    constructor
    · intro congr
      exact Nat.ModEq.add_left_cancel' _ ((part.add_right _).symm.trans (congr.trans kept.symm))
    · intro congr
      exact (part.add congr).trans kept
  · intro reach
    constructor
    · intro determined
      apply le_of_determined long (segment.pseudoheaderPartIpv4 wrapper)
      intro other agree lengths
      have same := determined other agree
      unfold calculateChecksumIpv4 pseudoheaderSumIpv4 length at same
      unfold pseudoheaderPartIpv4 pseudoheaderSumIpv4 length
      rwa [lengths] at same
    · intro enough other agree
      obtain ⟨lengths, same⟩ := calculateChecksum_congr long fun offset inside =>
        agree offset (Nat.lt_of_lt_of_le inside enough)
      unfold calculateChecksumIpv4 pseudoheaderSumIpv4 length
      rw [same, lengths]

/-- Memory that is zero but for a few bytes. -/
def bytes (content : List (ℕ × UInt8)) : Memory := fun offset => (content.lookup offset).getD 0

/-- An empty datagram, with zeros behind it. -/
def emptyDatagram : UdpSegment := ⟨bytes [(5, 8)]⟩

/-- A datagram with two bytes, with zeros behind it. -/
def twoBytes : UdpSegment := ⟨bytes [(5, 10), (8, 104), (9, 105)]⟩

/-- From `10.0.0.1` to `10.0.0.2` the checksum is right, but not for every memory behind the
segment. -/
theorem checksum_ipv4_twoBytes :
    8 ≤ twoBytes.length.toNat ∧
    (twoBytes.calculateChecksumIpv4 ⟨bytes [(12, 10), (15, 1), (16, 10), (19, 2)]⟩).toNat =
      twoBytes.checksum
        (twoBytes.pseudoheaderIpv4 ⟨bytes [(12, 10), (15, 1), (16, 10), (19, 2)]⟩) ∧
    ¬ ∀ other : UdpSegment,
      (∀ offset < twoBytes.length.toNat, other.memory offset = twoBytes.memory offset) →
      other.calculateChecksumIpv4 ⟨bytes [(12, 10), (15, 1), (16, 10), (19, 2)]⟩ =
        twoBytes.calculateChecksumIpv4 ⟨bytes [(12, 10), (15, 1), (16, 10), (19, 2)]⟩ := by
  have long : 8 ≤ twoBytes.length.toNat := by decide
  obtain ⟨value, reads⟩ :=
    checksum_ipv4 ⟨bytes [(12, 10), (15, 1), (16, 10), (19, 2)]⟩ long
  refine ⟨long, value.mpr (by decide), fun determined => ?_⟩
  exact absurd ((reads _).mp determined) (by decide)

/-- From `10.0.0.0` to `10.0.0.0` nothing is carried. -/
theorem pseudoheader_folded_iff_emptyDatagram :
    (swap16 (emptyDatagram.pseudoheaderPartIpv4 ⟨bytes [(12, 10), (16, 10)]⟩)).toNat =
      OnesComplement.sum 65536
        (emptyDatagram.pseudoheaderIpv4 ⟨bytes [(12, 10), (16, 10)]⟩) :=
  (pseudoheader_folded_iff emptyDatagram ⟨bytes [(12, 10), (16, 10)]⟩).2.1.mpr (by decide)

/-- The halves of `255.255.255.231`, the protocol and the length `8` add up to `0x1ffff`. The
carry makes that `0x10000`, of which nothing is left. -/
theorem pseudoheader_truncated :
    (swap16 (emptyDatagram.pseudoheaderPartIpv4
        ⟨bytes [(12, 255), (13, 255), (14, 255), (15, 231)]⟩)).toNat = 0 ∧
    OnesComplement.sum 65536 (emptyDatagram.pseudoheaderIpv4
        ⟨bytes [(12, 255), (13, 255), (14, 255), (15, 231)]⟩) = 1 := by
  decide

/-- A byte behind an empty datagram is summed, and from `255.255.255.231` to `0.0.0.0` the
carry of the pseudo-header is lost. -/
theorem checksum_ipv4_wrong :
    -- The same segment with another byte behind it
    (UdpSegment.mk (bytes [(5, 8), (9, 1)])).length = 8 ∧
    (∀ offset < 8, bytes [(5, 8), (9, 1)] offset = emptyDatagram.memory offset) ∧
    (UdpSegment.mk (bytes [(5, 8), (9, 1)])).calculateChecksumIpv4 ⟨bytes []⟩ ≠
      emptyDatagram.calculateChecksumIpv4 ⟨bytes []⟩ ∧
    ((UdpSegment.mk (bytes [(5, 8), (9, 1)])).calculateChecksumIpv4 ⟨bytes []⟩).toNat ≠
      (UdpSegment.mk (bytes [(5, 8), (9, 1)])).checksum
        ((UdpSegment.mk (bytes [(5, 8), (9, 1)])).pseudoheaderIpv4 ⟨bytes []⟩) ∧
    -- Zeros behind the segment
    (emptyDatagram.calculateChecksumIpv4
        ⟨bytes [(12, 255), (13, 255), (14, 255), (15, 231)]⟩).toNat = 65527 ∧
    emptyDatagram.checksum (emptyDatagram.pseudoheaderIpv4
        ⟨bytes [(12, 255), (13, 255), (14, 255), (15, 231)]⟩) = 65526 := by
  decide

/-- **Over IPv6 the checksum is right exactly if the addresses, with their bytes exchanged, the
memory behind the segment and what is cut off make up for each other.** What is cut off is
that of a sum in which the protocol and the length have their bytes exchanged and the
addresses have not. -/
theorem checksum_ipv6 (wrapper : Ipv6Packet) (long : 8 ≤ segment.length.toNat) :
    (segment.calculateChecksumIpv6 wrapper).toNat =
        segment.checksum (segment.pseudoheaderIpv6 wrapper) ↔
      256 * ((addressWords wrapper).sum + segment.excess) ≡
        (addressWords wrapper).sum + 256 * cutOff
          (256 * 17 + OnesComplement.swap 256 segment.length.toNat + (addressWords wrapper).sum)
        [MOD 65535] := by
  have sum : (segment.pseudoheaderIpv6 wrapper).sum =
      (addressWords wrapper).sum + (segment.length.toNat + 17) := by
    unfold pseudoheaderIpv6
    rw [List.sum_append]
    simp
  have kept := (truncated_modEq (segment.pseudoheaderSumIpv6 wrapper)).mul_left 256
  rw [toNat_pseudoheaderSumIpv6] at kept
  generalize (addressWords wrapper).sum = addresses at *
  -- The length and the protocol, which the code adds as they are in memory
  have rest : 256 * (256 * 17 + OnesComplement.swap 256 segment.length.toNat + addresses) ≡
      256 * addresses + (segment.length.toNat + 17) [MOD 65535] := by
    have loaded : OnesComplement.swap 256 segment.length.toNat ≡
        256 * segment.length.toNat [MOD 65535] := OnesComplement.swap_modEq (by decide)
    calc 256 * (256 * 17 + OnesComplement.swap 256 segment.length.toNat + addresses)
        = 256 * addresses + 256 * (256 * 17 + OnesComplement.swap 256 segment.length.toNat) := by
          ring
      _ ≡ 256 * addresses + 256 * (256 * 17 + 256 * segment.length.toNat) [MOD 65535] :=
          ((loaded.add_left _).mul_left 256).add_left _
      _ = 256 * addresses + 256 * (256 * (segment.length.toNat + 17)) := by ring
      _ ≡ 256 * addresses + (segment.length.toNat + 17) [MOD 65535] :=
          (OnesComplement.mul_mul_modEq (c := 256) (by decide)).add_left _
  unfold calculateChecksumIpv6
  rw [calculateChecksum_eq_iff long _ _ (pseudoheaderIpv6_le wrapper) (by rw [sum]; omega), sum]
  -- With what is cut off added, both sides are in terms of the addresses
  have carried := kept.trans rest
  generalize (fold (segment.pseudoheaderSumIpv6 wrapper)).toUInt16.toNat = part at *
  generalize cutOff _ = cut at *
  generalize segment.length.toNat + 17 = fields at *
  constructor
  · intro congr
    refine Nat.ModEq.add_right_cancel' fields ?_
    calc 256 * (addresses + segment.excess) + fields
        = 256 * addresses + fields + 256 * segment.excess := by ring
      _ ≡ 256 * (part + cut) + 256 * segment.excess [MOD 65535] := carried.symm.add_right _
      _ = 256 * part + 256 * segment.excess + 256 * cut := by ring
      _ ≡ addresses + fields + 256 * cut [MOD 65535] := congr.add_right _
      _ = addresses + 256 * cut + fields := by ring
  · intro congr
    refine Nat.ModEq.add_right_cancel' (256 * cut) ?_
    calc 256 * part + 256 * segment.excess + 256 * cut
        = 256 * (part + cut) + 256 * segment.excess := by ring
      _ ≡ 256 * addresses + fields + 256 * segment.excess [MOD 65535] := carried.add_right _
      _ = 256 * (addresses + segment.excess) + fields := by ring
      _ ≡ addresses + 256 * cut + fields [MOD 65535] := congr.add_right _
      _ = addresses + fields + 256 * cut := by ring

/-- From `::101` to `::202` exchanging the bytes of the addresses changes nothing. -/
theorem checksum_ipv6_twoBytes :
    8 ≤ twoBytes.length.toNat ∧
    (twoBytes.calculateChecksumIpv6 ⟨bytes [(22, 1), (23, 1), (38, 2), (39, 2)]⟩).toNat =
      twoBytes.checksum
        (twoBytes.pseudoheaderIpv6 ⟨bytes [(22, 1), (23, 1), (38, 2), (39, 2)]⟩) :=
  ⟨by decide,
    (checksum_ipv6 ⟨bytes [(22, 1), (23, 1), (38, 2), (39, 2)]⟩ (by decide)).mpr (by decide)⟩

/-- From `::1` to `::1` the addresses add `2` instead of `512` to the sum of the words as they
are in memory. -/
theorem checksum_ipv6_wrong :
    emptyDatagram.length = 8 ∧ emptyDatagram.excess = 0 ∧
    (emptyDatagram.calculateChecksumIpv6 ⟨bytes [(23, 1), (39, 1)]⟩).toNat = 64990 ∧
    emptyDatagram.checksum (emptyDatagram.pseudoheaderIpv6 ⟨bytes [(23, 1), (39, 1)]⟩) =
      65500 := by
  decide

end UdpSegment

end Shoc.Eth

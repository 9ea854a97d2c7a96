/-
# Spans of headers

The sizes of options, payload and data are differences of fields that came with the
packet. They are computed as `int` and become `size_t`, so a difference that is negative
becomes a size close to `2^64`. The lengths that the headers declare bound the spans
exactly if none of the differences is.
-/

import Shoc.Eth.Words

namespace Shoc.Eth

/-- The conversion from `int` to `size_t`. -/
theorem toNat_ofInt_sub (x y : ℕ) (small : x < 2 ^ 16) (small' : y < 2 ^ 16) :
    (UInt64.ofInt (x - y)).toNat = if y ≤ x then x - y else 2 ^ 64 - (y - x) := by
  rw [UInt64.ofInt, UInt64.toNat_ofNat']
  split <;> omega

namespace Ipv4Packet

/-- No size underflows, the ranges do not wrap around, and they lie within the lengths that the
header declares. -/
structure Contained (packet : Ipv4Packet) : Prop where
  options : (packet.optionsCount.toNat : ℤ) = packet.ihl.toNat - 5
  count : packet.optionsCount.toNat ≤ 10
  base : packet.payloadBase.toNat = 20 + 4 * packet.optionsCount.toNat
  length : (packet.payloadLength.toNat : ℤ) = packet.totalLength.toNat - packet.ihl.toNat * 4
  inside : packet.payloadBase.toNat + packet.payloadLength.toNat ≤
    max packet.totalLength.toNat (packet.ihl.toNat * 4)

variable {packet : Ipv4Packet}

theorem toNat_optionsCount : packet.optionsCount.toNat =
    if 5 ≤ packet.ihl.toNat then packet.ihl.toNat - 5 else 2 ^ 64 - (5 - packet.ihl.toNat) := by
  have short := packet.ihl_lt
  exact toNat_ofInt_sub _ 5 (by omega) (by decide)

theorem toNat_payloadLength : packet.payloadLength.toNat =
    if packet.ihl.toNat * 4 ≤ packet.totalLength.toNat then
      packet.totalLength.toNat - packet.ihl.toNat * 4
    else 2 ^ 64 - (packet.ihl.toNat * 4 - packet.totalLength.toNat) := by
  have short := packet.ihl_lt
  exact toNat_ofInt_sub _ (packet.ihl.toNat * 4) packet.totalLength.toNat_lt (by omega)

/-- The payload always begins where the length of the header says, if the address wraps around
or not. -/
theorem toNat_payloadBase : packet.payloadBase.toNat = packet.ihl.toNat * 4 := by
  have short := packet.ihl_lt
  have count := packet.toNat_optionsCount
  rw [payloadBase, UInt64.toNat_add, UInt64.toNat_mul]
  simp only [UInt64.reduceToNat]
  split at count <;> omega

theorem contained_iff : packet.Contained ↔
    5 ≤ packet.ihl.toNat ∧ packet.ihl.toNat * 4 ≤ packet.totalLength.toNat := by
  have short := packet.ihl_lt
  have count := packet.toNat_optionsCount
  have length := packet.toNat_payloadLength
  have base := packet.toNat_payloadBase
  constructor
  · intro contained
    have options := contained.options
    have payload := contained.length
    split at count <;> split at length <;> omega
  · rintro ⟨long, whole⟩
    rw [if_pos long] at count
    rw [if_pos whole] at length
    constructor <;> omega

end Ipv4Packet

namespace UdpSegment

/-- The size of the data does not underflow, and lies within the length that the header
declares. -/
structure Contained (segment : UdpSegment) : Prop where
  size : (segment.dataSize.toNat : ℤ) = segment.length.toNat - 8
  inside : segment.dataSize.toNat ≤ segment.length.toNat

variable {segment : UdpSegment}

theorem toNat_dataSize : segment.dataSize.toNat =
    if 8 ≤ segment.length.toNat then segment.length.toNat - 8
    else 2 ^ 64 - (8 - segment.length.toNat) :=
  toNat_ofInt_sub _ 8 segment.length.toNat_lt (by decide)

theorem contained_iff : segment.Contained ↔ 8 ≤ segment.length.toNat := by
  have size := segment.toNat_dataSize
  constructor
  · intro contained
    have positive := contained.size
    split at size <;> omega
  · intro long
    rw [if_pos long] at size
    constructor <;> omega

end UdpSegment

/-- **Spans stay inside of the packet exactly if the lengths are consistent**: the header is at
least as long as its fields, the packet as long as its header, and the segment as long as
its fields. -/
theorem spans_contained_iff (packet : Ipv4Packet) (segment : UdpSegment) :
    (packet.Contained ↔
      5 ≤ packet.ihl.toNat ∧ packet.ihl.toNat * 4 ≤ packet.totalLength.toNat) ∧
    (segment.Contained ↔ 8 ≤ segment.length.toNat) :=
  ⟨Ipv4Packet.contained_iff, UdpSegment.contained_iff⟩

/-- A packet of 33 bytes with a segment of 13. -/
theorem spans_contained_iff_consistent :
    Ipv4Packet.Contained ⟨fun offset => [0x45, 0, 0, 33].getD offset 0⟩ ∧
    UdpSegment.Contained ⟨fun offset => [0, 0, 0, 0, 0, 13].getD offset 0⟩ := by
  have consistent := spans_contained_iff ⟨fun offset => [0x45, 0, 0, 33].getD offset 0⟩
    ⟨fun offset => [0, 0, 0, 0, 0, 13].getD offset 0⟩
  exact ⟨consistent.1.mpr (by decide), consistent.2.mpr (by decide)⟩

/-- A header without a length, a packet shorter than its header, and a segment without a
length. -/
theorem spans_wrap_around :
    (Ipv4Packet.mk fun _ => 0).optionsCount.toNat = 2 ^ 64 - 5 ∧
    (Ipv4Packet.mk fun offset => if offset = 0 then 0x45 else 0).payloadLength.toNat =
      2 ^ 64 - 20 ∧
    (UdpSegment.mk fun _ => 0).dataSize.toNat = 2 ^ 64 - 8 := by
  decide

end Shoc.Eth

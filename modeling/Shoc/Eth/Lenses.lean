/-
# Getters and setters of the headers

A setter should give its field the argument, cut to the width of the field, and leave
the other fields alone. The setters of fields that have a byte or a word for themselves
do, and so do those that shift their argument to the top of a shared one. Where the
argument is put at the bottom as it is, bits above the width of the field are added
to the fields above, so it depends on these whether anything happens to them.
-/

import Shoc.Data.BitField
import Shoc.Data.Writes
import Shoc.Eth.Words

namespace Shoc.Eth

open Data Transition

/-! ## Words that two fields share -/

section Shared

variable {w v : ℕ} {low high : ℕ}

/-- The setter of the upper field: the lower one is put back below the argument. -/
theorem read_shifted_high : BitField.read low high
    (v <<< low % 2 ^ (low + high) ||| BitField.read 0 low w) = v % 2 ^ high := by
  have below : BitField.read low high (BitField.read 0 low w) = 0 := by
    simpa using BitField.read_shiftLeft_above (k := 0) (BitField.read_lt (k := 0)) (by omega)
  rw [BitField.read_or, BitField.read_mod (by omega), BitField.read_shiftLeft_same, below,
    Nat.or_zero]

theorem read_shifted_low : BitField.read 0 low
    (v <<< low % 2 ^ (low + high) ||| BitField.read 0 low w) = BitField.read 0 low w := by
  have twice : BitField.read 0 low (BitField.read 0 low w) = BitField.read 0 low w := by
    simp [BitField.read]
  rw [BitField.read_or, BitField.read_mod (by omega), BitField.read_shiftLeft_below (by omega),
    twice, Nat.zero_or]

end Shared

/-! ## Fields with bytes of their own -/

section Own

variable {memory : Memory} {offset : ℕ}

theorem read_back16 (value : UInt16) :
    (swap16 ((memory.store16 offset (swap16 value)).load16 offset)).toNat =
      value.toNat % 2 ^ 16 := by
  rw [Memory.load16_store16, swap16_swap16, Nat.mod_eq_of_lt value.toNat_lt]

theorem read_back32 (value : UInt32) :
    (swap32 ((memory.store32 offset (swap32 value)).load32 offset)).toNat =
      value.toNat % 2 ^ 32 := by
  rw [Memory.load32_store32, swap32_swap32, Nat.mod_eq_of_lt value.toNat_lt]

end Own

/-! ## IPv4 -/

inductive Ipv4Field
  | version | ihl | dscp | ecn | totalLength | identification | flags | fragmentOffset | ttl
  | protocol | headerChecksum | sourceAddress | destinationAddress
  deriving DecidableEq, Repr

/-- A call of a setter, with its argument. -/
inductive Ipv4Setter
  | version (value : UInt8)
  | ihl (value : UInt8)
  | dscp (value : UInt8)
  | ecn (value : UInt8)
  | totalLength (value : UInt16)
  | identification (value : UInt16)
  | flags (value : UInt16)
  | fragmentOffset (value : UInt16)
  | ttl (value : UInt8)
  | protocol (value : UInt8)
  | headerChecksum (value : UInt16)
  | sourceAddress (value : UInt32)
  | destinationAddress (value : UInt32)
  deriving DecidableEq, Repr

/-- The number of bits of a field. -/
def Ipv4Field.width : Ipv4Field → ℕ
  | .version | .ihl => 4
  | .dscp => 6
  | .ecn => 2
  | .flags => 3
  | .fragmentOffset => 13
  | .ttl | .protocol => 8
  | .totalLength | .identification | .headerChecksum => 16
  | .sourceAddress | .destinationAddress => 32

namespace Ipv4Setter

def field : Ipv4Setter → Ipv4Field
  | .version _ => .version
  | .ihl _ => .ihl
  | .dscp _ => .dscp
  | .ecn _ => .ecn
  | .totalLength _ => .totalLength
  | .identification _ => .identification
  | .flags _ => .flags
  | .fragmentOffset _ => .fragmentOffset
  | .ttl _ => .ttl
  | .protocol _ => .protocol
  | .headerChecksum _ => .headerChecksum
  | .sourceAddress _ => .sourceAddress
  | .destinationAddress _ => .destinationAddress

def argument : Ipv4Setter → ℕ
  | .version value | .ihl value | .dscp value | .ecn value | .ttl value | .protocol value =>
      value.toNat
  | .totalLength value | .identification value | .flags value | .fragmentOffset value
  | .headerChecksum value => value.toNat
  | .sourceAddress value | .destinationAddress value => value.toNat

/-- The argument reduced to the width of the field. -/
def reduced (setter : Ipv4Setter) : ℕ := setter.argument % 2 ^ setter.field.width

end Ipv4Setter

namespace Ipv4Packet

variable {packet : Ipv4Packet}

/-- The getters. -/
def get (packet : Ipv4Packet) : Ipv4Field → ℕ
  | .version => packet.version.toNat
  | .ihl => packet.ihl.toNat
  | .dscp => packet.dscp.toNat
  | .ecn => packet.ecn.toNat
  | .totalLength => packet.totalLength.toNat
  | .identification => packet.identification.toNat
  | .flags => packet.flags.toNat
  | .fragmentOffset => packet.fragmentOffset.toNat
  | .ttl => packet.ttl.toNat
  | .protocol => packet.protocol.toNat
  | .headerChecksum => packet.headerChecksum.toNat
  | .sourceAddress => packet.sourceAddress.toNat
  | .destinationAddress => packet.destinationAddress.toNat

/-- The setters. -/
def set (packet : Ipv4Packet) : Ipv4Setter → Ipv4Packet
  | .version value => packet.setVersion value
  | .ihl value => packet.setIhl value
  | .dscp value => packet.setDscp value
  | .ecn value => packet.setEcn value
  | .totalLength value => packet.setTotalLength value
  | .identification value => packet.setIdentification value
  | .flags value => packet.setFlags value
  | .fragmentOffset value => packet.setFragmentOffset value
  | .ttl value => packet.setTtl value
  | .protocol value => packet.setProtocol value
  | .headerChecksum value => packet.setHeaderChecksum value
  | .sourceAddress value => packet.setSourceAddress value
  | .destinationAddress value => packet.setDestinationAddress value

/-- What an argument has above the width of its field is there already in the field above. -/
def Fits (packet : Ipv4Packet) : Ipv4Setter → Prop
  | .ihl value => packet.version.toNat ||| value.toNat / 2 ^ 4 = packet.version.toNat
  | .ecn value => packet.dscp.toNat ||| value.toNat / 2 ^ 2 = packet.dscp.toNat
  | .fragmentOffset value => packet.flags.toNat ||| value.toNat / 2 ^ 13 = packet.flags.toNat
  | _ => True

instance (packet : Ipv4Packet) : ∀ setter, Decidable (packet.Fits setter)
  | .ihl _ | .ecn _ | .fragmentOffset _ => inferInstanceAs (Decidable (_ = _))
  | .version _ | .dscp _ | .totalLength _ | .identification _ | .flags _ | .ttl _ | .protocol _
  | .headerChecksum _ | .sourceAddress _ | .destinationAddress _ =>
      inferInstanceAs (Decidable True)

theorem toNat_version : packet.version.toNat = BitField.read 4 4 packet.rawVersionIhl.toNat := by
  rw [BitField.read_eq_shiftRight packet.rawVersionIhl.toNat_lt]
  exact UInt8.toNat_shiftRight ..

theorem toNat_ihl : packet.ihl.toNat = BitField.read 0 4 packet.rawVersionIhl.toNat :=
  packet.toNat_ihl_eq_mod

theorem toNat_dscp : packet.dscp.toNat = BitField.read 2 6 packet.rawDscpEcn.toNat := by
  rw [BitField.read_eq_shiftRight packet.rawDscpEcn.toNat_lt]
  exact UInt8.toNat_shiftRight ..

theorem toNat_ecn : packet.ecn.toNat = BitField.read 0 2 packet.rawDscpEcn.toNat :=
  Nat.and_two_pow_sub_one_eq_mod packet.rawDscpEcn.toNat 2

theorem toNat_flags :
    packet.flags.toNat = BitField.read 13 3 (swap16 packet.rawFlagsFragmentOffset).toNat := by
  rw [BitField.read_eq_shiftRight (swap16 packet.rawFlagsFragmentOffset).toNat_lt]
  exact UInt16.toNat_shiftRight ..

theorem toNat_fragmentOffset : packet.fragmentOffset.toNat =
    BitField.read 0 13 (swap16 packet.rawFlagsFragmentOffset).toNat :=
  Nat.and_two_pow_sub_one_eq_mod (swap16 packet.rawFlagsFragmentOffset).toNat 13

/-! What the setters of shared bytes and words store. -/

theorem toNat_rawVersionIhl_setVersion (value : UInt8) :
    (packet.setVersion value).rawVersionIhl.toNat =
      value.toNat <<< 4 % 2 ^ (4 + 4) ||| BitField.read 0 4 packet.rawVersionIhl.toNat := by
  rw [← toNat_ihl]
  exact UInt8.toNat_or ..

theorem toNat_rawVersionIhl_setIhl (value : UInt8) : (packet.setIhl value).rawVersionIhl.toNat =
    packet.rawVersionIhl.toNat &&& 0xf0 ||| value.toNat :=
  UInt8.toNat_or ..

theorem toNat_rawDscpEcn_setDscp (value : UInt8) : (packet.setDscp value).rawDscpEcn.toNat =
    value.toNat <<< 2 % 2 ^ (2 + 6) ||| BitField.read 0 2 packet.rawDscpEcn.toNat := by
  rw [← toNat_ecn]
  exact UInt8.toNat_or ..

theorem toNat_rawDscpEcn_setEcn (value : UInt8) : (packet.setEcn value).rawDscpEcn.toNat =
    packet.rawDscpEcn.toNat &&& 0xfc ||| value.toNat :=
  UInt8.toNat_or ..

theorem toNat_rawFlags_setFlags (value : UInt16) :
    (swap16 (packet.setFlags value).rawFlagsFragmentOffset).toNat =
      value.toNat <<< 13 % 2 ^ (13 + 3) |||
        BitField.read 0 13 (swap16 packet.rawFlagsFragmentOffset).toNat := by
  rw [← toNat_fragmentOffset, rawFlagsFragmentOffset, setFlags, Memory.load16_store16,
    swap16_swap16]
  exact UInt16.toNat_or ..

theorem toNat_rawFlags_setFragmentOffset (value : UInt16) :
    (swap16 (packet.setFragmentOffset value).rawFlagsFragmentOffset).toNat =
      packet.flags.toNat <<< 13 % 2 ^ 16 ||| value.toNat := by
  rw [rawFlagsFragmentOffset, setFragmentOffset, Memory.load16_store16, swap16_swap16]
  exact UInt16.toNat_or ..

/-! The arguments of the lower fields show in the upper ones. -/

theorem version_setIhl (value : UInt8) : (packet.setIhl value).version.toNat =
    packet.version.toNat ||| value.toNat / 2 ^ 4 := by
  rw [toNat_version, toNat_rawVersionIhl_setIhl, BitField.read_or_of_ones (by decide),
    ← toNat_version, BitField.read_eq_shiftRight value.toNat_lt, Nat.shiftRight_eq_div_pow]

theorem dscp_setEcn (value : UInt8) : (packet.setEcn value).dscp.toNat =
    packet.dscp.toNat ||| value.toNat / 2 ^ 2 := by
  rw [toNat_dscp, toNat_rawDscpEcn_setEcn, BitField.read_or_of_ones (by decide), ← toNat_dscp,
    BitField.read_eq_shiftRight value.toNat_lt, Nat.shiftRight_eq_div_pow]

theorem flags_setFragmentOffset (value : UInt16) : (packet.setFragmentOffset value).flags.toNat =
    packet.flags.toNat ||| value.toNat / 2 ^ 13 := by
  have small : packet.flags.toNat < 2 ^ 3 := by
    rw [toNat_flags]
    exact BitField.read_lt
  rw [toNat_flags, toNat_rawFlags_setFragmentOffset, BitField.read_or,
    BitField.read_mod (by decide), BitField.read_shiftLeft_same, Nat.mod_eq_of_lt small,
    BitField.read_eq_shiftRight value.toNat_lt, Nat.shiftRight_eq_div_pow]

theorem get_set_same (setter : Ipv4Setter) :
    (packet.set setter).get setter.field = setter.reduced := by
  cases setter with
  | version value =>
    simp only [get, set, Ipv4Setter.field, toNat_version, toNat_rawVersionIhl_setVersion]
    exact read_shifted_high
  | ihl value =>
    simp only [get, set, Ipv4Setter.field, toNat_ihl, toNat_rawVersionIhl_setIhl]
    exact BitField.read_or_of_zeros (by decide)
  | dscp value =>
    simp only [get, set, Ipv4Setter.field, toNat_dscp, toNat_rawDscpEcn_setDscp]
    exact read_shifted_high
  | ecn value =>
    simp only [get, set, Ipv4Setter.field, toNat_ecn, toNat_rawDscpEcn_setEcn]
    exact BitField.read_or_of_zeros (by decide)
  | flags value =>
    simp only [get, set, Ipv4Setter.field, toNat_flags, toNat_rawFlags_setFlags]
    exact read_shifted_high
  | fragmentOffset value =>
    simp only [get, set, Ipv4Setter.field, toNat_fragmentOffset, toNat_rawFlags_setFragmentOffset]
    rw [BitField.read_or, BitField.read_mod (by decide), BitField.read_shiftLeft_below (by decide),
      Nat.zero_or]
    rfl
  | ttl value | protocol value => exact (Nat.mod_eq_of_lt value.toNat_lt).symm
  | totalLength value | identification value | headerChecksum value => exact read_back16 value
  | sourceAddress value | destinationAddress value => exact read_back32 value

/-- The other fields keep their values if the argument fits. -/
theorem get_set_other (setter : Ipv4Setter) (fits : packet.Fits setter) (field : Ipv4Field)
    (other : field ≠ setter.field) : (packet.set setter).get field = packet.get field := by
  cases setter with
  | version value =>
    cases field with
    | version => contradiction
    | ihl =>
      simp only [get, set, toNat_ihl, toNat_rawVersionIhl_setVersion]
      exact read_shifted_low
    | _ => rfl
  | ihl value =>
    cases field with
    | ihl => contradiction
    | version => exact (version_setIhl value).trans fits
    | _ => rfl
  | dscp value =>
    cases field with
    | dscp => contradiction
    | ecn =>
      simp only [get, set, toNat_ecn, toNat_rawDscpEcn_setDscp]
      exact read_shifted_low
    | _ => rfl
  | ecn value =>
    cases field with
    | ecn => contradiction
    | dscp => exact (dscp_setEcn value).trans fits
    | _ => rfl
  | flags value =>
    cases field with
    | flags => contradiction
    | fragmentOffset =>
      simp only [get, set, toNat_fragmentOffset, toNat_rawFlags_setFlags]
      exact read_shifted_low
    | _ => rfl
  | fragmentOffset value =>
    cases field with
    | fragmentOffset => contradiction
    | flags => exact (flags_setFragmentOffset value).trans fits
    | _ => rfl
  -- The field has bytes of its own
  | _ => cases field <;> first | contradiction | rfl

/-- The other fields keep their values exactly if the argument fits. -/
theorem get_set_other_iff (setter : Ipv4Setter) :
    (∀ field, field ≠ setter.field → (packet.set setter).get field = packet.get field) ↔
      packet.Fits setter := by
  refine ⟨fun kept => ?_, get_set_other setter⟩
  cases setter with
  | ihl value =>
    exact (version_setIhl value).symm.trans (kept .version (by simp [Ipv4Setter.field]))
  | ecn value => exact (dscp_setEcn value).symm.trans (kept .dscp (by simp [Ipv4Setter.field]))
  | fragmentOffset value =>
    exact (flags_setFragmentOffset value).symm.trans (kept .flags (by simp [Ipv4Setter.field]))
  | _ => trivial

end Ipv4Packet

/-! ## IPv6 -/

/-- The addresses are read as spans of bytes and have no setters. -/
inductive Ipv6Field
  | version | trafficClass | flowLabel | payloadLength | nextHeader | hopLimit
  | sourceAddress (i : Fin 16)
  | destinationAddress (i : Fin 16)
  deriving DecidableEq, Repr

/-- A call of a setter, with its argument. -/
inductive Ipv6Setter
  | version (value : UInt8)
  | trafficClass (value : UInt8)
  | flowLabel (value : UInt32)
  | payloadLength (value : UInt16)
  | nextHeader (value : UInt8)
  | hopLimit (value : UInt8)
  deriving DecidableEq, Repr

/-- The number of bits of a field. -/
def Ipv6Field.width : Ipv6Field → ℕ
  | .version => 4
  | .flowLabel => 20
  | .payloadLength => 16
  | .trafficClass | .nextHeader | .hopLimit | .sourceAddress _ | .destinationAddress _ => 8

namespace Ipv6Setter

def field : Ipv6Setter → Ipv6Field
  | .version _ => .version
  | .trafficClass _ => .trafficClass
  | .flowLabel _ => .flowLabel
  | .payloadLength _ => .payloadLength
  | .nextHeader _ => .nextHeader
  | .hopLimit _ => .hopLimit

def argument : Ipv6Setter → ℕ
  | .version value | .trafficClass value | .nextHeader value | .hopLimit value => value.toNat
  | .payloadLength value => value.toNat
  | .flowLabel value => value.toNat

/-- The argument reduced to the width of the field. -/
def reduced (setter : Ipv6Setter) : ℕ := setter.argument % 2 ^ setter.field.width

end Ipv6Setter

namespace Ipv6Packet

variable {packet : Ipv6Packet}

/-- The getters. -/
def get (packet : Ipv6Packet) : Ipv6Field → ℕ
  | .version => packet.version.toNat
  | .trafficClass => packet.trafficClass.toNat
  | .flowLabel => packet.flowLabel.toNat
  | .payloadLength => packet.payloadLength.toNat
  | .nextHeader => packet.nextHeader.toNat
  | .hopLimit => packet.hopLimit.toNat
  | .sourceAddress i => (packet.sourceAddress i).toNat
  | .destinationAddress i => (packet.destinationAddress i).toNat

/-- The setters. -/
def set (packet : Ipv6Packet) : Ipv6Setter → Ipv6Packet
  | .version value => packet.setVersion value
  | .trafficClass value => packet.setTrafficClass value
  | .flowLabel value => packet.setFlowLabel value
  | .payloadLength value => packet.setPayloadLength value
  | .nextHeader value => packet.setNextHeader value
  | .hopLimit value => packet.setHopLimit value

/-- What an argument has above the width of its field is there already in the fields above. -/
def Fits (packet : Ipv6Packet) : Ipv6Setter → Prop
  | .flowLabel value =>
      packet.trafficClass.toNat ||| value.toNat / 2 ^ 20 % 2 ^ 8 = packet.trafficClass.toNat ∧
        packet.version.toNat ||| value.toNat / 2 ^ 28 = packet.version.toNat
  | _ => True

instance (packet : Ipv6Packet) : ∀ setter, Decidable (packet.Fits setter)
  | .flowLabel _ => inferInstanceAs (Decidable (_ ∧ _))
  | .version _ | .trafficClass _ | .payloadLength _ | .nextHeader _ | .hopLimit _ =>
      inferInstanceAs (Decidable True)

/-- The first word of the header in network order. -/
def vtcfl (packet : Ipv6Packet) : ℕ := (swap32 packet.rawVersionTrafficClassFlowLabel).toNat

theorem toNat_version : packet.version.toNat = BitField.read 28 4 packet.vtcfl := by
  have bound : packet.vtcfl < 2 ^ 32 := (swap32 packet.rawVersionTrafficClassFlowLabel).toNat_lt
  have shifted : packet.vtcfl >>> 28 < 2 ^ 8 := by
    rw [Nat.shiftRight_eq_div_pow]
    omega
  rw [BitField.read_eq_shiftRight bound, version, UInt32.toNat_toUInt8, UInt32.toNat_shiftRight]
  exact Nat.mod_eq_of_lt shifted

theorem toNat_trafficClass : packet.trafficClass.toNat = BitField.read 20 8 packet.vtcfl := by
  rw [trafficClass, UInt32.toNat_toUInt8, UInt32.toNat_and, UInt32.toNat_shiftRight]
  exact (congrArg (· % 2 ^ 8) (Nat.and_two_pow_sub_one_eq_mod _ 8)).trans (Nat.mod_mod ..)

theorem toNat_flowLabel : packet.flowLabel.toNat = BitField.read 0 20 packet.vtcfl :=
  Nat.and_two_pow_sub_one_eq_mod packet.vtcfl 20

/-! What the setters of the first word store. -/

theorem vtcfl_setVersion (value : UInt8) : (packet.setVersion value).vtcfl =
    packet.vtcfl &&& 0x0fffffff ||| value.toNat <<< 28 % 2 ^ 32 := by
  rw [vtcfl, rawVersionTrafficClassFlowLabel, setVersion, Memory.load32_store32, swap32_swap32]
  exact UInt32.toNat_or ..

theorem vtcfl_setTrafficClass (value : UInt8) : (packet.setTrafficClass value).vtcfl =
    packet.vtcfl &&& 0xf00fffff ||| value.toNat <<< 20 % 2 ^ 32 := by
  rw [vtcfl, rawVersionTrafficClassFlowLabel, setTrafficClass, Memory.load32_store32,
    swap32_swap32]
  exact UInt32.toNat_or ..

theorem vtcfl_setFlowLabel (value : UInt32) : (packet.setFlowLabel value).vtcfl =
    packet.vtcfl &&& 0xfff00000 ||| value.toNat := by
  rw [vtcfl, rawVersionTrafficClassFlowLabel, setFlowLabel, Memory.load32_store32, swap32_swap32]
  exact UInt32.toNat_or ..

theorem trafficClass_setFlowLabel (value : UInt32) :
    (packet.setFlowLabel value).trafficClass.toNat =
      packet.trafficClass.toNat ||| value.toNat / 2 ^ 20 % 2 ^ 8 := by
  rw [toNat_trafficClass, vtcfl_setFlowLabel, BitField.read_or_of_ones (by decide),
    ← toNat_trafficClass, BitField.read, Nat.shiftRight_eq_div_pow]

theorem version_setFlowLabel (value : UInt32) : (packet.setFlowLabel value).version.toNat =
    packet.version.toNat ||| value.toNat / 2 ^ 28 := by
  rw [toNat_version, vtcfl_setFlowLabel, BitField.read_or_of_ones (by decide), ← toNat_version,
    BitField.read_eq_shiftRight value.toNat_lt, Nat.shiftRight_eq_div_pow]

theorem get_set_same (setter : Ipv6Setter) :
    (packet.set setter).get setter.field = setter.reduced := by
  cases setter with
  | version value =>
    simp only [get, set, Ipv6Setter.field, toNat_version, vtcfl_setVersion]
    exact BitField.read_insert_same (by decide) (by decide)
  | trafficClass value =>
    simp only [get, set, Ipv6Setter.field, toNat_trafficClass, vtcfl_setTrafficClass]
    exact BitField.read_insert_same (by decide) (by decide)
  | flowLabel value =>
    simp only [get, set, Ipv6Setter.field, toNat_flowLabel, vtcfl_setFlowLabel]
    exact BitField.read_or_of_zeros (by decide)
  | payloadLength value => exact read_back16 value
  | nextHeader value | hopLimit value => exact (Nat.mod_eq_of_lt value.toNat_lt).symm

/-- The addresses are behind everything that a setter stores. -/
theorem get_set_address (setter : Ipv6Setter) (i : Fin 16) :
    (packet.set setter).sourceAddress i = packet.sourceAddress i ∧
      (packet.set setter).destinationAddress i = packet.destinationAddress i := by
  cases setter with
  | version value | trafficClass value | flowLabel value =>
    exact ⟨Memory.store32_outside _ (by omega), Memory.store32_outside _ (by omega)⟩
  | payloadLength value =>
    exact ⟨Memory.store16_outside _ (by omega), Memory.store16_outside _ (by omega)⟩
  | nextHeader value | hopLimit value =>
    exact ⟨Memory.store8_outside _ (by omega), Memory.store8_outside _ (by omega)⟩

/-- The other fields keep their values if the argument fits. -/
theorem get_set_other (setter : Ipv6Setter) (fits : packet.Fits setter) (field : Ipv6Field)
    (other : field ≠ setter.field) : (packet.set setter).get field = packet.get field := by
  cases field with
  | sourceAddress i => exact congrArg UInt8.toNat (get_set_address setter i).1
  | destinationAddress i => exact congrArg UInt8.toNat (get_set_address setter i).2
  | version =>
    cases setter with
    | version => contradiction
    | trafficClass value =>
      simp only [get, set, toNat_version, vtcfl_setTrafficClass]
      exact BitField.read_insert_other (by decide) (by decide)
        (BitField.read_shiftLeft_above value.toNat_lt (by decide))
    | flowLabel value => exact (version_setFlowLabel value).trans fits.2
    | _ => rfl
  | trafficClass =>
    cases setter with
    | trafficClass => contradiction
    | version value =>
      simp only [get, set, toNat_trafficClass, vtcfl_setVersion]
      exact BitField.read_insert_other (by decide) (by decide)
        (BitField.read_shiftLeft_below (by decide))
    | flowLabel value => exact (trafficClass_setFlowLabel value).trans fits.1
    | _ => rfl
  | flowLabel =>
    cases setter with
    | flowLabel => contradiction
    | version value =>
      simp only [get, set, toNat_flowLabel, vtcfl_setVersion]
      exact BitField.read_insert_other (by decide) (by decide)
        (BitField.read_shiftLeft_below (by decide))
    | trafficClass value =>
      simp only [get, set, toNat_flowLabel, vtcfl_setTrafficClass]
      exact BitField.read_insert_other (by decide) (by decide)
        (BitField.read_shiftLeft_below (by decide))
    | _ => rfl
  | _ => cases setter <;> first | contradiction | rfl

/-- The other fields keep their values exactly if the argument fits. -/
theorem get_set_other_iff (setter : Ipv6Setter) :
    (∀ field, field ≠ setter.field → (packet.set setter).get field = packet.get field) ↔
      packet.Fits setter := by
  refine ⟨fun kept => ?_, get_set_other setter⟩
  cases setter with
  | flowLabel value =>
    exact ⟨(trafficClass_setFlowLabel value).symm.trans
        (kept .trafficClass (by simp [Ipv6Setter.field])),
      (version_setFlowLabel value).symm.trans (kept .version (by simp [Ipv6Setter.field]))⟩
  | _ => trivial

end Ipv6Packet

/-! ## UDP -/

inductive UdpField
  | sourcePort | destinationPort | length | checksum
  deriving DecidableEq, Repr

/-- A call of a setter, with its argument. -/
structure UdpSetter where
  field : UdpField
  value : UInt16
  deriving DecidableEq, Repr

/-- All fields have as many bits as the arguments. -/
def UdpSetter.reduced (setter : UdpSetter) : ℕ := setter.value.toNat % 2 ^ 16

namespace UdpSegment

variable {segment : UdpSegment}

/-- The getters. -/
def get (segment : UdpSegment) : UdpField → ℕ
  | .sourcePort => segment.sourcePort.toNat
  | .destinationPort => segment.destinationPort.toNat
  | .length => segment.length.toNat
  | .checksum => segment.storedChecksum.toNat

/-- The setters. -/
def set (segment : UdpSegment) (setter : UdpSetter) : UdpSegment :=
  match setter.field with
  | .sourcePort => segment.setSourcePort setter.value
  | .destinationPort => segment.setDestinationPort setter.value
  | .length => segment.setLength setter.value
  | .checksum => segment.setChecksum setter.value

theorem get_set_same (setter : UdpSetter) :
    (segment.set setter).get setter.field = setter.reduced := by
  obtain ⟨field, value⟩ := setter
  cases field with
  | sourcePort | destinationPort | length | checksum => exact read_back16 value

theorem get_set_other (setter : UdpSetter) (field : UdpField) (other : field ≠ setter.field) :
    (segment.set setter).get field = segment.get field := by
  obtain ⟨target, value⟩ := setter
  cases target <;> cases field <;> first | contradiction | rfl

end UdpSegment

/-! ## All three headers -/

/-- **The setters are lenses**, as long as arguments have nothing above the width of their
field that the neighbouring fields do not have already: each getter returns what the setter
of its field was given last, reduced to the width of the field. -/
theorem setters_are_lenses (ipv4 : Ipv4Packet) (ipv6 : Ipv6Packet) (segment : UdpSegment) :
    Writes.Lens Ipv4Packet.get Ipv4Packet.set Ipv4Setter.field Ipv4Setter.reduced
      Ipv4Packet.Fits ipv4 ∧
    Writes.Lens Ipv6Packet.get Ipv6Packet.set Ipv6Setter.field Ipv6Setter.reduced
      Ipv6Packet.Fits ipv6 ∧
    Writes.Lens UdpSegment.get UdpSegment.set UdpSetter.field UdpSetter.reduced
      (fun _ _ => True) segment := by
  refine ⟨.of_writes ?_ ?_ ipv4, .of_writes ?_ ?_ ipv6, .of_writes ?_ ?_ segment⟩
  · exact fun _ => Ipv4Packet.get_set_same
  · exact fun _ => Ipv4Packet.get_set_other_iff
  · exact fun _ => Ipv6Packet.get_set_same
  · exact fun _ => Ipv6Packet.get_set_other_iff
  · exact fun _ => UdpSegment.get_set_same
  · exact fun _ setter => ⟨fun _ => trivial, fun _ => UdpSegment.get_set_other setter⟩

/-- A header that is filled in, some fields twice, with arguments that are too wide for the
upper field of a word. -/
def filledIn : List Ipv4Setter :=
  [.version 20, .ihl 5, .dscp 110, .ecn 1, .flags 10, .fragmentOffset 100, .ttl 1, .ttl 64]

theorem setters_are_lenses_filledIn :
    ∃ packet, Run (fun packet setter => some (Ipv4Packet.set packet setter)) Ipv4Packet.Fits
        ⟨fun _ => 255⟩ (.version 0 :: .dscp 0 :: .flags 0 :: filledIn) packet ∧
      packet.get .version = 4 ∧ packet.get .ttl = 64 ∧ packet.get .protocol = 255 := by
  refine ⟨_, ⟨rfl, by decide⟩, ?_⟩
  have last := (setters_are_lenses ⟨fun _ => 255⟩ ⟨fun _ => 0⟩ ⟨fun _ => 0⟩).1.last
    (.version 0 :: .dscp 0 :: .flags 0 :: filledIn) _ ⟨rfl, by decide⟩
  exact ⟨last .version, last .ttl, last .protocol⟩

/-- In each of the four setters that put their argument at the bottom as it is, a bit above
the width of the field changes another field. -/
theorem wide_argument_spills :
    (Ipv4Packet.set ⟨fun _ => 0⟩ (.ihl 0x45)).get .version = 4 ∧
    (Ipv4Packet.set ⟨fun _ => 0⟩ (.ecn 0x2d)).get .dscp = 11 ∧
    (Ipv4Packet.set ⟨fun _ => 0⟩ (.fragmentOffset 0x4000)).get .flags = 2 ∧
    (Ipv6Packet.set ⟨fun _ => 0⟩ (.flowLabel 0x12300000)).get .version = 1 ∧
    (Ipv6Packet.set ⟨fun _ => 0⟩ (.flowLabel 0x12300000)).get .trafficClass = 0x23 ∧
    -- They were zero before
    (∀ field, Ipv4Packet.get ⟨fun _ => 0⟩ field = 0) ∧
    ∀ field, Ipv6Packet.get ⟨fun _ => 0⟩ field = 0 := by
  refine ⟨by decide, by decide, by decide, by decide, by decide, ?_, ?_⟩
  · intro field
    cases field <;> decide
  · intro field
    cases field <;> first | decide | rfl

end Shoc.Eth

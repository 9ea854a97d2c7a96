/-
# Headers in memory

The header classes of `eth_frame.hpp` are laid over the bytes of a packet, so a
header here is the memory from its address on; what stands behind the packet is
part of it. Multi-byte fields are kept in network order. The host is
little-endian: loading a field gives its bytes in the wrong order, and `be16toh` and
its kin put them right.

In C++ the operands of shifts and masks are promoted to `int` and the result is cut to
the type of the field it is stored in; nothing is lost by computing at the width of the
field at once. Sizes are computed in `int` and then converted to `size_t`, where a
negative one becomes a large one.
-/

import Mathlib.Data.Nat.Notation
import Mathlib.Data.UInt

namespace Shoc.Eth

/-- The memory from some address on. -/
abbrev Memory := ℕ → UInt8

namespace Memory

/-- The 16-bit load of a little-endian host. -/
def load16 (memory : Memory) (offset : ℕ) : UInt16 :=
  (memory offset).toUInt16 ||| (memory (offset + 1)).toUInt16 <<< 8

/-- The 32-bit load of a little-endian host. -/
def load32 (memory : Memory) (offset : ℕ) : UInt32 :=
  (memory.load16 offset).toUInt32 ||| (memory.load16 (offset + 2)).toUInt32 <<< 16

/-- The 8-bit store. -/
def store8 (memory : Memory) (offset : ℕ) (value : UInt8) : Memory :=
  fun other => if other = offset then value else memory other

/-- The 16-bit store of a little-endian host. -/
def store16 (memory : Memory) (offset : ℕ) (value : UInt16) : Memory :=
  (memory.store8 offset value.toUInt8).store8 (offset + 1) (value >>> 8).toUInt8

/-- The 32-bit store of a little-endian host. -/
def store32 (memory : Memory) (offset : ℕ) (value : UInt32) : Memory :=
  (memory.store16 offset value.toUInt16).store16 (offset + 2) (value >>> 16).toUInt16

end Memory

/-- `be16toh` and `htobe16`: the two bytes change places. -/
def swap16 (value : UInt16) : UInt16 := value <<< 8 ||| value >>> 8

/-- `be32toh` and `htobe32`. -/
def swap32 (value : UInt32) : UInt32 :=
  (swap16 value.toUInt16).toUInt32 <<< 16 ||| (swap16 (value >>> 16).toUInt16).toUInt32

/-- `ipv4_packet`. -/
structure Ipv4Packet where
  memory : Memory

/-- `ipv6_packet`. -/
structure Ipv6Packet where
  memory : Memory

/-- `udp_segment`. -/
structure UdpSegment where
  memory : Memory

/-- `(sum & 0xffff) + (sum >> 16)`. -/
def fold (sum : UInt32) : UInt32 :=
  (sum &&& (0xffff : UInt32)) + (sum >>> (16 : UInt32))

namespace Ipv4Packet

variable (packet : Ipv4Packet)

def rawVersionIhl : UInt8 := packet.memory 0

def rawDscpEcn : UInt8 := packet.memory 1

def rawTotalLength : UInt16 := packet.memory.load16 2

def rawIdentification : UInt16 := packet.memory.load16 4

def rawFlagsFragmentOffset : UInt16 := packet.memory.load16 6

def rawTtl : UInt8 := packet.memory 8

def rawProtocol : UInt8 := packet.memory 9

def rawHeaderChecksum : UInt16 := packet.memory.load16 10

def rawSourceAddress : UInt32 := packet.memory.load32 12

def rawDestinationAddress : UInt32 := packet.memory.load32 16

def version : UInt8 := packet.rawVersionIhl >>> 4

def ihl : UInt8 := packet.rawVersionIhl &&& 0x0f

def dscp : UInt8 := packet.rawDscpEcn >>> 2

def ecn : UInt8 := packet.rawDscpEcn &&& 0x03

def totalLength : UInt16 := swap16 packet.rawTotalLength

def identification : UInt16 := swap16 packet.rawIdentification

def flags : UInt16 := swap16 packet.rawFlagsFragmentOffset >>> 13

def fragmentOffset : UInt16 := swap16 packet.rawFlagsFragmentOffset &&& 0x1fff

def ttl : UInt8 := packet.rawTtl

def protocol : UInt8 := packet.rawProtocol

def headerChecksum : UInt16 := swap16 packet.rawHeaderChecksum

def sourceAddress : UInt32 := swap32 packet.rawSourceAddress

def destinationAddress : UInt32 := swap32 packet.rawDestinationAddress

/-! The setters. Two fields share a byte or a word in three places, and of these two the
setter of the upper one shifts its argument out of the way, while the setter of the lower
one takes it as it is. -/

def setVersion (value : UInt8) : Ipv4Packet :=
  ⟨packet.memory.store8 0 (value <<< 4 ||| packet.ihl)⟩

def setIhl (value : UInt8) : Ipv4Packet :=
  ⟨packet.memory.store8 0 ((packet.rawVersionIhl &&& 0xf0) ||| value)⟩

def setDscp (value : UInt8) : Ipv4Packet :=
  ⟨packet.memory.store8 1 (value <<< 2 ||| packet.ecn)⟩

def setEcn (value : UInt8) : Ipv4Packet :=
  ⟨packet.memory.store8 1 ((packet.rawDscpEcn &&& 0xfc) ||| value)⟩

def setTotalLength (value : UInt16) : Ipv4Packet := ⟨packet.memory.store16 2 (swap16 value)⟩

def setIdentification (value : UInt16) : Ipv4Packet := ⟨packet.memory.store16 4 (swap16 value)⟩

def setFlags (value : UInt16) : Ipv4Packet :=
  ⟨packet.memory.store16 6 (swap16 (value <<< 13 ||| packet.fragmentOffset))⟩

def setFragmentOffset (value : UInt16) : Ipv4Packet :=
  ⟨packet.memory.store16 6 (swap16 (packet.flags <<< 13 ||| value))⟩

def setTtl (value : UInt8) : Ipv4Packet := ⟨packet.memory.store8 8 value⟩

def setProtocol (value : UInt8) : Ipv4Packet := ⟨packet.memory.store8 9 value⟩

def setHeaderChecksum (value : UInt16) : Ipv4Packet := ⟨packet.memory.store16 10 (swap16 value)⟩

def setSourceAddress (value : UInt32) : Ipv4Packet := ⟨packet.memory.store32 12 (swap32 value)⟩

def setDestinationAddress (value : UInt32) : Ipv4Packet :=
  ⟨packet.memory.store32 16 (swap32 value)⟩

/-- The words that `calculate_header_checksum` makes a span of. -/
def headerWords : List UInt16 :=
  (List.range (packet.ihl.toNat * 2)).map fun i => packet.memory.load16 (2 * i)

/-- `calculate_header_checksum`. The sum begins at the negated checksum, in 32 bits. -/
def calculateHeaderChecksum : UInt16 :=
  let wordSum := packet.headerWords.foldl (fun sum word => sum + word.toUInt32)
    (-packet.rawHeaderChecksum.toUInt32)
  let wordSum := fold (fold wordSum)
  swap16 (~~~wordSum &&& 0xffff).toUInt16

/-- `update_header_checksum`. -/
def updateHeaderChecksum : Ipv4Packet :=
  ⟨packet.memory.store16 10 (swap16 packet.calculateHeaderChecksum)⟩

/-- `options_count`. -/
def optionsCount : UInt64 := UInt64.ofInt (packet.ihl.toNat - 5)

/-- Where `payload_base` points to, counted from the header: behind the fields, which have 20
bytes, and the options, which have four bytes each. -/
def payloadBase : UInt64 := 20 + 4 * packet.optionsCount

/-- `payload_length`. -/
def payloadLength : UInt64 := UInt64.ofInt (packet.totalLength.toNat - packet.ihl.toNat * 4)

end Ipv4Packet

namespace Ipv6Packet

variable (packet : Ipv6Packet)

def rawVersionTrafficClassFlowLabel : UInt32 := packet.memory.load32 0

def rawPayloadLength : UInt16 := packet.memory.load16 4

def rawNextHeader : UInt8 := packet.memory 6

def rawHopLimit : UInt8 := packet.memory 7

def version : UInt8 := (swap32 packet.rawVersionTrafficClassFlowLabel >>> 28).toUInt8

def trafficClass : UInt8 :=
  (swap32 packet.rawVersionTrafficClassFlowLabel >>> 20 &&& 0xff).toUInt8

def flowLabel : UInt32 := swap32 packet.rawVersionTrafficClassFlowLabel &&& 0x000fffff

def payloadLength : UInt16 := swap16 packet.rawPayloadLength

def nextHeader : UInt8 := packet.rawNextHeader

def hopLimit : UInt8 := packet.rawHopLimit

/-- The bytes of the span that `source_address` returns. -/
def sourceAddress (i : Fin 16) : UInt8 := packet.memory (8 + i)

/-- The bytes of the span that `destination_address` returns. -/
def destinationAddress (i : Fin 16) : UInt8 := packet.memory (24 + i)

def setVersion (value : UInt8) : Ipv6Packet :=
  let vtcfl := swap32 packet.rawVersionTrafficClassFlowLabel
  let unchangedBits := vtcfl &&& 0x0fffffff
  let shiftedValue := value.toUInt32 <<< 28
  ⟨packet.memory.store32 0 (swap32 (unchangedBits ||| shiftedValue))⟩

def setTrafficClass (value : UInt8) : Ipv6Packet :=
  let vtcfl := swap32 packet.rawVersionTrafficClassFlowLabel
  let unchangedBits := vtcfl &&& 0xf00fffff
  let shiftedValue := value.toUInt32 <<< 20
  ⟨packet.memory.store32 0 (swap32 (unchangedBits ||| shiftedValue))⟩

def setFlowLabel (value : UInt32) : Ipv6Packet :=
  let vtcfl := swap32 packet.rawVersionTrafficClassFlowLabel
  let unchangedBits := vtcfl &&& 0xfff00000
  -- The argument has 32 bits and the field has 20
  ⟨packet.memory.store32 0 (swap32 (unchangedBits ||| value))⟩

def setPayloadLength (value : UInt16) : Ipv6Packet := ⟨packet.memory.store16 4 (swap16 value)⟩

def setNextHeader (value : UInt8) : Ipv6Packet := ⟨packet.memory.store8 6 value⟩

def setHopLimit (value : UInt8) : Ipv6Packet := ⟨packet.memory.store8 7 value⟩

end Ipv6Packet

namespace UdpSegment

variable (segment : UdpSegment)

def rawSourcePort : UInt16 := segment.memory.load16 0

def rawDestinationPort : UInt16 := segment.memory.load16 2

def rawLength : UInt16 := segment.memory.load16 4

def rawChecksum : UInt16 := segment.memory.load16 6

def sourcePort : UInt16 := swap16 segment.rawSourcePort

def destinationPort : UInt16 := swap16 segment.rawDestinationPort

def length : UInt16 := swap16 segment.rawLength

/-- The getter `checksum`. -/
def storedChecksum : UInt16 := swap16 segment.rawChecksum

def setSourcePort (value : UInt16) : UdpSegment := ⟨segment.memory.store16 0 (swap16 value)⟩

def setDestinationPort (value : UInt16) : UdpSegment := ⟨segment.memory.store16 2 (swap16 value)⟩

def setLength (value : UInt16) : UdpSegment := ⟨segment.memory.store16 4 (swap16 value)⟩

def setChecksum (value : UInt16) : UdpSegment := ⟨segment.memory.store16 6 (swap16 value)⟩

/-- The size of the span that `data` returns. It begins behind the fields, which have 8 bytes. -/
def dataSize : UInt64 := UInt64.ofInt (segment.length.toNat - 8)

/-- The words that `calculate_checksum` makes a span of. In the number of words,
`length() + 1 / 2`, the division comes first. -/
def words : List UInt16 :=
  (List.range (segment.length.toNat + 1 / 2)).map fun i => segment.memory.load16 (2 * i)

/-- `calculate_checksum(doca_be16_t)`, the part that both address families share. -/
def calculateChecksum (pseudoheaderPart : UInt16) : UInt16 :=
  let wordSum := segment.words.foldl (fun sum word => sum + word.toUInt32)
    pseudoheaderPart.toUInt32
  let wordSum := wordSum - segment.rawChecksum.toUInt32
  let wordSum := fold (fold wordSum)
  swap16 (~~~wordSum &&& 0xffff).toUInt16

/-- The `pseudoheader_sum` of `calculate_checksum(ipv4_packet const &)`. -/
def pseudoheaderSumIpv4 (wrapper : Ipv4Packet) : UInt32 :=
  let sourceIp := wrapper.sourceAddress
  let destIp := wrapper.destinationAddress
  (17 : UInt32) + (sourceIp >>> (16 : UInt32)) + (sourceIp &&& (0xffff : UInt32)) +
    (destIp >>> (16 : UInt32)) + (destIp &&& (0xffff : UInt32)) + segment.length.toUInt32

/-- `calculate_checksum(ipv4_packet const &)`. -/
def calculateChecksumIpv4 (wrapper : Ipv4Packet) : UInt16 :=
  -- The argument of `htobe16` has 16 bits
  segment.calculateChecksum (swap16 (fold (segment.pseudoheaderSumIpv4 wrapper)).toUInt16)

/-- The `pseudoheader_sum` of `calculate_checksum(ipv6_packet const &)`. -/
def pseudoheaderSumIpv6 (wrapper : Ipv6Packet) : UInt32 :=
  -- Sixteen words from the source address on, which is followed by the destination address
  let ips := (List.range 16).map fun i => wrapper.memory.load16 (8 + 2 * i)
  ips.foldl (fun sum word => sum + (swap16 word).toUInt32)
    ((swap16 17).toUInt32 + segment.rawLength.toUInt32)

/-- `calculate_checksum(ipv6_packet const &)`. -/
def calculateChecksumIpv6 (wrapper : Ipv6Packet) : UInt16 :=
  segment.calculateChecksum (fold (segment.pseudoheaderSumIpv6 wrapper)).toUInt16

end UdpSegment

end Shoc.Eth

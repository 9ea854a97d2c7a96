/-
# The answer to a datagram

`eth_udp_echo` makes the answer to a UDP datagram in place: it exchanges the addresses
of the frame, of the packet and of the segment, takes the next identification, and
computes both checksums anew. The pointers to packet and segment are taken from the
frame before anything is written, and all three look at the same bytes.

The exchanged words count the same in both checksums, so the checksum of the segment
in the answer is the one that the same function computes for the request, whatever it
makes of the bytes behind the segment.
-/

import Shoc.Eth.Checksum
import Shoc.Eth.HeaderChecksum
import Shoc.Eth.Spans

namespace Shoc.Eth

open Data

/-! ## Headers within headers -/

namespace Memory

variable {memory part : Memory} {base offset : ℕ}

/-- The memory from a later address on. -/
def view (memory : Memory) (base : ℕ) : Memory := fun offset => memory (base + offset)

/-- The memory after something was written through a pointer to a later address. -/
def putBack (memory : Memory) (base : ℕ) (part : Memory) : Memory :=
  fun offset => if offset < base then memory offset else part (offset - base)

/-- `std::ranges::swap_ranges`, for ranges of the same length. -/
def swapRanges (memory : Memory) (first second : ℕ) : ℕ → Memory
  | 0 => memory
  | n + 1 =>
      let swapped := memory.swapRanges first second n
      (swapped.store8 (first + n) (swapped (second + n))).store8 (second + n)
        (swapped (first + n))

@[simp] theorem view_apply : memory.view base offset = memory (base + offset) := rfl

theorem putBack_before (before : offset < base) :
    memory.putBack base part offset = memory offset := if_pos before

@[simp] theorem putBack_behind : memory.putBack base part (base + offset) = part offset := by
  rw [putBack, if_neg (by omega), Nat.add_sub_cancel_left]

@[simp] theorem view_putBack : (memory.putBack base part).view base = part :=
  funext fun _ => putBack_behind

/-- Ranges that do not overlap change places. -/
theorem swapRanges_apply {first second n : ℕ} (apart : first + n ≤ second ∨ second + n ≤ first) :
    memory.swapRanges first second n offset =
      if first ≤ offset ∧ offset < first + n then memory (second + (offset - first))
      else if second ≤ offset ∧ offset < second + n then memory (first + (offset - second))
      else memory offset := by
  induction n generalizing offset with
  | zero =>
    rw [if_neg (by omega), if_neg (by omega)]
    rfl
  | succ n ih =>
    have apart' : first + n ≤ second ∨ second + n ≤ first := by omega
    -- The last two bytes have not been touched by the earlier rounds.
    have firstLast : memory.swapRanges first second n (first + n) = memory (first + n) := by
      rw [ih apart', if_neg (by omega), if_neg (by omega)]
    have secondLast : memory.swapRanges first second n (second + n) = memory (second + n) := by
      rw [ih apart', if_neg (by omega), if_neg (by omega)]
    rw [swapRanges, firstLast, secondLast]
    by_cases last : offset = second + n
    · subst last
      rw [store8_same, if_neg (by omega), if_pos (by omega), Nat.add_sub_cancel_left]
    · rw [store8_outside _ last]
      by_cases last' : offset = first + n
      · subst last'
        rw [store8_same, if_pos (by omega), Nat.add_sub_cancel_left]
      · rw [store8_outside _ last', ih apart']
        have narrow : (first ≤ offset ∧ offset < first + (n + 1)) ↔
            (first ≤ offset ∧ offset < first + n) := by omega
        have narrow' : (second ≤ offset ∧ offset < second + (n + 1)) ↔
            (second ≤ offset ∧ offset < second + n) := by omega
        simp only [narrow, narrow']

end Memory

/-- `eth_frame`. -/
structure EthFrame where
  memory : Memory

namespace EthFrame

variable (frame : EthFrame)

def destinationMac (i : Fin 6) : UInt8 := frame.memory i

def sourceMac (i : Fin 6) : UInt8 := frame.memory (6 + i)

def ethertype : UInt16 := swap16 (frame.memory.load16 12)

/-- Where `ipv4_payload` points to. -/
def ipv4Payload : Ipv4Packet := ⟨frame.memory.view 14⟩

/-- What is written through that pointer is written to the frame. -/
def putIpv4 (packet : Ipv4Packet) : EthFrame := ⟨frame.memory.putBack 14 packet.memory⟩

end EthFrame

namespace Ipv4Packet

variable (packet : Ipv4Packet)

/-- Where `udp_payload` points to. -/
def udpPayload : UdpSegment := ⟨packet.memory.view packet.payloadBase.toNat⟩

end Ipv4Packet

/-- `update_checksum(ipv4_packet const &)`. -/
def UdpSegment.updateChecksumIpv4 (segment : UdpSegment) (wrapper : Ipv4Packet) : UdpSegment :=
  segment.setChecksum (segment.calculateChecksumIpv4 wrapper)

/-! ## The answer -/

namespace Ipv4Packet

variable (packet : Ipv4Packet)

/-- The header of the answer. -/
def answerHeader : Ipv4Packet :=
  (((packet.setSourceAddress packet.destinationAddress).setDestinationAddress
    packet.sourceAddress).setIdentification (packet.identification + 1)).updateHeaderChecksum

/-- The segment with the new ports, behind the new header. -/
def answerPorts : UdpSegment :=
  ((⟨packet.answerHeader.memory.view packet.payloadBase.toNat⟩ : UdpSegment).setSourcePort
    packet.udpPayload.destinationPort).setDestinationPort packet.udpPayload.sourcePort

/-- The segment of the answer, whose checksum is computed when all other fields are in place. -/
def answerSegment : UdpSegment :=
  packet.answerPorts.updateChecksumIpv4
    ⟨packet.answerHeader.memory.putBack packet.payloadBase.toNat packet.answerPorts.memory⟩

/-- What becomes of the packet. The segment stays where it was. -/
def answer : Ipv4Packet :=
  ⟨packet.answerHeader.memory.putBack packet.payloadBase.toNat packet.answerSegment.memory⟩

end Ipv4Packet

/-- One round of `handle_packets`: from the frame that was received to the one that is sent. -/
def EthFrame.echo (frame : EthFrame) : EthFrame :=
  let swapped : EthFrame := ⟨frame.memory.swapRanges 6 0 6⟩
  swapped.putIpv4 swapped.ipv4Payload.answer

/-! ## Checksums do not depend on the order of the ports -/

namespace UdpSegment

variable {segment other : UdpSegment}

/-- The words of the header, and those behind it. -/
theorem sum_words_eq (long : 8 ≤ segment.length.toNat) :
    (segment.words.map UInt16.toNat).sum =
      segment.rawSourcePort.toNat + segment.rawDestinationPort.toNat + segment.rawLength.toNat +
        segment.rawChecksum.toNat + ∑ i ∈ Finset.range (segment.length.toNat - 4),
          (segment.memory.load16 (2 * (4 + i))).toNat := by
  have listed : (segment.words.map UInt16.toNat).sum =
      ∑ i ∈ Finset.range segment.length.toNat, (segment.memory.load16 (2 * i)).toNat := by
    unfold words
    rw [List.map_map]
    rfl
  have count : segment.length.toNat = 4 + (segment.length.toNat - 4) := by omega
  rw [listed, count, Finset.sum_range_add]
  simp only [Finset.sum_range_succ, Finset.sum_range_zero, Nat.zero_add, Nat.add_sub_cancel_left]
  rfl

/-- Two segments that agree in the sum of their ports, in their length and behind their headers have
the same checksum, whatever their fields for it hold. -/
theorem calculateChecksum_of_ports (long : 8 ≤ segment.length.toNat)
    (ports : other.rawSourcePort.toNat + other.rawDestinationPort.toNat =
      segment.rawSourcePort.toNat + segment.rawDestinationPort.toNat)
    (length : other.rawLength = segment.rawLength)
    (data : ∀ offset, 8 ≤ offset → other.memory offset = segment.memory offset) :
    other.calculateChecksum = segment.calculateChecksum := by
  have size : other.length = segment.length := congrArg swap16 length
  have long' : 8 ≤ other.length.toNat := size ▸ long
  have behind : ∀ i, other.memory.load16 (2 * (4 + i)) = segment.memory.load16 (2 * (4 + i)) :=
    fun i => Memory.load16_congr (data _ (by omega)) (data _ (by omega))
  have words := sum_words_eq long
  have words' := sum_words_eq long'
  rw [size, length] at words'
  simp only [behind] at words'
  have total : ∀ part, other.total part = segment.total part := by
    intro part
    have counted := total_eq long part
    have counted' := total_eq long' part
    omega
  funext part
  refine UInt16.toNat_inj.mp ?_
  rw [toNat_calculateChecksum long, toNat_calculateChecksum long', total]

/-- A segment with the ports exchanged. -/
structure Exchanged (segment other : UdpSegment) : Prop where
  source : other.rawSourcePort = segment.rawDestinationPort
  destination : other.rawDestinationPort = segment.rawSourcePort
  length : other.rawLength = segment.rawLength
  data : ∀ offset, 8 ≤ offset → other.memory offset = segment.memory offset

/-- Between exchanged addresses it has the same checksum. -/
theorem Exchanged.calculateChecksumIpv4 (exchanged : Exchanged segment other)
    (long : 8 ≤ segment.length.toNat) {wrapper wrapper' : Ipv4Packet}
    (source : wrapper'.sourceAddress = wrapper.destinationAddress)
    (destination : wrapper'.destinationAddress = wrapper.sourceAddress) :
    other.calculateChecksumIpv4 wrapper' = segment.calculateChecksumIpv4 wrapper := by
  have checksum : other.calculateChecksum = segment.calculateChecksum := by
    refine calculateChecksum_of_ports long ?_ exchanged.length exchanged.data
    rw [exchanged.source, exchanged.destination, Nat.add_comm]
  have size : other.length = segment.length := congrArg swap16 exchanged.length
  have sum : other.pseudoheaderSumIpv4 wrapper' = segment.pseudoheaderSumIpv4 wrapper := by
    simp only [pseudoheaderSumIpv4, source, destination, size]
    ac_rfl
  rw [UdpSegment.calculateChecksumIpv4, UdpSegment.calculateChecksumIpv4, sum, checksum]

end UdpSegment

/-! ## What the answer says -/

namespace Ipv4Packet

variable {packet : Ipv4Packet} {offset : ℕ}

/-- The new header has other addresses, another identification and another checksum. -/
theorem memory_answerHeader
    (other : offset < 4 ∨ 6 ≤ offset ∧ offset < 10 ∨ 20 ≤ offset) :
    packet.answerHeader.memory offset = packet.memory offset := by
  refine (memory_update_of_ne (by omega) (by omega)).trans ?_
  refine (Memory.store16_outside _ (by omega)).trans ?_
  exact (Memory.store32_outside _ (by omega)).trans (Memory.store32_outside _ (by omega))

theorem sourceAddress_answerHeader :
    packet.answerHeader.sourceAddress = packet.destinationAddress := by
  have loaded : packet.answerHeader.rawSourceAddress =
      (packet.setSourceAddress packet.destinationAddress).rawSourceAddress := rfl
  rw [sourceAddress, loaded, rawSourceAddress, setSourceAddress, Memory.load32_store32,
    swap32_swap32]

theorem destinationAddress_answerHeader :
    packet.answerHeader.destinationAddress = packet.sourceAddress := by
  have loaded : packet.answerHeader.rawDestinationAddress =
      (packet.setDestinationAddress packet.sourceAddress).rawDestinationAddress := rfl
  rw [destinationAddress, loaded, rawDestinationAddress, setDestinationAddress,
    Memory.load32_store32, swap32_swap32]

theorem identification_answerHeader :
    packet.answerHeader.identification = packet.identification + 1 := by
  have loaded : packet.answerHeader.rawIdentification =
      (packet.setIdentification (packet.identification + 1)).rawIdentification := rfl
  rw [identification, loaded, rawIdentification, setIdentification, Memory.load16_store16,
    swap16_swap16]

/-! With a header of its full length the segment lies behind the fields that are written. -/

variable (long : 5 ≤ packet.ihl.toNat)

include long

theorem le_payloadBase : 20 ≤ packet.payloadBase.toNat := by
  rw [toNat_payloadBase]
  omega

theorem exchanged_answerPorts : packet.udpPayload.Exchanged packet.answerPorts := by
  have behind := le_payloadBase long
  have data : ∀ offset, 4 ≤ offset → packet.answerPorts.memory offset =
      packet.udpPayload.memory offset := by
    intro offset later
    refine (Memory.store16_outside _ (by omega)).trans ?_
    exact (Memory.store16_outside _ (by omega)).trans (memory_answerHeader (by omega))
  refine ⟨?_, ?_, ?_, fun offset later => data offset (by omega)⟩
  · have loaded : packet.answerPorts.rawSourcePort =
        swap16 (packet.udpPayload.destinationPort) :=
      (Memory.load16_congr (Memory.store16_outside _ (by omega))
        (Memory.store16_outside _ (by omega))).trans (Memory.load16_store16 _)
    rw [loaded, UdpSegment.destinationPort, swap16_swap16]
  · have loaded : packet.answerPorts.rawDestinationPort =
        swap16 (packet.udpPayload.sourcePort) := Memory.load16_store16 _
    rw [loaded, UdpSegment.sourcePort, swap16_swap16]
  · exact Memory.load16_congr (data 4 (by omega)) (data 5 (by omega))

theorem exchanged_answerSegment : packet.udpPayload.Exchanged packet.answerSegment := by
  have exchanged := exchanged_answerPorts long
  have outside : ∀ offset, offset < 6 ∨ 8 ≤ offset →
      packet.answerSegment.memory offset = packet.answerPorts.memory offset :=
    fun offset apart => Memory.store16_outside _ (by omega)
  refine ⟨?_, ?_, ?_, fun offset later => ?_⟩
  · exact (Memory.load16_congr (outside 0 (by omega)) (outside 1 (by omega))).trans
      exchanged.source
  · exact (Memory.load16_congr (outside 2 (by omega)) (outside 3 (by omega))).trans
      exchanged.destination
  · exact (Memory.load16_congr (outside 4 (by omega)) (outside 5 (by omega))).trans
      exchanged.length
  · exact (outside offset (by omega)).trans (exchanged.data offset later)

/-- A header with another segment behind it. -/
theorem fields_putBack (part : Memory) :
    let whole : Ipv4Packet := ⟨packet.answerHeader.memory.putBack packet.payloadBase.toNat part⟩
    whole.sourceAddress = packet.destinationAddress ∧
      whole.destinationAddress = packet.sourceAddress ∧
      whole.identification = packet.identification + 1 := by
  intro whole
  have behind := le_payloadBase long
  have same : ∀ offset < 20, whole.memory offset = packet.answerHeader.memory offset :=
    fun offset before => Memory.putBack_before (by omega)
  have word : ∀ offset < 19, whole.memory.load16 offset =
      packet.answerHeader.memory.load16 offset :=
    fun offset before => Memory.load16_congr (same _ (by omega)) (same _ (by omega))
  refine ⟨?_, ?_, ?_⟩
  · rw [← sourceAddress_answerHeader, sourceAddress, rawSourceAddress, Memory.load32,
      word 12 (by omega), word 14 (by omega)]
    rfl
  · rw [← destinationAddress_answerHeader, destinationAddress, rawDestinationAddress,
      Memory.load32, word 16 (by omega), word 18 (by omega)]
    rfl
  · rw [← identification_answerHeader, identification, rawIdentification, word 4 (by omega)]
    rfl

theorem ihl_answer : packet.answer.ihl = packet.ihl := by
  have behind := le_payloadBase long
  have first : packet.answer.memory 0 = packet.memory 0 :=
    (Memory.putBack_before (by omega)).trans (memory_answerHeader (by omega))
  unfold ihl rawVersionIhl
  rw [first]

theorem udpPayload_answer : packet.answer.udpPayload = packet.answerSegment := by
  have base : packet.answer.payloadBase = packet.payloadBase := by
    unfold payloadBase optionsCount
    rw [ihl_answer long]
  unfold udpPayload
  rw [base, answer, Memory.view_putBack]

theorem bigEndianWords_answer :
    packet.answer.bigEndianWords = packet.answerHeader.bigEndianWords := by
  have base := packet.toNat_payloadBase
  have behind := le_payloadBase long
  have length : packet.answerHeader.ihl = packet.ihl := by
    unfold ihl rawVersionIhl
    rw [memory_answerHeader (by omega)]
  unfold bigEndianWords
  rw [ihl_answer long, length]
  refine List.map_congr_left fun i among => ?_
  have inside := List.mem_range.mp among
  have same : ∀ offset < packet.ihl.toNat * 4,
      packet.answer.memory offset = packet.answerHeader.memory offset :=
    fun offset before => Memory.putBack_before (by omega)
  rw [Memory.bigEndian, Memory.bigEndian, same _ (by omega), same _ (by omega)]

theorem sum_answer : OnesComplement.sum 65536 packet.answer.bigEndianWords = 0xffff := by
  rw [bigEndianWords_answer long, answerHeader]
  refine sum_update ?_
  have same : (((packet.setSourceAddress packet.destinationAddress).setDestinationAddress
      packet.sourceAddress).setIdentification (packet.identification + 1)).ihl = packet.ihl := rfl
  rwa [same]

/-- The answer carries the checksum that was computed for it, which is that of the request. -/
theorem checksum_answer (whole : 8 ≤ packet.udpPayload.length.toNat) :
    packet.answerSegment.storedChecksum = packet.udpPayload.calculateChecksumIpv4 packet ∧
      packet.answerSegment.calculateChecksumIpv4 packet.answer =
        packet.answerSegment.storedChecksum := by
  have stored : packet.answerSegment.storedChecksum =
      packet.udpPayload.calculateChecksumIpv4 packet := by
    have fields := fields_putBack long packet.answerPorts.memory
    have written : packet.answerSegment.storedChecksum =
        packet.answerPorts.calculateChecksumIpv4
          ⟨packet.answerHeader.memory.putBack packet.payloadBase.toNat
            packet.answerPorts.memory⟩ := by
      rw [UdpSegment.storedChecksum, UdpSegment.rawChecksum, answerSegment,
        UdpSegment.updateChecksumIpv4, UdpSegment.setChecksum, Memory.load16_store16, swap16_swap16]
    rw [written]
    exact (exchanged_answerPorts long).calculateChecksumIpv4 whole fields.1 fields.2.1
  have fields := fields_putBack long packet.answerSegment.memory
  refine ⟨stored, ?_⟩
  rw [stored]
  exact (exchanged_answerSegment long).calculateChecksumIpv4 whole fields.1 fields.2.1

end Ipv4Packet

/-! ## The whole frame -/

namespace EthFrame

variable {frame : EthFrame} {offset : ℕ}

/-- The bytes of a frame that are written: both addresses, the identification, the checksum and the
addresses of the packet, and the ports and the checksum of the segment. -/
def Rewritten (base offset : ℕ) : Prop :=
  offset < 12 ∨ 18 ≤ offset ∧ offset < 20 ∨ 24 ≤ offset ∧ offset < 34 ∨
    14 + base ≤ offset ∧ offset < 14 + base + 4 ∨ 14 + base + 6 ≤ offset ∧ offset < 14 + base + 8

theorem memory_swapped :
    frame.memory.swapRanges 6 0 6 offset =
      if 6 ≤ offset ∧ offset < 12 then frame.memory (offset - 6)
      else if offset < 6 then frame.memory (6 + offset) else frame.memory offset := by
  rw [Memory.swapRanges_apply (by omega)]
  simp

theorem ipv4Payload_echo : frame.echo.ipv4Payload = frame.ipv4Payload.answer := by
  have same : (⟨frame.memory.swapRanges 6 0 6⟩ : EthFrame).ipv4Payload = frame.ipv4Payload := by
    unfold ipv4Payload
    congr 1
    funext offset
    change frame.memory.swapRanges 6 0 6 (14 + offset) = frame.memory (14 + offset)
    rw [memory_swapped, if_neg (by omega), if_neg (by omega)]
  rw [← same]
  exact congrArg Ipv4Packet.mk Memory.view_putBack

theorem memory_echo_before (before : offset < 14) :
    frame.echo.memory offset = frame.memory.swapRanges 6 0 6 offset :=
  Memory.putBack_before before

theorem memory_echo_of_not_rewritten (long : 5 ≤ frame.ipv4Payload.ihl.toNat)
    (kept : ¬ Rewritten frame.ipv4Payload.payloadBase.toNat offset) :
    frame.echo.memory offset = frame.memory offset := by
  have behind := Ipv4Packet.le_payloadBase long
  unfold Rewritten at kept
  by_cases before : offset < 14
  · rw [memory_echo_before before, memory_swapped, if_neg (by omega), if_neg (by omega)]
  · obtain ⟨offset, rfl⟩ : ∃ inner, offset = 14 + inner := ⟨offset - 14, by omega⟩
    have inner : frame.echo.memory (14 + offset) = frame.echo.ipv4Payload.memory offset := rfl
    rw [inner, ipv4Payload_echo]
    by_cases header : offset < frame.ipv4Payload.payloadBase.toNat
    · exact (Memory.putBack_before header).trans
        (Ipv4Packet.memory_answerHeader (by omega))
    · obtain ⟨offset, rfl⟩ : ∃ inner, offset = frame.ipv4Payload.payloadBase.toNat + inner :=
        ⟨offset - frame.ipv4Payload.payloadBase.toNat, by omega⟩
      refine Memory.putBack_behind.trans ?_
      refine (Memory.store16_outside _ (by omega)).trans ?_
      refine (Memory.store16_outside _ (by omega)).trans ?_
      exact (Memory.store16_outside _ (by omega)).trans
        (Ipv4Packet.memory_answerHeader (by omega))

/-- **The answer goes back where the request came from.** For every frame whose headers have their
full length, the addresses of all three layers change places, the identification is the next one,
the words of the packet's header add up, the checksum of the segment is right in the code's own
terms and the same that it computes for the request, and no other byte changes. -/
theorem echo_answers (frame : EthFrame) (long : 5 ≤ frame.ipv4Payload.ihl.toNat)
    (whole : 8 ≤ frame.ipv4Payload.udpPayload.length.toNat) :
    let packet := frame.ipv4Payload
    let answer := frame.echo.ipv4Payload
    (frame.echo.sourceMac = frame.destinationMac ∧
      frame.echo.destinationMac = frame.sourceMac) ∧
    (answer.sourceAddress = packet.destinationAddress ∧
      answer.destinationAddress = packet.sourceAddress ∧
      answer.identification = packet.identification + 1) ∧
    OnesComplement.sum 65536 answer.bigEndianWords = 0xffff ∧
    (answer.udpPayload.sourcePort = packet.udpPayload.destinationPort ∧
      answer.udpPayload.destinationPort = packet.udpPayload.sourcePort) ∧
    (answer.udpPayload.storedChecksum = packet.udpPayload.calculateChecksumIpv4 packet ∧
      answer.udpPayload.calculateChecksumIpv4 answer = answer.udpPayload.storedChecksum) ∧
    ∀ offset, ¬ Rewritten packet.payloadBase.toNat offset →
      frame.echo.memory offset = frame.memory offset := by
  intro packet answer
  have answered : answer = packet.answer := ipv4Payload_echo
  have exchanged := Ipv4Packet.exchanged_answerSegment long
  rw [answered, Ipv4Packet.udpPayload_answer long]
  refine ⟨⟨funext fun i => ?_, funext fun i => ?_⟩, Ipv4Packet.fields_putBack long _,
    Ipv4Packet.sum_answer long,
    ⟨congrArg swap16 exchanged.source, congrArg swap16 exchanged.destination⟩,
    Ipv4Packet.checksum_answer long whole, fun offset => memory_echo_of_not_rewritten long⟩
  · have range := i.isLt
    rw [sourceMac, memory_echo_before (by omega), memory_swapped, if_pos (by omega),
      Nat.add_sub_cancel_left]
    rfl
  · have range := i.isLt
    rw [destinationMac, memory_echo_before (by omega), memory_swapped, if_neg (by omega),
      if_pos range]
    rfl

/-- A datagram of one byte, from port 7 to port 12345. -/
def request : EthFrame :=
  ⟨fun offset => ([0xb8, 0x3f, 0xd2, 0x00, 0x00, 0x01, 0xb8, 0x3f, 0xd2, 0x00, 0x00, 0x02, 0x08,
    0x00, 0x45, 0x00, 0x00, 0x1d, 0xde, 0x3b, 0x40, 0x00, 0x40, 0x11, 0x12, 0x68, 0xc0, 0xa8, 0x64,
    0x01, 0xc0, 0xa8, 0x64, 0xda, 0x00, 0x07, 0x30, 0x39, 0x00, 0x09, 0x00, 0x00, 0x61] :
      List UInt8).getD offset 0⟩

theorem echo_answers_request :
    5 ≤ request.ipv4Payload.ihl.toNat ∧ 8 ≤ request.ipv4Payload.udpPayload.length.toNat ∧
    request.echo.ipv4Payload.udpPayload.sourcePort = 12345 ∧
    request.echo.ipv4Payload.udpPayload.destinationPort = 7 ∧
    OnesComplement.sum 65536 request.echo.ipv4Payload.bigEndianWords = 0xffff := by
  have long : 5 ≤ request.ipv4Payload.ihl.toNat := by decide
  have whole : 8 ≤ request.ipv4Payload.udpPayload.length.toNat := by decide
  obtain ⟨-, -, sum, ⟨source, destination⟩, -⟩ := echo_answers request long whole
  exact ⟨long, whole, source.trans (by decide), destination.trans (by decide), sum⟩

end EthFrame

end Shoc.Eth

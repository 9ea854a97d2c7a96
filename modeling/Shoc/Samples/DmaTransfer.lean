/-
# Copying blocks by DMA

The samples `dma_server` and `dma_client`. The server tells the client in a message how
many blocks there are, how large they are, and how its memory is accessed. The client
copies the blocks with several tasks at a time, in a ring of awaitables like that of
the compression sample, says that it is done, and compares what it got.

The loop of the client should wait from the round on that comes back to the first slot,
but it begins one round later. So the copy of the first block is never awaited: the
client may say that it is done while that block is on its way, and if there are more
blocks than slots it destroys the awaitable of a task that is in flight. The comparison
cannot find out, since the first block is filled with the byte that fresh memory is
filled with.
-/

import Shoc.Data.LittleEndian
import Shoc.Doca.Basic
import Shoc.Transition.RollingWindow

namespace Shoc.Samples

open Data Transition LittleEndian

/-! ## The message -/

/-- `data_extents`. -/
structure DataExtents where
  blockCount : UInt32
  blockSize : UInt32
  remoteDesc : List UInt8
  deriving DecidableEq, Repr

namespace DataExtents

/-- `format_extents_message` of the server. -/
def formatMessage (extents : DataExtents) : List UInt8 :=
  bytes32 extents.blockCount ++ (bytes32 extents.blockSize ++ extents.remoteDesc)

/-- `from_message` of the client. -/
def fromMessage (msg : List UInt8) : Except DocaError DataExtents :=
  if msg.length ≤ 8 then .error .invalidValue
  else .ok ⟨word32 (msg.take 4), word32 ((msg.drop 4).take 4), msg.drop 8⟩

variable {extents : DataExtents} {msg : List UInt8}

theorem length_formatMessage : extents.formatMessage.length = 8 + extents.remoteDesc.length := by
  simp only [formatMessage, List.length_append, length_bytes32]
  omega

theorem fromMessage_formatMessage (described : extents.remoteDesc ≠ []) :
    fromMessage extents.formatMessage = .ok extents := by
  have longer := List.length_pos_iff.mpr described
  have rest : extents.formatMessage.drop 4 = bytes32 extents.blockSize ++ extents.remoteDesc :=
    List.drop_left' length_bytes32
  have last : extents.formatMessage.drop 8 = extents.remoteDesc := by
    rw [← List.drop_drop (i := 4) (j := 4), rest, List.drop_left' length_bytes32]
  have first : extents.formatMessage.take 4 = bytes32 extents.blockCount :=
    List.take_left' length_bytes32
  rw [fromMessage, if_neg (by rw [length_formatMessage]; omega), first, rest, last,
    List.take_left' length_bytes32, word32_bytes32, word32_bytes32]

theorem formatMessage_of_fromMessage (accepted : fromMessage msg = .ok extents) :
    extents.formatMessage = msg ∧ extents.remoteDesc ≠ [] := by
  rw [fromMessage] at accepted
  split at accepted
  · cases accepted
  · rename_i long
    cases accepted
    have rest : msg.drop 8 = (msg.drop 4).drop 4 := by rw [List.drop_drop]
    refine ⟨?_, fun empty => ?_⟩
    · rw [formatMessage, bytes32_word32 (by simp only [List.length_take]; omega),
        bytes32_word32 (by simp only [List.length_take, List.length_drop]; omega)]
      simp only
      rw [rest, List.take_append_drop, List.take_append_drop]
    · have short := List.drop_eq_nil_iff.mp empty
      omega

/-- **The client accepts exactly what the server sends**, for any message: it gets out of it the
extents that the server formats to this message, and refuses only messages without a
descriptor. -/
theorem fromMessage_eq_ok_iff (msg : List UInt8) (extents : DataExtents) :
    fromMessage msg = .ok extents ↔ extents.formatMessage = msg ∧ extents.remoteDesc ≠ [] :=
  ⟨formatMessage_of_fromMessage, fun ⟨sent, described⟩ =>
    sent ▸ fromMessage_formatMessage described⟩

end DataExtents

/-! ## The loop -/

/-- The client, with the number of blocks it was told and the parallelism it was called with. -/
structure DmaReceive where
  blockCount : UInt32
  parallelism : UInt32

namespace DmaReceive

variable {c : DmaReceive} {device : ℕ → Reply (List UInt8)} {memory : ℕ → List UInt8}
  {s : Window (List UInt8)}

def slots (c : DmaReceive) : ℕ := min c.parallelism.toNat c.blockCount.toNat

/-- The number of rounds is a sum of 32-bit numbers. Round `i` waits if `i` is greater than the
number of slots. -/
def program (c : DmaReceive) : List SlotInstr :=
  rollRounds c.slots (c.slots + 1) c.blockCount.toNat ((c.blockCount.toNat + c.slots) % 2 ^ 32)

/-- The client before it copies the first block. -/
def start (c : DmaReceive) (memory : ℕ → List UInt8) : Window (List UInt8) :=
  { program := c.program, memory }

/-- `json["data_error"]`. -/
def dataError (c : DmaReceive) (memory : ℕ → List UInt8) : Bool :=
  (List.range c.blockCount.toNat).any fun i => (memory i).any (· ≠ UInt8.ofNat i)

end DmaReceive

end Shoc.Samples

/-
# Compressing a file in chunks

The samples `simple_compress` and `parallel_compress` read a file that
`generate_testdata` has written, the number and the size of its batches and the
batches themselves, compress one batch after the other and write the results. The
first waits for each batch before it goes on. The second keeps four tasks going, in a
ring of awaitables that it assigns over and over, and waits for all of them in the
end.

That is the same, if there are at least four batches. If there are fewer, then some of
the awaitables were never assigned, and to await one of those ends the process: its
`await_ready` is `noexcept` and throws.
-/

import Shoc.Data.LittleEndian
import Shoc.Memory.AlignedBlocks
import Shoc.Transition.RollingWindow

namespace Shoc.Samples

open Data Memory Transition LittleEndian

/-- The two samples. -/
inductive CompressSample
  | parallel
  | simple
  deriving DecidableEq, Repr

namespace CompressSample

def parallelism : ℕ := 4

/-- What `compress_file` does with its awaitables. -/
def program (batches : ℕ) : CompressSample → List SlotInstr
  | .parallel =>
      rollRounds parallelism parallelism batches batches ++
        (List.range parallelism).map .await
  | .simple => (List.range batches).flatMap fun i => [.start 0 i, .await 0]

variable {kind : CompressSample} {batches : ℕ} {device : ℕ → Reply (List UInt8)}
  {s : Window (List UInt8)} {memory : ℕ → List UInt8}

end CompressSample

/-! ## Files -/

/-- The two numbers at the beginning of a file. -/
def header (batches batchsize : UInt32) : List UInt8 := bytes32 batches ++ bytes32 batchsize

/-- `compress_file` after it has read its input into the source blocks. -/
structure CompressFile where
  batches : UInt32
  batchsize : UInt32
  src : AlignedBlocks
  heap : ℕ → UInt8

namespace CompressFile

variable {allocator : Allocator} {heap : ℕ → UInt8} {file : List UInt8} {f : CompressFile}
  {batches batchsize : UInt32} {contents : List (List UInt8)}

/-- The header is read, the blocks are allocated, and as much is read into them as there is. -/
def read (allocator : Allocator) (heap : ℕ → UInt8) (file : List UInt8) : Option CompressFile :=
  if 8 ≤ file.length then
    let batches := word32 (file.take 4)
    let batchsize := word32 ((file.drop 4).take 4)
    (AlignedBlocks.construct allocator batches.toUInt64 batchsize.toUInt64 64).map fun src =>
      { batches, batchsize, src
        heap := Extent.store heap src.asBytes.start ((file.drop 8).take src.asBytes.size) }
  else none

/-- The bytes of a source block. -/
def source (f : CompressFile) (i : ℕ) : List UInt8 :=
  match f.src.block (UInt64.ofNat i) with
  | some block => Extent.read f.heap block
  | none => []

/-- The device compresses the source blocks. -/
def device (compress : List UInt8 → Reply (List UInt8)) (f : CompressFile) (i : ℕ) :
    Reply (List UInt8) :=
  compress (f.source i)

/-- The destination buffers are empty. -/
def start (f : CompressFile) (kind : CompressSample) : Window (List UInt8) :=
  { program := kind.program f.batches.toNat, memory := fun _ => [] }

/-- One result in the output, behind its size. -/
def entry (data : List UInt8) : List UInt8 := bytes32 (UInt32.ofNat data.length) ++ data

end CompressFile

end Shoc.Samples

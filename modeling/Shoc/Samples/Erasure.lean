/-
# Encoding a file and recovering it

The samples `erasure_encode` and `erasure_recover`. The first cuts a file into blocks,
lets the device compute redundancy blocks, and writes all of them with their indices.
The second reads what was written except for some blocks that are taken to be missing,
as many blocks as there was data; lets the device recover the missing ones; and puts
the data together again, from the blocks that were there and those that were
recovered.

What the device promises is stated once, for any code: from as many blocks as there
was data it recovers the missing ones. Everything else is about indices: the blocks
that are there are in the order of their indices, with some of the redundancy blocks at
the end, and the missing ones are in the order in which they were named.
-/

import Mathlib.Algebra.Group.Nat.Defs
import Mathlib.Data.List.Sort

namespace Shoc.Samples

/-- The bytes of a block. -/
abbrev Block := List UInt8

/-- The positions that are not missing, in ascending order. -/
def present (total : ℕ) (missing : List ℕ) : List ℕ :=
  (List.range total).filter (· ∉ missing)

/-- Some of the data that is written: a block with its index. -/
structure CodedBlock where
  index : ℕ
  content : Block
  deriving DecidableEq, Repr

/-- `std::ranges::unique`, for what is sorted: of equal elements only the last is left. -/
def unique : List ℕ → List ℕ
  | [] => []
  | [a] => [a]
  | a :: b :: rest => if a = b then unique (b :: rest) else a :: unique (b :: rest)

/-- The loop of `erasure_coded_data`, with the blocks that were written so far. It ends as soon as
there are enough of them. -/
def load (dataCount : ℕ) (ignored : List ℕ) : List CodedBlock → List Block → List Block
  | [], written => written
  | block :: rest, written =>
      if block.index ∈ ignored then load dataCount ignored rest written
      else if dataCount ≤ written.length + 1 then written ++ [block.content]
      else load dataCount ignored rest (written ++ [block.content])

/-- The number of blocks of a file. -/
def blockCount (file : List UInt8) (blockSize : ℕ) : ℕ := (file.length - 1) / blockSize + 1

/-- The bytes that were delivered, and zeros up to the end of the last block. -/
def padded (file : List UInt8) (delivered blockSize : ℕ) : List UInt8 :=
  file.take delivered ++
    List.replicate (blockCount file blockSize * blockSize - (file.take delivered).length) 0

variable {file : List UInt8} {delivered blockSize : ℕ}

end Shoc.Samples

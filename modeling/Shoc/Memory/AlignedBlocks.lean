/-
# Aligned memory in blocks

An `aligned_memory` allocates one alignment more than it is asked for and uses the
bytes from the first multiple of the alignment on. An `aligned_blocks` cuts such a
memory into blocks of one size.

The sizes are of type `std::size_t`: the product of the number and the size of the
blocks, its sum with the alignment and the offset of a block are computed modulo
`2 ^ 64`. Addresses are numbers; all those of an allocation and the one behind it
are below `2 ^ 64`. The heap is a function from addresses to bytes.
-/

import Mathlib.Algebra.Order.Ring.Nat
import Shoc.Data.Extent
import Shoc.Data.Population
import Shoc.Transition.Runs

namespace Shoc.Memory

open Data Transition

/-- The answers of the allocator of `std::vector`: it may throw, and it returns addresses. -/
structure Allocator where
  allocate : ℕ → Option ℕ
  addressable : ∀ n base, allocate n = some base → base + n < 2 ^ 64

/-- Construct `std::vector<std::byte>(n)`, with a `std::length_error` beyond `PTRDIFF_MAX`. -/
def Allocator.vector (allocator : Allocator) (n : UInt64) : Option Extent :=
  if n.toNat < 2 ^ 63 then (allocator.allocate n.toNat).map (⟨·, n.toNat⟩) else none

/-- The pointer and the space after `std::align`, which changes neither if the storage does not
fit in. -/
def align (alignment size ptr space : ℕ) : ℕ × ℕ :=
  if Extent.alignUp alignment ptr + size ≤ ptr + space then
    (Extent.alignUp alignment ptr, space - (Extent.alignUp alignment ptr - ptr))
  else (ptr, space)

/-! ## Aligned memory -/

/-- An `aligned_memory` with its vector `memory_` and the span `aligned_`. -/
structure AlignedMemory where
  memory : Extent := {}
  aligned : Extent := {}
  deriving DecidableEq, Repr

/-- What ends an assignment early. -/
inductive Fault
  | assertion
  | outOfBounds
  deriving DecidableEq, Repr

namespace AlignedMemory

variable {allocator : Allocator} {size alignment : UInt64} {m : AlignedMemory}

def construct (allocator : Allocator) (size alignment : UInt64) : Option AlignedMemory :=
  (allocator.vector (size + alignment)).map fun memory =>
    let (basePtr, _) := align alignment.toNat size.toNat memory.start memory.size
    { memory, aligned := ⟨basePtr, size.toNat⟩ }

/-- The bytes of `data` are copied, and the rest is filled with zeros. -/
def overwrite (m : AlignedMemory) (heap : ℕ → UInt8) (data : List UInt8) :
    Option (ℕ → UInt8) :=
  (Extent.storeIn m.memory heap m.aligned.start data).bind fun copied =>
    Extent.storeIn m.memory copied (m.aligned.start + data.length)
      (List.replicate (m.aligned.size - data.length) 0)

def assign (m : AlignedMemory) (heap : ℕ → UInt8) (data : List UInt8) :
    Except Fault (ℕ → UInt8) :=
  if data.length < m.aligned.size then
    match m.overwrite heap data with
    | some final => .ok final
    | none => .error .outOfBounds
  else .error .assertion

theorem of_construct (made : construct allocator size alignment = some m) :
    ∃ base, m.memory = ⟨base, (size + alignment).toNat⟩ ∧
      base + (size + alignment).toNat < 2 ^ 64 ∧
      m.aligned = ⟨(align alignment.toNat size.toNat base (size + alignment).toNat).1,
        size.toNat⟩ := by
  obtain ⟨memory, allocated, rfl⟩ := Option.map_eq_some_iff.mp made
  unfold Allocator.vector at allocated
  rw [Option.ite_none_right_eq_some] at allocated
  obtain ⟨base, answer, rfl⟩ := Option.map_eq_some_iff.mp allocated.2
  exact ⟨base, rfl, allocator.addressable _ _ answer, rfl⟩

theorem addressable_of_construct (made : construct allocator size alignment = some m) :
    m.memory.start + m.memory.size < 2 ^ 64 := by
  obtain ⟨base, vector, addressable, -⟩ := of_construct made
  rw [vector]
  exact addressable

/-- If the sum does not wrap, then one alignment more is enough. -/
theorem placed_of_construct (positive : 0 < alignment.toNat)
    (made : construct allocator size alignment = some m)
    (fits : size.toNat + alignment.toNat < 2 ^ 64) :
    alignment.toNat ∣ m.aligned.start ∧ m.memory.start ≤ m.aligned.start ∧
      m.aligned.start + m.aligned.size ≤ m.memory.start + m.memory.size := by
  obtain ⟨base, vector, -, aligned⟩ := of_construct made
  have least := Extent.le_alignUp (a := base) positive
  have small := Extent.alignUp_lt (a := base) positive
  rw [UInt64.toNat_add, Nat.mod_eq_of_lt fits] at vector aligned
  rw [align, if_pos (by omega)] at aligned
  rw [vector, aligned]
  exact ⟨Extent.dvd_alignUp, least, by simp only; omega⟩

/-- If the sum wraps, then the vector is shorter than what is used of it. -/
theorem size_lt_of_construct (made : construct allocator size alignment = some m)
    (wraps : 2 ^ 64 ≤ size.toNat + alignment.toNat) : m.memory.size < m.aligned.size := by
  obtain ⟨base, vector, -, aligned⟩ := of_construct made
  have bound := alignment.toNat_lt
  rw [UInt64.toNat_add] at vector
  rw [vector, aligned]
  simp only
  omega

end AlignedMemory

/-! ## Blocks -/

/-- An `aligned_blocks` with all of its members. -/
structure AlignedBlocks where
  memory : AlignedMemory := {}
  blockCount : UInt64 := 0
  blockSize : UInt64 := 0
  deriving DecidableEq, Repr

namespace AlignedBlocks

variable {allocator : Allocator} {blockCount blockSize alignment : UInt64}
  {object : AlignedBlocks} {pieces : List Extent}

/-- The assertion of the constructor comes after its members are constructed. -/
def construct (allocator : Allocator) (blockCount blockSize alignment : UInt64) :
    Option AlignedBlocks :=
  (AlignedMemory.construct allocator (blockCount * blockSize) alignment).bind fun memory =>
    if blockSize % alignment = 0 then some { memory, blockCount, blockSize } else none

def asBytes (object : AlignedBlocks) : Extent := object.memory.aligned

/-- The result of `block` and `writable_block`, unless it is outside the memory. -/
def block (object : AlignedBlocks) (index : UInt64) : Option Extent :=
  object.asBytes.part (index * object.blockSize).toNat object.blockSize.toNat

def assign (object : AlignedBlocks) (heap : ℕ → UInt8) (data : List UInt8) :
    Except Fault (ℕ → UInt8) :=
  object.memory.assign heap data

/-- The blocks in the order of their indices. -/
def blocks (object : AlignedBlocks) : List (Option Extent) :=
  (List.range object.blockCount.toNat).map fun i => object.block (UInt64.ofNat i)

/-- The number of bytes that all blocks have together. -/
def capacity (object : AlignedBlocks) : ℕ := object.blockCount.toNat * object.blockSize.toNat

/-- The memory has as many bytes as the blocks, and all of them were allocated. -/
def Whole (object : AlignedBlocks) : Prop :=
  object.asBytes.size = object.capacity ∧ object.asBytes ⊆ object.memory.memory

/-- There is not more memory than the blocks have bytes. -/
structure Sound (object : AlignedBlocks) : Prop where
  size_le : object.asBytes.size ≤ object.capacity
  size_lt : object.asBytes.size < 2 ^ 64

/-- The blocks are a partition of the memory: each has the size of a block, begins at a multiple
of the alignment and lies inside the vector, no two share a byte, and one after another they are
the memory. All addresses are below the end of the address space. -/
structure Partitioned (object : AlignedBlocks) (alignment : ℕ) (pieces : List Extent) : Prop where
  blocks : object.blocks = pieces.map some
  sized : ∀ piece ∈ pieces, piece.size = object.blockSize.toNat
  aligned : ∀ piece ∈ pieces, alignment ∣ piece.start
  inside : ∀ piece ∈ pieces, piece ⊆ object.memory.memory
  addressable : ∀ piece ∈ pieces, piece.start + piece.size < 2 ^ 64
  apart : pieces.Pairwise Extent.Apart
  whole : pieces.flatMap Extent.addresses = object.asBytes.addresses

theorem toNat_offset {i : ℕ} (before : i < object.blockCount.toNat)
    (fits : i * object.blockSize.toNat < 2 ^ 64) :
    (UInt64.ofNat i * object.blockSize).toNat = i * object.blockSize.toNat := by
  have count := object.blockCount.toNat_lt
  rw [UInt64.toNat_mul, UInt64.toNat_ofNat_of_lt' (Nat.lt_trans before count),
    Nat.mod_eq_of_lt fits]

/-- Offsets below the end of the memory do not wrap. -/
theorem blocks_of_capacity_le (bound : object.asBytes.size < 2 ^ 64)
    (enough : object.capacity ≤ object.asBytes.size) :
    object.blocks = (Extent.pieces object.asBytes.start object.blockSize.toNat
      object.blockCount.toNat).map some := by
  unfold blocks Extent.pieces
  rw [List.map_map]
  refine List.map_congr_left fun i among => ?_
  have before := List.mem_range.mp among
  have ends : (i + 1) * object.blockSize.toNat ≤ object.capacity := Nat.mul_le_mul_right _ before
  rw [Nat.succ_mul] at ends
  rw [block, toNat_offset before (by omega), Extent.part, if_pos (by omega)]
  rfl

/-- In a memory that is too short, the block that contains its end is outside. -/
theorem capacity_le_of_blocks (bound : object.asBytes.size < 2 ^ 64)
    (inside : object.blocks = pieces.map some) : object.capacity ≤ object.asBytes.size := by
  by_contra short
  rw [Nat.not_le, capacity] at short
  have positive : 0 < object.blockSize.toNat := by
    rw [Nat.pos_iff_ne_zero]
    intro zero
    simp [zero] at short
  obtain ⟨i, position⟩ : ∃ i, i = object.asBytes.size / object.blockSize.toNat := ⟨_, rfl⟩
  have before : i < object.blockCount.toNat := by
    rw [position, Nat.div_lt_iff_lt_mul positive]
    exact short
  have rest := Nat.div_add_mod' object.asBytes.size object.blockSize.toNat
  have within := Nat.mod_lt object.asBytes.size positive
  rw [← position] at rest
  have outside : object.block (UInt64.ofNat i) = none := by
    rw [block, toNat_offset before (by omega), Extent.part, if_neg (by omega)]
  have among : object.block (UInt64.ofNat i) ∈ object.blocks :=
    List.mem_map.mpr ⟨i, List.mem_range.mpr before, rfl⟩
  rw [inside, outside] at among
  simp at among

theorem of_construct
    (made : construct allocator blockCount blockSize alignment = some object) :
    AlignedMemory.construct allocator (blockCount * blockSize) alignment = some object.memory ∧
      alignment.toNat ∣ blockSize.toNat ∧ object.blockCount = blockCount ∧
      object.blockSize = blockSize := by
  obtain ⟨memory, constructed, asserted⟩ := Option.bind_eq_some_iff.mp made
  rw [Option.ite_none_right_eq_some] at asserted
  obtain ⟨multiple, same⟩ := asserted
  cases same
  refine ⟨constructed, ?_, rfl, rfl⟩
  have zero := congrArg UInt64.toNat multiple
  rw [UInt64.toNat_mod] at zero
  exact Nat.dvd_of_mod_eq_zero zero

theorem size_of_construct
    (made : construct allocator blockCount blockSize alignment = some object) :
    object.asBytes.size = object.capacity % 2 ^ 64 := by
  obtain ⟨constructed, -, rfl, rfl⟩ := of_construct made
  obtain ⟨base, -, -, aligned⟩ := AlignedMemory.of_construct constructed
  rw [asBytes, aligned, UInt64.toNat_mul]
  rfl

/-- The memory is whole exactly if neither the product nor the sum wraps. -/
theorem whole_iff (positive : 0 < alignment.toNat)
    (made : construct allocator blockCount blockSize alignment = some object) :
    object.Whole ↔ blockCount.toNat * blockSize.toNat + alignment.toNat < 2 ^ 64 := by
  have size := size_of_construct made
  obtain ⟨constructed, -, rfl, rfl⟩ := of_construct made
  change _ ↔ object.capacity + alignment.toNat < 2 ^ 64
  have product : (object.blockCount * object.blockSize).toNat = object.asBytes.size := by
    rw [UInt64.toNat_mul, size]
    rfl
  have bound := alignment.toNat_lt
  constructor
  · rintro ⟨all, allocated⟩
    by_contra wraps
    have short := AlignedMemory.size_lt_of_construct constructed (by omega)
    change object.memory.memory.size < object.asBytes.size at short
    rw [Extent.subset_iff] at allocated
    omega
  · intro fits
    obtain ⟨-, first, last⟩ :=
      AlignedMemory.placed_of_construct positive constructed (by omega)
    exact ⟨by omega, Extent.subset_iff.mpr (Or.inr ⟨first, last⟩)⟩

theorem sound_construct
    (made : construct allocator blockCount blockSize alignment = some object) : object.Sound := by
  have size := size_of_construct made
  exact ⟨size ▸ Nat.mod_le _ _, size ▸ Nat.mod_lt _ (Nat.two_pow_pos 64)⟩

/-- Every byte of a memory that is partitioned is in a block, and so in the vector. -/
theorem Partitioned.whole_of_sound {multiple : ℕ} (partitioned : object.Partitioned multiple pieces)
    (sound : object.Sound) : object.Whole := by
  have enough := capacity_le_of_blocks sound.size_lt partitioned.blocks
  refine ⟨Nat.le_antisymm sound.size_le enough, fun a among => ?_⟩
  have listed : a ∈ object.asBytes.addresses := Extent.mem_addresses.mpr among
  rw [← partitioned.whole, List.mem_flatMap] at listed
  obtain ⟨piece, one, within⟩ := listed
  exact partitioned.inside piece one a (Extent.mem_addresses.mp within)

theorem partitioned_of_whole {multiple : ℕ} (whole : object.Whole)
    (first : multiple ∣ object.asBytes.start) (each : multiple ∣ object.blockSize.toNat)
    (below : object.asBytes.start + object.asBytes.size < 2 ^ 64) :
    object.Partitioned multiple
      (Extent.pieces object.asBytes.start object.blockSize.toNat object.blockCount.toNat) := by
  have memory : (⟨object.asBytes.start, object.capacity⟩ : Extent) = object.asBytes := by
    rw [← whole.1]
  refine ⟨blocks_of_capacity_le (by omega) whole.1.ge, ?_, ?_, ?_, ?_, Extent.pieces_apart, ?_⟩
  · intro piece one
    obtain ⟨i, -, rfl⟩ := Extent.mem_pieces.mp one
    rfl
  · intro piece one
    obtain ⟨i, -, rfl⟩ := Extent.mem_pieces.mp one
    exact Nat.dvd_add first (Nat.dvd_mul_left_of_dvd each i)
  · intro piece one a within
    have among := Extent.subset_of_mem_pieces one a within
    exact whole.2 a (memory ▸ among)
  · intro piece one
    have ends := Extent.end_le_of_mem_pieces one
    change _ ≤ object.asBytes.start + object.capacity at ends
    rw [← whole.1] at ends
    omega
  · rw [Extent.flatMap_addresses_pieces]
    exact congrArg Extent.addresses memory

/-- **The blocks partition the memory exactly if the size computations do not wrap**, for any
number and size of blocks, any alignment and any address that the allocator returns. -/
theorem partitioned_iff (allocator : Allocator) (blockCount blockSize alignment : UInt64)
    (object : AlignedBlocks) (power : alignment.toNat.isPowerOfTwo)
    (made : construct allocator blockCount blockSize alignment = some object) :
    (∃ pieces, object.Partitioned alignment.toNat pieces) ↔
      blockCount.toNat * blockSize.toNat + alignment.toNat < 2 ^ 64 := by
  have positive := Nat.pos_of_isPowerOfTwo power
  constructor
  · rintro ⟨pieces, partitioned⟩
    exact (whole_iff positive made).mp (partitioned.whole_of_sound (sound_construct made))
  · intro fits
    have whole := (whole_iff positive made).mpr fits
    obtain ⟨constructed, divides, rfl, rfl⟩ := of_construct made
    have below := AlignedMemory.addressable_of_construct constructed
    obtain ⟨multiple, -, last⟩ := AlignedMemory.placed_of_construct positive constructed (by
      rw [UInt64.toNat_mul, Nat.mod_eq_of_lt (by omega)]
      exact fits)
    exact ⟨_, partitioned_of_whole whole multiple divides (Nat.lt_of_le_of_lt last below)⟩

/-- An allocator that returns an address that is not aligned. -/
def oddAllocator : Allocator where
  allocate n := if n ≤ 2 ^ 32 then some 4100 else none
  addressable n base answer := by
    simp only [Option.ite_none_right_eq_some, Option.some.injEq] at answer
    omega

/-- Three blocks of 128 bytes, on cache lines. -/
def threeBlocks : AlignedBlocks where
  memory := ⟨⟨4100, 448⟩, ⟨4160, 384⟩⟩
  blockCount := 3
  blockSize := 128

theorem construct_threeBlocks : construct oddAllocator 3 128 64 = some threeBlocks := by decide

theorem partitioned_iff_threeBlocks :
    ∃ pieces, threeBlocks.Partitioned (64 : UInt64).toNat pieces :=
  (partitioned_iff oddAllocator 3 128 64 threeBlocks (by decide) construct_threeBlocks).mpr
    (by decide)

/-- The size of `2 ^ 58 + 1` blocks of 64 bytes is computed as 64. The second block is already
outside the memory. -/
theorem product_wraps :
    ∃ object, construct oddAllocator 288230376151711745 64 64 = some object ∧
      1 < object.blockCount ∧ object.asBytes.size = 64 ∧ object.block 1 = none :=
  ⟨⟨⟨⟨4100, 128⟩, ⟨4160, 64⟩⟩, 288230376151711745, 64⟩, by decide⟩

end AlignedBlocks

end Shoc.Memory

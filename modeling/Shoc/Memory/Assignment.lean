/-
# Assigning to aligned blocks

Bytes are assigned to an `aligned_blocks` as a whole and read back block by block. What
comes back should be the bytes and zeros behind them, as long as the bytes fit in.

Whether they do is asserted with a comparison that is strict, and so bytes that fill the
memory are refused. It also matters what the object is: one that was moved from still
has the number and the size of its blocks, but no memory.
-/

import Shoc.Memory.AlignedBlocks

namespace Shoc.Memory

open Data Transition

abbrev BlocksId := ℕ

/-- What makes, moves and destroys objects. -/
inductive BlocksOp
  | defaultConstruct
  | construct (allocator : Allocator) (blockCount blockSize alignment : UInt64)
  | moveConstruct (other : BlocksId)
  | moveAssign (self other : BlocksId)
  | destroy (self : BlocksId)

namespace AlignedBlocks

variable {object : AlignedBlocks} {objects next : Population AlignedBlocks} {op : BlocksOp}
  {heap final : ℕ → UInt8} {data : List UInt8}

/-! ## The life of an object -/

/-- The implicit move operations copy the numbers, but exchange the memory for an empty one. -/
def movedFrom (object : AlignedBlocks) : AlignedBlocks := { object with memory := {} }

/-- Nothing is said of an alignment for which `std::align` is not defined. A constructor that
throws leaves no object. -/
def step (objects : Population AlignedBlocks) : BlocksOp → Option (Population AlignedBlocks)
  | .defaultConstruct => some (objects.create {})
  | .construct allocator blockCount blockSize alignment =>
      if alignment.toNat.isPowerOfTwo then
        match construct allocator blockCount blockSize alignment with
        | some object => some (objects.create object)
        | none => some objects
      else none
  | .moveConstruct other =>
      (objects.read other).map fun object => (objects.write other object.movedFrom).create object
  | .moveAssign self other =>
      (objects.read self).bind fun _ => (objects.read other).map fun object =>
        -- The memory is taken before it is assigned, so an object keeps it if assigned to itself
        (objects.write other object.movedFrom).write self object
  | .destroy self => (objects.read self).map fun _ => objects.destroy self

theorem sound_of_empty (empty : object.memory = {}) : object.Sound := by
  constructor <;> simp [asBytes, empty]

theorem sound_step (sound : objects.All Sound) (taken : step objects op = some next) :
    next.All Sound := by
  cases op with
  | defaultConstruct =>
    cases taken
    exact sound.create (sound_of_empty rfl)
  | construct allocator blockCount blockSize alignment =>
    rw [step, Option.ite_none_right_eq_some] at taken
    obtain ⟨-, taken⟩ := taken
    split at taken
    · rename_i made
      cases taken
      exact sound.create (sound_construct made)
    · cases taken
      exact sound
  | moveConstruct other =>
    obtain ⟨object, source, rfl⟩ := Option.map_eq_some_iff.mp taken
    exact (sound.write source (sound_of_empty rfl)).create (sound other object source)
  | moveAssign self other =>
    obtain ⟨old, target, moved⟩ := Option.bind_eq_some_iff.mp taken
    obtain ⟨object, source, rfl⟩ := Option.map_eq_some_iff.mp moved
    have emptied : (objects.write other object.movedFrom).All Sound :=
      sound.write source (sound_of_empty rfl)
    have still : ((objects.write other object.movedFrom).read self).isSome :=
      (Population.isSome_read_write (Option.isSome_of_eq_some source)).mpr
        (Option.isSome_of_eq_some target)
    obtain ⟨held, found⟩ := Option.isSome_iff_exists.mp still
    exact emptied.write found (sound other object source)
  | destroy self =>
    obtain ⟨object, alive, rfl⟩ := Option.map_eq_some_iff.mp taken
    exact sound.destroy

theorem sound_of_exec {ops : List BlocksOp} (done : exec step {} ops = some objects) :
    objects.All Sound := by
  have run : Run step Always {} ops objects := ⟨done, meets_always _ ops⟩
  exact run.invariant (fun objects => objects.All Sound)
    (fun _ _ _ sound _ taken => sound_step sound taken) Population.All.empty

/-! ## Assignment -/

/-- The bytes and zeros behind them. -/
def padded (object : AlignedBlocks) (data : List UInt8) : List UInt8 :=
  data ++ List.replicate (object.capacity - data.length) 0

/-- All blocks can be read, they contain the data and zeros behind it, and no byte outside the
memory has changed. -/
def Lossless (object : AlignedBlocks) (heap : ℕ → UInt8) (data : List UInt8)
    (final : ℕ → UInt8) : Prop :=
  (∃ pieces : List Extent, object.blocks = pieces.map some ∧
    pieces.flatMap (Extent.read final) = object.padded data) ∧
  ∀ a, a ∉ object.asBytes → final a = heap a

theorem length_padded (fits : data.length ≤ object.capacity) :
    (object.padded data).length = object.capacity := by
  rw [padded, List.length_append, List.length_replicate]
  omega

/-- What is copied and filled is one store. -/
theorem overwrite_eq_some_iff (whole : object.asBytes.size = object.capacity)
    (fits : data.length ≤ object.capacity) :
    object.memory.overwrite heap data = some final ↔
      object.asBytes ⊆ object.memory.memory ∧
        Extent.store heap object.asBytes.start (object.padded data) = final := by
  unfold asBytes at whole
  simp only [AlignedMemory.overwrite, Option.bind_eq_some_iff, Extent.storeIn_eq_some_iff,
    padded, Extent.store_append, asBytes, whole]
  constructor
  · rintro ⟨copied, ⟨front, rfl⟩, rest, rfl⟩
    refine ⟨?_, rfl⟩
    simp only [Extent.subset_iff, List.length_replicate] at front rest ⊢
    omega
  · rintro ⟨allocated, rfl⟩
    rw [Extent.subset_iff] at allocated
    refine ⟨_, ⟨?_, rfl⟩, ?_, rfl⟩
    · simp only [Extent.subset_iff]
      omega
    · simp only [Extent.subset_iff, List.length_replicate]
      omega

theorem assign_eq_ok_iff : object.assign heap data = .ok final ↔
    data.length < object.asBytes.size ∧ object.memory.overwrite heap data = some final := by
  unfold assign AlignedMemory.assign asBytes
  split
  · rename_i fits
    cases object.memory.overwrite heap data <;> simp [fits]
  · rename_i asserted
    simp [asserted]

/-- Copying and filling is lossless exactly if the memory is whole. -/
theorem overwrite_lossless_iff (heap : ℕ → UInt8) (sound : object.Sound)
    (fits : data.length ≤ object.capacity) :
    (∃ final, object.memory.overwrite heap data = some final ∧
      object.Lossless heap data final) ↔ object.Whole := by
  constructor
  · rintro ⟨final, written, ⟨pieces, blocks, -⟩, -⟩
    have enough := capacity_le_of_blocks sound.size_lt blocks
    have whole : object.asBytes.size = object.capacity := Nat.le_antisymm sound.size_le enough
    exact ⟨whole, ((overwrite_eq_some_iff whole fits).mp written).1⟩
  · rintro ⟨whole, allocated⟩
    have memory : (⟨object.asBytes.start, (object.padded data).length⟩ : Extent) =
        object.asBytes := by
      rw [length_padded fits, ← whole]
    refine ⟨_, (overwrite_eq_some_iff whole fits).mpr ⟨allocated, rfl⟩,
      ⟨_, blocks_of_capacity_le sound.size_lt whole.ge, ?_⟩, ?_⟩
    · rw [Extent.flatMap_read, Extent.flatMap_addresses_pieces]
      change Extent.read _ ⟨_, object.capacity⟩ = _
      rw [← length_padded fits]
      exact Extent.read_store
    · intro a outside
      exact Extent.store_of_notMem (memory ▸ outside)

/-- **Assigning is lossless exactly if the memory is whole and the data does not fill it**, for
any object and any content that its memory had. Without the assertion it would be lossless
exactly if the memory is whole. -/
theorem assign_lossless_iff (ops : List BlocksOp) (objects : Population AlignedBlocks)
    (self : BlocksId) (object : AlignedBlocks) (heap : ℕ → UInt8) (data : List UInt8)
    (done : exec step {} ops = some objects) (alive : objects.read self = some object)
    (fits : data.length ≤ object.capacity) :
    ((∃ final, object.assign heap data = .ok final ∧ object.Lossless heap data final) ↔
      object.Whole ∧ data.length < object.capacity) ∧
    ((∃ final, object.memory.overwrite heap data = some final ∧
      object.Lossless heap data final) ↔ object.Whole) := by
  have sound := sound_of_exec done self object alive
  have written := overwrite_lossless_iff heap sound fits
  refine ⟨?_, written⟩
  simp only [assign_eq_ok_iff, and_assoc, exists_and_left]
  rw [written, and_comm]
  exact and_congr_right fun whole => by rw [whole.1]

/-- The bytes 1, 2, 3 are assigned to three blocks that were moved. -/
theorem assign_lossless_iff_moved : ∃ final,
    threeBlocks.assign (fun _ => 255) [1, 2, 3] = .ok final ∧
      threeBlocks.Lossless (fun _ => 255) [1, 2, 3] final :=
  (assign_lossless_iff [.construct oddAllocator 3 128 64, .moveConstruct 0]
    ⟨[some threeBlocks.movedFrom, some threeBlocks]⟩ 1 threeBlocks (fun _ => 255) [1, 2, 3]
    (by decide) (by decide) (by decide)).1.mpr
    ⟨⟨by decide, Extent.subset_iff.mpr (by decide)⟩, by decide⟩

/-- Data that fills the three blocks exactly fails the assertion. -/
theorem full_assignment_asserts :
    exec step {} [.construct oddAllocator 3 128 64] = some ⟨[some threeBlocks]⟩ ∧
      ∀ (heap : ℕ → UInt8) (data : List UInt8), data.length = threeBlocks.capacity →
        threeBlocks.assign heap data = .error .assertion := by
  refine ⟨by decide, fun heap data full => ?_⟩
  have asserted : ¬ data.length < threeBlocks.memory.aligned.size := by
    rw [full]
    decide
  rw [assign, AlignedMemory.assign, if_neg asserted]

end AlignedBlocks

end Shoc.Memory

import Atolla.Base

/-!
# Memory blocks (`mem/block.c`)

`data` is the address the block refers to, so a slice shares the memory of its block and nothing but the size it
carries keeps a reader inside it. `malloc` succeeds.
-/

set_option autoImplicit false

namespace Atolla

/-- `MemBlock`. -/
structure MemBlock where
  data : Bytes
  size : Nat
  capacity : Nat

/-- `mem_block_make`. -/
def memBlockMake (data : Bytes) (size : Nat) : MemBlock := ⟨data, size, size⟩

/-- `mem_block_alloc`. -/
def memBlockAlloc (H : Host) (initialCapacity : Nat) : MemBlock :=
  ⟨if 0 < initialCapacity then malloc H initialCapacity else [], 0, initialCapacity⟩

/-- `mem_block_slice`. -/
def memBlockSlice (block : MemBlock) (sliceByteOffset sliceByteLength : Nat) : Run MemBlock := do
  assert (sizeT (sliceByteOffset + sliceByteLength) ≤ block.size)
  return ⟨block.data.drop sliceByteOffset, sliceByteLength, sliceByteLength⟩

/-- `mem_block_resize`. -/
def memBlockResize (H : Host) (block : MemBlock) (newSize : Nat) : MemBlock :=
  let block := if block.capacity < newSize then memBlockAlloc H newSize else block
  { block with size := newSize }

/-- The bytes a block of its size holds. -/
def MemBlock.bytes (block : MemBlock) : Bytes := block.data.take block.size

/-- The block lies inside its object. -/
def MemBlock.Valid (block : MemBlock) : Prop := block.size ≤ block.data.length

/-- The block owns an object of exactly its capacity. -/
def MemBlock.Owned (block : MemBlock) : Prop := block.data.length = block.capacity

/-- A block of the given bytes. -/
def MemBlock.ofBytes (bytes : Bytes) : MemBlock := memBlockMake bytes bytes.length

@[simp] theorem MemBlock.bytes_ofBytes (bytes : Bytes) : (MemBlock.ofBytes bytes).bytes = bytes := by
  simp [MemBlock.ofBytes, MemBlock.bytes, memBlockMake]

@[simp] theorem MemBlock.size_ofBytes (bytes : Bytes) : (MemBlock.ofBytes bytes).size = bytes.length := rfl

theorem MemBlock.valid_ofBytes (bytes : Bytes) : (MemBlock.ofBytes bytes).Valid := Nat.le_refl _

theorem MemBlock.length_bytes {block : MemBlock} (h : block.Valid) : block.bytes.length = block.size := by
  rw [MemBlock.bytes, List.length_take_of_le h]

theorem memBlockAlloc_owned (H : Host) (n : Nat) : (memBlockAlloc H n).Owned := by
  unfold memBlockAlloc MemBlock.Owned
  split
  · simp
  · simp; omega

/-- A slice inside its block. -/
theorem memBlockSlice_ok {block : MemBlock} {off len : Nat} (h : off + len ≤ block.size)
    (hs : off + len < 2 ^ 64) : memBlockSlice block off len = .ok ⟨block.data.drop off, len, len⟩ := by
  rw [memBlockSlice, sizeT_of_lt hs, assert_pos h]
  rfl

theorem memBlockResize_owned (H : Host) {block : MemBlock} (h : block.Owned) (n : Nat) :
    (memBlockResize H block n).Owned := by
  unfold memBlockResize
  split
  · exact memBlockAlloc_owned H n
  · exact h

/-- After a resize the object holds the new size. -/
theorem memBlockResize_fits (H : Host) {block : MemBlock} (h : block.Owned) (n : Nat) :
    n ≤ (memBlockResize H block n).data.length := by
  unfold memBlockResize
  split
  · exact (memBlockAlloc_owned H n).ge
  · have : block.data.length = block.capacity := h
    simp only; omega

end Atolla

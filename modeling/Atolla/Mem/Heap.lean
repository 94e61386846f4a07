import Atolla.Lib.Heap
import Atolla.Lib.Loop
import Atolla.Sink.Model
import Atolla.Source.Model

/-!
# What is allocated and freed

The functions of `mem/block.c`, `mem/ring.c`, `msg/builder.c` and the two peers once more, as to their memory: a block
here is an address, and `malloc` may find no memory. A block with a capacity has an object of its own (`HeapBlock`). For
each function one lemma says what it does to the books (`memBlockResizeHeap_ledger`, `sinkMakeHeap_ledger`, ...), and
the blocks have the sizes of those of the model with contents (`Sized`).
-/

set_option autoImplicit false

namespace Atolla

open Loop
open Heap (Allocator Ledger)

/-! ## Blocks -/

/-- What ends a process. -/
inductive HeapFault where
  /-- An assertion behind a `malloc` that found no memory. -/
  | noMemory
  /-- The assertion of `build` about the length of the payload. -/
  | payloadLength
  /-- An access to a null pointer. -/
  | nullAccess
  /-- A `free` of something that is not allocated. -/
  | badFree
  deriving DecidableEq

/-- A run of a function, with the live objects. -/
abbrev HeapRun (α : Type) := Except HeapFault α

/-- `free`. -/
def heapFree (live : List ℕ) (a : ℕ) : HeapRun (List ℕ) :=
  match Heap.free live a with
  | some live => .ok live
  | none => .error .badFree

/-- `MemBlock`, by its address. -/
structure HeapBlock where
  data : Option ℕ
  size : ℕ
  capacity : ℕ
  owns : 0 < capacity → data.isSome

/-- The objects of a block. -/
def HeapBlock.objects (block : HeapBlock) : List ℕ := if 0 < block.capacity then block.data.toList else []

section Block

variable (A : Allocator) (live : List ℕ)

/-- `mem_block_alloc`. -/
def memBlockAllocHeap (initialCapacity : ℕ) : HeapRun (HeapBlock × List ℕ) :=
  if h : 0 < initialCapacity then
    match Heap.malloc A live with
    | (some a, live) => .ok (⟨some a, 0, initialCapacity, fun _ => rfl⟩, live)
    | (none, _) => .error .noMemory
  else
    .ok (⟨none, 0, initialCapacity, fun h' => absurd h' h⟩, live)

/-- `free` of the memory of a block, if it has any. -/
def HeapBlock.release (block : HeapBlock) : HeapRun (List ℕ) :=
  if h : 0 < block.capacity then heapFree live (block.data.get (block.owns h)) else .ok live

/-- `mem_block_resize`. -/
def memBlockResizeHeap (block : HeapBlock) (newSize : ℕ) : HeapRun (HeapBlock × List ℕ) :=
  if block.capacity < newSize then do
    let live ← block.release live
    let (block, live) ← memBlockAllocHeap A live newSize
    return ({ block with size := newSize }, live)
  else
    return ({ block with size := newSize }, live)

/-- `mem_block_free`; the block it leaves has no memory. -/
def memBlockFreeHeap (block : HeapBlock) : HeapRun (List ℕ) := block.release live

/-- `mem_ring_alloc`, as to its block. -/
def memRingAllocHeap (capacity : ℕ) : HeapRun (HeapBlock × List ℕ) := do
  let (block, live) ← memBlockAllocHeap A live capacity
  return ({ block with size := capacity }, live)

/-- `mem_ring_free`. -/
def memRingFreeHeap (buf : HeapBlock) : HeapRun (List ℕ) := memBlockFreeHeap live buf

/-- `msg_builder_init`. -/
def msgBuilderInitHeap : HeapRun (HeapBlock × List ℕ) := memBlockAllocHeap A live initialBlockCapacity

/-- `build`, for a payload of this length. -/
def buildHeap (msgBuf : HeapBlock) (payloadLen : ℕ) : HeapRun (HeapBlock × List ℕ) :=
  if payloadLen ≤ maxPayloadLen then memBlockResizeHeap A live msgBuf (headerLen + payloadLen)
  else .error .payloadLength

/-- `msg_builder_free`. -/
def msgBuilderFreeHeap (msgBuf : HeapBlock) : HeapRun (List ℕ) := memBlockFreeHeap live msgBuf

end Block

section BlockLedger

variable {A : Allocator} {live live' held : List ℕ} {block block' : HeapBlock} {n : ℕ}

theorem HeapBlock.objects_pos (h : 0 < block.capacity) : block.objects = [block.data.get (block.owns h)] := by
  obtain ⟨a, ha⟩ := Option.isSome_iff_exists.mp (block.owns h)
  simp [objects, h, ha]

theorem HeapBlock.objects_zero (h : ¬0 < block.capacity) : block.objects = [] := if_neg h

theorem HeapBlock.length_objects (h : 0 < block.capacity) : block.objects.length = 1 := by
  rw [objects_pos h, List.length_singleton]

theorem heapFree_ledger {a : ℕ} (h : Ledger live (a :: held)) :
    ∃ live', heapFree live a = .ok live' ∧ Ledger live' held := by
  obtain ⟨live', e, h'⟩ := h.free
  exact ⟨live', by rw [heapFree, e], h'⟩

/-- **A block** can be freed. -/
theorem HeapBlock.release_ledger (h : Ledger live (block.objects ++ held)) :
    ∃ live', block.release live = .ok live' ∧ Ledger live' held := by
  by_cases hc : 0 < block.capacity
  · rw [objects_pos hc] at h
    rw [release, dif_pos hc]
    exact heapFree_ledger h
  · rw [objects_zero hc] at h
    rw [release, dif_neg hc]
    exact ⟨live, rfl, h⟩

/-- **A new block**, unless there is no memory. -/
theorem memBlockAllocHeap_ledger (h : Ledger live held) (n : ℕ) :
    (memBlockAllocHeap A live n = .error .noMemory ∧ A.pick live = none) ∨
      ∃ block live', memBlockAllocHeap A live n = .ok (block, live') ∧
        Ledger live' (block.objects ++ held) ∧ block.size = 0 ∧ block.capacity = n := by
  unfold memBlockAllocHeap
  by_cases hn : 0 < n
  · rw [dif_pos hn]
    cases e : Heap.malloc A live with
    | mk p live' =>
      cases p with
      | none => exact .inl ⟨rfl, Heap.pick_of_malloc e⟩
      | some a =>
        refine .inr ⟨_, live', rfl, ?_, rfl, rfl⟩
        rw [HeapBlock.objects_pos hn]
        exact h.malloc e
  · rw [dif_neg hn]
    refine .inr ⟨_, live, rfl, ?_, rfl, rfl⟩
    rw [HeapBlock.objects_zero hn]
    exact h

theorem memBlockAllocHeap_ok (h : Ledger live held) (e : memBlockAllocHeap A live n = .ok (block, live')) :
    Ledger live' (block.objects ++ held) ∧ block.capacity = n := by
  rcases memBlockAllocHeap_ledger (A := A) h n with ⟨e', -⟩ | ⟨block', live'', e', h', -, hc⟩
  · rw [e'] at e
    cases e
  · rw [e'] at e
    cases e
    exact ⟨h', hc⟩

/-- **A resize** frees what the block had, when it takes anything new. -/
theorem memBlockResizeHeap_ledger (h : Ledger live (block.objects ++ held)) (n : ℕ) :
    (memBlockResizeHeap A live block n = .error .noMemory ∧ ∃ live, A.pick live = none) ∨
      ∃ block' live', memBlockResizeHeap A live block n = .ok (block', live') ∧
        Ledger live' (block'.objects ++ held) ∧ block'.size = n ∧ block'.capacity = max block.capacity n := by
  unfold memBlockResizeHeap
  by_cases hsmall : block.capacity < n
  · rw [if_pos hsmall]
    obtain ⟨live₁, e₁, h₁⟩ := HeapBlock.release_ledger h
    rw [e₁, ok_bind]
    rcases memBlockAllocHeap_ledger (A := A) h₁ n with ⟨e₂, hpick⟩ | ⟨block', live', e₂, h₂, -, hc⟩
    · rw [e₂]
      exact .inl ⟨rfl, live₁, hpick⟩
    · rw [e₂]
      exact .inr ⟨_, live', rfl, h₂, rfl, by rw [← hc]; exact hc.trans (by omega)⟩
  · rw [if_neg hsmall]
    exact .inr ⟨_, live, rfl, h, rfl, by simp only; omega⟩

theorem memRingAllocHeap_ok (h : Ledger live held) (e : memRingAllocHeap A live n = .ok (block, live')) :
    Ledger live' (block.objects ++ held) := by
  obtain ⟨⟨block₁, live₁⟩, h₁, e⟩ := bind_eq_ok.mp e
  cases e
  exact (memBlockAllocHeap_ok h h₁).1

end BlockLedger

/-! ## The blocks of the model with contents -/

/-- The two are of one size. -/
structure Sized (block : HeapBlock) (contents : MemBlock) : Prop where
  size : block.size = contents.size
  capacity : block.capacity = contents.capacity

section Sized

variable {A : Allocator} {live live' : List ℕ} {block block' : HeapBlock} {contents : MemBlock} {n : ℕ}

theorem memBlockAllocHeap_sized (H : Host) (e : memBlockAllocHeap A live n = .ok (block, live')) :
    Sized block (memBlockAlloc H n) := by
  unfold memBlockAllocHeap at e
  split at e
  · split at e
    · cases e
      exact ⟨rfl, rfl⟩
    · cases e
  · cases e
    exact ⟨rfl, rfl⟩

theorem memBlockResizeHeap_sized (H : Host) (h : Sized block contents)
    (e : memBlockResizeHeap A live block n = .ok (block', live')) : Sized block' (memBlockResize H contents n) := by
  unfold memBlockResizeHeap at e
  unfold memBlockResize
  rw [← h.capacity]
  split at e
  · rename_i hsmall
    obtain ⟨live₁, -, e⟩ := bind_eq_ok.mp e
    obtain ⟨⟨block₁, live₂⟩, h₂, e⟩ := bind_eq_ok.mp e
    cases e
    rw [if_pos hsmall]
    exact ⟨rfl, (memBlockAllocHeap_sized H h₂).capacity⟩
  · rename_i hfits
    cases e
    rw [if_neg hfits]
    exact ⟨rfl, h.capacity⟩

/-- **Every message** takes the memory that it does in the model with contents. -/
theorem buildHeap_sized {H : Host} {builder builder' : MsgBuilder} {type : MsgType} {payload : Bytes}
    (h : Sized block builder.msgBuf) (e : build H builder type payload n = .ok builder')
    (e' : buildHeap A live block n = .ok (block', live')) : Sized block' builder'.msgBuf := by
  unfold buildHeap at e'
  split at e'
  swap
  · cases e'
  have hsized := memBlockResizeHeap_sized H h e'
  have hsame : ∀ {b b' : MemBlock} {off : ℕ} {v : UInt8}, setUint8 b off v = .ok b' →
      b'.size = b.size ∧ b'.capacity = b.capacity := by
    intro b b' off v e
    obtain ⟨u, -, e⟩ := bind_eq_ok.mp e
    obtain ⟨data, -, e⟩ := bind_eq_ok.mp e
    cases e
    exact ⟨rfl, rfl⟩
  unfold build at e
  obtain ⟨u, -, e⟩ := bind_eq_ok.mp e
  obtain ⟨b₁, h₁, e⟩ := bind_eq_ok.mp e
  obtain ⟨b₂, h₂, e⟩ := bind_eq_ok.mp e
  obtain ⟨b₃, h₃, e⟩ := bind_eq_ok.mp e
  cases e
  obtain ⟨hs₁, hc₁⟩ := hsame h₁
  have hsame₂ : b₂.size = b₁.size ∧ b₂.capacity = b₁.capacity := by
    obtain ⟨u, -, h₂⟩ := bind_eq_ok.mp h₂
    obtain ⟨data, -, h₂⟩ := bind_eq_ok.mp h₂
    obtain ⟨data', -, h₂⟩ := bind_eq_ok.mp h₂
    cases h₂
    exact ⟨rfl, rfl⟩
  have hsame₃ : b₃.size = b₂.size ∧ b₃.capacity = b₂.capacity := by
    obtain ⟨u, -, h₃⟩ := bind_eq_ok.mp h₃
    obtain ⟨m₁, -, h₃⟩ := bind_eq_ok.mp h₃
    obtain ⟨m₂, -, h₃⟩ := bind_eq_ok.mp h₃
    split at h₃
    · obtain ⟨src, -, h₃⟩ := bind_eq_ok.mp h₃
      obtain ⟨m₃, -, h₃⟩ := bind_eq_ok.mp h₃
      cases h₃
      exact ⟨rfl, rfl⟩
    · cases h₃
      exact ⟨rfl, rfl⟩
  constructor
  · rw [hsized.size, hsame₃.1, hsame₂.1, hs₁]
  · rw [hsized.capacity, hsame₃.2, hsame₂.2, hc₁]

end Sized

/-! ## Sinks and sources -/

/-- The objects of a sink. -/
structure HeapSink where
  self : ℕ
  currentFrame : HeapBlock
  receivedFrame : HeapBlock
  pendingFrames : HeapBlock
  builder : HeapBlock

/-- Those of a source. -/
structure HeapSource where
  self : ℕ
  builder : HeapBlock

def HeapSink.objects (s : HeapSink) : List ℕ :=
  s.self :: (s.currentFrame.objects ++ s.receivedFrame.objects ++ s.pendingFrames.objects ++ s.builder.objects)

def HeapSource.objects (s : HeapSource) : List ℕ := s.self :: s.builder.objects

section Peer

variable (A : Allocator) (live : List ℕ)

/-- `sink_private_make`, for frames of this length. -/
def sinkPrivateMakeHeap (frameLen : ℕ) : HeapRun ((ℕ × HeapBlock × HeapBlock × HeapBlock) × List ℕ) :=
  match Heap.malloc A live with
  | (none, _) => .error .noMemory
  | (some self, live) => do
    let (currentFrame, live) ← memBlockAllocHeap A live frameLen
    let (receivedFrame, live) ← memBlockAllocHeap A live frameLen
    let (pendingFrames, live) ← memRingAllocHeap A live (frameLen * pendingFramesCapacity)
    return ((self, currentFrame, receivedFrame, pendingFrames), live)

/-- `atolla_sink_make`. -/
def sinkMakeHeap (frameLen : ℕ) : HeapRun (HeapSink × List ℕ) := do
  let ((self, currentFrame, receivedFrame, pendingFrames), live) ← sinkPrivateMakeHeap A live frameLen
  let (builder, live) ← msgBuilderInitHeap A live
  return (⟨self, currentFrame, receivedFrame, pendingFrames, builder⟩, live)

/-- `atolla_sink_free`. -/
def sinkFreeHeap (s : HeapSink) : HeapRun (List ℕ) := do
  let live ← msgBuilderFreeHeap live s.builder
  let live ← memBlockFreeHeap live s.currentFrame
  let live ← memBlockFreeHeap live s.receivedFrame
  let live ← memRingFreeHeap live s.pendingFrames
  heapFree live s.self

/-- `atolla_source_make`; without memory it writes to a null pointer. -/
def sourceMakeHeap : HeapRun (HeapSource × List ℕ) :=
  match Heap.malloc A live with
  | (none, _) => .error .nullAccess
  | (some self, live) => do
    let (builder, live) ← msgBuilderInitHeap A live
    return (⟨self, builder⟩, live)

/-- `atolla_source_free`. It does not free the builder. -/
def sourceFreeHeap (s : HeapSource) : HeapRun (List ℕ) := heapFree live s.self

end Peer

section PeerLedger

variable {A : Allocator} {live live' held : List ℕ}

/-- **Making a sink.** -/
theorem sinkMakeHeap_ledger (h : Ledger live held) {frameLen : ℕ} {s : HeapSink}
    (e : sinkMakeHeap A live frameLen = .ok (s, live')) : Ledger live' (s.objects ++ held) := by
  obtain ⟨⟨⟨self, currentFrame, receivedFrame, pendingFrames⟩, live₁⟩, hprivate, e⟩ := bind_eq_ok.mp e
  obtain ⟨⟨builder, live₂⟩, hinit, e⟩ := bind_eq_ok.mp e
  cases e
  unfold sinkPrivateMakeHeap at hprivate
  split at hprivate
  · cases hprivate
  rename_i self' live₃ hself
  obtain ⟨⟨b₁, l₁⟩, h₁, hprivate⟩ := bind_eq_ok.mp hprivate
  obtain ⟨⟨b₂, l₂⟩, h₂, hprivate⟩ := bind_eq_ok.mp hprivate
  obtain ⟨⟨b₃, l₃⟩, h₃, hprivate⟩ := bind_eq_ok.mp hprivate
  cases hprivate
  have hcurrent := (memBlockAllocHeap_ok (h.malloc hself) h₁).1
  have hreceived := (memBlockAllocHeap_ok hcurrent h₂).1
  have hpending := memRingAllocHeap_ok hreceived h₃
  refine (memBlockAllocHeap_ok hpending hinit).1.congr ?_
  rw [HeapSink.objects, List.perm_iff_count]
  intro a
  simp only [List.count_append, List.count_cons]
  omega

/-- **Freeing a sink** frees all it has. -/
theorem sinkFreeHeap_ledger {s : HeapSink} (h : Ledger live (s.objects ++ held)) :
    ∃ live', sinkFreeHeap live s = .ok live' ∧ Ledger live' held := by
  have h₀ : Ledger live (s.builder.objects ++ (s.currentFrame.objects ++ (s.receivedFrame.objects ++
      (s.pendingFrames.objects ++ (s.self :: held))))) := by
    refine h.congr ?_
    rw [HeapSink.objects, List.perm_iff_count]
    intro a
    simp only [List.count_append, List.count_cons]
    omega
  obtain ⟨l₁, e₁, h₁⟩ := HeapBlock.release_ledger h₀
  obtain ⟨l₂, e₂, h₂⟩ := HeapBlock.release_ledger h₁
  obtain ⟨l₃, e₃, h₃⟩ := HeapBlock.release_ledger h₂
  obtain ⟨l₄, e₄, h₄⟩ := HeapBlock.release_ledger h₃
  obtain ⟨l₅, e₅, h₅⟩ := heapFree_ledger h₄
  refine ⟨l₅, ?_, h₅⟩
  rw [sinkFreeHeap, msgBuilderFreeHeap, memBlockFreeHeap, e₁, ok_bind, memBlockFreeHeap, e₂, ok_bind, memBlockFreeHeap,
    e₃, ok_bind, memRingFreeHeap, memBlockFreeHeap, e₄, ok_bind, e₅]

/-- **Making a source.** -/
theorem sourceMakeHeap_ledger (h : Ledger live held) {s : HeapSource}
    (e : sourceMakeHeap A live = .ok (s, live')) :
    Ledger live' (s.objects ++ held) ∧ s.builder.capacity = initialBlockCapacity := by
  unfold sourceMakeHeap at e
  split at e
  · cases e
  rename_i self live₁ hself
  obtain ⟨⟨b, l⟩, hinit, e⟩ := bind_eq_ok.mp e
  cases e
  obtain ⟨hbuilder, hc⟩ := memBlockAllocHeap_ok (h.malloc hself) hinit
  refine ⟨hbuilder.congr ?_, hc⟩
  rw [HeapSource.objects, List.perm_iff_count]
  intro a
  simp only [List.count_append, List.count_cons]
  omega

/-- **Freeing a source** leaves the object of its builder. -/
theorem sourceFreeHeap_ledger {s : HeapSource} (h : Ledger live (s.objects ++ held)) :
    ∃ live', sourceFreeHeap live s = .ok live' ∧ Ledger live' (s.builder.objects ++ held) := heapFree_ledger h

end PeerLedger

end Atolla

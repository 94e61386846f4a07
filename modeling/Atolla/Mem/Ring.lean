import Atolla.Mem.Block
import Atolla.Lib.Fifo

/-!
# The ring buffer (`mem/ring.c`)

The ring is a queue of bytes in circular memory that copies whole blocks and never splits one over the end of the
memory. With blocks of one length `k` and a capacity of `c` blocks it is a queue of at most `c` blocks: `Holds k c`
relates the two, and each operation on the ring is the operation on the queue (`memRingEnqueue_push`,
`memRingDequeue_pop`, `memRingPeek_front`, `memRingDrop_drop`), or refuses as it does (`memRingEnqueue_full`,
`memRingDequeue_empty`, `memRingPeek_empty`, `memRingDrop_short`).
-/

set_option autoImplicit false

namespace Atolla

open Fifo Loop

/-- `MemRing`. -/
structure MemRing where
  buf : MemBlock
  front : Nat
  len : Nat

/-- `mem_ring_alloc`. -/
def memRingAlloc (H : Host) (capacity : Nat) : MemRing :=
  ⟨{ memBlockAlloc H capacity with size := capacity }, 0, 0⟩

/-- `mem_ring_is_empty`. -/
def memRingIsEmpty (ring : MemRing) : Bool := 0 < ring.len

/-- `mem_ring_peek`: the result and the address that `peek_addr` holds afterwards. -/
def memRingPeek (ring : MemRing) (peekAddr : Bytes) (peekLen : Nat) : Run (Bool × Bytes) :=
  if ring.len < peekLen then .ok (false, peekAddr)
  else do
    let frontBlock ← memBlockSlice ring.buf ring.front peekLen
    return (true, frontBlock.data)

/-- `mem_ring_dequeue`: the result, the ring and the memory at `out_buf`. -/
def memRingDequeue (ring : MemRing) (outBuf : Bytes) (outBufLen : Nat) : Run (Bool × MemRing × Bytes) :=
  if ring.len < outBufLen then .ok (false, ring, outBuf)
  else do
    let frontBlock ← memBlockSlice ring.buf ring.front outBufLen
    let front ← sizeMod (sizeT (ring.front + outBufLen)) ring.buf.size
    let src ← readBytes frontBlock.data outBufLen
    let out ← writeBytes outBuf 0 src
    return (true, { ring with front := front, len := ring.len - outBufLen }, out)

/-- `mem_ring_drop`. -/
def memRingDrop (ring : MemRing) (dropLen : Nat) : Run (Bool × MemRing) :=
  if ring.len < dropLen then .ok (false, ring)
  else do
    let front ← sizeMod (sizeT (ring.front + dropLen)) ring.buf.size
    return (true, { ring with front := front, len := ring.len - dropLen })

/-- `mem_ring_enqueue`. The `memcpy` goes to the address of the slice, `back` bytes into the memory of the ring. -/
def memRingEnqueue (ring : MemRing) (inBuf : Bytes) (inBufLen : Nat) : Run (Bool × MemRing) :=
  if ring.buf.size < sizeT (ring.len + inBufLen) then .ok (false, ring)
  else do
    let back ← sizeMod (sizeT (ring.front + ring.len)) ring.buf.size
    let _backBlock ← memBlockSlice ring.buf back inBufLen
    let src ← readBytes inBuf inBufLen
    let data ← writeBytes ring.buf.data back src
    return (true, { ring with buf := { ring.buf with data := data }, len := sizeT (ring.len + inBufLen) })

/-! ## The ring as a queue of blocks -/

/-- The blocks in the ring, oldest first, when all have length `k`. -/
def MemRing.blocks (k : Nat) (ring : MemRing) : List Bytes :=
  window (chunk k ring.buf.data) (ring.buf.size / k) (ring.front / k) (ring.len / k)

/-- A ring of `c` slots of `k` bytes: whole slots are in use, and sizes do not overflow. -/
structure MemRing.Aligned (k c : Nat) (ring : MemRing) : Prop where
  pos : 0 < k
  slots : 0 < c
  small : 2 * (c * k) < 2 ^ 64
  data : ring.buf.data.length = c * k
  size : ring.buf.size = c * k
  capacity : ring.buf.capacity = c * k
  front : ∃ f, f < c ∧ ring.front = f * k
  len : ∃ n, n ≤ c ∧ ring.len = n * k

/-- The ring of `c` slots of `k` bytes holds the blocks of the queue. -/
def MemRing.Holds (k c : Nat) (ring : MemRing) (q : Queue Bytes c) : Prop :=
  ring.Aligned k c ∧ ring.blocks k = q.items

section Blocks

variable {k c : Nat} {ring : MemRing} {q q' : Queue Bytes c}

theorem MemRing.Aligned.length_blocks (h : ring.Aligned k c) : (ring.blocks k).length * k = ring.len := by
  obtain ⟨n, -, hn⟩ := h.len
  rw [MemRing.blocks, length_window, hn, Nat.mul_div_cancel _ h.pos]

/-- An aligned ring holds a queue. -/
theorem MemRing.Aligned.holds (h : ring.Aligned k c) : ∃ q : Queue Bytes c, ring.Holds k c q := by
  obtain ⟨n, hnc, hn⟩ := h.len
  refine ⟨⟨ring.blocks k, ?_⟩, h, rfl⟩
  rw [MemRing.blocks, length_window, hn, Nat.mul_div_cancel _ h.pos]
  exact hnc

theorem MemRing.Holds.len (h : ring.Holds k c q) : ring.len = q.items.length * k := by
  rw [← h.2, h.1.length_blocks]

/-- Every block in the ring has length `k`. -/
theorem MemRing.Aligned.length_of_mem (h : ring.Aligned k c) {g : Bytes} (hg : g ∈ ring.blocks k) : g.length = k := by
  simp only [MemRing.blocks, window, List.mem_map] at hg
  obtain ⟨j, -, rfl⟩ := hg
  rw [h.size, Nat.mul_div_cancel _ h.pos]
  apply length_chunk
  rw [h.data]
  exact Nat.mul_le_mul_right k (Nat.mod_lt _ h.slots)

/-- A fresh ring is empty. -/
theorem memRingAlloc_holds (H : Host) (hk : 0 < k) (hc : 0 < c) (hs : 2 * (c * k) < 2 ^ 64) :
    (memRingAlloc H (c * k)).Holds k c Queue.empty := by
  have hpos : 0 < c * k := Nat.mul_pos hc hk
  refine ⟨⟨hk, hc, hs, ?_, rfl, rfl, ⟨0, hc, by simp [memRingAlloc]⟩, ⟨0, Nat.zero_le _, by simp [memRingAlloc]⟩⟩, ?_⟩
  · simp [memRingAlloc, memBlockAlloc, hpos]
  · simp [MemRing.blocks, memRingAlloc, Queue.empty]

/-- No room: nothing changes. -/
theorem memRingEnqueue_full (h : ring.Holds k c q) {x : Bytes} (hq : q.push x = none) (inBuf : Bytes) :
    memRingEnqueue ring inBuf k = .ok (false, ring) := by
  have hlen := Nat.mul_le_mul_right k (Queue.push_eq_none.mp hq)
  obtain ⟨n, hnc, hn⟩ := h.1.len
  have hle := Nat.mul_le_mul_right k hnc
  have hk := h.1.pos
  have hs := h.1.small
  have hck : k ≤ c * k := Nat.le_mul_of_pos_left k h.1.slots
  rw [memRingEnqueue, if_pos]
  rw [h.1.size, sizeT_of_lt (by omega), h.len]
  omega

/-- **Enqueue is `push`**: with room the block is appended. -/
theorem memRingEnqueue_push (h : ring.Holds k c q) {inBuf : Bytes} (hx : k ≤ inBuf.length)
    (hq : q.push (inBuf.take k) = some q') :
    ∃ ring', memRingEnqueue ring inBuf k = .ok (true, ring') ∧ ring'.Holds k c q' := by
  obtain ⟨hfree, hitems⟩ := Queue.push_eq_some.mp hq
  obtain ⟨⟨hk, hc, hs, hdata, hsize, hcap, ⟨f, hf, hfront⟩, ⟨n, hn, hlen⟩⟩, hblocks⟩ := h
  have hnq : n = q.items.length := by
    rw [← hblocks, MemRing.blocks, length_window, hlen, Nat.mul_div_cancel _ hk]
  have hnk : n * k + k ≤ c * k := by
    have := Nat.mul_le_mul_right k (show n + 1 ≤ c by omega)
    rwa [Nat.add_mul, Nat.one_mul] at this
  have hfk : f * k < c * k := Nat.mul_lt_mul_of_pos_right hf hk
  have hlenx : (inBuf.take k).length = k := by simpa using hx
  -- the slot behind the window starts at byte `back` and ends inside of the memory
  have hback : (f * k + n * k) % (c * k) = ((f + n) % c) * k := by rw [← Nat.add_mul, Nat.mul_mod_mul_right]
  have hslot : ((f + n) % c + 1) * k ≤ c * k := Nat.mul_le_mul_right k (Nat.mod_lt _ hc)
  have hslot' : ((f + n) % c) * k + k ≤ c * k := by rwa [Nat.add_mul, Nat.one_mul] at hslot
  let data := write ring.buf.data ((f + n) % c * k) (inBuf.take k)
  refine ⟨{ ring with buf := { ring.buf with data := data }, len := (n + 1) * k }, ?_,
    ⟨hk, hc, hs, ?_, hsize, hcap, ⟨f, hf, hfront⟩, ⟨n + 1, by omega, rfl⟩⟩, ?_⟩
  · rw [memRingEnqueue, if_neg (by rw [hsize, hlen, sizeT_of_lt (by omega)]; omega), hsize, hlen, hfront,
      sizeT_of_lt (by omega), sizeMod_pos (by omega), hback, ok_bind, memBlockSlice_ok (by omega) (by omega), ok_bind,
      readBytes_of_le hx, ok_bind, writeBytes_of_le (by omega), ok_bind, sizeT_of_lt (by omega),
      show n * k + k = (n + 1) * k by rw [Nat.add_mul, Nat.one_mul]]
    rfl
  · exact (length_write (by omega)).trans hdata
  · rw [hitems, ← hblocks]
    simp only [MemRing.blocks, hsize, hfront, hlen, Nat.mul_div_cancel _ hk]
    rw [chunk_write hlenx (by omega), window_push _ (by omega)]

/-- Nothing stored: nothing changes. -/
theorem memRingDequeue_empty (h : ring.Holds k c q) (hq : q.pop = none) (outBuf : Bytes) :
    memRingDequeue ring outBuf k = .ok (false, ring, outBuf) := by
  have hk := h.1.pos
  have hlen := h.len
  rw [Queue.pop_eq_none.mp hq, List.length_nil, Nat.zero_mul] at hlen
  rw [memRingDequeue, if_pos (by omega)]

/-- The oldest block lies in one piece at the front. -/
theorem MemRing.Holds.front (h : ring.Holds k c q) {g : Bytes} (hq : q.peek = some g) :
    k ≤ ring.len ∧ memBlockSlice ring.buf ring.front k = .ok ⟨ring.buf.data.drop ring.front, k, k⟩ ∧
      readBytes (ring.buf.data.drop ring.front) k = .ok g := by
  have hlen := h.len
  obtain ⟨⟨hk, hc, hs, hdata, hsize, -, ⟨f, hf, hfront⟩, -⟩, hblocks⟩ := h
  obtain ⟨rest, hitems⟩ : ∃ rest, q.items = g :: rest := by
    rw [Queue.peek, List.head?_eq_some_iff] at hq
    exact hq
  rw [hitems, List.length_cons, Nat.add_mul, Nat.one_mul] at hlen
  have hfk : f * k + k ≤ c * k := by
    have := Nat.mul_le_mul_right k (show f + 1 ≤ c by omega)
    rwa [Nat.add_mul, Nat.one_mul] at this
  have hhead : (ring.buf.data.drop ring.front).take k = g := by
    rw [MemRing.blocks, hlen, Nat.add_div_right _ hk, window_pop, hitems, List.cons.injEq] at hblocks
    have hslot : ring.front / k % (ring.buf.size / k) = f := by
      rw [hfront, hsize, Nat.mul_div_cancel _ hk, Nat.mul_div_cancel _ hk, Nat.mod_eq_of_lt hf]
    rw [hslot, chunk, ← hfront] at hblocks
    exact hblocks.1
  refine ⟨by omega, memBlockSlice_ok (by omega) (by omega), ?_⟩
  rw [readBytes_of_le (by rw [List.length_drop]; omega), hhead]

/-- Moving the front on by some blocks drops them. -/
theorem MemRing.Holds.advance (h : ring.Holds k c q) {m : Nat} (hq : q.drop m = some q') :
    m * k ≤ ring.len ∧ ∃ front, sizeMod (sizeT (ring.front + m * k)) ring.buf.size = .ok front ∧
      { ring with front := front, len := ring.len - m * k }.Holds k c q' := by
  obtain ⟨hm, hitems⟩ := Queue.drop_eq_some.mp hq
  have hlen := h.len
  obtain ⟨⟨hk, hc, hs, hdata, hsize, hcap, ⟨f, hf, hfront⟩, -⟩, hblocks⟩ := h
  obtain ⟨n, hn⟩ : ∃ n, q.items.length = m + n := ⟨q.items.length - m, by omega⟩
  rw [hn, Nat.add_mul] at hlen
  have hmc : m * k ≤ c * k := Nat.mul_le_mul_right k (hm.trans q.bound)
  have hfk : f * k < c * k := Nat.mul_lt_mul_of_pos_right hf hk
  have hfront' : (f * k + m * k) % (c * k) = ((f + m) % c) * k := by rw [← Nat.mul_mod_mul_right, Nat.add_mul]
  refine ⟨by omega, (f + m) % c * k, ?_, ⟨hk, hc, hs, hdata, hsize, hcap, ⟨_, Nat.mod_lt _ hc, rfl⟩,
    ⟨n, ?_, by simp only; omega⟩⟩, ?_⟩
  · rw [hfront, hsize, sizeT_of_lt (by omega), sizeMod_pos (by omega), hfront']
  · have := q.bound
    omega
  · simp only [MemRing.blocks, hfront, hsize, hlen, ← Nat.add_mul, Nat.mul_div_cancel _ hk] at hblocks
    simp only [MemRing.blocks, hsize, hlen, Nat.add_sub_cancel_left, Nat.mul_div_cancel _ hk]
    rw [hitems, ← hblocks, window_drop]

/-- **Dequeue is `pop`**: the oldest block is copied out and removed. -/
theorem memRingDequeue_pop (h : ring.Holds k c q) {g : Bytes} (hq : q.pop = some (g, q')) {outBuf : Bytes}
    (ho : k ≤ outBuf.length) :
    ∃ ring', memRingDequeue ring outBuf k = .ok (true, ring', g ++ outBuf.drop k) ∧ ring'.Holds k c q' := by
  obtain ⟨hpeek, hdrop⟩ := Queue.pop_eq_some_iff.mp hq
  obtain ⟨hle, hslice, hread⟩ := h.front hpeek
  obtain ⟨-, front, hmod, hholds⟩ := h.advance hdrop
  rw [Nat.one_mul] at hmod hholds
  have hg : g.length = k := by
    apply h.1.length_of_mem
    rw [h.2, Queue.pop_eq_some.mp hq]
    exact List.mem_cons_self
  refine ⟨_, ?_, hholds⟩
  rw [memRingDequeue, if_neg (by omega), hslice, ok_bind, hmod, ok_bind, hread, ok_bind,
    writeBytes_of_le (by omega), ok_bind, Nat.zero_add, hg]
  rfl

/-- Nothing stored: the address stays. -/
theorem memRingPeek_empty (h : ring.Holds k c q) (hq : q.peek = none) (peekAddr : Bytes) :
    memRingPeek ring peekAddr k = .ok (false, peekAddr) := by
  have hk := h.1.pos
  have hlen := h.len
  rw [List.head?_eq_none_iff.mp hq, List.length_nil, Nat.zero_mul] at hlen
  rw [memRingPeek, if_pos (by omega)]

/-- **Peek is `peek`**: at the address are the bytes of the oldest block. -/
theorem memRingPeek_front (h : ring.Holds k c q) {g : Bytes} (hq : q.peek = some g) (peekAddr : Bytes) :
    ∃ front, memRingPeek ring peekAddr k = .ok (true, front) ∧ readBytes front k = .ok g := by
  obtain ⟨hle, hslice, hread⟩ := h.front hq
  refine ⟨_, ?_, hread⟩
  rw [memRingPeek, if_neg (by omega), hslice, ok_bind]
  rfl

/-- Not as many blocks stored: nothing changes. -/
theorem memRingDrop_short (h : ring.Holds k c q) {m : Nat} (hq : q.drop m = none) :
    memRingDrop ring (m * k) = .ok (false, ring) := by
  have hlt : ring.len < m * k := by
    rw [h.len]
    exact Nat.mul_lt_mul_of_pos_right (Queue.drop_eq_none.mp hq) h.1.pos
  rw [memRingDrop, if_pos hlt]

/-- **Drop is `drop`**: the oldest blocks are gone. -/
theorem memRingDrop_drop (h : ring.Holds k c q) {m : Nat} (hq : q.drop m = some q') :
    ∃ ring', memRingDrop ring (m * k) = .ok (true, ring') ∧ ring'.Holds k c q' := by
  obtain ⟨hle, front, hmod, hholds⟩ := h.advance hq
  refine ⟨_, ?_, hholds⟩
  rw [memRingDrop, if_neg (by omega), hmod, ok_bind]
  rfl

end Blocks

end Atolla

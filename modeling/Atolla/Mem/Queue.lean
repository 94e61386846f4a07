import Atolla.Lib.Observe
import Atolla.Mem.Ring

/-!
# The ring is a bounded queue

A ring used with chunks of one length, whatever calls are made on it, is the queue of `Fifo`: every call gives the same
result and the same bytes, and none of them fails (`memRing_refines_queue`). One that refuses changes nothing.
-/

set_option autoImplicit false

namespace Atolla

open Fifo Observe Loop

/-- A call on a ring of chunks, with the memory that its pointer argument refers to. -/
inductive RingCall where
  | enqueue (inBuf : Bytes)
  | dequeue (outBuf : Bytes)
  | peek (peekAddr : Bytes)
  | drop (chunks : Nat)

/-- The memory has room for a chunk. -/
def RingCall.Fits (k : Nat) : RingCall → Prop
  | .enqueue inBuf => k ≤ inBuf.length
  | .dequeue outBuf => k ≤ outBuf.length
  | _ => True

/-- What the caller finds there when nothing was written. -/
def RingCall.untouched : RingCall → Bytes
  | .dequeue outBuf => outBuf
  | .peek peekAddr => peekAddr
  | _ => []

/-- The result of a call and what it put out: the memory at `out_buf`, or the chunk at the address peeked at. -/
def memRingCall (k : Nat) (ring : MemRing) : RingCall → Run (MemRing × Bool × Bytes)
  | .enqueue inBuf => do
    let (result, ring) ← memRingEnqueue ring inBuf k
    return (ring, result, [])
  | .dequeue outBuf => do
    let (result, ring, out) ← memRingDequeue ring outBuf k
    return (ring, result, out)
  | .peek peekAddr => do
    let (result, addr) ← memRingPeek ring peekAddr k
    let out ← if result then readBytes addr k else pure addr
    return (ring, result, out)
  | .drop chunks => do
    let (result, ring) ← memRingDrop ring (chunks * k)
    return (ring, result, [])

variable {k c : Nat}

/-- The same call on a queue of chunks. -/
def queueCall (k : Nat) (q : Queue Bytes c) (call : RingCall) : Queue Bytes c × Bool × Bytes :=
  match call with
  | .enqueue inBuf =>
    match q.push (inBuf.take k) with
    | some q' => (q', true, [])
    | none => (q, false, [])
  | .dequeue outBuf =>
    match q.pop with
    | some (oldest, q') => (q', true, oldest ++ outBuf.drop k)
    | none => (q, false, outBuf)
  | .peek peekAddr =>
    match q.peek with
    | some oldest => (q, true, oldest)
    | none => (q, false, peekAddr)
  | .drop chunks =>
    match q.drop chunks with
    | some q' => (q', true, [])
    | none => (q, false, [])

variable {ring : MemRing} {q : Queue Bytes c}

/-- One call: as on the queue, and when refused the ring is as before. -/
theorem memRingCall_spec (h : ring.Holds k c q) (call : RingCall) (hcall : call.Fits k) :
    ∃ ring', memRingCall k ring call = .ok (ring', (queueCall k q call).2) ∧
      ring'.Holds k c (queueCall k q call).1 ∧
      ((queueCall k q call).2.1 = false → ring' = ring ∧ (queueCall k q call).2.2 = call.untouched) := by
  cases call with
  | enqueue inBuf =>
    cases hq : q.push (inBuf.take k) with
    | some q' =>
      obtain ⟨ring', e, h'⟩ := memRingEnqueue_push h hcall hq
      simp only [memRingCall, queueCall, hq, e, ok_bind]
      exact ⟨ring', rfl, h', by simp⟩
    | none =>
      simp only [memRingCall, queueCall, hq, memRingEnqueue_full h hq inBuf, ok_bind]
      exact ⟨ring, rfl, h, fun _ => ⟨rfl, rfl⟩⟩
  | dequeue outBuf =>
    cases hq : q.pop with
    | some p =>
      obtain ⟨oldest, q'⟩ := p
      obtain ⟨ring', e, h'⟩ := memRingDequeue_pop h hq hcall
      simp only [memRingCall, queueCall, hq, e, ok_bind]
      exact ⟨ring', rfl, h', by simp⟩
    | none =>
      simp only [memRingCall, queueCall, hq, memRingDequeue_empty h hq outBuf, ok_bind]
      exact ⟨ring, rfl, h, fun _ => ⟨rfl, rfl⟩⟩
  | peek peekAddr =>
    cases hq : q.peek with
    | some oldest =>
      obtain ⟨front, e, hread⟩ := memRingPeek_front h hq peekAddr
      simp only [memRingCall, queueCall, hq, e, ok_bind, if_true, hread]
      exact ⟨ring, rfl, h, by simp⟩
    | none =>
      simp only [memRingCall, queueCall, hq, memRingPeek_empty h hq peekAddr, ok_bind]
      exact ⟨ring, rfl, h, fun _ => ⟨rfl, rfl⟩⟩
  | drop chunks =>
    cases hq : q.drop chunks with
    | some q' =>
      obtain ⟨ring', e, h'⟩ := memRingDrop_drop h hq
      simp only [memRingCall, queueCall, hq, e, ok_bind]
      exact ⟨ring', rfl, h', by simp⟩
    | none =>
      simp only [memRingCall, queueCall, hq, memRingDrop_short h hq, ok_bind]
      exact ⟨ring, rfl, h, fun _ => ⟨rfl, rfl⟩⟩

/-- Any calls from `mem_ring_alloc` on. -/
theorem memRing_replay (H : Host) (hk : 0 < k) (hc : 0 < c) (hs : c * k ≤ ptrdiffMax) (calls : List RingCall)
    (hcalls : ∀ call ∈ calls, call.Fits k) :
    ∃ ring, replay (memRingCall k) (memRingAlloc H (c * k)) calls =
        .ok (ring, (play (queueCall k) (Queue.empty : Queue Bytes c) calls).2) ∧
      ring.Holds k c (play (queueCall k) Queue.empty calls).1 := by
  have hsmall : 2 * (c * k) < 2 ^ 64 := by
    unfold ptrdiffMax at hs
    omega
  have hstep : ∀ (ring : MemRing) (q : Queue Bytes c) (call : RingCall), ring.Holds k c q → call.Fits k →
      ∃ ring', memRingCall k ring call = .ok (ring', (queueCall k q call).2) ∧
        ring'.Holds k c (queueCall k q call).1 := by
    intro ring q call h hcall
    obtain ⟨ring', e, h', -⟩ := memRingCall_spec h call hcall
    exact ⟨ring', e, h'⟩
  exact replay_refines _ (RingCall.Fits k) hstep calls (memRingAlloc_holds H hk hc hsmall) hcalls

/-- **The ring is a bounded queue**: from `mem_ring_alloc` on, any calls return, with the results and the bytes of the
queue of at most `c` chunks; afterwards the ring holds that queue, and a call it then refuses leaves it and the memory
of the caller as they are. The capacity is that of an object `malloc` can return. -/
theorem memRing_refines_queue (H : Host) (hk : 0 < k) (hc : 0 < c) (hs : c * k ≤ ptrdiffMax) (calls : List RingCall)
    (hcalls : ∀ call ∈ calls, call.Fits k) :
    ∃ ring, replay (memRingCall k) (memRingAlloc H (c * k)) calls =
        .ok (ring, (play (queueCall k) (Queue.empty : Queue Bytes c) calls).2) ∧
      ring.Holds k c (play (queueCall k) Queue.empty calls).1 ∧
      ∀ call : RingCall, call.Fits k → ∀ ring' out, memRingCall k ring call = .ok (ring', false, out) →
        ring' = ring ∧ out = call.untouched := by
  obtain ⟨ring, e, h⟩ := memRing_replay H hk hc hs calls hcalls
  refine ⟨ring, e, h, fun call hcall ring' out e' => ?_⟩
  obtain ⟨ring'', e'', -, hrefused⟩ := memRingCall_spec h call hcall
  rw [e'', Except.ok.injEq, Prod.mk.injEq] at e'
  obtain ⟨rfl, hout⟩ := e'
  rw [hout] at hrefused
  exact hrefused rfl

/-- Calls on a ring of two chunks: the third chunk finds no room, and later the memory wraps. -/
def exampleCalls : List RingCall :=
  [.enqueue [1, 2, 3], .enqueue [4, 5, 6], .enqueue [7, 8, 9], .drop 1, .enqueue [7, 8, 9], .peek [], .dequeue [0, 0, 0],
    .drop 2]

theorem memRing_refines_queue_two :
    ∃ ring, replay (memRingCall 3) (memRingAlloc exampleHost (2 * 3)) exampleCalls =
        .ok (ring, (play (queueCall 3) (Queue.empty : Queue Bytes 2) exampleCalls).2) ∧
      ring.Holds 3 2 (play (queueCall 3) Queue.empty exampleCalls).1 ∧
      ∀ call : RingCall, call.Fits 3 → ∀ ring' out, memRingCall 3 ring call = .ok (ring', false, out) →
        ring' = ring ∧ out = call.untouched :=
  memRing_refines_queue exampleHost (by decide) (by decide) (by simp [ptrdiffMax]) _
    (by simp [exampleCalls, RingCall.Fits])

end Atolla

import Atolla.Mem.Queue

/-!
# Draining the ring

A consumer takes chunks until the ring says that it is empty. But `mem_ring_is_empty` returns `len > 0`, the opposite of
what `ring.h` says: an empty ring is asked for chunks for ever (`drainLoop_stuck`), and one that holds some is left
alone (`drainLoop_stored`), so that no ring is ever drained (`memRing_never_drains`). The consumer is right once the
answer is negated (`memRing_drains_negated`).
-/

set_option autoImplicit false

namespace Atolla

open Fifo Observe Loop

/-- A consumer: its ring, the memory it dequeues to, and what each dequeue gave. -/
structure Consumer where
  ring : MemRing
  outBuf : Bytes
  given : List (Bool × Bytes)

/-- One `mem_ring_dequeue` of `k` bytes. -/
def drainRound (k : Nat) (s : Consumer) : Run Consumer := do
  let (result, ring, out) ← memRingDequeue s.ring s.outBuf k
  return ⟨ring, out, s.given ++ [(result, out.take k)]⟩

/-- The consumer loop `while(!isEmpty(ring))`, at most `n` rounds of it. -/
def drainLoop (isEmpty : MemRing → Bool) (k n : Nat) : Consumer → Run Consumer :=
  whileM .diverges (fun s => !isEmpty s.ring) (drainRound k) n

/-- The loop ends, every dequeue in it succeeds, it delivers the chunks in the ring, and leaves the ring empty. -/
def MemRing.Drains (isEmpty : MemRing → Bool) (k : Nat) (ring : MemRing) (outBuf : Bytes) : Prop :=
  ∃ n ring' out, drainLoop isEmpty k n ⟨ring, outBuf, []⟩ =
      .ok ⟨ring', out, (ring.blocks k).map fun chunk => (true, chunk)⟩ ∧ ring'.len = 0

/-- No dequeue, peek or drop of a positive length succeeds. -/
def MemRing.Exhausted (ring : MemRing) : Prop :=
  ∀ len, 0 < len →
    (∀ outBuf ring' out, memRingDequeue ring outBuf len ≠ .ok (true, ring', out)) ∧
    (∀ peekAddr addr, memRingPeek ring peekAddr len ≠ .ok (true, addr)) ∧
    ∀ ring', memRingDrop ring len ≠ .ok (true, ring')

/-! ## Rings that calls lead to -/

/-- What is stored fits in the memory. -/
structure MemRing.Bounded (capacity : Nat) (ring : MemRing) : Prop where
  size : ring.buf.size = capacity
  len : ring.len ≤ capacity

section Bounded

variable {capacity n : Nat} {ring ring' : MemRing} {result : Bool} {buf out : Bytes}

theorem memRingEnqueue_bounded (h : ring.Bounded capacity) (e : memRingEnqueue ring buf n = .ok (result, ring')) :
    ring'.Bounded capacity := by
  unfold memRingEnqueue at e
  split at e
  · cases e
    exact h
  · obtain ⟨back, -, e⟩ := bind_eq_ok.mp e
    obtain ⟨backBlock, -, e⟩ := bind_eq_ok.mp e
    obtain ⟨src, -, e⟩ := bind_eq_ok.mp e
    obtain ⟨data, -, e⟩ := bind_eq_ok.mp e
    cases e
    have hsize := h.size
    exact ⟨hsize, by simp only; omega⟩

theorem memRingDequeue_bounded (h : ring.Bounded capacity) (e : memRingDequeue ring buf n = .ok (result, ring', out)) :
    ring'.Bounded capacity := by
  unfold memRingDequeue at e
  split at e
  · cases e
    exact h
  · obtain ⟨frontBlock, -, e⟩ := bind_eq_ok.mp e
    obtain ⟨front, -, e⟩ := bind_eq_ok.mp e
    obtain ⟨src, -, e⟩ := bind_eq_ok.mp e
    obtain ⟨data, -, e⟩ := bind_eq_ok.mp e
    cases e
    exact ⟨h.size, (Nat.sub_le _ _).trans h.len⟩

theorem memRingDrop_bounded (h : ring.Bounded capacity) (e : memRingDrop ring n = .ok (result, ring')) :
    ring'.Bounded capacity := by
  unfold memRingDrop at e
  split at e
  · cases e
    exact h
  · obtain ⟨front, -, e⟩ := bind_eq_ok.mp e
    cases e
    exact ⟨h.size, (Nat.sub_le _ _).trans h.len⟩

theorem memRingCall_bounded {k : Nat} {call : RingCall} (h : ring.Bounded capacity)
    (e : memRingCall k ring call = .ok (ring', result, out)) : ring'.Bounded capacity := by
  cases call with
  | enqueue inBuf =>
    obtain ⟨⟨result₁, ring₁⟩, e₁, e⟩ := bind_eq_ok.mp e
    cases e
    exact memRingEnqueue_bounded h e₁
  | dequeue outBuf =>
    obtain ⟨⟨result₁, ring₁, out₁⟩, e₁, e⟩ := bind_eq_ok.mp e
    cases e
    exact memRingDequeue_bounded h e₁
  | peek peekAddr =>
    obtain ⟨⟨result₁, addr⟩, -, e⟩ := bind_eq_ok.mp e
    cases result₁ with
    | true =>
      obtain ⟨out₁, -, e⟩ := bind_eq_ok.mp e
      cases e
      exact h
    | false =>
      cases e
      exact h
  | drop chunks =>
    obtain ⟨⟨result₁, ring₁⟩, e₁, e⟩ := bind_eq_ok.mp e
    cases e
    exact memRingDrop_bounded h e₁

/-- Whatever calls were made on a ring. -/
theorem replay_bounded (H : Host) {k : Nat} {calls : List RingCall} {outs : List (Bool × Bytes)}
    (e : replay (memRingCall k) (memRingAlloc H capacity) calls = .ok (ring, outs)) : ring.Bounded capacity := by
  have hstart : (memRingAlloc H capacity).Bounded capacity := ⟨rfl, Nat.zero_le _⟩
  apply replay_inv (MemRing.Bounded capacity) _ calls hstart e
  rintro ring call ring' ⟨result, out⟩ h e'
  exact memRingCall_bounded h e'

/-- A ring is exhausted exactly when nothing is stored: otherwise all that is can be dropped. -/
theorem MemRing.Bounded.exhausted_iff (h : ring.Bounded capacity) : ring.Exhausted ↔ ring.len = 0 := by
  constructor
  · intro hex
    by_contra hlen
    have hsize := h.size
    have hle := h.len
    refine (hex ring.len (by omega)).2.2 { ring with front := sizeT (ring.front + ring.len) % ring.buf.size, len := 0 } ?_
    rw [memRingDrop, if_neg (Nat.lt_irrefl _), sizeMod_pos (by omega), ok_bind, Nat.sub_self]
    rfl
  · intro hlen len hpos
    have hlt : ring.len < len := by omega
    refine ⟨fun outBuf ring' out e => ?_, fun peekAddr addr e => ?_, fun ring' e => ?_⟩
    · rw [memRingDequeue, if_pos hlt] at e
      cases e
    · rw [memRingPeek, if_pos hlt] at e
      cases e
    · rw [memRingDrop, if_pos hlt] at e
      cases e

end Bounded

/-! ## The loop -/

section Loop

variable {k c : Nat} {ring : MemRing} {outBuf : Bytes}

theorem memRingIsEmpty_iff : memRingIsEmpty ring = true ↔ 0 < ring.len := decide_eq_true_iff

theorem memRingIsEmpty_eq_false : memRingIsEmpty ring = false ↔ ring.len = 0 := by
  rw [← Bool.not_eq_true, memRingIsEmpty_iff, Nat.not_lt, Nat.le_zero]

theorem drainLoop_done {isEmpty : MemRing → Bool} {s : Consumer} (h : isEmpty s.ring = true) (n : Nat) :
    drainLoop isEmpty k n s = .ok s := by
  apply whileM_done
  rw [h, Bool.not_true]

theorem drainLoop_succ {isEmpty : MemRing → Bool} {s : Consumer} (h : isEmpty s.ring = false) (n : Nat) :
    drainLoop isEmpty k (n + 1) s = drainRound k s >>= drainLoop isEmpty k n := by
  apply whileM_succ
  rw [h, Bool.not_false]

/-- A ring that holds something is left alone. -/
theorem drainLoop_stored (hlen : 0 < ring.len) (n : Nat) :
    drainLoop memRingIsEmpty k n ⟨ring, outBuf, []⟩ = .ok ⟨ring, outBuf, []⟩ :=
  drainLoop_done (memRingIsEmpty_iff.mpr hlen) n

/-- An empty ring is asked for chunks for ever. -/
theorem drainLoop_stuck (hk : 0 < k) (hlen : ring.len = 0) (n : Nat) :
    drainLoop memRingIsEmpty k n ⟨ring, outBuf, []⟩ = .error .diverges := by
  apply whileM_stuck (fun s => s.ring.len = 0)
  · rintro ⟨ring, outBuf, given⟩ (hlen : ring.len = 0)
    have hlt : ring.len < k := by omega
    constructor
    · rw [memRingIsEmpty_eq_false.mpr hlen, Bool.not_false]
    · refine ⟨⟨ring, outBuf, given ++ [(false, outBuf.take k)]⟩, ?_, hlen⟩
      rw [drainRound, memRingDequeue, if_pos hlt]
      rfl
  · exact hlen

/-- No loop that ends leaves an empty ring. -/
theorem not_drains : ¬ring.Drains memRingIsEmpty k outBuf := by
  rintro ⟨n, ring', out, e, hlen⟩
  obtain ⟨-, hend⟩ := whileM_inv (fun _ => True) (fun _ _ _ _ _ => trivial) n _ _ trivial e
  have hpos : 0 < ring'.len := by simpa [memRingIsEmpty] using hend
  omega

/-- A round on a ring that holds something: the oldest chunk. -/
theorem drainRound_pop {q : Queue Bytes c} {oldest : Bytes} {rest : List Bytes} (h : ring.Holds k c q)
    (hitems : q.items = oldest :: rest) (ho : k ≤ outBuf.length) (given : List (Bool × Bytes)) :
    ∃ ring' outBuf' q', drainRound k ⟨ring, outBuf, given⟩ = .ok ⟨ring', outBuf', given ++ [(true, oldest)]⟩ ∧
      ring'.Holds k c q' ∧ q'.items = rest ∧ k ≤ outBuf'.length := by
  have hbound := q.bound
  rw [hitems, List.length_cons] at hbound
  have hq : q.pop = some (oldest, ⟨rest, by omega⟩) := Queue.pop_eq_some.mpr hitems
  have hold : oldest.length = k := by
    apply h.1.length_of_mem
    rw [h.2, hitems]
    exact List.mem_cons_self
  obtain ⟨ring', e, h'⟩ := memRingDequeue_pop h hq ho
  refine ⟨ring', oldest ++ outBuf.drop k, _, ?_, h', rfl, ?_⟩
  · simp only [drainRound, e, ok_bind, List.take_left' hold]
    rfl
  · rw [List.length_append, hold]
    exact Nat.le_add_right _ _

/-- **The loop with the answer negated**: one round for each chunk. -/
theorem drainLoop_negated {q : Queue Bytes c} (h : ring.Holds k c q) (ho : k ≤ outBuf.length)
    (given : List (Bool × Bytes)) :
    ∃ ring' out, drainLoop (fun ring => !memRingIsEmpty ring) k q.items.length ⟨ring, outBuf, given⟩ =
        .ok ⟨ring', out, given ++ q.items.map fun chunk => (true, chunk)⟩ ∧ ring'.len = 0 := by
  have hlen := h.len
  generalize hitems : q.items = items at hlen ⊢
  induction items generalizing ring q outBuf given with
  | nil =>
    rw [List.length_nil, Nat.zero_mul] at hlen
    refine ⟨ring, outBuf, ?_, hlen⟩
    rw [List.map_nil, List.append_nil]
    apply drainLoop_done
    rw [memRingIsEmpty_eq_false.mpr hlen, Bool.not_false]
  | cons oldest rest ih =>
    have hpos : 0 < ring.len := by
      rw [hlen]
      exact Nat.mul_pos (Nat.succ_pos _) h.1.pos
    obtain ⟨ring₁, outBuf₁, q₁, e₁, h₁, hrest, ho₁⟩ := drainRound_pop h hitems ho given
    have hlen₁ := h₁.len
    rw [hrest] at hlen₁
    obtain ⟨ring', out, e, hend⟩ := ih h₁ ho₁ (given ++ [(true, oldest)]) hrest hlen₁
    refine ⟨ring', out, ?_, hend⟩
    have hcond : (!memRingIsEmpty ring) = false := by rw [memRingIsEmpty_iff.mpr hpos, Bool.not_true]
    rw [List.length_cons, drainLoop_succ hcond, e₁, ok_bind, e, List.map_cons, List.append_assoc]
    rfl

end Loop

/-- **No ring is drained**: on every ring that calls with chunks of one length lead to, a multiple of which its capacity
is, the loop does not end with an empty ring, and `mem_ring_is_empty` is not true exactly when nothing can be taken. -/
theorem memRing_never_drains (H : Host) {k c : Nat} {calls : List RingCall} {ring : MemRing}
    {outs : List (Bool × Bytes)} (e : replay (memRingCall k) (memRingAlloc H (c * k)) calls = .ok (ring, outs)) :
    (∀ outBuf, ¬ring.Drains memRingIsEmpty k outBuf) ∧ ¬(memRingIsEmpty ring = true ↔ ring.Exhausted) := by
  constructor
  · intro outBuf
    exact not_drains
  · rw [(replay_bounded H e).exhausted_iff, memRingIsEmpty_iff]
    omega

theorem memRing_never_drains_two :
    ∃ ring outs, replay (memRingCall 3) (memRingAlloc exampleHost (2 * 3)) exampleCalls = .ok (ring, outs) ∧
      (∀ outBuf, ¬ring.Drains memRingIsEmpty 3 outBuf) ∧ ¬(memRingIsEmpty ring = true ↔ ring.Exhausted) := by
  have hfits : ∀ call ∈ exampleCalls, call.Fits 3 := by simp [exampleCalls, RingCall.Fits]
  obtain ⟨ring, e, -⟩ := memRing_replay (c := 2) exampleHost (by decide) (by decide) (by simp [ptrdiffMax]) _ hfits
  exact ⟨ring, _, e, memRing_never_drains exampleHost e⟩

/-- A fresh ring is asked for chunks for ever, and a ring with one chunk, said to be empty, keeps it. -/
theorem memRing_drain_fails :
    memRingIsEmpty (memRingAlloc exampleHost (2 * 3)) = false ∧ (memRingAlloc exampleHost (2 * 3)).Exhausted ∧
      (∀ n, drainLoop memRingIsEmpty 3 n ⟨memRingAlloc exampleHost (2 * 3), [0, 0, 0], []⟩ = .error .diverges) ∧
      ∃ ring, replay (memRingCall 3) (memRingAlloc exampleHost (2 * 3)) [.enqueue [1, 2, 3]] =
          .ok (ring, [(true, [])]) ∧
        ring.blocks 3 = [[1, 2, 3]] ∧ memRingIsEmpty ring = true ∧
        ∀ n, drainLoop memRingIsEmpty 3 n ⟨ring, [0, 0, 0], []⟩ = .ok ⟨ring, [0, 0, 0], []⟩ := by
  have hfresh : (memRingAlloc exampleHost (2 * 3)).Bounded (2 * 3) := ⟨rfl, Nat.zero_le _⟩
  refine ⟨by decide, hfresh.exhausted_iff.mpr rfl, drainLoop_stuck (by decide) rfl, ?_⟩
  have hfits : ∀ call ∈ [RingCall.enqueue [1, 2, 3]], call.Fits 3 := by simp [RingCall.Fits]
  obtain ⟨ring, e, h⟩ := memRing_replay (c := 2) exampleHost (by decide) (by decide) (by simp [ptrdiffMax]) _ hfits
  have hlen : ring.len = 3 := h.len
  refine ⟨ring, e, h.2, ?_, drainLoop_stored (by omega)⟩
  rw [memRingIsEmpty_iff]
  omega

/-- **Negated, the answer is right**: the loop drains every such ring, and nothing can be taken exactly when it says
so. -/
theorem memRing_drains_negated (H : Host) {k c : Nat} (hs : c * k ≤ ptrdiffMax) {calls : List RingCall}
    (hcalls : ∀ call ∈ calls, call.Fits k) {ring : MemRing} {outs : List (Bool × Bytes)}
    (e : replay (memRingCall k) (memRingAlloc H (c * k)) calls = .ok (ring, outs)) {outBuf : Bytes}
    (ho : k ≤ outBuf.length) :
    ring.Drains (fun ring => !memRingIsEmpty ring) k outBuf ∧ ((!memRingIsEmpty ring) = true ↔ ring.Exhausted) := by
  have hbounded := replay_bounded H e
  constructor
  · rcases Nat.eq_zero_or_pos (c * k) with h0 | hpos
    · -- without memory nothing is ever stored
      have hlen : ring.len = 0 := by
        have := hbounded.len
        omega
      have hblocks : ring.blocks k = [] := by rw [MemRing.blocks, hlen, Nat.zero_div, window_zero]
      refine ⟨0, ring, outBuf, ?_, hlen⟩
      rw [hblocks]
      apply drainLoop_done
      rw [memRingIsEmpty_eq_false.mpr hlen, Bool.not_false]
    · obtain ⟨ring', e', h⟩ := memRing_replay H (Nat.pos_of_mul_pos_left hpos) (Nat.pos_of_mul_pos_right hpos) hs calls
        hcalls
      rw [e] at e'
      cases e'
      obtain ⟨ring', out, e', hend⟩ := drainLoop_negated h ho []
      rw [List.nil_append, ← h.2] at e'
      exact ⟨_, ring', out, e', hend⟩
  · rw [hbounded.exhausted_iff, Bool.not_eq_true', memRingIsEmpty_eq_false]

end Atolla

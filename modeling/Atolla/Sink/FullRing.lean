import Atolla.Sink.Runs

/-!
# ENQUEUE and the fill level of the ring

The loop of `sink_handle_enqueue` is left through the index it has reached, and that index moves only when a frame was
stored. So it ends when there are as many free slots as frames to append, or nothing to append at all
(`sinkHandleEnqueue_terminates_iff`).
-/

set_option autoImplicit false

namespace Atolla

open Loop

/-- The free frame slots of `pending_frames`. -/
def Sink.freeSlots (s : Sink) : Nat := (s.pendingFrames.buf.size - s.pendingFrames.len) / s.frameLen

theorem SinkInv.freeSlots_eq {s : Sink} (h : SinkInv s) : s.freeSlots = pendingFramesCapacity - s.pending.length := by
  rw [Sink.freeSlots, h.ring.size, ← h.ring.length_blocks, ← Nat.sub_mul, Nat.mul_div_cancel _ h.frameLen_pos]
  rfl

section Terminates

variable {H : Host} {s : Sink} {sender : UdpEndpoint} {frame : MemBlock}

/-- **A frame of the borrower is handled in finitely many rounds iff** it is dropped or its copies fit into the ring. -/
theorem sinkHandleEnqueue_terminates_iff (hr : Reachable H s) (hs : s.state = .stateLent)
    (hb : udpEndpointEqual sender s.borrowerEndpoint = true) (hv : frame.Valid) (h3 : 3 ≤ frame.size) (id : UInt16)
    (idx : UInt8) :
    (∃ rounds s', sinkHandleEnqueueFor rounds H s id idx.toNat frame sender = .ok s') ↔
      128 < s.distance idx.toNat ∨ s.distance idx.toNat ≤ s.freeSlots := by
  have h := reachable_inv hr
  have hi : idx.toNat ≤ 255 := by have := idx.toNat_lt; omega
  have hlen := h.length_pending
  obtain ⟨k, hk⟩ := Int.eq_ofNat_of_zero_le (h.distance_nonneg hi)
  rw [h.freeSlots_eq]
  simp only [sinkHandleEnqueueFor_borrower H hs hb h3]
  by_cases hfar : 128 < s.distance idx.toNat
  · simp only [if_pos hfar]
    exact ⟨fun _ => .inl hfar, fun _ => ⟨0, s, rfl⟩⟩
  · simp only [if_neg hfar]
    constructor
    · rintro ⟨rounds, s', e⟩
      by_contra hno
      rw [sinkEnqueueLoop_stuck (by omega) hi (pendingFramesCapacity - s.pending.length) rounds h
        (s.reads_of_valid hv) (by omega) (by omega)] at e
      cases e
    · rintro (hfar' | hfits)
      · exact absurd hfar' hfar
      · obtain ⟨s', e, -⟩ := sinkEnqueueLoop_append (by omega) hi k k h (s.reads_of_valid hv) hk (Nat.le_refl _)
          (by omega)
        exact ⟨k, s', e⟩

/-- A fresh sink of one light lent to the sender handles the frame for index 127. -/
theorem sinkHandleEnqueue_terminates_fresh :
    ∃ s, sinkCall exampleHost (freshSink exampleHost 1 true)
        (.state exampleClock (some ⟨(WireMsg.borrow 0 20 1).bytes, exampleEndpoint⟩)) = .ok s ∧
      ∃ rounds s', sinkHandleEnqueueFor rounds exampleHost s 1 (127 : UInt8).toNat (MemBlock.ofBytes [1, 2, 3])
        exampleEndpoint = .ok s' := by
  obtain ⟨s, hs⟩ := exists_firstSession exampleHost (d := 20) (n := 1) (by decide) (by decide) exampleClock
    exampleEndpoint
  refine ⟨s, hs.call, (sinkHandleEnqueue_terminates_iff hs.reachable hs.session.state hs.own
    (MemBlock.valid_ofBytes [1, 2, 3]) (by decide) 1 127).mpr (.inr ?_)⟩
  rw [hs.inv.freeSlots_eq, hs.pending, Sink.distance, hs.session.idx]
  decide

end Terminates

/-! ## A full ring -/

/-- **The next frame of the borrower is never done with**: after a BORROW and a frame for index 127, one for 128. -/
theorem sinkHandleEnqueue_full_diverges :
    ∃ s, sinkRun exampleHost (freshSink exampleHost 1 true)
        [.state exampleClock (some ⟨(WireMsg.borrow 0 20 1).bytes, exampleEndpoint⟩),
         .state exampleClock (some ⟨(WireMsg.enqueue 1 127 [1, 2, 3] (by decide)).bytes, exampleEndpoint⟩)] = .ok s ∧
      Reachable exampleHost s ∧ s.state = .stateLent ∧
      udpEndpointEqual exampleEndpoint s.borrowerEndpoint = true ∧
      ¬∃ rounds s', sinkHandleEnqueueFor rounds exampleHost s 2 (128 : UInt8).toNat (MemBlock.ofBytes [1, 2, 3])
        exampleEndpoint = .ok s' := by
  obtain ⟨s₀, hs₀⟩ := exists_firstSession exampleHost (d := 20) (n := 1) (by decide) (by decide) exampleClock
    exampleEndpoint
  -- the frame for index 127 fills the ring
  obtain ⟨s, e, hs⟩ := hs₀.enqueue [1, 2, 3] (by decide) (by decide) 127 (by decide) 1 exampleClock
  refine ⟨s, sinkRun_pair hs₀.call e, .call hs₀.reachable e, hs.state, hs.own, ?_⟩
  rintro ⟨rounds, s', e'⟩
  have hd : s.distance (128 : UInt8).toNat = 1 := by
    rw [Sink.distance, hs.last]
    decide
  have hfull : s.pending.length + 0 = pendingFramesCapacity := by
    rw [hs.pending, List.length_replicate]
    rfl
  rw [sinkHandleEnqueueFor_borrower exampleHost hs.state hs.own (by decide), if_neg (by omega),
    sinkEnqueueLoop_stuck (by decide) (by decide) 0 rounds hs.inv (s.reads_of_valid (MemBlock.valid_ofBytes _)) hfull
      (by omega)] at e'
  cases e'

end Atolla

import Atolla.Sink.Invariant

/-!
# The handlers of the sink

- `sink_handle_borrow`: when it lends the sink (`Sink.Lends`) and the session it then opens (`Sink.lent`);
- `sink_handle_enqueue`: the loop stores one frame a round and comes one closer to the index of the message
  (`boundedDiff_next`). With room for all copies it appends them (`sinkEnqueueLoop_append`), without it never ends
  (`sinkEnqueueLoop_stuck`).
-/

set_option autoImplicit false

namespace Atolla

open Loop

section Borrow

variable (H : Host) {s : Sink}

/-- The conditions under which `sink_handle_borrow` lends the sink. -/
structure Sink.Lends (s : Sink) (frameLengthMs : Int) (bufferLength : Nat) (sender : UdpEndpoint) : Prop where
  free : s.state = .stateOpen ∨ (s.state = .stateLent ∧ udpEndpointEqual sender s.borrowerEndpoint = true)
  fits : bufferLength ≤ pendingFramesCapacity
  slow : frameLengthMsMin ≤ frameLengthMs

theorem Sink.Lends.not_error {frameLengthMs : Int} {bufferLength : Nat} {sender : UdpEndpoint}
    (h : s.Lends frameLengthMs bufferLength sender) : s.state ≠ .stateError := by
  intro he
  rcases h.free with ho | ⟨hl, -⟩
  · rw [he] at ho
    cases ho
  · rw [he] at hl
    cases hl

/-- The sink after it was lent. -/
def Sink.lent (s : Sink) (builder : MsgBuilder) (now : UInt32) (frameLengthMs : Int) (sender : UdpEndpoint) : Sink :=
  { (s.granted frameLengthMs sender).replied builder (encode 1 s.builder.nextMsgId []) sender with
    lastSendLentTime := now }

theorem SinkInv.lent (h : SinkInv s) {builder : MsgBuilder} (hb : builder.msgBuf.Owned) (now : UInt32) {d : Int}
    (hd : 10 ≤ d) (hd' : d ≤ 255) (sender : UdpEndpoint) : SinkInv (s.lent builder now d sender) := by
  have hg := h.granted hd hd' sender
  exact hg.congr rfl hb rfl rfl rfl hg.idx hg.duration rfl rfl

/-- The test for the memory compares numbers of frames. -/
theorem SinkInv.required_le (h : SinkInv s) (n : Nat) :
    s.pendingFrames.buf.capacity < n * (s.lightsCount * colorChannelCount) ↔ pendingFramesCapacity < n := by
  rw [h.ring.capacity]
  exact Nat.mul_lt_mul_right h.frameLen_pos

/-- **An accepted BORROW** opens a session with its sender and is answered by a LENT. -/
theorem sinkHandleBorrow_lends (h : SinkInv s) {d : Int} {n : Nat} {sender : UdpEndpoint} (hl : s.Lends d n sender)
    (now : UInt32) (id : UInt16) :
    ∃ builder, sinkHandleBorrow H now s id d n sender = .ok (s.lent builder now d sender) ∧
      builder.msgBuf.Owned ∧ builder.nextMsgId = s.builder.nextMsgId + 1 := by
  have hslow : ¬d < frameLengthMsMin := Int.not_lt.mpr hl.slow
  have hfits : ¬s.pendingFrames.buf.capacity < n * (s.lightsCount * colorChannelCount) := by
    rw [h.required_le]; exact Nat.not_lt.mpr hl.fits
  obtain ⟨builder, e, hb⟩ := msgBuilderLent_spec H h.builder
  have hread : readBytes builder.msgBuf.data builder.msgBuf.size = .ok builder.msgBuf.bytes := readBytes_of_le hb.valid
  refine ⟨builder, ?_, hb.owned, hb.next⟩
  rw [sinkHandleBorrow, if_pos hl.free]
  simp only [if_neg hfits, if_neg hslow]
  rw [sinkSendLent]
  simp only [e, ok_bind, hread, hb.bytes]
  rfl

/-- A BORROW of another endpoint is answered by a FAIL. -/
theorem sinkHandleBorrow_foreign {sender : UdpEndpoint} (hs : s.state = .stateLent)
    (hf : udpEndpointEqual sender s.borrowerEndpoint = false) (now : UInt32) (id : UInt16) (d : Int) (n : Nat) :
    sinkHandleBorrow H now s id d n sender = sinkSendFailTo H s id .lentToOtherSource sender := by
  rw [sinkHandleBorrow, if_neg (by simp [hs, hf]), if_pos hs]

/-- A BORROW for more frames than the ring holds is answered by a FAIL, and the session of its sender is over. -/
theorem sinkHandleBorrow_tooLarge (h : SinkInv s) {d : Int} {n : Nat} {sender : UdpEndpoint}
    (hfree : s.state = .stateOpen ∨ (s.state = .stateLent ∧ udpEndpointEqual sender s.borrowerEndpoint = true))
    (hn : pendingFramesCapacity < n) (now : UInt32) (id : UInt16) :
    sinkHandleBorrow H now s id d n sender = sinkSendFailTo H s id .requestedBufferTooLarge sender >>= fun s' =>
      pure (if s'.state = .stateLent then sinkDropBorrow s' else s') := by
  rw [sinkHandleBorrow, if_pos hfree]
  simp only [if_pos ((h.required_le n).mpr hn)]

/-- So is one for frames that are too short. -/
theorem sinkHandleBorrow_tooShort (h : SinkInv s) {d : Int} {n : Nat} {sender : UdpEndpoint}
    (hfree : s.state = .stateOpen ∨ (s.state = .stateLent ∧ udpEndpointEqual sender s.borrowerEndpoint = true))
    (hn : n ≤ pendingFramesCapacity) (hd : d < frameLengthMsMin) (now : UInt32) (id : UInt16) :
    sinkHandleBorrow H now s id d n sender =
      sinkSendFailTo H s id .requestedFrameDurationTooShort sender >>= fun s' =>
        pure (if s'.state = .stateLent then sinkDropBorrow s' else s') := by
  have hfits : ¬s.pendingFrames.buf.capacity < n * (s.lightsCount * colorChannelCount) := by
    rw [h.required_le]
    exact Nat.not_lt.mpr hn
  rw [sinkHandleBorrow, if_pos hfree]
  simp only [if_neg hfits, if_pos hd]

theorem SinkInv.dropIfLent (h : SinkInv s) : SinkInv (if s.state = .stateLent then sinkDropBorrow s else s) := by
  split
  · exact h.dropBorrow
  · exact h

theorem sinkHandleBorrow_inv (h : SinkInv s) {now : UInt32} {id : UInt16} {d : Int} {n : Nat} {sender : UdpEndpoint}
    {s' : Sink} (hd : d ≤ 255) (e : sinkHandleBorrow H now s id d n sender = .ok s') : SinkInv s' := by
  unfold sinkHandleBorrow at e
  split at e
  · rename_i hfree
    simp only at e
    split at e
    · -- the buffer is too long
      obtain ⟨s₁, h₁, h₂⟩ := bind_eq_ok.mp e
      cases h₂
      exact (sinkSendFailTo_inv H h h₁).dropIfLent
    · split at e
      · -- the frames are too short
        obtain ⟨s₁, h₁, h₂⟩ := bind_eq_ok.mp e
        cases h₂
        exact (sinkSendFailTo_inv H h h₁).dropIfLent
      · rename_i hslow
        exact sinkSendLent_inv H (h.granted (Int.not_lt.mp hslow) hd sender) e
  · split at e
    · exact sinkSendFailTo_inv H h e
    · cases e
      exact h

end Borrow

/-! ## The distance to the index of a message -/

/-- How many frames `sink_handle_enqueue` would append for a message with this index. -/
def Sink.distance (s : Sink) (frameIdx : Nat) : Int := boundedDiff s.lastEnqueuedFrameIdx frameIdx 256

section Distance

variable {s : Sink} {idx : Nat}

theorem SinkInv.distance_nonneg (h : SinkInv s) (hi : idx ≤ 255) : 0 ≤ s.distance idx := by
  have := h.idx
  unfold Sink.distance boundedDiff
  split <;> omega

theorem SinkInv.distance_eq_zero (h : SinkInv s) (hi : idx ≤ 255) :
    s.distance idx = 0 ↔ s.lastEnqueuedFrameIdx = idx := by
  have := h.idx
  unfold Sink.distance boundedDiff
  split <;> omega

/-- **One frame closer**: the next index is one nearer to any index it has not reached. -/
theorem boundedDiff_next {last : Int} (hl : -1 ≤ last ∧ last ≤ 255) (hi : idx ≤ 255)
    (hd : 0 < boundedDiff last idx 256) :
    boundedDiff ((last + 1).tmod 256) idx 256 = boundedDiff last idx 256 - 1 := by
  rw [Int.tmod_eq_emod_of_nonneg (by omega)]
  unfold boundedDiff at hd ⊢
  split at hd <;> split <;> omega

theorem SinkInv.distance_pushed (h : SinkInv s) (hi : idx ≤ 255) (hd : 0 < s.distance idx) (g : Bytes)
    (ring : MemRing) : (s.pushed g ring).distance idx = s.distance idx - 1 := boundedDiff_next h.idx hi hd

end Distance

/-! ## The loop of `sink_handle_enqueue` -/

/-- `s'` is `s` with the frames `gs` stored behind the others. -/
structure Stored (s s' : Sink) (gs : List Bytes) (last : Int) : Prop where
  same : s' = { s with
    receivedFrame := s'.receivedFrame
    pendingFrames := s'.pendingFrames
    lastEnqueuedFrameIdx := last
    enqueued := s.enqueued ++ gs }
  inv : SinkInv s'
  pending : s'.pending = s.pending ++ gs

section Enqueue

variable {s : Sink} {frame : MemBlock} {idx : Nat}

/-- What the loop reads of the frame lies inside of its object. -/
def Sink.Reads (s : Sink) (frame : MemBlock) : Prop := min s.frameLen frame.size ≤ frame.data.length

theorem Sink.reads_of_valid (s : Sink) (hv : frame.Valid) : s.Reads frame := (Nat.min_le_right _ _).trans hv

theorem sinkEnqueueLoop_eq (n : Nat) (s : Sink) (idx : Nat) (frame : MemBlock) :
    sinkEnqueueLoop n s idx frame =
      whileM .diverges (fun s : Sink => decide (0 < s.distance idx)) (fun s => sinkEnqueue s frame) n s := rfl

theorem sinkEnqueueLoop_zero (h : 0 < s.distance idx) : sinkEnqueueLoop 0 s idx frame = .error .diverges :=
  if_pos (decide_eq_true h)

theorem sinkEnqueueLoop_succ (h : 0 < s.distance idx) (n : Nat) :
    sinkEnqueueLoop (n + 1) s idx frame = sinkEnqueue s frame >>= fun s' => sinkEnqueueLoop n s' idx frame := by
  rw [sinkEnqueueLoop_eq, whileM_succ (s := s) (decide_eq_true h)]
  rfl

theorem sinkEnqueueLoop_done (h : ¬0 < s.distance idx) (n : Nat) : sinkEnqueueLoop n s idx frame = .ok s := by
  rw [sinkEnqueueLoop_eq, whileM_done (s := s) (decide_eq_false h)]

/-- **Room for all copies**: they are appended, and the last index is that of the message. -/
theorem sinkEnqueueLoop_append (h3 : 0 < frame.size) (hi : idx ≤ 255) :
    ∀ (k n : Nat) {s : Sink}, SinkInv s → s.Reads frame → s.distance idx = k → k ≤ n →
      s.pending.length + k ≤ pendingFramesCapacity →
      ∃ s', sinkEnqueueLoop n s idx frame = .ok s' ∧
        Stored s s' (List.replicate k (s.patterned frame.bytes)) idx
  | 0, n, s, h, _, hd, _, _ => by
    have hlast := (h.distance_eq_zero hi).mp hd
    refine ⟨s, sinkEnqueueLoop_done (by omega) n, ?_, h, by simp⟩
    rw [← hlast, List.replicate_zero, List.append_nil]
  | k + 1, 0, _, _, _, _, hn, _ => absurd hn (by omega)
  | k + 1, n + 1, s, h, hr, hd, hn, hroom => by
    have hpos : 0 < s.distance idx := by omega
    obtain ⟨ring, e, ha, hb⟩ := sinkEnqueue_room h h3 hr (by omega)
    set g := s.patterned frame.bytes
    have hg : g.length = s.frameLen := Pattern.length_cycle _ _
    have h' : SinkInv (s.pushed g ring) := h.pushed hg ha hb
    have hb' : (s.pushed g ring).pending = s.pending ++ [g] := hb
    have hd' : (s.pushed g ring).distance idx = k := by rw [h.distance_pushed hi hpos]; omega
    obtain ⟨s', e', hs⟩ := sinkEnqueueLoop_append h3 hi k n h' hr hd' (by omega)
      (by rw [hb', List.length_append, List.length_singleton]; omega)
    have hgs : List.replicate (k + 1) g = [g] ++ List.replicate k g := rfl
    refine ⟨s', by rw [sinkEnqueueLoop_succ hpos, e]; exact e', ?_, hs.inv, ?_⟩
    · rw [hgs, ← List.append_assoc]
      exact hs.same
    · rw [hs.pending, hb', hgs, List.append_assoc]
      rfl

/-- **No room for all copies**: the ring fills up, and from then on every round leaves the index where it is. -/
theorem sinkEnqueueLoop_stuck (h3 : 0 < frame.size) (hi : idx ≤ 255) :
    ∀ (room n : Nat) {s : Sink}, SinkInv s → s.Reads frame → s.pending.length + room = pendingFramesCapacity →
      (room : Int) < s.distance idx → sinkEnqueueLoop n s idx frame = .error .diverges
  | 0, n, s, h, hr, hfull, hd => by
    refine whileM_stuck (fun s : Sink => SinkInv s ∧ s.Reads frame ∧ s.pending.length = pendingFramesCapacity ∧
      0 < s.distance idx) ?_ n s ⟨h, hr, hfull, hd⟩
    rintro s ⟨h, hr, hfull, hd⟩
    have hg : (s.patterned frame.bytes).length = s.frameLen := Pattern.length_cycle _ _
    exact ⟨decide_eq_true hd, _, sinkEnqueue_full h h3 hr hfull, h.received hg, hr, hfull, hd⟩
  | room + 1, 0, _, _, _, _, hd => sinkEnqueueLoop_zero (by omega)
  | room + 1, n + 1, s, h, hr, hroom, hd => by
    have hpos : 0 < s.distance idx := by omega
    obtain ⟨ring, e, ha, hb⟩ := sinkEnqueue_room h h3 hr (by omega)
    set g := s.patterned frame.bytes
    have hg : g.length = s.frameLen := Pattern.length_cycle _ _
    have hb' : (s.pushed g ring).pending = s.pending ++ [g] := hb
    have hd' := h.distance_pushed hi hpos g ring
    rw [sinkEnqueueLoop_succ hpos, e]
    exact sinkEnqueueLoop_stuck h3 hi room n (h.pushed hg ha hb) hr
      (by rw [hb', List.length_append, List.length_singleton]; omega) (by omega)

/-- A frame that lies outside of its object stops the first round. -/
theorem sinkEnqueueLoop_fault (h : SinkInv s) (h3 : 0 < frame.size) (hr : ¬s.Reads frame) (hd : 0 < s.distance idx)
    (n : Nat) : sinkEnqueueLoop (n + 1) s idx frame = .error .outOfBounds := by
  have hfill := (fill_received h h3).trans (if_neg hr)
  rw [sinkEnqueueLoop_succ hd, sinkEnqueue, hfill]
  rfl

theorem sinkEnqueueLoop_inv (h3 : 0 < frame.size) {n : Nat} {s' : Sink} (h : SinkInv s)
    (e : sinkEnqueueLoop n s idx frame = .ok s') : SinkInv s' :=
  (whileM_inv SinkInv (fun _ _ h _ e => sinkEnqueue_inv h h3 e) n s s' h e).1

/-- **128 rounds are enough**: from there on the number of rounds makes no difference. -/
theorem sinkEnqueueLoop_rounds (h : SinkInv s) (h3 : 0 < frame.size) (hi : idx ≤ 255) (hd : s.distance idx ≤ 128)
    {n : Nat} (hn : 128 ≤ n) : sinkEnqueueLoop n s idx frame = sinkEnqueueLoop 128 s idx frame := by
  obtain ⟨k, hk⟩ := Int.eq_ofNat_of_zero_le (h.distance_nonneg hi)
  by_cases hpos : 0 < s.distance idx
  · by_cases hr : s.Reads frame
    · by_cases hroom : s.pending.length + k ≤ pendingFramesCapacity
      · obtain ⟨s', e, -⟩ := sinkEnqueueLoop_append h3 hi k 128 h hr hk (by omega) hroom
        rw [e]
        exact whileM_mono hn e
      · have hlen := h.length_pending
        have hstuck := fun n => sinkEnqueueLoop_stuck h3 hi (pendingFramesCapacity - s.pending.length) n h hr
          (by omega) (by omega)
        rw [hstuck, hstuck]
    · obtain ⟨n, rfl⟩ : ∃ m, n = m + 1 := ⟨n - 1, by omega⟩
      rw [sinkEnqueueLoop_fault h h3 hr hpos, sinkEnqueueLoop_fault h h3 hr hpos]
  · rw [sinkEnqueueLoop_done hpos, sinkEnqueueLoop_done hpos]

end Enqueue

/-! ## `sink_handle_enqueue` -/

section HandleEnqueue

variable (H : Host) {s : Sink} {frame : MemBlock} {idx : Nat} {sender : UdpEndpoint}

/-- A frame of the borrower. -/
theorem sinkHandleEnqueueFor_borrower (hs : s.state = .stateLent)
    (hb : udpEndpointEqual sender s.borrowerEndpoint = true) (h3 : 3 ≤ frame.size) (n : Nat) (id : UInt16) :
    sinkHandleEnqueueFor n H s id idx frame sender =
      if 128 < s.distance idx then .ok s else sinkEnqueueLoop n s idx frame := by
  rw [sinkHandleEnqueueFor, if_neg (by simp [hs]), if_neg (by simp [hs]), if_neg (by omega), if_pos hb]
  rfl

/-- A frame of another endpoint is answered by a FAIL. -/
theorem sinkHandleEnqueueFor_foreign (hs : s.state = .stateLent)
    (hf : udpEndpointEqual sender s.borrowerEndpoint = false) (h3 : 3 ≤ frame.size) (n : Nat) (id : UInt16) :
    sinkHandleEnqueueFor n H s id idx frame sender = sinkSendFailTo H s id .lentToOtherSource sender := by
  rw [sinkHandleEnqueueFor, if_neg (by simp [hs]), if_neg (by simp [hs]), if_neg (by omega), if_neg (by simp [hf])]

/-- A frame that is too short ends the session, whoever sent it. -/
theorem sinkHandleEnqueueFor_short (hs : s.state = .stateLent) (h3 : frame.size < 3) (n : Nat) (id : UInt16) :
    sinkHandleEnqueueFor n H s id idx frame sender =
      sinkSendFailTo H s id .badMsg sender >>= fun s' => pure (sinkDropBorrow s') := by
  rw [sinkHandleEnqueueFor, if_neg (by simp [hs]), if_neg (by simp [hs]), if_pos h3]

theorem sinkHandleEnqueueFor_inv (h : SinkInv s) {n : Nat} {id : UInt16} {s' : Sink}
    (e : sinkHandleEnqueueFor n H s id idx frame sender = .ok s') : SinkInv s' := by
  cases hs : s.state with
  | stateError =>
    rw [sinkHandleEnqueueFor, if_pos hs] at e
    cases e
    exact h
  | stateOpen =>
    rw [sinkHandleEnqueueFor, if_neg (by simp [hs]), if_pos hs] at e
    exact sinkSendFailTo_inv H h e
  | stateLent =>
    rcases Nat.lt_or_ge frame.size 3 with h3 | h3
    · rw [sinkHandleEnqueueFor_short H hs h3] at e
      obtain ⟨s₁, h₁, h₂⟩ := bind_eq_ok.mp e
      cases h₂
      exact (sinkSendFailTo_inv H h h₁).dropBorrow
    · cases hb : udpEndpointEqual sender s.borrowerEndpoint with
      | true =>
        rw [sinkHandleEnqueueFor_borrower H hs hb h3] at e
        split at e
        · cases e
          exact h
        · exact sinkEnqueueLoop_inv (by omega) h e
      | false =>
        rw [sinkHandleEnqueueFor_foreign H hs hb h3] at e
        exact sinkSendFailTo_inv H h e

/-- More than 128 rounds make no difference. -/
theorem sinkHandleEnqueueFor_eq (h : SinkInv s) (hi : idx ≤ 255) {n : Nat} (hn : 128 ≤ n) (id : UInt16) :
    sinkHandleEnqueueFor n H s id idx frame sender = sinkHandleEnqueue H s id idx frame sender := by
  unfold sinkHandleEnqueue sinkHandleEnqueueFor
  split
  · rfl
  split
  · rfl
  split
  · rfl
  split
  · split
    · rfl
    · rename_i h3 _ hd
      exact sinkEnqueueLoop_rounds h (by omega) hi (by unfold Sink.distance; omega) hn
  · rfl

/-- **A frame of the borrower within reach, and room**: its copies are appended. -/
theorem sinkHandleEnqueue_append (h : SinkInv s) (hs : s.state = .stateLent)
    (hb : udpEndpointEqual sender s.borrowerEndpoint = true) (h3 : 3 ≤ frame.size) (hv : frame.Valid)
    (hi : idx ≤ 255) {k : Nat} (hd : s.distance idx = k) (hk : k ≤ 128)
    (hroom : s.pending.length + k ≤ pendingFramesCapacity) (id : UInt16) :
    ∃ s', sinkHandleEnqueue H s id idx frame sender = .ok s' ∧
      Stored s s' (List.replicate k (s.patterned frame.bytes)) idx := by
  rw [sinkHandleEnqueue, sinkHandleEnqueueFor_borrower H hs hb h3, if_neg (by omega)]
  exact sinkEnqueueLoop_append (by omega) hi k 128 h (s.reads_of_valid hv) hd hk hroom

/-- **A frame of the borrower out of reach** changes nothing. -/
theorem sinkHandleEnqueue_late (hs : s.state = .stateLent) (hb : udpEndpointEqual sender s.borrowerEndpoint = true)
    (h3 : 3 ≤ frame.size) (hd : 128 < s.distance idx) (id : UInt16) :
    sinkHandleEnqueue H s id idx frame sender = .ok s := by
  rw [sinkHandleEnqueue, sinkHandleEnqueueFor_borrower H hs hb h3, if_pos hd]

/-- The loop looks at no more than the bytes of a frame. -/
theorem sinkHandleEnqueue_ofBytes (hv : frame.Valid) (id : UInt16) :
    sinkHandleEnqueue H s id idx frame sender = sinkHandleEnqueue H s id idx (MemBlock.ofBytes frame.bytes) sender := by
  have hsize : (MemBlock.ofBytes frame.bytes).size = frame.size := MemBlock.length_bytes hv
  have hstore : ∀ s : Sink, sinkEnqueue s frame = sinkEnqueue s (MemBlock.ofBytes frame.bytes) := by
    intro s
    have := fillWithPattern_take s.receivedFrame.data s.receivedFrame.capacity hv
    rw [sinkEnqueue, sinkEnqueue, hsize]
    exact congrArg (· >>= _) this.symm
  have hloop : sinkEnqueueLoop 128 s idx frame = sinkEnqueueLoop 128 s idx (MemBlock.ofBytes frame.bytes) := by
    unfold sinkEnqueueLoop
    rw [funext hstore]
  rw [sinkHandleEnqueue, sinkHandleEnqueueFor, sinkHandleEnqueueFor, hsize, hloop]

end HandleEnqueue

end Atolla

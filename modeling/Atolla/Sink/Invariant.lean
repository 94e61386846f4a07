import Atolla.Sink.Model

/-!
# What holds of every sink

- the states the functions of the sink lead to, each an update of a few fields (`Sink.replied`, `Sink.granted`,
  `Sink.pushed`, `Sink.popped`);
- `SinkInv`, the invariant of a sink: shapes of the buffers, the ring as a queue of frames, ranges of the session
  fields, and the history: what was stored is what was shown followed by what is pending;
- one lemma for each function that says which of these updates it is, and `reachable_inv`.
-/

set_option autoImplicit false

namespace Atolla

open Loop Pattern Fifo

/-- The bytes of a stored frame. -/
def Sink.frameLen (s : Sink) : Nat := s.lightsCount * colorChannelCount

/-- The frames in `pending_frames`, oldest first. -/
def Sink.pending (s : Sink) : List Bytes := s.pendingFrames.blocks s.frameLen

/-! ## Updates of the state -/

/-- After a datagram was handed to the socket. -/
def Sink.replied (s : Sink) (builder : MsgBuilder) (bytes : Bytes) (receiver : UdpEndpoint) : Sink :=
  { s with builder := builder, socket := s.socket ++ [(bytes, receiver)] }

/-- A new session, before its LENT is sent. -/
def Sink.granted (s : Sink) (frameLengthMs : Int) (sender : UdpEndpoint) : Sink :=
  { s with
    borrowerEndpoint := sender
    frameDurationMs := UInt32.ofInt frameLengthMs
    timeOrigin := NULL_TIME
    lastEnqueuedFrameIdx := -1
    lastRecvTime := NULL_TIME
    state := .stateLent }

/-- With a frame assembled in `received_frame`. -/
def Sink.received (s : Sink) (g : Bytes) : Sink := { s with receivedFrame := { s.receivedFrame with data := g } }

/-- With a frame stored in the ring. -/
def Sink.pushed (s : Sink) (g : Bytes) (ring : MemRing) : Sink :=
  { s.received g with
    pendingFrames := ring
    lastEnqueuedFrameIdx := (s.lastEnqueuedFrameIdx + 1).tmod 256
    enqueued := s.enqueued ++ [g] }

/-- With a frame moved from the ring into `current_frame`. -/
def Sink.popped (s : Sink) (g : Bytes) (ring : MemRing) : Sink :=
  { s with
    pendingFrames := ring
    currentFrame := { s.currentFrame with data := g }
    dequeued := s.dequeued ++ [g] }

/-! ## The invariant -/

/-- **What holds of every sink between two calls** and between two rounds of its loops. -/
structure SinkInv (s : Sink) : Prop where
  lights : 1 ≤ s.lightsCount ∧ s.lightsCount ≤ 337
  builder : s.builder.msgBuf.Owned
  currentData : s.currentFrame.data.length = s.frameLen
  currentCapacity : s.currentFrame.capacity = s.frameLen
  receivedData : s.receivedFrame.data.length = s.frameLen
  receivedCapacity : s.receivedFrame.capacity = s.frameLen
  ring : s.pendingFrames.Aligned s.frameLen pendingFramesCapacity
  idx : -1 ≤ s.lastEnqueuedFrameIdx ∧ s.lastEnqueuedFrameIdx ≤ 255
  duration : s.state = .stateLent → 10 ≤ s.frameDurationMs.toNat ∧ s.frameDurationMs.toNat ≤ 255
  history : s.dequeued ++ s.pending = s.enqueued
  shown : ∀ g, s.dequeued.getLast? = some g → s.currentFrame.data = g

namespace SinkInv

variable {s : Sink}

theorem frameLen_pos (h : SinkInv s) : 0 < s.frameLen := by
  have := h.lights
  simp only [Sink.frameLen, colorChannelCount]; omega

theorem length_pending (h : SinkInv s) : s.pending.length ≤ pendingFramesCapacity := by
  obtain ⟨q, -, hq⟩ := h.ring.holds
  rw [Sink.pending, hq]
  exact q.bound

theorem length_of_mem_pending (h : SinkInv s) {g : Bytes} (hg : g ∈ s.pending) : g.length = s.frameLen :=
  h.ring.length_of_mem hg

/-- Two states that differ only in the socket, the builder, the received bytes, the panic text, the session state and
the times satisfy the invariant together. -/
theorem congr (h : SinkInv s) {s' : Sink} (hl : s'.lightsCount = s.lightsCount)
    (hb : s'.builder.msgBuf.Owned)
    (hc : s'.currentFrame = s.currentFrame) (hv : s'.receivedFrame = s.receivedFrame)
    (hp : s'.pendingFrames = s.pendingFrames)
    (hi : -1 ≤ s'.lastEnqueuedFrameIdx ∧ s'.lastEnqueuedFrameIdx ≤ 255)
    (hd : s'.state = .stateLent → 10 ≤ s'.frameDurationMs.toNat ∧ s'.frameDurationMs.toNat ≤ 255)
    (he : s'.enqueued = s.enqueued) (hq : s'.dequeued = s.dequeued) : SinkInv s' := by
  have hf : s'.frameLen = s.frameLen := by rw [Sink.frameLen, hl]; rfl
  have hpend : s'.pending = s.pending := by rw [Sink.pending, hp, hf]; rfl
  refine ⟨hl ▸ h.lights, hb, ?_, ?_, ?_, ?_, ?_, hi, hd, ?_, ?_⟩
  · rw [hc, hf]; exact h.currentData
  · rw [hc, hf]; exact h.currentCapacity
  · rw [hv, hf]; exact h.receivedData
  · rw [hv, hf]; exact h.receivedCapacity
  · rw [hp, hf]; exact h.ring
  · rw [hq, hpend, he]; exact h.history
  · rw [hq, hc]; exact h.shown

theorem replied (h : SinkInv s) {builder : MsgBuilder} (hb : builder.msgBuf.Owned) (bytes : Bytes)
    (receiver : UdpEndpoint) : SinkInv (s.replied builder bytes receiver) :=
  h.congr rfl hb rfl rfl rfl h.idx h.duration rfl rfl

theorem dropBorrow (h : SinkInv s) : SinkInv (sinkDropBorrow s) :=
  h.congr rfl h.builder rfl rfl rfl h.idx (fun h => by cases h) rfl rfl

theorem granted (h : SinkInv s) {d : Int} (hd : 10 ≤ d) (hd' : d ≤ 255) (sender : UdpEndpoint) :
    SinkInv (s.granted d sender) := by
  refine h.congr rfl h.builder rfl rfl rfl ⟨?_, ?_⟩ (fun _ => ?_) rfl rfl
  · exact Int.le_refl _
  · show (-1 : Int) ≤ 255; decide
  · have hto : (UInt32.ofInt d).toNat = d.toNat := by
      rw [UInt32.ofInt, UInt32.toNat_ofNat']
      omega
    show 10 ≤ (UInt32.ofInt d).toNat ∧ (UInt32.ofInt d).toNat ≤ 255
    rw [hto]
    omega

theorem received (h : SinkInv s) {g : Bytes} (hg : g.length = s.frameLen) : SinkInv (s.received g) :=
  ⟨h.lights, h.builder, h.currentData, h.currentCapacity, hg, h.receivedCapacity, h.ring, h.idx,
    h.duration, h.history, h.shown⟩

/-- The next index after a successful store. -/
theorem next_idx (h : SinkInv s) :
    (s.lastEnqueuedFrameIdx + 1).tmod 256 = if s.lastEnqueuedFrameIdx = 255 then 0 else s.lastEnqueuedFrameIdx + 1 := by
  have := h.idx
  rw [Int.tmod_eq_emod_of_nonneg (by omega)]
  split <;> omega

theorem pushed (h : SinkInv s) {g : Bytes} (hg : g.length = s.frameLen) {ring : MemRing}
    (ha : ring.Aligned s.frameLen pendingFramesCapacity) (hb : ring.blocks s.frameLen = s.pending ++ [g]) :
    SinkInv (s.pushed g ring) := by
  refine ⟨h.lights, h.builder, h.currentData, h.currentCapacity, hg, h.receivedCapacity, ha, ?_, h.duration,
    ?_, h.shown⟩
  · have := h.idx
    show -1 ≤ (s.lastEnqueuedFrameIdx + 1).tmod 256 ∧ (s.lastEnqueuedFrameIdx + 1).tmod 256 ≤ 255
    rw [h.next_idx]
    split <;> omega
  · show s.dequeued ++ ring.blocks s.frameLen = s.enqueued ++ [g]
    rw [hb, ← h.history, List.append_assoc]

theorem popped (h : SinkInv s) {g : Bytes} {rest : List Bytes} (hp : s.pending = g :: rest) {ring : MemRing}
    (ha : ring.Aligned s.frameLen pendingFramesCapacity) (hb : ring.blocks s.frameLen = rest) :
    SinkInv (s.popped g ring) := by
  have hg : g.length = s.frameLen := h.length_of_mem_pending (by rw [hp]; exact List.mem_cons_self)
  refine ⟨h.lights, h.builder, hg, h.currentCapacity, h.receivedData, h.receivedCapacity, ha, h.idx,
    h.duration, ?_, ?_⟩
  · show (s.dequeued ++ [g]) ++ ring.blocks s.frameLen = s.enqueued
    rw [hb, ← h.history, hp, List.append_assoc]
    rfl
  · intro g' hg'
    have hlast : (s.dequeued ++ [g]).getLast? = some g' := hg'
    rw [List.getLast?_concat] at hlast
    exact Option.some.inj hlast

end SinkInv

/-! ## Replies -/

section Replies

variable (H : Host) {s : Sink}

theorem sinkSendFailTo_spec (h : SinkInv s) (id : UInt16) (code : ErrorCode) (receiver : UdpEndpoint) :
    ∃ builder, sinkSendFailTo H s id code receiver =
        .ok (s.replied builder (encode 255 s.builder.nextMsgId (failPayload id code.toByte)) receiver) ∧
      builder.msgBuf.Owned ∧ builder.nextMsgId = s.builder.nextMsgId + 1 := by
  obtain ⟨builder, e, hb⟩ := msgBuilderFail_spec H h.builder id code.toByte
  have hread : readBytes builder.msgBuf.data builder.msgBuf.size = .ok builder.msgBuf.bytes := readBytes_of_le hb.valid
  refine ⟨builder, ?_, hb.owned, hb.next⟩
  rw [sinkSendFailTo, e, ok_bind, hread, hb.bytes]
  rfl

theorem sinkSendLent_spec (h : SinkInv s) (now : UInt32) :
    ∃ builder, sinkSendLent H now s =
        .ok { s.replied builder (encode 1 s.builder.nextMsgId []) s.borrowerEndpoint with lastSendLentTime := now } ∧
      builder.msgBuf.Owned ∧ builder.nextMsgId = s.builder.nextMsgId + 1 := by
  obtain ⟨builder, e, hb⟩ := msgBuilderLent_spec H h.builder
  have hread : readBytes builder.msgBuf.data builder.msgBuf.size = .ok builder.msgBuf.bytes := readBytes_of_le hb.valid
  refine ⟨builder, ?_, hb.owned, hb.next⟩
  rw [sinkSendLent, e, ok_bind, hread, hb.bytes]
  rfl

theorem sinkSendLent_inv (h : SinkInv s) {now : UInt32} {s' : Sink} (e : sinkSendLent H now s = .ok s') :
    SinkInv s' := by
  obtain ⟨builder, e', hb, -⟩ := sinkSendLent_spec H h now
  rw [e', Except.ok.injEq] at e
  subst e
  exact h.congr rfl hb rfl rfl rfl h.idx h.duration rfl rfl

theorem sinkSendFailTo_inv (h : SinkInv s) {id : UInt16} {code : ErrorCode} {receiver : UdpEndpoint} {s' : Sink}
    (e : sinkSendFailTo H s id code receiver = .ok s') : SinkInv s' := by
  obtain ⟨builder, e', hb, -⟩ := sinkSendFailTo_spec H h id code receiver
  rw [e', Except.ok.injEq] at e
  subst e
  exact h.replied hb _ _

end Replies

/-! ## Storing frames -/

/-- The frame `sink_enqueue` stores for a received one. -/
def Sink.patterned (s : Sink) (frame : Bytes) : Bytes := cycle s.frameLen frame

section Store

variable {s : Sink} {frame : MemBlock}

/-- Assembling the frame: it fills `received_frame`, unless what is needed of it lies outside of its object. -/
theorem fill_received (h : SinkInv s) (h3 : 0 < frame.size) :
    fillWithPattern s.receivedFrame.data s.receivedFrame.capacity frame.data frame.size =
      if min s.frameLen frame.size ≤ frame.data.length then .ok (s.patterned frame.bytes) else .error .outOfBounds := by
  rw [h.receivedCapacity, fillWithPattern_spec h.frameLen_pos h3 h.receivedData.ge,
    List.drop_eq_nil_of_le h.receivedData.le, List.append_nil]
  rfl

/-- **Room**: the frame is stored behind the others. -/
theorem sinkEnqueue_room (h : SinkInv s) (h3 : 0 < frame.size) (hread : min s.frameLen frame.size ≤ frame.data.length)
    (hroom : s.pending.length < pendingFramesCapacity) :
    ∃ ring, sinkEnqueue s frame = .ok (s.pushed (s.patterned frame.bytes) ring) ∧
      ring.Aligned s.frameLen pendingFramesCapacity ∧
      ring.blocks s.frameLen = s.pending ++ [s.patterned frame.bytes] := by
  set g := s.patterned frame.bytes with hg
  have hlen : g.length = s.frameLen := length_cycle _ _
  have htake : g.take s.frameLen = g := List.take_of_length_le hlen.le
  have htake' : g.take s.receivedFrame.capacity = g := by rw [h.receivedCapacity]; exact htake
  obtain ⟨q, hq⟩ := h.ring.holds
  have hitems : q.items = s.pending := hq.2.symm
  obtain ⟨q', hq'⟩ : ∃ q', q.push (g.take s.frameLen) = some q' :=
    ⟨⟨q.items ++ [g], by rw [hitems]; simp; omega⟩,
      Queue.push_eq_some.mpr ⟨by rw [hitems]; exact hroom, by rw [htake]⟩⟩
  obtain ⟨ring, e, hr⟩ := memRingEnqueue_push hq hlen.ge hq'
  refine ⟨ring, ?_, hr.1, ?_⟩
  · rw [sinkEnqueue, fill_received h h3, if_pos hread, ok_bind, ← hg]
    rw [← h.receivedCapacity] at e
    simp only [e, ok_bind, if_true, htake']
    rfl
  · rw [hr.2, (Queue.push_eq_some.mp hq').2, hitems, htake]

/-- **No room**: nothing but `received_frame` changes. -/
theorem sinkEnqueue_full (h : SinkInv s) (h3 : 0 < frame.size) (hread : min s.frameLen frame.size ≤ frame.data.length)
    (hfull : s.pending.length = pendingFramesCapacity) :
    sinkEnqueue s frame = .ok (s.received (s.patterned frame.bytes)) := by
  obtain ⟨q, hq⟩ := h.ring.holds
  have hitems : q.items = s.pending := hq.2.symm
  have hpush : ∀ g : Bytes, q.push g = none := fun g =>
    Queue.push_eq_none.mpr (by rw [hitems, hfull])
  rw [sinkEnqueue, fill_received h h3, if_pos hread, ok_bind]
  have e := memRingEnqueue_full hq (hpush []) (s.patterned frame.bytes)
  rw [← h.receivedCapacity] at e
  simp only [e, ok_bind]
  rfl

theorem sinkEnqueue_inv (h : SinkInv s) (h3 : 0 < frame.size) {s' : Sink} (e : sinkEnqueue s frame = .ok s') :
    SinkInv s' := by
  have hlen : (s.patterned frame.bytes).length = s.frameLen := length_cycle _ _
  by_cases hread : min s.frameLen frame.size ≤ frame.data.length
  · rcases Nat.lt_or_eq_of_le h.length_pending with hroom | hfull
    · obtain ⟨ring, e', ha, hb⟩ := sinkEnqueue_room h h3 hread hroom
      rw [e', Except.ok.injEq] at e
      exact e ▸ h.pushed hlen ha hb
    · rw [sinkEnqueue_full h h3 hread hfull, Except.ok.injEq] at e
      exact e ▸ h.received hlen
  · rw [sinkEnqueue, fill_received h h3, if_neg hread] at e
    cases e

end Store

/-! ## Showing frames -/

section Show

variable {s : Sink}

/-- **A frame is pending**: the oldest becomes the current one. -/
theorem sinkDequeue_cons (h : SinkInv s) {g : Bytes} {rest : List Bytes} (hp : s.pending = g :: rest) :
    ∃ ring, sinkDequeue s = .ok (true, s.popped g ring) ∧ ring.Aligned s.frameLen pendingFramesCapacity ∧
      ring.blocks s.frameLen = rest := by
  have hlen : g.length = s.frameLen := h.length_of_mem_pending (by rw [hp]; exact List.mem_cons_self)
  obtain ⟨q, hq⟩ := h.ring.holds
  have hitems : q.items = g :: rest := by rw [← hq.2]; exact hp
  have hpop : q.pop = some (g, ⟨rest, by have := q.bound; rw [hitems, List.length_cons] at this; omega⟩) :=
    Queue.pop_eq_some.mpr hitems
  obtain ⟨ring, e, hr⟩ := memRingDequeue_pop hq hpop h.currentData.ge
  rw [List.drop_eq_nil_of_le h.currentData.le, List.append_nil] at e
  refine ⟨ring, ?_, hr.1, hr.2⟩
  rw [← h.currentCapacity] at e hlen
  rw [sinkDequeue, e]
  simp only [ok_bind, if_true, List.take_of_length_le hlen.le]
  rfl

/-- **Nothing is pending**: nothing changes. -/
theorem sinkDequeue_nil (h : SinkInv s) (hp : s.pending = []) : sinkDequeue s = .ok (false, s) := by
  obtain ⟨q, hq⟩ := h.ring.holds
  have hitems : q.items = [] := by rw [← hq.2]; exact hp
  rw [sinkDequeue, h.currentCapacity, memRingDequeue_empty hq (Queue.pop_eq_none.mpr hitems)]
  rfl

theorem sinkDequeue_inv (h : SinkInv s) {ok : Bool} {s' : Sink} (e : sinkDequeue s = .ok (ok, s')) : SinkInv s' := by
  cases hp : s.pending with
  | nil =>
    rw [sinkDequeue_nil h hp] at e
    cases e
    exact h
  | cons g rest =>
    obtain ⟨ring, e', ha, hb⟩ := sinkDequeue_cons h hp
    rw [e'] at e
    cases e
    exact h.popped hp ha hb

/-- The caller's buffer shows the current frame. -/
theorem fill_shown (h : SinkInv s) (frame : Bytes) :
    fillWithPattern frame frame.length s.currentFrame.data s.currentFrame.capacity =
      .ok (cycle frame.length s.currentFrame.data) := by
  rw [h.currentCapacity]
  rcases Nat.eq_zero_or_pos frame.length with h0 | hpos
  · rw [List.length_eq_zero_iff.mp h0]; rfl
  · rw [fillWithPattern_spec hpos h.frameLen_pos (Nat.le_refl _), if_pos, List.drop_length, List.append_nil,
      List.take_of_length_le h.currentData.le]
    rw [h.currentData]; exact Nat.min_le_right _ _

end Show

end Atolla

import Atolla.Sink.FullRing
import Atolla.Sink.Steps

/-!
# The lengths of a frame

An ENQUEUE tells the length of its frame twice, by the length of its payload and in front of the frame. The sink looks
at the first only, so it takes frames that contradict the second (`lengths_agree_iff`). And it takes three from it
before it knows that there are three: a payload of less becomes a frame of almost `2 ^ 64` bytes, which is not refused
for being short (`shortFrames_refused_iff`).
-/

set_option autoImplicit false

namespace Atolla

open Loop

/-- A complete ENQUEUE message lies at the iterator. -/
structure EnqueueAt (iter : MsgIter) (m : WireMsg) : Prop where
  type : m.typeByte = 2
  cur : ∃ rest, iter.cur = m.bytes ++ rest
  fits : iter.msgBufStart + m.bytes.length ≤ iter.msgBufEnd

/-- The states that the handler of an ENQUEUE passes, also when its loop does not end. -/
inductive EnqueuePasses (H : Host) (now : UInt32) (sender : UdpEndpoint) (s : Sink) (iter : MsgIter) : Sink → Prop
  /-- Behind the rounds of the loop. -/
  | round {idx : UInt8} {frame : MemBlock} {k : Nat} {t : Sink} : msgIterEnqueueFrameIdx H iter = .ok idx →
      msgIterEnqueueFrame H iter = .ok frame → s.state = .stateLent → 3 ≤ frame.size →
      udpEndpointEqual sender s.borrowerEndpoint = true → s.distance idx.toNat ≤ 128 →
      Rounds (fun s : Sink => decide (0 < s.distance idx.toNat)) (fun s => sinkEnqueue s frame) s k t →
      EnqueuePasses H now sender s iter t
  | last {t : Sink} : sinkHandleMsg H now sender s iter = .ok t → EnqueuePasses H now sender s iter t

/-- The handler appends to `pending_frames`. -/
def Appends (H : Host) (now : UInt32) (sender : UdpEndpoint) (s : Sink) (iter : MsgIter) : Prop :=
  ∃ t, EnqueuePasses H now sender s iter t ∧ s.pending.length < t.pending.length

/-- What the sink owes to frames that are too short. -/
structure RefusesShort (H : Host) (now : UInt32) (sender : UdpEndpoint) (s : Sink) (iter : MsgIter) (m : WireMsg) :
    Prop where
  /-- The frame, three bytes into the payload, ends inside of it. -/
  frame : ∃ frame, msgIterEnqueueFrame H iter = .ok frame ∧ 3 + frame.size ≤ m.payload.length
  appends : Appends H now sender s iter → 6 ≤ m.payload.length
  refused : m.payload.length < 6 → ∃ t, sinkHandleMsg H now sender s iter = .ok t ∧
    t.socket = s.socket ++ [(encode 255 s.builder.nextMsgId (failPayload m.id ErrorCode.badMsg.toByte), sender)] ∧
    t.pending = s.pending ∧ t.enqueued = s.enqueued

section Decode

variable {iter : MsgIter} {m : WireMsg} (hat : EnqueueAt iter m)

include hat

theorem EnqueueAt.hasMsg : msgIterHasMsg iter = true := by
  have hfits := hat.fits
  rw [WireMsg.length_bytes] at hfits
  rw [msgIterHasMsg, decide_eq_true_eq]
  omega

/-- The frame the iterator hands on, of any payload: three are taken from its length as a `size_t`. -/
theorem EnqueueAt.frame (H : Host) :
    ∃ data, msgIterEnqueueFrame H iter = .ok ⟨data, frameSize m.payload.length, frameSize m.payload.length⟩ := by
  obtain ⟨rest, hc⟩ := hat.cur
  obtain ⟨tb, id, payload, hp⟩ := m
  obtain rfl : tb = 2 := hat.type
  have h := msgIterEnqueueFrame_cons H hat.hasMsg hc
  rw [le16_length hp] at h
  exact ⟨_, h⟩

/-- With an index and a length in front, the frame is the rest of the payload. -/
theorem EnqueueAt.decode (H : Host) {idx l₀ l₁ : UInt8} {tail : Bytes} (hp : m.payload = idx :: l₀ :: l₁ :: tail)
    (now : UInt32) (sender : UdpEndpoint) (s : Sink) :
    ∃ frame, msgIterEnqueueFrameIdx H iter = .ok idx ∧ msgIterEnqueueFrame H iter = .ok frame ∧ frame.Valid ∧
      frame.size = tail.length ∧
      sinkHandleMsg H now sender s iter = sinkHandleEnqueue H s m.id idx.toNat frame sender := by
  obtain ⟨rest, hc⟩ := hat.cur
  have hm := hat.hasMsg
  obtain ⟨tb, id, payload, hple⟩ := m
  obtain rfl : tb = 2 := hat.type
  obtain rfl : payload = idx :: l₀ :: l₁ :: tail := hp
  have htype := msgIterType_encode hm .enqueue hc
  have hid := msgIterMsgId_encode H hm hc
  have hidx := msgIterEnqueueFrameIdx_encode H hm hc
  have hframe := msgIterEnqueueFrame_encode H hm hple (by simp) hc
  refine ⟨_, hidx, hframe, ?_, ?_, ?_⟩
  · simp [MemBlock.Valid]
  · simp
  · rw [sinkHandleMsg, htype, ok_bind, hid, ok_bind]
    simp only [hidx, hframe, ok_bind]

end Decode

/-- A payload of three bytes and more. -/
theorem exists_payload {payload : Bytes} (h : 3 ≤ payload.length) :
    ∃ idx l₀ l₁ tail, payload = idx :: l₀ :: l₁ :: tail ∧ tail.length = payload.length - 3 := by
  match payload, h with
  | idx :: l₀ :: l₁ :: tail, _ => exact ⟨idx, l₀, l₁, tail, rfl, by simp⟩

section Handle

variable {H : Host} {s : Sink} {sender : UdpEndpoint} {iter : MsgIter} {m : WireMsg}

/-- **A frame of less than three bytes**, told by a payload that has an index and a length, is refused. -/
theorem enqueue_refused (h : SinkInv s) (hs : s.state = .stateLent) (hat : EnqueueAt iter m)
    (h3 : 3 ≤ m.payload.length) (h6 : m.payload.length < 6) (now : UInt32) :
    ∃ t, sinkHandleMsg H now sender s iter = .ok t ∧
      t.socket = s.socket ++ [(encode 255 s.builder.nextMsgId (failPayload m.id ErrorCode.badMsg.toByte), sender)] ∧
      t.pending = s.pending ∧ t.enqueued = s.enqueued := by
  obtain ⟨idx, l₀, l₁, tail, hp, hlen⟩ := exists_payload h3
  obtain ⟨frame, -, -, -, hsize, e⟩ := hat.decode H hp now sender s
  obtain ⟨builder, efail, -, -⟩ := sinkSendFailTo_spec H h m.id .badMsg sender
  have hshort : frame.size < 3 := by omega
  rw [sinkHandleEnqueue, sinkHandleEnqueueFor_short H hs hshort, efail] at e
  exact ⟨_, e, rfl, rfl, rfl⟩

/-- A full ring takes nothing, in however many rounds. -/
theorem enqueueRounds_full (h : SinkInv s) {frame : MemBlock} (h0 : 0 < frame.size) (hr : s.Reads frame)
    (hfull : s.pending.length = pendingFramesCapacity) {cond : Sink → Bool} {k : Nat} {t : Sink}
    (hrounds : Rounds cond (fun s => sinkEnqueue s frame) s k t) : t.pending.length = pendingFramesCapacity := by
  suffices hall : SinkInv t ∧ t.Reads frame ∧ t.pending.length = pendingFramesCapacity from hall.2.2
  apply hrounds.inv (fun t => SinkInv t ∧ t.Reads frame ∧ t.pending.length = pendingFramesCapacity) ⟨h, hr, hfull⟩
  rintro u u' ⟨hu, hru, hfullu⟩ - e
  rw [sinkEnqueue_full hu h0 hru hfullu] at e
  cases e
  exact ⟨hu.received (Pattern.length_cycle _ _), hru, hfullu⟩

/-- What is appended is within reach, and there is room for it. -/
theorem EnqueuePasses.appends (h : SinkInv s) (hs : s.state = .stateLent)
    (hb : udpEndpointEqual sender s.borrowerEndpoint = true) (hat : EnqueueAt iter m) {idx l₀ l₁ : UInt8} {tail : Bytes}
    (hp : m.payload = idx :: l₀ :: l₁ :: tail) (h6 : 6 ≤ m.payload.length) {now : UInt32} {t : Sink}
    (hpass : EnqueuePasses H now sender s iter t) (hmore : s.pending.length < t.pending.length) :
    0 < s.distance idx.toNat ∧ s.distance idx.toNat ≤ 128 ∧ s.pending.length < pendingFramesCapacity := by
  obtain ⟨frame, hidx, hframe, hv, hsize, e⟩ := hat.decode H hp now sender s
  have h3 : 3 ≤ frame.size := by
    rw [hp] at h6
    simp only [List.length_cons] at h6
    omega
  have hr := s.reads_of_valid hv
  have hlen := h.length_pending
  cases hpass with
  | last et =>
    rw [e, sinkHandleEnqueue, sinkHandleEnqueueFor_borrower H hs hb h3] at et
    split at et
    · cases et
      exact absurd hmore (Nat.lt_irrefl _)
    · rename_i hnear
      by_cases hpos : 0 < s.distance idx.toNat
      · refine ⟨hpos, by omega, Nat.lt_of_le_of_ne hlen fun hfull => ?_⟩
        have hi : idx.toNat ≤ 255 := by have := idx.toNat_lt; omega
        rw [sinkEnqueueLoop_stuck (by omega) hi 0 128 h hr hfull hpos] at et
        cases et
      · rw [sinkEnqueueLoop_done hpos] at et
        cases et
        exact absurd hmore (Nat.lt_irrefl _)
  | @round idx' frame' k t hidx' hframe' _ _ _ hd hrounds =>
    obtain rfl : idx = idx' := by simpa using hidx.symm.trans hidx'
    obtain rfl : frame = frame' := by simpa using hframe.symm.trans hframe'
    refine ⟨?_, hd, Nat.lt_of_le_of_ne hlen fun hfull => ?_⟩
    · by_contra hno
      rw [hrounds.stays (decide_eq_false hno)] at hmore
      exact Nat.lt_irrefl _ hmore
    · rw [enqueueRounds_full h (by omega) hr hfull hrounds] at hmore
      omega

/-- **Which frames are appended**: those within reach, while there is room. -/
theorem appends_iff (h : SinkInv s) (hs : s.state = .stateLent)
    (hb : udpEndpointEqual sender s.borrowerEndpoint = true) (hat : EnqueueAt iter m) {idx l₀ l₁ : UInt8} {tail : Bytes}
    (hp : m.payload = idx :: l₀ :: l₁ :: tail) (h6 : 6 ≤ m.payload.length) (now : UInt32) :
    Appends H now sender s iter ↔
      0 < s.distance idx.toNat ∧ s.distance idx.toNat ≤ 128 ∧ s.pending.length < pendingFramesCapacity := by
  constructor
  · rintro ⟨t, hpass, hmore⟩
    exact hpass.appends h hs hb hat hp h6 hmore
  · rintro ⟨hpos, hd, hroom⟩
    obtain ⟨frame, hidx, hframe, hv, hsize, -⟩ := hat.decode H hp now sender s
    have h3 : 3 ≤ frame.size := by
      rw [hp] at h6
      simp only [List.length_cons] at h6
      omega
    obtain ⟨ring, epush, -, hblocks⟩ := sinkEnqueue_room h (by omega) (s.reads_of_valid hv) hroom
    refine ⟨_, .round hidx hframe hs h3 hb hd (.succ .zero (decide_eq_true hpos) epush), ?_⟩
    have hpushed : (s.pushed (s.patterned frame.bytes) ring).pending = s.pending ++ [s.patterned frame.bytes] :=
      hblocks
    rw [hpushed, List.length_append, List.length_singleton]
    omega

variable {lights : Nat}

/-- **Short frames are refused iff the payload has an index and a length**, in any state of a sink that is lent. -/
theorem shortFrames_refused_iff (hpass : SinkPasses H lights s) (hs : s.state = .stateLent) (hat : EnqueueAt iter m)
    (now : UInt32) :
    RefusesShort H now sender s iter m ↔ 3 ≤ m.payload.length := by
  have h := hpass.inv.1
  have hle := m.payload_le
  constructor
  · intro hall
    obtain ⟨data, hframe⟩ := hat.frame H
    obtain ⟨frame, hframe', hsize⟩ := hall.frame
    rw [hframe, Except.ok.injEq] at hframe'
    subst hframe'
    simp only [frameSize] at hsize
    omega
  · intro h3
    refine ⟨?_, ?_, fun h6 => enqueue_refused h hs hat h3 h6 now⟩
    · obtain ⟨data, hframe⟩ := hat.frame H
      refine ⟨_, hframe, ?_⟩
      simp only [frameSize_of_le h3 hle]
      omega
    · rintro ⟨t, hpasses, hmore⟩
      by_contra h6
      obtain ⟨idx, l₀, l₁, tail, hp, hlen⟩ := exists_payload h3
      cases hpasses with
      | last et =>
        obtain ⟨t', et', -, hpending, -⟩ := enqueue_refused h hs hat h3 (by omega) now
        rw [et, Except.ok.injEq] at et'
        rw [et', hpending] at hmore
        exact Nat.lt_irrefl _ hmore
      | round _ hframe' _ hsize' =>
        obtain ⟨frame, -, hframe, -, hsize, -⟩ := hat.decode H hp now sender s
        rw [hframe, Except.ok.injEq] at hframe'
        subst hframe'
        omega

/-- **The two lengths agree in what is appended iff** they agree in the message, or nothing is appended anyway. -/
theorem lengths_agree_iff (hpass : SinkPasses H lights s) (hs : s.state = .stateLent)
    (hb : udpEndpointEqual sender s.borrowerEndpoint = true) (hat : EnqueueAt iter m) {idx l₀ l₁ : UInt8} {tail : Bytes}
    (hp : m.payload = idx :: l₀ :: l₁ :: tail) (h6 : 6 ≤ m.payload.length) (now : UInt32) :
    (Appends H now sender s iter → (le16 l₀ l₁).toNat = m.payload.length - 3 ∧
      ∃ frame, msgIterEnqueueFrame H iter = .ok frame ∧ (le16 l₀ l₁).toNat = frame.size) ↔
    (le16 l₀ l₁).toNat = m.payload.length - 3 ∨ s.distance idx.toNat = 0 ∨ 128 < s.distance idx.toNat ∨
      s.freeSlots = 0 := by
  have h := hpass.inv.1
  have hlen := h.length_pending
  have hi : idx.toNat ≤ 255 := by have := idx.toNat_lt; omega
  have hpos := h.distance_nonneg hi
  rw [h.freeSlots_eq, appends_iff h hs hb hat hp h6 now]
  constructor
  · intro hall
    by_contra hno
    push Not at hno
    exact hno.1 (hall ⟨by omega, by omega, by omega⟩).1
  · rintro (heq | hnone) happ
    · obtain ⟨data, hframe⟩ := hat.frame H
      refine ⟨heq, _, hframe, ?_⟩
      simp only [frameSize_of_le (by omega : 3 ≤ m.payload.length) m.payload_le]
      exact heq
    · omega

end Handle

/-! ## A fresh sink -/

theorem Reachable.passes {H : Host} {s : Sink} (h : Reachable H s) : ∃ lights, SinkPasses H lights s := by
  induction h with
  | make e =>
    obtain ⟨n, -, -, hspec, -⟩ := atollaSinkMake_fresh e
    exact ⟨n, .make e hspec.symm⟩
  | call _ e ih =>
    obtain ⟨lights, hpass⟩ := ih
    exact ⟨lights, hpass.steps (sinkCall_steps e)⟩

/-- A datagram of one ENQUEUE. -/
theorem enqueueAt_one {m : WireMsg} (hm : m.typeByte = 2) : EnqueueAt (msgIterMake m.bytes m.bytes.length) m :=
  ⟨hm, ⟨[], by simp [MsgIter.cur, msgIterMake]⟩, Nat.le_refl _⟩

/-- A payload of an index and a length, and no color behind them. -/
def exampleShort : WireMsg := ⟨2, 7, [0, 0, 0], by simp⟩

theorem shortFrames_refused_one :
    ∃ s, Reachable exampleHost s ∧ s.state = .stateLent ∧
      RefusesShort exampleHost 0 exampleEndpoint s (msgIterMake exampleShort.bytes exampleShort.bytes.length)
        exampleShort := by
  obtain ⟨s, hs⟩ := exists_firstSession exampleHost (d := 20) (n := 1) (by decide) (by decide) exampleClock
    exampleEndpoint
  obtain ⟨lights, hpass⟩ := hs.reachable.passes
  exact ⟨s, hs.reachable, hs.session.state,
    (shortFrames_refused_iff hpass hs.session.state (enqueueAt_one rfl) 0).mpr (by simp [exampleShort])⟩

/-- One color, for index 0. -/
def exampleColor : WireMsg := WireMsg.enqueue 7 0 [1, 2, 3] exampleFrame_le

theorem lengths_agree_one :
    ∃ s, Reachable exampleHost s ∧ s.state = .stateLent ∧ (Appends exampleHost 0 exampleEndpoint s
      (msgIterMake exampleColor.bytes exampleColor.bytes.length) →
        (le16 3 0).toNat = exampleColor.payload.length - 3 ∧ ∃ frame,
          msgIterEnqueueFrame exampleHost (msgIterMake exampleColor.bytes exampleColor.bytes.length) = .ok frame ∧
          (le16 3 0).toNat = frame.size) := by
  obtain ⟨s, hs⟩ := exists_firstSession exampleHost (d := 20) (n := 1) (by decide) (by decide) exampleClock
    exampleEndpoint
  obtain ⟨lights, hpass⟩ := hs.reachable.passes
  exact ⟨s, hs.reachable, hs.session.state, (lengths_agree_iff hpass hs.session.state hs.own
    (enqueueAt_one (m := exampleColor) rfl) rfl (by decide) 0).mpr (.inl rfl)⟩

/-- The calls that lend a fresh sink of one light and bring it one more datagram: the sink before and behind it. -/
def exampleBrings (m : WireMsg) : Run (Sink × Sink) := do
  let s ← sinkCall exampleHost (freshSink exampleHost 1 true)
    (.state exampleClock (some ⟨(WireMsg.borrow 0 20 1).bytes, exampleEndpoint⟩))
  let t ← sinkCall exampleHost s (.state exampleClock (some ⟨m.bytes, exampleEndpoint⟩))
  return (s, t)

/-- **An ENQUEUE without a payload**: its index and its frame are bytes that the BORROW left behind it. No FAIL is sent,
and 21 frames are appended. -/
theorem sink_stores_empty_enqueue :
    (exampleBrings ⟨2, 7, [], by simp⟩).toOption.map
        (fun p => (p.1.state, p.2.state, p.1.pending.length, p.2.pending.length, p.2.socket == p.1.socket)) =
      some (.stateLent, .stateLent, 0, 21, true) := by
  decide +kernel

/-- One color, for index 0, whose length is given as 999. -/
def exampleContradiction : WireMsg := ⟨2, 7, [0, 231, 3, 1, 2, 3], by simp⟩

/-- **A frame of three bytes whose length is given as 999** is appended. -/
theorem sink_stores_contradiction :
    (le16 231 3).toNat = 999 ∧ exampleContradiction.payload.length - 3 = 3 ∧
      (exampleBrings exampleContradiction).toOption.map (fun p => (p.1.state, p.1.pending, p.2.pending)) =
        some (.stateLent, [], [[1, 2, 3]]) := by
  decide +kernel

end Atolla

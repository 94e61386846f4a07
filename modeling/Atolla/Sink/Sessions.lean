import Atolla.Sink.Twins

/-!
# One session after another

A new BORROW resets what a session needs, except for `pending_frames` and what earlier datagrams left in `recv_buf`. The
frames that are pending are shown to the new borrower. The bytes in the buffer are read by an ENQUEUE that has no whole
header for its frame, and for each of them from byte 8 on there is a session that shows it. So a session on a used sink
is like one on a fresh sink iff nothing was left in either (`session_independent_iff`).
-/

set_option autoImplicit false

namespace Atolla

open Loop Observe

/-- The sink and a fresh one with the same lights take the same BORROW, and from then on no calls of the session tell
them apart. -/
def SessionIndependent (least : Nat) (H : Host) (s : Sink) (clock : SinkClock) (id : UInt16) (d n : UInt8)
    (sender : UdpEndpoint) : Prop :=
  ∃ s' t', atollaSinkState H clock s (some ⟨(WireMsg.borrow id d n).bytes, sender⟩) = .ok s' ∧
    atollaSinkState H clock (freshSink H s.lightsCount true) (some ⟨(WireMsg.borrow id d n).bytes, sender⟩) = .ok t' ∧
    ∀ calls, (∀ c ∈ calls, SessionCall least sender c) → observe (sinkStep H) s' calls = observe (sinkStep H) t' calls

/-! ## A session from its BORROW on -/

/-- A session in which nothing has been shown yet. -/
structure InSession (sender : UdpEndpoint) (last : Int) (s : Sink) : Prop where
  inv : SinkInv s
  state : s.state = .stateLent
  own : udpEndpointEqual sender s.borrowerEndpoint = true
  idx : s.lastEnqueuedFrameIdx = last
  pending : (s.pending.length : Int) = last + 1
  length : s.recvBuf.length = sinkRecvBufLen

section Calls

variable {H : Host} {s s₁ : Sink} {sender : UdpEndpoint} {last last' : Int} {gs : List Bytes} {ms : List WireMsg}

/-- The sink with a datagram in its buffer. -/
def Sink.takes (s : Sink) (bytes : Bytes) : Sink := { s with recvBuf := bytes ++ s.recvBuf.drop bytes.length }

/-- What comes of ENQUEUEs, however short. -/
theorem InSession.step (h : InSession sender last s) (hne : ms ≠ []) (hms : ∀ m ∈ ms, m.typeByte = 2)
    (hfit : (wire ms).length ≤ sinkRecvBufLen) (clock : SinkClock) :
    sinkStep H s (.state clock (some ⟨wire ms, sender⟩)) =
      (reads ms (s.recvBuf.drop (wire ms).length)).foldlM (sinkHandleRead H sender) (s.takes (wire ms)) >>= fun s₁ =>
        sinkSend H clock { s₁ with lastRecvTime := clock.received } >>= fun s' =>
          .ok (s', .state s'.state (s'.enqueued.drop s.enqueued.length)) := by
  have hwire := wire_ne_nil hne
  have hs : s.state ≠ .stateError := by simp [h.state]
  have hreads : sinkIterateRecvBuf H clock.message (s.takes (wire ms)) (wire ms).length sender =
      (reads ms (s.recvBuf.drop (wire ms).length)).foldlM (sinkHandleRead H sender) (s.takes (wire ms)) :=
    sinkIterateRecvBuf_reads H hms rfl clock.message sender
  rw [sinkStep, atollaSinkState, if_pos hs, sinkUpdate, sinkReceive, udpSocketReceiveFrom_fits sender hwire hfit,
    ← hreads]
  simp only [bind_assoc]
  rfl

section Outcome

variable (h : InSession sender last s) (hne : ms ≠ []) (hms : ∀ m ∈ ms, m.typeByte = 2)
  (hfit : (wire ms).length ≤ sinkRecvBufLen) (clock : SinkClock)
  (e : (reads ms (s.recvBuf.drop (wire ms).length)).foldlM (sinkHandleRead H sender) (s.takes (wire ms)) = .ok s₁)
  (hst : Stored (s.takes (wire ms)) s₁ gs last')

include h hne hms hfit e hst

/-- **ENQUEUEs that store frames**, or none. -/
theorem InSession.outcome : ∃ s', sinkStep H s (.state clock (some ⟨wire ms, sender⟩)) =
    .ok (s', .state .stateLent gs) ∧ SinkInv s' ∧ SameSession s₁ s' ∧ s'.recvBuf = (s.takes (wire ms)).recvBuf := by
  obtain ⟨s', e', hi, hsame⟩ := sinkSend_same H (hst.inv.withRecvTime clock.received) clock
  have hstep := h.step (H := H) hne hms hfit clock
  rw [e, ok_bind, e', ok_bind] at hstep
  have hsame : SameSession s₁ s' := SameSession.trans ⟨rfl⟩ hsame
  have hstate : s'.state = .stateLent := by rw [hsame.state, hst.same]; exact h.state
  have henq : s'.enqueued = s.enqueued ++ gs := by rw [hsame.enqueued, hst.same]; rfl
  refine ⟨s', ?_, hi, hsame, ?_⟩
  · rw [hstep, hstate, henq, List.drop_left]
  · rw [sinkSend_recvBuf e', hst.same]

/-- The session goes on. -/
theorem InSession.stores (hlast : last' = last + gs.length) :
    ∃ s', sinkStep H s (.state clock (some ⟨wire ms, sender⟩)) = .ok (s', .state .stateLent gs) ∧
      InSession sender last' s' ∧ s'.frameLen = s.frameLen ∧ s'.recvBuf = (s.takes (wire ms)).recvBuf := by
  obtain ⟨s', estep, hi, hsame, hbuf⟩ := h.outcome hne hms hfit clock e hst
  refine ⟨s', estep, ⟨hi, ?_, ?_, ?_, ?_, ?_⟩, by rw [hsame.frameLen, hst.same]; rfl, hbuf⟩
  · rw [hsame.state, hst.same]
    exact h.state
  · rw [hsame.borrower, hst.same]
    exact h.own
  · rw [hsame.idx, hst.same]
  · have hpending := h.pending
    rw [hsame.pending, hst.pending, List.length_append]
    show ((s.pending.length + gs.length : Nat) : Int) = _
    omega
  · rw [hbuf]
    show (wire ms ++ s.recvBuf.drop (wire ms).length).length = _
    rw [List.length_append, List.length_drop, h.length]
    omega

end Outcome

/-- A payload without a whole header of its frame makes a frame of almost any size. -/
theorem frameSize_short {p : Nat} (h : p < 3) : frameSize p = p + (2 ^ 64 - 3) := by
  unfold frameSize sizeT
  omega

/-- The frame that is read behind the index. -/
def WireMsg.frameIn (m : WireMsg) (tail : Bytes) : MemBlock :=
  ⟨tail.drop 2, frameSize m.payload.length, frameSize m.payload.length⟩

section Read

variable {m : WireMsg} {idx : UInt8} {tail : Bytes} (h : InSession sender last s) (h3 : 3 ≤ (m.frameIn tail).size)

include h h3

theorem InSession.read : sinkHandleRead H sender s (m, idx :: tail) =
    if 128 < s.distance idx.toNat then .ok s else sinkEnqueueLoop 128 s idx.toNat (m.frameIn tail) :=
  sinkHandleEnqueueFor_borrower H h.state h.own h3 128 m.id

/-- An ENQUEUE at the last index, or too far ahead, stores nothing. -/
theorem InSession.ignored (hd : ¬(0 < s.distance idx.toNat ∧ s.distance idx.toNat ≤ 128)) :
    sinkHandleRead H sender s (m, idx :: tail) = .ok s := by
  rw [h.read h3]
  split
  · rfl
  · rename_i hnear
    exact sinkEnqueueLoop_done (fun hpos => hd ⟨hpos, Int.not_lt.mp hnear⟩) 128

/-- One within reach stores frames, if it returns. -/
theorem InSession.moves (hd : 0 < s.distance idx.toNat ∧ s.distance idx.toNat ≤ 128)
    (e : sinkHandleRead H sender s (m, idx :: tail) = .ok s₁) : ∃ gs, gs ≠ [] ∧ Stored s s₁ gs idx.toNat := by
  have hi : idx.toNat ≤ 255 := by have := idx.toNat_lt; omega
  have hpos : 0 < (m.frameIn tail).size := by omega
  obtain ⟨k, hk⟩ := Int.eq_ofNat_of_zero_le (Int.le_of_lt hd.1)
  have hlen := h.inv.length_pending
  rw [h.read h3, if_neg (by omega)] at e
  by_cases hr : s.Reads (m.frameIn tail)
  · by_cases hroom : s.pending.length + k ≤ pendingFramesCapacity
    · obtain ⟨s', e', hst⟩ := sinkEnqueueLoop_append hpos hi k 128 h.inv hr hk (by omega) hroom
      obtain rfl := Except.ok.inj (e'.symm.trans e)
      refine ⟨_, ?_, hst⟩
      rw [Ne, List.replicate_eq_nil_iff]
      omega
    · rw [sinkEnqueueLoop_stuck hpos hi (pendingFramesCapacity - s.pending.length) 128 h.inv hr (by omega)
        (by omega)] at e
      cases e
  · rw [sinkEnqueueLoop_fault h.inv hpos hr hd.1] at e
    cases e

/-- The next frames, read behind the header wherever that ends. -/
theorem InSession.append (k : Nat) (hd : s.distance idx.toNat = k) (hk : k ≤ 3) (hlast : last ≤ 2)
    (hr : s.Reads (m.frameIn tail)) : ∃ s₁, sinkHandleRead H sender s (m, idx :: tail) = .ok s₁ ∧
      Stored s s₁ (List.replicate k (s.patterned (m.frameIn tail).bytes)) idx.toNat := by
  have hpending := h.pending
  rw [h.read h3, if_neg (by omega)]
  exact sinkEnqueueLoop_append (by omega) (by have := idx.toNat_lt; omega) k 128 h.inv hr hd (by omega)
    (by simp only [pendingFramesCapacity]; omega)

end Read

theorem InSession.takes (h : InSession sender last s) {bytes : Bytes} (hfit : bytes.length ≤ sinkRecvBufLen) :
    InSession sender last (s.takes bytes) where
  inv := h.inv.withRecvBuf _
  state := h.state
  own := h.own
  idx := h.idx
  pending := h.pending
  length := by
    show (bytes ++ s.recvBuf.drop bytes.length).length = _
    rw [List.length_append, List.length_drop, h.length]
    omega

theorem InSession.distance (h : InSession sender last s) {idx : Nat} (hlast : last ≤ idx) :
    s.distance idx = idx - last := by
  rw [Sink.distance, h.idx, boundedDiff, if_neg (by omega)]

/-- Of two messages, when the first stores nothing. -/
theorem InSession.second (h : InSession sender last s) {m m' : WireMsg} {rest tail : Bytes} {idx : UInt8}
    (hread : m.payload ++ (wire [m'] ++ rest) = idx :: tail) (h3 : 3 ≤ frameSize m.payload.length)
    (hd : ¬(0 < s.distance idx.toNat ∧ s.distance idx.toNat ≤ 128)) :
    (reads [m, m'] rest).foldlM (sinkHandleRead H sender) s = sinkHandleRead H sender s (m', m'.payload ++ rest) := by
  rw [reads, hread, List.foldlM_cons, h.ignored h3 hd, ok_bind, reads, reads, List.foldlM_cons, wire_nil,
    List.nil_append]
  exact bind_pure _

end Calls

/-! ## Datagrams that show the buffer -/

/-- An ENQUEUE without a payload. -/
def emptyEnqueue : WireMsg := ⟨2, 0, [], nil_le⟩

theorem length_filler_le {i : Nat} (h : i < sinkRecvBufLen) :
    ((255 : UInt8) :: List.replicate (i - 11) 0).length ≤ 65535 := by
  rw [List.length_cons, List.length_replicate]
  rw [sinkRecvBufLen] at h
  omega

/-- An ENQUEUE out of reach that an empty one follows at byte `i - 5`. -/
def fillerEnqueue (i : Nat) (h : i < sinkRecvBufLen) : WireMsg :=
  ⟨2, 0, 255 :: List.replicate (i - 11) 0, length_filler_le h⟩

/-- An ENQUEUE whose frame begins behind its end. -/
def shortEnqueue (idx : UInt8) : WireMsg := ⟨2, 0, [idx, 0], by simp⟩

/-- An ENQUEUE with a whole frame. -/
def properEnqueue (idx : UInt8) : WireMsg := ⟨2, 0, [idx, 0, 0, 0, 0, 0], by simp⟩

section Probe

variable {H : Host} {s s₁ : Sink} {sender : UdpEndpoint} {last : Int}

/-- **The byte `i` of the buffer as an index** stores nothing iff it is the last index or out of reach. -/
theorem InSession.silent_iff (h : InSession sender last s) (hlast : last = -1 ∨ last = 0) {i : Nat} (hi : 11 ≤ i)
    (hgap : i < 13 ∨ 16 ≤ i) (hi' : i < sinkRecvBufLen) {v : UInt8} {tail : Bytes}
    (hv : s.recvBuf.drop i = v :: tail) (clock : SinkClock) :
    (sinkStep H s (.state clock (some ⟨wire [fillerEnqueue i hi', emptyEnqueue], sender⟩))).map (·.2) =
        .ok (.state .stateLent []) ↔ ¬(0 < s.distance v.toNat ∧ s.distance v.toNat ≤ 128) := by
  have hpayload : (fillerEnqueue i hi').payload.length = i - 10 := by
    simp only [fillerEnqueue, List.length_cons, List.length_replicate]
    omega
  have hlen : (wire [fillerEnqueue i hi', emptyEnqueue]).length = i := by
    simp only [wire_cons, wire_nil, List.length_append, WireMsg.length_bytes, hpayload, emptyEnqueue, List.length_nil]
    omega
  have htwo : ∀ m ∈ [fillerEnqueue i hi', emptyEnqueue], m.typeByte = 2 := by
    intro m hm
    simp only [List.mem_cons, List.not_mem_nil, or_false] at hm
    rcases hm with rfl | rfl
    · rfl
    · rfl
  generalize hms : [fillerEnqueue i hi', emptyEnqueue] = ms at *
  have hfit : (wire ms).length ≤ sinkRecvBufLen := by omega
  have hne : ms ≠ [] := by rw [← hms]; simp
  have htakes := h.takes hfit
  have h3 : 3 ≤ frameSize (fillerEnqueue i hi').payload.length := by
    rw [hpayload]
    rcases hgap with hgap | hgap
    · rw [frameSize_short (by omega)]
      omega
    · rw [frameSize_of_le (by omega) (by simp only [sinkRecvBufLen] at hi'; omega)]
      omega
  have h3' : 3 ≤ (emptyEnqueue.frameIn tail).size := by
    show 3 ≤ frameSize 0
    rw [frameSize_short (by omega)]
    omega
  -- the first message is out of reach
  have hfold : (reads ms (s.recvBuf.drop (wire ms).length)).foldlM (sinkHandleRead H sender) (s.takes (wire ms)) =
      sinkHandleRead H sender (s.takes (wire ms)) (emptyEnqueue, v :: tail) := by
    rw [hlen, hv, ← hms]
    rw [← hms] at htakes
    refine htakes.second rfl h3 ?_
    rintro ⟨-, hfar⟩
    rw [htakes.distance (by show last ≤ ((255 : Nat) : Int); omega)] at hfar
    have h255 : ((255 : UInt8).toNat : Int) = 255 := rfl
    omega
  constructor
  · intro e hd
    rw [h.step hne htwo hfit, hfold] at e
    cases hread : sinkHandleRead H sender (s.takes (wire ms)) (emptyEnqueue, v :: tail) with
    | error f =>
      rw [hread] at e
      cases e
    | ok s₁ =>
      obtain ⟨gs, hgs, hst⟩ := htakes.moves h3' hd hread
      obtain ⟨s', e', -⟩ := h.outcome hne htwo hfit clock (hfold.trans hread) hst
      rw [h.step hne htwo hfit, hfold] at e'
      rw [e'] at e
      exact hgs (SinkOutput.state.inj (Except.ok.inj e)).2
  · intro hd
    have hread : sinkHandleRead H sender (s.takes (wire ms)) (emptyEnqueue, v :: tail) = .ok (s.takes (wire ms)) :=
      htakes.ignored h3' hd
    have hst : Stored (s.takes (wire ms)) (s.takes (wire ms)) [] last := by
      refine ⟨?_, htakes.inv, by rw [List.append_nil]⟩
      rw [List.append_nil, ← htakes.idx]
    obtain ⟨s', e, -⟩ := h.outcome hne htwo hfit clock (hfold.trans hread) hst
    rw [e]
    rfl

/-- The frame behind a short ENQUEUE is what the buffer holds there. -/
theorem InSession.shows (h : InSession sender last s) (hlast : last ≤ 2) (m : WireMsg) (hm : m.payload.length < 3)
    {idx : UInt8} (hidx : (idx.toNat : Int) = last + 1) (tail : Bytes) (hlong : 1011 ≤ (tail.drop 2).length)
    (hsmall : tail.length ≤ sinkRecvBufLen) :
    ∃ s₁, sinkHandleRead H sender s (m, idx :: tail) = .ok s₁ ∧
      Stored s s₁ [(tail.drop 2).take s.frameLen] idx.toNat := by
  have hsize : (m.frameIn tail).size = m.payload.length + (2 ^ 64 - 3) := frameSize_short hm
  have hframe : s.frameLen ≤ (tail.drop 2).length := by
    have hlights := h.inv.lights
    simp only [Sink.frameLen, colorChannelCount]
    omega
  have hbytes : (m.frameIn tail).bytes = tail.drop 2 := by
    refine List.take_of_length_le ?_
    show (tail.drop 2).length ≤ frameSize m.payload.length
    rw [frameSize_short hm, List.length_drop]
    simp only [sinkRecvBufLen] at hsmall
    omega
  obtain ⟨s₁, e, hst⟩ := h.append (H := H) (m := m) (by omega) 1
    (show s.distance idx.toNat = (1 : Nat) by rw [h.distance (by omega)]; omega) (by omega) hlast
    (show min s.frameLen (m.frameIn tail).size ≤ (tail.drop 2).length by omega)
  rw [hbytes, Sink.patterned, Pattern.cycle_of_le hframe] at hst
  exact ⟨s₁, e, hst⟩

/-- **A short ENQUEUE alone** shows the buffer from byte 8 on. -/
theorem InSession.short (h : InSession sender (-1) s) (clock : SinkClock) :
    (sinkStep H s (.state clock (some ⟨wire [shortEnqueue 0], sender⟩))).map (·.2) =
      .ok (.state .stateLent [(s.recvBuf.drop 8).take s.frameLen]) := by
  have hlen : (wire [shortEnqueue 0]).length = 7 := rfl
  have hfit : (wire [shortEnqueue 0]).length ≤ sinkRecvBufLen := by
    rw [hlen, sinkRecvBufLen]
    omega
  have htwo : ∀ m ∈ [shortEnqueue 0], m.typeByte = 2 := by
    intro m hm
    rw [List.mem_singleton.mp hm]
    rfl
  have hbuf := h.length
  rw [sinkRecvBufLen] at hbuf
  have htail : (0 :: s.recvBuf.drop 7).drop 2 = s.recvBuf.drop 8 := by
    rw [List.drop_succ_cons, List.drop_drop]
  obtain ⟨s₁, e, hst⟩ := (h.takes hfit).shows (H := H) (by omega) (shortEnqueue 0) (by decide)
    (show ((0 : UInt8).toNat : Int) = -1 + 1 from rfl) (0 :: s.recvBuf.drop 7) (by rw [htail, List.length_drop]; omega)
    (by rw [List.length_cons, List.length_drop, sinkRecvBufLen]; omega)
  rw [htail] at hst
  have hfold : (reads [shortEnqueue 0] (s.recvBuf.drop (wire [shortEnqueue 0]).length)).foldlM (sinkHandleRead H sender)
      (s.takes (wire [shortEnqueue 0])) = .ok s₁ := by
    rw [hlen, reads, reads, List.foldlM_cons, wire_nil, List.nil_append]
    exact (congrArg (· >>= _) e).trans rfl
  obtain ⟨s', e', -⟩ := h.outcome (by simp) htwo hfit clock hfold hst
  rw [e']
  rfl

/-- **Behind an empty one** it shows the buffer from byte 13 on. -/
theorem InSession.shortBehind (h : InSession sender 2 s) (clock : SinkClock) :
    (sinkStep H s (.state clock (some ⟨wire [emptyEnqueue, shortEnqueue 3], sender⟩))).map (·.2) =
      .ok (.state .stateLent [(s.recvBuf.drop 13).take s.frameLen]) := by
  have hlen : (wire [emptyEnqueue, shortEnqueue 3]).length = 12 := rfl
  have hfit : (wire [emptyEnqueue, shortEnqueue 3]).length ≤ sinkRecvBufLen := by
    rw [hlen, sinkRecvBufLen]
    omega
  have htwo : ∀ m ∈ [emptyEnqueue, shortEnqueue 3], m.typeByte = 2 := by
    intro m hm
    simp only [List.mem_cons, List.not_mem_nil, or_false] at hm
    rcases hm with rfl | rfl
    · rfl
    · rfl
  have hbuf := h.length
  rw [sinkRecvBufLen] at hbuf
  have htail : (0 :: s.recvBuf.drop 12).drop 2 = s.recvBuf.drop 13 := by
    rw [List.drop_succ_cons, List.drop_drop]
  have htakes := h.takes hfit
  obtain ⟨s₁, e, hst⟩ := htakes.shows (H := H) (by omega) (shortEnqueue 3) (by decide)
    (show ((3 : UInt8).toNat : Int) = 2 + 1 from rfl) (0 :: s.recvBuf.drop 12) (by rw [htail, List.length_drop]; omega)
    (by rw [List.length_cons, List.length_drop, sinkRecvBufLen]; omega)
  rw [htail] at hst
  have hfold : (reads [emptyEnqueue, shortEnqueue 3]
      (s.recvBuf.drop (wire [emptyEnqueue, shortEnqueue 3]).length)).foldlM (sinkHandleRead H sender)
        (s.takes (wire [emptyEnqueue, shortEnqueue 3])) = .ok s₁ := by
    -- the type of the second message is the index of the first
    have hread : emptyEnqueue.payload ++ (wire [shortEnqueue 3] ++ s.recvBuf.drop 12) =
        2 :: (wire [shortEnqueue 3] ++ s.recvBuf.drop 12).tail := rfl
    rw [hlen, htakes.second hread]
    · exact e
    · show 3 ≤ frameSize 0
      rw [frameSize_short (by omega)]
      omega
    · rw [htakes.distance (show (2 : Int) ≤ ((2 : UInt8).toNat : Int) from Int.le_refl 2)]
      exact fun hd => absurd hd.1 (Int.lt_irrefl 0)
  obtain ⟨s', e', -⟩ := h.outcome (by simp) htwo hfit clock hfold hst
  rw [e']
  rfl

/-- A whole frame leaves the buffer behind it. -/
theorem InSession.proper (h : InSession sender (-1) s) {idx : UInt8} (hidx : idx.toNat ≤ 2) (clock : SinkClock) :
    ∃ gs s', sinkStep H s (.state clock (some ⟨wire [properEnqueue idx], sender⟩)) = .ok (s', .state .stateLent gs) ∧
      InSession sender idx.toNat s' ∧ s'.frameLen = s.frameLen ∧ s'.recvBuf.drop 11 = s.recvBuf.drop 11 := by
  have hlen : (wire [properEnqueue idx]).length = 11 := rfl
  have hfit : (wire [properEnqueue idx]).length ≤ sinkRecvBufLen := by
    rw [hlen, sinkRecvBufLen]
    omega
  have htwo : ∀ m ∈ [properEnqueue idx], m.typeByte = 2 := by
    intro m hm
    rw [List.mem_singleton.mp hm]
    rfl
  have htakes := h.takes hfit
  set tail : Bytes := 0 :: 0 :: 0 :: 0 :: 0 :: s.recvBuf.drop 11
  have h3 : ((properEnqueue idx).frameIn tail).size = 3 := frameSize_of_le (p := 6) (by omega) (by omega)
  have hreads : (s.takes (wire [properEnqueue idx])).Reads ((properEnqueue idx).frameIn tail) := by
    show min _ ((properEnqueue idx).frameIn tail).size ≤ (0 :: 0 :: 0 :: s.recvBuf.drop 11).length
    rw [h3, List.length_cons, List.length_cons, List.length_cons]
    omega
  have hd : (s.takes (wire [properEnqueue idx])).distance idx.toNat = (idx.toNat + 1 : Nat) := by
    rw [htakes.distance (by omega)]
    omega
  obtain ⟨s₁, e, hst⟩ := htakes.append (H := H) (by omega) _ hd (by omega) (by omega) hreads
  have hfold : (reads [properEnqueue idx] (s.recvBuf.drop (wire [properEnqueue idx]).length)).foldlM
      (sinkHandleRead H sender) (s.takes (wire [properEnqueue idx])) = .ok s₁ := by
    rw [hlen, reads, reads, List.foldlM_cons, wire_nil, List.nil_append]
    exact (congrArg (· >>= _) e).trans rfl
  obtain ⟨s', e', hs', hlights, hbuf⟩ := h.stores (by simp) htwo hfit clock hfold hst
    (by rw [List.length_replicate]; omega)
  refine ⟨_, s', e', hs', hlights, ?_⟩
  rw [hbuf]
  show List.drop (wire [properEnqueue idx]).length (wire [properEnqueue idx] ++ _) = _
  exact List.drop_left

end Probe

/-! ## Sessions that show the same -/

/-- No ENQUEUEs, however short, and no gets tell the two apart. -/
def AlikeIn (H : Host) (sender : UdpEndpoint) (s t : Sink) : Prop :=
  ∀ calls, (∀ c ∈ calls, SessionCall 0 sender c) → observe (sinkStep H) s calls = observe (sinkStep H) t calls

section Alike

variable {H : Host} {s t s' t' : Sink} {sender : UdpEndpoint} {c : SinkCall} {o o' : SinkOutput}

theorem AlikeIn.one (h : AlikeIn H sender s t) (hc : SessionCall 0 sender c) :
    (sinkStep H s c).map (·.2) = (sinkStep H t c).map (·.2) := by
  have hobs := h [c] (by intro c' hc'; rw [List.mem_singleton.mp hc']; exact hc)
  rw [observe_one, observe_one] at hobs
  exact (List.cons.inj hobs).1

theorem AlikeIn.next (h : AlikeIn H sender s t) (hc : SessionCall 0 sender c) (es : sinkStep H s c = .ok (s', o))
    (et : sinkStep H t c = .ok (t', o')) : AlikeIn H sender s' t' := by
  intro calls hcalls
  have hobs := h (c :: calls) (by
    intro c' hc'
    rcases List.mem_cons.mp hc' with rfl | hc'
    · exact hc
    · exact hcalls c' hc')
  rw [observe_ok es, observe_ok et] at hobs
  exact (List.cons.inj hobs).2

/-- A datagram of such messages is one of a session. -/
theorem sessionCall_of_two (ms : List WireMsg) (hne : ms ≠ []) (hms : ∀ m ∈ ms, m.typeByte = 2) (clock : SinkClock) :
    SessionCall 0 sender (.state clock (some ⟨wire ms, sender⟩)) :=
  .enqueue hne fun m hm => ⟨hms m hm, Nat.zero_le _⟩

/-- The part of the buffer that the frame of a datagram shows is the same. -/
theorem getElem?_of_take_drop {x y : Bytes} {n o i : Nat} (h : (x.drop o).take n = (y.drop o).take n) (hi : o ≤ i)
    (hi' : i < o + n) : x[i]? = y[i]? := by
  have hget := congrArg (·[i - o]?) h
  simp only [List.getElem?_take_of_lt (show i - o < n by omega), List.getElem?_drop] at hget
  rwa [Nat.add_sub_cancel' hi] at hget

/-- A byte that a whole frame has left. -/
theorem getElem?_of_drop {x y : Bytes} {n i : Nat} (h : x.drop n = y.drop n) (hi : n ≤ i) : x[i]? = y[i]? := by
  have hget := congrArg (·[i - n]?) h
  simp only [List.getElem?_drop] at hget
  rwa [Nat.add_sub_cancel' hi] at hget

variable (h : InSession sender (-1) s) (h' : InSession sender (-1) t) (hlen : t.frameLen = s.frameLen)
  (halike : AlikeIn H sender s t)

include h h' halike

include hlen in
/-- The frame of a short ENQUEUE. -/
theorem AlikeIn.getElem?_short {i : Nat} (hi : 8 ≤ i) (hi' : i < 11) : s.recvBuf[i]? = t.recvBuf[i]? := by
  have hone := halike.one (sessionCall_of_two [shortEnqueue 0] (by simp) (by simp [shortEnqueue]) exampleClock)
  rw [h.short, h'.short, hlen] at hone
  have hframe := (List.cons.inj (SinkOutput.state.inj (Except.ok.inj hone)).2).1
  have hlights := h.inv.lights
  exact getElem?_of_take_drop hframe hi (by simp only [Sink.frameLen, colorChannelCount]; omega)

include hlen in
/-- The frame of a short ENQUEUE behind an empty one. -/
theorem AlikeIn.getElem?_behind {i : Nat} (hi : 13 ≤ i) (hi' : i < 16) : s.recvBuf[i]? = t.recvBuf[i]? := by
  have h2 : (2 : UInt8).toNat ≤ 2 := Nat.le_refl 2
  obtain ⟨gs, s₁, es, hs₁, hl, hbuf⟩ := h.proper (H := H) h2 exampleClock
  obtain ⟨gs', t₁, et, ht₁, hl', hbuf'⟩ := h'.proper (H := H) h2 exampleClock
  have halike₁ := halike.next (sessionCall_of_two _ (by simp) (by simp [properEnqueue]) exampleClock) es et
  have hone := halike₁.one (sessionCall_of_two [emptyEnqueue, shortEnqueue 3] (by simp)
    (by simp [emptyEnqueue, shortEnqueue]) exampleClock)
  rw [InSession.shortBehind hs₁, InSession.shortBehind ht₁, hl, hl', hlen] at hone
  have hframe := (List.cons.inj (SinkOutput.state.inj (Except.ok.inj hone)).2).1
  have hlights := h.inv.lights
  rw [← getElem?_of_drop hbuf (by omega), ← getElem?_of_drop hbuf' (by omega)]
  exact getElem?_of_take_drop hframe hi (by simp only [Sink.frameLen, colorChannelCount]; omega)

/-- The index of an empty ENQUEUE: as the first of the session it is not out of reach, and behind index 0 it is 0. -/
theorem AlikeIn.getElem?_index {i : Nat} (hi : 11 ≤ i) (hgap : i < 13 ∨ 16 ≤ i) (hi' : i < sinkRecvBufLen)
    (hzero : t.recvBuf[i]? = some 0) : s.recvBuf[i]? = some 0 := by
  have hcons : ∀ {x : Bytes} {v : UInt8}, x[i]? = some v → x.drop i = v :: x.drop (i + 1) := by
    intro x v hv
    obtain ⟨hlt, rfl⟩ := List.getElem?_eq_some_iff.mp hv
    exact List.drop_eq_getElem_cons hlt
  obtain ⟨v, hv⟩ : ∃ v, s.recvBuf[i]? = some v := ⟨_, List.getElem?_eq_getElem (by rw [h.length]; exact hi')⟩
  have hcall : SessionCall 0 sender (.state exampleClock (some ⟨wire [fillerEnqueue i hi', emptyEnqueue], sender⟩)) :=
    sessionCall_of_two _ (by simp) (by simp [fillerEnqueue, emptyEnqueue]) exampleClock
  have h0 : ((0 : UInt8).toNat : Int) = 0 := rfl
  -- the first index of the session
  have hreach : 0 < s.distance v.toNat ∧ s.distance v.toNat ≤ 128 := by
    by_contra hno
    have hs := (h.silent_iff (H := H) (.inl rfl) hi hgap hi' (hcons hv) exampleClock).mpr hno
    rw [halike.one hcall, h'.silent_iff (.inl rfl) hi hgap hi' (hcons hzero), h'.distance (by omega)] at hs
    omega
  rw [h.distance (by omega)] at hreach
  -- behind index 0
  have h2 : (0 : UInt8).toNat ≤ 2 := Nat.zero_le 2
  obtain ⟨gs, s₁, es, hs₁, -, hbuf⟩ := h.proper (H := H) h2 exampleClock
  obtain ⟨gs', t₁, et, ht₁, -, hbuf'⟩ := h'.proper (H := H) h2 exampleClock
  have halike₁ := halike.next (sessionCall_of_two _ (by simp) (by simp [properEnqueue]) exampleClock) es et
  have hv₁ : s₁.recvBuf[i]? = some v := (getElem?_of_drop hbuf hi).trans hv
  have hzero₁ : t₁.recvBuf[i]? = some 0 := (getElem?_of_drop hbuf' hi).trans hzero
  have ht := (InSession.silent_iff (H := H) ht₁ (.inr h0) hi hgap hi' (hcons hzero₁) exampleClock).mpr
    (by rw [InSession.distance ht₁ (Int.le_refl _)]; omega)
  rw [← halike₁.one hcall, InSession.silent_iff hs₁ (.inr h0) hi hgap hi' (hcons hv₁),
    InSession.distance hs₁ (by omega)] at ht
  have hzero : v = 0 := UInt8.toNat_inj.mp (by rw [show (0 : UInt8).toNat = 0 from rfl]; omega)
  rw [hv, hzero]

include hlen in
/-- **From byte 8 on** the buffer is as empty as the other. -/
theorem AlikeIn.zero (hzero : ∀ i, 8 ≤ i → i < sinkRecvBufLen → t.recvBuf[i]? = some 0) (i : Nat) (hi : 8 ≤ i)
    (hi' : i < sinkRecvBufLen) : s.recvBuf[i]? = some 0 := by
  by_cases h₁ : i < 11
  · exact (halike.getElem?_short h h' hlen hi h₁).trans (hzero i hi hi')
  by_cases h₂ : 13 ≤ i ∧ i < 16
  · exact (halike.getElem?_behind h h' hlen h₂.1 h₂.2).trans (hzero i hi hi')
  · exact halike.getElem?_index h h' (by omega) (by omega) hi' (hzero i hi hi')

end Alike

/-! ## A used sink and a fresh one -/

section Independent

variable {H : Host} {s : Sink} {d n : UInt8} {sender : UdpEndpoint}

/-- The new session of a sink. -/
structure NewSession (H : Host) (clock : SinkClock) (id : UInt16) (d n : UInt8) (sender : UdpEndpoint)
    (s s' : Sink) : Prop where
  call : atollaSinkState H clock s (some ⟨(WireMsg.borrow id d n).bytes, sender⟩) = .ok s'
  inv : SinkInv s'
  session : SameSession (s.granted d.toNat sender) s'
  recvBuf : s'.recvBuf = (WireMsg.borrow id d n).bytes ++ s.recvBuf.drop 7

theorem exists_newSession (H : Host) (h : SinkInv s) (ho : s.state = .stateOpen) (hd : 10 ≤ d.toNat)
    (hn : n.toNat ≤ pendingFramesCapacity) (clock : SinkClock) (id : UInt16) (sender : UdpEndpoint) :
    ∃ s', NewSession H clock id d n sender s s' := by
  have hl : s.Lends d.toNat n.toNat sender := ⟨.inl ho, hn, by simp only [frameLengthMsMin]; omega⟩
  obtain ⟨s', e, hi, hsame⟩ := atollaSinkState_borrow H h hl id clock
  have hlen : (WireMsg.borrow id d n).bytes.length = 7 := rfl
  refine ⟨s', e, hi, hsame, ?_⟩
  rw [atollaSinkState_recvBuf e, if_pos (by rw [ho]; decide), Sink.receives,
    udpSocketReceiveFrom_fits sender (WireMsg.bytes_ne_nil _) (WireMsg.length_borrow_le id d n), hlen]

variable {s' t t' : Sink} {clock : SinkClock} {id : UInt16}

theorem NewSession.length (h : NewSession H clock id d n sender s s') (hlen : s.recvBuf.length = sinkRecvBufLen) :
    s'.recvBuf.length = sinkRecvBufLen := by
  have hborrow : (WireMsg.borrow id d n).bytes.length = 7 := rfl
  rw [h.recvBuf, List.length_append, List.length_drop, hlen, hborrow, sinkRecvBufLen]

/-- Behind the BORROW the buffer is as it was. -/
theorem NewSession.drop (h : NewSession H clock id d n sender s s') : s'.recvBuf.drop 8 = s.recvBuf.drop 8 := by
  have hborrow : (WireMsg.borrow id d n).bytes.length = 7 := rfl
  rw [h.recvBuf, List.drop_append, hborrow, List.drop_drop]
  exact List.nil_append _

/-- Two sinks of the same lights with nothing pending are twins behind the same BORROW. -/
theorem NewSession.twin (h : NewSession H clock id d n sender s s') (h' : NewSession H clock id d n sender t t')
    (hlights : t.lightsCount = s.lightsCount) (hnil : s.pending = []) (hnil' : t.pending = []) :
    Twin s'.enqueued t'.enqueued s' t' where
  inv := h.inv
  inv' := h'.inv
  state := h'.session.state.trans h.session.state.symm
  borrower := h'.session.borrower.trans h.session.borrower.symm
  lights := h'.session.lights.trans (hlights.trans h.session.lights.symm)
  duration := h'.session.duration.trans h.session.duration.symm
  origin := h'.session.origin.trans h.session.origin.symm
  idx := h'.session.idx.trans h.session.idx.symm
  pending := by
    have hs : s'.pending = s.pending := h.session.pending
    have ht : t'.pending = t.pending := h'.session.pending
    rw [hs, ht, hnil, hnil']
  current ho := absurd h.session.origin ho
  stored := ⟨[], by simp, by simp⟩

/-- A frame left over is shown by the first get of the new session, and a fresh sink has none to show. -/
theorem SessionIndependent.nil {least : Nat} (h : SinkInv s) (ho : s.state = .stateOpen) (hd : 10 ≤ d.toNat)
    (hn : n.toNat ≤ pendingFramesCapacity) (hind : SessionIndependent least H s clock id d n sender) :
    s.pending = [] := by
  obtain ⟨s', t', es, et, hobs⟩ := hind
  by_contra hne
  obtain ⟨u, hu⟩ := exists_newSession H h ho hd hn clock id sender
  obtain ⟨v, hv⟩ := exists_newSession H (freshSink_inv H h.lights.1 h.lights.2 true) rfl hd hn clock id sender
  obtain rfl : u = s' := Except.ok.inj (hu.call.symm.trans es)
  obtain rfl : v = t' := Except.ok.inj (hv.call.symm.trans et)
  have hfresh : v.pending = [] := hv.session.pending.trans (freshSink_pending H h.lights.1 h.lights.2 true)
  have hshows : u.shows = true := by
    rw [Sink.shows, hu.session.pending,
      List.isEmpty_eq_false_iff.mpr (show (s.granted d.toNat sender).pending ≠ [] from hne), Bool.and_false]
    rfl
  have hshows' : v.shows = false := by
    rw [Sink.shows, hfresh, hv.session.origin]
    rfl
  have hget := hobs [.get 0 []] (by intro c hc; rw [List.mem_singleton.mp hc]; exact .get)
  obtain ⟨s₁, e₁, -⟩ := atollaSinkGet_lent hu.inv hu.session.state 0 []
  obtain ⟨t₁, e₂, -⟩ := atollaSinkGet_lent hv.inv hv.session.state 0 []
  rw [hshows] at e₁
  rw [hshows'] at e₂
  simp only [observe, sinkStep, e₁, e₂, ok_bind, pure_eq_ok] at hget
  cases hget

end Independent

end Atolla

import Atolla.Msg.Leftover
import Atolla.Sink.Runs

/-!
# What the sink uses of a datagram

`Sink.uses` is the number of bytes of a message that its handler uses. A round of the loop of `sink_iterate_recv_buf`
leaves the datagram iff the message has fewer (`sinkRound_outOfBounds_iff`); otherwise what lies behind the datagram in
the receive buffer makes no difference (`sinkIterateRecvBuf_longer`).
-/

set_option autoImplicit false

namespace Atolla

open Loop

/-- A sink with other contents of the receive buffer. -/
def Sink.withRecvBuf (s : Sink) (recvBuf : Bytes) : Sink := { s with recvBuf := recvBuf }

/-! ## A longer memory -/

section Longer

variable (H : Host) {frame frame' : MemBlock} {iter iter' : MsgIter} (buf : Bytes)

theorem fillWithPattern_longer (target : Bytes) (targetLen : Nat) {p q : Bytes} (h : p <+: q) (patternLen : Nat) :
    Approx .outOfBounds Eq (fillWithPattern target targetLen p patternLen)
      (fillWithPattern target targetLen q patternLen) := by
  unfold fillWithPattern
  refine approx_ite (fun _ => Approx.refl _ fun _ _ => rfl) fun _ => ?_
  refine approx_ite (fun _ => Approx.refl _ fun _ _ => rfl) fun _ => ?_
  refine (whileM_approx (R := Eq) (fun _ _ hst => by rw [hst]) ?_ targetLen _ _ rfl).bind ?_
  · rintro s _ rfl -
    unfold fillRound
    refine approx_ite (fun _ => ?_) fun _ => ?_
    · refine (readBytes_longer h _).bind ?_
      rintro src _ rfl
      exact Approx.refl _ fun _ _ => rfl
    · refine (readBytes_longer h _).bind ?_
      rintro src _ rfl
      exact Approx.refl _ fun _ _ => rfl
  · rintro s _ rfl
    exact Approx.refl _ fun _ _ => rfl

/-- The second sink is the first but for the receive buffer. -/
abbrev OtherBuf (buf : Bytes) (s t : Sink) : Prop := t = s.withRecvBuf buf

theorem OtherBuf.recvBuf {s s' : Sink} {buf : Bytes} (h : OtherBuf buf s s') : s'.recvBuf = buf := by rw [h]; rfl

theorem sinkSendFailTo_otherBuf (s : Sink) (id : UInt16) (code : ErrorCode) (receiver : UdpEndpoint) :
    Agree (OtherBuf buf) (sinkSendFailTo H s id code receiver)
      (sinkSendFailTo H (s.withRecvBuf buf) id code receiver) := by
  refine (agree_refl (R := Eq) (msgBuilderFail H s.builder id code.toByte) fun _ _ => rfl).bind ?_
  rintro builder _ rfl
  refine (agree_refl (R := Eq) (readBytes builder.msgBuf.data builder.msgBuf.size) fun _ _ => rfl).bind ?_
  rintro bytes _ rfl
  exact agree_ok.mpr rfl

theorem sinkSendLent_otherBuf (now : UInt32) (s : Sink) :
    Agree (OtherBuf buf) (sinkSendLent H now s) (sinkSendLent H now (s.withRecvBuf buf)) := by
  refine (agree_refl (R := Eq) (msgBuilderLent H s.builder) fun _ _ => rfl).bind ?_
  rintro builder _ rfl
  refine (agree_refl (R := Eq) (readBytes builder.msgBuf.data builder.msgBuf.size) fun _ _ => rfl).bind ?_
  rintro bytes _ rfl
  exact agree_ok.mpr rfl

theorem sinkHandleBorrow_otherBuf (now : UInt32) (s : Sink) (id : UInt16) (d : Int) (n : Nat) (sender : UdpEndpoint) :
    Agree (OtherBuf buf) (sinkHandleBorrow H now s id d n sender)
      (sinkHandleBorrow H now (s.withRecvBuf buf) id d n sender) := by
  have hdrop : ∀ a b, OtherBuf buf a b →
      Agree (OtherBuf buf) (pure (if a.state = .stateLent then sinkDropBorrow a else a) : Run Sink)
        (pure (if b.state = .stateLent then sinkDropBorrow b else b)) := by
    rintro a _ rfl
    have hif := apply_ite (fun s : Sink => s.withRecvBuf buf) (a.state = .stateLent) (sinkDropBorrow a) a
    exact agree_ok.mpr hif.symm
  unfold sinkHandleBorrow
  refine agree_ite (fun _ => ?_) fun _ => ?_
  · refine agree_ite (fun _ => ?_) fun _ => ?_
    · exact (sinkSendFailTo_otherBuf H buf s id _ sender).bind hdrop
    · refine agree_ite (fun _ => ?_) fun _ => ?_
      · exact (sinkSendFailTo_otherBuf H buf s id _ sender).bind hdrop
      · exact sinkSendLent_otherBuf H buf now (s.granted d sender)
  · refine agree_ite (fun _ => ?_) fun _ => ?_
    · exact sinkSendFailTo_otherBuf H buf s id _ sender
    · exact agree_ok.mpr rfl

theorem sinkEnqueue_longer (s : Sink) (hf : frame.Longer frame') :
    Approx .outOfBounds (OtherBuf buf) (sinkEnqueue s frame) (sinkEnqueue (s.withRecvBuf buf) frame') := by
  unfold sinkEnqueue
  rw [hf.size]
  refine (fillWithPattern_longer _ _ hf.data _).bind ?_
  rintro data _ rfl
  refine (Approx.refl (R := Eq)
    (memRingEnqueue s.pendingFrames data s.receivedFrame.capacity) fun _ _ => rfl).bind ?_
  rintro ⟨ok, ring⟩ _ rfl
  cases ok
  · exact .inr (agree_ok.mpr rfl)
  · exact .inr (agree_ok.mpr rfl)

theorem sinkEnqueueLoop_longer (n : Nat) (s : Sink) (idx : Nat) (hf : frame.Longer frame') :
    Approx .outOfBounds (OtherBuf buf) (sinkEnqueueLoop n s idx frame)
      (sinkEnqueueLoop n (s.withRecvBuf buf) idx frame') := by
  refine whileM_approx (OtherBuf buf) ?_ ?_ n s _ rfl
  · rintro s _ rfl
    rfl
  · rintro s _ rfl -
    exact sinkEnqueue_longer buf s hf

theorem sinkHandleEnqueue_longer (s : Sink) (id : UInt16) (idx : Nat) (sender : UdpEndpoint)
    (hf : frame.Longer frame') :
    Approx .outOfBounds (OtherBuf buf) (sinkHandleEnqueue H s id idx frame sender)
      (sinkHandleEnqueue H (s.withRecvBuf buf) id idx frame' sender) := by
  unfold sinkHandleEnqueue sinkHandleEnqueueFor
  rw [hf.size]
  refine approx_ite (fun _ => .inr (agree_ok.mpr rfl)) fun _ => ?_
  refine approx_ite (fun _ => .inr (sinkSendFailTo_otherBuf H buf s id _ sender)) fun _ => ?_
  refine approx_ite (fun _ => ?_) fun _ => ?_
  · refine .inr ((sinkSendFailTo_otherBuf H buf s id _ sender).bind ?_)
    rintro a _ rfl
    exact agree_ok.mpr rfl
  refine approx_ite (fun _ => ?_) fun _ => .inr (sinkSendFailTo_otherBuf H buf s id _ sender)
  exact approx_ite (fun _ => .inr (agree_ok.mpr rfl)) fun _ => sinkEnqueueLoop_longer buf 128 s idx hf

theorem sinkHandleMsg_longer (now : UInt32) (sender : UdpEndpoint) (s : Sink) (h : iter.Longer iter') :
    Approx .outOfBounds (OtherBuf buf) (sinkHandleMsg H now sender s iter)
      (sinkHandleMsg H now sender (s.withRecvBuf buf) iter') := by
  refine (msgIterType_longer h).bind ?_
  rintro type _ rfl
  refine (msgIterMsgId_longer H h).bind ?_
  rintro id _ rfl
  cases type with
  | borrow =>
    refine (msgIterBorrowFrameLength_longer H h).bind ?_
    rintro fl _ rfl
    refine (msgIterBorrowBufferLength_longer H h).bind ?_
    rintro bl _ rfl
    exact .inr (sinkHandleBorrow_otherBuf H buf now s id _ _ sender)
  | enqueue =>
    refine (msgIterEnqueueFrameIdx_longer H h).bind ?_
    rintro idx _ rfl
    refine (msgIterEnqueueFrame_longer H h).bind fun frame frame' hf => ?_
    exact sinkHandleEnqueue_longer H buf s id _ sender hf
  | lent => exact .inr (sinkSendFailTo_otherBuf H buf s id _ sender)
  | fail => exact .inr (sinkSendFailTo_otherBuf H buf s id _ sender)

/-- A handler writes nothing into the receive buffer. -/
theorem sinkHandleMsg_recvBuf {now : UInt32} {sender : UdpEndpoint} {s s' : Sink}
    (e : sinkHandleMsg H now sender s iter = .ok s') : s'.recvBuf = s.recvBuf := by
  have h : Approx .outOfBounds (OtherBuf s.recvBuf) (sinkHandleMsg H now sender s iter)
      (sinkHandleMsg H now sender s iter) :=
    sinkHandleMsg_longer H s.recvBuf now sender s ⟨List.prefix_rfl, rfl, rfl⟩
  rw [e] at h
  exact OtherBuf.recvBuf (agree_ok.mp (h.resolve_left nofun))

/-- **What lies behind a datagram makes no difference** unless the run on the datagram alone leaves it. -/
theorem sinkIterateRecvBuf_longer (clock : Nat → UInt32) (s : Sink) (sender : UdpEndpoint) {bytes : Bytes}
    (hbuf : bytes <+: buf) :
    Approx .outOfBounds (OtherBuf buf) (sinkIterateRecvBuf H clock (s.withRecvBuf bytes) bytes.length sender)
      (sinkIterateRecvBuf H clock (s.withRecvBuf buf) bytes.length sender) := by
  have hlonger : (msgIterMake bytes bytes.length).Longer (msgIterMake buf bytes.length) := ⟨hbuf, rfl, rfl⟩
  refine (msgLoop_longer (OtherBuf buf) ?_ bytes.length (s := s.withRecvBuf bytes) (t := s.withRecvBuf buf) rfl
    hlonger).bind ?_
  · rintro s _ iter iter' rfl h
    rw [h.start]
    exact sinkHandleMsg_longer H buf _ sender s h
  · rintro ⟨s, iter⟩ ⟨_, iter'⟩ ⟨rfl, -⟩
    exact .inr (agree_ok.mpr rfl)

end Longer

/-! ## What a call leaves in the receive buffer -/

/-- The receive buffer behind an attempt to receive. -/
def Sink.receives (s : Sink) (datagram : Option Datagram) : Bytes :=
  match udpSocketReceiveFrom s.recvBuf sinkRecvBufLen datagram with
  | some (recvBuf, _, _) => recvBuf
  | none => s.recvBuf

theorem Sink.length_receives {s : Sink} (h : s.recvBuf.length = sinkRecvBufLen) (datagram : Option Datagram) :
    (s.receives datagram).length = sinkRecvBufLen := by
  unfold Sink.receives udpSocketReceiveFrom
  cases datagram with
  | none => exact h
  | some datagram =>
    simp only
    split
    · rename_i heq
      split at heq
      · cases heq
      · cases heq
        rw [List.length_append, List.length_drop, h, List.length_take]
        omega
    · exact h

section RecvBuf

variable {H : Host} {s s' : Sink} {clock : SinkClock} {datagram : Option Datagram}

theorem sinkSendFailTo_recvBuf {id : UInt16} {code : ErrorCode} {receiver : UdpEndpoint}
    (e : sinkSendFailTo H s id code receiver = .ok s') : s'.recvBuf = s.recvBuf := by
  have h : Agree (OtherBuf s.recvBuf) (sinkSendFailTo H s id code receiver) (sinkSendFailTo H s id code receiver) :=
    sinkSendFailTo_otherBuf H s.recvBuf s id code receiver
  rw [e] at h
  exact OtherBuf.recvBuf (agree_ok.mp h)

theorem sinkSend_recvBuf (e : sinkSend H clock s = .ok s') : s'.recvBuf = s.recvBuf := by
  unfold sinkSend at e
  split at e
  · split at e
    · have h : Agree (OtherBuf s.recvBuf) (sinkSendLent H clock.lent s) (sinkSendLent H clock.lent s) :=
        sinkSendLent_otherBuf H s.recvBuf clock.lent s
      rw [e] at h
      exact OtherBuf.recvBuf (agree_ok.mp h)
    · cases e
      rfl
  · cases e
    rfl

theorem sinkIterateRecvBuf_recvBuf {clock : Nat → UInt32} {n : Nat} {sender : UdpEndpoint}
    (e : sinkIterateRecvBuf H clock s n sender = .ok s') : s'.recvBuf = s.recvBuf := by
  obtain ⟨⟨t, iter⟩, hloop, e⟩ := bind_eq_ok.mp e
  cases e
  refine (whileM_inv (fun p : Sink × MsgIter => p.1.recvBuf = s.recvBuf) ?_ n _ _ rfl hloop).1
  intro p q hp _ hround
  exact (sinkHandleMsg_recvBuf H (msgRound_ok hround).1).trans hp

/-- **Only the receive call writes into the receive buffer.** -/
theorem sinkUpdate_recvBuf (e : sinkUpdate H clock s datagram = .ok s') : s'.recvBuf = s.receives datagram := by
  obtain ⟨t, hreceive, hsend⟩ := bind_eq_ok.mp e
  rw [sinkSend_recvBuf hsend]
  unfold sinkReceive at hreceive
  unfold Sink.receives
  cases hrecv : udpSocketReceiveFrom s.recvBuf sinkRecvBufLen datagram with
  | some received =>
    obtain ⟨recvBuf, receivedBytes, sender⟩ := received
    rw [hrecv] at hreceive
    obtain ⟨u, hu, hreceive⟩ := bind_eq_ok.mp hreceive
    cases hreceive
    exact sinkIterateRecvBuf_recvBuf hu
  | none =>
    rw [hrecv] at hreceive
    simp only at hreceive
    split at hreceive
    · obtain ⟨u, hu, hreceive⟩ := bind_eq_ok.mp hreceive
      cases hreceive
      have hbuf : u.recvBuf = s.recvBuf := sinkSendFailTo_recvBuf hu
      exact hbuf
    · cases hreceive
      rfl

/-- A sink in the error state receives nothing. -/
theorem atollaSinkState_recvBuf (e : atollaSinkState H clock s datagram = .ok s') :
    s'.recvBuf = s.receives (if s.state ≠ .stateError then datagram else none) := by
  unfold atollaSinkState at e
  split at e
  · rename_i hs
    rw [if_pos hs]
    exact sinkUpdate_recvBuf e
  · rename_i hs
    rw [if_neg hs]
    cases e
    rfl

end RecvBuf

/-! ## The bytes a handler uses -/

/-- The frame of such a message is stored. -/
def Sink.Takes (s : Sink) (sender : UdpEndpoint) (frameIdx frameSize : Nat) : Prop :=
  s.state = .stateLent ∧ udpEndpointEqual sender s.borrowerEndpoint = true ∧ 3 ≤ frameSize ∧
    0 < s.distance frameIdx ∧ s.distance frameIdx ≤ 128

instance (s : Sink) (sender : UdpEndpoint) (frameIdx frameSize : Nat) :
    Decidable (s.Takes sender frameIdx frameSize) := inferInstanceAs (Decidable (_ ∧ _))

/-- How many bytes of the message at the beginning of `msg` are used: its header, the fields of its type and, of a
frame that is stored, as much as the lights take. Of a message of unknown type it is only the type. -/
def Sink.uses (s : Sink) (sender : UdpEndpoint) (msg : Bytes) : Nat :=
  if msg.head? = some 0 then 7
  else if msg.head? = some 2 then
    match msg.drop 3 with
    | l₀ :: l₁ :: frameIdx :: _ =>
      let size := frameSize (le16 l₀ l₁).toNat
      if s.Takes sender frameIdx.toNat size then 8 + min s.frameLen size else 6
    | _ => 6
  else if msg.head? = some 1 ∨ msg.head? = some 255 then 5
  else 1

section Uses

variable (H : Host) {s : Sink} {iter : MsgIter}

/-- A BORROW is always handled. -/
theorem sinkHandleBorrow_total (h : SinkInv s) (now : UInt32) (id : UInt16) (d : Int) (n : Nat)
    (sender : UdpEndpoint) : ∃ s', sinkHandleBorrow H now s id d n sender = .ok s' := by
  by_cases hl : s.Lends d n sender
  · obtain ⟨builder, e, -⟩ := sinkHandleBorrow_lends H h hl now id
    exact ⟨_, e⟩
  by_cases hfree : s.state = .stateOpen ∨ (s.state = .stateLent ∧ udpEndpointEqual sender s.borrowerEndpoint = true)
  · rcases Nat.lt_or_ge pendingFramesCapacity n with hn | hn
    · obtain ⟨s₁, e, -⟩ := sinkSendFailTo_same H h id .requestedBufferTooLarge sender
      rw [sinkHandleBorrow_tooLarge H h hfree hn, e]
      exact ⟨_, rfl⟩
    · have hslow : d < frameLengthMsMin := Int.not_le.mp fun hd => hl ⟨hfree, hn, hd⟩
      obtain ⟨s₁, e, -⟩ := sinkSendFailTo_same H h id .requestedFrameDurationTooShort sender
      rw [sinkHandleBorrow_tooShort H h hfree hn hslow, e]
      exact ⟨_, rfl⟩
  · rw [sinkHandleBorrow, if_neg hfree]
    split
    · obtain ⟨s₁, e, -⟩ := sinkSendFailTo_same H h id .lentToOtherSource sender
      exact ⟨s₁, e⟩
    · exact ⟨s, rfl⟩

/-- The loop stays inside of a frame that has the bytes, also where it does not end. -/
theorem sinkEnqueueLoop_inside (h : SinkInv s) {frame : MemBlock} (h3 : 0 < frame.size) {idx : Nat} (hi : idx ≤ 255)
    (hr : s.Reads frame) (hd : s.distance idx ≤ 128) : sinkEnqueueLoop 128 s idx frame ≠ .error .outOfBounds := by
  obtain ⟨k, hk⟩ := Int.eq_ofNat_of_zero_le (h.distance_nonneg hi)
  have hlen := h.length_pending
  intro e
  by_cases hroom : s.pending.length + k ≤ pendingFramesCapacity
  · obtain ⟨s', e', -⟩ := sinkEnqueueLoop_append h3 hi k 128 h hr hk (by omega) hroom
    rw [e'] at e
    cases e
  · rw [sinkEnqueueLoop_stuck h3 hi (pendingFramesCapacity - s.pending.length) 128 h hr (by omega) (by omega)] at e
    cases e

/-- An ENQUEUE leaves the memory of its frame iff it stores the frame and needs more than there is. -/
theorem sinkHandleEnqueue_outOfBounds_iff (h : SinkInv s) {frame : MemBlock} {idx : Nat} (hi : idx ≤ 255)
    (id : UInt16) (sender : UdpEndpoint) :
    sinkHandleEnqueue H s id idx frame sender = .error .outOfBounds ↔
      s.Takes sender idx frame.size ∧ ¬s.Reads frame := by
  have hfail : ∀ code, sinkSendFailTo H s id code sender ≠ .error .outOfBounds := by
    intro code e
    obtain ⟨s', e', -⟩ := sinkSendFailTo_same H h id code sender
    rw [e'] at e
    cases e
  unfold Sink.Takes
  cases hs : s.state with
  | stateError => simp [sinkHandleEnqueue, sinkHandleEnqueueFor, hs]
  | stateOpen => simp [sinkHandleEnqueue, sinkHandleEnqueueFor, hs, hfail]
  | stateLent =>
    rcases Nat.lt_or_ge frame.size 3 with h3 | h3
    · obtain ⟨s', e', -⟩ := sinkSendFailTo_same H h id .badMsg sender
      rw [sinkHandleEnqueue, sinkHandleEnqueueFor_short H hs h3, e']
      constructor
      · intro e
        cases e
      · rintro ⟨⟨-, -, h3', -⟩, -⟩
        omega
    cases hb : udpEndpointEqual sender s.borrowerEndpoint with
    | false =>
      rw [sinkHandleEnqueue, sinkHandleEnqueueFor_foreign H hs hb h3]
      simp [hfail]
    | true =>
      rw [sinkHandleEnqueue, sinkHandleEnqueueFor_borrower H hs hb h3]
      by_cases hfar : 128 < s.distance idx
      · rw [if_pos hfar]
        constructor
        · intro e
          cases e
        · rintro ⟨⟨-, -, -, -, hd⟩, -⟩
          omega
      rw [if_neg hfar]
      by_cases hpos : 0 < s.distance idx
      · by_cases hr : s.Reads frame
        · constructor
          · intro e
            exact absurd e (sinkEnqueueLoop_inside h (by omega) hi hr (by omega))
          · rintro ⟨-, hr'⟩
            exact absurd hr hr'
        · rw [sinkEnqueueLoop_fault h (by omega) hr hpos]
          exact ⟨fun _ => ⟨⟨rfl, rfl, h3, hpos, by omega⟩, hr⟩, fun _ => rfl⟩
      · rw [sinkEnqueueLoop_done hpos]
        constructor
        · intro e
          cases e
        · rintro ⟨⟨-, -, -, hpos', -⟩, -⟩
          exact absurd hpos' hpos

section Message

variable (hm : msgIterHasMsg iter = true)

include hm

/-- A BORROW is used up to its second payload byte. -/
theorem sinkHandleMsg_borrow (h : SinkInv s) (now : UInt32) (sender : UdpEndpoint) {rest : Bytes}
    (hc : iter.cur = 0 :: rest) :
    if iter.cur.length < 7 then sinkHandleMsg H now sender s iter = .error .outOfBounds
    else ∃ s', sinkHandleMsg H now sender s iter = .ok s' := by
  have htype := msgIterType_cons hm .borrow hc
  have hcur : iter.cur.length = rest.length + 1 := by rw [hc, List.length_cons]
  unfold sinkHandleMsg
  rw [htype, ok_bind]
  split
  · rename_i hlt
    rcases Nat.lt_or_ge iter.cur.length 3 with h3 | h3
    · rw [msgIterMsgId_short H hm h3]
      rfl
    obtain ⟨id, hid⟩ := msgIterMsgId_ok H hm h3
    rw [hid, ok_bind]
    simp only [msgIterBorrowFrameLength, msgIterBorrowBufferLength]
    rcases Nat.lt_or_ge iter.cur.length 5 with h5 | h5
    · rw [payload_access_short H hm .borrow (fun payload => readByte payload.data 0) hc h5]
      rfl
    obtain ⟨i₀, i₁, l₀, l₁, tail, rfl, hlen⟩ := exists_header (show 4 ≤ rest.length by omega)
    rw [payload_access H hm .borrow (fun payload => readByte payload.data 0) hc,
      payload_access H hm .borrow (fun payload => readByte payload.data 1) hc]
    rcases tail with _ | ⟨fl, _ | ⟨bl, tail⟩⟩
    · rfl
    · rfl
    · simp only [List.length_cons] at hcur
      omega
  · rename_i hge
    obtain ⟨i₀, i₁, l₀, l₁, tail, rfl, hlen⟩ := exists_header (show 4 ≤ rest.length by omega)
    rw [msgIterMsgId_cons H hm hc, ok_bind]
    simp only [msgIterBorrowFrameLength, msgIterBorrowBufferLength]
    rw [payload_access H hm .borrow (fun payload => readByte payload.data 0) hc,
      payload_access H hm .borrow (fun payload => readByte payload.data 1) hc]
    rcases tail with _ | ⟨fl, _ | ⟨bl, tail⟩⟩
    · simp only [List.length_cons, List.length_nil] at hcur
      omega
    · simp only [List.length_cons, List.length_nil] at hcur
      omega
    · exact sinkHandleBorrow_total H h now _ fl.toNat bl.toNat sender

/-- An ENQUEUE is used up to its index, and then as its handler says. -/
theorem sinkHandleMsg_enqueue (now : UInt32) (sender : UdpEndpoint) {rest : Bytes} (hc : iter.cur = 2 :: rest) :
    (iter.cur.length < 6 → sinkHandleMsg H now sender s iter = .error .outOfBounds) ∧
      ∀ i₀ i₁ l₀ l₁ idx tail, rest = i₀ :: i₁ :: l₀ :: l₁ :: idx :: tail →
        sinkHandleMsg H now sender s iter = sinkHandleEnqueue H s (le16 i₀ i₁) idx.toNat
          ⟨tail.drop 2, frameSize (le16 l₀ l₁).toNat, frameSize (le16 l₀ l₁).toNat⟩ sender := by
  have htype := msgIterType_cons hm .enqueue hc
  have hcur : iter.cur.length = rest.length + 1 := by rw [hc, List.length_cons]
  constructor
  · intro hlt
    unfold sinkHandleMsg
    rw [htype, ok_bind]
    rcases Nat.lt_or_ge iter.cur.length 3 with h3 | h3
    · rw [msgIterMsgId_short H hm h3]
      rfl
    obtain ⟨id, hid⟩ := msgIterMsgId_ok H hm h3
    rw [hid, ok_bind]
    simp only [msgIterEnqueueFrameIdx]
    rcases Nat.lt_or_ge iter.cur.length 5 with h5 | h5
    · rw [payload_access_short H hm .enqueue (fun payload => readByte payload.data 0) hc h5]
      rfl
    obtain ⟨i₀, i₁, l₀, l₁, tail, rfl, hlen⟩ := exists_header (show 4 ≤ rest.length by omega)
    rw [payload_access H hm .enqueue (fun payload => readByte payload.data 0) hc]
    rcases tail with _ | ⟨idx, tail⟩
    · rfl
    · simp only [List.length_cons] at hcur
      omega
  · rintro i₀ i₁ l₀ l₁ idx tail rfl
    unfold sinkHandleMsg
    rw [htype, ok_bind, msgIterMsgId_cons H hm hc, ok_bind]
    simp only [msgIterEnqueueFrameIdx, msgIterEnqueueFrame_cons H hm hc]
    rw [payload_access H hm .enqueue (fun payload => readByte payload.data 0) hc]
    rfl

/-- The messages that are not for a sink are used up to their id. -/
theorem sinkHandleMsg_other (h : SinkInv s) (now : UInt32) (sender : UdpEndpoint) {type : MsgType} {rest : Bytes}
    (hc : iter.cur = type.toByte :: rest) (ht : type = .lent ∨ type = .fail) :
    if iter.cur.length < 3 then sinkHandleMsg H now sender s iter = .error .outOfBounds
    else ∃ s', sinkHandleMsg H now sender s iter = .ok s' := by
  unfold sinkHandleMsg
  rw [msgIterType_cons hm type hc, ok_bind]
  split
  · rename_i h3
    rw [msgIterMsgId_short H hm h3]
    rfl
  · rename_i h3
    obtain ⟨id, hid⟩ := msgIterMsgId_ok H hm (by omega)
    obtain ⟨s', e, -⟩ := sinkSendFailTo_same H h id .badMsg sender
    refine ⟨s', ?_⟩
    rw [hid, ok_bind]
    rcases ht with rfl | rfl
    · exact e
    · exact e

end Message

/-- An ENQUEUE leaves the datagram iff its index is missing, or the part of a stored frame that the lights take. -/
theorem sinkRound_enqueue_iff {p : Sink × MsgIter} (h : SinkInv p.1) (hm : msgIterHasMsg p.2 = true) {rest : Bytes}
    (hc : p.2.cur = 2 :: rest) (clock : Nat → UInt32) (sender : UdpEndpoint) :
    msgRound H (fun sink iter => sinkHandleMsg H (clock iter.msgBufStart) sender sink iter) p = .error .outOfBounds ↔
      p.2.cur.length < p.1.uses sender p.2.cur := by
  have hhead : p.2.cur.head? = some 2 := by rw [hc]; rfl
  rw [msgRound_outOfBounds_iff hm]
  obtain ⟨hshort, hlong⟩ := sinkHandleMsg_enqueue H hm (s := p.1) (clock p.2.msgBufStart) sender hc
  match rest, hc, hlong with
  | i₀ :: i₁ :: l₀ :: l₁ :: idx :: tail, hc, hlong =>
    have hlen : p.2.cur.length = 6 + tail.length := by rw [hc]; simp; omega
    have hi : idx.toNat ≤ 255 := by have := idx.toNat_lt; omega
    rw [hlong _ _ _ _ _ _ rfl, sinkHandleEnqueue_outOfBounds_iff H h hi]
    have huses : p.1.uses sender p.2.cur =
        if p.1.Takes sender idx.toNat (frameSize (le16 l₀ l₁).toNat) then
          8 + min p.1.frameLen (frameSize (le16 l₀ l₁).toNat) else 6 := by
      rw [Sink.uses, hhead, hc]
      rfl
    have hframe := h.frameLen_pos
    rw [huses, hlen, Sink.Reads, List.length_drop]
    simp only
    split
    · rename_i ht
      have h3 : 3 ≤ frameSize (le16 l₀ l₁).toNat := ht.2.2.1
      constructor
      · rintro (⟨-, hr⟩ | ⟨-, hlt⟩)
        · omega
        · omega
      · intro hlt
        exact .inl ⟨ht, by omega⟩
    · rename_i ht
      constructor
      · rintro (⟨ht', -⟩ | ⟨-, hlt⟩)
        · exact absurd ht' ht
        · omega
      · intro hlt
        omega
  | [], hc, _ | [_], hc, _ | [_, _], hc, _ | [_, _, _], hc, _ | [_, _, _, _], hc, _ =>
    have huses : p.1.uses sender p.2.cur = 6 := by rw [Sink.uses, hhead, hc]; rfl
    have hlt : p.2.cur.length < 6 := by rw [hc]; simp
    rw [huses]
    exact ⟨fun _ => hlt, fun _ => .inl (hshort hlt)⟩

/-- **A round leaves the datagram iff** the message has fewer bytes than its handler uses. -/
theorem sinkRound_outOfBounds_iff {p : Sink × MsgIter} (h : SinkInv p.1) (hm : msgIterHasMsg p.2 = true)
    (hpos : 0 < p.2.cur.length) (clock : Nat → UInt32) (sender : UdpEndpoint) :
    msgRound H (fun sink iter => sinkHandleMsg H (clock iter.msgBufStart) sender sink iter) p = .error .outOfBounds ↔
      p.2.cur.length < p.1.uses sender p.2.cur := by
  obtain ⟨tb, rest, hc⟩ := List.exists_cons_of_length_pos hpos
  have hhead : p.2.cur.head? = some tb := by rw [hc]; rfl
  by_cases hk : (0 ≤ tb.toNat ∧ tb.toNat ≤ 2) ∨ tb = 255
  · obtain ⟨type, rfl⟩ := exists_type hk
    cases type with
    | borrow => exact msgRound_uses hm (sinkHandleMsg_borrow H hm h _ sender hc) (by rw [Sink.uses, hhead]; rfl)
    | lent => exact msgRound_uses hm (sinkHandleMsg_other H hm h _ sender hc (.inl rfl)) (by rw [Sink.uses, hhead]; rfl)
    | enqueue => exact sinkRound_enqueue_iff H h hm hc clock sender
    | fail => exact msgRound_uses hm (sinkHandleMsg_other H hm h _ sender hc (.inr rfl)) (by rw [Sink.uses, hhead]; rfl)
  · have hstopped : msgRound H (fun sink iter => sinkHandleMsg H (clock iter.msgBufStart) sender sink iter) p ≠
        .error .outOfBounds :=
      msgRound_stopped hm (by rw [sinkHandleMsg, msgIterType_unknown hm hc hk]; rfl)
    have huses : p.1.uses sender p.2.cur = 1 := by
      rw [Sink.uses, hhead]
      simp [show tb ≠ 0 from ne_type hk .borrow, show tb ≠ 1 from ne_type hk .lent,
        show tb ≠ 2 from ne_type hk .enqueue, show tb ≠ 255 from ne_type hk .fail]
    rw [huses]
    exact ⟨fun e => absurd e hstopped, fun hlt => by omega⟩

end Uses

/-! ## A datagram and nothing else -/

/-- What `sink_iterate_recv_buf` does is decided by the received bytes alone: any two contents of the receive buffer
that begin with them give the same result, and a run on a memory that ends with them stays inside of it. -/
def SinkReadsOnly (H : Host) (clock : Nat → UInt32) (s : Sink) (sender : UdpEndpoint) (bytes : Bytes) : Prop :=
  (∀ buf₁ buf₂ : Bytes, buf₁.length = sinkRecvBufLen → buf₂.length = sinkRecvBufLen →
    buf₁.take bytes.length = bytes → buf₂.take bytes.length = bytes →
    (sinkIterateRecvBuf H clock (s.withRecvBuf buf₁) bytes.length sender).map (·.withRecvBuf []) =
      (sinkIterateRecvBuf H clock (s.withRecvBuf buf₂) bytes.length sender).map (·.withRecvBuf [])) ∧
  sinkIterateRecvBuf H clock (s.withRecvBuf bytes) bytes.length sender ≠ .error .outOfBounds

/-- At every message the loop comes to, the datagram holds the bytes that the handler uses. -/
def SinkComplete (H : Host) (clock : Nat → UInt32) (s : Sink) (sender : UdpEndpoint) (bytes : Bytes) : Prop :=
  ∀ k p, MsgRounds H (fun sink iter => sinkHandleMsg H (clock iter.msgBufStart) sender sink iter)
      (s.withRecvBuf bytes) bytes k p → msgIterHasMsg p.2 = true →
    p.1.uses sender p.2.cur ≤ p.2.cur.length

section Only

variable {H : Host} {clock : Nat → UInt32} {s : Sink} {sender : UdpEndpoint} {bytes : Bytes}

/-- The run on the datagram alone stays inside of it iff every message is complete. -/
theorem sinkComplete_iff (h : SinkInv s) :
    SinkComplete H clock s sender bytes ↔
      sinkIterateRecvBuf H clock (s.withRecvBuf bytes) bytes.length sender ≠ .error .outOfBounds := by
  have hround : ∀ k p, MsgRounds H (fun sink iter => sinkHandleMsg H (clock iter.msgBufStart) sender sink iter)
      (s.withRecvBuf bytes) bytes k p → SinkInv p.1 := by
    intro k p hk
    refine Rounds.inv (fun p : Sink × MsgIter => SinkInv p.1) hk (h.withRecvBuf bytes) ?_
    intro p q hp _ e
    exact sinkHandleMsg_inv H hp (msgRound_ok e).1
  have hbind : sinkIterateRecvBuf H clock (s.withRecvBuf bytes) bytes.length sender = .error .outOfBounds ↔
      msgLoop H (fun sink iter => sinkHandleMsg H (clock iter.msgBufStart) sender sink iter) bytes.length
        (s.withRecvBuf bytes) (msgIterMake bytes bytes.length) = .error .outOfBounds := by
    rw [sinkIterateRecvBuf, bind_eq_error]
    refine ⟨?_, .inl⟩
    rintro (e | ⟨_, _, e⟩)
    · exact e
    · cases e
  rw [Ne, hbind, msgLoop_outOfBounds_iff]
  constructor
  · rintro hc ⟨k, p, hk, hm, e⟩
    have hlt := (sinkRound_outOfBounds_iff H (hround k p hk) hm (MsgRounds.cur_pos hk hm) clock sender).mp e
    have hle := hc k p hk hm
    omega
  · intro hno k p hk hm
    by_contra hlt
    exact hno ⟨k, p, hk, hm,
      (sinkRound_outOfBounds_iff H (hround k p hk) hm (MsgRounds.cur_pos hk hm) clock sender).mpr (by omega)⟩

/-- **The sink acts on the received bytes alone iff** every message it comes to is complete. -/
theorem sinkReadsOnly_iff_complete (h : SinkInv s) :
    SinkReadsOnly H clock s sender bytes ↔ SinkComplete H clock s sender bytes := by
  rw [sinkComplete_iff h]
  refine ⟨fun hr => hr.2, fun hno => ⟨?_, hno⟩⟩
  intro buf₁ buf₂ _ _ h₁ h₂
  have hrun : ∀ buf : Bytes, buf.take bytes.length = bytes →
      (sinkIterateRecvBuf H clock (s.withRecvBuf buf) bytes.length sender).map (·.withRecvBuf []) =
        (sinkIterateRecvBuf H clock (s.withRecvBuf bytes) bytes.length sender).map (·.withRecvBuf []) := by
    intro buf hbuf
    have hprefix : bytes <+: buf := hbuf ▸ List.take_prefix _ _
    refine ((sinkIterateRecvBuf_longer H buf clock s sender hprefix).agree hno).map_eq ?_
    rintro t _ rfl
    rfl
  rw [hrun buf₁ h₁, hrun buf₂ h₂]

end Only

end Atolla

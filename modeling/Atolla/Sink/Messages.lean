import Atolla.Sink.Handlers

/-!
# The sink and its datagrams

`sink_iterate_recv_buf` decodes and handles one message after the other. Over a datagram of complete messages it is a
fold of `sinkHandleRequest`, the handler of what the message asks for (`sinkIterateRecvBuf_complete`); over any
datagram it keeps the invariant (`sinkIterateRecvBuf_inv`).
-/

set_option autoImplicit false

namespace Atolla

open Loop

/-- What a complete message asks of the sink. -/
inductive Request where
  | borrow (frameLength bufferLength : UInt8)
  | enqueue (frameIdx : UInt8) (frame : Bytes)
  /-- A message that is not for a sink. -/
  | other

/-- The request in a message; none in messages of unknown type and those too short for their type. -/
def WireMsg.request (m : WireMsg) : Option Request :=
  if m.typeByte = 0 then
    match m.payload with
    | frameLength :: bufferLength :: _ => some (.borrow frameLength bufferLength)
    | _ => none
  else if m.typeByte = 2 then
    match m.payload with
    | frameIdx :: _ :: _ :: frame => some (.enqueue frameIdx frame)
    | _ => none
  else if m.typeByte = 1 ∨ m.typeByte = 255 then some .other
  else none

/-- The handler of a request. -/
def sinkHandleRequest (H : Host) (now : UInt32) (sender : UdpEndpoint) (sink : Sink) (id : UInt16) :
    Request → Run Sink
  | .borrow frameLength bufferLength =>
    sinkHandleBorrow H now sink id frameLength.toNat bufferLength.toNat sender
  | .enqueue frameIdx frame => sinkHandleEnqueue H sink id frameIdx.toNat (MemBlock.ofBytes frame) sender
  | .other => sinkSendFailTo H sink id .badMsg sender

/-- The handler of a message and its offset. -/
def sinkHandleWire (H : Host) (clock : Nat → UInt32) (sender : UdpEndpoint) (sink : Sink) (p : Nat × WireMsg) :
    Run Sink :=
  match p.2.request with
  | some request => sinkHandleRequest H (clock p.1) sender sink p.2.id request
  | none => .ok sink

/-! ## The messages the two peers build -/

/-- The BORROW message `msg_builder_borrow` makes. -/
def WireMsg.borrow (id : UInt16) (frameLength bufferLength : UInt8) : WireMsg :=
  ⟨0, id, [frameLength, bufferLength], by simp⟩

theorem WireMsg.length_borrow_le (id : UInt16) (frameLength bufferLength : UInt8) :
    (WireMsg.borrow id frameLength bufferLength).bytes.length ≤ sinkRecvBufLen := by
  simp [WireMsg.borrow, sinkRecvBufLen]

/-- The ENQUEUE message `msg_builder_enqueue` makes. -/
def WireMsg.enqueue (id : UInt16) (frameIdx : UInt8) (frame : Bytes) (h : frame.length ≤ 65532) : WireMsg :=
  ⟨2, id, enqueuePayload frameIdx frame, by simp; omega⟩

@[simp] theorem WireMsg.request_borrow (id : UInt16) (frameLength bufferLength : UInt8) :
    (WireMsg.borrow id frameLength bufferLength).request = some (.borrow frameLength bufferLength) := rfl

@[simp] theorem WireMsg.request_enqueue (id : UInt16) (frameIdx : UInt8) (frame : Bytes) (h : frame.length ≤ 65532) :
    (WireMsg.enqueue id frameIdx frame h).request = some (.enqueue frameIdx frame) := rfl

/-! ## Decoding -/

section Decode

variable (H : Host) {iter : MsgIter} {m : WireMsg} {rest : Bytes}

/-- **At a complete message** the loop of `sink_iterate_recv_buf` handles the request in it. -/
theorem sinkHandleMsg_complete (hm : msgIterHasMsg iter = true) (hc : iter.cur = m.bytes ++ rest) {r : Request}
    (hr : m.request = some r) (now : UInt32) (sender : UdpEndpoint) (sink : Sink) :
    sinkHandleMsg H now sender sink iter = sinkHandleRequest H now sender sink m.id r := by
  obtain ⟨tb, id, payload, hp⟩ := m
  have hid := msgIterMsgId_encode H hm hc
  unfold WireMsg.request at hr
  simp only at hr hc hid
  split at hr
  · -- BORROW
    rename_i htb
    subst htb
    match payload, hr with
    | fl :: bl :: tail, hr =>
      cases hr
      rw [sinkHandleMsg, msgIterType_encode hm .borrow hc, ok_bind, hid, ok_bind]
      simp only [msgIterBorrowFrameLength_encode H hm hc, msgIterBorrowBufferLength_encode H hm hc, ok_bind]
      rfl
  · split at hr
    · -- ENQUEUE
      rename_i htb
      subst htb
      match payload, hr with
      | idx :: b₁ :: b₂ :: frame, hr =>
        cases hr
        have hlen : (idx :: b₁ :: b₂ :: frame).length = 3 + frame.length := by simp; omega
        have hv : (⟨frame ++ rest, frame.length, frame.length⟩ : MemBlock).Valid := by
          show frame.length ≤ (frame ++ rest).length
          simp
        have hframe := msgIterEnqueueFrame_encode H hm hp (by omega) hc
        rw [hlen, Nat.add_sub_cancel_left] at hframe
        rw [sinkHandleMsg, msgIterType_encode hm .enqueue hc, ok_bind, hid, ok_bind]
        simp only [msgIterEnqueueFrameIdx_encode H hm hc, hframe, ok_bind]
        refine (sinkHandleEnqueue_ofBytes H hv id).trans ?_
        rw [show (⟨frame ++ rest, frame.length, frame.length⟩ : MemBlock).bytes = frame from List.take_left]
        rfl
    · split at hr
      · -- LENT and FAIL are not for a sink
        rename_i htb
        cases hr
        rcases htb with rfl | rfl
        · rw [sinkHandleMsg, msgIterType_encode hm .lent hc, ok_bind, hid]
          rfl
        · rw [sinkHandleMsg, msgIterType_encode hm .fail hc, ok_bind, hid]
          rfl
      · cases hr

/-- **A datagram of complete messages**: they are handled in order. -/
theorem sinkIterateRecvBuf_complete {ms : List WireMsg} (hr : ∀ m ∈ ms, m.request.isSome) (sink : Sink)
    (hbuf : sink.recvBuf = wire ms ++ rest) (clock : Nat → UInt32) (sender : UdpEndpoint) :
    sinkIterateRecvBuf H clock sink (wire ms).length sender =
      (withOffsets 0 ms).foldlM (sinkHandleWire H clock sender) sink := by
  have hloop : msgLoop H (fun s iter => sinkHandleMsg H (clock iter.msgBufStart) sender s iter) _ sink _ = _ :=
    msgLoop_complete (sinkHandleWire H clock sender) ms (wire ms).length sink
      (msgIterMake sink.recvBuf (wire ms).length) rest (Nat.le_refl _) hbuf rfl (fun m hm s o r hhas hcur => by
        obtain ⟨r', hr'⟩ := Option.isSome_iff_exists.mp (hr m hm)
        rw [sinkHandleMsg_complete H hhas hcur hr', sinkHandleWire, hr'])
  rw [sinkIterateRecvBuf, hloop]
  show ((withOffsets 0 ms).foldlM (sinkHandleWire H clock sender) sink).map _ >>= _ = _
  cases (withOffsets 0 ms).foldlM (sinkHandleWire H clock sender) sink <;> rfl

/-- A datagram with one message. -/
theorem sinkIterateRecvBuf_one {r : Request} (hr : m.request = some r) (sink : Sink)
    (hbuf : sink.recvBuf = m.bytes ++ rest) (clock : Nat → UInt32) (sender : UdpEndpoint) :
    sinkIterateRecvBuf H clock sink m.bytes.length sender = sinkHandleRequest H (clock 0) sender sink m.id r := by
  have hone : ∀ m' ∈ [m], m'.request.isSome := by simp [hr]
  have h := sinkIterateRecvBuf_complete H hone sink (by simpa using hbuf) clock sender
  rw [wire_cons, wire_nil, List.append_nil] at h
  have hwire : sinkHandleWire H clock sender sink (0, m) = sinkHandleRequest H (clock 0) sender sink m.id r := by
    rw [sinkHandleWire, hr]
  rw [h, withOffsets, withOffsets, List.foldlM_cons, hwire]
  exact bind_pure _

end Decode

/-! ## The invariant -/

section Invariant

variable (H : Host) {s : Sink}

theorem sinkHandleRequest_inv (h : SinkInv s) {now : UInt32} {sender : UdpEndpoint} {id : UInt16} {r : Request}
    {s' : Sink} (e : sinkHandleRequest H now sender s id r = .ok s') : SinkInv s' := by
  cases r with
  | borrow fl bl => exact sinkHandleBorrow_inv H h (by have := fl.toNat_lt; omega) e
  | enqueue idx frame => exact sinkHandleEnqueueFor_inv H h e
  | other => exact sinkSendFailTo_inv H h e

theorem sinkHandleWire_inv (h : SinkInv s) {clock : Nat → UInt32} {sender : UdpEndpoint} {p : Nat × WireMsg}
    {s' : Sink} (e : sinkHandleWire H clock sender s p = .ok s') : SinkInv s' := by
  unfold sinkHandleWire at e
  split at e
  · exact sinkHandleRequest_inv H h e
  · cases e
    exact h

/-- Whatever the bytes at the iterator are. -/
theorem sinkHandleMsg_inv (h : SinkInv s) {now : UInt32} {sender : UdpEndpoint} {iter : MsgIter} {s' : Sink}
    (e : sinkHandleMsg H now sender s iter = .ok s') : SinkInv s' := by
  unfold sinkHandleMsg at e
  obtain ⟨type, -, e⟩ := bind_eq_ok.mp e
  obtain ⟨id, -, e⟩ := bind_eq_ok.mp e
  cases type with
  | borrow =>
    obtain ⟨fl, -, e⟩ := bind_eq_ok.mp e
    obtain ⟨bl, -, e⟩ := bind_eq_ok.mp e
    exact sinkHandleBorrow_inv H h (by have := fl.toNat_lt; omega) e
  | enqueue =>
    obtain ⟨idx, -, e⟩ := bind_eq_ok.mp e
    obtain ⟨frame, -, e⟩ := bind_eq_ok.mp e
    exact sinkHandleEnqueueFor_inv H h e
  | lent => exact sinkSendFailTo_inv H h e
  | fail => exact sinkSendFailTo_inv H h e

/-- **Any datagram keeps the invariant.** -/
theorem sinkIterateRecvBuf_inv (h : SinkInv s) {clock : Nat → UInt32} {n : Nat} {sender : UdpEndpoint} {s' : Sink}
    (e : sinkIterateRecvBuf H clock s n sender = .ok s') : SinkInv s' := by
  unfold sinkIterateRecvBuf msgLoop at e
  obtain ⟨⟨s₁, iter⟩, h₁, h₂⟩ := bind_eq_ok.mp e
  cases h₂
  refine (whileM_inv (fun p : Sink × MsgIter => SinkInv p.1) ?_ n _ _ h h₁).1
  rintro ⟨s, iter⟩ ⟨s', iter'⟩ hi - hround
  obtain ⟨s₂, h₂, h₃⟩ := bind_eq_ok.mp hround
  obtain ⟨iter₂, -, h₄⟩ := bind_eq_ok.mp h₃
  cases h₄
  exact sinkHandleMsg_inv H hi h₂

end Invariant

end Atolla

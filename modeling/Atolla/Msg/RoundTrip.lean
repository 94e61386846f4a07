import Atolla.Msg.Datagram

/-!
# Reading undoes building

Messages built one after the other and put into one buffer are read back as they were given to the builder
(`readAll_buildAll`): as many, in the same order, under consecutive ids, with nothing left at the end of the buffer.
-/

set_option autoImplicit false

namespace Atolla

open Loop

/-- A message as the arguments of the builder function of its type. -/
inductive Msg where
  | borrow (frameLength bufferLength : UInt8)
  | lent
  | enqueue (frameIdx : UInt8) (frame : Bytes)
  | fail (causingMessageId : UInt16) (errorCode : UInt8)

namespace Msg

/-- The frame, if any, leaves room for its index and length in the payload. -/
def Fits : Msg → Prop
  | .enqueue _ frame => frame.length ≤ 65532
  | _ => True

def type : Msg → MsgType
  | .borrow .. => .borrow
  | .lent => .lent
  | .enqueue .. => .enqueue
  | .fail .. => .fail

def payload : Msg → Bytes
  | .borrow frameLength bufferLength => [frameLength, bufferLength]
  | .lent => []
  | .enqueue frameIdx frame => enqueuePayload frameIdx frame
  | .fail causingMessageId errorCode => failPayload causingMessageId errorCode

theorem payload_le {m : Msg} (h : m.Fits) : m.payload.length ≤ 65535 := by
  cases m with
  | borrow => simp [payload]
  | lent => simp [payload]
  | enqueue idx frame => simp only [payload, length_enqueuePayload]; simp only [Fits] at h; omega
  | fail => simp [payload, failPayload]

/-- The message on the wire, under a message id. -/
def toWire (m : Msg) (h : m.Fits) (id : UInt16) : WireMsg := ⟨m.type.toByte, id, m.payload, payload_le h⟩

end Msg

/-- The builder function of the type of the message. -/
def msgBuilderMsg (H : Host) (builder : MsgBuilder) : Msg → Run MsgBuilder
  | .borrow frameLength bufferLength => msgBuilderBorrow H builder frameLength bufferLength
  | .lent => msgBuilderLent H builder
  | .enqueue frameIdx frame => msgBuilderEnqueue H builder frameIdx frame frame.length
  | .fail causingMessageId errorCode => msgBuilderFail H builder causingMessageId errorCode

/-- Messages built one after the other, their blocks copied into one buffer. -/
def buildAll (H : Host) : MsgBuilder → List Msg → Run (MsgBuilder × Bytes)
  | builder, [] => .ok (builder, [])
  | builder, m :: ms => do
    let builder ← msgBuilderMsg H builder m
    let bytes ← readBytes builder.msgBuf.data builder.msgBuf.size
    let (builder, rest) ← buildAll H builder ms
    return (builder, bytes ++ rest)

/-- The id of the selected message and what the accessors of its type return. -/
def readMsg (H : Host) (iter : MsgIter) : Run (UInt16 × Msg) := do
  let type ← msgIterType iter
  let id ← msgIterMsgId H iter
  match type with
  | .borrow => do
    let frameLength ← msgIterBorrowFrameLength H iter
    let bufferLength ← msgIterBorrowBufferLength H iter
    return (id, .borrow frameLength bufferLength)
  | .lent => return (id, .lent)
  | .enqueue => do
    let frameIdx ← msgIterEnqueueFrameIdx H iter
    let frame ← msgIterEnqueueFrame H iter
    let bytes ← readBytes frame.data frame.size
    return (id, .enqueue frameIdx bytes)
  | .fail => do
    let causingMessageId ← msgIterFailOffendingMsgId H iter
    let errorCode ← msgIterFailErrorCode H iter
    return (id, .fail causingMessageId errorCode)

/-- All messages of a buffer in the order of the iterator, and the iterator where it stops. -/
def readAll (H : Host) (buf : Bytes) : Run (List (UInt16 × Msg) × MsgIter) :=
  msgLoop H (fun ms iter => do return ms ++ [← readMsg H iter]) buf.length [] (msgIterMake buf buf.length)

/-- Messages with consecutive ids. -/
def numbered : UInt16 → List Msg → List (UInt16 × Msg)
  | _, [] => []
  | id, m :: ms => (id, m) :: numbered (id + 1) ms

/-- The messages of one builder run on the wire. -/
def wireOf : UInt16 → (ms : List Msg) → (∀ m ∈ ms, m.Fits) → List WireMsg
  | _, [], _ => []
  | id, m :: ms, h =>
    m.toWire (h m List.mem_cons_self) id :: wireOf (id + 1) ms fun x hx => h x (List.mem_cons_of_mem _ hx)

/-- One call of the builder. -/
theorem msgBuilderMsg_spec (H : Host) {builder : MsgBuilder} (hb : builder.msgBuf.Owned) {m : Msg} (h : m.Fits) :
    ∃ builder', msgBuilderMsg H builder m = .ok builder' ∧
      builder'.Holds builder.nextMsgId (m.toWire h builder.nextMsgId).bytes := by
  cases m with
  | borrow fl bl => exact msgBuilderBorrow_spec H hb fl bl
  | lent => exact msgBuilderLent_spec H hb
  | enqueue idx frame => exact msgBuilderEnqueue_spec H hb idx h
  | fail id code => exact msgBuilderFail_spec H hb id code

theorem buildAll_spec (H : Host) : ∀ (ms : List Msg) (builder : MsgBuilder) (h : ∀ m ∈ ms, m.Fits),
    builder.msgBuf.Owned → ∃ builder', buildAll H builder ms = .ok (builder', wire (wireOf builder.nextMsgId ms h))
  | [], builder, _, _ => ⟨builder, rfl⟩
  | m :: ms, builder, h, hb => by
    obtain ⟨b₁, e₁, h₁⟩ := msgBuilderMsg_spec H hb (h m List.mem_cons_self)
    obtain ⟨b₂, e₂⟩ := buildAll_spec H ms b₁ (fun x hx => h x (List.mem_cons_of_mem _ hx)) h₁.owned
    have hbytes : readBytes b₁.msgBuf.data b₁.msgBuf.size = .ok b₁.msgBuf.bytes := readBytes_of_le h₁.valid
    refine ⟨b₂, ?_⟩
    rw [buildAll, e₁, ok_bind, hbytes, ok_bind, e₂, h₁.bytes, h₁.next]
    rfl

/-- The accessors at a complete message give back what it was built from. -/
theorem readMsg_toWire (H : Host) {iter : MsgIter} (hm : msgIterHasMsg iter = true) {m : Msg} (h : m.Fits)
    {id : UInt16} {rest : Bytes} (hc : iter.cur = (m.toWire h id).bytes ++ rest) : readMsg H iter = .ok (id, m) := by
  have htype : msgIterType iter = .ok m.type := msgIterType_encode hm m.type hc
  have hid : msgIterMsgId H iter = .ok id := msgIterMsgId_encode H hm hc
  rw [readMsg, htype, ok_bind, hid, ok_bind]
  cases m with
  | borrow fl bl =>
    simp only [Msg.type]
    rw [msgIterBorrowFrameLength_encode H hm hc, msgIterBorrowBufferLength_encode H hm hc]
    rfl
  | lent => rfl
  | enqueue idx frame =>
    simp only [Msg.type]
    have hframe := msgIterEnqueueFrame_encode H hm (Msg.payload_le h) (by simp [Msg.payload]) hc
    have hlen : (Msg.enqueue idx frame).payload.length - 3 = frame.length := by simp [Msg.payload]
    have hdrop : (Msg.enqueue idx frame).payload.drop 3 = frame := rfl
    rw [hlen, hdrop] at hframe
    have hread : readBytes (frame ++ rest) frame.length = .ok frame := by
      rw [readBytes_of_le (by simp), List.take_left]
    rw [msgIterEnqueueFrameIdx_encode H hm hc, hframe, ok_bind, ok_bind, hread]
    rfl
  | fail off code =>
    simp only [Msg.type]
    rw [msgIterFailOffendingMsgId_encode H hm hc, msgIterFailErrorCode_encode H hm hc]
    rfl

/-- Reading behind some messages already read. -/
theorem readAll_wireOf (H : Host) (buf : Bytes) (stop : Nat) : ∀ (ms : List Msg) (id : UInt16) (h : ∀ m ∈ ms, m.Fits)
    (n start : Nat) (acc : List (UInt16 × Msg)), (wire (wireOf id ms h)).length ≤ n →
    buf.drop start = wire (wireOf id ms h) → stop = start + (wire (wireOf id ms h)).length →
    msgLoop H (fun ms iter => do return ms ++ [← readMsg H iter]) n acc ⟨buf, start, stop⟩ =
      .ok (acc ++ numbered id ms, ⟨buf, stop, stop⟩)
  | [], id, h, n, start, acc, _, _, hstop => by
    have hs : stop = start := by simpa [wireOf] using hstop
    rw [msgLoop_nil n acc hs, numbered, List.append_nil]
  | m :: ms, id, h, n, start, acc, hn, hc, hstop => by
    have hcur : (⟨buf, start, stop⟩ : MsgIter).cur = wire (wireOf id (m :: ms) h) ++ [] :=
      hc.trans (List.append_nil _).symm
    obtain ⟨k, iter', hm, hc', e, rfl, hk, hnext, hend⟩ := msgLoop_cons H
      (fun ms iter => do return ms ++ [← readMsg H iter]) acc hn hcur hstop
    rw [List.append_nil] at hnext
    rw [e, readMsg_toWire H hm _ hc']
    refine (readAll_wireOf H buf stop ms (id + 1) _ k _ (acc ++ [(id, m)]) hk hnext hend).trans ?_
    rw [numbered, List.append_assoc]
    rfl

/-- **Decode undoes encode** over whole datagrams, on hosts of either byte order: the messages come back in order,
under consecutive ids, and the iterator stops exactly at the end of the buffer. -/
theorem readAll_buildAll (H : Host) {builder : MsgBuilder} (hb : builder.msgBuf.Owned) {ms : List Msg}
    (h : ∀ m ∈ ms, m.Fits) :
    ∃ builder' buf iter, buildAll H builder ms = .ok (builder', buf) ∧
      readAll H buf = .ok (numbered builder.nextMsgId ms, iter) ∧
      iter.msgBufStart = buf.length ∧ msgIterHasMsg iter = false := by
  obtain ⟨builder', e⟩ := buildAll_spec H ms builder h hb
  set buf := wire (wireOf builder.nextMsgId ms h) with hbuf
  have hread : readAll H buf = .ok (numbered builder.nextMsgId ms, ⟨buf, buf.length, buf.length⟩) := by
    rw [readAll, msgIterMake, Nat.zero_add]
    exact readAll_wireOf H buf buf.length ms builder.nextMsgId h buf.length 0 [] (Nat.le_refl _) rfl (by simp [hbuf])
  exact ⟨builder', buf, _, e, hread, rfl, by simp [msgIterHasMsg]⟩

/-- Four messages across the end of the ids, on a big endian host. -/
theorem readAll_buildAll_example :
    ∃ builder' buf iter, buildAll ⟨true, fun _ => 0xCC⟩ { msgBuilderInit ⟨true, fun _ => 0xCC⟩ with nextMsgId := 65534 }
        [.borrow 17 50, .enqueue 255 [1, 2, 3], .lent, .fail 7 4] = .ok (builder', buf) ∧
      readAll ⟨true, fun _ => 0xCC⟩ buf =
        .ok (numbered 65534 [.borrow 17 50, .enqueue 255 [1, 2, 3], .lent, .fail 7 4], iter) ∧
      iter.msgBufStart = buf.length ∧ msgIterHasMsg iter = false :=
  readAll_buildAll _ (memBlockAlloc_owned _ _) (by simp [Msg.Fits])

end Atolla

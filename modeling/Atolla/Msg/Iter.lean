import Atolla.Msg.Builder

/-!
# Reading messages (`msg/iter.c`)

The iterator holds two addresses into a buffer and compares them, and looks at nothing else before it reads: what it
returns at a complete message is the message (`msgIterType_encode` to `msgIterFailErrorCode_encode`), and at a
truncated one whatever the memory holds there.
-/

set_option autoImplicit false

namespace Atolla

open Loop

/-- `MsgIter`: the two pointers are offsets into the memory of the buffer. -/
structure MsgIter where
  msgBuf : Bytes
  msgBufStart : Nat
  msgBufEnd : Nat

/-- The memory at `msg_buf_start`. -/
def MsgIter.cur (iter : MsgIter) : Bytes := iter.msgBuf.drop iter.msgBufStart

/-- `msg_iter_make`. -/
def msgIterMake (msgBuffer : Bytes) (msgBufferSize : Nat) : MsgIter := ⟨msgBuffer, 0, 0 + msgBufferSize⟩

/-- `msg_iter_has_msg`. -/
def msgIterHasMsg (iter : MsgIter) : Bool := iter.msgBufStart < iter.msgBufEnd

/-- `(MsgType) msg_type_byte`, for the bytes that pass the assertion of `msg_iter_type`. -/
def MsgType.ofByte (b : UInt8) : MsgType :=
  if b = 0 then .borrow else if b = 1 then .lent else if b = 2 then .enqueue else .fail

/-- `msg_iter_type`. -/
def msgIterType (iter : MsgIter) : Run MsgType := do
  assert (msgIterHasMsg iter)
  let msgTypeByte ← readByte iter.cur 0
  assert ((0 ≤ msgTypeByte.toNat ∧ msgTypeByte.toNat ≤ 2) ∨ msgTypeByte = 255)
  return MsgType.ofByte msgTypeByte

/-- `msg_iter_msg_id`. -/
def msgIterMsgId (H : Host) (iter : MsgIter) : Run UInt16 := do
  assert (msgIterHasMsg iter)
  let msgId ← loadUint16 H (iter.cur.drop 1)
  return memUint16leFrom H msgId

/-- `msg_iter_payload_length`. -/
def msgIterPayloadLength (H : Host) (iter : MsgIter) : Run UInt16 := do
  assert (msgIterHasMsg iter)
  let payloadLength ← loadUint16 H (iter.cur.drop 3)
  return memUint16leFrom H payloadLength

/-- `msg_iter_next`. -/
def msgIterNext (H : Host) (iter : MsgIter) : Run MsgIter := do
  assert (msgIterHasMsg iter)
  let payloadLength ← msgIterPayloadLength H iter
  let msgLen := 5 + payloadLength.toNat
  return { iter with msgBufStart := iter.msgBufStart + msgLen }

/-- `msg_iter_payload`. -/
def msgIterPayload (H : Host) (iter : MsgIter) : Run MemBlock := do
  assert (msgIterHasMsg iter)
  let payloadLen ← loadUint16 H (iter.cur.drop 3)
  return memBlockMake (iter.cur.drop 5) (memUint16leFrom H payloadLen).toNat

/-- `msg_iter_borrow_frame_length`. -/
def msgIterBorrowFrameLength (H : Host) (iter : MsgIter) : Run UInt8 := do
  assert ((← msgIterType iter) = .borrow)
  let payload ← msgIterPayload H iter
  readByte payload.data 0

/-- `msg_iter_borrow_buffer_length`. -/
def msgIterBorrowBufferLength (H : Host) (iter : MsgIter) : Run UInt8 := do
  assert ((← msgIterType iter) = .borrow)
  let payload ← msgIterPayload H iter
  readByte payload.data 1

/-- `msg_iter_enqueue_frame_idx`. -/
def msgIterEnqueueFrameIdx (H : Host) (iter : MsgIter) : Run UInt8 := do
  assert ((← msgIterType iter) = .enqueue)
  let payload ← msgIterPayload H iter
  readByte payload.data 0

/-- `payload.size-3`, as a `size_t`. -/
def frameSize (payloadSize : Nat) : Nat := sizeT (payloadSize + 2 ^ 64 - 3)

/-- `msg_iter_enqueue_frame`. -/
def msgIterEnqueueFrame (H : Host) (iter : MsgIter) : Run MemBlock := do
  assert ((← msgIterType iter) = .enqueue)
  let payload ← msgIterPayload H iter
  memBlockSlice payload 3 (frameSize payload.size)

/-- `msg_iter_fail_offending_msg_id`. -/
def msgIterFailOffendingMsgId (H : Host) (iter : MsgIter) : Run UInt16 := do
  assert ((← msgIterType iter) = .fail)
  let payload ← msgIterPayload H iter
  let offendingMsgId ← loadUint16 H payload.data
  return memUint16leFrom H offendingMsgId

/-- `msg_iter_fail_error_code`. -/
def msgIterFailErrorCode (H : Host) (iter : MsgIter) : Run UInt8 := do
  assert ((← msgIterType iter) = .fail)
  let payload ← msgIterPayload H iter
  readByte payload.data 2

/-! ## Bytes of the header -/

@[simp] theorem MsgType.ofByte_toByte (type : MsgType) : MsgType.ofByte type.toByte = type := by
  cases type <;> decide

theorem MsgType.toByte_known (type : MsgType) :
    (0 ≤ type.toByte.toNat ∧ type.toByte.toNat ≤ 2) ∨ type.toByte = 255 := by
  cases type <;> decide

/-- `frameSize` without wrap-around. -/
theorem frameSize_of_le {p : Nat} (h : 3 ≤ p) (hp : p ≤ 65535) : frameSize p = p - 3 := by
  unfold frameSize sizeT
  omega

/-- The slice assertion adds back what `payload.size-3` took away. -/
theorem sizeT_frameSize {p : Nat} (hp : p ≤ 65535) : sizeT (3 + frameSize p) = p := by
  unfold frameSize sizeT
  omega

section Read

variable (H : Host) {iter : MsgIter}

theorem loadUint16_short {p : Bytes} (h : p.length < 2) : loadUint16 H p = .error .outOfBounds := by
  match p, h with
  | [], _ => rfl
  | [_], _ => rfl

variable (hm : msgIterHasMsg iter = true) {tb i₀ i₁ l₀ l₁ : UInt8} {rest : Bytes}

include hm

theorem msgIterType_cons (type : MsgType) {p : Bytes} (hc : iter.cur = type.toByte :: p) :
    msgIterType iter = .ok type := by
  rw [msgIterType, assert_pos hm, ok_bind, hc]
  show (assert _ >>= fun _ => pure (MsgType.ofByte type.toByte)) = _
  rw [assert_pos type.toByte_known, ok_bind, MsgType.ofByte_toByte]
  rfl

theorem msgIterMsgId_cons (hc : iter.cur = tb :: i₀ :: i₁ :: rest) : msgIterMsgId H iter = .ok (le16 i₀ i₁) := by
  rw [msgIterMsgId, assert_pos hm, ok_bind, hc]
  show Except.ok (memUint16leFrom H (nativeUint16 H i₀ i₁)) = _
  rw [memUint16leFrom_native]

theorem msgIterPayloadLength_cons (hc : iter.cur = tb :: i₀ :: i₁ :: l₀ :: l₁ :: rest) :
    msgIterPayloadLength H iter = .ok (le16 l₀ l₁) := by
  rw [msgIterPayloadLength, assert_pos hm, ok_bind, hc]
  show Except.ok (memUint16leFrom H (nativeUint16 H l₀ l₁)) = _
  rw [memUint16leFrom_native]

theorem msgIterNext_cons (hc : iter.cur = tb :: i₀ :: i₁ :: l₀ :: l₁ :: rest) :
    msgIterNext H iter = .ok { iter with msgBufStart := iter.msgBufStart + (5 + (le16 l₀ l₁).toNat) } := by
  rw [msgIterNext, assert_pos hm, ok_bind, msgIterPayloadLength_cons H hm hc]
  rfl

theorem msgIterPayload_cons (hc : iter.cur = tb :: i₀ :: i₁ :: l₀ :: l₁ :: rest) :
    msgIterPayload H iter = .ok (memBlockMake rest (le16 l₀ l₁).toNat) := by
  rw [msgIterPayload, assert_pos hm, ok_bind, hc]
  show Except.ok (memBlockMake rest (memUint16leFrom H (nativeUint16 H l₀ l₁)).toNat) = _
  rw [memUint16leFrom_native]

/-- The accessors of one type of message look at the payload after the type has been checked. -/
theorem payload_access {α : Type} (type : MsgType) (f : MemBlock → Run α)
    (hc : iter.cur = type.toByte :: i₀ :: i₁ :: l₀ :: l₁ :: rest) :
    (do
      assert ((← msgIterType iter) = type)
      let payload ← msgIterPayload H iter
      f payload) = f (memBlockMake rest (le16 l₀ l₁).toNat) := by
  rw [msgIterType_cons hm type hc, ok_bind, assert_pos rfl, ok_bind, msgIterPayload_cons H hm hc, ok_bind]

theorem msgIterEnqueueFrame_cons (hc : iter.cur = 2 :: i₀ :: i₁ :: l₀ :: l₁ :: rest) :
    msgIterEnqueueFrame H iter =
      .ok ⟨rest.drop 3, frameSize (le16 l₀ l₁).toNat, frameSize (le16 l₀ l₁).toNat⟩ := by
  have hlt := (le16 l₀ l₁).toNat_lt
  rw [msgIterEnqueueFrame, payload_access H hm .enqueue _ hc, memBlockSlice]
  show (assert (sizeT (3 + frameSize (le16 l₀ l₁).toNat) ≤ (le16 l₀ l₁).toNat) >>= _) = _
  rw [sizeT_frameSize (by omega), assert_pos (Nat.le_refl _), ok_bind]
  rfl

end Read

/-! ## Reading at a complete message -/

section Encode

variable (H : Host) {iter : MsgIter} {id : UInt16} {payload rest : Bytes}

theorem le16_id (id : UInt16) : le16 (memUint16ByteLow id.toNat) (memUint16ByteHigh id.toNat) = id := by
  rw [le16_bytes, UInt16.ofNat_toNat]

theorem le16_length (hp : payload.length ≤ 65535) :
    (le16 (memUint16ByteLow payload.length) (memUint16ByteHigh payload.length)).toNat = payload.length := by
  rw [le16_bytes, UInt16.toNat_ofNat']
  omega

variable (hm : msgIterHasMsg iter = true)

include hm

theorem msgIterType_encode (type : MsgType) (hc : iter.cur = encode type.toByte id payload ++ rest) :
    msgIterType iter = .ok type :=
  msgIterType_cons hm type hc

theorem msgIterMsgId_encode {tb : UInt8} (hc : iter.cur = encode tb id payload ++ rest) :
    msgIterMsgId H iter = .ok id := by
  rw [msgIterMsgId_cons H hm hc, le16_id]

theorem msgIterNext_encode {tb : UInt8} (hp : payload.length ≤ 65535)
    (hc : iter.cur = encode tb id payload ++ rest) :
    msgIterNext H iter = .ok { iter with msgBufStart := iter.msgBufStart + (5 + payload.length) } := by
  rw [msgIterNext_cons H hm hc, le16_length hp]

theorem msgIterBorrowFrameLength_encode {fl bl : UInt8} (hc : iter.cur = encode 0 id (fl :: bl :: payload) ++ rest) :
    msgIterBorrowFrameLength H iter = .ok fl :=
  payload_access H hm .borrow (fun payload => readByte payload.data 0) hc

theorem msgIterBorrowBufferLength_encode {fl bl : UInt8}
    (hc : iter.cur = encode 0 id (fl :: bl :: payload) ++ rest) : msgIterBorrowBufferLength H iter = .ok bl :=
  payload_access H hm .borrow (fun payload => readByte payload.data 1) hc

theorem msgIterEnqueueFrameIdx_encode {idx : UInt8} (hc : iter.cur = encode 2 id (idx :: payload) ++ rest) :
    msgIterEnqueueFrameIdx H iter = .ok idx :=
  payload_access H hm .enqueue (fun payload => readByte payload.data 0) hc

/-- The frame of a complete ENQUEUE message of at least three payload bytes is the payload behind them. -/
theorem msgIterEnqueueFrame_encode (hp : payload.length ≤ 65535) (h3 : 3 ≤ payload.length)
    (hc : iter.cur = encode 2 id payload ++ rest) :
    msgIterEnqueueFrame H iter = .ok ⟨payload.drop 3 ++ rest, payload.length - 3, payload.length - 3⟩ := by
  have hc' : iter.cur = 2 :: _ :: _ :: _ :: _ :: (payload ++ rest) := hc
  rw [msgIterEnqueueFrame_cons H hm hc', le16_length hp, frameSize_of_le h3 hp,
    List.drop_append_of_le_length h3]

theorem msgIterFailOffendingMsgId_encode {off : UInt16} {code : UInt8}
    (hc : iter.cur = encode 255 id (failPayload off code) ++ rest) :
    msgIterFailOffendingMsgId H iter = .ok off := by
  have h := payload_access H hm .fail
    (fun payload => loadUint16 H payload.data >>= fun x => pure (memUint16leFrom H x)) hc
  refine h.trans ?_
  show Except.ok (memUint16leFrom H (nativeUint16 H _ _)) = _
  rw [memUint16leFrom_native, le16_id]

theorem msgIterFailErrorCode_encode {b₀ b₁ code : UInt8}
    (hc : iter.cur = encode 255 id (b₀ :: b₁ :: code :: payload) ++ rest) :
    msgIterFailErrorCode H iter = .ok code :=
  payload_access H hm .fail (fun payload => readByte payload.data 2) hc

end Encode

end Atolla

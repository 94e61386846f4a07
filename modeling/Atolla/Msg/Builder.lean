import Atolla.Mem.Block

/-!
# Building messages (`msg/builder.c`)

The builder writes every message into the one block it owns. `build_spec`: whatever that block held before, it then
holds the encoding (`encode`) of the message just built, under the next message id.
-/

set_option autoImplicit false

namespace Atolla

open Loop

/-- `MsgType`. -/
inductive MsgType where
  | borrow
  | lent
  | enqueue
  | fail
  deriving DecidableEq, Repr

/-- The value of a `MSG_TYPE_*` constant. -/
def MsgType.toByte : MsgType → UInt8
  | .borrow => 0
  | .lent => 1
  | .enqueue => 2
  | .fail => 255

/-- `MsgBuilder`. -/
structure MsgBuilder where
  msgBuf : MemBlock
  nextMsgId : UInt16

/-- `header_len`. -/
def headerLen : Nat := 1 + 2 + 2

/-- `max_payload_len`. -/
def maxPayloadLen : Nat := 65535

/-- `initial_block_capacity`. -/
def initialBlockCapacity : Nat := 32

/-- `set_uint8`. -/
def setUint8 (block : MemBlock) (byteOffset : Nat) (value : UInt8) : Run MemBlock := do
  assert (sizeT (byteOffset + 1) ≤ block.size)
  let data ← writeBytes block.data byteOffset [value]
  return { block with data := data }

/-- `set_uint16`. -/
def setUint16 (block : MemBlock) (byteOffset : Nat) (value : UInt16) : Run MemBlock := do
  assert (sizeT (byteOffset + 2) ≤ block.size)
  let data ← writeBytes block.data byteOffset [memUint16ByteLow value.toNat]
  let data ← writeBytes data (byteOffset + 1) [memUint16ByteHigh value.toNat]
  return { block with data := data }

/-- `set_data`. -/
def setData (block : MemBlock) (byteOffset : Nat) (data : Bytes) (dataLen : Nat) : Run MemBlock := do
  assert (sizeT (byteOffset + 2 + dataLen) ≤ block.size)
  let mem ← writeBytes block.data byteOffset [memUint16ByteLow dataLen]
  let mem ← writeBytes mem (byteOffset + 1) [memUint16ByteHigh dataLen]
  if 0 < dataLen then do
    let src ← readBytes data dataLen
    let mem ← writeBytes mem (byteOffset + 2) src
    return { block with data := mem }
  else
    return { block with data := mem }

/-- `build`: the message is in `msgBuf` of the builder it returns. -/
def build (H : Host) (builder : MsgBuilder) (type : MsgType) (payload : Bytes) (payloadLen : Nat) :
    Run MsgBuilder := do
  assert (payloadLen ≤ maxPayloadLen)
  let msgLen := headerLen + payloadLen
  let block := memBlockResize H builder.msgBuf msgLen
  let block ← setUint8 block 0 type.toByte
  let block ← setUint16 block 1 builder.nextMsgId
  let block ← setData block 3 payload payloadLen
  return { msgBuf := block, nextMsgId := builder.nextMsgId + 1 }

/-- `msg_builder_init`. -/
def msgBuilderInit (H : Host) : MsgBuilder := ⟨memBlockAlloc H initialBlockCapacity, 0⟩

/-- `msg_builder_borrow`. -/
def msgBuilderBorrow (H : Host) (builder : MsgBuilder) (frameLength bufferLength : UInt8) : Run MsgBuilder :=
  build H builder .borrow [frameLength, bufferLength] 2

/-- `msg_builder_lent`. -/
def msgBuilderLent (H : Host) (builder : MsgBuilder) : Run MsgBuilder := build H builder .lent [] 0

/-- `msg_builder_enqueue`. -/
def msgBuilderEnqueue (H : Host) (builder : MsgBuilder) (frameIdx : UInt8) (frame : Bytes) (frameLen : Nat) :
    Run MsgBuilder := do
  let src ← readBytes frame frameLen
  let payload := [frameIdx, memUint16ByteLow frameLen, memUint16ByteHigh frameLen] ++ src
  build H builder .enqueue payload (1 + 2 + frameLen)

/-- `msg_builder_fail`. -/
def msgBuilderFail (H : Host) (builder : MsgBuilder) (causingMessageId : UInt16) (errorCode : UInt8) :
    Run MsgBuilder :=
  build H builder .fail
    [memUint16ByteLow causingMessageId.toNat, memUint16ByteHigh causingMessageId.toNat, errorCode] 3

/-! ## The wire format -/

/-- The bytes of a message. -/
def encode (typeByte : UInt8) (id : UInt16) (payload : Bytes) : Bytes :=
  [typeByte, memUint16ByteLow id.toNat, memUint16ByteHigh id.toNat, memUint16ByteLow payload.length,
    memUint16ByteHigh payload.length] ++ payload

@[simp] theorem length_encode (typeByte : UInt8) (id : UInt16) (payload : Bytes) :
    (encode typeByte id payload).length = 5 + payload.length := by
  simp [encode]; omega

/-- The block of the builder holds a message of the given bytes, built under the given id. -/
structure MsgBuilder.Holds (builder : MsgBuilder) (id : UInt16) (bytes : Bytes) : Prop where
  owned : builder.msgBuf.Owned
  bytes : builder.msgBuf.bytes = bytes
  valid : builder.msgBuf.Valid
  next : builder.nextMsgId = id + 1

/-- Writing behind a known beginning extends it. -/
theorem writeBytes_extend {p pre : Bytes} (x : Bytes) (off : Nat) (ho : pre.length = off) (hp : p.take off = pre)
    (h : off + x.length ≤ p.length) :
    ∃ q, writeBytes p off x = .ok q ∧ q.length = p.length ∧ q.take (off + x.length) = pre ++ x := by
  refine ⟨_, writeBytes_of_le h, by simp; omega, ?_⟩
  rw [hp, List.take_left']
  simp [ho]

/-- **What `build` leaves in the block**, whatever was in it. -/
theorem build_spec (H : Host) {builder : MsgBuilder} (hb : builder.msgBuf.Owned) (type : MsgType) (payload : Bytes)
    (hp : payload.length ≤ 65535) :
    ∃ builder', build H builder type payload payload.length = .ok builder' ∧
      builder'.Holds builder.nextMsgId (encode type.toByte builder.nextMsgId payload) := by
  set block := memBlockResize H builder.msgBuf (headerLen + payload.length) with hblock
  have hsize : block.size = 5 + payload.length := rfl
  have hfits : 5 + payload.length ≤ block.data.length := memBlockResize_fits H hb _
  have hown : block.data.length = block.capacity := memBlockResize_owned H hb _
  set low := memUint16ByteLow builder.nextMsgId.toNat
  set high := memUint16ByteHigh builder.nextMsgId.toNat
  set plow := memUint16ByteLow payload.length
  set phigh := memUint16ByteHigh payload.length
  -- five header bytes, one after the other
  obtain ⟨m₁, e₁, l₁, t₁⟩ := writeBytes_extend (p := block.data) [type.toByte] 0 rfl rfl (by simp; omega)
  obtain ⟨m₂, e₂, l₂, t₂⟩ := writeBytes_extend [low] 1 (by rfl) t₁ (by simp; omega)
  obtain ⟨m₃, e₃, l₃, t₃⟩ := writeBytes_extend [high] 2 (by rfl) t₂ (by simp; omega)
  obtain ⟨m₄, e₄, l₄, t₄⟩ := writeBytes_extend [plow] 3 (by rfl) t₃ (by simp; omega)
  obtain ⟨m₅, e₅, l₅, t₅⟩ := writeBytes_extend [phigh] 4 (by rfl) t₄ (by simp; omega)
  obtain ⟨m₆, e₆, l₆, t₆⟩ := writeBytes_extend payload 5 (by rfl) t₅ (by omega)
  have h8 : setUint8 block 0 type.toByte = .ok { block with data := m₁ } := by
    rw [setUint8, sizeT_of_lt (by omega), assert_pos (by omega), ok_bind, e₁]
    rfl
  have h16 : setUint16 { block with data := m₁ } 1 builder.nextMsgId = .ok { block with data := m₃ } := by
    rw [setUint16, sizeT_of_lt (by omega), assert_pos (by simp only; omega), ok_bind, e₂, ok_bind, e₃]
    rfl
  have hd : setData { block with data := m₃ } 3 payload payload.length = .ok { block with data := m₆ } := by
    rw [setData, sizeT_of_lt (by omega), assert_pos (by simp only; omega), ok_bind, e₄, ok_bind, e₅, ok_bind]
    split
    · rw [readBytes_of_le (Nat.le_refl _), List.take_length, ok_bind, e₆]
      rfl
    · -- an empty payload is not copied
      have hnil : payload = [] := List.length_eq_zero_iff.mp (by omega)
      have : m₆ = m₅ := by
        rw [hnil, writeBytes_of_le (by simp; omega)] at e₆
        simpa using e₆.symm
      rw [this]; rfl
  refine ⟨⟨{ block with data := m₆ }, builder.nextMsgId + 1⟩, ?_, ?_, ?_, ?_, rfl⟩
  · rw [build, assert_pos (show payload.length ≤ maxPayloadLen from hp), ok_bind]
    simp only [← hblock, h8, h16, hd, ok_bind]
    rfl
  · show m₆.length = block.capacity
    omega
  · show m₆.take (5 + payload.length) = _
    rw [t₆]; rfl
  · show 5 + payload.length ≤ m₆.length
    omega

theorem msgBuilderBorrow_spec (H : Host) {builder : MsgBuilder} (hb : builder.msgBuf.Owned) (fl bl : UInt8) :
    ∃ builder', msgBuilderBorrow H builder fl bl = .ok builder' ∧
      builder'.Holds builder.nextMsgId (encode 0 builder.nextMsgId [fl, bl]) :=
  build_spec H hb .borrow [fl, bl] (by simp)

theorem msgBuilderLent_spec (H : Host) {builder : MsgBuilder} (hb : builder.msgBuf.Owned) :
    ∃ builder', msgBuilderLent H builder = .ok builder' ∧
      builder'.Holds builder.nextMsgId (encode 1 builder.nextMsgId []) :=
  build_spec H hb .lent [] (by simp)

/-- The payload of an ENQUEUE message. -/
def enqueuePayload (frameIdx : UInt8) (frame : Bytes) : Bytes :=
  [frameIdx, memUint16ByteLow frame.length, memUint16ByteHigh frame.length] ++ frame

@[simp] theorem length_enqueuePayload (frameIdx : UInt8) (frame : Bytes) :
    (enqueuePayload frameIdx frame).length = 3 + frame.length := by
  simp [enqueuePayload]; omega

theorem msgBuilderEnqueue_spec (H : Host) {builder : MsgBuilder} (hb : builder.msgBuf.Owned) (idx : UInt8)
    {frame : Bytes} (hf : frame.length ≤ 65532) :
    ∃ builder', msgBuilderEnqueue H builder idx frame frame.length = .ok builder' ∧
      builder'.Holds builder.nextMsgId (encode 2 builder.nextMsgId (enqueuePayload idx frame)) := by
  have h := build_spec H hb .enqueue (enqueuePayload idx frame) (by simp; omega)
  rw [length_enqueuePayload] at h
  rw [msgBuilderEnqueue, readBytes_of_le (Nat.le_refl _), List.take_length, ok_bind]
  exact h

/-- The payload of a FAIL message. -/
def failPayload (causingMessageId : UInt16) (errorCode : UInt8) : Bytes :=
  [memUint16ByteLow causingMessageId.toNat, memUint16ByteHigh causingMessageId.toNat, errorCode]

theorem msgBuilderFail_spec (H : Host) {builder : MsgBuilder} (hb : builder.msgBuf.Owned) (id : UInt16)
    (code : UInt8) :
    ∃ builder', msgBuilderFail H builder id code = .ok builder' ∧
      builder'.Holds builder.nextMsgId (encode 255 builder.nextMsgId (failPayload id code)) :=
  build_spec H hb .fail (failPayload id code) (by simp [failPayload])

end Atolla

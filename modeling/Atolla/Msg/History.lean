import Atolla.Msg.RoundTrip

/-!
# A builder with a past

The builder uses one block for all its messages, lets it grow without copying and never clears it. All the same a
message depends on the arguments of its own call and on the number of calls before it, and on nothing else of them
(`msgBlocks_exact`).

The arguments the header documents are three bytes more than fit: the index and the length of a frame share the 16 bit
payload with it, and `build` asserts that they do (`msgBuilderEnqueue_recovers_iff`).
-/

set_option autoImplicit false

namespace Atolla

open Loop

/-- The blocks that one call after the other returns, each as it is before the next call. -/
def msgBlocks (H : Host) : MsgBuilder → List Msg → Run (List MemBlock)
  | _, [] => .ok []
  | builder, m :: ms => do
    let builder ← msgBuilderMsg H builder m
    let blocks ← msgBlocks H builder ms
    return builder.msgBuf :: blocks

/-- The block is the message of the given arguments and id, and nothing behind it. -/
structure MemBlock.Encodes (block : MemBlock) (m : Msg) (id : UInt16) : Prop where
  size : block.size = 5 + m.payload.length
  bytes : block.bytes = encode m.type.toByte id m.payload
  capacity : block.size ≤ block.capacity
  owned : block.Owned

/-- A call of the builder, whatever its block held before. -/
theorem msgBuilderMsg_encodes (H : Host) {builder : MsgBuilder} (hb : builder.msgBuf.Owned) {m : Msg} (h : m.Fits) :
    ∃ builder', msgBuilderMsg H builder m = .ok builder' ∧ builder'.msgBuf.Encodes m builder.nextMsgId ∧
      builder'.nextMsgId = builder.nextMsgId + 1 := by
  obtain ⟨builder', e, hh⟩ := msgBuilderMsg_spec H hb h
  have hsize : builder'.msgBuf.size = 5 + m.payload.length := by
    rw [← MemBlock.length_bytes hh.valid, hh.bytes, WireMsg.length_bytes]
    rfl
  have hcap : builder'.msgBuf.size ≤ builder'.msgBuf.capacity := by
    rw [← hh.owned]
    exact hh.valid
  exact ⟨builder', e, ⟨hsize, hh.bytes, hcap, hh.owned⟩, hh.next⟩

/-- All calls from some builder on. -/
theorem msgBlocks_encodes (H : Host) (ms : List Msg) (h : ∀ m ∈ ms, m.Fits) (builder : MsgBuilder)
    (hb : builder.msgBuf.Owned) :
    ∃ blocks, msgBlocks H builder ms = .ok blocks ∧ blocks.length = ms.length ∧
      ∀ (i : Nat) (m : Msg), ms[i]? = some m →
        ∃ block, blocks[i]? = some block ∧ block.Encodes m (builder.nextMsgId + UInt16.ofNat i) := by
  induction ms generalizing builder with
  | nil => exact ⟨[], rfl, rfl, by simp⟩
  | cons m ms ih =>
    obtain ⟨builder', e, henc, hnext⟩ := msgBuilderMsg_encodes H hb (h m List.mem_cons_self)
    obtain ⟨blocks, eblocks, hlen, hall⟩ := ih (fun x hx => h x (List.mem_cons_of_mem _ hx)) builder' henc.owned
    refine ⟨builder'.msgBuf :: blocks, ?_, by simp [hlen], ?_⟩
    · rw [msgBlocks, e, ok_bind, eblocks]
      rfl
    · intro i x hx
      cases i with
      | zero =>
        obtain rfl : m = x := by simpa using hx
        exact ⟨builder'.msgBuf, rfl, by simpa using henc⟩
      | succ i =>
        obtain ⟨block, hblock, hx⟩ := hall i x (by simpa using hx)
        have hid : builder'.nextMsgId + UInt16.ofNat i = builder.nextMsgId + UInt16.ofNat (i + 1) := by
          rw [hnext, UInt16.ofNat_add, UInt16.add_assoc, UInt16.add_comm 1]
          rfl
        rw [hid] at hx
        exact ⟨block, by simpa using hblock, hx⟩

/-- **A message shows nothing of those before it**: every call returns, the `i`-th with the encoding of its own
arguments under the id `i` modulo `2 ^ 16`, of exactly that size, inside of the capacity of the block. -/
theorem msgBlocks_exact (H : Host) (ms : List Msg) (h : ∀ m ∈ ms, m.Fits) :
    ∃ blocks, msgBlocks H (msgBuilderInit H) ms = .ok blocks ∧ blocks.length = ms.length ∧
      ∀ (i : Nat) (m : Msg), ms[i]? = some m →
        ∃ block, blocks[i]? = some block ∧ block.size = 5 + m.payload.length ∧
          block.bytes = encode m.type.toByte (UInt16.ofNat i) m.payload ∧ block.size ≤ block.capacity := by
  obtain ⟨blocks, e, hlen, hall⟩ := msgBlocks_encodes H ms h (msgBuilderInit H) (memBlockAlloc_owned H _)
  refine ⟨blocks, e, hlen, fun i m hm => ?_⟩
  obtain ⟨block, hblock, henc⟩ := hall i m hm
  have hid : (msgBuilderInit H).nextMsgId + UInt16.ofNat i = UInt16.ofNat i := by simp [msgBuilderInit]
  rw [hid] at henc
  exact ⟨block, hblock, henc.size, henc.bytes, henc.capacity⟩

/-- A long frame, then short messages in the same block. -/
theorem msgBlocks_exact_example :
    ∃ blocks, msgBlocks exampleHost (msgBuilderInit exampleHost)
        [.enqueue 7 (List.replicate 40 9), .lent, .borrow 17 50, .fail 2 4] = .ok blocks ∧ blocks.length = 4 ∧
      ∀ (i : Nat) (m : Msg), [Msg.enqueue 7 (List.replicate 40 9), .lent, .borrow 17 50, .fail 2 4][i]? = some m →
        ∃ block, blocks[i]? = some block ∧ block.size = 5 + m.payload.length ∧
          block.bytes = encode m.type.toByte (UInt16.ofNat i) m.payload ∧ block.size ≤ block.capacity :=
  msgBlocks_exact exampleHost _ (by simp [Msg.Fits])

/-! ## The frames that fit -/

/-- A frame whose index and length do not fit into the payload with it. -/
theorem msgBuilderEnqueue_long (H : Host) (builder : MsgBuilder) (idx : UInt8) {frame : Bytes}
    (hf : 65532 < frame.length) : msgBuilderEnqueue H builder idx frame frame.length = .error .assertion := by
  have hlong : ¬1 + 2 + frame.length ≤ maxPayloadLen := by
    unfold maxPayloadLen
    omega
  rw [msgBuilderEnqueue, readBytes_of_le (Nat.le_refl _), ok_bind, build, assert_neg hlong]
  rfl

/-- Every call that returns was given a message that fits. -/
theorem fits_of_msgBuilderMsg (H : Host) {builder builder' : MsgBuilder} {m : Msg}
    (e : msgBuilderMsg H builder m = .ok builder') : m.Fits := by
  cases m with
  | enqueue idx frame =>
    by_contra hf
    rw [msgBuilderMsg, msgBuilderEnqueue_long H builder idx (Nat.lt_of_not_le hf)] at e
    cases e
  | borrow | lent | fail => trivial

/-- The builder owns its block after any calls. -/
theorem msgBuilder_owned (H : Host) {ms : List Msg} {builder builder' : MsgBuilder} (hb : builder.msgBuf.Owned)
    (e : ms.foldlM (msgBuilderMsg H) builder = .ok builder') : builder'.msgBuf.Owned := by
  refine foldlM_inv (fun b : MsgBuilder => b.msgBuf.Owned) ms ?_ builder builder' hb e
  intro m _ b b' hb eb
  obtain ⟨b₁, eb₁, henc, -⟩ := msgBuilderMsg_encodes H hb (fits_of_msgBuilderMsg H eb)
  obtain rfl : b₁ = b' := Except.ok.inj (eb₁.symm.trans eb)
  exact henc.owned

/-- The iterator finds the index and the frame in the block. -/
def MemBlock.Recovers (H : Host) (block : MemBlock) (idx : UInt8) (frame : Bytes) : Prop :=
  msgIterEnqueueFrameIdx H (msgIterMake block.data block.size) = .ok idx ∧
    ∃ f, msgIterEnqueueFrame H (msgIterMake block.data block.size) = .ok f ∧ f.Valid ∧ f.bytes = frame

theorem MsgBuilder.Holds.recovers (H : Host) {builder : MsgBuilder} {id : UInt16} {idx : UInt8} {frame : Bytes}
    (h : builder.Holds id (encode 2 id (enqueuePayload idx frame))) (hf : frame.length ≤ 65532) :
    builder.msgBuf.Recovers H idx frame := by
  obtain ⟨rest, hdata⟩ : ∃ rest, builder.msgBuf.data = encode 2 id (enqueuePayload idx frame) ++ rest := by
    rw [← h.bytes]
    exact ⟨_, (List.take_append_drop _ _).symm⟩
  have hsize : builder.msgBuf.size = 8 + frame.length := by
    rw [← MemBlock.length_bytes h.valid, h.bytes, length_encode, length_enqueuePayload]
    omega
  have hm : msgIterHasMsg (msgIterMake builder.msgBuf.data builder.msgBuf.size) = true := by
    rw [hsize]
    exact decide_eq_true (show 0 < 0 + (8 + frame.length) by omega)
  have hp : (enqueuePayload idx frame).length ≤ 65535 := by
    rw [length_enqueuePayload]
    omega
  refine ⟨msgIterEnqueueFrameIdx_encode H hm hdata, _, msgIterEnqueueFrame_encode H hm hp (by simp) hdata, ?_, ?_⟩
  · simp [MemBlock.Valid, enqueuePayload]
  · simp [MemBlock.bytes, enqueuePayload]

/-- **The frames that fit**: after any calls, the message gives back its index and frame exactly when the frame leaves
three bytes of the payload; 65535 bytes are documented. -/
theorem msgBuilderEnqueue_recovers_iff (H : Host) {ms : List Msg} {builder : MsgBuilder}
    (hb : ms.foldlM (msgBuilderMsg H) (msgBuilderInit H) = .ok builder) (idx : UInt8) (frame : Bytes) :
    (∃ builder', msgBuilderEnqueue H builder idx frame frame.length = .ok builder' ∧
      builder'.msgBuf.Recovers H idx frame) ↔ frame.length ≤ 65532 := by
  constructor
  · rintro ⟨builder', e, -⟩
    exact fits_of_msgBuilderMsg H (m := .enqueue idx frame) e
  · intro h
    obtain ⟨builder', e, hh⟩ := msgBuilderEnqueue_spec H (msgBuilder_owned H (memBlockAlloc_owned H _) hb) idx h
    exact ⟨builder', e, hh.recovers H h⟩

/-- Two colors, after a LENT. -/
theorem msgBuilderEnqueue_recovers_iff_example :
    ∃ builder, [Msg.lent].foldlM (msgBuilderMsg exampleHost) (msgBuilderInit exampleHost) = .ok builder ∧
      ((∃ builder', msgBuilderEnqueue exampleHost builder 3 [1, 2, 3, 4, 5, 6] 6 = .ok builder' ∧
        builder'.msgBuf.Recovers exampleHost 3 [1, 2, 3, 4, 5, 6]) ↔ 6 ≤ 65532) :=
  have h : [Msg.lent].foldlM (msgBuilderMsg exampleHost) (msgBuilderInit exampleHost) = .ok _ := rfl
  ⟨_, h, msgBuilderEnqueue_recovers_iff exampleHost h 3 [1, 2, 3, 4, 5, 6]⟩

/-- One byte more than fits, of the length the header documents: the assertion of `build` fails. -/
theorem msgBuilderEnqueue_documented_false :
    (List.replicate 65533 (0 : UInt8)).length ≤ 65535 ∧
      msgBuilderEnqueue exampleHost (msgBuilderInit exampleHost) 0 (List.replicate 65533 0)
        (List.replicate 65533 (0 : UInt8)).length = .error .assertion := by
  refine ⟨by rw [List.length_replicate]; omega, ?_⟩
  apply msgBuilderEnqueue_long
  rw [List.length_replicate]
  omega

end Atolla

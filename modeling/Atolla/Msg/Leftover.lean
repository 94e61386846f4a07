import Atolla.Msg.Datagram
import Mathlib.Data.List.Infix

/-!
# Datagrams and the memory behind them

Nothing but the comparison of two addresses keeps the iterator inside of a datagram, so a truncated message is read on
into whatever the memory holds. To say what a datagram alone decides, the loop is also run on a memory that ends with
it:

- unless that run stops at an access outside of the datagram, a longer memory makes no difference (`msgLoop_longer`);
- it stops so iff a round does, at one of the messages it comes to (`msgLoop_outOfBounds_iff`).
-/

set_option autoImplicit false

namespace Atolla

open Loop

/-- The same iterator, in a memory that may go on behind that of the first. -/
structure MsgIter.Longer (iter iter' : MsgIter) : Prop where
  msgBuf : iter.msgBuf <+: iter'.msgBuf
  start : iter'.msgBufStart = iter.msgBufStart
  stop : iter'.msgBufEnd = iter.msgBufEnd

/-- The same block, in such a memory. -/
structure MemBlock.Longer (block block' : MemBlock) : Prop where
  data : block.data <+: block'.data
  size : block'.size = block.size
  capacity : block'.capacity = block.capacity

theorem MsgIter.Longer.cur {iter iter' : MsgIter} (h : iter.Longer iter') : iter.cur <+: iter'.cur := by
  rw [MsgIter.cur, MsgIter.cur, h.start]
  exact h.msgBuf.drop _

theorem MsgIter.Longer.hasMsg {iter iter' : MsgIter} (h : iter.Longer iter') :
    msgIterHasMsg iter' = msgIterHasMsg iter := by
  rw [msgIterHasMsg, msgIterHasMsg, h.start, h.stop]

/-! ## Reading from a longer memory -/

section Read

variable {p q : Bytes}

theorem readByte_longer (h : p <+: q) (i : Nat) : Approx .outOfBounds Eq (readByte p i) (readByte q i) := by
  obtain ⟨t, rfl⟩ := h
  by_cases hi : i < p.length
  · right
    rw [readByte_of_lt hi, readByte_of_lt (by rw [List.length_append]; omega), List.getElem_append_left hi]
    exact agree_ok.mpr rfl
  · left
    exact readByte_of_le (by omega)

theorem readBytes_longer (h : p <+: q) (n : Nat) : Approx .outOfBounds Eq (readBytes p n) (readBytes q n) := by
  obtain ⟨t, rfl⟩ := h
  by_cases hn : n ≤ p.length
  · right
    rw [readBytes_of_le hn, readBytes_of_le (by rw [List.length_append]; omega), List.take_append_of_le_length hn]
    exact agree_ok.mpr rfl
  · left
    exact readBytes_of_lt (by omega)

theorem loadUint16_longer (H : Host) (h : p <+: q) : Approx .outOfBounds Eq (loadUint16 H p) (loadUint16 H q) := by
  refine (readByte_longer h 0).bind ?_
  rintro b₀ _ rfl
  refine (readByte_longer h 1).bind ?_
  rintro b₁ _ rfl
  exact Approx.refl _ fun _ _ => rfl

end Read

section Access

variable (H : Host) {iter iter' : MsgIter} (h : iter.Longer iter')

include h

/-- The test for a message is the same. -/
theorem assert_hasMsg_longer {β γ : Type} {S : β → γ → Prop} {f : Unit → Run β} {g : Unit → Run γ}
    (hfg : Approx .outOfBounds S (f ()) (g ())) :
    Approx .outOfBounds S (assert (msgIterHasMsg iter = true) >>= f) (assert (msgIterHasMsg iter' = true) >>= g) := by
  rw [h.hasMsg]
  exact (Approx.refl (R := Eq) _ fun _ _ => rfl).bind fun _ _ _ => hfg

theorem msgIterType_longer : Approx .outOfBounds Eq (msgIterType iter) (msgIterType iter') := by
  refine assert_hasMsg_longer h ((readByte_longer h.cur 0).bind ?_)
  rintro tb _ rfl
  exact Approx.refl _ fun _ _ => rfl

theorem msgIterMsgId_longer : Approx .outOfBounds Eq (msgIterMsgId H iter) (msgIterMsgId H iter') := by
  refine assert_hasMsg_longer h ((loadUint16_longer H (h.cur.drop 1)).bind ?_)
  rintro id _ rfl
  exact Approx.refl _ fun _ _ => rfl

theorem msgIterPayloadLength_longer :
    Approx .outOfBounds Eq (msgIterPayloadLength H iter) (msgIterPayloadLength H iter') := by
  refine assert_hasMsg_longer h ((loadUint16_longer H (h.cur.drop 3)).bind ?_)
  rintro len _ rfl
  exact Approx.refl _ fun _ _ => rfl

theorem msgIterNext_longer : Approx .outOfBounds MsgIter.Longer (msgIterNext H iter) (msgIterNext H iter') := by
  refine assert_hasMsg_longer h ((msgIterPayloadLength_longer H h).bind ?_)
  rintro len _ rfl
  exact .inr ⟨h.msgBuf, by simp only [h.start], h.stop⟩

theorem msgIterPayload_longer :
    Approx .outOfBounds MemBlock.Longer (msgIterPayload H iter) (msgIterPayload H iter') := by
  refine assert_hasMsg_longer h ((loadUint16_longer H (h.cur.drop 3)).bind ?_)
  rintro len _ rfl
  exact .inr ⟨h.cur.drop 5, rfl, rfl⟩

/-- The accessors of one type of message. -/
theorem payload_access_longer {α β : Type} {R : α → β → Prop} (type : MsgType) {f : MemBlock → Run α}
    {g : MemBlock → Run β} (hfg : ∀ block block' : MemBlock, block.Longer block' →
      Approx .outOfBounds R (f block) (g block')) :
    Approx .outOfBounds R
      (do
        assert ((← msgIterType iter) = type)
        let payload ← msgIterPayload H iter
        f payload)
      (do
        assert ((← msgIterType iter') = type)
        let payload ← msgIterPayload H iter'
        g payload) := by
  refine (msgIterType_longer h).bind ?_
  rintro t _ rfl
  refine (Approx.refl (R := Eq) _ fun _ _ => rfl).bind fun _ _ _ => ?_
  exact (msgIterPayload_longer H h).bind hfg

theorem msgIterBorrowFrameLength_longer :
    Approx .outOfBounds Eq (msgIterBorrowFrameLength H iter) (msgIterBorrowFrameLength H iter') :=
  payload_access_longer H h .borrow fun _ _ hb => readByte_longer hb.data 0

theorem msgIterBorrowBufferLength_longer :
    Approx .outOfBounds Eq (msgIterBorrowBufferLength H iter) (msgIterBorrowBufferLength H iter') :=
  payload_access_longer H h .borrow fun _ _ hb => readByte_longer hb.data 1

theorem msgIterEnqueueFrameIdx_longer :
    Approx .outOfBounds Eq (msgIterEnqueueFrameIdx H iter) (msgIterEnqueueFrameIdx H iter') :=
  payload_access_longer H h .enqueue fun _ _ hb => readByte_longer hb.data 0

theorem msgIterEnqueueFrame_longer :
    Approx .outOfBounds MemBlock.Longer (msgIterEnqueueFrame H iter) (msgIterEnqueueFrame H iter') := by
  refine payload_access_longer H h .enqueue fun block block' hb => ?_
  rw [memBlockSlice, memBlockSlice, hb.size]
  refine (Approx.refl (R := Eq) _ fun _ _ => rfl).bind fun _ _ _ => ?_
  exact .inr ⟨hb.data.drop 3, rfl, rfl⟩

theorem msgIterFailErrorCode_longer :
    Approx .outOfBounds Eq (msgIterFailErrorCode H iter) (msgIterFailErrorCode H iter') :=
  payload_access_longer H h .fail fun _ _ hb => readByte_longer hb.data 2

end Access

/-! ## Messages that are cut off -/

section Short

variable (H : Host) {iter : MsgIter} (hm : msgIterHasMsg iter = true)

include hm

theorem msgIterType_unknown {tb : UInt8} {rest : Bytes} (hc : iter.cur = tb :: rest)
    (hu : ¬((0 ≤ tb.toNat ∧ tb.toNat ≤ 2) ∨ tb = 255)) : msgIterType iter = .error .assertion := by
  rw [msgIterType, assert_pos hm, ok_bind, hc]
  show (assert _ >>= fun _ => pure (MsgType.ofByte tb)) = _
  rw [assert_neg hu]
  rfl

/-- The id is at bytes 1 and 2. -/
theorem msgIterMsgId_short (h : iter.cur.length < 3) : msgIterMsgId H iter = .error .outOfBounds := by
  rw [msgIterMsgId, assert_pos hm, ok_bind, loadUint16_short H (by rw [List.length_drop]; omega)]
  rfl

/-- The length of the payload is at bytes 3 and 4. -/
theorem msgIterNext_short (h : iter.cur.length < 5) : msgIterNext H iter = .error .outOfBounds := by
  rw [msgIterNext, assert_pos hm, ok_bind, msgIterPayloadLength, assert_pos hm, ok_bind,
    loadUint16_short H (by rw [List.length_drop]; omega)]
  rfl

theorem msgIterMsgId_ok (h : 3 ≤ iter.cur.length) : ∃ id, msgIterMsgId H iter = .ok id := by
  match hc : iter.cur, h with
  | _ :: _ :: _ :: _, _ => exact ⟨_, msgIterMsgId_cons H hm hc⟩

theorem msgIterNext_ok (h : 5 ≤ iter.cur.length) : ∃ iter', msgIterNext H iter = .ok iter' := by
  match hc : iter.cur, h with
  | _ :: _ :: _ :: _ :: _ :: _, _ => exact ⟨_, msgIterNext_cons H hm hc⟩

theorem payload_access_short {α : Type} (type : MsgType) (f : MemBlock → Run α) {rest : Bytes}
    (hc : iter.cur = type.toByte :: rest) (h : iter.cur.length < 5) :
    (do
      assert ((← msgIterType iter) = type)
      let payload ← msgIterPayload H iter
      f payload) = .error .outOfBounds := by
  rw [msgIterType_cons hm type hc, ok_bind, assert_pos rfl, ok_bind, msgIterPayload, assert_pos hm, ok_bind,
    loadUint16_short H (by rw [List.length_drop]; omega)]
  rfl

end Short

/-- What follows the type of a message with a header. -/
theorem exists_header {rest : Bytes} (h : 4 ≤ rest.length) :
    ∃ i₀ i₁ l₀ l₁ tail, rest = i₀ :: i₁ :: l₀ :: l₁ :: tail ∧ rest.length = 4 + tail.length := by
  match rest, h with
  | i₀ :: i₁ :: l₀ :: l₁ :: tail, _ =>
    refine ⟨i₀, i₁, l₀, l₁, tail, rfl, ?_⟩
    simp only [List.length_cons]
    omega

/-- The bytes that `msg_iter_type` accepts. -/
theorem exists_type {tb : UInt8} (h : (0 ≤ tb.toNat ∧ tb.toNat ≤ 2) ∨ tb = 255) :
    ∃ type : MsgType, tb = type.toByte := by
  rcases h with ⟨-, h⟩ | rfl
  · have : tb.toNat = 0 ∨ tb.toNat = 1 ∨ tb.toNat = 2 := by omega
    rcases this with h | h | h
    · exact ⟨.borrow, UInt8.toNat_inj.mp h⟩
    · exact ⟨.lent, UInt8.toNat_inj.mp h⟩
    · exact ⟨.enqueue, UInt8.toNat_inj.mp h⟩
  · exact ⟨.fail, rfl⟩

theorem ne_type {tb : UInt8} (h : ¬((0 ≤ tb.toNat ∧ tb.toNat ≤ 2) ∨ tb = 255)) (type : MsgType) :
    tb ≠ type.toByte := by
  rintro rfl
  apply h
  cases type with
  | borrow => decide
  | lent => decide
  | enqueue => decide
  | fail => decide

/-! ## The loop -/

section Loop

variable {σ τ : Type} {H : Host} {body : σ → MsgIter → Run σ} {body' : τ → MsgIter → Run τ}

/-- **A longer memory makes no difference** to a loop that stays inside of the shorter one. -/
theorem msgLoop_longer (R : σ → τ → Prop)
    (hbody : ∀ s t iter iter', R s t → iter.Longer iter' → Approx .outOfBounds R (body s iter) (body' t iter'))
    (n : Nat)
    {s : σ} {t : τ} {iter iter' : MsgIter} (hR : R s t) (h : iter.Longer iter') :
    Approx .outOfBounds (fun p q : _ × MsgIter => R p.1 q.1 ∧ p.2.Longer q.2) (msgLoop H body n s iter)
      (msgLoop H body' n t iter') := by
  refine whileM_approx _ (fun p q hpq => (hpq.2.hasMsg).symm) ?_ n (s, iter) (t, iter') ⟨hR, h⟩
  rintro ⟨s, iter⟩ ⟨t, iter'⟩ ⟨hR, h⟩ -
  refine (hbody s t iter iter' hR h).bind fun s' t' hR' => ?_
  refine (msgIterNext_longer H h).bind fun i i' h' => ?_
  exact .inr ⟨hR', h'⟩

/-- Where the loop over a memory of exactly these bytes is after `k` rounds. -/
def MsgRounds (H : Host) (body : σ → MsgIter → Run σ) (s : σ) (bytes : Bytes) (k : Nat) (p : σ × MsgIter) : Prop :=
  Rounds (fun p => msgIterHasMsg p.2) (msgRound H body) (s, msgIterMake bytes bytes.length) k p

variable {s : σ} {bytes : Bytes} {k : Nat} {p q : σ × MsgIter}

/-- A round moves the iterator on, and nothing else of it. -/
theorem msgRound_ok (e : msgRound H body p = .ok q) :
    body p.1 p.2 = .ok q.1 ∧ ∃ len, q.2 = { p.2 with msgBufStart := p.2.msgBufStart + (5 + len) } := by
  obtain ⟨s', hs', e⟩ := bind_eq_ok.mp e
  obtain ⟨iter, hiter, e⟩ := bind_eq_ok.mp e
  cases e
  refine ⟨hs', ?_⟩
  obtain ⟨-, -, hiter⟩ := bind_eq_ok.mp hiter
  obtain ⟨len, -, hiter⟩ := bind_eq_ok.mp hiter
  cases hiter
  exact ⟨len.toNat, rfl⟩

/-- **A round leaves the memory** where its body does, and where the message has no complete header. -/
theorem msgRound_outOfBounds_iff (hm : msgIterHasMsg p.2 = true) :
    msgRound H body p = .error .outOfBounds ↔
      body p.1 p.2 = .error .outOfBounds ∨ (∃ s', body p.1 p.2 = .ok s') ∧ p.2.cur.length < 5 := by
  rw [msgRound, bind_eq_error]
  refine or_congr_right ⟨?_, ?_⟩
  · rintro ⟨s', hs', e⟩
    refine ⟨⟨s', hs'⟩, Nat.lt_of_not_le fun hle => ?_⟩
    obtain ⟨iter', hi⟩ := msgIterNext_ok H hm hle
    rw [hi] at e
    cases e
  · rintro ⟨⟨s', hs'⟩, hlt⟩
    exact ⟨s', hs', by rw [msgIterNext_short H hm hlt]; rfl⟩

/-- So a round uses what its body uses, and the header. -/
theorem msgRound_uses {need uses : Nat} (hm : msgIterHasMsg p.2 = true)
    (hbody : if p.2.cur.length < need then body p.1 p.2 = .error .outOfBounds else ∃ s', body p.1 p.2 = .ok s')
    (huses : uses = max need 5) : msgRound H body p = .error .outOfBounds ↔ p.2.cur.length < uses := by
  rw [msgRound_outOfBounds_iff hm, huses]
  split at hbody
  · rename_i hlt
    exact ⟨fun _ => by omega, fun _ => .inl hbody⟩
  · rename_i hge
    obtain ⟨s', e⟩ := hbody
    constructor
    · rintro (e' | ⟨-, hlt⟩)
      · rw [e] at e'
        cases e'
      · omega
    · intro hlt
      exact .inr ⟨⟨s', e⟩, by omega⟩

/-- A round that stops in its body for another reason does not leave the memory. -/
theorem msgRound_stopped (hm : msgIterHasMsg p.2 = true) (hbody : body p.1 p.2 = .error .assertion) :
    msgRound H body p ≠ .error .outOfBounds := by
  rw [Ne, msgRound_outOfBounds_iff hm, hbody]
  rintro (e | ⟨⟨s', e⟩, -⟩)
  · cases e
  · cases e

theorem MsgRounds.iter (h : MsgRounds H body s bytes k p) :
    p.2.msgBuf = bytes ∧ p.2.msgBufEnd = bytes.length ∧ k ≤ p.2.msgBufStart := by
  induction h with
  | zero => exact ⟨rfl, Nat.zero_add _, Nat.le_refl _⟩
  | succ _ _ e ih =>
    obtain ⟨-, len, hq⟩ := msgRound_ok e
    rw [hq]
    exact ⟨ih.1, ih.2.1, by simp only; omega⟩

/-- At a message the loop comes to, there is at least one byte. -/
theorem MsgRounds.cur_pos (h : MsgRounds H body s bytes k p) (hm : msgIterHasMsg p.2 = true) :
    0 < p.2.cur.length := by
  obtain ⟨hb, he, -⟩ := h.iter
  rw [msgIterHasMsg, decide_eq_true_eq, he] at hm
  rw [MsgIter.cur, List.length_drop, hb]
  omega

/-- **Outside of the datagram**: the loop stops so iff a round of it does. -/
theorem msgLoop_outOfBounds_iff :
    msgLoop H body bytes.length s (msgIterMake bytes bytes.length) = .error .outOfBounds ↔
      ∃ k p, MsgRounds H body s bytes k p ∧ msgIterHasMsg p.2 = true ∧ msgRound H body p = .error .outOfBounds := by
  constructor
  · intro e
    rcases whileM_error e with hout | ⟨k, p, hk, hm, hp⟩
    · cases hout
    · exact ⟨k, p, hk, hm, hp⟩
  · rintro ⟨k, p, hk, hm, hp⟩
    obtain ⟨-, he, hle⟩ := MsgRounds.iter hk
    have hlt : p.2.msgBufStart < bytes.length := by
      rw [msgIterHasMsg, decide_eq_true_eq, he] at hm
      exact hm
    exact whileM_fails hk (by omega) hm hp

end Loop

end Atolla

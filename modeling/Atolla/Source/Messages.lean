import Atolla.Source.Leftover
import Atolla.Source.Runs

/-!
# The source and its datagrams

`source_iterate_recv_buf` over complete messages is a fold of `sourceHandleWire` while their types are known, and stops
at an assertion at the first one of another type (`sourceIterateRecvBuf_wire`). An update that finds such a datagram, or
none, returns (`sourceReceive_brings`).
-/

set_option autoImplicit false

namespace Atolla

open Loop

/-- The type is one that `msg_iter_type` lets pass. -/
def WireMsg.Known (m : WireMsg) : Prop := (0 ≤ m.typeByte.toNat ∧ m.typeByte.toNat ≤ 2) ∨ m.typeByte = 255

instance (m : WireMsg) : Decidable m.Known := inferInstanceAs (Decidable (_ ∨ _))

/-- The message holds what the source reads of it: a FAIL its error code. -/
def WireMsg.FitsSource (m : WireMsg) : Prop := m.typeByte = 255 → 3 ≤ m.payload.length

instance (m : WireMsg) : Decidable m.FitsSource := inferInstanceAs (Decidable (_ → _))

/-- The text of the `default` branch of `source_iterate_recv_buf`. -/
def malformedMsg : String := "Malformed or unknown message type received from sink. " ++
  "This might be due to incompatible versions of the atolla protocol."

/-- The handler of a message and its offset. -/
def sourceHandleWire (clock : Nat → UInt32) (s : Source) (p : Nat × WireMsg) : Source :=
  if p.2.typeByte = 1 then sourceLent (clock p.1) s
  else if p.2.typeByte = 255 then sourceFail s (failMsg (p.2.payload.getD 2 0))
  else sourceFail s malformedMsg

section Decode

variable (H : Host) {iter : MsgIter} {m : WireMsg} {rest : Bytes}

/-- **At a complete message** the loop handles it, if its type is known. -/
theorem sourceHandleMsg_wire (hm : msgIterHasMsg iter = true) (hc : iter.cur = m.bytes ++ rest) (hf : m.FitsSource)
    (clock : Nat → UInt32) (s : Source) (o : Nat) :
    sourceHandleMsg H (clock o) s iter =
      if m.Known then .ok (sourceHandleWire clock s (o, m)) else .error .assertion := by
  obtain ⟨tb, id, payload, hp⟩ := m
  by_cases hk : (0 ≤ tb.toNat ∧ tb.toNat ≤ 2) ∨ tb = 255
  · rw [if_pos (show WireMsg.Known ⟨tb, id, payload, hp⟩ from hk)]
    obtain ⟨type, rfl⟩ := exists_type hk
    have htype := msgIterType_encode hm type hc
    unfold sourceHandleMsg
    rw [htype, ok_bind]
    cases type with
    | borrow => rfl
    | lent => rfl
    | enqueue => rfl
    | fail =>
      match payload, hp, hf rfl, hc with
      | b₀ :: b₁ :: code :: tail, hp, _, hc =>
        simp only [msgIterFailErrorCode_encode H hm hc, ok_bind]
        rfl
  · rw [if_neg (show ¬WireMsg.Known ⟨tb, id, payload, hp⟩ from hk), sourceHandleMsg, msgIterType_unknown hm hc hk]
    rfl

/-- **A datagram of complete messages** of any types. -/
theorem sourceIterateRecvBuf_wire {ms : List WireMsg} (hf : ∀ m ∈ ms, m.FitsSource) (s : Source)
    (hbuf : s.recvBuf = wire ms ++ rest) (clock : Nat → UInt32) :
    sourceIterateRecvBuf H clock s (wire ms).length =
      (withOffsets 0 ms).foldlM (fun s p =>
        if p.2.Known then .ok (sourceHandleWire clock s p) else .error .assertion) s := by
  set g : Source → Nat × WireMsg → Run Source := fun s p =>
    if p.2.Known then .ok (sourceHandleWire clock s p) else .error .assertion
  have hloop : msgLoop H (fun s iter => sourceHandleMsg H (clock iter.msgBufStart) s iter) _ s _ = _ :=
    msgLoop_complete g ms (wire ms).length s (msgIterMake s.recvBuf (wire ms).length) rest (Nat.le_refl _) hbuf rfl
      (fun m hm s o r hhas hcur => sourceHandleMsg_wire H hhas hcur (hf m hm) clock s o)
  rw [sourceIterateRecvBuf, hloop]
  show ((withOffsets 0 ms).foldlM g s).map _ >>= _ = _
  cases (withOffsets 0 ms).foldlM g s with
  | error e => rfl
  | ok s' => rfl

end Decode

/-- **The update finds complete messages** of known types, or nothing. -/
structure SourceEnv.Brings (env : SourceEnv) (ms : List WireMsg) : Prop where
  datagram : env.datagram.getD [] = wire ms
  length : (wire ms).length ≤ Source.recvBufLen
  known : ∀ m ∈ ms, m.Known
  fits : ∀ m ∈ ms, m.FitsSource

theorem sourceReceive_brings (H : Host) {env : SourceEnv} {ms : List WireMsg} (h : env.Brings ms) (s : Source) :
    ∃ recvBuf, sourceReceive H env s =
      .ok ((withOffsets 0 ms).foldl (sourceHandleWire env.message) { s with recvBuf := recvBuf }) := by
  have hget := h.datagram
  cases ms with
  | nil =>
    -- an empty datagram counts as none
    refine ⟨s.recvBuf, ?_⟩
    cases hd : env.datagram with
    | none =>
      rw [sourceReceive, hd]
      rfl
    | some bytes =>
      rw [hd] at hget
      obtain rfl : bytes = [] := hget
      rw [sourceReceive, hd]
      rfl
  | cons m ms =>
    have hne : wire (m :: ms) ≠ [] := fun hnil => by
      have := congrArg List.length hnil
      rw [wire_cons, List.length_append, WireMsg.length_bytes, List.length_nil] at this
      omega
    have hsome : env.datagram = some (wire (m :: ms)) := by
      cases hd : env.datagram with
      | none =>
        rw [hd] at hget
        exact absurd hget.symm hne
      | some bytes =>
        rw [hd] at hget
        rw [show bytes = _ from hget]
    have hrecv : udpSocketReceiveFrom s.recvBuf Source.recvBufLen (some ⟨wire (m :: ms), ⟨[], 0⟩⟩) = _ :=
      udpSocketReceiveFrom_fits ⟨[], 0⟩ hne h.length
    refine ⟨wire (m :: ms) ++ s.recvBuf.drop (wire (m :: ms)).length, ?_⟩
    rw [sourceReceive, hsome, Option.map_some, hrecv]
    show sourceIterateRecvBuf H env.message _ (wire (m :: ms)).length = _
    rw [sourceIterateRecvBuf_wire H h.fits _ rfl]
    exact (foldlM_guard _ _ _).mpr ⟨fun p hp => h.known p.2 (mem_of_mem_withOffsets hp), foldlM_ok _ _⟩

/-! ## The state a message leads to -/

/-- The state of a source that has heard a message. -/
def AtollaSourceState.heard (state : AtollaSourceState) (m : WireMsg) : AtollaSourceState :=
  if m.typeByte = 1 then (if state = .stateWaiting then .stateOpen else state) else .stateError

theorem sourceHandleWire_state (clock : Nat → UInt32) (s : Source) (p : Nat × WireMsg) :
    (sourceHandleWire clock s p).state = s.state.heard p.2 := by
  unfold sourceHandleWire AtollaSourceState.heard
  split
  · unfold sourceLent
    cases hs : s.state with
    | stateWaiting => rfl
    | stateOpen => rfl
    | stateError => exact hs
  · split
    · rfl
    · rfl

theorem foldl_sourceHandleWire_state (clock : Nat → UInt32) (ps : List (Nat × WireMsg)) (s : Source) :
    (ps.foldl (sourceHandleWire clock) s).state = (ps.map (·.2)).foldl AtollaSourceState.heard s.state := by
  induction ps generalizing s with
  | nil => rfl
  | cons p ps ih => rw [List.foldl_cons, ih, sourceHandleWire_state, List.map_cons, List.foldl_cons]

end Atolla

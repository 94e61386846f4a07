import Atolla.Sink.Leftover
import Atolla.Source.Model

/-!
# What the source uses of a datagram

The loop of `source_iterate_recv_buf` looks at less than that of the sink: no message ids, and a payload only in a
FAIL. Otherwise the argument is the same, and `readsOnly_iff_complete` puts both together.
-/

set_option autoImplicit false

namespace Atolla

open Loop

/-- A source with other contents of the receive buffer. -/
def Source.withRecvBuf (s : Source) (recvBuf : Bytes) : Source := { s with recvBuf := recvBuf }

/-- How many bytes of the message at the beginning of `msg` the source uses. -/
def sourceUses (msg : Bytes) : Nat :=
  if msg.head? = some 255 then 8
  else if msg.head? = some 0 ∨ msg.head? = some 1 ∨ msg.head? = some 2 then 5
  else 1

section Longer

variable (H : Host) {iter iter' : MsgIter} (buf : Bytes)

/-- The second source is the first but for the receive buffer. -/
abbrev OtherSourceBuf (buf : Bytes) (s t : Source) : Prop := t = s.withRecvBuf buf

theorem sourceHandleMsg_longer (now : UInt32) (s : Source) (h : iter.Longer iter') :
    Approx .outOfBounds (OtherSourceBuf buf) (sourceHandleMsg H now s iter)
      (sourceHandleMsg H now (s.withRecvBuf buf) iter') := by
  refine (msgIterType_longer h).bind ?_
  rintro type _ rfl
  cases type with
  | lent =>
    refine .inr (agree_ok.mpr ?_)
    obtain ⟨state⟩ := s
    cases state <;> rfl
  | fail =>
    refine (msgIterFailErrorCode_longer H h).bind ?_
    rintro code _ rfl
    exact .inr (agree_ok.mpr rfl)
  | borrow => exact .inr (agree_ok.mpr rfl)
  | enqueue => exact .inr (agree_ok.mpr rfl)

/-- **What lies behind a datagram makes no difference** unless the run on the datagram alone leaves it. -/
theorem sourceIterateRecvBuf_longer (clock : Nat → UInt32) (s : Source) {bytes : Bytes} (hbuf : bytes <+: buf) :
    Approx .outOfBounds (OtherSourceBuf buf) (sourceIterateRecvBuf H clock (s.withRecvBuf bytes) bytes.length)
      (sourceIterateRecvBuf H clock (s.withRecvBuf buf) bytes.length) := by
  have hlonger : (msgIterMake bytes bytes.length).Longer (msgIterMake buf bytes.length) := ⟨hbuf, rfl, rfl⟩
  refine (msgLoop_longer (OtherSourceBuf buf) ?_ bytes.length (s := s.withRecvBuf bytes) (t := s.withRecvBuf buf) rfl
    hlonger).bind ?_
  · rintro s _ iter iter' rfl h
    rw [h.start]
    exact sourceHandleMsg_longer H buf _ s h
  · rintro ⟨s, iter⟩ ⟨_, iter'⟩ ⟨rfl, -⟩
    exact .inr (agree_ok.mpr rfl)

end Longer

section Uses

variable (H : Host) {iter : MsgIter} {s : Source}

/-- A FAIL is used up to its error code. -/
theorem sourceHandleMsg_fail (hm : msgIterHasMsg iter = true) (now : UInt32) {rest : Bytes}
    (hc : iter.cur = 255 :: rest) :
    if iter.cur.length < 8 then sourceHandleMsg H now s iter = .error .outOfBounds
    else ∃ s', sourceHandleMsg H now s iter = .ok s' := by
  have htype := msgIterType_cons hm .fail hc
  unfold sourceHandleMsg
  rw [htype, ok_bind]
  simp only [msgIterFailErrorCode]
  split
  · rename_i hlt
    rcases Nat.lt_or_ge iter.cur.length 5 with h5 | h5
    · rw [payload_access_short H hm .fail (fun payload => readByte payload.data 2) hc h5]
      rfl
    rw [hc, List.length_cons] at hlt h5
    obtain ⟨i₀, i₁, l₀, l₁, tail, rfl, hlen⟩ := exists_header (show 4 ≤ rest.length by omega)
    rw [payload_access H hm .fail (fun payload => readByte payload.data 2) hc]
    show readByte tail 2 >>= _ = _
    rw [readByte_of_le (by omega)]
    rfl
  · rename_i hge
    rw [hc, List.length_cons] at hge
    obtain ⟨i₀, i₁, l₀, l₁, tail, rfl, hlen⟩ := exists_header (show 4 ≤ rest.length by omega)
    rw [payload_access H hm .fail (fun payload => readByte payload.data 2) hc]
    show ∃ s', readByte tail 2 >>= _ = _
    rw [readByte_of_lt (by omega)]
    exact ⟨_, rfl⟩

/-- **A round leaves the datagram iff** the message has fewer bytes than the source uses. -/
theorem sourceRound_outOfBounds_iff {p : Source × MsgIter} (hm : msgIterHasMsg p.2 = true)
    (hpos : 0 < p.2.cur.length) (clock : Nat → UInt32) :
    msgRound H (fun source iter => sourceHandleMsg H (clock iter.msgBufStart) source iter) p = .error .outOfBounds ↔
      p.2.cur.length < sourceUses p.2.cur := by
  obtain ⟨tb, rest, hc⟩ := List.exists_cons_of_length_pos hpos
  have hhead : p.2.cur.head? = some tb := by rw [hc]; rfl
  by_cases hk : (0 ≤ tb.toNat ∧ tb.toNat ≤ 2) ∨ tb = 255
  · obtain ⟨type, rfl⟩ := exists_type hk
    have htype := msgIterType_cons hm type hc
    -- of the messages but FAIL the handler uses the type
    have hheader : (∃ s', sourceHandleMsg H (clock p.2.msgBufStart) p.1 p.2 = .ok s') → sourceUses p.2.cur = 5 →
        (msgRound H (fun source iter => sourceHandleMsg H (clock iter.msgBufStart) source iter) p =
          .error .outOfBounds ↔ p.2.cur.length < sourceUses p.2.cur) := by
      rintro ⟨s', e⟩ huses
      have hbody : if p.2.cur.length < 0 then sourceHandleMsg H (clock p.2.msgBufStart) p.1 p.2 = .error .outOfBounds
          else ∃ s', sourceHandleMsg H (clock p.2.msgBufStart) p.1 p.2 = .ok s' := by
        rw [if_neg (Nat.not_lt_zero _)]
        exact ⟨s', e⟩
      exact msgRound_uses hm hbody huses
    cases type with
    | borrow => exact hheader ⟨_, by rw [sourceHandleMsg, htype]; rfl⟩ (by rw [sourceUses, hhead]; rfl)
    | lent => exact hheader ⟨_, by rw [sourceHandleMsg, htype]; rfl⟩ (by rw [sourceUses, hhead]; rfl)
    | enqueue => exact hheader ⟨_, by rw [sourceHandleMsg, htype]; rfl⟩ (by rw [sourceUses, hhead]; rfl)
    | fail => exact msgRound_uses hm (sourceHandleMsg_fail H hm _ hc) (by rw [sourceUses, hhead]; rfl)
  · have hstopped : msgRound H (fun source iter => sourceHandleMsg H (clock iter.msgBufStart) source iter) p ≠
        .error .outOfBounds :=
      msgRound_stopped hm (by rw [sourceHandleMsg, msgIterType_unknown hm hc hk]; rfl)
    have huses : sourceUses p.2.cur = 1 := by
      rw [sourceUses, hhead]
      simp [show tb ≠ 0 from ne_type hk .borrow, show tb ≠ 1 from ne_type hk .lent,
        show tb ≠ 2 from ne_type hk .enqueue, show tb ≠ 255 from ne_type hk .fail]
    rw [huses]
    exact ⟨fun e => absurd e hstopped, fun hlt => by omega⟩

end Uses

/-! ## A datagram and nothing else -/

/-- What `source_iterate_recv_buf` does is decided by the received bytes alone. -/
def SourceReadsOnly (H : Host) (clock : Nat → UInt32) (s : Source) (bytes : Bytes) : Prop :=
  (∀ buf₁ buf₂ : Bytes, buf₁.length = Source.recvBufLen → buf₂.length = Source.recvBufLen →
    buf₁.take bytes.length = bytes → buf₂.take bytes.length = bytes →
    (sourceIterateRecvBuf H clock (s.withRecvBuf buf₁) bytes.length).map (·.withRecvBuf []) =
      (sourceIterateRecvBuf H clock (s.withRecvBuf buf₂) bytes.length).map (·.withRecvBuf [])) ∧
  sourceIterateRecvBuf H clock (s.withRecvBuf bytes) bytes.length ≠ .error .outOfBounds

/-- At every message the loop comes to, the datagram holds the bytes that the source uses. -/
def SourceComplete (H : Host) (clock : Nat → UInt32) (s : Source) (bytes : Bytes) : Prop :=
  ∀ k p, MsgRounds H (fun source iter => sourceHandleMsg H (clock iter.msgBufStart) source iter)
      (s.withRecvBuf bytes) bytes k p → msgIterHasMsg p.2 = true → sourceUses p.2.cur ≤ p.2.cur.length

section Only

variable {H : Host} {clock : Nat → UInt32} {s : Source} {bytes : Bytes}

theorem sourceComplete_iff :
    SourceComplete H clock s bytes ↔
      sourceIterateRecvBuf H clock (s.withRecvBuf bytes) bytes.length ≠ .error .outOfBounds := by
  have hbind : sourceIterateRecvBuf H clock (s.withRecvBuf bytes) bytes.length = .error .outOfBounds ↔
      msgLoop H (fun source iter => sourceHandleMsg H (clock iter.msgBufStart) source iter) bytes.length
        (s.withRecvBuf bytes) (msgIterMake bytes bytes.length) = .error .outOfBounds := by
    rw [sourceIterateRecvBuf, bind_eq_error]
    refine ⟨?_, .inl⟩
    rintro (e | ⟨_, _, e⟩)
    · exact e
    · cases e
  rw [Ne, hbind, msgLoop_outOfBounds_iff]
  constructor
  · rintro hc ⟨k, p, hk, hm, e⟩
    have hlt := (sourceRound_outOfBounds_iff H hm (MsgRounds.cur_pos hk hm) clock).mp e
    have hle := hc k p hk hm
    omega
  · intro hno k p hk hm
    by_contra hlt
    exact hno ⟨k, p, hk, hm,
      (sourceRound_outOfBounds_iff H hm (MsgRounds.cur_pos hk hm) clock).mpr (by omega)⟩

/-- **The source acts on the received bytes alone iff** every message it comes to is complete. -/
theorem sourceReadsOnly_iff_complete : SourceReadsOnly H clock s bytes ↔ SourceComplete H clock s bytes := by
  rw [sourceComplete_iff]
  refine ⟨fun hr => hr.2, fun hno => ⟨?_, hno⟩⟩
  intro buf₁ buf₂ _ _ h₁ h₂
  have hrun : ∀ buf : Bytes, buf.take bytes.length = bytes →
      (sourceIterateRecvBuf H clock (s.withRecvBuf buf) bytes.length).map (·.withRecvBuf []) =
        (sourceIterateRecvBuf H clock (s.withRecvBuf bytes) bytes.length).map (·.withRecvBuf []) := by
    intro buf hbuf
    have hprefix : bytes <+: buf := hbuf ▸ List.take_prefix _ _
    refine ((sourceIterateRecvBuf_longer H buf clock s hprefix).agree hno).map_eq ?_
    rintro t _ rfl
    rfl
  rw [hrun buf₁ h₁, hrun buf₂ h₂]

end Only

/-- **Both peers act on the bytes of a datagram alone iff** at every message they come to it holds what they use. -/
theorem readsOnly_iff_complete {H : Host} {sink : Sink} (hr : Reachable H sink) (source : Source)
    (clock : Nat → UInt32) (sender : UdpEndpoint) (bytes : Bytes) :
    (SinkReadsOnly H clock sink sender bytes ↔ SinkComplete H clock sink sender bytes) ∧
      (SourceReadsOnly H clock source bytes ↔ SourceComplete H clock source bytes) :=
  ⟨sinkReadsOnly_iff_complete (reachable_inv hr), sourceReadsOnly_iff_complete⟩

/-- A BORROW and a FAIL. -/
def exampleBoth : Bytes := (WireMsg.borrow 7 20 1).bytes ++ encode 255 8 (failPayload 7 3)

/-- They hold all that a fresh sink and a fresh source use of them, and so both act on their bytes alone. -/
theorem readsOnly_iff_complete_both :
    SinkReadsOnly exampleHost (fun _ => 1000) (freshSink exampleHost 1 true) exampleEndpoint exampleBoth ∧
      SourceReadsOnly exampleHost (fun _ => 1000) (sourcePrivateMake exampleHost ⟨"sink", 10042, 20, 1, 0, 0, true⟩)
        exampleBoth := by
  have hr := reachable_fresh exampleHost (Nat.le_refl 1) (by decide) true
  have hsink : (sinkIterateRecvBuf exampleHost (fun _ => 1000) ((freshSink exampleHost 1 true).withRecvBuf exampleBoth)
      exampleBoth.length exampleEndpoint).toOption.map (·.state) = some .stateLent := by decide +kernel
  have hsource : (sourceIterateRecvBuf exampleHost (fun _ => 1000)
      ((sourcePrivateMake exampleHost ⟨"sink", 10042, 20, 1, 0, 0, true⟩).withRecvBuf exampleBoth)
      exampleBoth.length).toOption.map (·.state) = some .stateError := by decide +kernel
  obtain ⟨hsinks, hsources⟩ := readsOnly_iff_complete hr
    (sourcePrivateMake exampleHost ⟨"sink", 10042, 20, 1, 0, 0, true⟩) (fun _ => 1000) exampleEndpoint exampleBoth
  constructor
  · refine hsinks.mpr ((sinkComplete_iff (reachable_inv hr)).mpr fun e => ?_)
    rw [e] at hsink
    cases hsink
  · refine hsources.mpr (sourceComplete_iff.mpr fun e => ?_)
    rw [e] at hsource
    cases hsource

/-- **One received byte, the type of a BORROW**: whether a fresh sink lends itself depends on the bytes that an earlier
datagram left behind it. -/
theorem sink_borrows_leftover :
    Reachable exampleHost (freshSink exampleHost 1 true) ∧
      ¬SinkReadsOnly exampleHost (fun _ => 1000) (freshSink exampleHost 1 true) exampleEndpoint [0] := by
  refine ⟨reachable_fresh exampleHost (by decide) (by decide) true, fun h => ?_⟩
  let zeros : Bytes := List.replicate 1024 0
  let old : Bytes := (WireMsg.borrow 0 20 1).bytes ++ List.replicate 1017 0
  have hold : old.length = sinkRecvBufLen := by
    rw [List.length_append, WireMsg.length_bytes, List.length_replicate]
    rfl
  have heq := h.1 zeros old List.length_replicate hold rfl rfl
  have hstate := congrArg (fun r : Run Sink => r.toOption.map (·.state)) heq
  have hopen : ((sinkIterateRecvBuf exampleHost (fun _ => 1000) ((freshSink exampleHost 1 true).withRecvBuf zeros) 1
      exampleEndpoint).map (·.withRecvBuf [])).toOption.map (·.state) = some .stateOpen := by decide +kernel
  have hlent : ((sinkIterateRecvBuf exampleHost (fun _ => 1000) ((freshSink exampleHost 1 true).withRecvBuf old) 1
      exampleEndpoint).map (·.withRecvBuf [])).toOption.map (·.state) = some .stateLent := by decide +kernel
  have hsame : some AtollaSinkState.stateOpen = some .stateLent := hopen.symm.trans (hstate.trans hlent)
  cases hsame

end Atolla

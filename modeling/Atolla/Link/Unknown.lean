import Atolla.Link.Agreement
import Atolla.Sink.Replies
import Atolla.Source.Messages

/-!
# Messages of unknown types

Both loops over a datagram end in a `default` branch, for the types that are not for this peer. `msg_iter_type` asserts
that the type is one of the four known ones, so that an unknown one never gets there (`unknown_types_iff`).
-/

set_option autoImplicit false

namespace Atolla

open Loop

section Sink

variable (H : Host) {iter : MsgIter} {m : WireMsg} {rest : Bytes}

/-- What is asked of the sink is a request, if the type is known. -/
theorem WireMsg.request_of_asked (hk : m.Known) (ha : m.asked.isSome) : m.request.isSome := by
  obtain ⟨tb, id, payload, hp⟩ := m
  obtain ⟨type, rfl⟩ := exists_type hk
  cases type with
  | borrow => exact ha
  | lent => rfl
  | enqueue => exact ha
  | fail => rfl

theorem sinkHandleMsg_unknown (hm : msgIterHasMsg iter = true) (hc : iter.cur = m.bytes ++ rest) (hk : ¬m.Known)
    (now : UInt32) (sender : UdpEndpoint) (s : Sink) :
    sinkHandleMsg H now sender s iter = .error .assertion := by
  rw [sinkHandleMsg, msgIterType_unknown hm hc hk]
  rfl

/-- **A datagram of complete messages** of any types. -/
theorem sinkHandleDatagram_wire (s : Sink) {d : MsgDatagram} (ha : ∀ m ∈ d.messages, m.asked.isSome) :
    sinkHandleDatagram H s d = (withOffsets 0 d.messages).foldlM (fun s p =>
      if p.2.Known then sinkHandleWire H d.clock d.sender s p else .error .assertion)
        { s with recvBuf := wire d.messages ++ d.leftover } := by
  set s₀ : Sink := { s with recvBuf := wire d.messages ++ d.leftover }
  set g : Sink → Nat × WireMsg → Run Sink := fun s p =>
    if p.2.Known then sinkHandleWire H d.clock d.sender s p else .error .assertion with hg
  have hloop : msgLoop H (fun s iter => sinkHandleMsg H (d.clock iter.msgBufStart) d.sender s iter) _ s₀ _ = _ :=
    msgLoop_complete g d.messages (wire d.messages).length s₀ (msgIterMake s₀.recvBuf (wire d.messages).length)
      d.leftover (Nat.le_refl _) rfl rfl (fun m hm s o r hhas hcur => by
        simp only [hg]
        by_cases hk : m.Known
        · obtain ⟨req, hreq⟩ := Option.isSome_iff_exists.mp (WireMsg.request_of_asked hk (ha m hm))
          rw [if_pos hk, sinkHandleMsg_complete H hhas hcur hreq, sinkHandleWire, hreq]
        · rw [if_neg hk, sinkHandleMsg_unknown H hhas hcur hk])
  rw [sinkHandleDatagram, sinkIterateRecvBuf, hloop]
  show ((withOffsets 0 d.messages).foldlM g s₀).map _ >>= _ = _
  cases (withOffsets 0 d.messages).foldlM g s₀ with
  | error e => rfl
  | ok s' => rfl

end Sink

section Unknown

variable {H : Host} {sink : Sink}

/-- **Unknown types**: a sink answers every message of a datagram, those that are neither BORROW nor ENQUEUE by a
BAD_MSG, and a source enters the error state on those that are neither LENT nor FAIL, without a failed assertion, iff
the type of every message is known. A sink in the error state receives nothing. -/
theorem unknown_types_iff (hk : Reachable H sink) {d : MsgDatagram} (ha : ∀ m ∈ d.messages, m.asked.isSome)
    (hroom : d.RoomFor H sink) (source : Source) {ms : List WireMsg} (hf : ∀ m ∈ ms, m.FitsSource)
    (clock : Nat → UInt32) (leftover : Bytes) :
    (sink.state = .stateError → ∀ clock datagram, atollaSinkState H clock sink datagram = .ok sink) ∧
    (sink.state ≠ .stateError →
      ((∃ sink', sinkHandleDatagram H sink d = .ok sink' ∧
          sink'.socket = sink.socket ++ (numberedFrom sink.builder.nextMsgId
            (sink.session.answers d.sender (requests d.messages)).1).map (·, d.sender) ∧
          sink'.session = (sink.session.answers d.sender (requests d.messages)).2) ↔
        ∀ m ∈ d.messages, m.Known)) ∧
    ((∃ source', sourceIterateRecvBuf H clock (source.withRecvBuf (wire ms ++ leftover)) (wire ms).length =
          .ok source' ∧
        source'.state = ms.foldl AtollaSourceState.heard source.state) ↔
      ∀ m ∈ ms, m.Known) := by
  refine ⟨fun hs _ _ => if_neg (not_not.mpr hs), fun hs => ?_, ?_⟩
  · rw [sinkHandleDatagram_wire H sink ha]
    simp only [foldlM_guard]
    constructor
    · rintro ⟨sink', ⟨hall, -⟩, -⟩ m hm
      rw [← map_snd_withOffsets 0 d.messages, List.mem_map] at hm
      obtain ⟨p, hp, rfl⟩ := hm
      exact hall p hp
    · intro hall
      have hreq : ∀ p ∈ withOffsets 0 d.messages, p.2.request.isSome := fun p hp =>
        WireMsg.request_of_asked (hall p.2 (mem_of_mem_withOffsets hp)) (ha p.2 (mem_of_mem_withOffsets hp))
      obtain ⟨sink', e, hans⟩ := foldlM_answers (H := H) (withOffsets 0 d.messages)
        ((reachable_inv hk).withRecvBuf (wire d.messages ++ d.leftover)) hs hreq hroom
      rw [map_snd_withOffsets] at hans
      exact ⟨sink', ⟨fun p hp => hall p.2 (mem_of_mem_withOffsets hp), e⟩, hans.socket, hans.session⟩
  · rw [sourceIterateRecvBuf_wire H hf _ rfl]
    simp only [foldlM_guard, foldlM_ok, Except.ok.injEq]
    constructor
    · rintro ⟨source', ⟨hall, -⟩, -⟩ m hm
      rw [← map_snd_withOffsets 0 ms, List.mem_map] at hm
      obtain ⟨p, hp, rfl⟩ := hm
      exact hall p hp
    · intro hall
      refine ⟨_, ⟨fun p hp => hall p.2 (mem_of_mem_withOffsets hp), rfl⟩, ?_⟩
      rw [foldl_sourceHandleWire_state, map_snd_withOffsets]
      rfl

end Unknown

/-- A message of type 7. -/
def exampleUnknown : WireMsg := ⟨7, 0, [], nil_le⟩

def exampleUnknownDatagram : MsgDatagram := ⟨fun _ => 1000, exampleEndpoint, [exampleUnknown], []⟩

/-- With known types both peers handle what is not for them. -/
theorem unknown_types_known :
    ∃ sink' source source', sinkHandleDatagram exampleHost (freshSink exampleHost 1 true) exampleMixed = .ok sink' ∧
      exampleOpen 20 = .ok source ∧
      sourceIterateRecvBuf exampleHost (fun _ => 1000)
        (source.withRecvBuf (wire [.borrow 0 20 1] ++ [])) (wire [.borrow 0 20 1]).length = .ok source' ∧
      source'.state = .stateError := by
  have hsome : (exampleOpen 20).toOption.isSome = true := by decide +kernel
  cases e : exampleOpen 20 with
  | error f => rw [e] at hsome; cases hsome
  | ok source =>
    have ha : ∀ m ∈ exampleMixed.messages, m.asked.isSome := by decide
    have hroom : exampleMixed.RoomFor exampleHost (freshSink exampleHost 1 true) := by decide +kernel
    have hf : ∀ m ∈ [WireMsg.borrow 0 20 1], m.FitsSource := by decide
    obtain ⟨-, hsink, hsource⟩ := unknown_types_iff (reachable_fresh exampleHost (by decide) (by decide) true)
      ha hroom source hf (fun _ => 1000) []
    obtain ⟨sink', e₁, -⟩ := (hsink (by decide)).mpr (by decide)
    obtain ⟨source', e₂, hstate⟩ := hsource.mpr (by decide)
    exact ⟨sink', source, source', e₁, rfl, e₂, hstate⟩

/-- **A message of type 7** stops a fresh sink and an open source at an assertion. -/
theorem unknown_type_asserts :
    Reachable exampleHost (freshSink exampleHost 1 true) ∧
    exampleUnknownDatagram.RoomFor exampleHost (freshSink exampleHost 1 true) ∧
    sinkHandleDatagram exampleHost (freshSink exampleHost 1 true) exampleUnknownDatagram = .error .assertion ∧
    ∃ source, SourceReachable exampleHost (exampleSpec 20) source ∧
      sourceIterateRecvBuf exampleHost (fun _ => 1000) (source.withRecvBuf (wire [exampleUnknown])) 5 =
        .error .assertion := by
  refine ⟨reachable_fresh exampleHost (by decide) (by decide) true, by decide +kernel, ?_, ?_⟩
  · rw [sinkHandleDatagram_wire exampleHost _ (by decide)]
    rfl
  · have hsome : (exampleOpen 20).toOption.isSome = true := by decide +kernel
    cases e : exampleOpen 20 with
    | error f => rw [e] at hsome; cases hsome
    | ok source =>
      refine ⟨source, exampleOpen_reachable e, ?_⟩
      have hf : ∀ m ∈ [exampleUnknown], m.FitsSource := by decide
      exact sourceIterateRecvBuf_wire exampleHost hf (source.withRecvBuf (wire [exampleUnknown]))
        (List.append_nil _).symm fun _ => 1000

end Atolla

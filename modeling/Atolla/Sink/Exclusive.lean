import Atolla.Sink.Steps

/-!
# Messages of other endpoints

A lent sink answers the messages of endpoints other than its borrower by a FAIL. Each leaves the session alone
(`sinkHandleWire_foreign`) but one: the frame of an ENQUEUE is checked for its length before its sender is looked at, so
that a frame of fewer than three bytes ends the session of the borrower whoever sends it (`sinkHandleWire_short`).
Foreign datagrams are answered message by message and leave what the session is to its borrower as it was iff none has
such a frame (`foreign_untouched_iff`).
-/

set_option autoImplicit false

namespace Atolla

open Loop

/-! ## What a sink shows -/

/-- What `atolla_sink_get` returns, without the sink. -/
def sinkShown (now : UInt32) (s : Sink) (frame : Bytes) : Run (Bool × Bytes) :=
  (atollaSinkGet now s frame frame.length).map fun r => (r.1, r.2.2)

theorem sinkShown_lent {s : Sink} (h : SinkInv s) (hs : s.state = .stateLent) (now : UInt32) (frame : Bytes) :
    sinkShown now s frame =
      .ok (s.shows, if s.shows then Pattern.cycle frame.length (s.picture now) else frame) := by
  obtain ⟨s', e, -⟩ := atollaSinkGet_lent h hs now frame
  rw [sinkShown, e]
  rfl

theorem SameSession.shown {s s' : Sink} (h : SameSession s s') (hi : SinkInv s) (hi' : SinkInv s') (now : UInt32)
    (frame : Bytes) : sinkShown now s' frame = sinkShown now s frame := by
  by_cases hs : s.state = .stateLent
  · have hdue : s'.due now = s.due now := by
      rw [Sink.due, Sink.due, Sink.elapsed, Sink.elapsed, h.pending, h.origin, h.duration]
    have hpicture : s'.picture now = s.picture now := by
      rw [Sink.picture, Sink.picture, hdue, h.pending, h.current]
    have hshows : s'.shows = s.shows := by
      rw [Sink.shows, Sink.shows, h.origin, h.pending]
    rw [sinkShown_lent hi hs, sinkShown_lent hi' (h.state.trans hs), hpicture, hshows]
  · rw [sinkShown, sinkShown, atollaSinkGet_idle hs, atollaSinkGet_idle (by rw [h.state]; exact hs)]
    rfl

/-! ## One message -/

/-- An ENQUEUE with a frame that is too short. -/
def WireMsg.Short (m : WireMsg) : Prop := m.typeByte = 2 ∧ m.payload.length < 6

/-- The error by which a message of another endpoint than the borrower is refused. -/
def WireMsg.foreignError (m : WireMsg) : ErrorCode :=
  if m.typeByte = 0 ∨ m.typeByte = 2 then .lentToOtherSource else .badMsg

/-- The FAILs that refuse messages, each to its sender, under consecutive message ids. -/
def refusals : UInt16 → List (UdpEndpoint × WireMsg) → List (Bytes × UdpEndpoint)
  | _, [] => []
  | id, (sender, m) :: asked =>
    (encode 255 id (failPayload m.id m.foreignError.toByte), sender) :: refusals (id + 1) asked

theorem refusals_append (id : UInt16) (asked asked' : List (UdpEndpoint × WireMsg)) :
    refusals id (asked ++ asked') = refusals id asked ++ refusals (id + UInt16.ofNat asked.length) asked' := by
  induction asked generalizing id with
  | nil =>
    have hzero : id + UInt16.ofNat ([] : List (UdpEndpoint × WireMsg)).length = id := UInt16.add_zero id
    rw [hzero]
    rfl
  | cons q asked ih =>
    have hnext : id + 1 + UInt16.ofNat asked.length = id + UInt16.ofNat (q :: asked).length := by
      rw [List.length_cons, Nat.add_comm asked.length 1, UInt16.ofNat_add, UInt16.add_assoc]
      rfl
    rw [List.cons_append, refusals, refusals, ih, hnext]
    rfl

/-- The sink `s` has refused messages and become `s'`, in the same session. -/
structure Refuses (s : Sink) (asked : List (UdpEndpoint × WireMsg)) (s' : Sink) : Prop where
  inv : SinkInv s'
  same : SameSession s s'
  socket : s'.socket = s.socket ++ refusals s.builder.nextMsgId asked
  next : s'.builder.nextMsgId = s.builder.nextMsgId + UInt16.ofNat asked.length

namespace Refuses

variable {s s' s'' : Sink} {asked asked' : List (UdpEndpoint × WireMsg)}

theorem refl (h : SinkInv s) : Refuses s [] s :=
  ⟨h, SameSession.refl s, (List.append_nil _).symm, (UInt16.add_zero _).symm⟩

theorem trans (h : Refuses s asked s') (h' : Refuses s' asked' s'') : Refuses s (asked ++ asked') s'' := by
  refine ⟨h'.inv, h.same.trans h'.same, ?_, ?_⟩
  · rw [h'.socket, h.socket, h.next, refusals_append, List.append_assoc]
  · rw [h'.next, h.next, List.length_append, UInt16.ofNat_add, UInt16.add_assoc]

/-- What `sink_receive` writes before it reads the messages. -/
theorem withRecvBuf (h : Refuses s asked s') (recvBuf : Bytes) :
    Refuses s asked { s' with recvBuf := recvBuf } :=
  ⟨h.inv.withRecvBuf recvBuf, h.same.trans ⟨rfl⟩, h.socket, h.next⟩

end Refuses

section Message

variable (H : Host) {s : Sink} {sender : UdpEndpoint} {p : Nat × WireMsg}

/-- The request of an ENQUEUE. -/
theorem WireMsg.request_of_enqueue {m : WireMsg} (ht : m.typeByte = 2) (hr : m.request.isSome) :
    ∃ idx frame, m.request = some (.enqueue idx frame) ∧ m.payload.length = 3 + frame.length := by
  obtain ⟨tb, id, payload, hp⟩ := m
  obtain rfl : tb = 2 := ht
  match payload, hp, hr with
  | idx :: b₁ :: b₂ :: frame, _, _ => exact ⟨idx, frame, rfl, by simp; omega⟩

theorem WireMsg.enqueue_of_request {m : WireMsg} {idx : UInt8} {frame : Bytes}
    (hr : m.request = some (.enqueue idx frame)) : m.typeByte = 2 ∧ m.payload.length = 3 + frame.length := by
  have ht : m.typeByte = 2 := by
    unfold WireMsg.request at hr
    split at hr
    · split at hr
      · cases hr
      · cases hr
    · split at hr
      · assumption
      · split at hr
        · cases hr
        · cases hr
  obtain ⟨idx', frame', hr', hlen⟩ := WireMsg.request_of_enqueue ht (by rw [hr]; rfl)
  rw [hr] at hr'
  cases hr'
  exact ⟨ht, hlen⟩

/-- A short ENQUEUE has a short frame. -/
theorem WireMsg.short_iff {m : WireMsg} {idx : UInt8} {frame : Bytes} (hr : m.request = some (.enqueue idx frame)) :
    m.Short ↔ frame.length < 3 := by
  obtain ⟨ht, hlen⟩ := WireMsg.enqueue_of_request hr
  constructor
  · rintro ⟨-, hshort⟩
    omega
  · intro hshort
    exact ⟨ht, by omega⟩

/-- What a foreign message asks for decides by which FAIL it is refused. -/
theorem WireMsg.foreignError_of_request {m : WireMsg} {r : Request} (hr : m.request = some r) :
    m.foreignError = match r with
      | .borrow _ _ => .lentToOtherSource
      | .enqueue _ _ => .lentToOtherSource
      | .other => .badMsg := by
  unfold WireMsg.request at hr
  unfold WireMsg.foreignError
  split at hr
  · rename_i h0
    rw [if_pos (.inl h0)]
    split at hr
    · cases hr
      rfl
    · cases hr
  split at hr
  · rename_i h2
    rw [if_pos (.inr h2)]
    split at hr
    · cases hr
      rfl
    · cases hr
  · rename_i h0 h2
    rw [if_neg (not_or.mpr ⟨h0, h2⟩)]
    split at hr
    · cases hr
      rfl
    · cases hr

/-- A FAIL. -/
theorem sinkSendFailTo_refuses (h : SinkInv s) (sender : UdpEndpoint) {m : WireMsg} {code : ErrorCode}
    (hcode : m.foreignError = code) :
    ∃ s', sinkSendFailTo H s m.id code sender = .ok s' ∧ Refuses s [(sender, m)] s' := by
  obtain ⟨builder, e, hb, hn⟩ := sinkSendFailTo_spec H h m.id code sender
  refine ⟨_, e, h.replied hb _ _, SameSession.replied s _ _ _, ?_, hn⟩
  rw [refusals, hcode]
  rfl

/-- **A foreign message** that is not a short ENQUEUE is refused, and leaves the session alone. -/
theorem sinkHandleWire_foreign (h : SinkInv s) (hs : s.state = .stateLent)
    (hf : udpEndpointEqual sender s.borrowerEndpoint = false) (hr : p.2.request.isSome) (hno : ¬p.2.Short)
    (clock : Nat → UInt32) :
    ∃ s', sinkHandleWire H clock sender s p = .ok s' ∧ Refuses s [(sender, p.2)] s' := by
  obtain ⟨r, hreq⟩ := Option.isSome_iff_exists.mp hr
  have herror := WireMsg.foreignError_of_request hreq
  rw [sinkHandleWire, hreq]
  cases r with
  | borrow fl bl =>
    show ∃ s', sinkHandleBorrow H _ s _ _ _ sender = .ok s' ∧ _
    rw [sinkHandleBorrow_foreign H hs hf]
    exact sinkSendFailTo_refuses H h sender herror
  | enqueue idx frame =>
    have h3 : 3 ≤ (MemBlock.ofBytes frame).size := by
      rw [MemBlock.size_ofBytes]
      exact Nat.not_lt.mp fun hlt => hno ((WireMsg.short_iff hreq).mpr hlt)
    show ∃ s', sinkHandleEnqueue H s _ _ _ sender = .ok s' ∧ _
    rw [sinkHandleEnqueue, sinkHandleEnqueueFor_foreign H hs hf h3]
    exact sinkSendFailTo_refuses H h sender herror
  | other => exact sinkSendFailTo_refuses H h sender herror

/-- **A short ENQUEUE** ends the session, whoever sends it. -/
theorem sinkHandleWire_short (h : SinkInv s) (hs : s.state = .stateLent) (hshort : p.2.Short)
    (hr : p.2.request.isSome) (clock : Nat → UInt32) (sender : UdpEndpoint) :
    ∃ s', sinkHandleWire H clock sender s p = .ok s' ∧ s'.state = .stateOpen := by
  obtain ⟨idx, frame, hreq, hlen⟩ := WireMsg.request_of_enqueue hshort.1 hr
  have h3 : (MemBlock.ofBytes frame).size < 3 := by
    have := hshort.2
    rw [MemBlock.size_ofBytes]; omega
  obtain ⟨s', e, -⟩ := sinkSendFailTo_same H h p.2.id .badMsg sender
  refine ⟨sinkDropBorrow s', ?_, rfl⟩
  rw [sinkHandleWire, hreq]
  show sinkHandleEnqueue H s _ _ _ sender = _
  rw [sinkHandleEnqueue, sinkHandleEnqueueFor_short H hs h3, e]
  rfl

end Message

/-! ## A lost session -/

/-- The sink is not lent to this endpoint. -/
def Lost (borrower : UdpEndpoint) (s : Sink) : Prop :=
  s.state = .stateLent → udpEndpointEqual borrower s.borrowerEndpoint = false

section Lost

variable (H : Host) {borrower sender : UdpEndpoint} {s s' : Sink}

theorem SameSession.lost (h : SameSession s s') (hl : Lost borrower s) : Lost borrower s' := by
  intro hs
  rw [h.borrower]
  exact hl (h.state ▸ hs)

/-- Whoever else sends a BORROW, the sink is not lent to the borrower again. -/
theorem sinkHandleBorrow_lost (h : SinkInv s) (hf : udpEndpointEqual borrower sender = false) (hl : Lost borrower s)
    {now : UInt32} {id : UInt16} {d : Int} {n : Nat} (hd : d ≤ 255)
    (e : sinkHandleBorrow H now s id d n sender = .ok s') : Lost borrower s' := by
  intro hs'
  rcases sinkHandleBorrow_lentTo h hd e hs' with ⟨hs, heq⟩ | heq
  · rw [udpEndpointEqual_congr heq]
    exact hl hs
  · rw [← udpEndpointEqual_congr heq]
    exact hf

theorem sinkHandleEnqueue_lost (h : SinkInv s) (hl : Lost borrower s) {id : UInt16} {idx : Nat} {frame : MemBlock}
    (e : sinkHandleEnqueue H s id idx frame sender = .ok s') : Lost borrower s' := by
  unfold sinkHandleEnqueue sinkHandleEnqueueFor at e
  split at e
  · cases e
    exact hl
  split at e
  · exact (sinkSendFailTo_session h e).lost hl
  split at e
  · -- a short frame
    obtain ⟨s₁, h₁, h₂⟩ := bind_eq_ok.mp e
    cases h₂
    intro hs
    cases hs
  split at e
  · split at e
    · cases e
      exact hl
    · -- the rounds of the loop
      have hkeep := whileM_inv (fun t : Sink => t.state = s.state ∧ t.borrowerEndpoint = s.borrowerEndpoint)
        (fun t t' ht _ et => by
          obtain ⟨h₁, h₂, -⟩ := sinkEnqueue_same et
          exact ⟨h₁.trans ht.1, h₂.trans ht.2⟩) 128 s s' ⟨rfl, rfl⟩ e
      intro hs
      rw [hkeep.1.2]
      exact hl (hkeep.1.1 ▸ hs)
  · exact (sinkSendFailTo_session h e).lost hl

/-- Whoever else sends a message, the sink is not lent to the borrower again. -/
theorem sinkHandleRequest_lost (h : SinkInv s) (hf : udpEndpointEqual borrower sender = false)
    (hl : Lost borrower s) {now : UInt32} {id : UInt16} {r : Request}
    (e : sinkHandleRequest H now sender s id r = .ok s') : Lost borrower s' := by
  cases r with
  | other => exact (sinkSendFailTo_session h e).lost hl
  | borrow fl bl => exact sinkHandleBorrow_lost H h hf hl (by have := fl.toNat_lt; omega) e
  | enqueue idx frame => exact sinkHandleEnqueue_lost H h hl e

theorem sinkHandleWire_lost (h : SinkInv s) (hf : udpEndpointEqual borrower sender = false) (hl : Lost borrower s)
    {clock : Nat → UInt32} {p : Nat × WireMsg} (e : sinkHandleWire H clock sender s p = .ok s') :
    Lost borrower s' := by
  unfold sinkHandleWire at e
  split at e
  · exact sinkHandleRequest_lost H h hf hl e
  · cases e
    exact hl

end Lost

/-! ## Foreign datagrams -/

/-- A received datagram of complete messages: the clock while it is handled and what the receive buffer holds behind
it belong to it. -/
structure MsgDatagram where
  clock : Nat → UInt32
  sender : UdpEndpoint
  messages : List WireMsg
  leftover : Bytes

/-- Every message is of one of the four types and long enough for it. -/
def MsgDatagram.Complete (d : MsgDatagram) : Prop := ∀ m ∈ d.messages, m.request.isSome

/-- The messages of a datagram with their sender. -/
def MsgDatagram.asked (d : MsgDatagram) : List (UdpEndpoint × WireMsg) := d.messages.map (d.sender, ·)

/-- `sink_iterate_recv_buf` on a received datagram. -/
def sinkHandleDatagram (H : Host) (s : Sink) (d : MsgDatagram) : Run Sink :=
  sinkIterateRecvBuf H d.clock { s with recvBuf := wire d.messages ++ d.leftover } (wire d.messages).length d.sender

section Datagrams

variable (H : Host) {s : Sink} {borrower : UdpEndpoint}

theorem sinkHandleDatagram_eq {d : MsgDatagram} (hc : d.Complete) :
    sinkHandleDatagram H s d = (withOffsets 0 d.messages).foldlM (sinkHandleWire H d.clock d.sender)
      { s with recvBuf := wire d.messages ++ d.leftover } :=
  sinkIterateRecvBuf_complete H hc _ rfl d.clock d.sender

/-- Foreign messages without a short ENQUEUE, while the session is that of `s`. -/
theorem foldlM_foreign (hs : s.state = .stateLent) {sender : UdpEndpoint}
    (hf : udpEndpointEqual sender s.borrowerEndpoint = false) (clock : Nat → UInt32) :
    ∀ (ps : List (Nat × WireMsg)), (∀ p ∈ ps, p.2.request.isSome) → (∀ p ∈ ps, ¬p.2.Short) →
      ∀ {asked : List (UdpEndpoint × WireMsg)} {t : Sink}, Refuses s asked t →
        ∃ t', ps.foldlM (sinkHandleWire H clock sender) t = .ok t' ∧
          Refuses s (asked ++ ps.map fun p => (sender, p.2)) t' := by
  intro ps
  induction ps with
  | nil =>
    intro _ _ asked t ht
    exact ⟨t, rfl, by rw [List.map_nil, List.append_nil]; exact ht⟩
  | cons p ps ih =>
    intro hr hno asked t ht
    have hft : udpEndpointEqual sender t.borrowerEndpoint = false := by
      rw [ht.same.borrower]
      exact hf
    obtain ⟨t₁, e₁, ht₁⟩ := sinkHandleWire_foreign H ht.inv (ht.same.state.trans hs) hft
      (hr p List.mem_cons_self) (hno p List.mem_cons_self) clock
    obtain ⟨t₂, e₂, ht₂⟩ := ih (fun q hq => hr q (List.mem_cons_of_mem _ hq))
      (fun q hq => hno q (List.mem_cons_of_mem _ hq)) (ht.trans ht₁)
    refine ⟨t₂, by rw [List.foldlM_cons, e₁, ok_bind, e₂], ?_⟩
    rw [List.append_assoc] at ht₂
    exact ht₂

/-- A foreign datagram without a short ENQUEUE. -/
theorem sinkHandleDatagram_refuses (hs : s.state = .stateLent) {d : MsgDatagram} (hc : d.Complete)
    (hf : udpEndpointEqual d.sender s.borrowerEndpoint = false) (hno : ∀ m ∈ d.messages, ¬m.Short)
    {asked : List (UdpEndpoint × WireMsg)} {t : Sink} (ht : Refuses s asked t) :
    ∃ t', sinkHandleDatagram H t d = .ok t' ∧ Refuses s (asked ++ d.asked) t' := by
  obtain ⟨t', e, ht'⟩ := foldlM_foreign H hs hf d.clock (withOffsets 0 d.messages)
    (fun p hp => hc p.2 (mem_of_mem_withOffsets hp)) (fun p hp => hno p.2 (mem_of_mem_withOffsets hp))
    (ht.withRecvBuf (wire d.messages ++ d.leftover))
  have hasked : (withOffsets 0 d.messages).map (fun p => (d.sender, p.2)) = d.asked := by
    conv_rhs => rw [MsgDatagram.asked, ← map_snd_withOffsets 0 d.messages, List.map_map]
    rfl
  rw [hasked] at ht'
  rw [sinkHandleDatagram_eq H hc]
  exact ⟨t', e, ht'⟩

/-- Whoever else sends a message, a lost session stays lost. -/
theorem sinkHandleWire_staysLost {sender : UdpEndpoint} (hf : udpEndpointEqual borrower sender = false)
    {clock : Nat → UInt32} {p : Nat × WireMsg} {s' : Sink} (h : SinkInv s ∧ Lost borrower s)
    (e : sinkHandleWire H clock sender s p = .ok s') : SinkInv s' ∧ Lost borrower s' :=
  ⟨sinkHandleWire_inv H h.1 e, sinkHandleWire_lost H h.1 hf h.2 e⟩

/-- Whoever else sends a datagram, the sink is not lent to the borrower again. -/
theorem sinkHandleDatagram_lost {s' : Sink} {d : MsgDatagram} (hc : d.Complete)
    (hf : udpEndpointEqual borrower d.sender = false) (h : SinkInv s ∧ Lost borrower s)
    (e : sinkHandleDatagram H s d = .ok s') : SinkInv s' ∧ Lost borrower s' := by
  rw [sinkHandleDatagram_eq H hc] at e
  refine foldlM_inv (fun t => SinkInv t ∧ Lost borrower t) _ ?_ _ _
    ⟨h.1.withRecvBuf (wire d.messages ++ d.leftover), h.2⟩ e
  intro p _ t t' ht et
  exact sinkHandleWire_staysLost H hf ht et

/-- A foreign datagram with a short ENQUEUE ends the session. -/
theorem sinkHandleDatagram_short (hs : s.state = .stateLent) {d : MsgDatagram} (hc : d.Complete)
    (hf : udpEndpointEqual d.sender s.borrowerEndpoint = false) (hshort : ∃ m ∈ d.messages, m.Short) {t t' : Sink}
    (ht : SinkInv t ∧ SameSession s t) (e : sinkHandleDatagram H t d = .ok t') :
    SinkInv t' ∧ Lost s.borrowerEndpoint t' := by
  have hflip : udpEndpointEqual s.borrowerEndpoint d.sender = false := by
    rw [udpEndpointEqual_comm]
    exact hf
  have hps : ∃ p ∈ withOffsets 0 d.messages, p.2.Short := by
    obtain ⟨m, hm, hms⟩ := hshort
    rw [← map_snd_withOffsets 0 d.messages, List.mem_map] at hm
    obtain ⟨p, hp, rfl⟩ := hm
    exact ⟨p, hp, hms⟩
  rw [sinkHandleDatagram_eq H hc] at e
  refine foldlM_first (fun u => SinkInv u ∧ SameSession s u) (fun u => SinkInv u ∧ Lost s.borrowerEndpoint u)
    (fun p => p.2.Short) _ ?_ ?_ ?_ hps ⟨ht.1.withRecvBuf (wire d.messages ++ d.leftover), ht.2.trans ⟨rfl⟩⟩ e
  · rintro p hmem hp u ⟨hu, hsame⟩
    have hfu : udpEndpointEqual d.sender u.borrowerEndpoint = false := by
      rw [hsame.borrower]
      exact hf
    obtain ⟨u', eu, hu'⟩ := sinkHandleWire_foreign H hu (hsame.state.trans hs) hfu
      (hc p.2 (mem_of_mem_withOffsets hmem)) hp d.clock
    exact ⟨u', eu, hu'.inv, hsame.trans hu'.same⟩
  · rintro p hmem hp u u' ⟨hu, hsame⟩ eu
    have hr : p.2.request.isSome := hc p.2 (mem_of_mem_withOffsets hmem)
    obtain ⟨v, ev, hopen⟩ := sinkHandleWire_short H hu (hsame.state.trans hs) hp hr d.clock d.sender
    obtain rfl : v = u' := Except.ok.inj (ev.symm.trans eu)
    refine ⟨sinkHandleWire_inv H hu eu, fun hlent => ?_⟩
    rw [hopen] at hlent
    cases hlent
  · intro p _ u u' hu eu
    exact sinkHandleWire_staysLost H hflip hu eu

/-- Foreign datagrams without a short ENQUEUE. -/
theorem foldlM_foreign_datagrams (hs : s.state = .stateLent) :
    ∀ (ds : List MsgDatagram), (∀ d ∈ ds, d.Complete) → (∀ d ∈ ds, ∀ m ∈ d.messages, ¬m.Short) →
      (∀ d ∈ ds, udpEndpointEqual d.sender s.borrowerEndpoint = false) →
      ∀ {asked : List (UdpEndpoint × WireMsg)} {t : Sink}, Refuses s asked t →
        ∃ t', ds.foldlM (sinkHandleDatagram H) t = .ok t' ∧
          Refuses s (asked ++ ds.flatMap MsgDatagram.asked) t' := by
  intro ds
  induction ds with
  | nil =>
    intro _ _ _ asked t ht
    exact ⟨t, rfl, by rw [List.flatMap_nil, List.append_nil]; exact ht⟩
  | cons d ds ih =>
    intro hc hno hf asked t ht
    obtain ⟨t₁, e₁, ht₁⟩ := sinkHandleDatagram_refuses H hs (hc d List.mem_cons_self) (hf d List.mem_cons_self)
      (hno d List.mem_cons_self) ht
    obtain ⟨t₂, e₂, ht₂⟩ := ih (fun d' hd => hc d' (List.mem_cons_of_mem _ hd))
      (fun d' hd => hno d' (List.mem_cons_of_mem _ hd)) (fun d' hd => hf d' (List.mem_cons_of_mem _ hd)) ht₁
    refine ⟨t₂, by rw [List.foldlM_cons, e₁, ok_bind, e₂], ?_⟩
    rw [List.append_assoc] at ht₂
    exact ht₂

/-- Foreign datagrams with a short ENQUEUE among them: one ends the session, and none of the others brings it back. -/
theorem foldlM_short_datagrams (ds : List MsgDatagram) {s' : Sink} (hc : ∀ d ∈ ds, d.Complete)
    (hshort : ∃ d ∈ ds, ∃ m ∈ d.messages, m.Short) (h : SinkInv s) (hs : s.state = .stateLent)
    (hf : ∀ d ∈ ds, udpEndpointEqual d.sender s.borrowerEndpoint = false)
    (e : ds.foldlM (sinkHandleDatagram H) s = .ok s') : Lost s.borrowerEndpoint s' := by
  have hlost : SinkInv s' ∧ Lost s.borrowerEndpoint s' := by
    refine foldlM_first (fun t => SinkInv t ∧ SameSession s t) (fun t => SinkInv t ∧ Lost s.borrowerEndpoint t)
      (fun d => ∃ m ∈ d.messages, m.Short) ds ?_ ?_ ?_ hshort ⟨h, SameSession.refl s⟩ e
    · rintro d hd hno t ⟨ht, hsame⟩
      have hft : udpEndpointEqual d.sender t.borrowerEndpoint = false := by
        rw [hsame.borrower]
        exact hf d hd
      obtain ⟨t', e, ht'⟩ := sinkHandleDatagram_refuses H (hsame.state.trans hs) (hc d hd) hft
        (fun m hm hms => hno ⟨m, hm, hms⟩) (Refuses.refl ht)
      exact ⟨t', e, ht'.inv, hsame.trans ht'.same⟩
    · intro d hd hd' t t' ht et
      exact sinkHandleDatagram_short H hs (hc d hd) (hf d hd) hd' ht et
    · intro d hd t t' ht et
      have hflip : udpEndpointEqual s.borrowerEndpoint d.sender = false := by
        rw [udpEndpointEqual_comm]
        exact hf d hd
      exact sinkHandleDatagram_lost H (hc d hd) hflip ht et
  exact hlost.2

/-- The session of a sink, as its borrower sees it, is in the second sink what it is in the first. -/
structure Untouched (s s' : Sink) : Prop where
  state : s'.state = s.state
  borrower : s'.borrowerEndpoint = s.borrowerEndpoint
  ring : s'.pendingFrames = s.pendingFrames
  idx : s'.lastEnqueuedFrameIdx = s.lastEnqueuedFrameIdx
  origin : s'.timeOrigin = s.timeOrigin
  duration : s'.frameDurationMs = s.frameDurationMs
  shown : ∀ now frame, sinkShown now s' frame = sinkShown now s frame

theorem SameSession.untouched {s s' : Sink} (h : SameSession s s') (hi : SinkInv s) (hi' : SinkInv s') :
    Untouched s s' :=
  ⟨h.state, h.borrower, h.ring, h.idx, h.origin, h.duration, h.shown hi hi'⟩

/-- **Foreign datagrams leave a session untouched**, and each of their messages is answered by a FAIL to its sender,
**iff** none holds an ENQUEUE with a frame that is too short. -/
theorem foreign_untouched_iff {s : Sink} (hr : Reachable H s) (hs : s.state = .stateLent) (ds : List MsgDatagram)
    (hc : ∀ d ∈ ds, d.Complete) (hf : ∀ d ∈ ds, udpEndpointEqual d.sender s.borrowerEndpoint = false) :
    (∃ s', ds.foldlM (sinkHandleDatagram H) s = .ok s' ∧ Untouched s s' ∧
        s'.socket = s.socket ++ refusals s.builder.nextMsgId (ds.flatMap MsgDatagram.asked)) ↔
      ∀ d ∈ ds, ∀ m ∈ d.messages, ¬m.Short := by
  have h := reachable_inv hr
  constructor
  · rintro ⟨s', e, hu, -⟩ d hd m hm hshort
    have hlost := foldlM_short_datagrams H ds hc ⟨d, hd, m, hm, hshort⟩ h hs hf e
    have hfalse := hlost (hu.state.trans hs)
    rw [hu.borrower, udpEndpointEqual_refl] at hfalse
    cases hfalse
  · intro hno
    obtain ⟨s', e, href⟩ := foldlM_foreign_datagrams H hs ds hc hno hf (Refuses.refl h)
    exact ⟨s', e, href.same.untouched h href.inv, href.socket⟩

end Datagrams

/-- Another endpoint. -/
def otherEndpoint : UdpEndpoint := ⟨[10, 0, 0, 2], 4⟩

/-- A datagram with one ENQUEUE message. -/
def foreignEnqueue (payload : Bytes) (h : payload.length ≤ 65535) : MsgDatagram :=
  ⟨fun _ => 1000, otherEndpoint, [⟨2, 0, payload, h⟩], []⟩

/-- The other endpoint's frame of three bytes is refused, and leaves the session untouched. -/
theorem foreign_untouched_frame :
    ∃ s, sinkCall exampleHost (freshSink exampleHost 1 true)
        (.state exampleClock (some ⟨(WireMsg.borrow 0 20 1).bytes, exampleEndpoint⟩)) = .ok s ∧
      ∃ s', [foreignEnqueue [0, 3, 0, 1, 2, 3] (by decide)].foldlM (sinkHandleDatagram exampleHost) s = .ok s' ∧
        Untouched s s' ∧
        s'.socket =
          s.socket ++ refusals s.builder.nextMsgId [(otherEndpoint, ⟨2, 0, [0, 3, 0, 1, 2, 3], by decide⟩)] := by
  obtain ⟨s, hs⟩ := exists_firstSession exampleHost (d := 20) (n := 1) (by decide) (by decide) exampleClock
    exampleEndpoint
  refine ⟨s, hs.call, (foreign_untouched_iff exampleHost hs.reachable hs.session.state _ ?_ ?_).mpr ?_⟩
  · intro d hd m hm
    rw [List.mem_singleton] at hd
    subst hd
    rw [List.mem_singleton.mp hm]
    decide
  · intro d hd
    rw [List.mem_singleton] at hd
    rw [hs.session.borrower, hd]
    decide
  · intro d hd m hm
    rw [List.mem_singleton] at hd
    subst hd
    rw [List.mem_singleton.mp hm]
    simp [WireMsg.Short]

/-- **The other endpoint's ENQUEUE with an empty frame** ends the session of the borrower. -/
theorem foreign_frame_ends_session :
    ∃ s, sinkCall exampleHost (freshSink exampleHost 1 true)
        (.state exampleClock (some ⟨(WireMsg.borrow 0 20 1).bytes, exampleEndpoint⟩)) = .ok s ∧
      Reachable exampleHost s ∧ s.state = .stateLent ∧
      udpEndpointEqual otherEndpoint s.borrowerEndpoint = false ∧ (foreignEnqueue [0, 0, 0] (by decide)).Complete ∧
      ∃ s', [foreignEnqueue [0, 0, 0] (by decide)].foldlM (sinkHandleDatagram exampleHost) s = .ok s' ∧
        s'.state = .stateOpen := by
  obtain ⟨s, hs⟩ := exists_firstSession exampleHost (d := 20) (n := 1) (by decide) (by decide) exampleClock
    exampleEndpoint
  have hcomplete : (foreignEnqueue [0, 0, 0] (by decide)).Complete := by
    intro m hm
    rw [List.mem_singleton.mp hm]
    decide
  refine ⟨s, hs.call, hs.reachable, hs.session.state, by rw [hs.session.borrower]; decide, hcomplete, ?_⟩
  set d := foreignEnqueue [0, 0, 0] (by decide) with hd
  obtain ⟨s', e', hopen⟩ := sinkHandleWire_short exampleHost (s := { s with recvBuf := wire d.messages ++ d.leftover })
    (p := (0, ⟨2, 0, [0, 0, 0], by decide⟩)) (hs.inv.withRecvBuf _) hs.session.state
    ⟨rfl, by decide⟩ (by decide) d.clock d.sender
  refine ⟨s', ?_, hopen⟩
  rw [List.foldlM_cons, sinkHandleDatagram_eq exampleHost hcomplete]
  show List.foldlM _ _ [(0, _)] >>= _ = _
  rw [List.foldlM_cons, e']
  rfl

end Atolla

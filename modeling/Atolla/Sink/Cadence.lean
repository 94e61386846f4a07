import Atolla.Sink.Sends
import Atolla.Sink.Timeout

/-!
# How often the sink sends a LENT

Behind every update of a lent sink its last LENT is at most `lent_send_interval` old, by the reading of `sink_send`
(`Cadenced`): an update sends the next one itself when it is older, and a granted BORROW is answered by one at once.
-/

set_option autoImplicit false

namespace Atolla

open Loop Relation

/-- **Behind an update** from `s`, the sink `s'` sent its borrower a LENT in it, or the last one is recent. -/
inductive Cadenced (clock : SinkClock) (s s' : Sink) : Prop
  | sent (id : UInt16) : (Reply.lent.bytes id, s'.borrowerEndpoint) ∈ s'.socket.drop s.socket.length →
      s'.lastSendLentTime = clock.lent ∨ s'.lastSendLentTime = clock.message 0 → Cadenced clock s s'
  | kept : s'.lastSendLentTime = s.lastSendLentTime → clock.send - s.lastSendLentTime ≤ lentSendInterval →
      Cadenced clock s s'

section Times

variable {H : Host} {s s' : Sink} {sender : UdpEndpoint} {clock : SinkClock}

/-! ## What does not touch `last_send_lent_time` -/

theorem sinkSendFailTo_lentTime (h : SinkInv s) {id : UInt16} {code : ErrorCode}
    (e : sinkSendFailTo H s id code sender = .ok s') : s'.lastSendLentTime = s.lastSendLentTime := by
  obtain ⟨builder, e', -⟩ := sinkSendFailTo_spec H h id code sender
  rw [e', Except.ok.injEq] at e
  subst e
  rfl

theorem sinkEnqueue_lentTime {frame : MemBlock} (e : sinkEnqueue s frame = .ok s') :
    s'.lastSendLentTime = s.lastSendLentTime := by
  unfold sinkEnqueue at e
  obtain ⟨data, -, e⟩ := bind_eq_ok.mp e
  obtain ⟨⟨ok, ring⟩, -, e⟩ := bind_eq_ok.mp e
  cases ok with
  | true =>
    cases e
    rfl
  | false =>
    cases e
    rfl

theorem sinkEnqueueLoop_lentTime {n idx : Nat} {frame : MemBlock} (e : sinkEnqueueLoop n s idx frame = .ok s') :
    s'.lastSendLentTime = s.lastSendLentTime :=
  (whileM_inv (fun t : Sink => t.lastSendLentTime = s.lastSendLentTime)
    (fun _ _ ht _ e => (sinkEnqueue_lentTime e).trans ht) n s s' rfl e).1

theorem sinkHandleEnqueue_lentTime (h : SinkInv s) {id : UInt16} {idx : Nat} {frame : MemBlock}
    (e : sinkHandleEnqueue H s id idx frame sender = .ok s') : s'.lastSendLentTime = s.lastSendLentTime := by
  unfold sinkHandleEnqueue sinkHandleEnqueueFor at e
  split at e
  · cases e
    rfl
  split at e
  · exact sinkSendFailTo_lentTime h e
  split at e
  · obtain ⟨s₁, h₁, e⟩ := bind_eq_ok.mp e
    cases e
    show s₁.lastSendLentTime = _
    exact sinkSendFailTo_lentTime h h₁
  split at e
  · split at e
    · cases e
      rfl
    · exact sinkEnqueueLoop_lentTime e
  · exact sinkSendFailTo_lentTime h e

/-- A get changes no time but that of the frames. -/
theorem sinkCall_get_times (h : SinkInv s) {now : UInt32} {frame : Bytes} (e : sinkCall H s (.get now frame) = .ok s') :
    s'.lastSendLentTime = s.lastSendLentTime ∧ s'.lastRecvTime = s.lastRecvTime ∧ s'.socket = s.socket ∧
      s'.lease = s.lease := by
  obtain ⟨r, hr, e⟩ := bind_eq_ok.mp e
  cases e
  by_cases hs : s.state = .stateLent
  · obtain ⟨s₁, e₁, hshown⟩ := atollaSinkGet_lent h hs now frame
    rw [e₁, Except.ok.injEq] at hr
    rw [← hr, Sink.lease, Sink.lease]
    show s₁.lastSendLentTime = _ ∧ s₁.lastRecvTime = _ ∧ s₁.socket = _ ∧
      (if s₁.state = _ then some (s₁.borrowerEndpoint, s₁.frameDurationMs) else none) = _
    rw [hshown.same]
    exact ⟨rfl, rfl, rfl, rfl⟩
  · rw [atollaSinkGet_idle hs, Except.ok.injEq] at hr
    rw [← hr]
    exact ⟨rfl, rfl, rfl, rfl⟩

/-! ## What sends a LENT -/

/-- **A request** is answered by a LENT, or leaves the time of the last one alone. -/
theorem sinkHandleRequest_lentTime (h : SinkInv s) (hs : s.state ≠ .stateError) {now : UInt32} {id : UInt16}
    {r : Request} (e : sinkHandleRequest H now sender s id r = .ok s') :
    s'.lastSendLentTime = s.lastSendLentTime ∨ (s'.lastSendLentTime = now ∧ s'.borrowerEndpoint = sender ∧
      s'.socket = s.socket ++ [(Reply.lent.bytes s.builder.nextMsgId, sender)]) := by
  cases r with
  | borrow frameLength bufferLength =>
    have e' : sinkHandleBorrow H now s id frameLength.toNat bufferLength.toNat sender = .ok s' := e
    cases he : s.session.borrowError sender frameLength bufferLength with
    | none =>
      obtain ⟨builder, e₁, -⟩ := sinkHandleBorrow_lends H h (Sink.lends_of_borrowError hs he) now id
      rw [e₁, Except.ok.injEq] at e'
      subst e'
      exact .inr ⟨rfl, rfl, rfl⟩
    | some code =>
      left
      rw [sinkHandleBorrow_error h hs he] at e'
      split at e'
      · exact sinkSendFailTo_lentTime h e'
      · obtain ⟨s₁, h₁, e'⟩ := bind_eq_ok.mp e'
        cases e'
        rw [← sinkSendFailTo_lentTime h h₁]
        split
        · rfl
        · rfl
  | enqueue frameIdx frame => exact .inl (sinkHandleEnqueue_lentTime h e)
  | other => exact .inl (sinkSendFailTo_lentTime h e)

/-- **`sink_send`** of a lent sink. -/
theorem sinkSend_lentTime (h : SinkInv s) (hs : s.state = .stateLent) (e : sinkSend H clock s = .ok s') :
    s'.borrowerEndpoint = s.borrowerEndpoint ∧ ((s'.lastSendLentTime = clock.lent ∧
      s'.socket = s.socket ++ [(Reply.lent.bytes s.builder.nextMsgId, s.borrowerEndpoint)]) ∨
    (s'.lastSendLentTime = s.lastSendLentTime ∧ clock.send - s.lastSendLentTime ≤ lentSendInterval ∧
      s'.socket = s.socket)) := by
  rw [sinkSend, if_pos hs] at e
  split at e
  · obtain ⟨builder, e', -⟩ := sinkSendLent_spec H h clock.lent
    rw [e', Except.ok.injEq] at e
    subst e
    exact ⟨rfl, .inl ⟨rfl, rfl⟩⟩
  · rename_i hrecent
    cases e
    exact ⟨rfl, .inr ⟨rfl, UInt32.not_lt.mp hrecent, rfl⟩⟩

/-- **An update with a request**, if the sink is lent behind it. -/
theorem atollaSinkState_cadence (h : SinkInv s) (hs : s.state ≠ .stateError) {m : WireMsg} {r : Request}
    (hr : m.request = some r) (hfit : m.bytes.length ≤ sinkRecvBufLen)
    (e : atollaSinkState H clock s (some ⟨m.bytes, sender⟩) = .ok s') (hs' : s'.state = .stateLent) :
    Cadenced clock s s' := by
  rw [atollaSinkState_one H hs hr hfit] at e
  obtain ⟨s₁, h₁, h₂⟩ := bind_eq_ok.mp e
  have hi : SinkInv { s with recvBuf := m.bytes ++ s.recvBuf.drop m.bytes.length } := h.withRecvBuf _
  obtain ⟨-, -, hans⟩ := sinkHandleRequest_handled hi hs h₁
  have hi₁ := hans.inv.withRecvTime clock.received
  have hs₁ : s₁.state = .stateLent := (sinkSend_sent hi₁ h₂).1.state.symm.trans hs'
  obtain ⟨hto, hsend⟩ := sinkSend_lentTime hi₁ hs₁ h₂
  have hmsg := sinkHandleRequest_lentTime hi hs h₁
  obtain ⟨more, hmore⟩ : ∃ more, s₁.socket = s.socket ++ more := ⟨_, hans.socket⟩
  rcases hsend with ⟨htime, hsocket⟩ | ⟨htime, hrecent, hsocket⟩
  · refine .sent s₁.builder.nextMsgId ?_ (.inl htime)
    rw [hsocket, hto]
    show _ ∈ (s₁.socket ++ _).drop s.socket.length
    rw [hmore, List.append_assoc, List.drop_left]
    exact List.mem_append_right more (List.mem_singleton.mpr rfl)
  · rcases hmsg with hsame | ⟨hnow, hb, hsent⟩
    · exact .kept (htime.trans hsame) (hsame ▸ hrecent)
    · refine .sent s.builder.nextMsgId ?_ (.inr (htime.trans hnow))
      rw [hsocket, hto]
      show (_, s₁.borrowerEndpoint) ∈ s₁.socket.drop s.socket.length
      rw [hsent, hb, List.drop_left]
      exact List.mem_singleton.mpr rfl

/-- **A BORROW that is granted** is answered by a LENT in the same update. -/
theorem atollaSinkState_granted_lentTime (h : SinkInv s) (hs : s.state ≠ .stateError) {m : WireMsg}
    {frameLength bufferLength : UInt8} (hr : m.request = some (.borrow frameLength bufferLength))
    (hfit : m.bytes.length ≤ sinkRecvBufLen)
    (he : s.session.borrowError sender frameLength bufferLength = none)
    (e : atollaSinkState H clock s (some ⟨m.bytes, sender⟩) = .ok s') :
    s'.lastSendLentTime = clock.lent ∨ s'.lastSendLentTime = clock.message 0 := by
  rw [atollaSinkState_one H hs hr hfit] at e
  obtain ⟨s₁, h₁, h₂⟩ := bind_eq_ok.mp e
  have hi : SinkInv { s with recvBuf := m.bytes ++ s.recvBuf.drop m.bytes.length } := h.withRecvBuf _
  have h₁' : sinkHandleBorrow H (clock.message 0) { s with recvBuf := m.bytes ++ s.recvBuf.drop m.bytes.length } m.id
      frameLength.toNat bufferLength.toNat sender = .ok s₁ := h₁
  obtain ⟨builder, e₁, -⟩ := sinkHandleBorrow_lends H hi (Sink.lends_of_borrowError hs he) (clock.message 0) m.id
  rw [e₁, Except.ok.injEq] at h₁'
  have hs₁ : s₁.state = .stateLent := by
    rw [← h₁']
    rfl
  have ht₁ : s₁.lastSendLentTime = clock.message 0 := by
    rw [← h₁']
    rfl
  have hi₁ := (sinkHandleRequest_inv H hi h₁).withRecvTime clock.received
  rcases (sinkSend_lentTime hi₁ hs₁ h₂).2 with ⟨htime, -⟩ | ⟨htime, -⟩
  · exact .inl htime
  · exact .inr (htime.trans ht₁)

/-- **The sink was lent** to the sender of a BORROW, and sent it a LENT. -/
structure Grants (clock : SinkClock) (sender : UdpEndpoint) (s s' : Sink) : Prop where
  lent : s'.state = .stateLent
  borrower : s'.borrowerEndpoint = sender
  socket : ∃ lents : List (Bytes × UdpEndpoint),
    s'.socket = s.socket ++ (Reply.lent.bytes s.builder.nextMsgId, sender) :: lents ∧
      ∀ d ∈ lents, ∃ id, d.1 = Reply.lent.bytes id
  sent : s'.lastSendLentTime = clock.lent ∨ s'.lastSendLentTime = clock.message 0
  received : s'.lastRecvTime = clock.received

/-- **A free sink** grants a BORROW with a frame duration and a buffer length that it can have. -/
theorem atollaSinkState_grants (h : SinkInv s) (hs : s.state = .stateOpen) {m : WireMsg}
    {frameLength bufferLength : UInt8} (hr : m.request = some (.borrow frameLength bufferLength))
    (hfit : m.bytes.length ≤ sinkRecvBufLen) (h10 : 10 ≤ frameLength.toNat) (h128 : bufferLength.toNat ≤ 128)
    (e : atollaSinkState H clock s (some ⟨m.bytes, sender⟩) = .ok s') : Grants clock sender s s' := by
  have hne : s.state ≠ .stateError := by simp [hs]
  have hopen : s.session = .open := if_neg (by simp [hs])
  have hnobody : ¬Session.Foreign sender .open := fun hf => hf
  have he : s.session.borrowError sender frameLength bufferLength = none := by
    rw [hopen, Session.borrowError, if_neg hnobody, if_neg (by omega), if_neg (by omega)]
  have hanswer : s.session.answer sender m.id (.borrow frameLength bufferLength) = (some .lent, .lent sender) :=
    Session.answer_borrow he
  have hup := atollaSinkState_request h hne hr hfit e
  have hsession : s'.session = .lent sender := hup.session.trans (congrArg Prod.snd hanswer)
  have hlent : s'.state = .stateLent := by
    by_contra hno
    rw [Sink.session, if_neg hno] at hsession
    cases hsession
  rw [Sink.session_lent hlent, Session.lent.injEq] at hsession
  refine ⟨hlent, hsession, ?_, atollaSinkState_granted_lentTime h hne hr hfit he e, ?_⟩
  · obtain ⟨lents, hsocket, hlents⟩ := hup.socket
    refine ⟨lents, ?_, fun d hd => (hlents d hd).2.2⟩
    rw [hsocket, hanswer, List.append_assoc]
    rfl
  · exact atollaSinkState_heard_recvTime h hne hfit e

/-- A free sink that receives nothing stays as it is. -/
theorem sinkCall_free {c : SinkCall} (hs : s.state = .stateOpen)
    (hc : ∀ clock datagram, c ≠ .state clock (some datagram)) (e : sinkCall H s c = .ok s') : s' = s := by
  cases c with
  | get now frame =>
    obtain ⟨r, hr, e⟩ := bind_eq_ok.mp e
    rw [atollaSinkGet_idle (by simp [hs])] at hr
    cases hr
    cases e
    rfl
  | state clock datagram =>
    cases datagram with
    | some datagram => exact absurd rfl (hc clock datagram)
    | none =>
      have e' : atollaSinkState H clock s none = .ok s' := e
      rw [atollaSinkState, if_pos (by simp [hs])] at e'
      obtain ⟨s₁, h₁, h₂⟩ := bind_eq_ok.mp e'
      have hnothing : sinkReceive H clock s none = .ok s := by
        rw [sinkReceive, show udpSocketReceiveFrom s.recvBuf sinkRecvBufLen none = none from rfl]
        exact if_neg (by simp [hs])
      rw [hnothing, Except.ok.injEq] at h₁
      subst h₁
      rw [sinkSend, if_neg (by simp [hs]), Except.ok.injEq] at h₂
      exact h₂.symm

/-- **An update that finds nothing**, if the sink is lent behind it. -/
theorem atollaSinkState_none_cadence (h : SinkInv s) (e : atollaSinkState H clock s none = .ok s')
    (hs' : s'.state = .stateLent) : s.state = .stateLent ∧ s'.lease = s.lease ∧ s'.lastRecvTime = s.lastRecvTime ∧
      (∀ d ∈ s'.socket.drop s.socket.length, ∃ id, d.1 = Reply.lent.bytes id) ∧ Cadenced clock s s' := by
  have hs : s.state = .stateLent := by
    rcases sinkCall_lease (c := .state clock none) h e with hsame | hnone | ⟨_, _, _, hc, -⟩
    · rw [Sink.lease_lent hs'] at hsame
      exact (Sink.lease_eq_some.mp hsame.symm).1
    · rw [Sink.lease_lent hs'] at hnone
      cases hnone
    · cases hc
  rw [atollaSinkState, if_pos (by simp [hs])] at e
  have hrecv := sinkUpdate_silent_recvTime h rfl e
  obtain ⟨s₁, h₁, h₂⟩ := bind_eq_ok.mp e
  rw [sinkReceive, show udpSocketReceiveFrom s.recvBuf sinkRecvBufLen none = none from rfl] at h₁
  simp only at h₁
  split at h₁
  · -- it would have dropped the borrow
    obtain ⟨s₂, e₂, h₁⟩ := bind_eq_ok.mp h₁
    cases h₁
    rw [sinkSend, if_neg (by simp [sinkDropBorrow])] at h₂
    cases h₂
    cases hs'
  · cases h₁
    obtain ⟨hto, hsend⟩ := sinkSend_lentTime h hs h₂
    have hsame := (sinkSend_sent h h₂).1
    refine ⟨hs, hsame.lease, hrecv, ?_, ?_⟩
    · rcases hsend with ⟨-, hsocket⟩ | ⟨-, -, hsocket⟩
      · rw [hsocket, List.drop_left]
        intro d hd
        exact ⟨_, congrArg Prod.fst (List.mem_singleton.mp hd)⟩
      · rw [hsocket, List.drop_length]
        intro d hd
        cases hd
    · rcases hsend with ⟨htime, hsocket⟩ | ⟨htime, hrecent, -⟩
      · refine .sent s.builder.nextMsgId ?_ (.inl htime)
        rw [hsocket, hto, List.drop_left]
        exact List.mem_singleton.mpr rfl
      · exact .kept htime hrecent

/-- **An update that finds nothing** keeps a session as long as the last datagram is not too old. -/
theorem atollaSinkState_none_lent (h : SinkInv s) (hs : s.state = .stateLent)
    (hearly : ¬dropTimeout < clock.received - s.lastRecvTime) (e : atollaSinkState H clock s none = .ok s') :
    s'.state = .stateLent := by
  rw [atollaSinkState, if_pos (by simp [hs])] at e
  exact (sinkUpdate_silent h hs rfl e).2 hearly

end Times

end Atolla

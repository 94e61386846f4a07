import Atolla.Sink.History
import Atolla.Sink.Replies

/-!
# What a call of the sink sends

Whatever a sink receives, it sends nothing but LENTs and FAILs, and these to the sender of the datagram, but for a FAIL
to a borrower that was silent for too long and the regular LENT to the borrower (`sinkCall_sent`). What a request does
to the sink beyond its reply is one of four things (`Handled`).
-/

set_option autoImplicit false

namespace Atolla

open Loop Relation

/-! ## Replies -/

/-- Between `s` and `s'` the sink sent some replies to an endpoint, and nothing else. -/
def RepliesTo (sender : UdpEndpoint) (s s' : Sink) : Prop :=
  ∃ rs : List (UInt16 × Reply), s'.socket = s.socket ++ rs.map fun r => (r.2.bytes r.1, sender)

section Replies

variable {H : Host} {s s' s'' : Sink} {sender : UdpEndpoint}

theorem RepliesTo.of_socket_eq (h : s'.socket = s.socket) : RepliesTo sender s s' := ⟨[], by simp [h]⟩

theorem RepliesTo.trans (h : RepliesTo sender s s') (h' : RepliesTo sender s' s'') : RepliesTo sender s s'' := by
  obtain ⟨rs, e⟩ := h
  obtain ⟨rs', e'⟩ := h'
  exact ⟨rs ++ rs', by rw [e', e, List.map_append, List.append_assoc]⟩

theorem sinkSendFailTo_replies (h : SinkInv s) {id : UInt16} {code : ErrorCode}
    (e : sinkSendFailTo H s id code sender = .ok s') : RepliesTo sender s s' := by
  obtain ⟨builder, e', -⟩ := sinkSendFailTo_spec H h id code sender
  rw [e', Except.ok.injEq] at e
  subst e
  exact ⟨[(s.builder.nextMsgId, .fail id code)], rfl⟩

theorem sinkSendLent_replies (h : SinkInv s) {now : UInt32} (e : sinkSendLent H now s = .ok s') :
    RepliesTo s.borrowerEndpoint s s' := by
  obtain ⟨builder, e', -⟩ := sinkSendLent_spec H h now
  rw [e', Except.ok.injEq] at e
  subst e
  exact ⟨[(s.builder.nextMsgId, .lent)], rfl⟩

/-- A FAIL, behind which a session may end. -/
theorem sinkSendFailTo_end_replies (h : SinkInv s) {id : UInt16} {code : ErrorCode} {g : Sink → Sink}
    (hg : ∀ t, (g t).socket = t.socket) (e : (sinkSendFailTo H s id code sender >>= fun t => pure (g t)) = .ok s') :
    RepliesTo sender s s' := by
  obtain ⟨s₁, h₁, e⟩ := bind_eq_ok.mp e
  cases e
  exact (sinkSendFailTo_replies h h₁).trans (.of_socket_eq (hg s₁))

theorem sinkHandleBorrow_replies (h : SinkInv s) {now : UInt32} {id : UInt16} {d : Int} {n : Nat} (hd : d ≤ 255)
    (e : sinkHandleBorrow H now s id d n sender = .ok s') : RepliesTo sender s s' := by
  have hdrop : ∀ t : Sink, (if t.state = .stateLent then sinkDropBorrow t else t).socket = t.socket := by
    intro t
    split
    · rfl
    · rfl
  unfold sinkHandleBorrow at e
  split at e
  · simp only at e
    split at e
    · exact sinkSendFailTo_end_replies h hdrop e
    · split at e
      · exact sinkSendFailTo_end_replies h hdrop e
      · rename_i hslow
        have hg := h.granted (Int.not_lt.mp hslow) hd sender
        exact sinkSendLent_replies hg e
  · split at e
    · exact sinkSendFailTo_replies h e
    · cases e
      exact .of_socket_eq rfl

/-- `sink_enqueue` sends nothing. -/
theorem sinkEnqueue_socket {frame : MemBlock} (e : sinkEnqueue s frame = .ok s') : s'.socket = s.socket := by
  unfold sinkEnqueue at e
  obtain ⟨data, -, e⟩ := bind_eq_ok.mp e
  obtain ⟨⟨ok, ring⟩, -, e⟩ := bind_eq_ok.mp e
  cases ok with
  | true =>
    cases e
    rfl
  | false =>
    cases e
    rfl

theorem sinkEnqueueLoop_socket {n idx : Nat} {frame : MemBlock} (e : sinkEnqueueLoop n s idx frame = .ok s') :
    s'.socket = s.socket :=
  (whileM_inv (fun t : Sink => t.socket = s.socket) (fun _ _ ht _ e => (sinkEnqueue_socket e).trans ht) n s s' rfl e).1

theorem sinkHandleEnqueue_replies (h : SinkInv s) {id : UInt16} {idx : Nat} {frame : MemBlock}
    (e : sinkHandleEnqueue H s id idx frame sender = .ok s') : RepliesTo sender s s' := by
  unfold sinkHandleEnqueue sinkHandleEnqueueFor at e
  split at e
  · cases e
    exact .of_socket_eq rfl
  split at e
  · exact sinkSendFailTo_replies h e
  split at e
  · exact sinkSendFailTo_end_replies (g := sinkDropBorrow) h (fun _ => rfl) e
  split at e
  · split at e
    · cases e
      exact .of_socket_eq rfl
    · exact .of_socket_eq (sinkEnqueueLoop_socket e)
  · exact sinkSendFailTo_replies h e

/-- **Any message** is answered to its sender. -/
theorem sinkHandleMsg_replies (h : SinkInv s) {now : UInt32} {iter : MsgIter}
    (e : sinkHandleMsg H now sender s iter = .ok s') : RepliesTo sender s s' := by
  unfold sinkHandleMsg at e
  obtain ⟨type, -, e⟩ := bind_eq_ok.mp e
  obtain ⟨id, -, e⟩ := bind_eq_ok.mp e
  cases type with
  | borrow =>
    obtain ⟨fl, -, e⟩ := bind_eq_ok.mp e
    obtain ⟨bl, -, e⟩ := bind_eq_ok.mp e
    exact sinkHandleBorrow_replies h (by have := fl.toNat_lt; omega) e
  | enqueue =>
    obtain ⟨idx, -, e⟩ := bind_eq_ok.mp e
    obtain ⟨frame, -, e⟩ := bind_eq_ok.mp e
    exact sinkHandleEnqueue_replies h e
  | lent => exact sinkSendFailTo_replies h e
  | fail => exact sinkSendFailTo_replies h e

theorem sinkIterateRecvBuf_replies (h : SinkInv s) {clock : Nat → UInt32} {n : Nat}
    (e : sinkIterateRecvBuf H clock s n sender = .ok s') : RepliesTo sender s s' := by
  unfold sinkIterateRecvBuf msgLoop at e
  obtain ⟨⟨s₁, iter⟩, h₁, h₂⟩ := bind_eq_ok.mp e
  cases h₂
  refine (whileM_inv (fun p : Sink × MsgIter => SinkInv p.1 ∧ RepliesTo sender s p.1) ?_ n _ _
    ⟨h, .of_socket_eq rfl⟩ h₁).1.2
  rintro ⟨t, iter⟩ ⟨t', iter'⟩ ⟨hi, ht⟩ - hround
  obtain ⟨t₂, h₂, h₃⟩ := bind_eq_ok.mp hround
  obtain ⟨iter₂, -, h₄⟩ := bind_eq_ok.mp h₃
  cases h₄
  exact ⟨sinkHandleMsg_inv H hi h₂, ht.trans (sinkHandleMsg_replies hi h₂)⟩

end Replies

/-! ## Calls -/

/-- **An update loses its borrower**: it finds nothing, as for too long, and the session ends. -/
structure LosesBorrower (clock : SinkClock) (dg : Option Datagram) (s s' : Sink) : Prop where
  lent : s.state = .stateLent
  nothing : udpSocketReceiveFrom s.recvBuf sinkRecvBufLen dg = none
  late : dropTimeout < clock.received - s.lastRecvTime
  dropped : s'.state = .stateOpen

/-- **What a call sends**, and to whom. -/
inductive SinkSends (c : SinkCall) (s s' : Sink) : Reply → UdpEndpoint → Prop
  /-- An answer to the datagram that the call finds. -/
  | answer {clock : SinkClock} {datagram : Datagram} (r : Reply) : c = .state clock (some datagram) →
      SinkSends c s s' r datagram.sender
  /-- The borrower was silent for too long. -/
  | timeout {clock : SinkClock} {dg : Option Datagram} : c = .state clock dg → LosesBorrower clock dg s s' →
      SinkSends c s s' (.fail 0 .timeout) s.borrowerEndpoint
  /-- A LENT to the borrower, as long as the session goes on. -/
  | lent : s'.state = .stateLent → SinkSends c s s' .lent s'.borrowerEndpoint

section Call

variable {H : Host} {c : SinkCall} {s s' : Sink}

/-- `sink_send` sends the borrower a LENT, or nothing. -/
theorem sinkSend_sent (h : SinkInv s) {clock : SinkClock} (e : sinkSend H clock s = .ok s') :
    SameSession s s' ∧ (s'.socket = s.socket ∨ (s'.state = .stateLent ∧
      s'.socket = s.socket ++ [(Reply.lent.bytes s.builder.nextMsgId, s'.borrowerEndpoint)])) := by
  have hsame : SameSession s s' := by
    obtain ⟨s₁, e₁, -, hsame⟩ := sinkSend_same H h clock
    rw [e₁, Except.ok.injEq] at e
    exact e ▸ hsame
  refine ⟨hsame, ?_⟩
  unfold sinkSend at e
  split at e
  · rename_i hs
    split at e
    · obtain ⟨builder, e', -⟩ := sinkSendLent_spec H h clock.lent
      rw [e', Except.ok.injEq] at e
      subst e
      exact .inr ⟨hs, rfl⟩
    · cases e
      exact .inl rfl
  · cases e
    exact .inl rfl

/-- `sink_receive` answers what it finds, or tells a silent borrower. -/
theorem sinkReceive_sent (h : SinkInv s) {clock : SinkClock} {dg : Option Datagram}
    (e : sinkReceive H clock s dg = .ok s') :
    (∃ datagram, dg = some datagram ∧ RepliesTo datagram.sender s s') ∨ s'.socket = s.socket ∨
      (LosesBorrower clock dg s s' ∧ ∃ id,
        s'.socket = s.socket ++ [((Reply.fail 0 .timeout).bytes id, s.borrowerEndpoint)]) := by
  unfold sinkReceive at e
  split at e
  · rename_i recvBuf n sender hrecv
    obtain ⟨s₁, h₁, e⟩ := bind_eq_ok.mp e
    cases e
    cases dg with
    | none => cases hrecv
    | some datagram =>
      obtain ⟨rfl, -⟩ := iterOver_make hrecv
      have hr := sinkIterateRecvBuf_replies (h.withRecvBuf recvBuf) h₁
      exact .inl ⟨datagram, rfl, hr⟩
  · rename_i hnothing
    split at e
    · rename_i hto
      obtain ⟨s₁, h₁, e⟩ := bind_eq_ok.mp e
      cases e
      obtain ⟨builder, e', -⟩ := sinkSendFailTo_spec H h 0 .timeout s.borrowerEndpoint
      rw [sinkSendFail, e', Except.ok.injEq] at h₁
      subst h₁
      exact .inr (.inr ⟨⟨hto.1, hnothing, hto.2, rfl⟩, s.builder.nextMsgId, rfl⟩)
    · cases e
      exact .inr (.inl rfl)

/-- `atolla_sink_get` sends nothing. -/
theorem sinkDequeue_socket {ok : Bool} (e : sinkDequeue s = .ok (ok, s')) : s'.socket = s.socket := by
  unfold sinkDequeue at e
  obtain ⟨⟨ok', ring, data⟩, -, e⟩ := bind_eq_ok.mp e
  cases e
  rfl

theorem atollaSinkGet_socket {now : UInt32} {frame frame' : Bytes} {n : Nat} {result : Bool}
    (e : atollaSinkGet now s frame n = .ok (result, s', frame')) : s'.socket = s.socket := by
  unfold atollaSinkGet at e
  split at e
  · split at e
    · obtain ⟨⟨ok, s₁⟩, h₁, e⟩ := bind_eq_ok.mp e
      have hs₁ := sinkDequeue_socket h₁
      cases ok with
      | true =>
        obtain ⟨shown, -, e⟩ := bind_eq_ok.mp e
        cases e
        exact hs₁
      | false =>
        cases e
        exact hs₁
    · obtain ⟨s₁, h₁, e⟩ := bind_eq_ok.mp e
      obtain ⟨shown, -, e⟩ := bind_eq_ok.mp e
      cases e
      obtain ⟨⟨s₂, goOn⟩, hloop, h₁⟩ := bind_eq_ok.mp h₁
      cases h₁
      refine (whileM_inv (fun p : Sink × Bool => p.1.socket = s.socket) ?_ _ _ _ rfl hloop).1
      rintro p p' hp - hround
      obtain ⟨⟨ok, s₃⟩, h₃, hround⟩ := bind_eq_ok.mp hround
      have hs₃ := (sinkDequeue_socket h₃).trans hp
      cases ok with
      | true =>
        cases hround
        exact hs₃
      | false =>
        cases hround
        exact hs₃
  · cases e
    rfl

/-- **Whatever a sink receives**, a call of it sends LENTs and FAILs only, each to whom it concerns. -/
theorem sinkCall_sent (h : SinkInv s) (e : sinkCall H s c = .ok s') :
    ∃ sent : List (Bytes × UdpEndpoint), s'.socket = s.socket ++ sent ∧
      ∀ d ∈ sent, ∃ id r, d.1 = Reply.bytes id r ∧ SinkSends c s s' r d.2 := by
  cases c with
  | get now frame =>
    obtain ⟨⟨result, s₁, frame'⟩, h₁, h₂⟩ := bind_eq_ok.mp e
    cases h₂
    exact ⟨[], by rw [atollaSinkGet_socket h₁, List.append_nil], by simp⟩
  | state clock dg =>
    have e' : atollaSinkState H clock s dg = .ok s' := e
    unfold atollaSinkState at e'
    split at e'
    · obtain ⟨s₁, h₁, h₂⟩ := bind_eq_ok.mp e'
      obtain ⟨hsame, hsend⟩ := sinkSend_sent (sinkReceive_inv H h h₁) h₂
      -- the answers, and then perhaps a LENT
      have hanswers : ∃ sent : List (Bytes × UdpEndpoint), s₁.socket = s.socket ++ sent ∧
          ∀ d ∈ sent, ∃ id r, d.1 = Reply.bytes id r ∧ SinkSends (.state clock dg) s s' r d.2 := by
        rcases sinkReceive_sent h h₁ with ⟨datagram, rfl, rs, hsocket⟩ | hsocket | ⟨hlost, id, hsocket⟩
        · refine ⟨_, hsocket, fun d hd => ?_⟩
          obtain ⟨r, -, rfl⟩ := List.mem_map.mp hd
          exact ⟨r.1, r.2, rfl, .answer r.2 rfl⟩
        · exact ⟨[], by rw [hsocket, List.append_nil], by simp⟩
        · refine ⟨_, hsocket, fun d hd => ?_⟩
          rw [List.mem_singleton.mp hd]
          exact ⟨id, _, rfl, .timeout rfl { hlost with dropped := hsame.state.trans hlost.dropped }⟩
      obtain ⟨sent, hsent, hall⟩ := hanswers
      rcases hsend with hnone | ⟨hs', hlent⟩
      · exact ⟨sent, hnone.trans hsent, hall⟩
      · refine ⟨sent ++ [(Reply.lent.bytes s₁.builder.nextMsgId, s'.borrowerEndpoint)], ?_, fun d hd => ?_⟩
        · rw [hlent, hsent, List.append_assoc]
        · rcases List.mem_append.mp hd with hd | hd
          · exact hall d hd
          · rw [List.mem_singleton.mp hd]
            exact ⟨_, _, rfl, .lent hs'⟩
    · cases e'
      exact ⟨[], by rw [List.append_nil], by simp⟩

end Call

/-! ## Leases -/

/-- To whom the sink is lent, and for which frame duration. -/
def Sink.lease (s : Sink) : Option (UdpEndpoint × UInt32) :=
  if s.state = .stateLent then some (s.borrowerEndpoint, s.frameDurationMs) else none

section Lease

variable {H : Host} {c : SinkCall} {s s' : Sink}

theorem Sink.lease_lent (hs : s.state = .stateLent) : s.lease = some (s.borrowerEndpoint, s.frameDurationMs) :=
  if_pos hs

theorem Sink.lease_eq_none (hs : s.state ≠ .stateLent) : s.lease = none := if_neg hs

theorem Sink.lease_eq_some {endpoint : UdpEndpoint} {d : UInt32} :
    s.lease = some (endpoint, d) ↔ s.state = .stateLent ∧ s.borrowerEndpoint = endpoint ∧ s.frameDurationMs = d := by
  unfold Sink.lease
  split
  · simp_all
  · simp_all

theorem SameSession.lease (h : SameSession s s') : s'.lease = s.lease := by
  rw [Sink.lease, Sink.lease, h.state, h.borrower, h.duration]

theorem sinkEnqueue_lease {frame : MemBlock} (e : sinkEnqueue s frame = .ok s') : s'.lease = s.lease := by
  unfold sinkEnqueue at e
  obtain ⟨data, -, e⟩ := bind_eq_ok.mp e
  obtain ⟨⟨ok, ring⟩, -, e⟩ := bind_eq_ok.mp e
  cases ok with
  | true =>
    cases e
    rfl
  | false =>
    cases e
    rfl

theorem sinkDequeue_lease {ok : Bool} (e : sinkDequeue s = .ok (ok, s')) : s'.lease = s.lease := by
  unfold sinkDequeue at e
  obtain ⟨⟨ok', ring, data⟩, -, e⟩ := bind_eq_ok.mp e
  cases e
  rfl

/-- The lease stays, or ends, or is that of the sender of a datagram. -/
def LeaseMoves (c : SinkCall) (s s' : Sink) : Prop :=
  s'.lease = s.lease ∨ s'.lease = none ∨
    ∃ clock datagram d, c = .state clock (some datagram) ∧ s'.lease = some (datagram.sender, d)

theorem SinkStep.lease (h : SinkInv s) (hstep : SinkStep H c s s') : LeaseMoves c s s' := by
  cases hstep with
  | receive _ => exact .inl rfl
  | fail e => exact .inl (sinkSendFailTo_session h e).lease
  | lent e => exact .inl (sinkSendLent_session h e).lease
  | grant hc _ _ _ =>
    obtain ⟨clock, hc⟩ := hc
    exact .inr (.inr ⟨clock, _, _, hc, rfl⟩)
  | drop => exact .inr (.inl rfl)
  | store _ _ _ _ e => exact .inl (sinkEnqueue_lease e)
  | dequeue _ e => exact .inl (sinkDequeue_lease e)
  | origin _ => exact .inl rfl
  | recvTime _ => exact .inl rfl

/-- **A call** lends the sink to nobody but the sender of its datagram. -/
theorem sinkCall_lease (h : SinkInv s) (e : sinkCall H s c = .ok s') : LeaseMoves c s s' := by
  have hsteps := sinkCall_steps e
  clear e
  induction hsteps with
  | refl => exact .inl rfl
  | @tail t u hsteps hstep ih =>
    rcases hstep.lease (h.steps hsteps) with hsame | hnone | hnew
    · rw [LeaseMoves, hsame]
      exact ih
    · exact .inr (.inl hnone)
    · exact .inr (.inr hnew)

/-- Without a datagram no frame is stored. -/
theorem sinkCall_enqueued (h : SinkInv s) (hc : ∀ clock datagram, c ≠ .state clock (some datagram))
    (e : sinkCall H s c = .ok s') : s'.enqueued = s.enqueued := by
  have hsteps := sinkCall_steps e
  clear e
  induction hsteps with
  | refl => rfl
  | @tail t u hsteps hstep ih =>
    rcases hstep.enqueued (h.steps hsteps) with hsame | ⟨-, datagram, iter, frame, ⟨⟨clock, rfl⟩, -, -, -⟩, -⟩
    · exact hsame.trans ih
    · exact absurd rfl (hc clock datagram)

/-- Calls of a sink in the error state do nothing. -/
theorem sinkCall_error {c : SinkCall} {s s' : Sink} (hs : s.state = .stateError) (e : sinkCall H s c = .ok s') :
    s' = s := by
  cases c with
  | state clock datagram =>
    have e' : atollaSinkState H clock s datagram = .ok s' := e
    rw [atollaSinkState, if_neg (not_not.mpr hs), Except.ok.injEq] at e'
    exact e'.symm
  | get now frame =>
    obtain ⟨r, hr, e⟩ := bind_eq_ok.mp e
    rw [atollaSinkGet_idle (by simp [hs])] at hr
    cases hr
    cases e
    rfl

end Lease

/-! ## Requests -/

/-- **What a request does** to the sink, beyond its reply. -/
inductive Handled (s s' : Sink) (sender : UdpEndpoint) : Request → Prop
  /-- A session begins, or begins again. -/
  | granted {frameLength bufferLength : UInt8} : s.session.borrowError sender frameLength bufferLength = none →
      s'.lease = some (sender, UInt32.ofInt frameLength.toNat) → s'.enqueued = s.enqueued →
      Handled s s' sender (.borrow frameLength bufferLength)
  /-- Copies of a frame of the borrower are stored. -/
  | stored {frameIdx : UInt8} {frame : Bytes} (copies : Nat) : s.session.enqueueError sender frame = none →
      s'.lease = s.lease → s'.enqueued = s.enqueued ++ List.replicate copies (s.patterned frame) →
      Handled s s' sender (.enqueue frameIdx frame)
  /-- Nothing. -/
  | kept {r : Request} : s'.lease = s.lease → s'.enqueued = s.enqueued → Handled s s' sender r
  /-- The session ends. -/
  | ended {r : Request} : s'.lease = none → s'.enqueued = s.enqueued → Handled s s' sender r

section Request

variable {H : Host} {s s' s'' : Sink} {sender : UdpEndpoint} {r : Request}

/-- A request changes neither the lights nor what comes behind it. -/
theorem Handled.same (h : Handled s s' sender r) (hs : SameSession s' s'') : Handled s s'' sender r := by
  cases h with
  | granted he hl hq => exact .granted he (hs.lease.trans hl) (hs.enqueued.trans hq)
  | stored k he hl hq => exact .stored k he (hs.lease.trans hl) (hs.enqueued.trans hq)
  | kept hl hq => exact .kept (hs.lease.trans hl) (hs.enqueued.trans hq)
  | ended hl hq => exact .ended (hs.lease.trans hl) (hs.enqueued.trans hq)

/-- The lease behind a request. -/
theorem Handled.lease {s s' : Sink} {sender : UdpEndpoint} {r : Request} (h : Handled s s' sender r) :
    s'.lease = s.lease ∨ s'.lease = none ∨ ∃ fl bl, r = .borrow fl bl ∧
      s.session.borrowError sender fl bl = none ∧ s'.lease = some (sender, UInt32.ofInt fl.toNat) := by
  cases h with
  | granted he hl _ => exact .inr (.inr ⟨_, _, rfl, he, hl⟩)
  | stored _ _ hl _ => exact .inl hl
  | kept hl _ => exact .inl hl
  | ended hl _ => exact .inr (.inl hl)

/-- What a BORROW must be to be granted. -/
theorem Session.borrowError_none {session : Session} {sender : UdpEndpoint} {fl bl : UInt8}
    (he : session.borrowError sender fl bl = none) : 10 ≤ fl.toNat ∧ bl.toNat ≤ 128 := by
  unfold Session.borrowError at he
  split at he
  · cases he
  split at he
  · cases he
  split at he
  · cases he
  · omega

theorem sinkHandleBorrow_handled (h : SinkInv s) (hs : s.state ≠ .stateError) {now : UInt32} {id : UInt16}
    {frameLength bufferLength : UInt8}
    (e : sinkHandleBorrow H now s id frameLength.toNat bufferLength.toNat sender = .ok s') :
    Handled s s' sender (.borrow frameLength bufferLength) ∧ s'.lightsCount = s.lightsCount := by
  cases he : s.session.borrowError sender frameLength bufferLength with
  | none =>
    obtain ⟨builder, e', -⟩ := sinkHandleBorrow_lends H h (Sink.lends_of_borrowError hs he) now id
    rw [e', Except.ok.injEq] at e
    subst e
    exact ⟨.granted he rfl rfl, rfl⟩
  | some code =>
    obtain ⟨t, ht, -, hsame⟩ := sinkSendFailTo_same H h id code sender
    rw [sinkHandleBorrow_error h hs he, ht] at e
    by_cases hother : code = .lentToOtherSource
    · rw [if_pos hother, Except.ok.injEq] at e
      subst e
      exact ⟨.kept hsame.lease hsame.enqueued, hsame.lights⟩
    · rw [if_neg hother] at e
      cases e
      split
      · exact ⟨.ended rfl hsame.enqueued, hsame.lights⟩
      · rename_i hno
        exact ⟨.ended (Sink.lease_eq_none hno) hsame.enqueued, hsame.lights⟩

theorem sinkHandleEnqueue_handled (h : SinkInv s) (hs : s.state ≠ .stateError) {id : UInt16} {frameIdx : UInt8}
    {frame : Bytes} (hroom : s.HasRoom sender (.enqueue frameIdx frame))
    (e : sinkHandleEnqueue H s id frameIdx.toNat (MemBlock.ofBytes frame) sender = .ok s') :
    Handled s s' sender (.enqueue frameIdx frame) ∧ s'.lightsCount = s.lightsCount := by
  have hidx := frameIdx.toNat_lt
  cases he : s.session.enqueueError sender frame with
  | some code =>
    obtain ⟨t, ht, -, hsame⟩ := sinkSendFailTo_same H h id code sender
    rw [sinkHandleEnqueue_error hs he, ht] at e
    by_cases hshort : code = .badMsg
    · rw [if_pos hshort] at e
      cases e
      exact ⟨.ended rfl hsame.enqueued, hsame.lights⟩
    · rw [if_neg hshort, Except.ok.injEq] at e
      subst e
      exact ⟨.kept hsame.lease hsame.enqueued, hsame.lights⟩
  | none =>
    obtain ⟨hst, hb, h3⟩ := Sink.takes_of_enqueueError he
    by_cases hfar : 128 < s.distance frameIdx.toNat
    · rw [sinkHandleEnqueue_late H hst hb h3 hfar id, Except.ok.injEq] at e
      subst e
      exact ⟨.kept rfl rfl, rfl⟩
    · obtain ⟨k, hk⟩ := Int.eq_ofNat_of_zero_le (h.distance_nonneg (by omega : frameIdx.toNat ≤ 255))
      have hfits := (hroom hst hb h3).resolve_left hfar
      have hlen := h.length_pending
      rw [h.freeSlots_eq] at hfits
      obtain ⟨t, ht, hstored⟩ := sinkHandleEnqueue_append H h hst hb h3 (MemBlock.valid_ofBytes frame) (by omega)
        hk (by omega) (by omega) id
      rw [ht, Except.ok.injEq] at e
      subst e
      rw [MemBlock.bytes_ofBytes] at hstored
      rw [hstored.same]
      exact ⟨.stored k he rfl rfl, rfl⟩

/-- **Without room** for the copies of its frame a request is never over. -/
theorem sinkHandleRequest_full (h : SinkInv s) (hroom : ¬s.HasRoom sender r) (now : UInt32) (id : UInt16) :
    sinkHandleRequest H now sender s id r = .error .diverges := by
  cases r with
  | borrow _ _ => exact absurd trivial hroom
  | other => exact absurd trivial hroom
  | enqueue frameIdx frame =>
    have hidx := frameIdx.toNat_lt
    simp only [Sink.HasRoom, Classical.not_imp, not_or] at hroom
    obtain ⟨hs, hb, h3, hfar, hfits⟩ := hroom
    have hlen := h.length_pending
    rw [h.freeSlots_eq] at hfits
    show sinkHandleEnqueue H s id frameIdx.toNat (MemBlock.ofBytes frame) sender = _
    rw [sinkHandleEnqueue, sinkHandleEnqueueFor_borrower H hs hb h3, if_neg hfar]
    have hpos : 0 < (MemBlock.ofBytes frame).size := Nat.lt_of_lt_of_le (by decide) h3
    exact sinkEnqueueLoop_stuck hpos (by omega)
      (pendingFramesCapacity - s.pending.length) 128 h (s.reads_of_valid (MemBlock.valid_ofBytes frame)) (by omega)
      (by omega)

theorem sinkHandleRequest_room (h : SinkInv s) {now : UInt32} {id : UInt16}
    (e : sinkHandleRequest H now sender s id r = .ok s') : s.HasRoom sender r := by
  by_contra hroom
  rw [sinkHandleRequest_full h hroom] at e
  cases e

/-- **A request** that returns. -/
theorem sinkHandleRequest_handled (h : SinkInv s) (hs : s.state ≠ .stateError) {now : UInt32} {id : UInt16}
    (e : sinkHandleRequest H now sender s id r = .ok s') :
    Handled s s' sender r ∧ s'.lightsCount = s.lightsCount ∧
      Answered s s' sender (s.session.answer sender id r).1.toList (s.session.answer sender id r).2 := by
  have hroom := sinkHandleRequest_room h e
  have hans : Answered s s' sender (s.session.answer sender id r).1.toList (s.session.answer sender id r).2 := by
    obtain ⟨t, ht, ha⟩ := sinkHandleRequest_answer (H := H) h hs now id hroom
    rw [ht, Except.ok.injEq] at e
    exact e ▸ ha
  have hhandled : Handled s s' sender r ∧ s'.lightsCount = s.lightsCount := by
    cases r with
    | borrow frameLength bufferLength => exact sinkHandleBorrow_handled h hs e
    | enqueue frameIdx frame => exact sinkHandleEnqueue_handled h hs hroom e
    | other =>
      have hsame := sinkSendFailTo_session h e
      exact ⟨.kept hsame.lease hsame.enqueued, hsame.lights⟩
  exact ⟨hhandled.1, hhandled.2, hans⟩

/-- What a datagram with one request does in an update: the request, its answer, and perhaps the regular LENT. -/
structure Updates (s s' : Sink) (sender : UdpEndpoint) (id : UInt16) (r : Request) : Prop where
  handled : Handled s s' sender r
  lights : s'.lightsCount = s.lightsCount
  alive : s'.state ≠ .stateError
  session : s'.session = (s.session.answer sender id r).2
  socket : ∃ lents : List (Bytes × UdpEndpoint), s'.socket = s.socket ++
      (numberedFrom s.builder.nextMsgId (s.session.answer sender id r).1.toList).map (·, sender) ++ lents ∧
    ∀ d ∈ lents, s'.state = .stateLent ∧ d.2 = s'.borrowerEndpoint ∧ ∃ id, d.1 = Reply.lent.bytes id

/-- **An update that finds one request**, and returns. -/
theorem atollaSinkState_request (h : SinkInv s) (hs : s.state ≠ .stateError) {m : WireMsg} (hr : m.request = some r)
    (hfit : m.bytes.length ≤ sinkRecvBufLen) {clock : SinkClock}
    (e : atollaSinkState H clock s (some ⟨m.bytes, sender⟩) = .ok s') : Updates s s' sender m.id r := by
  rw [atollaSinkState_one H hs hr hfit] at e
  obtain ⟨s₁, h₁, h₂⟩ := bind_eq_ok.mp e
  have hi : SinkInv { s with recvBuf := m.bytes ++ s.recvBuf.drop m.bytes.length } := h.withRecvBuf _
  obtain ⟨hhandled, hlights, hans⟩ := sinkHandleRequest_handled hi hs h₁
  have hhandled₁ : Handled s s₁ sender r := by
    cases hhandled with
    | granted he hl hq => exact .granted he hl hq
    | stored k he hl hq => exact .stored k he hl hq
    | kept hl hq => exact .kept hl hq
    | ended hl hq => exact .ended hl hq
  obtain ⟨hsame, hsend⟩ := sinkSend_sent (hans.inv.withRecvTime clock.received) h₂
  have hsame₁ : SameSession s₁ s' := SameSession.trans ⟨rfl⟩ hsame
  refine ⟨hhandled₁.same hsame₁, hsame₁.lights.trans hlights, ?_, hsame₁.session.trans hans.session, ?_⟩
  · rw [hsame₁.state]
    exact hans.alive
  · rcases hsend with hnone | ⟨hlent, hsent⟩
    · exact ⟨[], by rw [List.append_nil, hnone]; exact hans.socket, by simp⟩
    · refine ⟨_, hsent.trans (congrArg (· ++ _) hans.socket), fun d hd => ?_⟩
      rw [List.mem_singleton.mp hd]
      exact ⟨hlent, rfl, _, rfl⟩

/-- **An update that finds a request without room** never returns. -/
theorem atollaSinkState_full (h : SinkInv s) (hs : s.state ≠ .stateError) {m : WireMsg} (hr : m.request = some r)
    (hfit : m.bytes.length ≤ sinkRecvBufLen) (hroom : ¬s.HasRoom sender r) (clock : SinkClock) :
    atollaSinkState H clock s (some ⟨m.bytes, sender⟩) = .error .diverges := by
  rw [atollaSinkState_one H hs hr hfit, sinkHandleRequest_full (h.withRecvBuf _) (by cases r <;> exact hroom)]
  rfl

/-- With room it returns. -/
theorem atollaSinkState_returns (h : SinkInv s) (hs : s.state ≠ .stateError) {m : WireMsg} (hr : m.request = some r)
    (hfit : m.bytes.length ≤ sinkRecvBufLen) (hroom : s.HasRoom sender r) (clock : SinkClock) :
    ∃ s', atollaSinkState H clock s (some ⟨m.bytes, sender⟩) = .ok s' := by
  set t : Sink := { s with recvBuf := m.bytes ++ s.recvBuf.drop m.bytes.length } with ht
  have htroom : t.HasRoom sender r := by cases r <;> exact hroom
  obtain ⟨s₁, e₁, ha⟩ := sinkHandleRequest_answer (H := H) (s := t) (h.withRecvBuf _) hs (clock.message 0) m.id htroom
  obtain ⟨s₂, e₂, -⟩ := sinkSend_same H (ha.inv.withRecvTime clock.received) clock
  exact ⟨s₂, by rw [atollaSinkState_one H hs hr hfit, ← ht, e₁, ok_bind, e₂]⟩

end Request

end Atolla

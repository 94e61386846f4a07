import Atolla.Sink.Runs
import Mathlib.Logic.Relation

/-!
# The steps of a sink

A call is a run of small steps (`SinkStep`), and so is the part of it up to any message of its datagram and any round
of its loops, whether or not it returns (`SinkCallPasses.steps`). What every step keeps holds of all these states.
-/

set_option autoImplicit false

namespace Atolla

open Loop Relation

/-! ## Steps -/

/-- An iterator over the received datagram. -/
def IterOver (datagram : Datagram) (iter : MsgIter) : Prop :=
  ∃ buf received sender,
    udpSocketReceiveFrom buf sinkRecvBufLen (some datagram) = some (iter.msgBuf, received, sender) ∧
      iter.msgBufEnd = received

/-- The message at `iter` is an ENQUEUE of the datagram that the call finds. -/
structure Enqueues (H : Host) (c : SinkCall) (datagram : Datagram) (iter : MsgIter) (frame : MemBlock) : Prop where
  call : ∃ clock, c = .state clock (some datagram)
  iterOver : IterOver datagram iter
  type : msgIterType iter = .ok .enqueue
  frame : msgIterEnqueueFrame H iter = .ok frame

/-- A step of a call. -/
inductive SinkStep (H : Host) (c : SinkCall) : Sink → Sink → Prop
  /-- A datagram in the buffer. -/
  | receive {s : Sink} (recvBuf : Bytes) : SinkStep H c s { s with recvBuf := recvBuf }
  /-- A FAIL. -/
  | fail {s s' : Sink} {id : UInt16} {code : ErrorCode} {receiver : UdpEndpoint} :
      sinkSendFailTo H s id code receiver = .ok s' → SinkStep H c s s'
  /-- A LENT. -/
  | lent {s s' : Sink} {now : UInt32} : sinkSendLent H now s = .ok s' → SinkStep H c s s'
  /-- A new session for the sender of the datagram, before its LENT. -/
  | grant {s : Sink} {datagram : Datagram} {d : Int} : (∃ clock, c = .state clock (some datagram)) →
      s.state = .stateOpen ∨ (s.state = .stateLent ∧ udpEndpointEqual datagram.sender s.borrowerEndpoint = true) →
      frameLengthMsMin ≤ d → d ≤ 255 → SinkStep H c s (s.granted d datagram.sender)
  /-- The end of a session. -/
  | drop {s : Sink} : SinkStep H c s (sinkDropBorrow s)
  /-- A round of the loop of `sink_handle_enqueue`. -/
  | store {s s' : Sink} {datagram : Datagram} {iter : MsgIter} {frame : MemBlock} : Enqueues H c datagram iter frame →
      s.state = .stateLent → udpEndpointEqual datagram.sender s.borrowerEndpoint = true → 3 ≤ frame.size →
      sinkEnqueue s frame = .ok s' → SinkStep H c s s'
  /-- A `mem_ring_dequeue` of `atolla_sink_get`. -/
  | dequeue {s s' : Sink} {ok : Bool} : s.state = .stateLent → sinkDequeue s = .ok (ok, s') → SinkStep H c s s'
  | origin {s : Sink} (timeOrigin : UInt32) : SinkStep H c s { s with timeOrigin := timeOrigin }
  | recvTime {s : Sink} (lastRecvTime : UInt32) : SinkStep H c s { s with lastRecvTime := lastRecvTime }

/-- The states that a sink made with this many lights passes. -/
inductive SinkPasses (H : Host) (lights : Nat) : Sink → Prop
  | make {spec : AtollaSinkSpec} {bound : Bool} {s : Sink} : atollaSinkMake H spec bound = .ok s →
      spec.lightsCount = lights → SinkPasses H lights s
  | step {s s' : Sink} {c : SinkCall} : SinkPasses H lights s → SinkStep H c s s' → SinkPasses H lights s'

/-- The update with a datagram, from the sink `s`, is in front of the message at `iter`, with the sink `t`. -/
def SinkAt (H : Host) (clock : SinkClock) (datagram : Datagram) (s t : Sink) (iter : MsgIter) : Prop :=
  s.state ≠ .stateError ∧ ∃ recvBuf received sender k,
    udpSocketReceiveFrom s.recvBuf sinkRecvBufLen (some datagram) = some (recvBuf, received, sender) ∧
    Rounds (fun p : Sink × MsgIter => msgIterHasMsg p.2)
      (msgRound H fun s iter => sinkHandleMsg H (clock.message iter.msgBufStart) sender s iter)
      ({ s with recvBuf := recvBuf }, msgIterMake recvBuf received) k (t, iter)

/-- **The states that a call passes**, from the sink `s`, also when it does not return: in front of the messages of its
datagram, behind the rounds of the loops of `sink_handle_enqueue` and `atolla_sink_get`, and the last one. -/
inductive SinkCallPasses (H : Host) (s : Sink) : SinkCall → Sink → Prop
  | start {c : SinkCall} : SinkCallPasses H s c s
  | message {clock : SinkClock} {datagram : Datagram} {t : Sink} {iter : MsgIter} :
      SinkAt H clock datagram s t iter → SinkCallPasses H s (.state clock (some datagram)) t
  | enqueue {clock : SinkClock} {datagram : Datagram} {t u : Sink} {iter : MsgIter} {idx : UInt8} {frame : MemBlock}
      {k : Nat} : SinkAt H clock datagram s t iter → msgIterType iter = .ok .enqueue →
      msgIterEnqueueFrameIdx H iter = .ok idx → msgIterEnqueueFrame H iter = .ok frame → t.state = .stateLent →
      3 ≤ frame.size → udpEndpointEqual datagram.sender t.borrowerEndpoint = true → t.distance idx.toNat ≤ 128 →
      Rounds (fun s : Sink => decide (0 < boundedDiff s.lastEnqueuedFrameIdx idx.toNat 256))
        (fun s => sinkEnqueue s frame) t k u →
      SinkCallPasses H s (.state clock (some datagram)) u
  | get {now : UInt32} {frame : Bytes} {t : Sink} {goOn : Bool} {k : Nat} : s.state = .stateLent →
      s.timeOrigin ≠ NULL_TIME →
      Rounds (fun p : Sink × Bool => p.2 && decide (p.1.frameDurationMs < now - p.1.timeOrigin)) sinkCatchUpRound
        (s, true) k (t, goOn) →
      SinkCallPasses H s (.get now frame) t
  | last {c : SinkCall} {t : Sink} : sinkCall H s c = .ok t → SinkCallPasses H s c t

/-! ## What a step keeps -/

section Step

variable {H : Host} {c : SinkCall} {s s' : Sink}

/-- What `sink_enqueue` leaves alone. -/
theorem sinkEnqueue_same {frame : MemBlock} (e : sinkEnqueue s frame = .ok s') :
    s'.state = s.state ∧ s'.borrowerEndpoint = s.borrowerEndpoint ∧ s'.lightsCount = s.lightsCount := by
  unfold sinkEnqueue at e
  obtain ⟨data, -, e⟩ := bind_eq_ok.mp e
  obtain ⟨⟨ok, ring⟩, -, e⟩ := bind_eq_ok.mp e
  cases ok with
  | true =>
    cases e
    exact ⟨rfl, rfl, rfl⟩
  | false =>
    cases e
    exact ⟨rfl, rfl, rfl⟩

/-- What `mem_ring_dequeue` leaves alone. -/
theorem sinkDequeue_same {ok : Bool} (e : sinkDequeue s = .ok (ok, s')) :
    s'.state = s.state ∧ s'.borrowerEndpoint = s.borrowerEndpoint ∧ s'.lightsCount = s.lightsCount := by
  unfold sinkDequeue at e
  obtain ⟨⟨ok', ring, data⟩, -, e⟩ := bind_eq_ok.mp e
  cases e
  exact ⟨rfl, rfl, rfl⟩

/-- **A step** keeps the invariant. -/
theorem SinkStep.inv (h : SinkInv s) (hstep : SinkStep H c s s') : SinkInv s' := by
  cases hstep with
  | receive recvBuf => exact h.withRecvBuf recvBuf
  | fail e => exact sinkSendFailTo_inv H h e
  | lent e => exact sinkSendLent_inv H h e
  | grant _ _ hslow hd => exact h.granted hslow hd _
  | drop => exact h.dropBorrow
  | store _ _ _ h3 e => exact sinkEnqueue_inv h (by omega) e
  | dequeue _ e => exact sinkDequeue_inv h e
  | origin timeOrigin => exact h.congr rfl h.builder rfl rfl rfl h.idx h.duration rfl rfl
  | recvTime lastRecvTime => exact h.withRecvTime lastRecvTime

/-- What a FAIL and a LENT leave alone. -/
theorem sinkSendFailTo_session (h : SinkInv s) {id : UInt16} {code : ErrorCode} {receiver : UdpEndpoint}
    (e : sinkSendFailTo H s id code receiver = .ok s') : SameSession s s' := by
  obtain ⟨s₁, e₁, -, hsame⟩ := sinkSendFailTo_same H h id code receiver
  rw [e₁, Except.ok.injEq] at e
  exact e ▸ hsame

theorem sinkSendLent_session (h : SinkInv s) {now : UInt32} (e : sinkSendLent H now s = .ok s') : SameSession s s' := by
  obtain ⟨s₁, e₁, -, hsame⟩ := sinkSendLent_same H h now
  rw [e₁, Except.ok.injEq] at e
  exact e ▸ hsame

theorem SinkStep.lights (h : SinkInv s) (hstep : SinkStep H c s s') : s'.lightsCount = s.lightsCount := by
  cases hstep with
  | receive _ => rfl
  | fail e => exact (sinkSendFailTo_session h e).lights
  | lent e => exact (sinkSendLent_session h e).lights
  | grant _ _ _ _ => rfl
  | drop => rfl
  | store _ _ _ _ e => exact (sinkEnqueue_same e).2.2
  | dequeue _ e => exact (sinkDequeue_same e).2.2
  | origin _ => rfl
  | recvTime _ => rfl

/-- **A step within a session** does not change the borrower. -/
theorem SinkStep.borrower (h : SinkInv s) (hstep : SinkStep H c s s') (hs : s.state = .stateLent)
    (hs' : s'.state = .stateLent) : udpEndpointEqual s'.borrowerEndpoint s.borrowerEndpoint = true := by
  cases hstep with
  | receive _ => exact udpEndpointEqual_refl _
  | fail e =>
    rw [(sinkSendFailTo_session h e).borrower]
    exact udpEndpointEqual_refl _
  | lent e =>
    rw [(sinkSendLent_session h e).borrower]
    exact udpEndpointEqual_refl _
  | grant _ hfree _ _ =>
    rcases hfree with ho | ⟨-, heq⟩
    · rw [hs] at ho
      cases ho
    · exact heq
  | drop => cases hs'
  | store _ _ _ _ e =>
    rw [(sinkEnqueue_same e).2.1]
    exact udpEndpointEqual_refl _
  | dequeue _ e =>
    rw [(sinkDequeue_same e).2.1]
    exact udpEndpointEqual_refl _
  | origin _ => exact udpEndpointEqual_refl _
  | recvTime _ => exact udpEndpointEqual_refl _

/-- **A sink that is lent** was lent to that endpoint before the step, or the step lends it to the sender of a
datagram. -/
theorem SinkStep.lentTo (h : SinkInv s) (hstep : SinkStep H c s s') (hs' : s'.state = .stateLent) :
    (s.state = .stateLent ∧ udpEndpointEqual s'.borrowerEndpoint s.borrowerEndpoint = true) ∨
      ∃ clock datagram, c = .state clock (some datagram) ∧
        udpEndpointEqual datagram.sender s'.borrowerEndpoint = true := by
  by_cases hs : s.state = .stateLent
  · exact .inl ⟨hs, hstep.borrower h hs hs'⟩
  · right
    cases hstep with
    | receive _ => exact absurd hs' hs
    | fail e => exact absurd ((sinkSendFailTo_session h e).state.symm.trans hs') hs
    | lent e => exact absurd ((sinkSendLent_session h e).state.symm.trans hs') hs
    | grant hc _ _ _ =>
      obtain ⟨clock, hc⟩ := hc
      exact ⟨clock, _, hc, udpEndpointEqual_refl _⟩
    | drop => cases hs'
    | store _ hlent _ _ _ => exact absurd hlent hs
    | dequeue hlent _ => exact absurd hlent hs
    | origin _ => exact absurd hs' hs
    | recvTime _ => exact absurd hs' hs

theorem SinkInv.steps (h : SinkInv s) (hsteps : ReflTransGen (SinkStep H c) s s') : SinkInv s' := by
  induction hsteps with
  | refl => exact h
  | tail _ hstep ih => exact hstep.inv ih

/-- The same of a run of steps. -/
theorem lentTo_of_steps (h : SinkInv s) (hsteps : ReflTransGen (SinkStep H c) s s') (hs' : s'.state = .stateLent) :
    (s.state = .stateLent ∧ udpEndpointEqual s'.borrowerEndpoint s.borrowerEndpoint = true) ∨
      ∃ clock datagram, c = .state clock (some datagram) ∧
        udpEndpointEqual datagram.sender s'.borrowerEndpoint = true := by
  induction hsteps with
  | refl => exact .inl ⟨hs', udpEndpointEqual_refl _⟩
  | tail hsteps hstep ih =>
    rcases hstep.lentTo (h.steps hsteps) hs' with ⟨ht, heq⟩ | hnew
    · rcases ih ht with ⟨hs, heq'⟩ | ⟨clock, datagram, hc, heq'⟩
      · exact .inl ⟨hs, udpEndpointEqual_trans heq heq'⟩
      · exact .inr ⟨clock, datagram, hc, udpEndpointEqual_trans heq' (udpEndpointEqual_symm heq)⟩
    · exact .inr hnew

theorem SinkPasses.inv {lights : Nat} (h : SinkPasses H lights s) : SinkInv s ∧ s.lightsCount = lights := by
  induction h with
  | make e hl =>
    obtain ⟨n, h1, hn, hspec, rfl⟩ := atollaSinkMake_fresh e
    exact ⟨freshSink_inv H h1 hn _, show n = lights by omega⟩
  | step _ hstep ih => exact ⟨hstep.inv ih.1, (hstep.lights ih.1).trans ih.2⟩

end Step

/-! ## Calls are runs of steps -/

section Call

variable {H : Host} {c : SinkCall} {s s' : Sink} {datagram : Datagram}

theorem sinkHandleBorrow_steps (hc : ∃ clock, c = .state clock (some datagram)) {now : UInt32} {id : UInt16} {d : Int}
    {n : Nat} (hd : d ≤ 255) (e : sinkHandleBorrow H now s id d n datagram.sender = .ok s') :
    ReflTransGen (SinkStep H c) s s' := by
  -- behind a refusal a session ends
  have hrefused : ∀ {code : ErrorCode}, (sinkSendFailTo H s id code datagram.sender >>= fun s =>
      pure (if s.state = .stateLent then sinkDropBorrow s else s)) = .ok s' → ReflTransGen (SinkStep H c) s s' := by
    intro code e
    obtain ⟨s₁, h₁, e⟩ := bind_eq_ok.mp e
    cases e
    split
    · exact (ReflTransGen.single (.fail h₁)).tail .drop
    · exact .single (.fail h₁)
  unfold sinkHandleBorrow at e
  split at e
  · rename_i hfree
    simp only at e
    split at e
    · exact hrefused e
    · split at e
      · exact hrefused e
      · rename_i hslow
        exact (ReflTransGen.single (.grant hc hfree (Int.not_lt.mp hslow) hd)).tail (.lent e)
  · split at e
    · exact .single (.fail e)
    · cases e
      exact .refl

/-- **A BORROW** lends the sink to nobody but its sender. -/
theorem sinkHandleBorrow_lentTo (h : SinkInv s) {now : UInt32} {id : UInt16} {d : Int} {n : Nat} {sender : UdpEndpoint}
    (hd : d ≤ 255) (e : sinkHandleBorrow H now s id d n sender = .ok s') (hs' : s'.state = .stateLent) :
    (s.state = .stateLent ∧ udpEndpointEqual s'.borrowerEndpoint s.borrowerEndpoint = true) ∨
      udpEndpointEqual sender s'.borrowerEndpoint = true := by
  -- some call that finds a datagram of this sender
  have hsteps := sinkHandleBorrow_steps (H := H) (c := .state ⟨fun _ => now, now, now, now⟩ (some ⟨[], sender⟩))
    ⟨_, rfl⟩ hd e
  rcases lentTo_of_steps h hsteps hs' with hold | ⟨clock, datagram, hc, heq⟩
  · exact .inl hold
  · cases hc
    exact .inr heq

/-- **The rounds of the loop** of `sink_handle_enqueue`. -/
theorem sinkEnqueue_steps {iter : MsgIter} {frame : MemBlock} (he : Enqueues H c datagram iter frame)
    (hs : s.state = .stateLent) (hb : udpEndpointEqual datagram.sender s.borrowerEndpoint = true) (h3 : 3 ≤ frame.size)
    (t t' : Sink) (ht : ReflTransGen (SinkStep H c) s t ∧ t.state = s.state ∧ t.borrowerEndpoint = s.borrowerEndpoint)
    (e : sinkEnqueue t frame = .ok t') :
    ReflTransGen (SinkStep H c) s t' ∧ t'.state = s.state ∧ t'.borrowerEndpoint = s.borrowerEndpoint := by
  obtain ⟨hsteps, hts, htb⟩ := ht
  obtain ⟨hs', hb', -⟩ := sinkEnqueue_same e
  exact ⟨hsteps.tail (.store he (hts.trans hs) (by rw [htb]; exact hb) h3 e), hs'.trans hts, hb'.trans htb⟩

theorem sinkHandleEnqueue_steps {iter : MsgIter} {frame : MemBlock} (he : Enqueues H c datagram iter frame)
    {id : UInt16} {idx : Nat} (e : sinkHandleEnqueue H s id idx frame datagram.sender = .ok s') :
    ReflTransGen (SinkStep H c) s s' := by
  unfold sinkHandleEnqueue sinkHandleEnqueueFor at e
  split at e
  · cases e
    exact .refl
  · split at e
    · exact .single (.fail e)
    · rename_i hne hno
      have hs : s.state = .stateLent := by
        cases hst : s.state with
        | stateError => exact absurd hst hne
        | stateOpen => exact absurd hst hno
        | stateLent => rfl
      split at e
      · obtain ⟨s₁, h₁, e⟩ := bind_eq_ok.mp e
        cases e
        exact (ReflTransGen.single (.fail h₁)).tail .drop
      · split at e
        · rename_i h3 hb
          split at e
          · cases e
            exact .refl
          · exact (whileM_inv _ (fun t t' ht _ e => sinkEnqueue_steps he hs hb (by omega) t t' ht e) _ _ _
              ⟨.refl, rfl, rfl⟩ e).1.1
        · exact .single (.fail e)

theorem sinkHandleMsg_steps {clock : SinkClock} (hc : c = .state clock (some datagram)) {now : UInt32} {iter : MsgIter}
    (hi : IterOver datagram iter) (e : sinkHandleMsg H now datagram.sender s iter = .ok s') :
    ReflTransGen (SinkStep H c) s s' := by
  unfold sinkHandleMsg at e
  obtain ⟨type, htype, e⟩ := bind_eq_ok.mp e
  obtain ⟨id, -, e⟩ := bind_eq_ok.mp e
  cases type with
  | borrow =>
    obtain ⟨fl, -, e⟩ := bind_eq_ok.mp e
    obtain ⟨bl, -, e⟩ := bind_eq_ok.mp e
    exact sinkHandleBorrow_steps ⟨clock, hc⟩ (by have := fl.toNat_lt; omega) e
  | enqueue =>
    obtain ⟨idx, -, e⟩ := bind_eq_ok.mp e
    obtain ⟨frame, hframe, e⟩ := bind_eq_ok.mp e
    exact sinkHandleEnqueue_steps ⟨⟨clock, hc⟩, hi, htype, hframe⟩ e
  | lent => exact .single (.fail e)
  | fail => exact .single (.fail e)

/-- The loop over the messages goes over the datagram, step by step. -/
theorem msgRound_steps {clock : SinkClock} (hc : c = .state clock (some datagram)) (p p' : Sink × MsgIter)
    (hp : ReflTransGen (SinkStep H c) s p.1 ∧ IterOver datagram p.2)
    (e : msgRound H (fun s iter => sinkHandleMsg H (clock.message iter.msgBufStart) datagram.sender s iter) p =
      .ok p') : ReflTransGen (SinkStep H c) s p'.1 ∧ IterOver datagram p'.2 := by
  obtain ⟨hsteps, hi⟩ := hp
  obtain ⟨s₁, h₁, e⟩ := bind_eq_ok.mp e
  obtain ⟨iter₁, h₂, e⟩ := bind_eq_ok.mp e
  cases e
  refine ⟨hsteps.trans (sinkHandleMsg_steps hc hi h₁), ?_⟩
  obtain ⟨-, -, h₂⟩ := bind_eq_ok.mp h₂
  obtain ⟨len, -, h₂⟩ := bind_eq_ok.mp h₂
  cases h₂
  exact hi

/-- What a receive call returns. -/
theorem iterOver_make {buf recvBuf : Bytes} {received : Nat} {sender : UdpEndpoint}
    (h : udpSocketReceiveFrom buf sinkRecvBufLen (some datagram) = some (recvBuf, received, sender)) :
    sender = datagram.sender ∧ IterOver datagram (msgIterMake recvBuf received) := by
  refine ⟨?_, buf, received, sender, h, Nat.zero_add received⟩
  unfold udpSocketReceiveFrom at h
  simp only at h
  split at h
  · cases h
  · cases h
    rfl

theorem sinkReceive_steps {clock : SinkClock} {dg : Option Datagram} (hc : c = .state clock dg)
    (e : sinkReceive H clock s dg = .ok s') : ReflTransGen (SinkStep H c) s s' := by
  unfold sinkReceive at e
  split at e
  · rename_i recvBuf received sender hrecv
    cases dg with
    | none => cases hrecv
    | some datagram =>
      obtain ⟨rfl, hi⟩ := iterOver_make hrecv
      obtain ⟨s₁, h₁, e⟩ := bind_eq_ok.mp e
      cases e
      obtain ⟨⟨s₂, iter⟩, hloop, h₁⟩ := bind_eq_ok.mp h₁
      cases h₁
      have hsteps := (whileM_inv (fun p : Sink × MsgIter => ReflTransGen (SinkStep H c) s p.1 ∧ IterOver datagram p.2)
        (fun p p' hp _ e => msgRound_steps hc p p' hp e) _ _ _ ⟨.single (.receive recvBuf), hi⟩ hloop).1.1
      exact hsteps.tail (.recvTime _)
  · split at e
    · obtain ⟨s₁, h₁, e⟩ := bind_eq_ok.mp e
      cases e
      exact (ReflTransGen.single (.fail h₁)).tail .drop
    · cases e
      exact .refl

theorem sinkSend_steps {clock : SinkClock} (e : sinkSend H clock s = .ok s') : ReflTransGen (SinkStep H c) s s' := by
  unfold sinkSend at e
  split at e
  · split at e
    · exact .single (.lent e)
    · cases e
      exact .refl
  · cases e
    exact .refl

/-- **The rounds of the loop** of `atolla_sink_get`. -/
theorem sinkCatchUpRound_steps (hs : s.state = .stateLent) (p p' : Sink × Bool)
    (hp : ReflTransGen (SinkStep H c) s p.1 ∧ p.1.state = s.state) (e : sinkCatchUpRound p = .ok p') :
    ReflTransGen (SinkStep H c) s p'.1 ∧ p'.1.state = s.state := by
  obtain ⟨hsteps, hps⟩ := hp
  obtain ⟨⟨ok, s₁⟩, h₁, e⟩ := bind_eq_ok.mp e
  have hs₁ := (sinkDequeue_same h₁).1.trans hps
  have hsteps₁ := hsteps.tail (.dequeue (hps.trans hs) h₁)
  cases ok with
  | true =>
    cases e
    exact ⟨hsteps₁.tail (.origin _), hs₁⟩
  | false =>
    cases e
    exact ⟨hsteps₁, hs₁⟩

theorem atollaSinkGet_steps {now : UInt32} {frame : Bytes} {frameLen : Nat} {result : Bool} {frame' : Bytes}
    (e : atollaSinkGet now s frame frameLen = .ok (result, s', frame')) : ReflTransGen (SinkStep H c) s s' := by
  unfold atollaSinkGet at e
  split at e
  · rename_i hs
    split at e
    · obtain ⟨⟨ok, s₁⟩, h₁, e⟩ := bind_eq_ok.mp e
      have hstep : SinkStep H c s s₁ := .dequeue hs h₁
      cases ok with
      | true =>
        obtain ⟨shown, -, e⟩ := bind_eq_ok.mp e
        cases e
        exact (ReflTransGen.single hstep).tail (.origin _)
      | false =>
        cases e
        exact .single hstep
    · obtain ⟨s₁, h₁, e⟩ := bind_eq_ok.mp e
      obtain ⟨shown, -, e⟩ := bind_eq_ok.mp e
      cases e
      obtain ⟨⟨s₂, goOn⟩, hloop, h₁⟩ := bind_eq_ok.mp h₁
      cases h₁
      exact (whileM_inv _ (fun p p' hp _ e => sinkCatchUpRound_steps hs p p' hp e) _ _ _ ⟨.refl, rfl⟩ hloop).1.1
  · cases e
    exact .refl

/-- **A call that returns** is a run of steps. -/
theorem sinkCall_steps (e : sinkCall H s c = .ok s') : ReflTransGen (SinkStep H c) s s' := by
  cases c with
  | state clock dg =>
    have e' : atollaSinkState H clock s dg = .ok s' := e
    unfold atollaSinkState at e'
    split at e'
    · obtain ⟨s₁, h₁, h₂⟩ := bind_eq_ok.mp e'
      exact (sinkReceive_steps rfl h₁).trans (sinkSend_steps h₂)
    · cases e'
      exact .refl
  | get now frame =>
    obtain ⟨⟨result, s₁, frame'⟩, h₁, h₂⟩ := bind_eq_ok.mp e
    cases h₂
    exact atollaSinkGet_steps h₁

theorem SinkAt.steps {clock : SinkClock} {t : Sink} {iter : MsgIter} (h : SinkAt H clock datagram s t iter) :
    ReflTransGen (SinkStep H (.state clock (some datagram))) s t ∧ IterOver datagram iter := by
  obtain ⟨-, recvBuf, received, sender, k, hrecv, hrounds⟩ := h
  obtain ⟨rfl, hi⟩ := iterOver_make hrecv
  exact hrounds.inv (fun p : Sink × MsgIter => ReflTransGen (SinkStep H (.state clock (some datagram))) s p.1 ∧
    IterOver datagram p.2) ⟨.single (.receive recvBuf), hi⟩ fun p p' hp _ e => msgRound_steps rfl p p' hp e

/-- **Every state that a call passes** is reached by its steps, also when the call does not return. -/
theorem SinkCallPasses.steps (h : SinkCallPasses H s c s') : ReflTransGen (SinkStep H c) s s' := by
  cases h with
  | start => exact .refl
  | message hat => exact hat.steps.1
  | @enqueue clock datagram t _ iter idx frame k hat htype hidx hframe hs h3 hb hd hrounds =>
    obtain ⟨hsteps, hi⟩ := hat.steps
    have he : Enqueues H (.state clock (some datagram)) datagram iter frame := ⟨⟨clock, rfl⟩, hi, htype, hframe⟩
    exact hsteps.trans (hrounds.inv _ ⟨.refl, rfl, rfl⟩ fun u u' hu _ e => sinkEnqueue_steps he hs hb h3 u u' hu e).1
  | get hs hne hrounds =>
    exact (hrounds.inv _ ⟨.refl, rfl⟩ fun p p' hp _ e => sinkCatchUpRound_steps hs p p' hp e).1
  | last e => exact sinkCall_steps e

theorem SinkPasses.steps {lights : Nat} (h : SinkPasses H lights s) (hsteps : ReflTransGen (SinkStep H c) s s') :
    SinkPasses H lights s' := by
  induction hsteps with
  | refl => exact h
  | tail _ hstep ih => exact ih.step hstep

end Call

/-! ## The representation -/

/-- **The representation** of a sink with this many lights. -/
structure Sink.WellFormed (lights : Nat) (s : Sink) : Prop where
  size : s.pendingFrames.buf.size = 128 * (3 * lights)
  front : s.pendingFrames.front < s.pendingFrames.buf.size
  len : s.pendingFrames.len ≤ s.pendingFrames.buf.size
  wholeFront : 3 * lights ∣ s.pendingFrames.front
  wholeLen : 3 * lights ∣ s.pendingFrames.len
  idx : -1 ≤ s.lastEnqueuedFrameIdx ∧ s.lastEnqueuedFrameIdx ≤ 255
  duration : s.state = .stateLent → 10 ≤ s.frameDurationMs.toNat ∧ s.frameDurationMs.toNat ≤ 255

section Representation

variable {H : Host} {lights : Nat} {s : Sink}

theorem SinkInv.wellFormed (h : SinkInv s) (hl : s.lightsCount = lights) : s.WellFormed lights := by
  have hlen : s.frameLen = 3 * lights := by rw [Sink.frameLen, hl, colorChannelCount, Nat.mul_comm]
  obtain ⟨hpos, -, -, -, hsize, -, ⟨f, hf, hfront⟩, ⟨n, hn, hlen'⟩⟩ := h.ring
  rw [hlen] at hpos hsize hfront hlen'
  refine ⟨hsize, ?_, ?_, ?_, ?_, h.idx, h.duration⟩
  · rw [hfront, hsize]
    exact Nat.mul_lt_mul_of_pos_right hf hpos
  · rw [hlen', hsize]
    exact Nat.mul_le_mul_right _ hn
  · rw [hfront]
    exact Nat.dvd_mul_left _ _
  · rw [hlen']
    exact Nat.dvd_mul_left _ _

/-- No assertion of the ring fails. -/
theorem sinkDequeue_asserts (h : SinkInv s) : Avoids .assertion (sinkDequeue s) := by
  cases hp : s.pending with
  | nil =>
    rw [sinkDequeue_nil h hp]
    exact avoids_ok _
  | cons g rest =>
    obtain ⟨ring, e, -, -⟩ := sinkDequeue_cons h hp
    rw [e]
    exact avoids_ok _

theorem sinkEnqueue_asserts (h : SinkInv s) {frame : MemBlock} (h3 : 0 < frame.size) :
    Avoids .assertion (sinkEnqueue s frame) := by
  by_cases hread : min s.frameLen frame.size ≤ frame.data.length
  · rcases Nat.lt_or_eq_of_le h.length_pending with hroom | hfull
    · obtain ⟨ring, e, -, -⟩ := sinkEnqueue_room h h3 hread hroom
      rw [e]
      exact avoids_ok _
    · rw [sinkEnqueue_full h h3 hread hfull]
      exact avoids_ok _
  · rw [sinkEnqueue, fill_received h h3, if_neg hread]
    simp [Avoids]

/-- **The representation invariant** holds in every state that a sink passes. No assertion of the ring fails there, and
the steps from there do not change the borrower of a session. -/
theorem sink_representation (h : SinkPasses H lights s) :
    s.WellFormed lights ∧ Avoids .assertion (sinkDequeue s) ∧
    (∀ frame : MemBlock, 3 ≤ frame.size → Avoids .assertion (sinkEnqueue s frame)) ∧
    (∀ c t, SinkStep H c s t → s.state = .stateLent → t.state = .stateLent →
      udpEndpointEqual t.borrowerEndpoint s.borrowerEndpoint = true) ∧
    ∀ c t, SinkCallPasses H s c t → ReflTransGen (SinkStep H c) s t ∧ SinkPasses H lights t := by
  obtain ⟨hi, hl⟩ := h.inv
  exact ⟨hi.wellFormed hl, sinkDequeue_asserts hi, fun frame h3 => sinkEnqueue_asserts hi (by omega),
    fun c t hstep => hstep.borrower hi, fun c t ht => ⟨ht.steps, h.steps ht.steps⟩⟩

theorem freshSink_passes (H : Host) {lights : Nat} (h1 : 1 ≤ lights) (hl : lights ≤ 337) (bound : Bool) :
    SinkPasses H lights (freshSink H lights bound) := .make (freshSink_make H h1 hl bound) rfl

/-- A sink of one light that is lent and holds the first frame of its session. -/
theorem exists_firstFrame : ∃ s, SinkPasses exampleHost 1 s ∧ s.state = .stateLent ∧
    s.enqueued = [Pattern.cycle 3 [1, 2, 3]] ∧ s.pending = [Pattern.cycle 3 [1, 2, 3]] := by
  obtain ⟨s, hs⟩ := exists_firstSession exampleHost (d := 20) (n := 1) (by decide) (by decide) exampleClock
    exampleEndpoint
  obtain ⟨s', e, hs'⟩ := hs.enqueue [1, 2, 3] (by decide) (by decide) 0 (by decide) 1 exampleClock
  have hp : SinkPasses exampleHost 1 s' :=
    ((freshSink_passes exampleHost (Nat.le_refl 1) (by decide) true).steps (sinkCall_steps hs.call)).steps
      (sinkCall_steps e)
  exact ⟨s', hp, hs'.state, hs'.enqueued, hs'.pending⟩

/-- A sink that is lent and holds a frame. -/
theorem sink_representation_first : ∃ s, s.state = .stateLent ∧ s.pending = [Pattern.cycle 3 [1, 2, 3]] ∧
    s.WellFormed 1 ∧ Avoids .assertion (sinkDequeue s) ∧
    (∀ frame : MemBlock, 3 ≤ frame.size → Avoids .assertion (sinkEnqueue s frame)) ∧
    (∀ c t, SinkStep exampleHost c s t → s.state = .stateLent → t.state = .stateLent →
      udpEndpointEqual t.borrowerEndpoint s.borrowerEndpoint = true) ∧
    ∀ c t, SinkCallPasses exampleHost s c t → ReflTransGen (SinkStep exampleHost c) s t ∧
      SinkPasses exampleHost 1 t := by
  obtain ⟨s, hp, hlent, -, hpending⟩ := exists_firstFrame
  exact ⟨s, hlent, hpending, sink_representation hp⟩

end Representation

end Atolla

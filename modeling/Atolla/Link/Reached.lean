import Atolla.Link.Network

/-!
# What holds of every network

A source sends its own BORROWs and the frames it put, one message a datagram (`PeerInv`). What the sink sends are
replies; a source is open only if it was told a LENT, and its error is one of its own or that of a FAIL it was told; and
whoever holds the sink asked for it (`NetworkInv`). All of it holds of every network that is reached
(`networkReached_inv`).
-/

set_option autoImplicit false

namespace Atolla

open Loop Past

/-! ## The sources -/

/-- The frame duration and the number of frames in the BORROWs of a source. -/
def Peer.durationByte (peer : Peer) : Nat := (peer.spec.frameDurationMs % 256).toNat

def Peer.bufferByte (peer : Peer) : Nat := (peer.spec.bufferedFrames % 256).toNat

/-- What a source that put these frames asks of a sink. -/
inductive Peer.Asks (peer : Peer) (puts : List Bytes) : Request → Prop
  | borrow {frameLength bufferLength : UInt8} : frameLength.toNat = peer.durationByte →
      bufferLength.toNat = peer.bufferByte → Asks peer puts (.borrow frameLength bufferLength)
  | enqueue (frameIdx : UInt8) {frame : Bytes} : frame ∈ puts → Asks peer puts (.enqueue frameIdx frame)

/-- The texts of a source about itself. -/
def localMsgs : List String := [unboundMsg, unresolvedMsg, timedOutMsg, lostMsg]

/-- **What holds of a source** that put these frames. -/
structure PeerInv (peer : Peer) (puts : List Bytes) (s : Source) : Prop where
  kept : SourceKept s
  duration : s.frameDurationMs = UInt32.ofInt peer.spec.frameDurationMs
  buffered : s.maxBufferedFrames = peer.spec.bufferedFrames
  sent : ∀ bytes ∈ s.sock, (∃ id, bytes = s.borrowBytes id) ∨
    ∃ id idx frame h, frame ∈ puts ∧ frame.length ≤ 1016 ∧ bytes = (WireMsg.enqueue id idx frame h).bytes

section Peers

variable {peer : Peer} {puts : List Bytes} {s s' : Source}

/-- **What a source sent** is one request in a datagram that fits. -/
theorem PeerInv.request (h : PeerInv peer puts s) {bytes : Bytes} (hb : bytes ∈ s.sock) :
    ∃ (m : WireMsg) (r : Request), bytes = m.bytes ∧ m.request = some r ∧ m.bytes.length ≤ sinkRecvBufLen ∧
      peer.Asks puts r := by
  rcases h.sent bytes hb with ⟨id, rfl⟩ | ⟨id, idx, frame, hle, hf, hfit, rfl⟩
  · refine ⟨.borrow id _ _, _, rfl, WireMsg.request_borrow id _ _, WireMsg.length_borrow_le id _ _, .borrow ?_ ?_⟩
    · rw [h.duration, toNat_frameDuration, Peer.durationByte]
    · rw [h.buffered, toNat_bufferLength, Peer.bufferByte]
  · refine ⟨.enqueue id idx frame hle, _, rfl, WireMsg.request_enqueue id idx frame hle, ?_, .enqueue idx hf⟩
    simp only [WireMsg.length_bytes, WireMsg.enqueue, length_enqueuePayload, sinkRecvBufLen]
    omega

theorem PeerInv.updated (h : PeerInv peer puts s) (hu : Updated s s') (hk : SourceKept s') : PeerInv peer puts s' where
  kept := hk
  duration := hu.duration.trans h.duration
  buffered := hu.buffered.trans h.buffered
  sent bytes hb := by
    obtain ⟨ids, hsock, -⟩ := hu.sock
    rw [hsock, List.mem_append] at hb
    rw [hu.borrowBytes]
    rcases hb with hb | hb
    · exact h.sent bytes hb
    · obtain ⟨id, -, rfl⟩ := List.mem_map.mp hb
      exact .inl ⟨id, rfl⟩

/-- **A put behind its updates** sends the frame, or nothing. -/
theorem PeerInv.putFrame (h : PeerInv peer puts s) {H : Host} {env : PutEnv} {frame : Bytes} {sent : Bool}
    (hfit : frame.length ≤ 1016) (e : sourcePutFrame H env s frame frame.length = .ok (sent, s')) :
    PeerInv peer (if sent then puts ++ [frame] else puts) s' ∧ s'.state = s.state ∧ s'.errorMsg = s.errorMsg := by
  have hk := h.kept.frame e
  obtain ⟨builder, e', hb⟩ := sourcePutFrame_spec H h.kept.builder (by omega : frame.length ≤ 65532) env
  rw [e', Except.ok.injEq, Prod.mk.injEq] at e
  obtain ⟨rfl, rfl⟩ := e
  cases hsent : env.sent with
  | false =>
    rw [hsent] at hk
    exact ⟨⟨hk, h.duration, h.buffered, h.sent⟩, rfl, rfl⟩
  | true =>
    rw [hsent] at hk
    refine ⟨⟨hk, h.duration, h.buffered, fun bytes hm => ?_⟩, rfl, rfl⟩
    rcases List.mem_append.mp hm with hm | hm
    · rcases h.sent bytes hm with hborrow | ⟨id, idx, f, hle, hf, hrest⟩
      · exact .inl hborrow
      · exact .inr ⟨id, idx, f, hle, List.mem_append_left _ hf, hrest⟩
    · exact .inr ⟨_, _, frame, by omega, List.mem_append_right _ (List.mem_singleton.mpr rfl), hfit,
        List.mem_singleton.mp hm⟩

/-- **A source that was made** and has not updated yet. -/
theorem atollaSourceMake_peer {env : MakeEnv}
    (e : atollaSourceMake peer.host { peer.spec with asyncMake := true } env = .ok s) :
    PeerInv peer [] s ∧ s.state ≠ .stateOpen ∧ ∀ msg, s.errorMsg = some msg → msg ∈ localMsgs := by
  have hi := atollaSourceMake_inv e
  have hk := ((atollaSourceMake_passes env).2 s e).kept
  obtain ⟨s₁, hu, -, hsock, -⟩ := atollaSourceMake_updated e
  refine ⟨⟨hk, hi.duration, hi.buffered, fun bytes hb => ?_⟩, ?_⟩
  · obtain ⟨ids, hsock', -⟩ := hu.sock
    rw [hsock', hsock, List.nil_append, ← hu.borrowBytes] at hb
    obtain ⟨id, -, rfl⟩ := List.mem_map.mp hb
    exact .inl ⟨id, rfl⟩
  · rw [atollaSourceMake_eq] at e
    obtain ⟨-, -, e⟩ := bind_eq_ok.mp e
    obtain ⟨s₂, h₂, e⟩ := bind_eq_ok.mp e
    cases e
    split at h₂
    · split at h₂
      · obtain ⟨builder, e', -⟩ := sourceSendBorrow_spec peer.host
          (s := { sourceFresh peer.host { peer.spec with asyncMake := true } with firstBorrowTime := env.first })
          (memBlockAlloc_owned peer.host _) env.borrow env.borrowSent
        rw [e', Except.ok.injEq] at h₂
        subst h₂
        exact ⟨(by intro ho; cases ho), fun msg hmsg => by cases hmsg⟩
      · cases h₂
        refine ⟨(by intro ho; cases ho), fun msg hmsg => ?_⟩
        rw [← Option.some.inj hmsg]
        simp [localMsgs, unresolvedMsg]
    · cases h₂
      refine ⟨(by intro ho; cases ho), fun msg hmsg => ?_⟩
      rw [← Option.some.inj hmsg]
      simp [localMsgs, unboundMsg]

end Peers

/-! ## The invariant -/

/-- The sink sent a reply to an endpoint of the source. -/
def Network.Told {ι : Type} (peers : ι → Peer) (n : Network ι) (i : ι) (r : Reply) : Prop :=
  ∃ id receiver, (r.bytes id, receiver) ∈ n.sink.socket ∧ udpEndpointEqual receiver (peers i).endpoint = true

/-- The sink can be lent under these parameters to a source with this endpoint. -/
def Borrows {ι : Type} (peers : ι → Peer) (endpoint : UdpEndpoint) (d : UInt32) : Prop :=
  ∃ i, udpEndpointEqual endpoint (peers i).endpoint = true ∧ d.toNat = (peers i).durationByte ∧
    10 ≤ (peers i).durationByte ∧ (peers i).bufferByte ≤ 128

/-- **What holds of every network.** -/
structure NetworkInv {ι : Type} (peers : ι → Peer) (n : Network ι) : Prop where
  sources : ∀ i, PeerInv (peers i) (n.puts i) (n.sources i)
  sink : SinkInv n.sink
  replies : ∀ d ∈ n.sink.socket, ∃ id r, d.1 = Reply.bytes id r
  stored : n.stored.map (·.1) = n.sink.enqueued
  lease : ∀ endpoint d, n.sink.lease = some (endpoint, d) → Stranger peers endpoint ∨ Borrows peers endpoint d
  opened : ∀ i, (n.sources i).state = .stateOpen → n.Told peers i .lent
  failed : ∀ i msg, (n.sources i).errorMsg = some msg → msg ∈ localMsgs ∨
    ∃ id code, n.Told peers i (.fail id code) ∧ msg = failMsg code.toByte

section Network

variable {ι : Type} {H : Host} {peers : ι → Peer} {n n' : Network ι} {i : ι}

/-! ### What arrives -/

/-- What a source finds is a reply of the sink to it, or nothing. -/
theorem NetworkInv.hears (h : NetworkInv peers n) {env : SourceEnv} (hh : n.Hears peers i env.datagram) :
    ∃ reply, env.HearsReply reply ∧ ∀ r ∈ reply.map (·.2), n.Told peers i r := by
  cases hd : env.datagram with
  | none => exact ⟨none, hd, by simp⟩
  | some bytes =>
    obtain ⟨⟨bytes', receiver⟩, hm, rfl, heq⟩ := hh bytes hd
    obtain ⟨id, r, hr⟩ := h.replies _ hm
    refine ⟨some (id, r), hd.trans (congrArg some hr), fun r' hr' => ?_⟩
    rw [← Option.some.inj hr']
    exact ⟨id, receiver, hr ▸ hm, heq⟩

/-- **An update** finds a reply of the sink or nothing, and returns. -/
theorem NetworkInv.update (h : NetworkInv peers n) {env : SourceEnv} (hh : n.Hears peers i env.datagram) :
    ∃ source, sourceUpdate (peers i).host env (n.sources i) = .ok source ∧
      PeerInv (peers i) (n.puts i) source ∧ (source.state = .stateOpen → n.Told peers i .lent) ∧
      ∀ msg, source.errorMsg = some msg → msg ∈ localMsgs ∨
        ∃ id code, n.Told peers i (.fail id code) ∧ msg = failMsg code.toByte := by
  obtain ⟨reply, hreply, htold⟩ := h.hears hh
  have hp := h.sources i
  obtain ⟨source, e, hheard, hk⟩ := sourceUpdate_hears (peers i).host hp.kept hreply
  refine ⟨source, e, hp.updated (sourceUpdate_updated _ hp.kept.builder e) hk, fun ho => ?_, fun msg hmsg => ?_⟩
  · rcases hheard.opened ho with hold | hlent
    · exact h.opened i hold
    · exact htold _ hlent
  · rcases hheard.failed msg hmsg with hold | rfl | rfl | ⟨id, code, hfail, rfl⟩
    · exact h.failed i msg hold
    · exact .inl (by simp [localMsgs])
    · exact .inl (by simp [localMsgs])
    · exact .inr ⟨id, code, htold _ hfail, rfl⟩

/-- What the sink finds: one request of a source, or something of a stranger. -/
theorem NetworkInv.reaches (h : NetworkInv peers n) {datagram : Datagram} (hr : n.Reaches peers datagram) :
    Stranger peers datagram.sender ∨ ∃ (i : ι) (m : WireMsg) (r : Request),
      udpEndpointEqual datagram.sender (peers i).endpoint = true ∧ datagram = ⟨m.bytes, datagram.sender⟩ ∧
      m.request = some r ∧ m.bytes.length ≤ sinkRecvBufLen ∧ (peers i).Asks (n.puts i) r := by
  rcases hr with ⟨i, heq, hm⟩ | hs
  · obtain ⟨m, r, hb, hreq, hfit, hasks⟩ := (h.sources i).request hm
    exact .inr ⟨i, m, r, heq, by rw [← hb], hreq, hfit, hasks⟩
  · exact .inl hs

/-- **The lease** is always a stranger's or one that a source asked for. -/
theorem NetworkInv.sinkLease (h : NetworkInv peers n) {c : SinkCall} {s' : Sink}
    (hr : ∀ datagram ∈ c.datagram, n.Reaches peers datagram) (e : sinkCall H n.sink c = .ok s')
    {endpoint : UdpEndpoint} {d : UInt32} (hl : s'.lease = some (endpoint, d)) :
    Stranger peers endpoint ∨ Borrows peers endpoint d := by
  rcases sinkCall_lease h.sink e with hsame | hnone | ⟨clock, datagram, d', rfl, hnew⟩
  · exact h.lease endpoint d (hsame ▸ hl)
  · rw [hnone] at hl
    cases hl
  · rw [hnew] at hl
    cases hl
    rcases h.reaches (hr datagram rfl) with hs | ⟨i, m, r, heq, hd, hreq, hfit, hasks⟩
    · exact .inl hs
    · by_cases halive : n.sink.state = .stateError
      · rw [sinkCall_error halive e, Sink.lease_eq_none (by simp [halive])] at hnew
        cases hnew
      · rw [hd] at e
        have hup := atollaSinkState_request h.sink halive hreq hfit e
        rcases hup.handled.lease with hsame | hnone | ⟨fl, bl, rfl, he, hnew'⟩
        · exact h.lease _ _ (hsame ▸ hnew)
        · rw [hnone] at hnew
          cases hnew
        · rw [hnew', Option.some.injEq, Prod.mk.injEq] at hnew
          obtain ⟨-, rfl⟩ := hnew
          obtain ⟨h10, h128⟩ := Session.borrowError_none he
          cases hasks with
          | borrow hfl hbl =>
            exact .inr ⟨i, heq, (toNat_borrowDuration fl).trans hfl, hfl ▸ h10, hbl ▸ h128⟩

variable [DecidableEq ι]

/-! ### Sources -/

/-- Another source in the place of one. -/
theorem NetworkInv.withSource (h : NetworkInv peers n) {source : Source} {sleeping : ι → Bool} {puts : ι → List Bytes}
    (hputs : ∀ j, j ≠ i → puts j = n.puts j) (hp : PeerInv (peers i) (puts i) source)
    (ho : source.state = .stateOpen → n.Told peers i .lent)
    (hf : ∀ msg, source.errorMsg = some msg → msg ∈ localMsgs ∨
      ∃ id code, n.Told peers i (.fail id code) ∧ msg = failMsg code.toByte) :
    NetworkInv peers { n.withSource i source with sleeping := sleeping, puts := puts } where
  sources j := by
    by_cases hj : j = i
    · subst hj
      show PeerInv (peers j) (puts j) ((n.withSource j source).sources j)
      rw [n.withSource_same]
      exact hp
    · show PeerInv (peers j) (puts j) ((n.withSource i source).sources j)
      rw [n.withSource_other hj, hputs j hj]
      exact h.sources j
  sink := h.sink
  replies := h.replies
  stored := h.stored
  lease := h.lease
  opened j hj := by
    have hj' : ((n.withSource i source).sources j).state = .stateOpen := hj
    by_cases hji : j = i
    · subst hji
      rw [n.withSource_same] at hj'
      exact ho hj'
    · rw [n.withSource_other hji] at hj'
      exact h.opened j hj'
  failed j msg hj := by
    have hj' : ((n.withSource i source).sources j).errorMsg = some msg := hj
    by_cases hji : j = i
    · subst hji
      rw [n.withSource_same] at hj'
      exact hf msg hj'
    · rw [n.withSource_other hji] at hj'
      exact h.failed j msg hj'

theorem NetworkInv.updateStep (h : NetworkInv peers n) {env : SourceEnv} (hh : n.Hears peers i env.datagram)
    (e : networkStep H peers n (.update i env) = .ok n') : NetworkInv peers n' := by
  obtain ⟨source, e₁, hp, ho, hf⟩ := h.update hh
  rw [networkStep, e₁] at e
  cases e
  exact h.withSource (fun _ _ => rfl) hp ho hf

theorem NetworkInv.sleepStep (h : NetworkInv peers n) {env : SourceEnv} {now later : UInt32}
    (hh : n.Hears peers i env.datagram) (e : networkStep H peers n (.sleep i env now later) = .ok n') :
    NetworkInv peers n' := by
  obtain ⟨⟨timeout, source⟩, e₁, e⟩ := bind_eq_ok.mp e
  cases e
  obtain ⟨s₁, e₂, hp, ho, hf⟩ := h.update hh
  have hupd := atollaSourcePutReadyTimeout_update _ e₁
  rw [e₂, Except.ok.injEq] at hupd
  subst hupd
  exact h.withSource (fun _ _ => rfl) hp ho hf

theorem NetworkInv.putStep (h : NetworkInv peers n) {env : PutEnv} {frame : Bytes} (hfit : frame.length ≤ 1016)
    (e : networkStep H peers n (.put i env frame) = .ok n') : NetworkInv peers n' := by
  obtain ⟨⟨sent, source⟩, e₁, e⟩ := bind_eq_ok.mp e
  cases e
  obtain ⟨hp, hstate, herror⟩ := (h.sources i).putFrame hfit e₁
  refine h.withSource (fun j hj => ?_) ?_ (fun hs => h.opened i (hstate.symm.trans hs))
    fun msg hmsg => h.failed i msg (herror.symm.trans hmsg)
  · split
    · rw [Function.update_of_ne hj]
    · rfl
  · cases sent with
    | false => exact hp
    | true =>
      rw [if_pos rfl, Function.update_self]
      exact hp

/-! ### The sink -/

/-- **A call of the sink.** -/
theorem NetworkInv.sinkStep (h : NetworkInv peers n) {c : SinkCall}
    (hr : ∀ datagram ∈ c.datagram, n.Reaches peers datagram) (e : networkStep H peers n (.sink c) = .ok n') :
    NetworkInv peers n' := by
  obtain ⟨s', e₁, e⟩ := bind_eq_ok.mp e
  cases e
  obtain ⟨sent, hsent, hreplies⟩ := sinkCall_sent h.sink e₁
  have hmore : ∀ i r, n.Told peers i r →
      Network.Told peers { n with sink := s', stored := n.stored ++ c.stores n.sink s' } i r := by
    rintro i r ⟨id, receiver, hm, heq⟩
    exact ⟨id, receiver, by rw [hsent]; exact List.mem_append_left _ hm, heq⟩
  refine ⟨h.sources, sinkCall_inv h.sink e₁, fun d hd => ?_, ?_, fun endpoint d hl => h.sinkLease hr e₁ hl,
    fun i ho => hmore i _ (h.opened i ho), fun i msg hmsg => ?_⟩
  · rw [hsent] at hd
    rcases List.mem_append.mp hd with hd | hd
    · exact h.replies d hd
    · obtain ⟨id, r, hb, -⟩ := hreplies d hd
      exact ⟨id, r, hb⟩
  · rw [List.map_append, h.stored, sinkCall_stores h.sink e₁]
  · rcases h.failed i msg hmsg with hlocal | ⟨id, code, htold, hmsg⟩
    · exact .inl hlocal
    · exact .inr ⟨id, code, hmore i _ htold, hmsg⟩

/-- **Every network** that is reached. -/
theorem networkReached_inv (h : (network H peers).Reached n) : NetworkInv peers n := by
  refine h.inv ?_ ?_
  · rintro m ⟨hsources, ⟨spec, bound, hsink⟩, -, hputs, hstored⟩
    obtain ⟨lights, h1, hn, -, hfresh⟩ := atollaSinkMake_fresh hsink
    have hpeer : ∀ i, PeerInv (peers i) (m.puts i) (m.sources i) ∧ (m.sources i).state ≠ .stateOpen ∧
        ∀ msg, (m.sources i).errorMsg = some msg → msg ∈ localMsgs := by
      intro i
      obtain ⟨env, e⟩ := hsources i
      exact hputs ▸ atollaSourceMake_peer e
    refine ⟨fun i => (hpeer i).1, hfresh ▸ freshSink_inv H h1 hn bound, ?_, ?_, ?_,
      fun i ho => absurd ho (hpeer i).2.1, fun i msg hmsg => .inl ((hpeer i).2.2 msg hmsg)⟩
    · rw [hfresh]
      exact fun d hd => by cases hd
    · rw [hfresh, hstored]
      rfl
    · rw [hfresh]
      intro endpoint d hl
      cases bound with
      | true => cases hl
      | false => cases hl
  · rintro m m' - hi ⟨a, ha, e⟩
    cases a with
    | update i env => exact hi.updateStep ha.2 e
    | sleep i env now later => exact hi.sleepStep ha.2.2 e
    | put i env frame => exact hi.putStep ha.2 e
    | sink c => exact hi.sinkStep ha e

end Network

end Atolla

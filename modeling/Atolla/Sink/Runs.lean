import Atolla.Sink.Get
import Atolla.Sink.Messages

/-!
# Runs of the sink

The invariant holds of every sink that was made and then called in any way (`reachable_inv`). What an update does
beside handling a datagram, its replies and its timeout, leaves the session alone (`SameSession`).
-/

set_option autoImplicit false

namespace Atolla

open Loop

/-! ## Creation -/

section Make

variable {H : Host} {spec : AtollaSinkSpec} {bound : Bool} {s : Sink}

/-- What `atolla_sink_make` returns, once its assertions hold. -/
def freshSink (H : Host) (lightsCount : Nat) (bound : Bool) : Sink where
  state := if bound then .stateOpen else .stateError
  errorMsg := if bound then none else some "Failed to bind source to port specified in spec."
  socket := []
  borrowerEndpoint := ⟨List.replicate 128 0, 0⟩
  lightsCount := lightsCount
  frameDurationMs := 0
  builder := msgBuilderInit H
  recvBuf := List.replicate sinkRecvBufLen 0
  currentFrame := memBlockAlloc H (lightsCount * colorChannelCount)
  receivedFrame := memBlockAlloc H (lightsCount * colorChannelCount)
  pendingFrames := memRingAlloc H (lightsCount * colorChannelCount * pendingFramesCapacity)
  timeOrigin := 0
  lastEnqueuedFrameIdx := 0
  lastRecvTime := 0
  lastSendLentTime := 0
  enqueued := []
  dequeued := []

/-- **Making a sink**: the assertions, then a fresh sink. -/
theorem atollaSinkMake_eq (H : Host) (spec : AtollaSinkSpec) (bound : Bool) :
    atollaSinkMake H spec bound =
      if (0 ≤ spec.port ∧ spec.port < 65536) ∧ 1 ≤ spec.lightsCount ∧ spec.lightsCount ≤ 337 then
        .ok (freshSink H spec.lightsCount.toNat bound)
      else .error .assertion := by
  rw [atollaSinkMake, sinkPrivateMake]
  by_cases hp : 0 ≤ spec.port ∧ spec.port < 65536
  · by_cases hl : 1 ≤ spec.lightsCount
    · by_cases hb : spec.lightsCount.toNat * colorChannelCount + 10 < sinkRecvBufLen
      · have hb' : spec.lightsCount ≤ 337 := by
          simp only [colorChannelCount, sinkRecvBufLen] at hb; omega
        rw [if_pos ⟨hp, hl, hb'⟩, assert_pos hp, assert_pos hl, ok_bind, ok_bind]
        simp only [assert_pos hb, ok_bind]
        cases bound <;> rfl
      · have hb' : ¬spec.lightsCount ≤ 337 := by
          simp only [colorChannelCount, sinkRecvBufLen] at hb; omega
        rw [if_neg (fun h => hb' h.2.2), assert_pos hp, assert_pos hl, ok_bind, ok_bind]
        simp only [assert_neg hb]
        rfl
    · rw [if_neg (fun h => hl h.2.1), assert_pos hp, assert_neg hl]
      rfl
  · rw [if_neg (fun h => hp h.1), assert_neg hp]
    rfl

theorem freshSink_ring (H : Host) {n : Nat} (h1 : 1 ≤ n) (hn : n ≤ 337) (bound : Bool) :
    (freshSink H n bound).pendingFrames.Holds (freshSink H n bound).frameLen pendingFramesCapacity
      Fifo.Queue.empty := by
  have h : (memRingAlloc H (pendingFramesCapacity * (n * colorChannelCount))).Holds (n * colorChannelCount)
      pendingFramesCapacity Fifo.Queue.empty :=
    memRingAlloc_holds H (by simp only [colorChannelCount]; omega) (by decide)
      (by simp only [colorChannelCount, pendingFramesCapacity]; omega)
  rw [Nat.mul_comm pendingFramesCapacity] at h
  exact h

theorem freshSink_pending (H : Host) {n : Nat} (h1 : 1 ≤ n) (hn : n ≤ 337) (bound : Bool) :
    (freshSink H n bound).pending = [] := (freshSink_ring H h1 hn bound).2

theorem freshSink_inv (H : Host) {n : Nat} (h1 : 1 ≤ n) (hn : n ≤ 337) (bound : Bool) :
    SinkInv (freshSink H n bound) where
  lights := ⟨h1, hn⟩
  builder := memBlockAlloc_owned H _
  currentData := memBlockAlloc_owned H _
  currentCapacity := rfl
  receivedData := memBlockAlloc_owned H _
  receivedCapacity := rfl
  ring := (freshSink_ring H h1 hn bound).1
  idx := ⟨by show (-1 : Int) ≤ 0; decide, by show (0 : Int) ≤ 255; decide⟩
  duration h := by cases bound <;> cases h
  history := freshSink_pending H h1 hn bound
  shown _ h := by cases h

theorem atollaSinkMake_fresh (e : atollaSinkMake H spec bound = .ok s) :
    ∃ n : Nat, 1 ≤ n ∧ n ≤ 337 ∧ (n : Int) = spec.lightsCount ∧ s = freshSink H n bound := by
  rw [atollaSinkMake_eq] at e
  split at e
  · rename_i h
    cases e
    exact ⟨spec.lightsCount.toNat, by omega, by omega, by omega, rfl⟩
  · cases e

end Make

/-! ## Updates -/

/-- `s'` is `s` but for its mail: the socket, the builder, the receive buffer, the panic text and the times of the
last messages. -/
structure SameSession (s s' : Sink) : Prop where
  same : s' = { s with
    errorMsg := s'.errorMsg
    socket := s'.socket
    builder := s'.builder
    recvBuf := s'.recvBuf
    lastRecvTime := s'.lastRecvTime
    lastSendLentTime := s'.lastSendLentTime }

section Session

variable {s s' s'' : Sink}

theorem SameSession.refl (s : Sink) : SameSession s s := ⟨rfl⟩

theorem SameSession.trans (h : SameSession s s') (h' : SameSession s' s'') : SameSession s s'' := by
  have hsame := h'.same
  rw [h.same] at hsame
  exact ⟨hsame⟩

theorem SameSession.replied (s : Sink) (builder : MsgBuilder) (bytes : Bytes) (receiver : UdpEndpoint) :
    SameSession s (s.replied builder bytes receiver) := ⟨rfl⟩

namespace SameSession

variable (h : SameSession s s')

include h

theorem state : s'.state = s.state := by rw [h.same]

theorem borrower : s'.borrowerEndpoint = s.borrowerEndpoint := by rw [h.same]

theorem lights : s'.lightsCount = s.lightsCount := by rw [h.same]

theorem duration : s'.frameDurationMs = s.frameDurationMs := by rw [h.same]

theorem ring : s'.pendingFrames = s.pendingFrames := by rw [h.same]

theorem current : s'.currentFrame = s.currentFrame := by rw [h.same]

theorem origin : s'.timeOrigin = s.timeOrigin := by rw [h.same]

theorem idx : s'.lastEnqueuedFrameIdx = s.lastEnqueuedFrameIdx := by rw [h.same]

theorem enqueued : s'.enqueued = s.enqueued := by rw [h.same]

theorem dequeued : s'.dequeued = s.dequeued := by rw [h.same]

theorem frameLen : s'.frameLen = s.frameLen := by rw [Sink.frameLen, h.lights]; rfl

theorem pending : s'.pending = s.pending := by rw [Sink.pending, h.ring, h.frameLen]; rfl

end SameSession

end Session

section Update

variable (H : Host) {s : Sink}

theorem sinkSendFailTo_same (h : SinkInv s) (id : UInt16) (code : ErrorCode) (receiver : UdpEndpoint) :
    ∃ s', sinkSendFailTo H s id code receiver = .ok s' ∧ SinkInv s' ∧ SameSession s s' := by
  obtain ⟨builder, e, hb, -⟩ := sinkSendFailTo_spec H h id code receiver
  exact ⟨_, e, h.replied hb _ _, SameSession.replied s _ _ _⟩

theorem sinkSendLent_same (h : SinkInv s) (now : UInt32) :
    ∃ s', sinkSendLent H now s = .ok s' ∧ SinkInv s' ∧ SameSession s s' := by
  obtain ⟨builder, e, -, -⟩ := sinkSendLent_spec H h now
  exact ⟨_, e, sinkSendLent_inv H h e, ⟨rfl⟩⟩

/-- **What a sink that is lent to the sender of a BORROW behind it did**: it accepted it. -/
theorem sinkHandleBorrow_accepted (h : SinkInv s) {s' : Sink} {now : UInt32} {id : UInt16} {d : Int} {n : Nat}
    {sender : UdpEndpoint} (e : sinkHandleBorrow H now s id d n sender = .ok s') (hs : s'.state = .stateLent)
    (hb : udpEndpointEqual sender s'.borrowerEndpoint = true) : s.Lends d n sender := by
  have hdrop : ∀ {t : Sink}, (if t.state = .stateLent then sinkDropBorrow t else t).state ≠ .stateLent := by
    intro t
    split
    · intro h
      cases h
    · assumption
  unfold sinkHandleBorrow at e
  split at e
  · rename_i hfree
    simp only at e
    split at e
    · obtain ⟨t, -, et⟩ := bind_eq_ok.mp e
      cases et
      exact absurd hs hdrop
    · rename_i hfits
      split at e
      · obtain ⟨t, -, et⟩ := bind_eq_ok.mp e
        cases et
        exact absurd hs hdrop
      · rename_i hslow
        rw [h.required_le] at hfits
        exact ⟨hfree, Nat.not_lt.mp hfits, Int.not_lt.mp hslow⟩
  · rename_i hfree
    split at e
    · rename_i hlent
      -- lent to another endpoint before and behind it
      obtain ⟨t, et, -, hsame⟩ := sinkSendFailTo_same H h id .lentToOtherSource sender
      rw [et, Except.ok.injEq] at e
      subst e
      rw [hsame.borrower] at hb
      exact absurd (.inr ⟨hlent, hb⟩) hfree
    · rename_i hlent
      cases e
      exact absurd hs hlent

/-- `sink_send` sends a LENT or nothing. -/
theorem sinkSend_same (h : SinkInv s) (clock : SinkClock) :
    ∃ s', sinkSend H clock s = .ok s' ∧ SinkInv s' ∧ SameSession s s' := by
  unfold sinkSend
  split
  · split
    · exact sinkSendLent_same H h clock.lent
    · exact ⟨s, rfl, h, SameSession.refl s⟩
  · exact ⟨s, rfl, h, SameSession.refl s⟩

/-- New contents of the receive buffer. -/
theorem SinkInv.withRecvBuf (h : SinkInv s) (recvBuf : Bytes) : SinkInv { s with recvBuf := recvBuf } :=
  h.congr rfl h.builder rfl rfl rfl h.idx h.duration rfl rfl

theorem SinkInv.withRecvTime (h : SinkInv s) (now : UInt32) : SinkInv { s with lastRecvTime := now } :=
  h.congr rfl h.builder rfl rfl rfl h.idx h.duration rfl rfl

theorem sinkReceive_inv (h : SinkInv s) {clock : SinkClock} {dg : Option Datagram} {s' : Sink}
    (e : sinkReceive H clock s dg = .ok s') : SinkInv s' := by
  unfold sinkReceive at e
  split at e
  · rename_i recvBuf n sender hrecv
    obtain ⟨s₁, h₁, h₂⟩ := bind_eq_ok.mp e
    cases h₂
    exact (sinkIterateRecvBuf_inv H (h.withRecvBuf recvBuf) h₁).withRecvTime _
  · split at e
    · obtain ⟨s₁, h₁, h₂⟩ := bind_eq_ok.mp e
      cases h₂
      exact (sinkSendFailTo_inv H h h₁).dropBorrow
    · cases e
      exact h

theorem atollaSinkState_inv (h : SinkInv s) {clock : SinkClock} {dg : Option Datagram} {s' : Sink}
    (e : atollaSinkState H clock s dg = .ok s') : SinkInv s' := by
  unfold atollaSinkState at e
  split at e
  · obtain ⟨s₁, h₁, h₂⟩ := bind_eq_ok.mp e
    have hi := sinkReceive_inv H h h₁
    obtain ⟨s₂, e₂, hi₂, -⟩ := sinkSend_same H hi clock
    rw [e₂, Except.ok.injEq] at h₂
    exact h₂ ▸ hi₂
  · cases e
    exact h

/-- **A datagram of complete messages** that fits the receive buffer: they are handled in order, then `sink_send`. -/
theorem atollaSinkState_complete (hs : s.state ≠ .stateError) {ms : List WireMsg} (hne : ms ≠ [])
    (hr : ∀ m ∈ ms, m.request.isSome) (hfit : (wire ms).length ≤ sinkRecvBufLen) (clock : SinkClock)
    (sender : UdpEndpoint) :
    atollaSinkState H clock s (some ⟨wire ms, sender⟩) =
      (withOffsets 0 ms).foldlM (sinkHandleWire H clock.message sender)
          { s with recvBuf := wire ms ++ s.recvBuf.drop (wire ms).length } >>= fun s' =>
        sinkSend H clock { s' with lastRecvTime := clock.received } := by
  rw [atollaSinkState, if_pos hs, sinkUpdate, sinkReceive, udpSocketReceiveFrom_fits sender (wire_ne_nil hne) hfit]
  simp only [sinkIterateRecvBuf_complete H hr { s with recvBuf := _ } rfl, bind_assoc]
  rfl

/-- **A datagram with one message.** -/
theorem atollaSinkState_one (hs : s.state ≠ .stateError) {m : WireMsg} {r : Request} (hr : m.request = some r)
    (hfit : m.bytes.length ≤ sinkRecvBufLen) (clock : SinkClock) (sender : UdpEndpoint) :
    atollaSinkState H clock s (some ⟨m.bytes, sender⟩) =
      sinkHandleRequest H (clock.message 0) sender { s with recvBuf := m.bytes ++ s.recvBuf.drop m.bytes.length } m.id
          r >>= fun s' => sinkSend H clock { s' with lastRecvTime := clock.received } := by
  rw [atollaSinkState, if_pos hs, sinkUpdate, sinkReceive, udpSocketReceiveFrom_fits sender m.bytes_ne_nil hfit]
  simp only [sinkIterateRecvBuf_one H hr { s with recvBuf := _ } rfl, bind_assoc]
  rfl

/-- **An accepted BORROW** opens a session. -/
theorem atollaSinkState_borrow (h : SinkInv s) {d n : UInt8} {sender : UdpEndpoint}
    (hl : s.Lends d.toNat n.toNat sender) (id : UInt16) (clock : SinkClock) :
    ∃ s', atollaSinkState H clock s (some ⟨(WireMsg.borrow id d n).bytes, sender⟩) = .ok s' ∧ SinkInv s' ∧
      SameSession (s.granted d.toNat sender) s' := by
  rw [atollaSinkState_one H hl.not_error (WireMsg.request_borrow id d n) (WireMsg.length_borrow_le id d n)]
  set bytes := (WireMsg.borrow id d n).bytes
  have h₀ : SinkInv { s with recvBuf := bytes ++ s.recvBuf.drop bytes.length } :=
    h.withRecvBuf _
  have hl₀ : Sink.Lends { s with recvBuf := bytes ++ s.recvBuf.drop bytes.length } d.toNat n.toNat sender :=
    ⟨hl.free, hl.fits, hl.slow⟩
  obtain ⟨builder, e, hb, -⟩ := sinkHandleBorrow_lends H h₀ hl₀ (clock.message 0) id
  have h₁ := (h₀.lent hb (clock.message 0) hl.slow (by have := d.toNat_lt; omega) sender).withRecvTime clock.received
  obtain ⟨s', e', h', hsame⟩ := sinkSend_same H h₁ clock
  refine ⟨s', ?_, h', ?_⟩
  · show sinkHandleBorrow H (clock.message 0) _ id d.toNat n.toNat sender >>= _ = _
    rw [e, ok_bind, e']
  · exact SameSession.trans ⟨rfl⟩ hsame

/-- **An ENQUEUE of the borrower within reach**, with room for its copies: they are stored. -/
theorem atollaSinkState_enqueue (h : SinkInv s) (hs : s.state = .stateLent) {sender : UdpEndpoint}
    (hb : udpEndpointEqual sender s.borrowerEndpoint = true) (frame : Bytes) (h3 : 3 ≤ frame.length)
    (hfit : frame.length ≤ 1016) (idx : UInt8) {k : Nat} (hd : s.distance idx.toNat = k) (hk : k ≤ 128)
    (hroom : s.pending.length + k ≤ pendingFramesCapacity) (id : UInt16) (clock : SinkClock) :
    ∃ s₁ s', atollaSinkState H clock s (some ⟨(WireMsg.enqueue id idx frame (by omega)).bytes, sender⟩) = .ok s' ∧
      SinkInv s' ∧ Stored s s₁ (List.replicate k (s.patterned frame)) idx.toNat ∧ SameSession s₁ s' := by
  have hle : frame.length ≤ 65532 := by omega
  set m := WireMsg.enqueue id idx frame hle with hm
  have hlen : m.bytes.length ≤ sinkRecvBufLen := by
    rw [hm]
    simp only [WireMsg.length_bytes, WireMsg.enqueue, length_enqueuePayload, sinkRecvBufLen]
    omega
  rw [atollaSinkState_one H (by simp [hs]) (WireMsg.request_enqueue id idx frame hle) hlen]
  have h₀ : SinkInv { s with recvBuf := m.bytes ++ s.recvBuf.drop m.bytes.length } :=
    h.withRecvBuf _
  obtain ⟨s₁, e, hst⟩ := sinkHandleEnqueue_append H h₀ hs hb
    (show 3 ≤ (MemBlock.ofBytes frame).size from h3) (MemBlock.valid_ofBytes frame)
    (show idx.toNat ≤ 255 by have := idx.toNat_lt; omega) hd hk hroom m.id
  rw [MemBlock.bytes_ofBytes] at hst
  obtain ⟨s', e', h', hsame⟩ := sinkSend_same H (hst.inv.withRecvTime clock.received) clock
  -- the receive buffer is not part of the session
  set s₂ : Sink := { s₁ with recvBuf := s.recvBuf } with hs₂
  have hst₂ : Stored s s₂ (List.replicate k (s.patterned frame)) idx.toNat := by
    refine ⟨?_, hst.inv.withRecvBuf s.recvBuf, hst.pending⟩
    rw [hs₂, hst.same]
    rfl
  refine ⟨s₂, s', ?_, h', hst₂, SameSession.trans ⟨rfl⟩ hsame⟩
  show sinkHandleEnqueue H _ m.id idx.toNat (MemBlock.ofBytes frame) sender >>= _ = _
  rw [e, ok_bind, e']

end Update

/-! ## Runs -/

section Run

variable {H : Host} {s s' : Sink}

/-- **An update without a datagram** that does not lose the session. -/
theorem atollaSinkState_silent (h : SinkInv s) {clock : SinkClock} (e : atollaSinkState H clock s none = .ok s')
    (hstay : s.state = .stateLent → s'.state = .stateLent) : SinkInv s' ∧ SameSession s s' := by
  have hi := atollaSinkState_inv H h e
  refine ⟨hi, ?_⟩
  unfold atollaSinkState at e
  split at e
  · obtain ⟨s₁, e₁, e₂⟩ := bind_eq_ok.mp e
    have hrecv : udpSocketReceiveFrom s.recvBuf sinkRecvBufLen none = none := rfl
    rw [sinkReceive, hrecv] at e₁
    simp only at e₁
    split at e₁
    · -- the timeout loses it
      rename_i hto
      obtain ⟨t, -, et⟩ := bind_eq_ok.mp e₁
      cases et
      rw [sinkSend, if_neg (show ¬(sinkDropBorrow t).state = .stateLent by intro h; cases h), Except.ok.injEq] at e₂
      have hlent := hstay hto.1
      rw [← e₂] at hlent
      cases hlent
    · cases e₁
      obtain ⟨s₂, e₃, -, hsame⟩ := sinkSend_same H h clock
      rw [e₃, Except.ok.injEq] at e₂
      exact e₂ ▸ hsame
  · cases e
    exact SameSession.refl s

/-- **One call.** -/
theorem sinkCall_inv (h : SinkInv s) {c : SinkCall} (e : sinkCall H s c = .ok s') : SinkInv s' := by
  cases c with
  | state clock dg => exact atollaSinkState_inv H h e
  | get now frame =>
    obtain ⟨r, hr, he⟩ := bind_eq_ok.mp e
    cases he
    exact atollaSinkGet_inv h hr

/-- **Every reachable sink** satisfies the invariant. -/
theorem reachable_inv (h : Reachable H s) : SinkInv s := by
  induction h with
  | make e =>
    obtain ⟨n, h1, hn, -, rfl⟩ := atollaSinkMake_fresh e
    exact freshSink_inv H h1 hn _
  | call _ e ih => exact sinkCall_inv ih e

/-- Calls one after the other. -/
def sinkRun (H : Host) (s : Sink) (calls : List SinkCall) : Run Sink := calls.foldlM (sinkCall H) s

/-- A fresh sink lends itself to the first endpoint that asks for a session it can serve. -/
theorem freshSink_lends (H : Host) (lights : Nat) {d n : Nat} (hd : 10 ≤ d) (hn : n ≤ pendingFramesCapacity)
    (sender : UdpEndpoint) : (freshSink H lights true).Lends d n sender :=
  ⟨.inl rfl, hn, by simp only [frameLengthMsMin]; omega⟩

/-- **The first session** of a sink. -/
theorem freshSink_borrow (H : Host) (lights : Nat) (h1 : 1 ≤ lights) (hl : lights ≤ 337) {d n : UInt8}
    (hd : 10 ≤ d.toNat) (hn : n.toNat ≤ pendingFramesCapacity) (id : UInt16) (clock : SinkClock)
    (sender : UdpEndpoint) :
    ∃ s, sinkCall H (freshSink H lights true) (.state clock (some ⟨(WireMsg.borrow id d n).bytes, sender⟩)) = .ok s ∧
      SinkInv s ∧ SameSession ((freshSink H lights true).granted d.toNat sender) s :=
  atollaSinkState_borrow H (freshSink_inv H h1 hl true) (freshSink_lends H lights hd hn sender) id clock

theorem freshSink_make (H : Host) {lights : Nat} (h1 : 1 ≤ lights) (hl : lights ≤ 337) (bound : Bool) :
    atollaSinkMake H ⟨0, lights⟩ bound = .ok (freshSink H lights bound) := by
  rw [atollaSinkMake_eq, if_pos ⟨⟨Int.le_refl _, by simp only; omega⟩, by simp only; omega, by simp only; omega⟩]
  rfl

theorem reachable_fresh (H : Host) {lights : Nat} (h1 : 1 ≤ lights) (hl : lights ≤ 337) (bound : Bool) :
    Reachable H (freshSink H lights bound) := .make (freshSink_make H h1 hl bound)

/-- An endpoint, a clock and a frame for examples. -/
def exampleEndpoint : UdpEndpoint := ⟨[10, 0, 0, 1], 4⟩

def exampleClock : SinkClock := ⟨fun _ => 1000, 1000, 1000, 1000⟩

theorem exampleFrame_le : ([1, 2, 3] : Bytes).length ≤ 65532 := by decide

theorem sinkRun_pair {c c' : SinkCall} {t : Sink} (e : sinkCall H s c = .ok t) (e' : sinkCall H t c' = .ok s') :
    sinkRun H s [c, c'] = .ok s' := by
  rw [sinkRun, List.foldlM_cons, e, ok_bind, List.foldlM_cons, e']
  rfl

/-! ## The first session of a sink of one light -/

/-- Behind its BORROW. -/
structure FirstSession (H : Host) (clock : SinkClock) (d n : UInt8) (sender : UdpEndpoint) (s : Sink) : Prop where
  call : sinkCall H (freshSink H 1 true) (.state clock (some ⟨(WireMsg.borrow 0 d n).bytes, sender⟩)) = .ok s
  inv : SinkInv s
  session : SameSession ((freshSink H 1 true).granted d.toNat sender) s

theorem exists_firstSession (H : Host) {d n : UInt8} (hd : 10 ≤ d.toNat) (hn : n.toNat ≤ pendingFramesCapacity)
    (clock : SinkClock) (sender : UdpEndpoint) : ∃ s, FirstSession H clock d n sender s := by
  obtain ⟨s, e, hi, hsame⟩ := freshSink_borrow H 1 (Nat.le_refl 1) (by decide) hd hn 0 clock sender
  exact ⟨s, e, hi, hsame⟩

/-- Behind its first ENQUEUE. -/
structure FirstFrame (sender : UdpEndpoint) (idx : UInt8) (frame : Bytes) (s : Sink) : Prop where
  inv : SinkInv s
  state : s.state = .stateLent
  borrower : s.borrowerEndpoint = sender
  lights : s.lightsCount = 1
  last : s.lastEnqueuedFrameIdx = idx.toNat
  pending : s.pending = List.replicate (idx.toNat + 1) (Pattern.cycle 3 frame)
  enqueued : s.enqueued = List.replicate (idx.toNat + 1) (Pattern.cycle 3 frame)

theorem FirstFrame.own {sender : UdpEndpoint} {idx : UInt8} {frame : Bytes} (h : FirstFrame sender idx frame s) :
    udpEndpointEqual sender s.borrowerEndpoint = true := by
  rw [h.borrower]
  exact udpEndpointEqual_refl sender

namespace FirstSession

variable {clock : SinkClock} {d n : UInt8} {sender : UdpEndpoint} (h : FirstSession H clock d n sender s)

include h

theorem reachable : Reachable H s := .call (reachable_fresh H (Nat.le_refl 1) (by decide) true) h.call

theorem own : udpEndpointEqual sender s.borrowerEndpoint = true := by
  rw [h.session.borrower]
  exact udpEndpointEqual_refl sender

theorem pending : s.pending = [] := h.session.pending.trans (freshSink_pending H (Nat.le_refl 1) (by decide) true)

/-- **The first frame** is stored as often as its index asks for. -/
theorem enqueue (frame : Bytes) (h3 : 3 ≤ frame.length) (hfit : frame.length ≤ 1016) (idx : UInt8)
    (hidx : idx.toNat ≤ 127) (id : UInt16) (clock' : SinkClock) :
    ∃ s', sinkCall H s (.state clock' (some ⟨(WireMsg.enqueue id idx frame (by omega)).bytes, sender⟩)) = .ok s' ∧
      FirstFrame sender idx frame s' := by
  have hlast : s.lastEnqueuedFrameIdx = -1 := h.session.idx
  have hlights : s.lightsCount = 1 := h.session.lights
  have hd : s.distance idx.toNat = (idx.toNat + 1 : Nat) := by
    rw [Sink.distance, hlast, boundedDiff]
    omega
  obtain ⟨s₁, s', e, hi, hst, hsame⟩ := atollaSinkState_enqueue H h.inv h.session.state h.own frame h3 hfit idx hd
    (by omega) (by rw [h.pending, pendingFramesCapacity, List.length_nil]; omega) id clock'
  have hpat : s.patterned frame = Pattern.cycle 3 frame := by
    rw [Sink.patterned, Sink.frameLen, hlights]
    rfl
  rw [hpat] at hst
  refine ⟨s', e, hi, ?_, ?_, ?_, ?_, ?_, ?_⟩
  · rw [hsame.state, hst.same]
    exact h.session.state
  · rw [hsame.borrower, hst.same]
    exact h.session.borrower
  · rw [hsame.lights, hst.same]
    exact hlights
  · rw [hsame.idx, hst.same]
  · rw [hsame.pending, hst.pending, h.pending, List.nil_append]
  · have henq : s.enqueued = [] := h.session.enqueued
    rw [hsame.enqueued, hst.same, henq, List.nil_append]

end FirstSession

end Run

end Atolla

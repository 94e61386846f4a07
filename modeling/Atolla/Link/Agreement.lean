import Atolla.Sink.Runs
import Atolla.Source.Runs

/-!
# What the two peers agree on

The parameters of a source reach the sink as the two bytes of a BORROW. The sink that accepts it has the frame duration
and checked the buffer length of these bytes (`atollaSinkState_accepted`), which are those of the source as long as they
fit a byte (`parameters_agree_iff`).
-/

set_option autoImplicit false

namespace Atolla

open Loop

/-- The frame duration of a session is the byte of its BORROW. -/
theorem toNat_borrowDuration (d : UInt8) : (UInt32.ofInt (d.toNat : Int)).toNat = d.toNat := by
  have hd := d.toNat_lt
  rw [UInt32.ofInt, UInt32.toNat_ofNat']
  omega

section Accepted

variable (H : Host) {s s' : Sink} {d n : UInt8} {sender : UdpEndpoint}

/-- **An accepted BORROW**: the session has the frame duration of the message. -/
theorem atollaSinkState_accepted (h : SinkInv s) {id : UInt16} {clock : SinkClock}
    (e : atollaSinkState H clock s (some ⟨(WireMsg.borrow id d n).bytes, sender⟩) = .ok s')
    (hs : s'.state = .stateLent) (hb : udpEndpointEqual sender s'.borrowerEndpoint = true) :
    s.Lends d.toNat n.toNat sender ∧ s'.frameDurationMs.toNat = d.toNat := by
  have hl : s.Lends d.toNat n.toNat sender := by
    have hne : s.state ≠ .stateError := by
      intro he
      rw [atollaSinkState, if_neg (not_not.mpr he), Except.ok.injEq] at e
      rw [← e, he] at hs
      cases hs
    rw [atollaSinkState_one H hne (WireMsg.request_borrow id d n) (WireMsg.length_borrow_le id d n)] at e
    obtain ⟨s₁, e₁, e₂⟩ := bind_eq_ok.mp e
    have h₀ := h.withRecvBuf ((WireMsg.borrow id d n).bytes ++ s.recvBuf.drop (WireMsg.borrow id d n).bytes.length)
    have h₁ := sinkHandleRequest_inv H h₀ e₁
    obtain ⟨s₂, e₃, -, hsame⟩ := sinkSend_same H (h₁.withRecvTime clock.received) clock
    rw [e₃, Except.ok.injEq] at e₂
    subst e₂
    have hs₁ : s₁.state = .stateLent := hsame.state.symm.trans hs
    have hb₁ : udpEndpointEqual sender s₁.borrowerEndpoint = true := by
      rw [← hb, hsame.borrower]
    have hacc := sinkHandleBorrow_accepted H h₀ e₁ hs₁ hb₁
    exact ⟨hacc.free, hacc.fits, hacc.slow⟩
  obtain ⟨s₁, e₁, -, hsame⟩ := atollaSinkState_borrow H h hl id clock
  rw [e₁, Except.ok.injEq] at e
  subst e
  exact ⟨hl, (congrArg UInt32.toNat hsame.duration).trans (toNat_borrowDuration d)⟩

end Accepted

/-! ## Agreement -/

/-- The two bytes of a BORROW are those of the source modulo 256. -/
theorem toNat_frameDuration {x : Int} : (UInt32.ofInt x).toUInt8.toNat = (x % 256).toNat := by
  rw [UInt32.toNat_toUInt8, UInt32.ofInt, UInt32.toNat_ofNat']
  omega

theorem toNat_bufferLength {x : Int} : (UInt8.ofInt x).toNat = (x % 256).toNat := by
  rw [UInt8.ofInt, UInt8.toNat_ofNat']
  omega

theorem enqueue_type {id : UInt16} {idx : UInt8} {f : Bytes} (hf : f.length ≤ 65532) :
    msgIterType (msgIterMake (WireMsg.enqueue id idx f hf).bytes (WireMsg.enqueue id idx f hf).bytes.length) =
      .ok .enqueue := by
  have hc : (msgIterMake (WireMsg.enqueue id idx f hf).bytes (WireMsg.enqueue id idx f hf).bytes.length).cur =
      encode 2 id (enqueuePayload idx f) ++ [] := (List.append_nil _).symm
  exact msgIterType_encode (by simp [msgIterHasMsg, msgIterMake]) .enqueue hc

section Agree

variable {H : Host} {spec : AtollaSourceSpec} {source : Source} {sink sink' : Sink} {bytes : Bytes}
  {sender : UdpEndpoint}

/-- A BORROW that a source sent has its parameters. -/
theorem SourceInv.borrow_sent (h : SourceInv spec source) (hsent : bytes ∈ source.sock)
    (htype : msgIterType (msgIterMake bytes bytes.length) = .ok .borrow) : ∃ id, bytes = source.borrowBytes id := by
  rcases h.sent bytes hsent with hb | ⟨id, idx, frame, hf, rfl⟩
  · exact hb
  · -- an ENQUEUE is of another type
    rw [enqueue_type hf] at htype
    cases htype

/-- **Agreement**: when a sink accepted a BORROW of a source, open by then or not, the frame durations of both are the
same and so are the buffer length the sink checked and that of the source, iff the spec has both in the range of a
byte. -/
theorem parameters_agree_iff (hd : IsInt spec.frameDurationMs) (hs : SourceReachable H spec source)
    (hsent : bytes ∈ source.sock) (htype : msgIterType (msgIterMake bytes bytes.length) = .ok .borrow)
    (hk : Reachable H sink) {clock : SinkClock}
    (e : atollaSinkState H clock sink (some ⟨bytes, sender⟩) = .ok sink') (hl : sink'.state = .stateLent)
    (hb : udpEndpointEqual sender sink'.borrowerEndpoint = true) :
    ∃ bufferLength, msgIterBorrowBufferLength H (msgIterMake bytes bytes.length) = .ok bufferLength ∧
      ((sink'.frameDurationMs = source.frameDurationMs ∧ (bufferLength.toNat : Int) = source.maxBufferedFrames) ↔
        (0 ≤ spec.frameDurationMs ∧ spec.frameDurationMs ≤ 255) ∧
          0 ≤ spec.maxBufferedFrames ∧ spec.maxBufferedFrames ≤ 255) := by
  have hi := sourceReachable_inv hs
  obtain ⟨id, rfl⟩ := hi.borrow_sent hsent htype
  obtain ⟨-, hdur⟩ := atollaSinkState_accepted H (reachable_inv hk) e hl hb
  have hc : (msgIterMake (source.borrowBytes id) (source.borrowBytes id).length).cur =
      encode 0 id (source.frameDurationMs.toUInt8 :: UInt8.ofInt source.maxBufferedFrames :: []) ++ [] :=
    (List.append_nil _).symm
  refine ⟨_, msgIterBorrowBufferLength_encode H (by simp [msgIterHasMsg, msgIterMake, Source.borrowBytes]) hc, ?_⟩
  have hsrc : source.frameDurationMs.toNat = (spec.frameDurationMs % 2 ^ 32).toNat := by
    rw [hi.duration, UInt32.ofInt, UInt32.toNat_ofNat']
    omega
  rw [hi.duration, toNat_frameDuration] at hdur
  rw [← UInt32.toNat_inj, hdur, hsrc, toNat_bufferLength, hi.buffered]
  unfold IsInt at hd
  unfold AtollaSourceSpec.bufferedFrames Source.maxBufferedFramesDefault
  split <;> omega

end Agree

/-- With 20 ms the peers agree. -/
theorem parameters_agree_20 :
    ∃ source sink, exampleOpen 20 = .ok source ∧
      sinkCall exampleHost (freshSink exampleHost 1 true)
        (.state exampleClock (some ⟨(WireMsg.borrow 0 20 16).bytes, exampleEndpoint⟩)) = .ok sink ∧
      sink.frameDurationMs = source.frameDurationMs := by
  have hrun : (exampleOpen 20).toOption.map (·.sock) = some [(WireMsg.borrow 0 20 16).bytes] := by decide +kernel
  obtain ⟨source, e, hsock⟩ := exists_ok_of_map hrun
  obtain ⟨sink, hk⟩ := exists_firstSession exampleHost (d := 20) (n := 16) (by decide) (by decide) exampleClock
    exampleEndpoint
  have hsent : (WireMsg.borrow 0 20 16).bytes ∈ source.sock := by
    rw [hsock]
    exact List.mem_singleton_self _
  obtain ⟨n, -, hiff⟩ := parameters_agree_iff (by decide) (exampleOpen_reachable e) hsent rfl
    (reachable_fresh exampleHost (Nat.le_refl 1) (by decide) true) hk.call hk.session.state hk.own
  exact ⟨source, sink, e, hk.call, (hiff.mpr (by decide)).1⟩

/-- **300 ms do not fit the byte**: the sink goes by 44 ms. -/
theorem frame_duration_cut :
    ∃ source sink, SourceReachable exampleHost (exampleSpec 300) source ∧ source.state = .stateOpen ∧
      (WireMsg.borrow 0 44 16).bytes ∈ source.sock ∧ Reachable exampleHost (freshSink exampleHost 1 true) ∧
      sinkCall exampleHost (freshSink exampleHost 1 true)
        (.state exampleClock (some ⟨(WireMsg.borrow 0 44 16).bytes, exampleEndpoint⟩)) = .ok sink ∧
      sink.state = .stateLent ∧ udpEndpointEqual exampleEndpoint sink.borrowerEndpoint = true ∧
      source.frameDurationMs = 300 ∧ sink.frameDurationMs = 44 := by
  have hrun : (exampleOpen 300).toOption.map (fun s => (s.state, s.sock, s.frameDurationMs)) =
      some (.stateOpen, [(WireMsg.borrow 0 44 16).bytes], 300) := by decide +kernel
  obtain ⟨source, e, hrun⟩ := exists_ok_of_map hrun
  simp only [Prod.mk.injEq] at hrun
  obtain ⟨ho, hsock, hd⟩ := hrun
  obtain ⟨sink, hk⟩ := exists_firstSession exampleHost (d := 44) (n := 16) (by decide) (by decide) exampleClock
    exampleEndpoint
  refine ⟨source, sink, exampleOpen_reachable e, ho, ?_, reachable_fresh exampleHost (Nat.le_refl 1) (by decide) true,
    hk.call, hk.session.state, hk.own, hd, hk.session.duration⟩
  rw [hsock]
  exact List.mem_singleton_self _

end Atolla

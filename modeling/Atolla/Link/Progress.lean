import Atolla.Link.Lease
import Atolla.Sink.Timeout

/-!
# What stops a network

In a network without strangers, whatever is lost, late or doubled, every update and every put of a source returns, and
so does every call of the sink but one: an ENQUEUE of the borrower whose copies do not fit the ring keeps the sink in
its loop forever (`network_returns_iff`).
-/

set_option autoImplicit false

namespace Atolla

open Loop Past

/-- There is room for the frame that arrives, if it is to be stored. -/
def NetworkAction.HasRoom {ι : Type} (n : Network ι) : NetworkAction ι → Prop
  | .sink c => ∀ datagram ∈ c.datagram, ∀ (m : WireMsg) (r : Request), datagram.bytes = m.bytes → m.request = some r →
      n.sink.state ≠ .stateError → n.sink.HasRoom datagram.sender r
  | _ => True

section Returns

variable {H : Host} {s : Source} {sink : Sink}

/-- The timeout of a put returns behind its update. -/
theorem atollaSourcePutReadyTimeout_returns (hb : s.builder.msgBuf.Owned) (hd : s.frameDurationMs ≠ 0) {env : SourceEnv}
    {s' : Source} (e : sourceUpdate H env s = .ok s') (now later : UInt32) :
    ∃ timeout, atollaSourcePutReadyTimeout H env now later s = .ok (timeout, s') := by
  have hu := sourceUpdate_updated H hb e
  have hdiv : uintDiv (now - s'.lastFrameTime) s'.frameDurationMs =
      .ok ((now - s'.lastFrameTime) / s'.frameDurationMs) := if_neg (by rw [hu.duration]; exact hd)
  rw [atollaSourcePutReadyTimeout, e, ok_bind, hdiv]
  split
  · exact ⟨_, rfl⟩
  split
  · exact ⟨_, rfl⟩
  rw [ok_bind]
  split
  · exact ⟨_, rfl⟩
  · exact ⟨_, rfl⟩

/-- **A get** of any sink returns. -/
theorem sinkCall_get (h : SinkInv sink) (now : UInt32) (frame : Bytes) :
    ∃ sink', sinkCall H sink (.get now frame) = .ok sink' := by
  by_cases hs : sink.state = .stateLent
  · obtain ⟨sink', e, -⟩ := atollaSinkGet_lent h hs now frame
    exact ⟨sink', by rw [sinkCall, e]; rfl⟩
  · exact ⟨sink, by rw [sinkCall, atollaSinkGet_idle hs]; rfl⟩

/-- **An update** of any sink that finds nothing returns. -/
theorem sinkCall_none (h : SinkInv sink) (clock : SinkClock) :
    ∃ sink', sinkCall H sink (.state clock none) = .ok sink' := by
  show ∃ sink', atollaSinkState H clock sink none = .ok sink'
  unfold atollaSinkState
  split
  · exact sinkUpdate_none h clock
  · exact ⟨sink, rfl⟩

end Returns

section Network

variable {ι : Type} {H : Host} {peers : ι → Peer} {n : Network ι}

/-- **An update of the sink** with a datagram of a source returns if there is room, and otherwise never. -/
theorem deliver_returns (h : NetworkInv peers n) {clock : SinkClock} {datagram : Datagram}
    (hr : n.Reaches peers datagram) (hno : ¬Stranger peers datagram.sender) :
    (NetworkAction.HasRoom n (.sink (.state clock (some datagram))) →
      ∃ sink, sinkCall H n.sink (.state clock (some datagram)) = .ok sink) ∧
    (¬NetworkAction.HasRoom n (.sink (.state clock (some datagram))) →
      sinkCall H n.sink (.state clock (some datagram)) = .error .diverges) := by
  obtain ⟨bytes, sender⟩ := datagram
  obtain ⟨i, m, r, heq, hbytes, hreq, hfit, hasks⟩ := (h.reaches hr).resolve_left hno
  obtain rfl : bytes = m.bytes := congrArg Datagram.bytes hbytes
  constructor
  · intro hroom
    by_cases halive : n.sink.state = .stateError
    · exact ⟨n.sink, if_neg (not_not.mpr halive)⟩
    · exact atollaSinkState_returns h.sink halive hreq hfit (hroom _ rfl m r rfl hreq halive) clock
  · intro hroom
    have hfull : ∃ (m' : WireMsg) (r' : Request), m.bytes = m'.bytes ∧ m'.request = some r' ∧
        n.sink.state ≠ .stateError ∧ ¬n.sink.HasRoom sender r' := by
      by_contra hnone
      refine hroom ?_
      rintro d hd m' r' hb hreq' halive
      obtain rfl : Datagram.mk m.bytes sender = d := Option.some.inj hd
      by_contra hno
      exact hnone ⟨m', r', hb, hreq', halive, hno⟩
    obtain ⟨m', r', hb, hreq', halive, hno⟩ := hfull
    show atollaSinkState H clock n.sink (some ⟨m.bytes, sender⟩) = _
    rw [hb]
    exact atollaSinkState_full h.sink halive hreq' (hb ▸ hfit) hno clock

variable [DecidableEq ι]

/-- **Every action returns** unless a frame arrives for which there is no room; then the sink never comes back from it.
The frame durations are not zero, and no stranger sends. -/
theorem network_returns_iff (hr : (network H peers).Reached n)
    (hd : ∀ i, UInt32.ofInt (peers i).spec.frameDurationMs ≠ 0) {a : NetworkAction ι} (ha : a.Allowed peers n)
    (hno : ∀ c, a = .sink c → ∀ datagram ∈ c.datagram, ¬Stranger peers datagram.sender) :
    ((∃ n', networkStep H peers n a = .ok n') ↔ a.HasRoom n) ∧
      (¬a.HasRoom n → networkStep H peers n a = .error .diverges) := by
  have h := networkReached_inv hr
  -- what returns, and what does not
  suffices hcases : (a.HasRoom n → ∃ n', networkStep H peers n a = .ok n') ∧
      (¬a.HasRoom n → networkStep H peers n a = .error .diverges) by
    refine ⟨⟨fun hok => ?_, hcases.1⟩, hcases.2⟩
    by_contra hroom
    obtain ⟨n', e⟩ := hok
    rw [hcases.2 hroom] at e
    cases e
  cases a with
  | update i env =>
    obtain ⟨source, e, -⟩ := h.update ha.2
    exact ⟨fun _ => ⟨_, by rw [networkStep, e]; rfl⟩, fun hroom => absurd trivial hroom⟩
  | sleep i env now later =>
    obtain ⟨source, e, -⟩ := h.update ha.2.2
    have hne : (n.sources i).frameDurationMs ≠ 0 := (h.sources i).duration ▸ hd i
    obtain ⟨timeout, e'⟩ := atollaSourcePutReadyTimeout_returns (h.sources i).kept.builder hne e now later
    exact ⟨fun _ => ⟨_, by rw [networkStep, e']; rfl⟩, fun hroom => absurd trivial hroom⟩
  | put i env frame =>
    have hle : frame.length ≤ 65532 := ha.2.trans (by decide)
    obtain ⟨builder, e, -⟩ := sourcePutFrame_spec (peers i).host (h.sources i).kept.builder hle env
    exact ⟨fun _ => ⟨_, by rw [networkStep, e]; rfl⟩, fun hroom => absurd trivial hroom⟩
  | sink c =>
    suffices hcall : (NetworkAction.HasRoom n (.sink c) → ∃ sink, sinkCall H n.sink c = .ok sink) ∧
        (¬NetworkAction.HasRoom n (.sink c) → sinkCall H n.sink c = .error .diverges) by
      refine ⟨fun hroom => ?_, fun hroom => by rw [networkStep, hcall.2 hroom]; rfl⟩
      obtain ⟨sink, e⟩ := hcall.1 hroom
      exact ⟨_, by rw [networkStep, e]; rfl⟩
    cases c with
    | get now frame =>
      exact ⟨fun _ => sinkCall_get h.sink now frame, fun hroom => absurd (fun d hd => by cases hd) hroom⟩
    | state clock dg =>
      cases dg with
      | none => exact ⟨fun _ => sinkCall_none h.sink clock, fun hroom => absurd (fun d hd => by cases hd) hroom⟩
      | some datagram => exact deliver_returns h (ha datagram rfl) (hno _ rfl datagram rfl)

end Network

/-! ## A frame that arrives -/

/-- The first source has put a frame, which is on its way. -/
def exampleSent : Option (Network Bool) :=
  exampleNetwork.toOption.bind fun n => (exampleNetworkActions.take 6).foldlM (networkNext exampleHost examplePeer) n

def exampleFrameArrives : NetworkAction Bool := exampleArrival (.enqueue 1 0 [1, 2, 3] exampleFrame_le) exampleEndpoint

/-- The ring is empty, so that there is room for the frame, and the call of the sink returns. -/
theorem network_returns_frame : ∃ n n', exampleSent = some n ∧ n.sink.state = .stateLent ∧
    networkStep exampleHost examplePeer n exampleFrameArrives = .ok n' := by
  have hrun : (exampleSent.map fun n => ((decide (n.sink.state = .stateLent), n.sink.freeSlots),
      decide (exampleFrameArrives.Allowed examplePeer n))) = some ((true, 128), true) := by decide +kernel
  obtain ⟨n, e, hn⟩ := Option.map_eq_some_iff.mp hrun
  simp only [Prod.mk.injEq, decide_eq_true_eq] at hn
  obtain ⟨⟨hlent, hfree⟩, ha⟩ := hn
  obtain ⟨n₀, e₀, e₁⟩ := Option.bind_eq_some_iff.mp e
  have hr : (network exampleHost examplePeer).Reached n :=
    System.Reached.foldlM (fun _ _ _ => networkNext_step) (.init (exampleNetwork_init e₀)) e₁
  have hd : ∀ i, UInt32.ofInt (examplePeer i).spec.frameDurationMs ≠ 0 := by
    intro i
    cases i <;> decide
  have hno : ∀ c, exampleFrameArrives = .sink c → ∀ datagram ∈ c.datagram, ¬Stranger examplePeer datagram.sender := by
    rintro c hc datagram hdatagram hstranger
    cases hc
    cases hdatagram
    cases hstranger true
  have hroom : exampleFrameArrives.HasRoom n := by
    intro datagram _ m r _ _ _
    cases r with
    | borrow frameLength bufferLength => trivial
    | other => trivial
    | enqueue frameIdx frame =>
      intro _ _ _
      omega
  obtain ⟨n', e'⟩ := (network_returns_iff hr hd ha hno).1.mpr hroom
  exact ⟨n, n', e, hlent, e'⟩

end Atolla

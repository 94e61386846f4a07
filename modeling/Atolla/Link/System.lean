import Atolla.Link.Agreement
import Atolla.Sink.Placement

/-!
# A source and a sink

The two peers and the channel from the source to the sink: the datagrams the source sent are the script of the channel,
and the sink has received the first `taken` of them. What the source receives is left open. A put is two steps, since
the source sleeps in between and everything else goes on.

`LinkInv` says what the script is, BORROWs and then one ENQUEUE for each frame put, and where in it the sink is.
-/

set_option autoImplicit false

namespace Atolla

open Loop Pattern

/-! ## The system -/

/-- The state of the system. -/
structure Link where
  source : Source
  sink : Sink
  /-- How many of the datagrams of the source the sink has received. -/
  taken : Nat
  /-- History: the frames put successfully. -/
  puts : List Bytes
  /-- The timeout of a put that sleeps. -/
  sleeping : Option Int

/-- What one of the peers does next. -/
inductive LinkAction where
  /-- A call of the source that only updates it. -/
  | update (env : SourceEnv)
  /-- A put up to its sleep. -/
  | sleep (env : PutEnv)
  /-- The put behind it. -/
  | put (env : PutEnv) (frame : Bytes)
  /-- An update of the sink with the next datagram. -/
  | arrive (clock : SinkClock)
  /-- An update of the sink without any. -/
  | poll (clock : SinkClock)
  | get (now : UInt32) (buf : Bytes)

/-- The system after an action. -/
def linkStep (H : Host) (endpoint : UdpEndpoint) (l : Link) : LinkAction → Run Link
  | .update env => do
    let source ← sourceUpdate H env l.source
    return { l with source := source }
  | .sleep env => do
    let (timeout, source) ← sourcePutTimeout H env l.source
    return { l with source := source, sleeping := timeout }
  | .put env frame => do
    let (sent, source) ← sourcePutFrame H env l.source frame frame.length
    return { l with source := source, puts := if sent then l.puts ++ [frame] else l.puts, sleeping := none }
  | .arrive clock =>
    match l.source.sock[l.taken]? with
    | some bytes => do
      let sink ← atollaSinkState H clock l.sink (some ⟨bytes, endpoint⟩)
      return { l with sink := sink, taken := l.taken + 1 }
    | none => .ok l
  | .poll clock => do
    let sink ← atollaSinkState H clock l.sink none
    return { l with sink := sink }
  | .get now buf => do
    let (_, sink, _) ← atollaSinkGet now l.sink buf buf.length
    return { l with sink := sink }

/-- The next datagram is an ENQUEUE. -/
def Link.EnqueueNext (l : Link) : Prop :=
  (l.source.sock[l.taken]?.bind fun bytes => (msgIterType (msgIterMake bytes bytes.length)).toOption) = some .enqueue

instance (l : Link) : Decidable l.EnqueueNext := inferInstanceAs (Decidable (_ = _))

/-- A put sleeps before it sends, and nothing else is called meanwhile; frames fit a datagram; there is room for what
arrives; and the sink is not lost. -/
def LinkAction.Allowed (l l' : Link) : LinkAction → Prop
  | .update _ => l.sleeping = none
  | .sleep _ => l.sleeping = none
  | .put _ frame => l.sleeping ≠ none ∧ 3 ≤ frame.length ∧ frame.length ≤ 1016
  | .arrive _ => (l.EnqueueNext → 1 ≤ l.sink.freeSlots) ∧ (l.sink.state = .stateLent → l'.sink.state = .stateLent)
  | .poll _ => l.sink.state = .stateLent → l'.sink.state = .stateLent
  | .get .. => True

instance (l l' : Link) : ∀ a : LinkAction, Decidable (a.Allowed l l')
  | .update _ => inferInstanceAs (Decidable (_ = _))
  | .sleep _ => inferInstanceAs (Decidable (_ = _))
  | .put .. => inferInstanceAs (Decidable (_ ∧ _))
  | .arrive _ => inferInstanceAs (Decidable (_ ∧ _))
  | .poll _ => inferInstanceAs (Decidable (_ → _))
  | .get .. => inferInstanceAs (Decidable True)

/-- A source made from the spec and a sink with so many lights, and what they may come to. -/
inductive Linked (H : Host) (spec : AtollaSourceSpec) (lights : Nat) (endpoint : UdpEndpoint) : Link → Prop
  | make {env : MakeEnv} {port : Int} {source : Source} {sink : Sink} : atollaSourceMake H spec env = .ok source →
      atollaSinkMake H ⟨port, lights⟩ true = .ok sink → Linked H spec lights endpoint ⟨source, sink, 0, [], none⟩
  | step {l l' : Link} {a : LinkAction} : Linked H spec lights endpoint l → linkStep H endpoint l a = .ok l' →
      a.Allowed l l' → Linked H spec lights endpoint l'

/-- Actions one after the other, as far as they are allowed. -/
def linkRun (H : Host) (endpoint : UdpEndpoint) : Link → List LinkAction → Option Link
  | l, [] => some l
  | l, a :: actions =>
    match linkStep H endpoint l a with
    | .ok l' => if a.Allowed l l' then linkRun H endpoint l' actions else none
    | .error _ => none

theorem Linked.run {H : Host} {spec : AtollaSourceSpec} {lights : Nat} {endpoint : UdpEndpoint} :
    ∀ {actions : List LinkAction} {l l' : Link}, Linked H spec lights endpoint l →
      linkRun H endpoint l actions = some l' → Linked H spec lights endpoint l'
  | [], l, l', h, e => Option.some.inj e ▸ h
  | a :: actions, l, l', h, e => by
    rw [linkRun] at e
    split at e
    · rename_i l₁ e₁
      split at e
      · rename_i ha
        exact Linked.run (h.step e₁ ha) e
      · cases e
    · cases e

/-! ## The invariant -/

/-- The messages are the ENQUEUEs of the frames, in order. -/
structure EnqueuesOf (puts msgs : List Bytes) : Prop where
  length : msgs.length = puts.length
  frame : ∀ (k : Nat) (f : Bytes), puts[k]? = some f → (3 ≤ f.length ∧ f.length ≤ 1016) ∧
    ∃ id idx h, idx.toNat = k % 256 ∧ msgs[k]? = some (WireMsg.enqueue id idx f h).bytes

/-- What holds of the source and its script. -/
structure ScriptInv (spec : AtollaSourceSpec) (l : Link) (ids : List UInt16) (msgs : List Bytes) : Prop where
  builder : l.source.builder.msgBuf.Owned
  duration : l.source.frameDurationMs = UInt32.ofInt spec.frameDurationMs
  buffered : l.source.maxBufferedFrames = spec.bufferedFrames
  idx : l.source.nextFrameIdx = (l.puts.length % 256 : Nat)
  sock : l.source.sock = ids.map l.source.borrowBytes ++ msgs
  enqueues : EnqueuesOf l.puts msgs
  left : l.puts ≠ [] ∨ l.sleeping ≠ none → l.source.state ≠ .stateWaiting
  fresh : l.puts = [] → l.source.state = .stateOpen → l.source.lastFrameTime = Source.NULL_TIME

/-- What holds of a sink that has received the first `taken` datagrams of a script with `n` BORROWs for frames of `d`
milliseconds. -/
structure TakenInv (lights d : Nat) (endpoint : UdpEndpoint) (puts : List Bytes) (n taken : Nat) (s : Sink) : Prop where
  inv : SinkInv s
  lightsCount : s.lightsCount = lights
  duration : s.state = .stateLent → s.frameDurationMs.toNat = d
  shown : s.timeOrigin = NULL_TIME ∨ s.dequeued ≠ [] ∨ s.state = .stateOpen
  phase : (s.state = .stateOpen ∧ (taken = 0 ∨ n = 0) ∧ s.enqueued = []) ∨
    (s.state = .stateLent ∧ udpEndpointEqual endpoint s.borrowerEndpoint = true ∧ 0 < n ∧ 0 < taken ∧
      s.lastEnqueuedFrameIdx = lastIdxOf ((taken - n : Nat) - 1) ∧
      s.enqueued = (puts.take (taken - n)).map (cycle (3 * lights)))

/-- **What holds of every system.** -/
structure LinkInv (spec : AtollaSourceSpec) (lights : Nat) (endpoint : UdpEndpoint) (l : Link) : Prop where
  script : ∃ ids msgs, ScriptInv spec l ids msgs ∧ l.taken ≤ l.source.sock.length ∧
    TakenInv lights spec.frameDurationMs.toNat endpoint l.puts ids.length l.taken l.sink

/-! ## The script -/

section Script

variable {H : Host} {spec : AtollaSourceSpec} {l : Link} {ids : List UInt16} {msgs : List Bytes} {source : Source}

/-- The sink has no part in the script. -/
theorem ScriptInv.withSink (h : ScriptInv spec l ids msgs) (sink : Sink) (taken : Nat) :
    ScriptInv spec { l with sink := sink, taken := taken } ids msgs :=
  ⟨h.builder, h.duration, h.buffered, h.idx, h.sock, h.enqueues, h.left, h.fresh⟩

theorem EnqueuesOf.nil : EnqueuesOf [] [] := ⟨rfl, fun k f h => by cases h⟩

/-- One more frame. -/
theorem EnqueuesOf.concat {puts : List Bytes} (h : EnqueuesOf puts msgs) {frame : Bytes} (h3 : 3 ≤ frame.length)
    (hfit : frame.length ≤ 1016) (id : UInt16) {idx : UInt8} (hidx : idx.toNat = puts.length % 256) :
    EnqueuesOf (puts ++ [frame]) (msgs ++ [(WireMsg.enqueue id idx frame (by omega)).bytes]) := by
  refine ⟨by rw [List.length_append, List.length_append, h.length, List.length_singleton, List.length_singleton], ?_⟩
  intro k f hk
  rcases Nat.lt_trichotomy k puts.length with hlt | rfl | hgt
  · rw [List.getElem?_append_left hlt] at hk
    rw [List.getElem?_append_left (by rw [h.length]; exact hlt)]
    exact h.frame k f hk
  · rw [List.getElem?_concat_length, Option.some.injEq] at hk
    subst hk
    refine ⟨⟨h3, hfit⟩, id, idx, by omega, hidx, ?_⟩
    rw [← h.length, List.getElem?_concat_length]
  · rw [List.getElem?_eq_none (by rw [List.length_append, List.length_singleton]; omega)] at hk
    cases hk

/-- **Updates of the source** add BORROWs, while no frame was put. -/
theorem ScriptInv.updated (h : ScriptInv spec l ids msgs) (hu : Updated l.source source) {sleeping : Option Int}
    (hs : sleeping ≠ none → source.state ≠ .stateWaiting) :
    ∃ more, ScriptInv spec { l with source := source, sleeping := sleeping } (ids ++ more) msgs ∧
      (more ≠ [] → msgs = []) ∧ source.sock = l.source.sock ++ more.map l.source.borrowBytes := by
  obtain ⟨more, hsock, hmore⟩ := hu.sock
  have hmsgs : more ≠ [] → msgs = [] := by
    intro hne
    have hw : l.source.state = .stateWaiting := by
      by_contra hw
      exact hne (hmore hw)
    have hnil : l.puts = [] := by
      by_contra hp
      exact h.left (.inl hp) hw
    have hlen := h.enqueues.length
    rw [hnil, List.length_nil] at hlen
    exact List.length_eq_zero_iff.mp hlen
  refine ⟨more, ⟨hu.builder, hu.duration.trans h.duration, hu.buffered.trans h.buffered, hu.idx.trans h.idx, ?_,
    h.enqueues, ?_, fun hp ho => ?_⟩, hmsgs, hsock⟩
  · show source.sock = (ids ++ more).map source.borrowBytes ++ msgs
    rw [hu.borrowBytes, hsock, h.sock, List.map_append, List.append_assoc, List.append_assoc]
    by_cases hne : more = []
    · rw [hne, List.map_nil, List.append_nil, List.nil_append]
    · rw [hmsgs hne, List.append_nil, List.nil_append]
  · rintro (hp | hsl)
    · exact hu.left (h.left (.inl hp))
    · exact hs hsl
  · by_cases hw : l.source.state = .stateWaiting
    · exact hu.opened hw ho
    · exact (hu.frameTime hw).trans (h.fresh hp (hu.open_of_open hw ho))

/-- **A put** adds its ENQUEUE, when it is sent. -/
theorem ScriptInv.put (h : ScriptInv spec l ids msgs) (hs : l.sleeping ≠ none) {frame : Bytes}
    (h3 : 3 ≤ frame.length) (hfit : frame.length ≤ 1016) (env : PutEnv) :
    ∃ source builder more, sourcePutFrame H env l.source frame frame.length = .ok (env.sent, source) ∧
      (source = if env.sent then l.source.advanced builder frame env.after else { l.source with builder := builder }) ∧
      ScriptInv spec { l with
        source := source
        puts := if env.sent then l.puts ++ [frame] else l.puts
        sleeping := none } ids (msgs ++ more) ∧
      source.sock = l.source.sock ++ more ∧ more.length = if env.sent then 1 else 0 := by
  obtain ⟨builder, e, hb⟩ := sourcePutFrame_spec H h.builder (show frame.length ≤ 65532 by omega) env
  have hleft := h.left (.inr hs)
  cases hsent : env.sent with
  | false =>
    rw [hsent] at e
    refine ⟨_, builder, [], e, rfl, ⟨hb, h.duration, h.buffered, h.idx, ?_, ?_, fun _ => hleft, h.fresh⟩,
      (List.append_nil _).symm, rfl⟩
    · rw [List.append_nil]
      exact h.sock
    · rw [List.append_nil]
      exact h.enqueues
  | true =>
    rw [hsent] at e
    have hidx : (UInt8.ofInt l.source.nextFrameIdx).toNat = l.puts.length % 256 := by
      rw [toNat_bufferLength, h.idx]
      omega
    refine ⟨_, builder, [l.source.enqueueBytes frame], e, rfl, ⟨hb, h.duration, h.buffered, ?_, ?_, ?_, fun _ => hleft,
      fun hnil => absurd hnil (by simp)⟩, rfl, rfl⟩
    · show (l.source.nextFrameIdx + 1).tmod 256 = ((l.puts ++ [frame]).length % 256 : Nat)
      rw [h.idx, List.length_append, List.length_singleton, Int.tmod_eq_emod_of_nonneg (by omega)]
      omega
    · show l.source.sock ++ [l.source.enqueueBytes frame] = ids.map l.source.borrowBytes ++ (msgs ++ _)
      rw [h.sock, List.append_assoc]
    · exact h.enqueues.concat h3 hfit l.source.builder.nextMsgId hidx

/-- **The datagram at a position of the script**: a BORROW, the ENQUEUE of a frame, or none. -/
theorem ScriptInv.datagram (h : ScriptInv spec l ids msgs) (i : Nat) :
    (i < ids.length ∧ ∃ id, l.source.sock[i]? = some (l.source.borrowBytes id)) ∨
      (ids.length ≤ i ∧ ∃ f id idx hf, l.puts[i - ids.length]? = some f ∧ (3 ≤ f.length ∧ f.length ≤ 1016) ∧
        idx.toNat = (i - ids.length) % 256 ∧ l.source.sock[i]? = some (WireMsg.enqueue id idx f hf).bytes) ∨
      l.source.sock[i]? = none := by
  have hsplit := h.sock
  rcases Nat.lt_or_ge i ids.length with hlt | hge
  · refine .inl ⟨hlt, ids[i], ?_⟩
    rw [hsplit, List.getElem?_append_left (by rw [List.length_map]; exact hlt), List.getElem?_map,
      List.getElem?_eq_getElem hlt]
    rfl
  · have hsock : l.source.sock[i]? = msgs[i - ids.length]? := by
      rw [hsplit, List.getElem?_append_right (by rw [List.length_map]; exact hge), List.length_map]
    cases hf : l.puts[i - ids.length]? with
    | some f =>
      obtain ⟨hlen, id, idx, hfl, hidx, hm⟩ := h.enqueues.frame _ f hf
      exact .inr (.inl ⟨hge, f, id, idx, hfl, rfl, hlen, hidx, hsock.trans hm⟩)
    | none =>
      rw [List.getElem?_eq_none_iff, ← h.enqueues.length] at hf
      exact .inr (.inr (hsock.trans (List.getElem?_eq_none hf)))

end Script

/-! ## The sink -/

section Taken

variable {H : Host} {lights d n taken : Nat} {endpoint : UdpEndpoint} {puts : List Bytes} {s s' : Sink}

/-- What leaves the session alone. -/
theorem TakenInv.same (h : TakenInv lights d endpoint puts n taken s) (hi : SinkInv s') (hs : SameSession s s') :
    TakenInv lights d endpoint puts n taken s' := by
  refine ⟨hi, hs.lights.trans h.lightsCount, ?_, ?_, ?_⟩
  · rw [hs.state, hs.duration]
    exact h.duration
  · rw [hs.origin, hs.dequeued, hs.state]
    exact h.shown
  · rw [hs.state, hs.enqueued, hs.borrower, hs.idx]
    exact h.phase

/-- More BORROWs in a script without ENQUEUEs, and more frames. -/
theorem TakenInv.extend (h : TakenInv lights d endpoint puts n taken s) {m : Nat} {more : List Bytes}
    (hm : m ≠ 0 → taken ≤ n) (hmore : taken - n ≤ puts.length) :
    TakenInv lights d endpoint (puts ++ more) (n + m) taken s := by
  refine ⟨h.inv, h.lightsCount, h.duration, h.shown, ?_⟩
  by_cases hm0 : m = 0
  · rw [hm0, Nat.add_zero, List.take_append_of_le_length hmore]
    exact h.phase
  · have hle := hm hm0
    have hj : taken - n = 0 := by omega
    have hj' : taken - (n + m) = 0 := by omega
    rcases h.phase with ⟨ho, htn, he⟩ | ⟨hl, hb, hn, ht, hidx, he⟩
    · exact .inl ⟨ho, .inl (by omega), he⟩
    · rw [hj] at hidx he
      refine .inr ⟨hl, hb, by omega, ht, ?_, ?_⟩
      · rw [hj']; exact hidx
      · rw [hj']; exact he

/-- **A BORROW** of the source arrives: a new session, still without frames. -/
theorem TakenInv.borrow (h : TakenInv lights d endpoint puts n taken s) (hlt : taken < n) {fl bl : UInt8}
    (hd : fl.toNat = d) (h10 : 10 ≤ d) (hb : bl.toNat ≤ 128) (id : UInt16) (clock : SinkClock) :
    ∃ s', atollaSinkState H clock s (some ⟨(WireMsg.borrow id fl bl).bytes, endpoint⟩) = .ok s' ∧
      TakenInv lights d endpoint puts n (taken + 1) s' := by
  have hj : taken - n = 0 := by omega
  have hj' : taken + 1 - n = 0 := by omega
  have hfree : s.state = .stateOpen ∨ (s.state = .stateLent ∧ udpEndpointEqual endpoint s.borrowerEndpoint = true) :=
    h.phase.imp (fun h => h.1) fun h => ⟨h.1, h.2.1⟩
  have hl : s.Lends fl.toNat bl.toNat endpoint :=
    ⟨hfree, hb, by simp only [frameLengthMsMin]; omega⟩
  have henq : s.enqueued = [] := by
    rcases h.phase with ⟨-, -, he⟩ | ⟨-, -, -, -, -, he⟩
    · exact he
    · rw [he, hj]
      rfl
  obtain ⟨s', e, hi, hsame⟩ := atollaSinkState_borrow H h.inv hl id clock
  have hdur : s'.frameDurationMs.toNat = d := by
    rw [hsame.duration, ← hd]
    exact toNat_borrowDuration fl
  refine ⟨s', e, hi, hsame.lights.trans h.lightsCount, fun _ => hdur, .inl hsame.origin, .inr ⟨hsame.state, ?_,
    by omega, by omega,
    ?_, ?_⟩⟩
  · rw [hsame.borrower]
    exact udpEndpointEqual_refl _
  · rw [hsame.idx, hj']
    rfl
  · rw [hsame.enqueued, hj']
    exact henq

/-- A sink that is not lent refuses a frame. -/
theorem atollaSinkState_refused (h : SinkInv s) (ho : s.state = .stateOpen) {frame : Bytes}
    (hfit : frame.length ≤ 1016) (id : UInt16) (idx : UInt8) (clock : SinkClock) (sender : UdpEndpoint) :
    ∃ s', atollaSinkState H clock s (some ⟨(WireMsg.enqueue id idx frame (by omega)).bytes, sender⟩) = .ok s' ∧
      SinkInv s' ∧ SameSession s s' := by
  set m := WireMsg.enqueue id idx frame (by omega) with hm
  have hlen : m.bytes.length ≤ sinkRecvBufLen := by
    rw [hm]
    simp only [WireMsg.length_bytes, WireMsg.enqueue, length_enqueuePayload, sinkRecvBufLen]
    omega
  rw [atollaSinkState_one H (by simp [ho]) (WireMsg.request_enqueue id idx frame (by omega)) hlen]
  obtain ⟨s₁, e₁, hi₁, hs₁⟩ := sinkSendFailTo_same H (h.withRecvBuf (m.bytes ++ s.recvBuf.drop m.bytes.length)) m.id
    .notBorrowed sender
  obtain ⟨s', e', hi', hs'⟩ := sinkSend_same H (hi₁.withRecvTime clock.received) clock
  refine ⟨s', ?_, hi', ?_⟩
  · show sinkHandleEnqueue H _ m.id idx.toNat (MemBlock.ofBytes frame) sender >>= _ = _
    rw [sinkHandleEnqueue, sinkHandleEnqueueFor, if_neg (by simp [ho]), if_pos ho, e₁, ok_bind, e']
  · have hbuf : SameSession s { s with recvBuf := m.bytes ++ s.recvBuf.drop m.bytes.length } := ⟨rfl⟩
    exact (hbuf.trans hs₁).trans (SameSession.trans ⟨rfl⟩ hs')

/-- **An ENQUEUE** of the source arrives: its frame is stored once; a sink that was never lent refuses it. -/
theorem TakenInv.enqueue (h : TakenInv lights d endpoint puts n taken s) (hle : n ≤ taken) {f : Bytes}
    (hf : puts[taken - n]? = some f) (h3 : 3 ≤ f.length) (hfit : f.length ≤ 1016) {idx : UInt8}
    (hidx : idx.toNat = (taken - n) % 256) (hroom : 1 ≤ s.freeSlots) (id : UInt16) (clock : SinkClock) :
    ∃ s', atollaSinkState H clock s (some ⟨(WireMsg.enqueue id idx f (by omega)).bytes, endpoint⟩) = .ok s' ∧
      TakenInv lights d endpoint puts n (taken + 1) s' ∧
      (s.state = .stateLent → ∃ s₁, Stored s s₁ [cycle (3 * lights) f] idx.toNat ∧ SameSession s₁ s') := by
  rw [h.inv.freeSlots_eq] at hroom
  have hj : taken + 1 - n = taken - n + 1 := by omega
  rcases h.phase with ⟨ho, htn, he⟩ | ⟨hl, hb, hn, ht, hlast, he⟩
  · obtain ⟨s', e, hi, hsame⟩ := atollaSinkState_refused h.inv ho hfit id idx clock endpoint
    refine ⟨s', e, ⟨hi, hsame.lights.trans h.lightsCount, fun hl => absurd (hl.symm.trans (hsame.state.trans ho))
      (by decide), .inr (.inr (hsame.state.trans ho)),
      .inl ⟨hsame.state.trans ho, .inr (by omega), hsame.enqueued.trans he⟩⟩, fun hl => ?_⟩
    rw [ho] at hl
    cases hl
  · have hdist : s.distance idx.toNat = (1 : Nat) := by
      rw [Sink.distance, hlast, hidx, distance_ahead (by omega) (by omega) (by omega)]
      omega
    obtain ⟨s₁, s', e, hi, hst, hsame⟩ := atollaSinkState_enqueue H h.inv hl hb f h3 hfit idx hdist (by decide)
      (by omega) id clock
    have hpat : s.patterned f = cycle (3 * lights) f := by
      rw [Sink.patterned, Sink.frameLen, h.lightsCount, colorChannelCount, Nat.mul_comm]
    rw [List.replicate_one, hpat] at hst
    refine ⟨s', e, ⟨hi, ?_, fun _ => ?_, ?_, .inr ⟨?_, ?_, hn, by omega, ?_, ?_⟩⟩, fun _ => ⟨s₁, hst, hsame⟩⟩
    · rw [hsame.lights, hst.same]
      exact h.lightsCount
    · rw [hsame.duration, hst.same]
      exact h.duration hl
    · rw [hsame.origin, hsame.dequeued, hsame.state, hst.same]
      exact h.shown
    · rw [hsame.state, hst.same]
      exact hl
    · rw [hsame.borrower, hst.same]
      exact hb
    · have hlast' : s₁.lastEnqueuedFrameIdx = idx.toNat := by rw [hst.same]
      rw [hsame.idx, hlast', hidx, hj, lastIdxOf, if_neg (by omega)]
      omega
    · have henq : s₁.enqueued = s.enqueued ++ [cycle (3 * lights) f] := by rw [hst.same]
      rw [hsame.enqueued, henq, he, hj, List.take_add_one, hf, List.map_append]
      rfl

/-- **A get** shows the last frame dequeued, or nothing. -/
theorem TakenInv.get (h : TakenInv lights d endpoint puts n taken s) (now : UInt32) (buf : Bytes) :
    ∃ result s' out, atollaSinkGet now s buf buf.length = .ok (result, s', out) ∧
      TakenInv lights d endpoint puts n taken s' ∧
      if result then ∃ g, s'.dequeued.getLast? = some g ∧ out = cycle buf.length g else out = buf := by
  rcases h.phase with ⟨ho, hrest⟩ | ⟨hl, hrest⟩
  · exact ⟨false, s, buf, atollaSinkGet_idle (by simp [ho]) now buf buf.length, h, rfl⟩
  · obtain ⟨s', e, hs⟩ := atollaSinkGet_lent h.inv hl now buf
    have hdeq : s'.dequeued = s.dequeued ++ s.pending.take (s.due now) := by rw [hs.same]
    have horigin : s'.timeOrigin = s.originAfter now := by rw [hs.same]
    -- once there is an origin, a frame was dequeued
    have hshown : s.shows = true → s'.dequeued ≠ [] := by
      intro hsh hnil
      rw [hdeq, List.append_eq_nil_iff, List.take_eq_nil_iff] at hnil
      rcases h.shown with hnull | hne | hopen
      · have hpend : s.pending ≠ [] := by
          intro hp
          rw [Sink.shows, hnull, hp] at hsh
          cases hsh
        have hpos := List.length_pos_iff.mpr hpend
        rcases hnil.2 with h0 | h0
        · rw [Sink.due, if_pos hnull] at h0
          omega
        · exact hpend h0
      · exact hne hnil.1
      · rw [hopen] at hl
        cases hl
    refine ⟨_, s', _, e, ⟨hs.inv, by rw [hs.same]; exact h.lightsCount, by rw [hs.same]; exact h.duration, ?_,
      .inr ⟨by rw [hs.same]; exact hl, ?_⟩⟩, ?_⟩
    · by_cases hsh : s.shows = true
      · exact .inr (.inl (hshown hsh))
      · rw [Sink.shows, Bool.not_eq_true, Bool.not_eq_false', Bool.and_eq_true, decide_eq_true_eq,
          List.isEmpty_iff] at hsh
        left
        rw [horigin, Sink.originAfter, if_pos hsh.1, if_pos hsh.2]
    · rw [hs.same]
      exact hrest
    · split
      · rename_i hsh
        obtain ⟨g, hg⟩ : ∃ g, s'.dequeued.getLast? = some g :=
          ⟨_, List.getLast?_eq_some_getLast (hshown hsh)⟩
        refine ⟨g, hg, ?_⟩
        rw [← hs.inv.shown g hg, hs.current]
        rfl
      · rfl

end Taken

/-! ## Runs -/

section Linked

variable {H : Host} {spec : AtollaSourceSpec} {lights : Nat} {endpoint : UdpEndpoint} {l l' : Link}

/-- The range of parameters that both peers can work with. -/
structure AtollaSourceSpec.Usable (spec : AtollaSourceSpec) : Prop where
  duration : 10 ≤ spec.frameDurationMs ∧ spec.frameDurationMs ≤ 255
  buffered : 1 ≤ spec.bufferedFrames ∧ spec.bufferedFrames ≤ 128

/-- The bytes of a BORROW of a source with such parameters. -/
theorem AtollaSourceSpec.Usable.bytes (hu : spec.Usable) {source : Source}
    (hd : source.frameDurationMs = UInt32.ofInt spec.frameDurationMs)
    (hb : source.maxBufferedFrames = spec.bufferedFrames) :
    source.frameDurationMs.toUInt8.toNat = spec.frameDurationMs.toNat ∧
      (UInt8.ofInt source.maxBufferedFrames).toNat = spec.bufferedFrames.toNat := by
  obtain ⟨⟨h10, h255⟩, h1, h128⟩ := hu
  rw [hd, hb, toNat_frameDuration, toNat_bufferLength]
  omega

/-- **The next datagram** is handled when there is room for an ENQUEUE. -/
theorem LinkInv.arrive (h : LinkInv spec lights endpoint l) (hu : spec.Usable)
    (hroom : l.EnqueueNext → 1 ≤ l.sink.freeSlots) (clock : SinkClock) :
    ∃ l', linkStep H endpoint l (.arrive clock) = .ok l' ∧ LinkInv spec lights endpoint l' := by
  obtain ⟨ids, msgs, hs, htaken, ht⟩ := h.script
  have hbytes := hu.bytes hs.duration hs.buffered
  have hrange := hu.duration
  have hrange' := hu.buffered
  rcases hs.datagram l.taken with ⟨hlt, id, hi⟩ | ⟨hge, f, id, idx, hf, hput, ⟨h3, hfit⟩, hidx, hi⟩ | hi
  · obtain ⟨sink, e, ht'⟩ := ht.borrow (H := H) hlt hbytes.1 (by omega) (hbytes.2.trans_le (by omega)) id clock
    refine ⟨{ l with sink := sink, taken := l.taken + 1 }, ?_,
      ⟨ids, msgs, hs.withSink sink _, (List.getElem?_eq_some_iff.mp hi).1, ht'⟩⟩
    rw [linkStep, hi]
    show atollaSinkState H clock l.sink (some ⟨l.source.borrowBytes id, endpoint⟩) >>= _ = _
    rw [Source.borrowBytes, e]
    rfl
  · obtain ⟨sink, e, ht', -⟩ := ht.enqueue (H := H) hge hput h3 hfit hidx
      (hroom (by rw [Link.EnqueueNext, hi, Option.bind_some, enqueue_type hf]; rfl)) id clock
    refine ⟨{ l with sink := sink, taken := l.taken + 1 }, ?_,
      ⟨ids, msgs, hs.withSink sink _, (List.getElem?_eq_some_iff.mp hi).1, ht'⟩⟩
    rw [linkStep, hi]
    show atollaSinkState H clock l.sink (some ⟨(WireMsg.enqueue id idx f hf).bytes, endpoint⟩) >>= _ = _
    rw [e]
    rfl
  · refine ⟨l, ?_, h⟩
    rw [linkStep, hi]

/-- **An update of the source** adds at most BORROWs in front of the frames. -/
theorem LinkInv.updated (h : LinkInv spec lights endpoint l) {source : Source} (hup : Updated l.source source)
    {sleeping : Option Int} (hsl : sleeping ≠ none → source.state ≠ .stateWaiting) :
    LinkInv spec lights endpoint { l with source := source, sleeping := sleeping } := by
  obtain ⟨ids, msgs, hs, htaken, ht⟩ := h.script
  have hlen : l.source.sock.length = ids.length + l.puts.length := by
    rw [hs.sock, List.length_append, List.length_map, hs.enqueues.length]
  obtain ⟨more, hs', hmsgs, hsock⟩ := hs.updated hup hsl
  refine ⟨ids ++ more, msgs, hs', ?_, ?_⟩
  · show l.taken ≤ source.sock.length
    rw [hsock, List.length_append]
    omega
  · rw [List.length_append, ← List.append_nil l.puts]
    refine ht.extend (fun hne => ?_) (by omega)
    have hnil := hmsgs (List.ne_nil_of_length_pos (Nat.pos_of_ne_zero hne))
    have hputs := hs.enqueues.length
    rw [hnil, List.length_nil] at hputs
    omega

/-- **A put** adds its frame to the script, if it is sent. -/
theorem LinkInv.put (h : LinkInv spec lights endpoint l) (hsl : l.sleeping ≠ none) {frame : Bytes}
    (h3 : 3 ≤ frame.length) (hfit : frame.length ≤ 1016) {env : PutEnv}
    (e : linkStep H endpoint l (.put env frame) = .ok l') : LinkInv spec lights endpoint l' := by
  obtain ⟨ids, msgs, hs, htaken, ht⟩ := h.script
  have hlen : l.source.sock.length = ids.length + l.puts.length := by
    rw [hs.sock, List.length_append, List.length_map, hs.enqueues.length]
  obtain ⟨source, builder, more, e₁, -, hs', hsock, -⟩ := hs.put (H := H) hsl h3 hfit env
  obtain ⟨r, e₂, e₃⟩ := bind_eq_ok.mp e
  rw [e₁, Except.ok.injEq] at e₂
  subst e₂
  cases e₃
  refine ⟨ids, msgs ++ more, hs', ?_, ?_⟩
  · show l.taken ≤ source.sock.length
    rw [hsock, List.length_append]
    omega
  · show TakenInv lights _ endpoint (if env.sent then l.puts ++ [frame] else l.puts) ids.length l.taken l.sink
    have hmore : ∀ fs, TakenInv lights _ endpoint (l.puts ++ fs) ids.length l.taken l.sink :=
      fun fs => ht.extend (m := 0) (fun h0 => absurd rfl h0) (by omega)
    cases env.sent with
    | true => exact hmore [frame]
    | false =>
      have hnil := hmore []
      rw [List.append_nil] at hnil
      exact hnil

/-- **One step.** -/
theorem linkStep_inv (h : LinkInv spec lights endpoint l) (hu : spec.Usable) {a : LinkAction}
    (e : linkStep H endpoint l a = .ok l') (ha : a.Allowed l l') : LinkInv spec lights endpoint l' := by
  obtain ⟨ids, msgs, hs, htaken, ht⟩ := h.script
  cases a with
  | update env =>
    obtain ⟨source, e₁, e₂⟩ := bind_eq_ok.mp e
    cases e₂
    have hnone : l.sleeping = none := ha
    exact h.updated (sourceUpdate_updated H hs.builder e₁) fun hne => absurd hnone hne
  | sleep env =>
    obtain ⟨⟨timeout, source⟩, e₁, e₂⟩ := bind_eq_ok.mp e
    cases e₂
    refine h.updated (sourcePutTimeout_updated H hs.builder e₁) fun hne => ?_
    obtain ⟨τ, rfl⟩ := Option.ne_none_iff_exists'.mp hne
    exact sourcePutTimeout_left H hs.builder e₁
  | put env frame =>
    obtain ⟨hsl, h3, hfit⟩ := ha
    exact h.put hsl h3 hfit e
  | arrive clock =>
    obtain ⟨l₁, e₁, h₁⟩ := h.arrive (H := H) hu ha.1 clock
    rw [e₁, Except.ok.injEq] at e
    exact e ▸ h₁
  | poll clock =>
    obtain ⟨sink, e₁, e₂⟩ := bind_eq_ok.mp e
    cases e₂
    obtain ⟨hi, hsame⟩ := atollaSinkState_silent ht.inv e₁ ha
    exact ⟨ids, msgs, hs.withSink sink _, htaken, ht.same hi hsame⟩
  | get now buf =>
    obtain ⟨result, sink, out, e₁, ht', -⟩ := ht.get now buf
    obtain ⟨r, e₂, e₃⟩ := bind_eq_ok.mp e
    rw [e₁, Except.ok.injEq] at e₂
    subst e₂
    cases e₃
    exact ⟨ids, msgs, hs.withSink sink _, htaken, ht'⟩

/-- **Every system** satisfies the invariant. -/
theorem Linked.inv (h : Linked H spec lights endpoint l) (hu : spec.Usable) : LinkInv spec lights endpoint l := by
  induction h with
  | @make env port source sink e es =>
    obtain ⟨s₁, hup, hwait, hsock, hidx, hd, hb⟩ := atollaSourceMake_updated e
    obtain ⟨ids, hsock', -⟩ := hup.sock
    obtain ⟨n, h1, hn, hlights, rfl⟩ := atollaSinkMake_fresh es
    obtain rfl : n = lights := Int.ofNat.inj hlights
    rw [hsock, List.nil_append, ← hup.borrowBytes] at hsock'
    refine ⟨ids, [], ⟨hup.builder, hup.duration.trans hd, hup.buffered.trans hb, hup.idx.trans hidx, ?_,
      EnqueuesOf.nil, ?_, fun _ ho => hup.opened hwait ho⟩, Nat.zero_le _, ⟨freshSink_inv H h1 hn true, rfl,
      fun hl => absurd hl (by intro h; cases h), .inr (.inr rfl), .inl ⟨rfl, .inl rfl, rfl⟩⟩⟩
    · rw [List.append_nil]
      exact hsock'
    · rintro (hne | hne)
      · exact absurd rfl hne
      · exact absurd rfl hne
  | step _ e ha ih => exact linkStep_inv ih hu e ha

end Linked

end Atolla

import Atolla.Lib.Observe
import Atolla.Sink.Leftover

/-!
# Sinks that a session does not tell apart

Two lent sinks with the same parameters and the same pending frames are twins (`Twin`), whatever their histories. Calls
that give both the same answers keep them twins. An ENQUEUE without a whole header of its frame is read on into
`recv_buf`, so what an earlier datagram left there matters as well: `SameBuf` is what has to be the same of it, all but
a byte that no handler reads of an ENQUEUE. The borrower cannot tell such twins apart (`twin_observe`).
-/

set_option autoImplicit false

namespace Atolla

open Loop Observe

/-! ## What the borrower and the application see -/

/-- The outcome of a call. -/
inductive SinkOutput where
  /-- The state returned, and the frames stored. -/
  | state (state : AtollaSinkState) (stored : List Bytes)
  /-- The result and the caller's buffer. -/
  | get (result : Bool) (frame : Bytes)
  deriving DecidableEq

/-- A call, with its outcome. -/
def sinkStep (H : Host) (s : Sink) : SinkCall → Run (Sink × SinkOutput)
  | .state clock datagram => do
    let s' ← atollaSinkState H clock s datagram
    return (s', .state s'.state (s'.enqueued.drop s.enqueued.length))
  | .get now frame => do
    let (result, s', frame) ← atollaSinkGet now s frame frame.length
    return (s', .get result frame)

/-- A datagram of ENQUEUE messages from the borrower with at least so many bytes of payload each, or a get. -/
inductive SessionCall (least : Nat) (borrower : UdpEndpoint) : SinkCall → Prop
  | enqueue {clock : SinkClock} {ms : List WireMsg} : ms ≠ [] → (∀ m ∈ ms, m.typeByte = 2 ∧ least ≤ m.payload.length) →
      SessionCall least borrower (.state clock (some ⟨wire ms, borrower⟩))
  | get {now : UInt32} {frame : Bytes} : SessionCall least borrower (.get now frame)

/-! ## Twins -/

/-- Two sinks that the session does not tell apart; since `a` and `b` they stored the same frames. The frame a sink
shows before the first one of the session may differ. -/
structure Twin (a b : List Bytes) (s t : Sink) : Prop where
  inv : SinkInv s
  inv' : SinkInv t
  state : t.state = s.state
  borrower : t.borrowerEndpoint = s.borrowerEndpoint
  lights : t.lightsCount = s.lightsCount
  duration : t.frameDurationMs = s.frameDurationMs
  origin : t.timeOrigin = s.timeOrigin
  idx : t.lastEnqueuedFrameIdx = s.lastEnqueuedFrameIdx
  pending : t.pending = s.pending
  current : s.timeOrigin ≠ NULL_TIME → t.currentFrame.data = s.currentFrame.data
  stored : ∃ gs, s.enqueued = a ++ gs ∧ t.enqueued = b ++ gs

section Twin

variable (H : Host) {a b : List Bytes} {s t s' t' : Sink}

theorem Twin.frameLen (h : Twin a b s t) : t.frameLen = s.frameLen := by
  rw [Sink.frameLen, Sink.frameLen, h.lights]

/-- What leaves both sessions alone keeps twins twins. -/
theorem Twin.same (h : Twin a b s t) (hs : SameSession s s') (ht : SameSession t t') (hi : SinkInv s')
    (hi' : SinkInv t') : Twin a b s' t' where
  inv := hi
  inv' := hi'
  state := by rw [hs.state, ht.state, h.state]
  borrower := by rw [hs.borrower, ht.borrower, h.borrower]
  lights := by rw [hs.lights, ht.lights, h.lights]
  duration := by rw [hs.duration, ht.duration, h.duration]
  origin := by rw [hs.origin, ht.origin, h.origin]
  idx := by rw [hs.idx, ht.idx, h.idx]
  pending := by rw [hs.pending, ht.pending, h.pending]
  current ho := by
    rw [hs.origin] at ho
    rw [hs.current, ht.current, h.current ho]
  stored := by rw [hs.enqueued, ht.enqueued]; exact h.stored

theorem Twin.dropBorrow (h : Twin a b s t) : Twin a b (sinkDropBorrow s) (sinkDropBorrow t) :=
  ⟨h.inv.dropBorrow, h.inv'.dropBorrow, rfl, h.borrower, h.lights, h.duration, h.origin, h.idx, h.pending, h.current,
    h.stored⟩

theorem Twin.shows (h : Twin a b s t) : t.shows = s.shows := by
  rw [Sink.shows, Sink.shows, h.origin, h.pending]

theorem Twin.due (h : Twin a b s t) (now : UInt32) : t.due now = s.due now := by
  rw [Sink.due, Sink.due, Sink.elapsed, Sink.elapsed, h.pending, h.origin, h.duration]

/-- Once there is something to show, twins show the same. -/
theorem Twin.picture (h : Twin a b s t) (hshows : s.shows = true) (now : UInt32) : t.picture now = s.picture now := by
  rw [Sink.picture, Sink.picture, h.due, h.pending]
  by_cases ho : s.timeOrigin = NULL_TIME
  · -- the first frame of the session
    have hne : s.pending ≠ [] := by
      intro hnil
      rw [Sink.shows, ho, hnil] at hshows
      cases hshows
    obtain ⟨g, rest, hp⟩ := List.exists_cons_of_ne_nil hne
    have hdue : s.due now = 1 := by rw [Sink.due, if_pos ho, hp, List.length_cons]; omega
    rw [hdue, hp]
    rfl
  · rw [h.current ho]

/-- The messages of a datagram, each with the memory from its payload on. -/
def reads : List WireMsg → Bytes → List (WireMsg × Bytes)
  | [], _ => []
  | m :: ms, rest => (m, m.payload ++ (wire ms ++ rest)) :: reads ms rest

/-- An ENQUEUE of any length: its index and its frame are read behind the header, in the message or not. -/
def sinkHandleRead (sender : UdpEndpoint) (sink : Sink) (p : WireMsg × Bytes) : Run Sink :=
  match p.2 with
  | [] => .error .outOfBounds
  | idx :: tail =>
    sinkHandleEnqueue H sink p.1.id idx.toNat
      ⟨tail.drop 2, frameSize p.1.payload.length, frameSize p.1.payload.length⟩ sender

theorem sinkHandleMsg_read {m : WireMsg} (hm : m.typeByte = 2) {iter : MsgIter} (hmsg : msgIterHasMsg iter = true)
    {rest : Bytes} (hc : iter.cur = m.bytes ++ rest) (now : UInt32) (sender : UdpEndpoint) (s : Sink) :
    sinkHandleMsg H now sender s iter = sinkHandleRead H sender s (m, m.payload ++ rest) := by
  have hcur : iter.cur = 2 :: memUint16ByteLow m.id.toNat :: memUint16ByteHigh m.id.toNat ::
      memUint16ByteLow m.payload.length :: memUint16ByteHigh m.payload.length :: (m.payload ++ rest) := by
    rw [hc, WireMsg.bytes, hm]
    rfl
  obtain ⟨hshort, hread⟩ := sinkHandleMsg_enqueue H hmsg (s := s) now sender hcur
  unfold sinkHandleRead
  cases hp : m.payload ++ rest with
  | nil =>
    apply hshort
    rw [hcur, hp]
    exact Nat.lt_succ_self 5
  | cons idx tail =>
    have hmsg' := hread _ _ _ _ _ _ (by rw [hp])
    rw [le16_id, le16_length m.payload_le] at hmsg'
    exact hmsg'

/-- **A datagram of ENQUEUEs**, however short. -/
theorem msgLoop_reads {clock : Nat → UInt32} {sender : UdpEndpoint} :
    ∀ (ms : List WireMsg) (n : Nat) (s : Sink) (iter : MsgIter) (rest : Bytes), (∀ m ∈ ms, m.typeByte = 2) →
      (wire ms).length ≤ n → iter.cur = wire ms ++ rest → iter.msgBufEnd = iter.msgBufStart + (wire ms).length →
      msgLoop H (fun sink iter => sinkHandleMsg H (clock iter.msgBufStart) sender sink iter) n s iter =
        ((reads ms rest).foldlM (sinkHandleRead H sender) s).map fun s' =>
          (s', { iter with msgBufStart := iter.msgBufEnd })
  | [], n, s, iter, _, _, _, _, hend => msgLoop_nil n s hend
  | m :: ms, n, s, iter, rest, hms, hn, hc, hend => by
    obtain ⟨k, iter', hm, hc', e, rfl, hk, hnext, hend'⟩ := msgLoop_cons H
      (fun sink iter => sinkHandleMsg H (clock iter.msgBufStart) sender sink iter) s hn hc hend
    rw [e, sinkHandleMsg_read H (hms m List.mem_cons_self) hm hc', reads, List.foldlM_cons]
    cases sinkHandleRead H sender s (m, m.payload ++ (wire ms ++ rest)) with
    | error e => rfl
    | ok s' => exact msgLoop_reads ms k s' _ rest (fun m' hm' => hms m' (List.mem_cons_of_mem _ hm')) hk hnext hend'

theorem sinkIterateRecvBuf_reads {ms : List WireMsg} (hms : ∀ m ∈ ms, m.typeByte = 2) {s : Sink} {rest : Bytes}
    (hbuf : s.recvBuf = wire ms ++ rest) (clock : Nat → UInt32) (sender : UdpEndpoint) :
    sinkIterateRecvBuf H clock s (wire ms).length sender =
      (reads ms rest).foldlM (sinkHandleRead H sender) s := by
  have hcur : (msgIterMake s.recvBuf (wire ms).length).cur = wire ms ++ rest := hbuf
  unfold sinkIterateRecvBuf
  rw [msgLoop_reads H ms _ s _ rest hms (Nat.le_refl _) hcur rfl]
  cases (reads ms rest).foldlM (sinkHandleRead H sender) s with
  | error e => rfl
  | ok s' => rfl

/-! ## Receive buffers -/

/-- Receive buffers that agree but for byte 7. It is the third byte of the payload of a message at the beginning, which
no handler reads of an ENQUEUE, and the first byte behind a BORROW. -/
structure SameBuf (s t : Sink) : Prop where
  first : t.recvBuf.take 7 = s.recvBuf.take 7
  rest : t.recvBuf.drop 8 = s.recvBuf.drop 8

theorem SameBuf.drop (h : SameBuf s t) {n : Nat} (hn : 8 ≤ n) : t.recvBuf.drop n = s.recvBuf.drop n := by
  obtain ⟨k, rfl⟩ := Nat.exists_eq_add_of_le hn
  rw [← List.drop_drop, ← List.drop_drop, h.rest]

/-- A datagram in both. -/
theorem SameBuf.received (h : SameBuf s t) (bytes : Bytes) :
    SameBuf { s with recvBuf := bytes ++ s.recvBuf.drop bytes.length }
      { t with recvBuf := bytes ++ t.recvBuf.drop bytes.length } := by
  constructor
  · show (bytes ++ t.recvBuf.drop bytes.length).take 7 = (bytes ++ s.recvBuf.drop bytes.length).take 7
    rw [List.take_append, List.take_append]
    rcases Nat.le_total 7 bytes.length with hle | hle
    · rw [Nat.sub_eq_zero_of_le hle, List.take_zero, List.take_zero]
    · rw [List.take_drop, List.take_drop, Nat.add_sub_cancel' hle, h.first]
  · show (bytes ++ t.recvBuf.drop bytes.length).drop 8 = (bytes ++ s.recvBuf.drop bytes.length).drop 8
    rw [List.drop_append, List.drop_append, List.drop_drop, List.drop_drop,
      h.drop (show 8 ≤ bytes.length + (8 - bytes.length) by omega)]

/-- What both receive. -/
theorem SameBuf.receives (h : SameBuf s t) (datagram : Option Datagram) (hs : s'.recvBuf = s.receives datagram)
    (ht : t'.recvBuf = t.receives datagram) : SameBuf s' t' := by
  have hsame : SameBuf { s with recvBuf := s.receives datagram } { t with recvBuf := t.receives datagram } := by
    unfold Sink.receives udpSocketReceiveFrom
    cases datagram with
    | none => exact h
    | some datagram =>
      by_cases h0 : (datagram.bytes.take sinkRecvBufLen).length = 0
      · simp only [if_pos h0]
        exact h
      · simp only [if_neg h0]
        exact h.received _
  rw [← hs, ← ht] at hsame
  exact ⟨hsame.first, hsame.rest⟩

/-- Twins as they are between two calls of a session of such ENQUEUEs. -/
structure Twins (least : Nat) (s t : Sink) : Prop where
  twin : Twin s.enqueued t.enqueued s t
  length : s.recvBuf.length = sinkRecvBufLen
  length' : t.recvBuf.length = sinkRecvBufLen
  buf : least < 3 → SameBuf s t

/-- Twins behind a call that both answer alike. -/
theorem Twins.next {least : Nat} (h : Twins least s t) {datagram : Option Datagram}
    (h' : Twin s.enqueued t.enqueued s' t') (hs : s'.recvBuf = s.receives datagram)
    (ht : t'.recvBuf = t.receives datagram) : Twins least s' t' where
  twin := { h' with stored := ⟨[], by simp, by simp⟩ }
  length := by rw [hs]; exact Sink.length_receives h.length datagram
  length' := by rw [ht]; exact Sink.length_receives h.length' datagram
  buf hleast := (h.buf hleast).receives datagram hs ht

end Twin

end Atolla

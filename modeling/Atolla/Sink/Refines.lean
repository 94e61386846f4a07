import Atolla.Sink.Player
import Atolla.Sink.Sends

/-!
# A sink is its player

`Plays s p`: the sink `s` is in the state that the player `p` stands for. Every message and every call keeps this, with
the same outcome (`sinkHandleRequest_plays`, `sinkServe_plays`), so that no run of calls tells the two apart
(`sink_refines_player`). As a player has neither memory nor a byte order, none of it depends on the host
(`sink_host_independent`).
-/

set_option autoImplicit false

namespace Atolla

open Loop Observe Fifo Pattern

/-! ## The relation -/

/-- The loan of a sink, in the terms of its player. -/
def Sink.loan (s : Sink) : Loan :=
  ⟨s.borrowerEndpoint, s.frameDurationMs.toNat, UInt8.ofInt s.lastEnqueuedFrameIdx,
    playingSince s.timeOrigin s.currentFrame.data⟩

def Sink.standing (s : Sink) : Standing :=
  match s.state with
  | .stateError => .broken
  | .stateOpen => .idle
  | .stateLent => .lent s.loan

/-- **The sink `s` plays `p`**, whenever it last received something. -/
structure Plays (s : Sink) (p : Player) : Prop where
  inv : SinkInv s
  frameLen : p.frameLen = s.frameLen
  standing : p.standing = s.standing
  queue : p.queue.items = s.pending
  shown : p.shown = s.dequeued
  socket : s.socket = letters p.said
  next : s.builder.nextMsgId = UInt16.ofNat p.said.length
  told : p.told = s.lastSendLentTime

/-- Between two calls they also agree on that time. -/
structure Mirrors (s : Sink) (p : Player) : Prop extends Plays s p where
  heard : p.heard = s.lastRecvTime

section Relation

variable {s s' : Sink} {p : Player}

theorem length_letters (said : List (Reply × UdpEndpoint)) : (letters said).length = said.length := by
  rw [letters, List.length_mapIdx]

theorem letters_concat (said : List (Reply × UdpEndpoint)) (r : Reply) (receiver : UdpEndpoint) :
    letters (said ++ [(r, receiver)]) = letters said ++ [(r.bytes (UInt16.ofNat said.length), receiver)] := by
  rw [letters, List.mapIdx_concat]
  rfl

theorem Plays.state (h : Plays s p) : p.state = s.state := by
  rw [Player.state, h.standing, Sink.standing]
  cases s.state with
  | stateError => rfl
  | stateOpen => rfl
  | stateLent => rfl

theorem Plays.session (h : Plays s p) : p.session = s.session := by
  rw [Player.session, h.standing, Sink.standing, Sink.session]
  cases s.state with
  | stateError => rfl
  | stateOpen => rfl
  | stateLent => rfl

theorem Sink.standing_lent (hs : s.state = .stateLent) : s.standing = .lent s.loan := by rw [Sink.standing, hs]

theorem Sink.standing_open (hs : s.state = .stateOpen) : s.standing = .idle := by rw [Sink.standing, hs]

theorem Sink.standing_eq_broken : s.standing = .broken ↔ s.state = .stateError := by
  rw [Sink.standing]
  cases s.state with
  | stateError => simp
  | stateOpen => simp
  | stateLent => simp

/-- A FAIL or a LENT: one more thing said. -/
theorem Plays.say (h : Plays s p) {builder : MsgBuilder} (hb : builder.msgBuf.Owned)
    (hn : builder.nextMsgId = s.builder.nextMsgId + 1) {r : Reply} {bytes : Bytes}
    (he : bytes = r.bytes s.builder.nextMsgId) (receiver : UdpEndpoint) :
    Plays (s.replied builder bytes receiver) (p.say r receiver) where
  inv := h.inv.replied hb bytes receiver
  frameLen := h.frameLen
  standing := h.standing
  queue := h.queue
  shown := h.shown
  socket := by
    rw [Player.say, letters_concat, ← h.next, ← h.socket, ← he]
    rfl
  next := by
    rw [Player.say, List.length_append, List.length_singleton, UInt16.ofNat_add, ← h.next]
    exact hn
  told := h.told

theorem Plays.free (h : Plays s p) : Plays (sinkDropBorrow s) p.free :=
  ⟨h.inv.dropBorrow, h.frameLen, rfl, h.queue, h.shown, h.socket, h.next, h.told⟩

/-- A session that is over, whether or not there was one. -/
theorem Plays.freeIfLent (h : Plays s p) (hs : s.state ≠ .stateError) :
    Plays (if s.state = .stateLent then sinkDropBorrow s else s) p.free := by
  split
  · exact h.free
  · rename_i hlent
    have hopen : s.state = .stateOpen := by
      cases hst : s.state with
      | stateError => exact absurd hst hs
      | stateOpen => rfl
      | stateLent => exact absurd hst hlent
    exact ⟨h.inv, h.frameLen, (Sink.standing_open hopen).symm, h.queue, h.shown, h.socket, h.next, h.told⟩

/-- The receive buffer is none of the player's. -/
theorem Plays.withRecvBuf (h : Plays s p) (recvBuf : Bytes) : Plays { s with recvBuf := recvBuf } p :=
  ⟨h.inv.withRecvBuf recvBuf, h.frameLen, h.standing, h.queue, h.shown, h.socket, h.next, h.told⟩

theorem sinkSendFailTo_plays (H : Host) (h : Plays s p) (id : UInt16) (code : ErrorCode) (receiver : UdpEndpoint) :
    ∃ s', sinkSendFailTo H s id code receiver = .ok s' ∧ Plays s' (p.say (.fail id code) receiver) ∧
      s'.state = s.state ∧ s'.lastRecvTime = s.lastRecvTime := by
  obtain ⟨builder, e, hb, hn⟩ := sinkSendFailTo_spec H h.inv id code receiver
  exact ⟨_, e, h.say (r := .fail id code) hb hn rfl receiver, rfl, rfl⟩

end Relation

/-! ## Messages -/

section Message

variable {H : Host} {s s' : Sink} {p : Player} {sender : UdpEndpoint}

/-- **A BORROW.** -/
theorem sinkHandleBorrow_plays (h : Plays s p) (hs : s.state ≠ .stateError) (now : UInt32) (id : UInt16)
    (frameLength bufferLength : UInt8) :
    ∃ s', sinkHandleBorrow H now s id frameLength.toNat bufferLength.toNat sender = .ok s' ∧
      Plays s' (p.borrow now sender id frameLength bufferLength) ∧ s'.state ≠ .stateError := by
  have hfl := frameLength.toNat_lt
  rw [Player.borrow, h.session]
  cases he : s.session.borrowError sender frameLength bufferLength with
  | none =>
    have hl := Sink.lends_of_borrowError hs he
    obtain ⟨builder, e, hb, hn⟩ := sinkHandleBorrow_lends H h.inv hl now id
    refine ⟨_, e, ?_, by intro he; cases he⟩
    have hduration : (UInt32.ofInt frameLength.toNat).toNat = frameLength.toNat := by
      rw [UInt32.ofInt, UInt32.toNat_ofNat']
      omega
    have hgrant : Plays { s.granted frameLength.toNat sender with lastSendLentTime := now }
        { p with standing := .lent ⟨sender, frameLength.toNat, 255, none⟩, told := now } := by
      have hg := h.inv.granted hl.slow (by omega) sender
      refine ⟨hg.congr rfl hg.builder rfl rfl rfl hg.idx hg.duration rfl rfl, h.frameLen, ?_, h.queue, h.shown,
        h.socket, h.next, rfl⟩
      show Standing.lent _ = .lent ⟨sender, (UInt32.ofInt frameLength.toNat).toNat, _, _⟩
      rw [hduration]
      rfl
    exact hgrant.say (r := .lent) hb hn rfl sender
  | some code =>
    obtain ⟨s₁, e, h₁, hst, -⟩ := sinkSendFailTo_plays H h id code sender
    rw [sinkHandleBorrow_error h.inv hs he, e]
    by_cases hother : code = .lentToOtherSource
    · simp only [if_pos hother]
      exact ⟨s₁, rfl, h₁, hst ▸ hs⟩
    · simp only [if_neg hother]
      refine ⟨_, rfl, h₁.freeIfLent (hst ▸ hs), ?_⟩
      split
      · intro he
        cases he
      · exact hst ▸ hs

/-- How far the index of a message is ahead, in the terms of the two: the first index of a session is at once one step
and 256 steps behind the last. -/
theorem SinkInv.ahead (h : SinkInv s) (idx : UInt8) :
    s.distance idx.toNat = (idx - s.loan.last).toNat ∨
      (s.distance idx.toNat = 256 ∧ (idx - s.loan.last).toNat = 0) := by
  have hidx := idx.toNat_lt
  have hrange := h.idx
  have hlast : s.loan.last.toNat = (s.lastEnqueuedFrameIdx % 256).toNat := by
    show (UInt8.ofInt s.lastEnqueuedFrameIdx).toNat = _
    rw [UInt8.ofInt, UInt8.toNat_ofNat']
    omega
  rw [UInt8.toNat_sub, hlast]
  unfold Sink.distance boundedDiff
  split
  · left
    omega
  · by_cases hfirst : s.lastEnqueuedFrameIdx = -1
    · rw [hfirst]
      by_cases h255 : idx.toNat = 255
      · right
        omega
      · left
        omega
    · left
      omega

/-- Frames that were stored. -/
theorem Stored.plays {gs : List Bytes} {idx : UInt8} (hstored : Stored s s' gs idx.toNat) (h : Plays s p)
    (hlent : s.state = .stateLent) (hbound : (p.queue.items ++ gs).length ≤ pendingFramesCapacity) :
    Plays s' { p with
      standing := .lent { s.loan with last := idx }
      queue := ⟨p.queue.items ++ gs, hbound⟩ } where
  inv := hstored.inv
  frameLen := by
    rw [hstored.same]
    exact h.frameLen
  standing := by
    rw [hstored.same, Sink.standing_lent (by exact hlent)]
    have hlast : UInt8.ofInt idx.toNat = idx := by
      have hmod : ((idx.toNat : Int) % 2 ^ 8).toNat = idx.toNat := by
        have := idx.toNat_lt
        omega
      rw [UInt8.ofInt, hmod, UInt8.ofNat_toNat]
    show Standing.lent ⟨_, _, idx, _⟩ = .lent ⟨_, _, UInt8.ofInt idx.toNat, _⟩
    rw [hlast]
    rfl
  queue := by
    rw [hstored.pending, ← h.queue]
  shown := by
    rw [hstored.same]
    exact h.shown
  socket := by
    rw [hstored.same]
    exact h.socket
  next := by
    rw [hstored.same]
    exact h.next
  told := by
    rw [hstored.same]
    exact h.told

/-- **An ENQUEUE.** Without room for the copies of its frame neither of the two ever ends. -/
theorem sinkHandleEnqueue_plays (h : Plays s p) (hs : s.state ≠ .stateError) (id : UInt16) (idx : UInt8)
    (frame : Bytes) :
    Agree (fun s' p' => Plays s' p' ∧ s'.state ≠ .stateError)
      (sinkHandleEnqueue H s id idx.toNat (MemBlock.ofBytes frame) sender) (p.enqueue sender id idx frame) := by
  have hstanding := h.standing
  cases he : s.session.enqueueError sender frame with
  | some code =>
    obtain ⟨s₁, e, h₁, hst, -⟩ := sinkSendFailTo_plays H h id code sender
    rw [sinkHandleEnqueue_error hs he, e]
    cases hlent : s.state with
    | stateError => exact absurd hlent hs
    | stateOpen =>
      rw [Sink.session_open hlent] at he
      cases he
      rw [Sink.standing_open hlent] at hstanding
      rw [Player.enqueue, hstanding]
      exact agree_ok.mpr ⟨h₁, hst ▸ hs⟩
    | stateLent =>
      rw [Sink.standing_lent hlent] at hstanding
      rw [Sink.session_lent hlent] at he
      simp only [Session.enqueueError] at he
      rw [Player.enqueue, hstanding]
      split at he
      · rename_i hshort
        cases he
        rw [if_pos rfl]
        simp only [if_pos hshort]
        exact agree_ok.mpr ⟨h₁.free, by intro he; cases he⟩
      rename_i hlong
      split at he
      · rename_i hforeign
        have hne : udpEndpointEqual sender s.loan.borrower = false := hforeign
        cases he
        rw [if_neg (by decide)]
        simp only [if_neg hlong, hne]
        exact agree_ok.mpr ⟨h₁, hst ▸ hs⟩
      · cases he
  | none =>
    obtain ⟨hlent, hb, h3⟩ := Sink.takes_of_enqueueError he
    have hb' : udpEndpointEqual sender s.loan.borrower = true := hb
    rw [Sink.standing_lent hlent] at hstanding
    have hplayer : p.enqueue sender id idx frame = p.store s.loan idx (cycle s.frameLen frame) := by
      rw [Player.enqueue, hstanding]
      simp only [if_neg (Nat.not_lt.mpr h3), if_pos hb', h.frameLen]
    have hlen := h.inv.length_pending
    have hidx := idx.toNat_lt
    have hahead := h.inv.ahead idx
    rw [hplayer, Player.store]
    by_cases hfar : 128 < (idx - s.loan.last).toNat
    · -- late
      rw [if_pos hfar, sinkHandleEnqueue_late H hlent hb h3 (by omega) id]
      exact agree_ok.mpr ⟨h, hs⟩
    rw [if_neg hfar]
    rcases hahead with hahead | ⟨hahead, hnone⟩
    · by_cases hroom : s.pending.length + (idx - s.loan.last).toNat ≤ pendingFramesCapacity
      · rw [dif_pos (by rw [h.queue]; exact hroom)]
        obtain ⟨s₁, e, hstored⟩ := sinkHandleEnqueue_append H h.inv hlent hb h3 (MemBlock.valid_ofBytes frame)
          (by omega) hahead (by omega) hroom id
        rw [e]
        rw [MemBlock.bytes_ofBytes] at hstored
        refine agree_ok.mpr ⟨hstored.plays h hlent _, ?_⟩
        rw [hstored.same]
        exact hs
      · rw [dif_neg (by rw [h.queue]; exact hroom)]
        have hfull : ¬s.HasRoom sender (.enqueue idx frame) := by
          intro hr
          have hr' := hr hlent hb h3
          rw [h.inv.freeSlots_eq] at hr'
          omega
        have e : sinkHandleEnqueue H s id idx.toNat (MemBlock.ofBytes frame) sender = .error .diverges :=
          sinkHandleRequest_full h.inv hfull 0 id
        rw [e]
        exact rfl
    · -- the index before the first one: a distance of 256, and nothing to store
      have hlast : idx = s.loan.last := by
        have := s.loan.last.toNat_lt
        rw [UInt8.toNat_sub] at hnone
        apply UInt8.toNat_inj.mp
        omega
      rw [sinkHandleEnqueue_late H hlent hb h3 (by omega) id, dif_pos (by rw [hnone]; exact p.queue.bound)]
      refine agree_ok.mpr ⟨⟨h.inv, h.frameLen, ?_, ?_, h.shown, h.socket, h.next, h.told⟩, hs⟩
      · rw [Sink.standing_lent hlent]
        show Standing.lent ⟨_, _, idx, _⟩ = _
        rw [hlast]
      · show p.queue.items ++ List.replicate _ _ = s.pending
        rw [hnone, List.replicate_zero, List.append_nil]
        exact h.queue

/-- **A message** does to the player what it does to the sink. -/
theorem sinkHandleRequest_plays (h : Plays s p) (hs : s.state ≠ .stateError) (now : UInt32) (id : UInt16)
    (r : Request) :
    Agree (fun s' p' => Plays s' p' ∧ s'.state ≠ .stateError) (sinkHandleRequest H now sender s id r)
      (p.ask now sender id r) := by
  cases r with
  | borrow frameLength bufferLength =>
    obtain ⟨s₁, e, h₁, hs₁⟩ := sinkHandleBorrow_plays (H := H) h hs now id frameLength bufferLength
    rw [sinkHandleRequest, e]
    exact agree_ok.mpr ⟨h₁, hs₁⟩
  | enqueue idx frame => exact sinkHandleEnqueue_plays h hs id idx frame
  | other =>
    obtain ⟨s₁, e, h₁, hst, -⟩ := sinkSendFailTo_plays H h id .badMsg sender
    rw [sinkHandleRequest, e]
    exact agree_ok.mpr ⟨h₁, hst ▸ hs⟩

theorem sinkHandleWires_plays (clock : Nat → UInt32) (ms : List (Nat × WireMsg)) (h : Plays s p)
    (hs : s.state ≠ .stateError) :
    Agree (fun s' p' => Plays s' p' ∧ s'.state ≠ .stateError) (ms.foldlM (sinkHandleWire H clock sender) s)
      (ms.foldlM (Player.askWire clock sender) p) := by
  refine foldlM_agree (fun s' p' => Plays s' p' ∧ s'.state ≠ .stateError) ms ?_ s p ⟨h, hs⟩
  rintro m - s p ⟨h, hs⟩
  rw [sinkHandleWire, Player.askWire]
  cases m.2.request with
  | some r => exact sinkHandleRequest_plays h hs (clock m.1) m.2.id r
  | none => exact agree_ok.mpr ⟨h, hs⟩

end Message

/-! ## Calls -/

/-- The call of the application, with the datagram on the socket. -/
def SinkInput.call : SinkInput → SinkCall
  | .silence clock => .state clock none
  | .messages clock sender ms => .state clock (some ⟨wire ms, sender⟩)
  | .get now frame => .get now frame

/-- A call of the sink, with its outcome. -/
def sinkServe (H : Host) (s : Sink) : SinkCall → Run (Sink × SinkAnswer)
  | .state clock datagram => do
    let s' ← atollaSinkState H clock s datagram
    return (s', .state s'.state (s'.socket.drop s.socket.length))
  | .get now frame => do
    let (result, s', frame) ← atollaSinkGet now s frame frame.length
    return (s', .get result frame)

section Call

variable {H : Host} {s s' : Sink} {p : Player}

/-- **The regular LENT.** -/
theorem sinkSend_plays (h : Mirrors s p) (clock : SinkClock) :
    ∃ s', sinkSend H clock s = .ok s' ∧ Mirrors s' (p.remind clock) := by
  have hstanding := h.standing
  rw [sinkSend, Player.remind, hstanding, h.told]
  by_cases hlent : s.state = .stateLent
  · rw [if_pos hlent, Sink.standing_lent hlent]
    by_cases hlate : lentSendInterval < clock.send - s.lastSendLentTime
    · simp only [if_pos hlate]
      obtain ⟨builder, e, hb, hn⟩ := sinkSendLent_spec H h.inv clock.lent
      have htold : Plays { s with lastSendLentTime := clock.lent }
          { p with standing := .lent s.loan, told := clock.lent } :=
        ⟨h.inv.congr rfl h.inv.builder rfl rfl rfl h.inv.idx h.inv.duration rfl rfl, h.frameLen,
          (Sink.standing_lent hlent).symm, h.queue, h.shown, h.socket, h.next, rfl⟩
      exact ⟨_, e, htold.say (r := .lent) hb hn rfl s.borrowerEndpoint, h.heard⟩
    · simp only [if_neg hlate]
      exact ⟨s, rfl, h⟩
  · rw [if_neg hlent]
    refine ⟨s, rfl, ?_⟩
    cases hst : s.state with
    | stateLent => exact absurd hst hlent
    | stateOpen =>
      rw [Sink.standing_open hst]
      exact h
    | stateError =>
      rw [Sink.standing_eq_broken.mpr hst]
      exact h

/-- **An update that finds nothing.** -/
theorem sinkReceive_expires (h : Mirrors s p) (clock : SinkClock) :
    ∃ s', sinkReceive H clock s none = .ok s' ∧ Mirrors s' (p.expire clock.received) := by
  have hstanding := h.standing
  have hrecv : udpSocketReceiveFrom s.recvBuf sinkRecvBufLen none = none := rfl
  rw [sinkReceive, hrecv, Player.expire, hstanding, h.heard]
  simp only
  cases hst : s.state with
  | stateLent =>
    rw [Sink.standing_lent hst]
    by_cases hlate : dropTimeout < clock.received - s.lastRecvTime
    · simp only [true_and, if_pos hlate]
      obtain ⟨s₁, e, h₁, -, hrecv⟩ := sinkSendFailTo_plays H h.toPlays 0 .timeout s.borrowerEndpoint
      rw [sinkSendFail, e]
      exact ⟨_, rfl, h₁.free, h.heard.trans hrecv.symm⟩
    · simp only [true_and, if_neg hlate]
      exact ⟨s, rfl, h⟩
  | stateOpen =>
    rw [Sink.standing_open hst, if_neg (by simp)]
    exact ⟨s, rfl, h⟩
  | stateError =>
    rw [Sink.standing_eq_broken.mpr hst, if_neg (by simp)]
    exact ⟨s, rfl, h⟩

/-- **The frames that are due** go from the queue on show. -/
theorem Shown.mirrors {k : Nat} {origin : UInt32} {frame : Bytes} (hshown : Shown s s' k origin) (h : Mirrors s p)
    (hlent : s.state = .stateLent) (hframe : s'.currentFrame.data = frame) :
    Mirrors s' (p.advance s.loan k origin frame) := by
  have hsame := hshown.same
  refine ⟨⟨hshown.inv, ?_, ?_, ?_, ?_, ?_, ?_, ?_⟩, ?_⟩
  · rw [hsame]
    exact h.frameLen
  · rw [← hframe, Sink.standing_lent (by rw [hsame]; exact hlent), Player.advance, Sink.loan, hsame]
    rfl
  · rw [hshown.pending, ← h.queue]
    rfl
  · show p.shown ++ p.queue.items.take k = s'.dequeued
    rw [h.shown, h.queue, hsame]
  · rw [hsame]
    exact h.socket
  · rw [hsame]
    exact h.next
  · rw [hsame]
    exact h.told
  · rw [hsame]
    exact h.heard

/-- Without a loan nothing is shown. -/
theorem Player.play_idle (hs : ∀ loan, p.standing ≠ .lent loan) (now : UInt32) : p.play now = (p, none) := by
  rw [Player.play]
  split
  · rename_i loan hloan
    exact absurd hloan (hs loan)
  · rfl

/-- Before the first frame of a session. -/
theorem atollaSinkGet_first (h : Mirrors s p) (hlent : s.state = .stateLent) (ho : s.timeOrigin = NULL_TIME)
    (now : UInt32) (frame : Bytes) :
    ∃ s', atollaSinkGet now s frame frame.length = .ok ((p.play now).2.isSome, s',
        ((p.play now).2.map (cycle frame.length)).getD frame) ∧ Mirrors s' (p.play now).1 := by
  have hplaying : s.loan.playing = none := if_pos ho
  rw [Player.play, h.standing, Sink.standing_lent hlent]
  simp only [hplaying, h.queue]
  cases hp : s.pending with
  | nil =>
    have e : atollaSinkGet now s frame frame.length = .ok (false, s, frame) := by
      rw [atollaSinkGet, if_pos hlent, if_pos ho, sinkDequeue_nil h.inv hp]
      rfl
    exact ⟨s, e, h⟩
  | cons g rest =>
    obtain ⟨s₁, e, hshown⟩ := atollaSinkGet_lent h.inv hlent now frame
    have hshows : s.shows = true := by simp [Sink.shows, hp]
    have hdue : s.due now = 1 := by
      rw [Sink.due, hp, if_pos ho, List.length_cons]
      omega
    have horigin : s.originAfter now = now := by
      rw [Sink.originAfter, if_pos ho, hp, if_neg (List.cons_ne_nil g rest)]
    have hpicture : s.picture now = g := by
      rw [Sink.picture, hdue, hp]
      rfl
    rw [hshows, hpicture] at e
    rw [hdue, horigin] at hshown
    have hcurrent : s₁.currentFrame.data = g := by
      rw [hshown.current, hp]
      rfl
    exact ⟨s₁, e, hshown.mirrors h hlent hcurrent⟩

/-- Later in a session. -/
theorem atollaSinkGet_later (h : Mirrors s p) (hlent : s.state = .stateLent) (ho : s.timeOrigin ≠ NULL_TIME)
    (now : UInt32) (frame : Bytes) :
    ∃ s', atollaSinkGet now s frame frame.length = .ok ((p.play now).2.isSome, s',
        ((p.play now).2.map (cycle frame.length)).getD frame) ∧ Mirrors s' (p.play now).1 := by
  have hplaying : s.loan.playing = some ⟨s.timeOrigin, s.currentFrame.data⟩ := if_neg ho
  obtain ⟨s₁, e, hshown⟩ := atollaSinkGet_lent h.inv hlent now frame
  have hdue : p.due s.loan s.timeOrigin now = s.due now := by
    rw [Player.due, Sink.due, if_neg ho, h.queue]
    rfl
  have horigin : s.originAfter now = s.timeOrigin + UInt32.ofNat (s.due now * s.loan.duration) := if_neg ho
  have hshows : s.shows = true := by simp [Sink.shows, ho]
  rw [hshows] at e
  rw [horigin] at hshown
  rw [Player.play, h.standing, Sink.standing_lent hlent]
  simp only [hplaying, hdue, h.queue]
  exact ⟨s₁, e, hshown.mirrors h hlent hshown.current⟩

/-- **A get.** -/
theorem atollaSinkGet_plays (h : Mirrors s p) (now : UInt32) (frame : Bytes) :
    ∃ s', atollaSinkGet now s frame frame.length = .ok ((p.play now).2.isSome, s',
        ((p.play now).2.map (cycle frame.length)).getD frame) ∧
      Mirrors s' (p.play now).1 := by
  by_cases hlent : s.state = .stateLent
  · by_cases ho : s.timeOrigin = NULL_TIME
    · exact atollaSinkGet_first h hlent ho now frame
    · exact atollaSinkGet_later h hlent ho now frame
  · have hidle : p.play now = (p, none) := by
      refine Player.play_idle (fun loan hloan => hlent ?_) now
      rw [← h.state, Player.state, hloan]
    rw [hidle]
    exact ⟨s, atollaSinkGet_idle hlent now frame frame.length, h⟩

/-- **An update.** -/
theorem atollaSinkState_plays (h : Mirrors s p) {i : SinkInput} (hi : i.Complete) {clock : SinkClock}
    {datagram : Option Datagram} (hc : i.call = .state clock datagram) :
    Agree Mirrors (atollaSinkState H clock s datagram) (p.hear i) := by
  rw [Player.hear]
  by_cases hs : s.state = .stateError
  · rw [if_pos (by rw [h.standing]; exact Sink.standing_eq_broken.mpr hs), atollaSinkState, if_neg (not_not.mpr hs)]
    exact agree_ok.mpr h
  rw [if_neg (by rw [h.standing, Sink.standing_eq_broken]; exact hs)]
  cases i with
  | get now frame => cases hc
  | silence clock =>
    cases hc
    obtain ⟨s₁, e₁, h₁⟩ := sinkReceive_expires (H := H) h clock
    obtain ⟨s₂, e₂, h₂⟩ := sinkSend_plays (H := H) h₁ clock
    rw [atollaSinkState, if_pos hs, sinkUpdate, e₁, ok_bind, e₂]
    exact agree_ok.mpr h₂
  | messages clock sender ms =>
    cases hc
    obtain ⟨hne, hr, hfit⟩ := hi
    rw [atollaSinkState_complete H hs hne hr hfit]
    have hbuf := h.toPlays.withRecvBuf (wire ms ++ s.recvBuf.drop (wire ms).length)
    refine (sinkHandleWires_plays (H := H) clock.message (withOffsets 0 ms) hbuf hs).bind ?_
    rintro s' p' ⟨h', -⟩
    have hheard : Mirrors { s' with lastRecvTime := clock.received } { p' with heard := clock.received } :=
      ⟨⟨h'.inv.withRecvTime _, h'.frameLen, h'.standing, h'.queue, h'.shown, h'.socket, h'.next, h'.told⟩, rfl⟩
    obtain ⟨s₂, e₂, h₂⟩ := sinkSend_plays (H := H) hheard clock
    rw [e₂]
    exact agree_ok.mpr h₂

/-- The outcome of an update. -/
theorem Mirrors.answer {p' : Player} (h : Mirrors s p) (h' : Mirrors s' p') :
    SinkAnswer.state s'.state (s'.socket.drop s.socket.length) =
      .state p'.state ((letters p'.said).drop p.said.length) := by
  rw [h'.state, h'.socket, h.socket, length_letters]

/-- **One call** has the same outcome for both, and leaves them alike. -/
theorem sinkServe_plays (h : Mirrors s p) {i : SinkInput} (hi : i.Complete) :
    Agree (fun q r => Mirrors q.1 r.1 ∧ q.2 = r.2) (sinkServe H s i.call) (p.serve i) := by
  cases i with
  | get now frame =>
    obtain ⟨s₁, e, h₁⟩ := atollaSinkGet_plays h now frame
    show Agree _ (atollaSinkGet now s frame frame.length >>= _) _
    rw [e]
    refine agree_ok.mpr ⟨h₁, ?_⟩
    cases (p.play now).2 with
    | none => rfl
    | some shown => rfl
  | silence clock =>
    simp only [SinkInput.call, sinkServe, Player.serve]
    refine (atollaSinkState_plays h hi rfl).bind fun s' p' h' => ?_
    exact agree_ok.mpr ⟨h', h.answer h'⟩
  | messages clock sender ms =>
    simp only [SinkInput.call, sinkServe, Player.serve]
    refine (atollaSinkState_plays h hi rfl).bind fun s' p' h' => ?_
    exact agree_ok.mpr ⟨h', h.answer h'⟩

end Call

/-! ## Runs -/

theorem freshSink_mirrors (H : Host) {lights : Nat} (h1 : 1 ≤ lights) (hl : lights ≤ 337) (bound : Bool) :
    Mirrors (freshSink H lights bound) (Player.fresh lights bound) := by
  refine ⟨⟨freshSink_inv H h1 hl bound, rfl, ?_, (freshSink_pending H h1 hl bound).symm, rfl, rfl, rfl, rfl⟩, rfl⟩
  cases bound with
  | true => rfl
  | false => rfl

/-- All runs of a sink that was made. -/
theorem sinkServe_observe (H : Host) {spec : AtollaSinkSpec} {bound : Bool} {s : Sink}
    (e : atollaSinkMake H spec bound = .ok s) {calls : List SinkInput} (hc : ∀ i ∈ calls, i.Complete) :
    observe (fun s (i : SinkInput) => sinkServe H s i.call) s calls =
      observe Player.serve (Player.fresh spec.lightsCount.toNat bound) calls := by
  obtain ⟨n, h1, hn, hspec, rfl⟩ := atollaSinkMake_fresh e
  rw [← hspec, Int.toNat_natCast]
  exact observe_eq Mirrors SinkInput.Complete (fun _ _ i h hi => sinkServe_plays (i := i) h hi) calls _ _
    (freshSink_mirrors H h1 hn bound) hc

/-- A BORROW and a frame in one datagram, and two gets. -/
def exampleInputs : List SinkInput :=
  [.messages exampleClock exampleEndpoint [.borrow 7 20 1, .enqueue 8 0 [1, 2, 3] exampleFrame_le],
    .get 1000 [0, 0, 0, 0], .get 1090 [9]]

theorem exampleInputs_complete : ∀ i ∈ exampleInputs, i.Complete := by
  have hms : SinkInput.Complete (.messages exampleClock exampleEndpoint
      [.borrow 7 20 1, .enqueue 8 0 [1, 2, 3] exampleFrame_le]) := ⟨by simp, by decide, by decide⟩
  intro i hi
  simp only [exampleInputs, List.mem_cons, List.not_mem_nil, or_false] at hi
  rcases hi with rfl | rfl | rfl
  · exact hms
  · exact trivial
  · exact trivial

/-- **The host does not matter**: on any two platforms, whatever fresh memory holds there, a sink gives the same
answers, messages and frames to the same calls, and fails to return from the same ones. -/
theorem sink_host_independent (H H' : Host) {spec : AtollaSinkSpec} {bound : Bool} {s s' : Sink}
    (e : atollaSinkMake H spec bound = .ok s) (e' : atollaSinkMake H' spec bound = .ok s') {calls : List SinkInput}
    (hc : ∀ i ∈ calls, i.Complete) :
    observe (fun s (i : SinkInput) => sinkServe H s i.call) s calls =
      observe (fun s (i : SinkInput) => sinkServe H' s i.call) s' calls := by
  have hplayer := sinkServe_observe H e hc
  exact hplayer.trans (sinkServe_observe H' e' hc).symm

/-- The host of the other byte order, with other contents of fresh memory. -/
theorem sink_host_independent_first :
    observe (fun s (i : SinkInput) => sinkServe exampleHost s i.call) (freshSink exampleHost 1 true) exampleInputs =
      observe (fun s (i : SinkInput) => sinkServe ⟨true, fun _ => 7⟩ s i.call) (freshSink ⟨true, fun _ => 7⟩ 1 true)
        exampleInputs := by
  have hmake : ∀ H, atollaSinkMake H ⟨0, (1 : Nat)⟩ true = .ok (freshSink H 1 true) := fun H =>
    freshSink_make H (Nat.le_refl 1) (by decide) true
  exact sink_host_independent exampleHost ⟨true, fun _ => 7⟩ (hmake _) (hmake _) exampleInputs_complete

end Atolla

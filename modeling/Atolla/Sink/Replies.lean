import Atolla.Sink.Exclusive
import Atolla.Sink.FullRing

/-!
# What a sink answers

To an endpoint that sends messages a sink is a session: open, or lent to someone (`Session`). `Session.answer` is the
table of its replies, and what becomes of the session. The sink behaves as that table says, message by message
(`sinkHandleRequest_answer`), and so its replies to a datagram are those of the table, in order, under consecutive ids
(`replies_correlated`).
-/

set_option autoImplicit false

namespace Atolla

open Loop

/-! ## The table -/

/-- A sink as its peers see it. -/
inductive Session where
  | open
  | lent (borrower : UdpEndpoint)

/-- What a sink sends. -/
inductive Reply where
  | lent
  | fail (offendingMsgId : UInt16) (code : ErrorCode)

/-- The bytes of a reply with a message id. -/
def Reply.bytes (id : UInt16) : Reply → Bytes
  | .lent => encode 1 id []
  | .fail offendingMsgId code => encode 255 id (failPayload offendingMsgId code.toByte)

/-- Replies under consecutive message ids. -/
def numberedFrom : UInt16 → List Reply → List Bytes
  | _, [] => []
  | id, r :: rs => r.bytes id :: numberedFrom (id + 1) rs

namespace Session

/-- The session is someone else's. -/
def Foreign (sender : UdpEndpoint) : Session → Prop
  | .open => False
  | .lent borrower => udpEndpointEqual sender borrower = false

instance (sender : UdpEndpoint) : ∀ session : Session, Decidable (session.Foreign sender)
  | .open => inferInstanceAs (Decidable False)
  | .lent _ => inferInstanceAs (Decidable (_ = _))

/-- Why a BORROW is refused. -/
def borrowError (session : Session) (sender : UdpEndpoint) (frameLength bufferLength : UInt8) : Option ErrorCode :=
  if session.Foreign sender then some .lentToOtherSource
  else if 128 < bufferLength.toNat then some .requestedBufferTooLarge
  else if frameLength.toNat < 10 then some .requestedFrameDurationTooShort
  else none

/-- Why an ENQUEUE is refused. -/
def enqueueError (session : Session) (sender : UdpEndpoint) (frame : Bytes) : Option ErrorCode :=
  match session with
  | .open => some .notBorrowed
  | .lent _ =>
    if frame.length < 3 then some .badMsg
    else if session.Foreign sender then some .lentToOtherSource
    else none

/-- The reply to a request, and what becomes of the session. -/
def answer (session : Session) (sender : UdpEndpoint) (id : UInt16) : Request → Option Reply × Session
  | .borrow frameLength bufferLength =>
    match session.borrowError sender frameLength bufferLength with
    | none => (some .lent, .lent sender)
    | some .lentToOtherSource => (some (.fail id .lentToOtherSource), session)
    | some code => (some (.fail id code), .open)
  | .enqueue _ frame =>
    match session.enqueueError sender frame with
    | none => (none, session)
    | some .badMsg => (some (.fail id .badMsg), .open)
    | some code => (some (.fail id code), session)
  | .other => (some (.fail id .badMsg), session)

/-- The replies to the messages of a datagram. -/
def answers (sender : UdpEndpoint) : Session → List (UInt16 × Request) → List Reply × Session
  | session, [] => ([], session)
  | session, (id, r) :: rs =>
    let (reply, next) := session.answer sender id r
    let (replies, last) := next.answers sender rs
    (reply.toList ++ replies, last)

end Session

/-- The session of a sink. -/
def Sink.session (s : Sink) : Session := if s.state = .stateLent then .lent s.borrowerEndpoint else .open

/-- The sink `s` has sent the replies to an endpoint, and its session has become another. -/
structure Answered (s s' : Sink) (sender : UdpEndpoint) (replies : List Reply) (session : Session) : Prop where
  inv : SinkInv s'
  alive : s'.state ≠ .stateError
  session : s'.session = session
  socket : s'.socket = s.socket ++ (numberedFrom s.builder.nextMsgId replies).map (·, sender)
  next : s'.builder.nextMsgId = s.builder.nextMsgId + UInt16.ofNat replies.length

/-- There is room for the copies of the frame of a request, if it is accepted. -/
def Sink.HasRoom (s : Sink) (sender : UdpEndpoint) : Request → Prop
  | .enqueue frameIdx frame => s.state = .stateLent → udpEndpointEqual sender s.borrowerEndpoint = true →
      3 ≤ frame.length → 128 < s.distance frameIdx.toNat ∨ s.distance frameIdx.toNat ≤ s.freeSlots
  | _ => True

instance (s : Sink) (sender : UdpEndpoint) : ∀ r : Request, Decidable (s.HasRoom sender r)
  | .borrow .. => inferInstanceAs (Decidable True)
  | .enqueue .. => inferInstanceAs (Decidable (_ → _))
  | .other => inferInstanceAs (Decidable True)

/-! ## The rows of the table -/

namespace Session

variable {session : Session} {sender : UdpEndpoint} {id : UInt16} {frameLength bufferLength : UInt8} {idx : UInt8}
  {frame : Bytes} {code : ErrorCode}

theorem answer_borrow (he : session.borrowError sender frameLength bufferLength = none) :
    session.answer sender id (.borrow frameLength bufferLength) = (some .lent, .lent sender) := by
  simp only [answer, he]

/-- A refused BORROW ends the session, unless it is someone else's. -/
theorem answer_borrow_error (he : session.borrowError sender frameLength bufferLength = some code) :
    session.answer sender id (.borrow frameLength bufferLength) =
      (some (.fail id code), if code = .lentToOtherSource then session else .open) := by
  simp only [answer, he]
  cases code with
  | lentToOtherSource => rfl
  | _ => rfl

theorem answer_enqueue (he : session.enqueueError sender frame = none) :
    session.answer sender id (.enqueue idx frame) = (none, session) := by
  simp only [answer, he]

/-- An ENQUEUE that is too short ends the session. -/
theorem answer_enqueue_error (he : session.enqueueError sender frame = some code) :
    session.answer sender id (.enqueue idx frame) =
      (some (.fail id code), if code = .badMsg then .open else session) := by
  simp only [answer, he]
  cases code with
  | badMsg => rfl
  | _ => rfl

end Session

section Rows

variable {H : Host} {s : Sink} {sender : UdpEndpoint} {frameLength bufferLength : UInt8} {frame : Bytes}
  {code : ErrorCode}

theorem Sink.session_lent (hs : s.state = .stateLent) : s.session = .lent s.borrowerEndpoint := if_pos hs

theorem Sink.session_open (hs : s.state = .stateOpen) : s.session = .open := if_neg (by simp [hs])

theorem Sink.session_foreign (hf : s.session.Foreign sender) :
    s.state = .stateLent ∧ udpEndpointEqual sender s.borrowerEndpoint = false := by
  have hlent : s.state = .stateLent := by
    by_contra hne
    rw [Sink.session, if_neg hne] at hf
    exact hf
  rw [Sink.session_lent hlent] at hf
  exact ⟨hlent, hf⟩

/-- Whoever is not foreign may send a BORROW. -/
theorem Sink.session_free (hs : s.state ≠ .stateError) (hf : ¬s.session.Foreign sender) :
    s.state = .stateOpen ∨ (s.state = .stateLent ∧ udpEndpointEqual sender s.borrowerEndpoint = true) := by
  cases hst : s.state with
  | stateError => exact absurd hst hs
  | stateOpen => exact .inl rfl
  | stateLent =>
    rw [Sink.session_lent hst] at hf
    exact .inr ⟨rfl, Bool.not_eq_false _ ▸ hf⟩

/-- A BORROW that the table accepts can be granted. -/
theorem Sink.lends_of_borrowError (hs : s.state ≠ .stateError)
    (he : s.session.borrowError sender frameLength bufferLength = none) :
    s.Lends frameLength.toNat bufferLength.toNat sender := by
  unfold Session.borrowError at he
  split at he
  · cases he
  rename_i hforeign
  split at he
  · cases he
  rename_i hfits
  split at he
  · cases he
  rename_i hslow
  exact ⟨Sink.session_free hs hforeign, Nat.not_lt.mp hfits, by simp only [frameLengthMsMin]; omega⟩

/-- **A BORROW that the table refuses** is answered by that FAIL. -/
theorem sinkHandleBorrow_error (h : SinkInv s) (hs : s.state ≠ .stateError)
    (he : s.session.borrowError sender frameLength bufferLength = some code) (now : UInt32) (id : UInt16) :
    sinkHandleBorrow H now s id frameLength.toNat bufferLength.toNat sender =
      if code = .lentToOtherSource then sinkSendFailTo H s id code sender
      else sinkSendFailTo H s id code sender >>= fun s' =>
        pure (if s'.state = .stateLent then sinkDropBorrow s' else s') := by
  unfold Session.borrowError at he
  split at he
  · rename_i hforeign
    cases he
    obtain ⟨hlent, hne⟩ := Sink.session_foreign hforeign
    rw [if_pos rfl, sinkHandleBorrow_foreign H hlent hne]
  rename_i hforeign
  have hfree := Sink.session_free hs hforeign
  split at he
  · rename_i hfits
    cases he
    rw [if_neg (by decide), sinkHandleBorrow_tooLarge H h hfree hfits]
  rename_i hfits
  split at he
  · rename_i hslow
    cases he
    have hshort : (frameLength.toNat : Int) < frameLengthMsMin := by
      simp only [frameLengthMsMin]
      omega
    rw [if_neg (by decide), sinkHandleBorrow_tooShort H h hfree (Nat.not_lt.mp hfits) hshort]
  · cases he

/-- The frame of an ENQUEUE that the table accepts is taken. -/
theorem Sink.takes_of_enqueueError (he : s.session.enqueueError sender frame = none) :
    s.state = .stateLent ∧ udpEndpointEqual sender s.borrowerEndpoint = true ∧ 3 ≤ frame.length := by
  by_cases hs : s.state = .stateLent
  · rw [Sink.session_lent hs] at he
    simp only [Session.enqueueError] at he
    split at he
    · cases he
    rename_i h3
    split at he
    · cases he
    rename_i hforeign
    exact ⟨hs, Bool.not_eq_false _ ▸ hforeign, Nat.not_lt.mp h3⟩
  · rw [Sink.session, if_neg hs] at he
    cases he

/-- **An ENQUEUE that the table refuses** is answered by that FAIL. -/
theorem sinkHandleEnqueue_error (hs : s.state ≠ .stateError) (he : s.session.enqueueError sender frame = some code)
    (id : UInt16) (idx : Nat) :
    sinkHandleEnqueue H s id idx (MemBlock.ofBytes frame) sender =
      if code = .badMsg then sinkSendFailTo H s id code sender >>= fun s' => pure (sinkDropBorrow s')
      else sinkSendFailTo H s id code sender := by
  cases hst : s.state with
  | stateError => exact absurd hst hs
  | stateOpen =>
    rw [Sink.session_open hst] at he
    cases he
    rw [if_neg (by decide), sinkHandleEnqueue, sinkHandleEnqueueFor, if_neg hs, if_pos hst]
  | stateLent =>
    rw [Sink.session_lent hst] at he
    simp only [Session.enqueueError] at he
    split at he
    · rename_i h3
      cases he
      rw [if_pos rfl, sinkHandleEnqueue,
        sinkHandleEnqueueFor_short H hst (show (MemBlock.ofBytes frame).size < 3 from h3)]
    rename_i h3
    split at he
    · rename_i hforeign
      cases he
      rw [if_neg (by decide), sinkHandleEnqueue,
        sinkHandleEnqueueFor_foreign H hst hforeign (show 3 ≤ (MemBlock.ofBytes frame).size from Nat.not_lt.mp h3)]
    · cases he

end Rows

/-! ## One message -/

section Message

variable {H : Host} {s s' s'' : Sink} {sender : UdpEndpoint}

theorem SameSession.session (h : SameSession s s') : s'.session = s.session := by
  rw [Sink.session, Sink.session, h.state, h.borrower]

theorem numberedFrom_append (id : UInt16) (rs rs' : List Reply) :
    numberedFrom id (rs ++ rs') = numberedFrom id rs ++ numberedFrom (id + UInt16.ofNat rs.length) rs' := by
  induction rs generalizing id with
  | nil =>
    have hzero : id + UInt16.ofNat ([] : List Reply).length = id := UInt16.add_zero id
    rw [hzero]
    rfl
  | cons r rs ih =>
    have hnext : id + 1 + UInt16.ofNat rs.length = id + UInt16.ofNat (r :: rs).length := by
      rw [List.length_cons, Nat.add_comm rs.length 1, UInt16.ofNat_add, UInt16.add_assoc]
      rfl
    rw [List.cons_append, numberedFrom, numberedFrom, ih, hnext]
    rfl

theorem Answered.refl (h : SinkInv s) (hs : s.state ≠ .stateError) : Answered s s sender [] s.session :=
  ⟨h, hs, rfl, (List.append_nil _).symm, (UInt16.add_zero _).symm⟩

theorem Answered.trans {rs rs' : List Reply} {session session' : Session} (h : Answered s s' sender rs session)
    (h' : Answered s' s'' sender rs' session') : Answered s s'' sender (rs ++ rs') session' := by
  refine ⟨h'.inv, h'.alive, h'.session, ?_, ?_⟩
  · rw [h'.socket, h.socket, h.next, numberedFrom_append, List.map_append, List.append_assoc]
  · rw [h'.next, h.next, List.length_append, UInt16.ofNat_add, UInt16.add_assoc]

/-- A FAIL. -/
theorem sinkSendFailTo_answered (H : Host) (h : SinkInv s) (hs : s.state ≠ .stateError) (sender : UdpEndpoint)
    (id : UInt16) (code : ErrorCode) :
    ∃ s', sinkSendFailTo H s id code sender = .ok s' ∧ Answered s s' sender [.fail id code] s.session ∧
      s'.state = s.state := by
  obtain ⟨builder, e, hb, hn⟩ := sinkSendFailTo_spec H h id code sender
  exact ⟨_, e, ⟨h.replied hb _ _, hs, rfl, rfl, hn⟩, rfl⟩

/-- A FAIL that ends the session. -/
theorem Answered.dropBorrow {rs : List Reply} {session : Session} (h : Answered s s' sender rs session) :
    Answered s (sinkDropBorrow s') sender rs .open :=
  ⟨h.inv.dropBorrow, (by intro he; cases he), rfl, h.socket, h.next⟩

theorem Answered.dropIfLent {rs : List Reply} {session : Session} (h : Answered s s' sender rs session) :
    Answered s (if s'.state = .stateLent then sinkDropBorrow s' else s') sender rs .open := by
  split
  · exact h.dropBorrow
  · rename_i hs
    exact ⟨h.inv, h.alive, if_neg hs, h.socket, h.next⟩

/-- **A BORROW** is answered as the table says. -/
theorem sinkHandleBorrow_answer (h : SinkInv s) (hs : s.state ≠ .stateError) (now : UInt32) (id : UInt16)
    (frameLength bufferLength : UInt8) :
    ∃ s', sinkHandleBorrow H now s id frameLength.toNat bufferLength.toNat sender = .ok s' ∧
      Answered s s' sender (s.session.answer sender id (.borrow frameLength bufferLength)).1.toList
        (s.session.answer sender id (.borrow frameLength bufferLength)).2 := by
  have hfl := frameLength.toNat_lt
  cases he : s.session.borrowError sender frameLength bufferLength with
  | none =>
    have hl := Sink.lends_of_borrowError hs he
    obtain ⟨builder, e, hb, hn⟩ := sinkHandleBorrow_lends H h hl now id
    rw [Session.answer_borrow he]
    exact ⟨_, e, h.lent hb now hl.slow (by omega) sender, (by intro he; cases he), rfl, rfl, hn⟩
  | some code =>
    obtain ⟨s', e, ha, -⟩ := sinkSendFailTo_answered H h hs sender id code
    rw [sinkHandleBorrow_error h hs he, Session.answer_borrow_error he, e]
    by_cases hother : code = .lentToOtherSource
    · simp only [if_pos hother]
      exact ⟨s', rfl, ha⟩
    · simp only [if_neg hother]
      exact ⟨_, rfl, ha.dropIfLent⟩

/-- What is stored is not answered. -/
theorem Stored.answered (hs : s.state = .stateLent) {gs : List Bytes} {last : Int} (h : Stored s s' gs last) :
    Answered s s' sender [] s.session := by
  refine ⟨h.inv, ?_, ?_, ?_, ?_⟩
  · rw [h.same]
    simp [hs]
  · rw [h.same]
    rfl
  · rw [h.same]
    exact (List.append_nil _).symm
  · rw [h.same]
    exact (UInt16.add_zero _).symm

/-- **An ENQUEUE** is answered as the table says. -/
theorem sinkHandleEnqueue_answer (h : SinkInv s) (hs : s.state ≠ .stateError) (id : UInt16) (frameIdx : UInt8)
    (frame : Bytes) (hroom : s.HasRoom sender (.enqueue frameIdx frame)) :
    ∃ s', sinkHandleEnqueue H s id frameIdx.toNat (MemBlock.ofBytes frame) sender = .ok s' ∧
      Answered s s' sender (s.session.answer sender id (.enqueue frameIdx frame)).1.toList
        (s.session.answer sender id (.enqueue frameIdx frame)).2 := by
  have hidx := frameIdx.toNat_lt
  cases he : s.session.enqueueError sender frame with
  | some code =>
    obtain ⟨s', e, ha, -⟩ := sinkSendFailTo_answered H h hs sender id code
    rw [sinkHandleEnqueue_error hs he, Session.answer_enqueue_error he, e]
    by_cases hshort : code = .badMsg
    · simp only [if_pos hshort]
      exact ⟨_, rfl, ha.dropBorrow⟩
    · simp only [if_neg hshort]
      exact ⟨s', rfl, ha⟩
  | none =>
    obtain ⟨hst, hb, h3⟩ := Sink.takes_of_enqueueError he
    rw [Session.answer_enqueue he]
    by_cases hfar : 128 < s.distance frameIdx.toNat
    · exact ⟨s, sinkHandleEnqueue_late H hst hb h3 hfar id, Answered.refl h hs⟩
    · obtain ⟨k, hk⟩ := Int.eq_ofNat_of_zero_le (h.distance_nonneg (by omega : frameIdx.toNat ≤ 255))
      have hfits := (hroom hst hb h3).resolve_left hfar
      have hlen := h.length_pending
      rw [h.freeSlots_eq] at hfits
      obtain ⟨s', e, hstored⟩ := sinkHandleEnqueue_append H h hst hb h3 (MemBlock.valid_ofBytes frame) (by omega)
        hk (by omega) (by omega) id
      exact ⟨s', e, hstored.answered hst⟩

/-- **A request** is answered as the table says. -/
theorem sinkHandleRequest_answer (h : SinkInv s) (hs : s.state ≠ .stateError) (now : UInt32) (id : UInt16)
    {r : Request} (hroom : s.HasRoom sender r) :
    ∃ s', sinkHandleRequest H now sender s id r = .ok s' ∧
      Answered s s' sender (s.session.answer sender id r).1.toList (s.session.answer sender id r).2 := by
  cases r with
  | borrow frameLength bufferLength => exact sinkHandleBorrow_answer h hs now id frameLength bufferLength
  | enqueue frameIdx frame => exact sinkHandleEnqueue_answer h hs id frameIdx frame hroom
  | other =>
    obtain ⟨s', e, ha, -⟩ := sinkSendFailTo_answered H h hs sender id .badMsg
    exact ⟨s', e, ha⟩

end Message

/-! ## Datagrams -/

/-- What a complete message asks of the sink, whatever its type; none if it is too short for it. -/
def WireMsg.asked (m : WireMsg) : Option Request :=
  if m.typeByte = 0 then
    match m.payload with
    | frameLength :: bufferLength :: _ => some (.borrow frameLength bufferLength)
    | _ => none
  else if m.typeByte = 2 then
    match m.payload with
    | frameIdx :: _ :: _ :: frame => some (.enqueue frameIdx frame)
    | _ => none
  else some .other

theorem WireMsg.asked_of_request {m : WireMsg} {r : Request} (hr : m.request = some r) : m.asked = some r := by
  unfold WireMsg.request at hr
  unfold WireMsg.asked
  split
  · rw [if_pos ‹_›] at hr
    exact hr
  rw [if_neg ‹_›] at hr
  split
  · rw [if_pos ‹_›] at hr
    exact hr
  · rw [if_neg ‹_›] at hr
    split at hr
    · exact hr
    · cases hr

/-- The messages with what they ask. -/
def requests (ms : List WireMsg) : List (UInt16 × Request) := ms.filterMap fun m => m.asked.map (m.id, ·)

theorem requests_cons {m : WireMsg} {r : Request} (hr : m.asked = some r) (ms : List WireMsg) :
    requests (m :: ms) = (m.id, r) :: requests ms := by
  rw [requests, List.filterMap_cons, hr]
  rfl

/-- There is room for every frame of some messages when its turn comes. -/
def RoomFor (H : Host) (clock : Nat → UInt32) (sender : UdpEndpoint) : Sink → List (Nat × WireMsg) → Prop
  | _, [] => True
  | s, p :: ps => (∀ r ∈ p.2.request, s.HasRoom sender r) ∧
      match sinkHandleWire H clock sender s p with
      | .ok s' => RoomFor H clock sender s' ps
      | .error _ => True

instance RoomFor.decidable (H : Host) (clock : Nat → UInt32) (sender : UdpEndpoint) :
    ∀ (s : Sink) (ps : List (Nat × WireMsg)), Decidable (RoomFor H clock sender s ps)
  | _, [] => inferInstanceAs (Decidable True)
  | s, p :: ps =>
    have : Decidable (match sinkHandleWire H clock sender s p with
        | .ok s' => RoomFor H clock sender s' ps
        | .error _ => True) :=
      match sinkHandleWire H clock sender s p with
      | .ok s' => RoomFor.decidable H clock sender s' ps
      | .error _ => inferInstanceAs (Decidable True)
    inferInstanceAs (Decidable (_ ∧ _))

/-- There is room for every frame of a datagram. -/
def MsgDatagram.RoomFor (H : Host) (s : Sink) (d : MsgDatagram) : Prop :=
  Atolla.RoomFor H d.clock d.sender { s with recvBuf := wire d.messages ++ d.leftover } (withOffsets 0 d.messages)

instance (H : Host) (s : Sink) (d : MsgDatagram) : Decidable (d.RoomFor H s) :=
  RoomFor.decidable H d.clock d.sender _ (withOffsets 0 d.messages)

section Datagram

variable {H : Host} {s : Sink}

/-- **The messages of a datagram** are answered one after the other. -/
theorem foldlM_answers {clock : Nat → UInt32} {sender : UdpEndpoint} :
    ∀ (ps : List (Nat × WireMsg)) {s : Sink}, SinkInv s → s.state ≠ .stateError → (∀ p ∈ ps, p.2.request.isSome) →
      RoomFor H clock sender s ps →
      ∃ s', ps.foldlM (sinkHandleWire H clock sender) s = .ok s' ∧
        Answered s s' sender (s.session.answers sender (requests (ps.map (·.2)))).1
          (s.session.answers sender (requests (ps.map (·.2)))).2 := by
  intro ps
  induction ps with
  | nil =>
    intro s h hs _ _
    exact ⟨s, rfl, Answered.refl h hs⟩
  | cons p ps ih =>
    intro s h hs hr hroom
    obtain ⟨r, hreq⟩ := Option.isSome_iff_exists.mp (hr p List.mem_cons_self)
    obtain ⟨s₁, e₁, ha₁⟩ := sinkHandleRequest_answer (H := H) h hs (clock p.1) p.2.id (hroom.1 r hreq)
    have hwire : sinkHandleWire H clock sender s p = .ok s₁ := by
      rw [sinkHandleWire, hreq]
      exact e₁
    have hrest := hroom.2
    rw [hwire] at hrest
    obtain ⟨s₂, e₂, ha₂⟩ := ih ha₁.inv ha₁.alive (fun q hq => hr q (List.mem_cons_of_mem _ hq)) hrest
    refine ⟨s₂, by rw [List.foldlM_cons, hwire, ok_bind, e₂], ?_⟩
    rw [ha₁.session] at ha₂
    rw [List.map_cons, requests_cons (WireMsg.asked_of_request hreq)]
    exact ha₁.trans ha₂

/-- **Replies**: the sink answers the messages of a datagram as the table says, at most once each, in their order, all
to the sender, under consecutive message ids. -/
theorem replies_correlated (hr : Reachable H s) (hs : s.state = .stateOpen ∨ s.state = .stateLent) {d : MsgDatagram}
    (hc : d.Complete) (hroom : d.RoomFor H s) :
    ∃ s', sinkHandleDatagram H s d = .ok s' ∧
      s'.socket = s.socket ++ (numberedFrom s.builder.nextMsgId
        (s.session.answers d.sender (requests d.messages)).1).map (·, d.sender) ∧
      s'.session = (s.session.answers d.sender (requests d.messages)).2 := by
  have hne : s.state ≠ .stateError := by
    intro he
    rw [he] at hs
    rcases hs with h | h
    · cases h
    · cases h
  have hreq : ∀ p ∈ withOffsets 0 d.messages, p.2.request.isSome := fun p hp => hc p.2 (mem_of_mem_withOffsets hp)
  obtain ⟨s', e, ha⟩ := foldlM_answers (H := H) (withOffsets 0 d.messages)
    ((reachable_inv hr).withRecvBuf (wire d.messages ++ d.leftover)) hne hreq hroom
  rw [map_snd_withOffsets] at ha
  rw [sinkHandleDatagram_eq H hc]
  exact ⟨s', e, ha.socket, ha.session⟩

end Datagram

/-- A BORROW, a frame that is too short, a frame without a session and a LENT. -/
def exampleMixed : MsgDatagram where
  clock := fun _ => 1000
  sender := exampleEndpoint
  messages :=
    [.borrow 7 20 1, .enqueue 8 0 [1, 2] (by decide), .enqueue 9 0 [1, 2, 3] exampleFrame_le, ⟨1, 10, [], nil_le⟩]
  leftover := []

/-- They are answered by a LENT, BAD_MSG, NOT_BORROWED and BAD_MSG. -/
theorem replies_correlated_mixed :
    ∃ s', sinkHandleDatagram exampleHost (freshSink exampleHost 1 true) exampleMixed = .ok s' ∧
      s'.socket = [(encode 1 0 [], exampleEndpoint), (encode 255 1 (failPayload 8 4), exampleEndpoint),
        (encode 255 2 (failPayload 9 0), exampleEndpoint), (encode 255 3 (failPayload 10 4), exampleEndpoint)] := by
  have hfresh : Reachable exampleHost (freshSink exampleHost 1 true) :=
    reachable_fresh exampleHost (by decide) (by decide) true
  have hc : exampleMixed.Complete := by
    show ∀ m ∈ exampleMixed.messages, m.request.isSome
    decide
  have hroom : exampleMixed.RoomFor exampleHost (freshSink exampleHost 1 true) := by decide +kernel
  obtain ⟨s', e, hsocket, -⟩ := replies_correlated hfresh (.inl rfl) hc hroom
  exact ⟨s', e, hsocket⟩

end Atolla

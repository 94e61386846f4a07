import Atolla.Sink.Replies

/-!
# The sink as a receiver of frames

What a sink appends to its ring depends on its session and the index of its last frame, and on nothing else: to a
session every message is an `Arrival`, and the frames that it appends are those of `appendLog` (`Receives.message`). Two
receivers, one of which has forgotten the last index, append the same iff they cannot be told apart by the arrivals of
the session (`appendLog_restart_iff`).
-/

set_option autoImplicit false

namespace Atolla

open Loop

/-! ## What arrivals append -/

/-- What a receiver of frames sees of a session. -/
inductive Arrival where
  /-- The session begins, begins again or ends. -/
  | restart
  /-- An ENQUEUE of the borrower, with the frame that the sink would store for it. -/
  | frame (idx : UInt8) (frame : Bytes)
  /-- Anything else. -/
  | idle

/-- The last index behind an arrival. -/
def Arrival.next (last : Int) : Arrival → Int
  | .restart => -1
  | .frame idx _ => if 128 < boundedDiff last idx.toNat 256 then last else idx.toNat
  | .idle => last

/-- The frames that an arrival appends. -/
def Arrival.appends (last : Int) : Arrival → List Bytes
  | .frame idx g =>
    if 128 < boundedDiff last idx.toNat 256 then [] else List.replicate (boundedDiff last idx.toNat 256).toNat g
  | _ => []

/-- The frames that each of some arrivals appends. -/
def appendLog : Int → List Arrival → List (List Bytes)
  | _, [] => []
  | last, a :: as => a.appends last :: appendLog (a.next last) as

/-- The last index behind some arrivals. -/
def lastAfter (last : Int) (as : List Arrival) : Int := as.foldl Arrival.next last

/-- An ENQUEUE of an index that neither this last index nor `-1` lets through. -/
def Arrival.OutOfReach (last : Int) : Arrival → Prop
  | .frame idx _ =>
    128 ≤ idx.toNat ∧ (boundedDiff last idx.toNat 256 = 0 ∨ 128 < boundedDiff last idx.toNat 256)
  | _ => True

section Arrivals

variable {last : Int}

theorem appendLog_append : ∀ (as bs : List Arrival) (last : Int),
    appendLog last (as ++ bs) = appendLog last as ++ appendLog (lastAfter last as) bs
  | [], _, _ => rfl
  | a :: as, bs, last => by
    rw [List.cons_append, appendLog, appendLog, appendLog_append as bs, List.cons_append]
    rfl

theorem lastAfter_append (last : Int) (as bs : List Arrival) :
    lastAfter last (as ++ bs) = lastAfter (lastAfter last as) bs := List.foldl_append

theorem boundedDiff_neg_one (idx : UInt8) : boundedDiff (-1) idx.toNat 256 = idx.toNat + 1 := by
  unfold boundedDiff
  split <;> omega

/-- Such an ENQUEUE appends nothing and leaves the last index alone. -/
theorem Arrival.OutOfReach.frame (hl : -1 ≤ last ∧ last ≤ 255) {idx : UInt8} {g : Bytes}
    (h : (Arrival.frame idx g).OutOfReach last) :
    (Arrival.frame idx g).appends last = [] ∧ (Arrival.frame idx g).next last = last ∧
      (Arrival.frame idx g).appends (-1) = [] ∧ (Arrival.frame idx g).next (-1) = -1 := by
  obtain ⟨h128, hd⟩ := h
  have hi := idx.toNat_lt
  have hfar : 128 < boundedDiff (-1) idx.toNat 256 := by rw [boundedDiff_neg_one]; omega
  refine ⟨?_, ?_, if_pos hfar, if_pos hfar⟩
  · rcases hd with hzero | hfar'
    · simp [Arrival.appends, hzero]
    · exact if_pos hfar'
  · rcases hd with hzero | hfar'
    · have heq : (idx.toNat : Int) = last := by
        unfold boundedDiff at hzero
        split at hzero <;> omega
      simp [Arrival.next, heq]
    · exact if_pos hfar'

end Arrivals

/-! ## Sessions -/

/-- What happens to a session. -/
inductive Event where
  | message (sender : UdpEndpoint) (m : WireMsg)
  /-- The borrower is silent for too long. -/
  | timeout

namespace Session

/-- The session behind an event. -/
def after : Session → Event → Session
  | session, .message sender m =>
    match m.request with
    | some r => (session.answer sender m.id r).2
    | none => session
  | _, .timeout => .open

/-- What a request is to a session. -/
def requestArrival (session : Session) (frameLen : Nat) (sender : UdpEndpoint) : Request → Arrival
  | .borrow frameLength bufferLength =>
    match session.borrowError sender frameLength bufferLength with
    | some .lentToOtherSource => .idle
    | _ => .restart
  | .enqueue idx frame =>
    match session.enqueueError sender frame with
    | none => .frame idx (Pattern.cycle frameLen frame)
    | some .badMsg => .restart
    | some _ => .idle
  | .other => .idle

/-- What an event is to a session. -/
def arrival (session : Session) (frameLen : Nat) : Event → Arrival
  | .message sender m =>
    match m.request with
    | some r => session.requestArrival frameLen sender r
    | none => .idle
  | .timeout => .restart

/-- What each of some events is to the session at that point. -/
def arrivals (frameLen : Nat) : Session → List Event → List Arrival
  | _, [] => []
  | session, e :: es => session.arrival frameLen e :: (session.after e).arrivals frameLen es

/-- The two are open, or lent to the same endpoint. -/
def Alike : Session → Session → Prop
  | .open, .open => True
  | .lent a, .lent b => udpEndpointEqual a b = true
  | _, _ => False

section Lemmas

variable {session session' : Session} {frameLen : Nat} {sender : UdpEndpoint}

theorem arrivals_append (es es' : List Event) : ∀ session : Session,
    session.arrivals frameLen (es ++ es') =
      session.arrivals frameLen es ++ (es.foldl after session).arrivals frameLen es' := by
  induction es with
  | nil => exact fun _ => rfl
  | cons e es ih =>
    intro session
    rw [List.cons_append, arrivals, arrivals, ih, List.cons_append]
    rfl

theorem Alike.foreign_iff (h : session.Alike session') : session.Foreign sender ↔ session'.Foreign sender := by
  cases session with
  | «open» =>
    cases session' with
    | «open» => exact Iff.rfl
    | lent b => exact h.elim
  | lent a =>
    cases session' with
    | «open» => exact h.elim
    | lent b =>
      show udpEndpointEqual sender a = false ↔ udpEndpointEqual sender b = false
      rw [udpEndpointEqual_congr h]

theorem Alike.borrowError (h : session.Alike session') (frameLength bufferLength : UInt8) :
    session.borrowError sender frameLength bufferLength = session'.borrowError sender frameLength bufferLength := by
  simp only [Session.borrowError, h.foreign_iff]

theorem Alike.enqueueError (h : session.Alike session') (frame : Bytes) :
    session.enqueueError sender frame = session'.enqueueError sender frame := by
  have hforeign : session.Foreign sender ↔ session'.Foreign sender := h.foreign_iff
  cases session with
  | «open» =>
    cases session' with
    | «open» => rfl
    | lent b => exact h.elim
  | lent a =>
    cases session' with
    | «open» => exact h.elim
    | lent b => simp only [Session.enqueueError, hforeign]

theorem arrival_message {m : WireMsg} {r : Request} (hr : m.request = some r) :
    session.arrival frameLen (.message sender m) = session.requestArrival frameLen sender r := by
  simp only [arrival, hr]

theorem after_message {m : WireMsg} {r : Request} (hr : m.request = some r) :
    session.after (.message sender m) = (session.answer sender m.id r).2 := by
  simp only [after, hr]

/-- Sessions that are alike take an event alike. -/
theorem Alike.arrival (h : session.Alike session') (e : Event) :
    session.arrival frameLen e = session'.arrival frameLen e := by
  cases e with
  | timeout => rfl
  | message sender m =>
    cases hr : m.request with
    | none => simp only [Session.arrival, hr]
    | some r =>
      rw [arrival_message hr, arrival_message hr]
      cases r with
      | borrow frameLength bufferLength => simp only [requestArrival, h.borrowError]
      | enqueue idx frame => simp only [requestArrival, h.enqueueError]
      | other => rfl

theorem Alike.after (h : session.Alike session') (e : Event) : (session.after e).Alike (session'.after e) := by
  cases e with
  | timeout => trivial
  | message sender m =>
    cases hr : m.request with
    | none =>
      simp only [Session.after, hr]
      exact h
    | some r =>
      rw [after_message hr, after_message hr]
      cases r with
      | borrow frameLength bufferLength =>
        simp only [answer, h.borrowError]
        split
        · exact udpEndpointEqual_refl sender
        · exact h
        · trivial
      | enqueue idx frame =>
        simp only [answer, h.enqueueError]
        split
        · exact h
        · trivial
        · exact h
      | other => exact h

theorem Alike.arrivals (es : List Event) : ∀ {session session' : Session}, session.Alike session' →
    session.arrivals frameLen es = session'.arrivals frameLen es := by
  induction es with
  | nil => exact fun _ => rfl
  | cons e es ih =>
    intro session session' h
    rw [Session.arrivals, Session.arrivals, h.arrival, ih (h.after e)]

section Rows

variable {frameLength bufferLength : UInt8} {idx : UInt8} {frame : Bytes} {code : ErrorCode}

theorem requestArrival_borrow (he : session.borrowError sender frameLength bufferLength = none) :
    session.requestArrival frameLen sender (.borrow frameLength bufferLength) = .restart := by
  simp only [requestArrival, he]

theorem requestArrival_borrow_error (he : session.borrowError sender frameLength bufferLength = some code) :
    session.requestArrival frameLen sender (.borrow frameLength bufferLength) =
      if code = .lentToOtherSource then .idle else .restart := by
  simp only [requestArrival, he]
  cases code with
  | lentToOtherSource => rfl
  | _ => rfl

theorem requestArrival_enqueue (he : session.enqueueError sender frame = none) :
    session.requestArrival frameLen sender (.enqueue idx frame) = .frame idx (Pattern.cycle frameLen frame) := by
  simp only [requestArrival, he]

theorem requestArrival_enqueue_error (he : session.enqueueError sender frame = some code) :
    session.requestArrival frameLen sender (.enqueue idx frame) = if code = .badMsg then .restart else .idle := by
  simp only [requestArrival, he]
  cases code with
  | badMsg => rfl
  | _ => rfl

/-- Where a frame arrives. -/
theorem requestArrival_frame {r : Request} {g : Bytes} (h : session.requestArrival frameLen sender r = .frame idx g) :
    ∃ frame, r = .enqueue idx frame ∧ session.enqueueError sender frame = none := by
  cases r with
  | other => cases h
  | borrow frameLength bufferLength =>
    simp only [requestArrival] at h
    split at h
    · cases h
    · cases h
  | enqueue idx' frame =>
    simp only [requestArrival] at h
    split at h
    · rename_i hnone
      cases h
      exact ⟨frame, rfl, hnone⟩
    · cases h
    · cases h

end Rows

end Lemmas

end Session

/-! ## The sink as a receiver -/

/-- **A sink receives** like this session, with this last index as long as it is lent. -/
structure Receives (session : Session) (last : Int) (frameLen : Nat) (s : Sink) : Prop where
  inv : SinkInv s
  alive : s.state ≠ .stateError
  session : s.session = session
  idx : s.state = .stateLent → s.lastEnqueuedFrameIdx = last
  frameLen : s.frameLen = frameLen

/-- It still does behind an event, and has stored some frames. -/
structure Received (session : Session) (last : Int) (frameLen : Nat) (e : Event) (s s' : Sink) : Prop where
  receives : Receives (session.after e) ((session.arrival frameLen e).next last) frameLen s'
  enqueued : s'.enqueued = s.enqueued ++ (session.arrival frameLen e).appends last
  pending : s'.pending = s.pending ++ (session.arrival frameLen e).appends last

section Message

variable {H : Host} {s s' : Sink} {session : Session} {last : Int} {frameLen : Nat} {sender : UdpEndpoint}
  {p : Nat × WireMsg}

/-- The last index of a sink that is not lent is any. -/
theorem Receives.own (h : Receives session last frameLen s) : Receives session s.lastEnqueuedFrameIdx frameLen s :=
  ⟨h.inv, h.alive, h.session, fun _ => rfl, h.frameLen⟩

theorem Receives.congr (h : Receives session last frameLen s) (hi : SinkInv s') (hsame : SameSession s s') :
    Receives session last frameLen s' where
  inv := hi
  alive := by rw [hsame.state]; exact h.alive
  session := hsame.session.trans h.session
  idx hs := hsame.idx.trans (h.idx (hsame.state ▸ hs))
  frameLen := hsame.frameLen.trans h.frameLen

/-- A message that does nothing to the session. -/
theorem Receives.idle (h : Receives session last frameLen s) (hi : SinkInv s') (hsame : SameSession s s') {e : Event}
    (hafter : session.after e = session) (harrival : session.arrival frameLen e = .idle) :
    Received session last frameLen e s s' where
  receives := by
    rw [hafter, harrival]
    exact h.congr hi hsame
  enqueued := by rw [harrival, hsame.enqueued]; exact (List.append_nil _).symm
  pending := by rw [harrival, hsame.pending]; exact (List.append_nil _).symm

/-- A message that ends the session, if there is one. -/
theorem Receives.ends (h : Receives session last frameLen s) (hi : SinkInv s') (hsame : SameSession s s') {e : Event}
    (hafter : session.after e = .open) (harrival : session.arrival frameLen e = .restart) :
    Received session last frameLen e s (if s'.state = .stateLent then sinkDropBorrow s' else s') := by
  set s₁ := if s'.state = .stateLent then sinkDropBorrow s' else s' with hs₁
  have hopen : s₁.state ≠ .stateLent ∧ s₁.state ≠ .stateError := by
    rw [hs₁]
    split
    · exact ⟨by simp [sinkDropBorrow], by simp [sinkDropBorrow]⟩
    · rename_i hs
      exact ⟨hs, by rw [hsame.state]; exact h.alive⟩
  have hkeep : s₁.enqueued = s'.enqueued ∧ s₁.pending = s'.pending ∧ s₁.frameLen = s'.frameLen := by
    rw [hs₁]
    split
    · exact ⟨rfl, rfl, rfl⟩
    · exact ⟨rfl, rfl, rfl⟩
  refine ⟨⟨hi.dropIfLent, hopen.2, ?_, fun hs => absurd hs hopen.1, ?_⟩, ?_, ?_⟩
  · rw [hafter, Sink.session, if_neg hopen.1]
  · exact hkeep.2.2.trans (hsame.frameLen.trans h.frameLen)
  · rw [harrival, hkeep.1, hsame.enqueued]
    exact (List.append_nil _).symm
  · rw [harrival, hkeep.2.1, hsame.pending]
    exact (List.append_nil _).symm

/-- **A BORROW** is received. -/
theorem Receives.borrow (h : Receives session last frameLen s) {fl bl : UInt8}
    (hr : p.2.request = some (.borrow fl bl)) (now : UInt32) :
    ∃ s', sinkHandleBorrow H now s p.2.id fl.toNat bl.toNat sender = .ok s' ∧
      Received session last frameLen (.message sender p.2) s s' := by
  have hafter : session.after (.message sender p.2) = _ := Session.after_message hr
  have harrival : session.arrival frameLen (.message sender p.2) = _ := Session.arrival_message hr
  cases he : session.borrowError sender fl bl with
  | some code =>
    obtain ⟨s₁, e, hi, hsame⟩ := sinkSendFailTo_same H h.inv p.2.id code sender
    rw [Session.answer_borrow_error he] at hafter
    rw [Session.requestArrival_borrow_error he] at harrival
    rw [sinkHandleBorrow_error h.inv h.alive (by rw [h.session]; exact he), e]
    by_cases hother : code = .lentToOtherSource
    · rw [if_pos hother] at harrival ⊢
      exact ⟨s₁, rfl, h.idle hi hsame (hafter.trans (if_pos hother)) harrival⟩
    · rw [if_neg hother] at harrival ⊢
      exact ⟨_, rfl, h.ends hi hsame (hafter.trans (if_neg hother)) harrival⟩
  | none =>
    have hl := Sink.lends_of_borrowError h.alive (by rw [h.session]; exact he)
    have hfl := fl.toNat_lt
    obtain ⟨builder, e, hb, -⟩ := sinkHandleBorrow_lends H h.inv hl now p.2.id
    rw [Session.answer_borrow he] at hafter
    rw [Session.requestArrival_borrow he] at harrival
    refine ⟨_, e, ⟨h.inv.lent hb now hl.slow (by omega) sender, (by intro he; cases he), ?_, ?_, h.frameLen⟩, ?_, ?_⟩
    · rw [hafter]
      rfl
    · rw [harrival]
      exact fun _ => rfl
    · rw [harrival]
      exact (List.append_nil _).symm
    · rw [harrival]
      exact (List.append_nil _).symm

/-- **An ENQUEUE of the borrower** is received, if there is room for its frames. -/
theorem Receives.frame (h : Receives session last frameLen s) (hs : s.state = .stateLent)
    (hb : udpEndpointEqual sender s.borrowerEndpoint = true) {idx : UInt8} {frame : Bytes} (h3 : 3 ≤ frame.length)
    {e : Event} (hafter : session.after e = session)
    (harrival : session.arrival frameLen e = .frame idx (Pattern.cycle frameLen frame))
    (hroom : s.pending.length + ((session.arrival frameLen e).appends last).length ≤ pendingFramesCapacity)
    (id : UInt16) :
    ∃ s', sinkHandleEnqueue H s id idx.toNat (MemBlock.ofBytes frame) sender = .ok s' ∧
      Received session last frameLen e s s' := by
  have hi : idx.toNat ≤ 255 := by have := idx.toNat_lt; omega
  have hlast := h.idx hs
  rw [harrival] at hroom
  by_cases hfar : 128 < boundedDiff last idx.toNat 256
  · refine ⟨s, sinkHandleEnqueue_late H hs hb h3 (by rw [Sink.distance, hlast]; exact hfar) id, ⟨?_, ?_, ?_⟩⟩
    · rw [hafter, harrival, Arrival.next, if_pos hfar]
      exact h
    · rw [harrival, Arrival.appends, if_pos hfar, List.append_nil]
    · rw [harrival, Arrival.appends, if_pos hfar, List.append_nil]
  · rw [Arrival.appends, if_neg hfar, List.length_replicate] at hroom
    obtain ⟨k, hk⟩ := Int.eq_ofNat_of_zero_le (h.inv.distance_nonneg hi)
    have hk' : boundedDiff last idx.toNat 256 = k := by
      rw [← hlast]
      exact hk
    have hcopies : (boundedDiff last idx.toNat 256).toNat = k := congrArg Int.toNat hk'
    obtain ⟨s', e', hst⟩ := sinkHandleEnqueue_append H h.inv hs hb (show 3 ≤ (MemBlock.ofBytes frame).size from h3)
      (MemBlock.valid_ofBytes frame) hi hk (by omega) (by omega) id
    have hg : s.patterned (MemBlock.ofBytes frame).bytes = Pattern.cycle frameLen frame := by
      rw [MemBlock.bytes_ofBytes, ← h.frameLen]
      rfl
    rw [hg] at hst
    refine ⟨s', e', ⟨⟨hst.inv, ?_, ?_, fun _ => ?_, ?_⟩, ?_, ?_⟩⟩
    · rw [hst.same]
      exact h.alive
    · rw [hafter, ← h.session, hst.same]
      rfl
    · rw [harrival, Arrival.next, if_neg hfar, hst.same]
    · rw [← h.frameLen, hst.same]
      rfl
    · rw [harrival, Arrival.appends, if_neg hfar, hcopies, hst.same]
    · rw [harrival, Arrival.appends, if_neg hfar, hcopies, hst.pending]

/-- **An ENQUEUE** is received. -/
theorem Receives.enqueue (h : Receives session last frameLen s) {idx : UInt8} {frame : Bytes}
    (hr : p.2.request = some (.enqueue idx frame))
    (hroom : s.pending.length + ((session.arrival frameLen (.message sender p.2)).appends last).length ≤
      pendingFramesCapacity) :
    ∃ s', sinkHandleEnqueue H s p.2.id idx.toNat (MemBlock.ofBytes frame) sender = .ok s' ∧
      Received session last frameLen (.message sender p.2) s s' := by
  have hafter : session.after (.message sender p.2) = _ := Session.after_message hr
  have harrival : session.arrival frameLen (.message sender p.2) = _ := Session.arrival_message hr
  cases he : session.enqueueError sender frame with
  | some code =>
    have he' : s.session.enqueueError sender frame = some code := by rw [h.session]; exact he
    obtain ⟨s₁, e, hi, hsame⟩ := sinkSendFailTo_same H h.inv p.2.id code sender
    rw [Session.answer_enqueue_error he] at hafter
    rw [Session.requestArrival_enqueue_error he] at harrival
    rw [sinkHandleEnqueue_error h.alive he', e]
    by_cases hshort : code = .badMsg
    · rw [if_pos hshort] at harrival ⊢
      have hs : s.state = .stateLent := by
        by_contra hs
        rw [Sink.session, if_neg hs, hshort] at he'
        cases he'
      have hends := h.ends hi hsame (hafter.trans (if_pos hshort)) harrival
      rw [if_pos (hsame.state.trans hs)] at hends
      exact ⟨_, rfl, hends⟩
    · rw [if_neg hshort] at harrival ⊢
      exact ⟨s₁, rfl, h.idle hi hsame (hafter.trans (if_neg hshort)) harrival⟩
  | none =>
    obtain ⟨hs, hb, h3⟩ := Sink.takes_of_enqueueError (by rw [h.session]; exact he)
    rw [Session.answer_enqueue he] at hafter
    rw [Session.requestArrival_enqueue he] at harrival
    exact h.frame hs hb h3 hafter harrival hroom p.2.id

/-- **A message** is received, if there is room for its frames. -/
theorem Receives.message (h : Receives session last frameLen s) (sender : UdpEndpoint) (hc : p.2.request.isSome)
    (hroom : s.pending.length + ((session.arrival frameLen (.message sender p.2)).appends last).length ≤
      pendingFramesCapacity) (clock : Nat → UInt32) :
    ∃ s', sinkHandleWire H clock sender s p = .ok s' ∧ Received session last frameLen (.message sender p.2) s s' := by
  obtain ⟨r, hr⟩ := Option.isSome_iff_exists.mp hc
  rw [sinkHandleWire, hr]
  cases r with
  | borrow fl bl => exact h.borrow hr (clock p.1)
  | enqueue idx frame => exact h.enqueue hr hroom
  | other =>
    obtain ⟨s', e, hi, hsame⟩ := sinkSendFailTo_same H h.inv p.2.id .badMsg sender
    exact ⟨s', e, h.idle hi hsame (Session.after_message hr) (Session.arrival_message hr)⟩

/-- Without room for its copies a frame is never done with. -/
theorem sinkHandleEnqueue_room (h : SinkInv s) (hs : s.state = .stateLent)
    (hb : udpEndpointEqual sender s.borrowerEndpoint = true) {idx : UInt8} {frame : Bytes} (h3 : 3 ≤ frame.length)
    {id : UInt16} (e : sinkHandleEnqueue H s id idx.toNat (MemBlock.ofBytes frame) sender = .ok s') (g : Bytes) :
    s.pending.length + ((Arrival.frame idx g).appends s.lastEnqueuedFrameIdx).length ≤ pendingFramesCapacity := by
  have hi : idx.toNat ≤ 255 := by have := idx.toNat_lt; omega
  have hlen := h.length_pending
  by_cases hfar : 128 < boundedDiff s.lastEnqueuedFrameIdx idx.toNat 256
  · rw [Arrival.appends, if_pos hfar]
    exact hlen
  · rw [Arrival.appends, if_neg hfar, List.length_replicate]
    by_contra hfull
    rw [sinkHandleEnqueue, sinkHandleEnqueueFor_borrower H hs hb (show 3 ≤ (MemBlock.ofBytes frame).size from h3),
      if_neg (show ¬128 < s.distance idx.toNat from hfar), sinkEnqueueLoop_stuck (show 0 < frame.length by omega) hi
        (pendingFramesCapacity - s.pending.length) 128 h (s.reads_of_valid (MemBlock.valid_ofBytes frame)) (by omega)
        (by rw [Sink.distance]; omega)] at e
    cases e

/-- So a message that is done with had room for its frames. -/
theorem Receives.room (h : Receives session last frameLen s) (clock : Nat → UInt32)
    (e : sinkHandleWire H clock sender s p = .ok s') :
    s.pending.length + ((session.arrival frameLen (.message sender p.2)).appends last).length ≤
      pendingFramesCapacity := by
  have hlen := h.inv.length_pending
  cases hr : p.2.request with
  | none =>
    simp only [Session.arrival, hr]
    exact hlen
  | some r =>
    rw [Session.arrival_message hr]
    cases ha : session.requestArrival frameLen sender r with
    | restart => exact hlen
    | idle => exact hlen
    | frame idx g =>
      obtain ⟨frame, rfl, he⟩ := Session.requestArrival_frame ha
      obtain ⟨hs, hb, h3⟩ := Sink.takes_of_enqueueError (by rw [h.session]; exact he)
      rw [sinkHandleWire, hr] at e
      rw [← h.idx hs]
      exact sinkHandleEnqueue_room h.inv hs hb h3 e g

end Message

end Atolla

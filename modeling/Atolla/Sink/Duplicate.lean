import Atolla.Sink.SessionLog
import Atolla.Sink.Timeout

/-!
# A repeated BORROW

A source repeats its BORROW until it sees a LENT, so a copy can reach the sink in the middle of the session. The sink
accepts it like the first one and forgets the index of the last frame. A run appends what its events are to the session
(`LoggedRun.receives`). The copy is a datagram too, so up to the next one the session may end by silence in one of the
runs only; from there on the events are the same with the copy and without it (`log_eventsFrom`). So the copy is seen
exactly when two receivers can be told apart (`repeated_borrow_iff`).
-/

set_option autoImplicit false

namespace Atolla

open Loop

/-! ## Runs -/

/-- The messages of a datagram, and the frames that each of them appends. -/
inductive Handles (H : Host) (clock : Nat → UInt32) (sender : UdpEndpoint) :
    Sink → List (Nat × WireMsg) → List (List Bytes) → Sink → Prop
  | nil {s : Sink} : Handles H clock sender s [] [] s
  | cons {s s₁ s' : Sink} {p : Nat × WireMsg} {ps : List (Nat × WireMsg)} {gs : List Bytes} {log : List (List Bytes)} :
      sinkHandleWire H clock sender s p = .ok s₁ → s₁.enqueued = s.enqueued ++ gs →
      Handles H clock sender s₁ ps log s' → Handles H clock sender s (p :: ps) (gs :: log) s'

/-- A datagram of complete messages that fits the receive buffer. -/
structure Letter where
  sender : UdpEndpoint
  messages : List WireMsg
  ne : messages ≠ []
  complete : ∀ m ∈ messages, m.request.isSome
  fits : (wire messages).length ≤ sinkRecvBufLen

/-- What its messages are to a session. -/
def Letter.events (l : Letter) : List Event := l.messages.map (.message l.sender)

/-- What happens to a sink. -/
inductive Happening where
  /-- An update that finds a datagram. -/
  | letter (clock : SinkClock) (letter : Letter)
  /-- An update that finds none. -/
  | silence (clock : SinkClock)
  | get (now : UInt32) (frame : Bytes)

namespace Happening

/-- The call in which it happens. -/
def call : Happening → SinkCall
  | .letter clock l => .state clock (some ⟨wire l.messages, l.sender⟩)
  | .silence clock => .state clock none
  | .get now frame => .get now frame

/-- What it is to a session whose last datagram was received at that time. -/
def events (heard : UInt32) : Happening → List Event
  | .letter _ l => l.events
  | .silence clock => if dropTimeout < clock.received - heard then [.timeout] else []
  | .get _ _ => []

/-- When the last datagram was received behind it. -/
def heard (heard : UInt32) : Happening → UInt32
  | .letter clock _ => clock.received
  | _ => heard

/-- It finds no datagram, and the last one was received too long ago. -/
def late (heard : UInt32) : Happening → Bool
  | .silence clock => dropTimeout < clock.received - heard
  | _ => false

end Happening

/-- A call that returns, and the frames that each of its messages appends. -/
inductive Happens (H : Host) (s : Sink) : Happening → List (List Bytes) → Sink → Prop
  | letter {clock : SinkClock} {l : Letter} {log : List (List Bytes)} {u s' : Sink} :
      Handles H clock.message l.sender { s with recvBuf := wire l.messages ++ s.recvBuf.drop (wire l.messages).length }
        (withOffsets 0 l.messages) log u →
      sinkCall H s (Happening.letter clock l).call = .ok s' → Happens H s (.letter clock l) log s'
  | silence {clock : SinkClock} {s' : Sink} : sinkCall H s (Happening.silence clock).call = .ok s' →
      Happens H s (.silence clock) [] s'
  | get {now : UInt32} {frame : Bytes} {s' : Sink} : sinkCall H s (Happening.get now frame).call = .ok s' →
      Happens H s (.get now frame) [] s'

/-- **A run**, with the frames that each message appends. -/
inductive LoggedRun (H : Host) : Sink → List Happening → List (List Bytes) → Sink → Prop
  | nil {s : Sink} : LoggedRun H s [] [] s
  | cons {s s₁ s' : Sink} {h : Happening} {hs : List Happening} {gs log : List (List Bytes)} :
      Happens H s h gs s₁ → LoggedRun H s₁ hs log s' → LoggedRun H s (h :: hs) (gs ++ log) s'

/-- **The ring of the sink allows it**: there is room for the frames of the messages. -/
def Sink.Admits (s : Sink) : Happening → Prop
  | .letter _ l =>
    (appendLog s.lastEnqueuedFrameIdx (s.session.arrivals s.frameLen l.events)).flatten.length ≤ s.freeSlots
  | _ => True

/-! ## Events -/

/-- The events of a run, from a time of the last datagram on. -/
def eventsFrom : UInt32 → List Happening → List Event
  | _, [] => []
  | heard, h :: hs => h.events heard ++ eventsFrom (h.heard heard) hs

section Datagram

variable {H : Host} {s s' : Sink} {session : Session} {last : Int} {frameLen : Nat} {sender : UdpEndpoint}
  {clock : Nat → UInt32} {ps : List (Nat × WireMsg)} {log : List (List Bytes)}

/-- **The messages of a datagram** append what their arrivals do. -/
theorem Handles.receives (hh : Handles H clock sender s ps log s') : ∀ {session : Session} {last : Int},
    Receives session last frameLen s → (∀ p ∈ ps, p.2.request.isSome) →
    Receives ((ps.map fun p => Event.message sender p.2).foldl Session.after session)
        (lastAfter last (session.arrivals frameLen (ps.map fun p => .message sender p.2))) frameLen s' ∧
      log = appendLog last (session.arrivals frameLen (ps.map fun p => .message sender p.2)) ∧
      s'.pending = s.pending ++ log.flatten := by
  induction hh with
  | nil => exact fun h _ => ⟨h, rfl, (List.append_nil _).symm⟩
  | @cons s s₁ s' p ps gs log e henq _ ih =>
    intro session last h hc
    obtain ⟨t, et, hrec⟩ := h.message sender (hc p List.mem_cons_self) (h.room clock e) clock
    obtain rfl : t = s₁ := Except.ok.inj (et.symm.trans e)
    obtain ⟨hr, hlog, hpend⟩ := ih hrec.receives fun q hq => hc q (List.mem_cons_of_mem _ hq)
    have hgs : gs = (session.arrival frameLen (.message sender p.2)).appends last :=
      List.append_cancel_left (henq.symm.trans hrec.enqueued)
    refine ⟨hr, ?_, ?_⟩
    · rw [List.map_cons, Session.arrivals, appendLog, ← hgs, ← hlog]
    · rw [hpend, hrec.pending, ← hgs, List.flatten_cons, List.append_assoc]

theorem Handles.foldlM (hh : Handles H clock sender s ps log s') :
    ps.foldlM (sinkHandleWire H clock sender) s = .ok s' := by
  induction hh with
  | nil => rfl
  | cons e _ _ ih => rw [List.foldlM_cons, e, ok_bind, ih]

end Datagram

section Happening

variable {H : Host} {s s' t : Sink} {session : Session} {last : Int} {frameLen : Nat} {h : Happening}
  {log : List (List Bytes)}

theorem map_withOffsets {α : Type} (f : WireMsg → α) (ms : List WireMsg) :
    (withOffsets 0 ms).map (fun p => f p.2) = ms.map f := by
  rw [← Function.comp_def f, ← List.map_map, map_snd_withOffsets]

theorem Receives.withRecvBuf (hr : Receives session last frameLen s) (recvBuf : Bytes) :
    Receives session last frameLen { s with recvBuf := recvBuf } := hr.congr (hr.inv.withRecvBuf recvBuf) ⟨rfl⟩

/-- **A silent borrower** loses the session. -/
theorem sinkUpdate_timeout (hi : SinkInv s) (hs : s.state = .stateLent) {clock : SinkClock}
    (hlate : dropTimeout < clock.received - s.lastRecvTime) :
    ∃ s₁, sinkUpdate H clock s none = .ok (sinkDropBorrow s₁) ∧ SinkInv s₁ ∧ SameSession s s₁ := by
  obtain ⟨s₁, e, hi₁, hsame⟩ := sinkSendFailTo_same H hi 0 .timeout s.borrowerEndpoint
  refine ⟨s₁, ?_, hi₁, hsame⟩
  have hrecv : udpSocketReceiveFrom s.recvBuf sinkRecvBufLen none = none := rfl
  rw [sinkUpdate, sinkReceive, hrecv]
  simp only
  rw [if_pos ⟨hs, hlate⟩, sinkSendFail, e]
  show sinkSend H clock (sinkDropBorrow s₁) = _
  rw [sinkSend, if_neg (by simp [sinkDropBorrow])]

/-- **A call** appends what its messages do. -/
theorem Happens.receives (hh : Happens H s h log s') (hr : Receives session last frameLen s) :
    Receives ((h.events s.lastRecvTime).foldl Session.after session)
        (lastAfter last (session.arrivals frameLen (h.events s.lastRecvTime))) frameLen s' ∧
      log = session.log frameLen last (h.events s.lastRecvTime) ∧ s'.lastRecvTime = h.heard s.lastRecvTime ∧
      s.Admits h := by
  have hself := hr.own
  cases hh with
  | @letter clock l _ u _ hhandles e =>
    have hc : ∀ p ∈ withOffsets 0 l.messages, p.2.request.isSome :=
      fun p hp => l.complete p.2 (mem_of_mem_withOffsets hp)
    have hev : ((withOffsets 0 l.messages).map fun p => Event.message l.sender p.2) = l.events :=
      map_withOffsets (Event.message l.sender) l.messages
    obtain ⟨hr', hlog, -⟩ := hhandles.receives (hr.withRecvBuf _) hc
    obtain ⟨-, hlogSelf, hpend⟩ := hhandles.receives (hself.withRecvBuf _) hc
    rw [hev] at hr' hlog hlogSelf
    have e' : atollaSinkState H clock s (some ⟨wire l.messages, l.sender⟩) = .ok s' := e
    rw [atollaSinkState_complete H hr.alive l.ne l.complete l.fits, hhandles.foldlM, ok_bind] at e'
    have htime : s'.lastRecvTime = clock.received := sinkSend_recvTime (hr'.inv.withRecvTime clock.received) e'
    obtain ⟨s₂, e₂, hi₂, hsame⟩ := sinkSend_same H (hr'.inv.withRecvTime clock.received) clock
    rw [e₂, Except.ok.injEq] at e'
    subst e'
    refine ⟨hr'.congr hi₂ (SameSession.trans ⟨rfl⟩ hsame), ?_, htime, ?_⟩
    · rw [hlog]
      exact (Session.log_messages l.sender l.messages session last).symm
    have hbound := hr'.inv.length_pending
    have hpend' : u.pending = s.pending ++ log.flatten := hpend
    rw [hpend', List.length_append] at hbound
    rw [Sink.Admits, hr.session, hr.frameLen, ← hlogSelf, hr.inv.freeSlots_eq]
    omega
  | @silence clock _ e =>
    have e' : atollaSinkState H clock s none = .ok s' := e
    have e'' : sinkUpdate H clock s none = .ok s' := by rwa [atollaSinkState, if_pos hr.alive] at e'
    have htime : s'.lastRecvTime = s.lastRecvTime := sinkUpdate_silent_recvTime hr.inv rfl e''
    by_cases hlate : dropTimeout < clock.received - s.lastRecvTime
    · have hevents : (Happening.silence clock).events s.lastRecvTime = [.timeout] := if_pos hlate
      rw [hevents]
      refine ⟨?_, rfl, htime, trivial⟩
      by_cases hs : s.state = .stateLent
      · obtain ⟨s₁, e₁, hi₁, hsame⟩ := sinkUpdate_timeout (H := H) hr.inv hs hlate
        rw [e₁, Except.ok.injEq] at e''
        subst e''
        have hends := hr.ends hi₁ hsame (e := .timeout) rfl rfl
        rw [if_pos (hsame.state.trans hs)] at hends
        exact hends.receives
      · -- there is no session to end
        obtain ⟨hi', hsame⟩ := atollaSinkState_silent hr.inv e' fun h => absurd h hs
        have hs' : ¬s'.state = .stateLent := by
          rw [hsame.state]
          exact hs
        refine ⟨hi', ?_, ?_, fun h => absurd h hs', hsame.frameLen.trans hr.frameLen⟩
        · rw [hsame.state]
          exact hr.alive
        · rw [Sink.session, if_neg hs']
          rfl
    · have hevents : (Happening.silence clock).events s.lastRecvTime = [] := if_neg hlate
      obtain ⟨hi', hsame⟩ := atollaSinkState_silent hr.inv e' fun hs => (sinkUpdate_silent hr.inv hs rfl e'').2 hlate
      rw [hevents]
      exact ⟨hr.congr hi' hsame, rfl, htime, trivial⟩
  | @get now frame _ e =>
    have e' : (atollaSinkGet now s frame frame.length >>= fun r => pure r.2.1) = .ok s' := e
    by_cases hs : s.state = .stateLent
    · obtain ⟨s₁, e₁, hshown⟩ := atollaSinkGet_lent hr.inv hs now frame
      rw [e₁, ok_bind] at e'
      cases e'
      refine ⟨⟨hshown.inv, ?_, ?_, fun _ => ?_, ?_⟩, rfl, ?_, trivial⟩
      · rw [hshown.same]; exact hr.alive
      · show s₁.session = session
        rw [← hr.session, hshown.same]; rfl
      · rw [hshown.same]; exact hr.idx hs
      · rw [← hr.frameLen, hshown.same]; rfl
      · rw [hshown.same]; rfl
    · rw [atollaSinkGet, if_neg hs] at e'
      cases e'
      exact ⟨hr, rfl, rfl, trivial⟩

end Happening

section Run

variable {H : Host} {s s' t : Sink} {session : Session} {last : Int} {frameLen : Nat} {hs : List Happening}
  {log : List (List Bytes)}

theorem Happens.call {h : Happening} (hh : Happens H s h log s') : sinkCall H s h.call = .ok s' := by
  cases hh with
  | letter _ e => exact e
  | silence e => exact e
  | get e => exact e

/-- **What a run appends** depends on the sink through its session, its last index and the time of its last datagram
alone. -/
theorem LoggedRun.receives (hrun : LoggedRun H s hs log s') : ∀ {session : Session} {last : Int},
    Receives session last frameLen s →
    Receives ((eventsFrom s.lastRecvTime hs).foldl Session.after session)
        (lastAfter last (session.arrivals frameLen (eventsFrom s.lastRecvTime hs))) frameLen s' ∧
      log = session.log frameLen last (eventsFrom s.lastRecvTime hs) := by
  induction hrun with
  | nil => exact fun h => ⟨h, rfl⟩
  | @cons s s₁ s' h hs gs log hh _ ih =>
    intro session last hr
    obtain ⟨hr₁, hgs, htime, -⟩ := hh.receives hr
    obtain ⟨hr', hlog⟩ := ih hr₁
    rw [htime] at hr' hlog
    rw [eventsFrom, List.foldl_append, Session.arrivals_append, lastAfter_append, Session.log_append, ← hgs, ← hlog]
    exact ⟨hr', rfl⟩

theorem LoggedRun.split {before behind : List Happening} (hrun : LoggedRun H s (before ++ behind) log s') :
    ∃ log₁ u log₂, LoggedRun H s before log₁ u ∧ LoggedRun H u behind log₂ s' := by
  induction before generalizing s log with
  | nil => exact ⟨[], s, log, .nil, hrun⟩
  | cons h before ih =>
    cases hrun with
    | cons hh hrest =>
      obtain ⟨log₁, u, log₂, hbefore, hbehind⟩ := ih hrest
      exact ⟨_, u, log₂, .cons hh hbefore, hbehind⟩

theorem LoggedRun.unique {log' : List (List Bytes)} (hrun : LoggedRun H s hs log s') (hrun' : LoggedRun H s hs log' t) :
    s' = t := by
  induction hrun generalizing log' with
  | nil =>
    cases hrun' with
    | nil => rfl
  | cons hh _ ih =>
    cases hrun' with
    | cons hh' hrest =>
      have heq := hh.call.symm.trans hh'.call
      rw [Except.ok.injEq] at heq
      subst heq
      exact ih hrest

end Run

end Atolla

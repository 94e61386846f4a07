import Atolla.Source.StateMachine

/-!
# When a put transmits

`atolla_source_put` updates the source three times and looks at the state behind the second update only. What an update
makes of the connection is what its messages do, one after the other (`Connection.hear`), and then a look at the age of
the last LENT. The third update, that of `atolla_source_put_ready_timeout`, may find that the connection is over, and
the frame is sent all the same. A source that waits may hear a LENT and lose the connection again in the same put, or
send a BORROW before it fails. `PutEnv.Breaks` collects these cases, and `put_transmits_iff` says that there are no
others.
-/

set_option autoImplicit false

namespace Atolla

open Loop Relation

/-! ## What an update hears -/

/-- The types of the messages at an iterator, with their offsets. -/
def msgTypes (H : Host) : Nat → MsgIter → List (Nat × MsgType)
  | 0, _ => []
  | n + 1, iter =>
    if msgIterHasMsg iter then
      match msgIterType iter, msgIterNext H iter with
      | .ok type, .ok next => (iter.msgBufStart, type) :: msgTypes H n next
      | _, _ => []
    else []

namespace SourceEnv

/-- What `udp_socket_receive` does in an update. -/
def receives (env : SourceEnv) (recvBuf : Bytes) : Option (Bytes × Nat × UdpEndpoint) :=
  udpSocketReceiveFrom recvBuf Source.recvBufLen (env.datagram.map fun bytes => ⟨bytes, ⟨[], 0⟩⟩)

/-- What it leaves in the receive buffer. -/
def buffer (env : SourceEnv) (recvBuf : Bytes) : Bytes :=
  match env.receives recvBuf with
  | some (recvBuf', _, _) => recvBuf'
  | none => recvBuf

/-- The messages an update finds in the datagram. -/
def heard (H : Host) (env : SourceEnv) (recvBuf : Bytes) : List (Nat × MsgType) :=
  match env.receives recvBuf with
  | some (recvBuf', receivedLen, _) => msgTypes H receivedLen (msgIterMake recvBuf' receivedLen)
  | none => []

end SourceEnv

/-- The messages an update hears. -/
def SourceEnv.Hears (H : Host) (env : SourceEnv) (s : Source) (heard : List (Nat × MsgType)) : Prop :=
  match udpSocketReceiveFrom s.recvBuf Source.recvBufLen (env.datagram.map fun bytes => ⟨bytes, ⟨[], 0⟩⟩) with
  | some (recvBuf, receivedLen, _) => MsgWalk H (msgIterMake recvBuf receivedLen) heard
  | none => heard = []

/-- When the last LENT was received, behind some messages. -/
def lastLent (clock : Nat → UInt32) (time : Option UInt32) (heard : List (Nat × MsgType)) : Option UInt32 :=
  heard.foldl (fun _ p => some (clock p.1)) time

/-- **The connection is over** behind some messages of an update: one is another message than LENT, or the last LENT is
too old. -/
def SourceEnv.Over (env : SourceEnv) (disconnectTimeoutMs : UInt32) (time : Option UInt32)
    (heard : List (Nat × MsgType)) : Prop :=
  (∃ p ∈ heard, p.2 ≠ .lent) ∨ ∃ t ∈ lastLent env.message time heard, disconnectTimeoutMs ≤ env.ensure - t

/-- **The connection is over**: the update of an open source hears another message than LENT, or the last LENT is too
old. -/
def SourceEnv.Ends (H : Host) (env : SourceEnv) (s : Source) : Prop :=
  ∃ heard, env.Hears H s heard ∧ ((∃ p ∈ heard, p.2 ≠ .lent) ∨
    ∃ time ∈ lastLent env.message s.lastRecvLentTime heard, s.disconnectTimeoutMs ≤ env.ensure - time)

theorem SourceEnv.Hears.unique {H : Host} {env : SourceEnv} {s : Source} {l l' : List (Nat × MsgType)}
    (h : env.Hears H s l) (h' : env.Hears H s l') : l = l' := by
  unfold SourceEnv.Hears at h h'
  split at h
  · rename_i hrecv
    rw [hrecv] at h'
    exact h.unique h'
  · rename_i hrecv
    rw [hrecv] at h'
    rw [h, h']

/-! ## The connection -/

/-- What messages change of a source. -/
structure Connection where
  state : AtollaSourceState
  lastRecvLentTime : Option UInt32
  lastFrameTime : UInt32

def Source.connection (s : Source) : Connection := ⟨s.state, s.lastRecvLentTime, s.lastFrameTime⟩

/-- The connection behind a message. -/
def Connection.hear (clock : Nat → UInt32) (c : Connection) (p : Nat × MsgType) : Connection :=
  if p.2 = .lent then
    match c.state with
    | .stateWaiting => ⟨.stateOpen, some (clock p.1), Source.NULL_TIME⟩
    | .stateOpen => { c with lastRecvLentTime := some (clock p.1) }
    | .stateError => c
  else { c with state := .stateError }

namespace Connection

variable {clock : Nat → UInt32} {c : Connection} {o : Nat}

theorem hear_lent_open (hc : c.state = .stateOpen) :
    c.hear clock (o, .lent) = { c with lastRecvLentTime := some (clock o) } := by
  simp [hear, hc]

theorem hear_lent_waiting (hc : c.state = .stateWaiting) :
    c.hear clock (o, .lent) = ⟨.stateOpen, some (clock o), Source.NULL_TIME⟩ := by
  simp [hear, hc]

theorem hear_other {p : Nat × MsgType} (hp : p.2 ≠ .lent) : c.hear clock p = { c with state := .stateError } :=
  if_neg hp

/-- Behind an error nothing changes. -/
theorem foldl_hear_error (heard : List (Nat × MsgType)) (hc : c.state = .stateError) :
    heard.foldl (hear clock) c = c := by
  induction heard with
  | nil => rfl
  | cons p heard ih =>
    have hsame : c.hear clock p = c := by
      obtain ⟨state, time, frameTime⟩ := c
      obtain rfl : state = .stateError := hc
      unfold hear
      split
      · rfl
      · rfl
    rw [List.foldl_cons, hsame]
    exact ih

/-- An open connection stays open as long as it hears LENTs, and another message ends it. -/
theorem foldl_hear_open (clock : Nat → UInt32) (heard : List (Nat × MsgType)) {c : Connection}
    (hc : c.state = .stateOpen) :
    (heard.foldl (hear clock) c).lastFrameTime = c.lastFrameTime ∧
      ((∃ p ∈ heard, p.2 ≠ .lent) → (heard.foldl (hear clock) c).state = .stateError) ∧
      ((∀ p ∈ heard, p.2 = .lent) → (heard.foldl (hear clock) c).state = .stateOpen ∧
        (heard.foldl (hear clock) c).lastRecvLentTime = lastLent clock c.lastRecvLentTime heard) := by
  induction heard generalizing c with
  | nil => exact ⟨rfl, by simp, fun _ => ⟨hc, rfl⟩⟩
  | cons p heard ih =>
    obtain ⟨o, type⟩ := p
    rw [List.foldl_cons]
    by_cases htype : type = .lent
    · subst htype
      rw [hear_lent_open hc]
      obtain ⟨htime, herror, hlent⟩ := ih (c := { c with lastRecvLentTime := some (clock o) }) hc
      refine ⟨htime, fun hex => ?_, fun hall => hlent fun q hq => hall q (List.mem_cons_of_mem _ hq)⟩
      obtain ⟨q, hq, hne⟩ := hex
      rcases List.mem_cons.mp hq with rfl | hq
      · exact absurd rfl hne
      · exact herror ⟨q, hq, hne⟩
    · rw [hear_other htype, foldl_hear_error heard rfl]
      exact ⟨rfl, fun _ => rfl, fun hall => absurd (hall _ List.mem_cons_self) htype⟩

end Connection

/-! ## Updates -/

/-- A source `s` becomes `s'` by hearing some messages. -/
structure Heard (clock : Nat → UInt32) (s s' : Source) (heard : List (Nat × MsgType)) : Prop where
  connection : s'.connection = heard.foldl (Connection.hear clock) s.connection
  same : s' = { s with
    state := s'.state
    lastRecvLentTime := s'.lastRecvLentTime
    lastFrameTime := s'.lastFrameTime
    errorMsg := s'.errorMsg }

section Update

variable {H : Host} {s s' : Source} {env : SourceEnv}

/-- **One message.** -/
theorem sourceHandleMsg_heard {clock : Nat → UInt32} {iter : MsgIter}
    (e : sourceHandleMsg H (clock iter.msgBufStart) s iter = .ok s') :
    ∃ type, msgIterType iter = .ok type ∧ Heard clock s s' [(iter.msgBufStart, type)] := by
  unfold sourceHandleMsg at e
  obtain ⟨type, htype, e⟩ := bind_eq_ok.mp e
  refine ⟨type, htype, ?_⟩
  have hfail : ∀ errorMsg, type ≠ .lent → Heard clock s (sourceFail s errorMsg) [(iter.msgBufStart, type)] :=
    fun errorMsg hne => ⟨(Connection.hear_other (c := s.connection) hne).symm, rfl⟩
  cases type with
  | lent =>
    cases e
    unfold sourceLent
    split
    · rename_i hs
      exact ⟨(Connection.hear_lent_waiting (c := s.connection) hs).symm, rfl⟩
    · rename_i hs
      exact ⟨(Connection.hear_lent_open (c := s.connection) hs).symm, rfl⟩
    · rename_i hs
      exact ⟨(Connection.foldl_hear_error [(iter.msgBufStart, .lent)] (c := s.connection) hs).symm, rfl⟩
  | fail =>
    obtain ⟨code, -, e⟩ := bind_eq_ok.mp e
    cases e
    exact hfail _ (by simp)
  | borrow =>
    cases e
    exact hfail _ (by simp)
  | enqueue =>
    cases e
    exact hfail _ (by simp)

theorem Heard.cons {clock : Nat → UInt32} {s₁ : Source} {p : Nat × MsgType} {heard : List (Nat × MsgType)}
    (h : Heard clock s s₁ [p]) (h' : Heard clock s₁ s' heard) : Heard clock s s' (p :: heard) := by
  refine ⟨?_, ?_⟩
  · rw [h'.connection, h.connection]
    rfl
  · have hsame := h'.same
    rw [h.same] at hsame
    exact hsame

/-- **The loop over the messages.** -/
theorem msgLoop_heard {clock : Nat → UInt32} {n : Nat} {s : Source} {iter iter' : MsgIter}
    (e : msgLoop H (fun s iter => sourceHandleMsg H (clock iter.msgBufStart) s iter) n s iter = .ok (s', iter')) :
    MsgWalk H iter (msgTypes H n iter) ∧ Heard clock s s' (msgTypes H n iter) := by
  induction n generalizing s iter with
  | zero =>
    rcases msgLoop_cases e with ⟨hm, rfl⟩ | ⟨k, _, _, hk, -⟩
    · exact ⟨.done hm, rfl, rfl⟩
    · omega
  | succ n ih =>
    rcases msgLoop_cases e with ⟨hm, rfl⟩ | ⟨k, s₁, iter₁, hk, hm, hbody, hnext, hrest⟩
    · rw [msgTypes, if_neg (by simp [hm])]
      exact ⟨.done hm, rfl, rfl⟩
    · obtain rfl : n = k := by omega
      obtain ⟨type, htype, hheard⟩ := sourceHandleMsg_heard hbody
      obtain ⟨hwalk, hheard'⟩ := ih hrest
      rw [msgTypes, if_pos hm, htype, hnext]
      exact ⟨.step hm htype hnext hwalk, hheard.cons hheard'⟩

/-- The datagram is in the buffer, and its messages are heard. -/
theorem sourceReceive_heard (e : sourceReceive H env s = .ok s') :
    env.Hears H s (env.heard H s.recvBuf) ∧
      Heard env.message { s with recvBuf := env.buffer s.recvBuf } s' (env.heard H s.recvBuf) := by
  rw [sourceReceive] at e
  unfold SourceEnv.Hears SourceEnv.heard SourceEnv.buffer SourceEnv.receives
  cases hrecv : udpSocketReceiveFrom s.recvBuf Source.recvBufLen (env.datagram.map fun bytes => ⟨bytes, ⟨[], 0⟩⟩) with
  | none =>
    rw [hrecv] at e
    cases e
    exact ⟨rfl, rfl, rfl⟩
  | some r =>
    obtain ⟨recvBuf, receivedLen, sender⟩ := r
    rw [hrecv] at e
    obtain ⟨⟨s₁, iter⟩, hloop, h⟩ := bind_eq_ok.mp e
    cases h
    exact msgLoop_heard (s := { s with recvBuf := recvBuf }) hloop

/-- **An update** is its messages, and then the look at the clock that the state behind them asks for. -/
theorem sourceUpdate_heard (e : sourceUpdate H env s = .ok s') :
    env.Hears H s (env.heard H s.recvBuf) ∧ ∃ s₁,
      Heard env.message { s with recvBuf := env.buffer s.recvBuf } s₁ (env.heard H s.recvBuf) ∧
      ((s₁.state = .stateError ∧ s' = s₁) ∨
        (s₁.state = .stateOpen ∧ ∃ time ∈ s₁.lastRecvLentTime,
          s' = if s.disconnectTimeoutMs ≤ env.ensure - time then sourceFail s₁ "The connection to the sink was lost."
            else s₁) ∨
        (s₁.state = .stateWaiting ∧ sourceManageBorrowPacketLoss H env s₁ = .ok s')) := by
  unfold sourceUpdate at e
  obtain ⟨s₁, h₁, e⟩ := bind_eq_ok.mp e
  obtain ⟨s₂, h₂, e⟩ := bind_eq_ok.mp e
  obtain ⟨hhears, hheard⟩ := sourceReceive_heard h₁
  refine ⟨hhears, s₁, hheard, ?_⟩
  cases hs₁ : s₁.state with
  | stateError =>
    rw [sourceManageBorrowPacketLoss, if_neg (by simp [hs₁])] at h₂
    cases h₂
    rw [sourceEnsureLentResent, if_neg (by simp [hs₁])] at e
    cases e
    exact .inl ⟨rfl, rfl⟩
  | stateOpen =>
    rw [sourceManageBorrowPacketLoss, if_neg (by simp [hs₁])] at h₂
    cases h₂
    rw [sourceEnsureLentResent, if_pos hs₁] at e
    obtain ⟨time, htime, e⟩ := bind_eq_ok.mp e
    have hlast : s₁.lastRecvLentTime = some time := by
      cases hf : s₁.lastRecvLentTime with
      | none => rw [hf] at htime; cases htime
      | some t => rw [hf] at htime; cases htime; rfl
    have hdisc : s₁.disconnectTimeoutMs = s.disconnectTimeoutMs := by rw [hheard.same]
    refine .inr (.inl ⟨rfl, time, hlast, ?_⟩)
    rw [hdisc] at e
    split at e
    · rename_i hold
      cases e
      rw [if_pos hold]
    · rename_i hold
      cases e
      rw [if_neg hold]
  | stateWaiting =>
    refine .inr (.inr ⟨rfl, ?_⟩)
    -- a source that waits is waiting or failed behind the first look, and the second one is for an open source
    have hs₂ : s₂.state ≠ .stateOpen := by
      rw [sourceManageBorrowPacketLoss, if_pos hs₁] at h₂
      split at h₂
      · cases h₂
        simp [sourceFail]
      · split at h₂
        · rw [sourceSendBorrow] at h₂
          obtain ⟨builder, -, h₂⟩ := bind_eq_ok.mp h₂
          obtain ⟨bytes, -, h₂⟩ := bind_eq_ok.mp h₂
          cases h₂
          unfold sourceSend
          split
          · simp [hs₁]
          · simp [hs₁]
        · cases h₂
          simp [hs₁]
    rw [sourceEnsureLentResent, if_neg hs₂] at e
    cases e
    exact h₂

/-- The update of a connection that is open, or opened by the first of its messages: it is over, or stays open. -/
structure Decides (env : SourceEnv) (s s' : Source) (heard : List (Nat × MsgType)) : Prop where
  ended : s'.state = .stateError ↔ env.Over s.disconnectTimeoutMs s.lastRecvLentTime heard
  opened : s'.state ≠ .stateError →
    s'.state = .stateOpen ∧ s'.lastRecvLentTime = lastLent env.message s.lastRecvLentTime heard
  buffer : s'.recvBuf = env.buffer s.recvBuf
  timeout : s'.disconnectTimeoutMs = s.disconnectTimeoutMs

theorem Decides.left {heard : List (Nat × MsgType)} (h : Decides env s s' heard) : s'.state ≠ .stateWaiting := by
  intro hw
  have ho := (h.opened (by simp [hw])).1
  rw [hw] at ho
  cases ho

/-- Behind the messages of an open connection. -/
theorem decides_of_open {c : Connection} (hc : c.state = .stateOpen) (hlast : c.lastRecvLentTime = s.lastRecvLentTime)
    {heard : List (Nat × MsgType)} {s₁ : Source} (hconn : s₁.connection = heard.foldl (Connection.hear env.message) c)
    (hsock : s₁.sock = s.sock) (hbuf : s₁.recvBuf = env.buffer s.recvBuf)
    (hdisc : s₁.disconnectTimeoutMs = s.disconnectTimeoutMs)
    (hcase : (s₁.state = .stateError ∧ s' = s₁) ∨
      (s₁.state = .stateOpen ∧ ∃ time ∈ s₁.lastRecvLentTime,
        s' = if s.disconnectTimeoutMs ≤ env.ensure - time then sourceFail s₁ "The connection to the sink was lost."
          else s₁) ∨
      (s₁.state = .stateWaiting ∧ sourceManageBorrowPacketLoss H env s₁ = .ok s')) :
    Decides env s s' heard ∧ s'.lastFrameTime = c.lastFrameTime ∧ s'.sock = s.sock := by
  obtain ⟨hframe, herror, hlent⟩ := Connection.foldl_hear_open env.message heard hc
  rw [← hconn] at hframe herror hlent
  rw [hlast] at hlent
  by_cases hall : ∀ p ∈ heard, p.2 = .lent
  · have hs₁ : s₁.state = .stateOpen := (hlent hall).1
    have htime₁ : s₁.lastRecvLentTime = lastLent env.message s.lastRecvLentTime heard := (hlent hall).2
    rcases hcase with ⟨hs, -⟩ | ⟨-, time, htime, rfl⟩ | ⟨hs, -⟩
    · rw [hs₁] at hs
      cases hs
    · have hlast' : lastLent env.message s.lastRecvLentTime heard = some time := htime₁.symm.trans htime
      split
      · rename_i hold
        have hover : env.Over s.disconnectTimeoutMs s.lastRecvLentTime heard := .inr ⟨time, hlast', hold⟩
        exact ⟨⟨⟨fun _ => hover, fun _ => rfl⟩, fun hne => absurd rfl hne, hbuf, hdisc⟩, hframe, hsock⟩
      · rename_i hold
        have hnot : ¬env.Over s.disconnectTimeoutMs s.lastRecvLentTime heard := by
          rintro (⟨p, hp, hne⟩ | ⟨t, ht, hle⟩)
          · exact hne (hall p hp)
          · rw [hlast', Option.mem_some_iff] at ht
            exact hold (ht ▸ hle)
        refine ⟨⟨⟨fun herr => ?_, fun hover => absurd hover hnot⟩, fun _ => ⟨hs₁, htime₁⟩, hbuf, hdisc⟩, hframe, hsock⟩
        rw [hs₁] at herr
        cases herr
    · rw [hs₁] at hs
      cases hs
  · replace hall : ∃ p ∈ heard, p.2 ≠ .lent := by simpa using hall
    have hs₁ : s₁.state = .stateError := herror hall
    rcases hcase with ⟨-, rfl⟩ | ⟨hs, -⟩ | ⟨hs, -⟩
    · exact ⟨⟨⟨fun _ => .inl hall, fun _ => hs₁⟩, fun hne => absurd hs₁ hne, hbuf, hdisc⟩, hframe, hsock⟩
    · rw [hs₁] at hs
      cases hs
    · rw [hs₁] at hs
      cases hs

/-- **An update of an open source.** -/
theorem sourceUpdate_open (ho : s.state = .stateOpen) (e : sourceUpdate H env s = .ok s') :
    Decides env s s' (env.heard H s.recvBuf) := by
  obtain ⟨-, s₁, hheard, hcase⟩ := sourceUpdate_heard e
  have hsock : s₁.sock = s.sock := by rw [hheard.same]
  have hbuf : s₁.recvBuf = env.buffer s.recvBuf := by rw [hheard.same]
  have hdisc : s₁.disconnectTimeoutMs = s.disconnectTimeoutMs := by rw [hheard.same]
  exact (decides_of_open (c := ⟨s.state, s.lastRecvLentTime, s.lastFrameTime⟩) ho rfl hheard.connection hsock hbuf
    hdisc hcase).1

/-- **An update of an open source** fails it iff the connection is over. -/
theorem sourceUpdate_fails_iff (hs : s.state = .stateOpen) (e : sourceUpdate H env s = .ok s') :
    s'.state = .stateError ↔ env.Ends H s := by
  have hhears := (sourceUpdate_heard e).1
  rw [(sourceUpdate_open hs e).ended]
  constructor
  · exact fun hover => ⟨_, hhears, hover⟩
  · rintro ⟨heard, hhears', hover⟩
    rw [hhears.unique hhears']
    exact hover

/-- **An update of a waiting source** whose first message is a LENT. -/
theorem sourceUpdate_lentFirst (hw : s.state = .stateWaiting) {o : Nat} {rest : List (Nat × MsgType)}
    (hl : env.heard H s.recvBuf = (o, .lent) :: rest) (e : sourceUpdate H env s = .ok s') :
    Decides env s s' (env.heard H s.recvBuf) ∧ s'.lastFrameTime = Source.NULL_TIME ∧ s'.sock = s.sock := by
  obtain ⟨-, s₁, hheard, hcase⟩ := sourceUpdate_heard e
  have hsock : s₁.sock = s.sock := by rw [hheard.same]
  have hbuf : s₁.recvBuf = env.buffer s.recvBuf := by rw [hheard.same]
  have hdisc : s₁.disconnectTimeoutMs = s.disconnectTimeoutMs := by rw [hheard.same]
  refine decides_of_open (c := ⟨.stateOpen, s.lastRecvLentTime, Source.NULL_TIME⟩) rfl rfl ?_ hsock hbuf hdisc hcase
  -- the LENT sets all that it finds
  rw [hheard.connection, hl, List.foldl_cons, List.foldl_cons, Connection.hear_lent_waiting hw,
    Connection.hear_lent_open rfl]

/-- One whose first message is another. -/
theorem sourceUpdate_refused {p : Nat × MsgType} {rest : List (Nat × MsgType)}
    (hl : env.heard H s.recvBuf = p :: rest) (hp : p.2 ≠ .lent) (e : sourceUpdate H env s = .ok s') :
    s'.state = .stateError ∧ s'.lastFrameTime = s.lastFrameTime ∧ s'.sock = s.sock := by
  obtain ⟨-, s₁, hheard, hcase⟩ := sourceUpdate_heard e
  have hconn := hheard.connection
  rw [hl, List.foldl_cons, Connection.hear_other hp, Connection.foldl_hear_error rest rfl] at hconn
  have hs₁ : s₁.state = .stateError := congrArg Connection.state hconn
  have htime : s₁.lastFrameTime = s.lastFrameTime := congrArg Connection.lastFrameTime hconn
  have hsock : s₁.sock = s.sock := by rw [hheard.same]
  rcases hcase with ⟨-, rfl⟩ | ⟨hs, -⟩ | ⟨hs, -⟩
  · exact ⟨hs₁, htime, hsock⟩
  · rw [hs₁] at hs
    cases hs
  · rw [hs₁] at hs
    cases hs

/-- A waiting source gives up. -/
def SourceEnv.GivesUp (env : SourceEnv) (s : Source) : Prop := s.disconnectTimeoutMs < env.manage - s.firstBorrowTime

/-- It sends its BORROW again. -/
def SourceEnv.Resends (env : SourceEnv) (s : Source) : Prop :=
  s.retryTimeoutMs < env.manage - s.lastBorrowTime ∧ env.borrowSent = true

/-- **An update of a waiting source** without a message. -/
theorem sourceUpdate_waiting (h : s.builder.msgBuf.Owned) (hw : s.state = .stateWaiting)
    (hl : env.heard H s.recvBuf = []) (e : sourceUpdate H env s = .ok s') :
    s'.lastFrameTime = s.lastFrameTime ∧ (env.GivesUp s → s'.state = .stateError ∧ s'.sock = s.sock) ∧
      (¬env.GivesUp s → s'.state = .stateWaiting ∧ s'.recvBuf = env.buffer s.recvBuf ∧
        s'.disconnectTimeoutMs = s.disconnectTimeoutMs ∧ s'.firstBorrowTime = s.firstBorrowTime ∧
        s'.lastRecvLentTime = s.lastRecvLentTime ∧ (s'.sock = s.sock ↔ ¬env.Resends s)) := by
  obtain ⟨-, s₁, hheard, hcase⟩ := sourceUpdate_heard e
  have hconn := hheard.connection
  rw [hl, List.foldl_nil] at hconn
  have hs₁ : s₁.state = .stateWaiting := (congrArg Connection.state hconn).trans hw
  have htime : s₁.lastFrameTime = s.lastFrameTime := congrArg Connection.lastFrameTime hconn
  have hlast : s₁.lastRecvLentTime = s.lastRecvLentTime := congrArg Connection.lastRecvLentTime hconn
  have hsock : s₁.sock = s.sock := by rw [hheard.same]
  have hbuf : s₁.recvBuf = env.buffer s.recvBuf := by rw [hheard.same]
  have hdisc : s₁.disconnectTimeoutMs = s.disconnectTimeoutMs := by rw [hheard.same]
  have hretry : s₁.retryTimeoutMs = s.retryTimeoutMs := by rw [hheard.same]
  have hfirst : s₁.firstBorrowTime = s.firstBorrowTime := by rw [hheard.same]
  have hborrow : s₁.lastBorrowTime = s.lastBorrowTime := by rw [hheard.same]
  have hb : s₁.builder.msgBuf.Owned := by
    rw [hheard.same]
    exact h
  rcases hcase with ⟨hs, -⟩ | ⟨hs, -⟩ | ⟨-, hmanage⟩
  · rw [hs₁] at hs
    cases hs
  · rw [hs₁] at hs
    cases hs
  rw [sourceManageBorrowPacketLoss, if_pos hs₁, hdisc, hfirst, hretry, hborrow] at hmanage
  split at hmanage
  · rename_i hgive
    cases hmanage
    exact ⟨htime, fun _ => ⟨rfl, hsock⟩, fun hno => absurd hgive hno⟩
  rename_i hgive
  split at hmanage
  · rename_i hre
    obtain ⟨builder, e', -⟩ := sourceSendBorrow_spec H hb env.borrow env.borrowSent
    rw [e', Except.ok.injEq] at hmanage
    subst hmanage
    refine ⟨htime, fun hg => absurd hg hgive, fun _ => ⟨hs₁, hbuf, hdisc, hfirst, hlast, ?_⟩⟩
    show s₁.sock ++ _ = s.sock ↔ _
    rw [hsock]
    cases hsent : env.borrowSent with
    | false => simp [SourceEnv.Resends, hsent]
    | true => simp [SourceEnv.Resends, hsent, hre]
  · rename_i hre
    cases hmanage
    exact ⟨htime, fun hg => absurd hg hgive,
      fun _ => ⟨hs₁, hbuf, hdisc, hfirst, hlast, fun _ hres => hre hres.1, fun _ => hsock⟩⟩

/-- A source that waits behind an update waited before it. -/
theorem sourceUpdate_stays_waiting (h : s.builder.msgBuf.Owned) (e : sourceUpdate H env s = .ok s')
    (hw' : s'.state = .stateWaiting) : s.state = .stateWaiting ∧ s'.lastFrameTime = s.lastFrameTime := by
  have hw : s.state = .stateWaiting := by
    by_contra hne
    exact (sourceUpdate_updated H h e).left hne hw'
  refine ⟨hw, ?_⟩
  cases hl : env.heard H s.recvBuf with
  | nil => exact (sourceUpdate_waiting h hw hl e).1
  | cons p rest =>
    obtain ⟨o, type⟩ := p
    by_cases htype : type = .lent
    · subst htype
      have hopen := ((sourceUpdate_lentFirst hw hl e).1.opened (by simp [hw'])).1
      rw [hw'] at hopen
      cases hopen
    · have herror := (sourceUpdate_refused hl htype e).1
      rw [hw'] at herror
      cases herror

end Update

/-! ## Waiting sources -/

section Waiting

variable {H : Host} {spec : AtollaSourceSpec} {s s' : Source}

theorem sourceCall_waiting (h : s.builder.msgBuf.Owned) {c : SourceCall} (e : sourceCall H s c = .ok s')
    (hw' : s'.state = .stateWaiting) : s.state = .stateWaiting ∧ s'.lastFrameTime = s.lastFrameTime := by
  cases c with
  | state env => exact sourceUpdate_stays_waiting h e hw'
  | putReadyCount env now =>
    obtain ⟨⟨count, s₁⟩, h₁, h₂⟩ := bind_eq_ok.mp e
    cases h₂
    exact sourceUpdate_stays_waiting h (atollaSourcePutReadyCount_update H h₁) hw'
  | putReadyTimeout env now later =>
    obtain ⟨⟨timeout, s₁⟩, h₁, h₂⟩ := bind_eq_ok.mp e
    cases h₂
    exact sourceUpdate_stays_waiting h (atollaSourcePutReadyTimeout_update H h₁) hw'
  | put env frame =>
    obtain ⟨⟨result, s₁⟩, h₁, h₂⟩ := bind_eq_ok.mp e
    cases h₂
    obtain ⟨timeout, t, htimeout, ⟨rfl, -, rfl⟩ | ⟨hsome, hframe⟩⟩ := atollaSourcePut_cases H h₁
    · obtain ⟨s₁, s₂, h₁, h₂, ⟨-, -, rfl⟩ | ⟨-, hsome, -⟩⟩ := sourcePutTimeout_updates H htimeout
      · obtain ⟨hw₁, htime₂⟩ := sourceUpdate_stays_waiting (sourceUpdate_updated H h h₁).builder h₂ hw'
        obtain ⟨hw, htime₁⟩ := sourceUpdate_stays_waiting h h₁ hw₁
        exact ⟨hw, htime₂.trans htime₁⟩
      · cases hsome
    · obtain ⟨timeout, rfl⟩ := Option.isSome_iff_exists.mp hsome
      rw [sourcePutFrame_state H (sourcePutTimeout_updated H h htimeout).builder hframe] at hw'
      exact absurd hw' (sourcePutTimeout_left H h htimeout)

/-- A blocking make does not return a waiting source. -/
theorem sourceAwaitMakeCompletion_ne_waiting : ∀ {envs : List SourceEnv} {s : Source},
    sourceAwaitMakeCompletion H envs s = .ok s' → s'.state ≠ .stateWaiting
  | [], s, e => by
    rw [sourceAwaitMakeCompletion] at e
    split at e
    · cases e
    · cases e
      assumption
  | env :: envs, s, e => by
    rw [sourceAwaitMakeCompletion] at e
    split at e
    · obtain ⟨s₁, -, e⟩ := bind_eq_ok.mp e
      exact sourceAwaitMakeCompletion_ne_waiting e
    · cases e
      assumption

/-- **A waiting source** has not written `last_frame_time`. -/
theorem sourceReachable_waiting (hr : SourceReachable H spec s) (hw : s.state = .stateWaiting) :
    s.lastFrameTime = 0 := by
  induction hr with
  | @make env s e =>
    rw [atollaSourceMake_eq] at e
    obtain ⟨-, -, e⟩ := bind_eq_ok.mp e
    obtain ⟨s₁, h₁, e⟩ := bind_eq_ok.mp e
    split at e
    · cases e
      split at h₁
      · split at h₁
        · obtain ⟨builder, e', -⟩ := sourceSendBorrow_spec H
            (s := { sourceFresh H spec with firstBorrowTime := env.first }) (sourceFresh_kept H spec).builder env.borrow
            env.borrowSent
          rw [e', Except.ok.injEq] at h₁
          subst h₁
          rfl
        · cases h₁
          cases hw
      · cases h₁
        cases hw
    · exact absurd hw (sourceAwaitMakeCompletion_ne_waiting e)
  | call hr e ih =>
    obtain ⟨hs, htime⟩ := sourceCall_waiting (sourceReachable_inv hr).builder e hw
    rw [htime, ih hs]

end Waiting

/-! ## Puts -/

/-- The sources behind the updates of a put. -/
inductive PutUpdate (H : Host) (env : PutEnv) (s : Source) : Source → Prop
  | update {s₁ : Source} : sourceUpdate H env.update s = .ok s₁ → PutUpdate H env s s₁
  | state {s₁ s₂ : Source} : sourceUpdate H env.update s = .ok s₁ → sourceUpdate H env.state s₁ = .ok s₂ →
      PutUpdate H env s s₂
  | timeout {s₁ s₂ s₃ : Source} : sourceUpdate H env.update s = .ok s₁ → sourceUpdate H env.state s₁ = .ok s₂ →
      s₂.state = .stateOpen → sourceUpdate H env.timeout s₂ = .ok s₃ → PutUpdate H env s s₃

/-- An ENQUEUE was sent. -/
def SentEnqueue (s s' : Source) : Prop := ∃ bytes ∈ s'.sock.drop s.sock.length, bytes.head? = some 2

/-- **A put transmits on an open connection**: it sends an ENQUEUE, or returns true, in the open state, and once an
update led to the error state it returns false, sends nothing and leaves the index and `last_frame_time` as they are. -/
structure TransmitsOpen (H : Host) (env : PutEnv) (s : Source) (result : Bool) (s' : Source) : Prop where
  opened : SentEnqueue s s' ∨ result = true →
    ∃ timeout t, sourcePutTimeout H env s = .ok (timeout, t) ∧ t.state = .stateOpen
  failed : ∀ t, PutUpdate H env s t → t.state = .stateError →
    result = false ∧ s'.sock = s.sock ∧ s'.nextFrameIdx = s.nextFrameIdx ∧ s'.lastFrameTime = s.lastFrameTime

/-- What a put does behind its second update, up to its sleep. -/
def PutEnv.Rest (H : Host) (env : PutEnv) (s₂ : Source) (timeout : Option Int) (t : Source) : Prop :=
  (s₂.state ≠ .stateOpen ∧ timeout = none ∧ t = s₂) ∨
    (s₂.state = .stateOpen ∧ timeout.isSome ∧ sourceUpdate H env.timeout s₂ = .ok t)

namespace PutEnv

variable (H : Host) (env : PutEnv) (s : Source)

/-- The messages that the three updates find in their datagrams. -/
def heard₁ : List (Nat × MsgType) := env.update.heard H s.recvBuf

def heard₂ : List (Nat × MsgType) := env.state.heard H (env.update.buffer s.recvBuf)

def heard₃ : List (Nat × MsgType) := env.timeout.heard H (env.state.buffer (env.update.buffer s.recvBuf))

/-- The connection, once open, is over behind the messages of the first, the second, the third update. -/
def Over₁ : Prop := env.update.Over s.disconnectTimeoutMs s.lastRecvLentTime (env.heard₁ H s)

def Over₂ : Prop :=
  env.state.Over s.disconnectTimeoutMs (lastLent env.update.message s.lastRecvLentTime (env.heard₁ H s))
    (env.heard₂ H s)

def Over₃ : Prop :=
  env.timeout.Over s.disconnectTimeoutMs (lastLent env.state.message
    (lastLent env.update.message s.lastRecvLentTime (env.heard₁ H s)) (env.heard₂ H s)) (env.heard₃ H s)

/-- **What a put finds** when it does not transmit on an open connection only. -/
def Breaks : Prop :=
  match s.state with
  | .stateError => False
  -- the connection ends in the third update, and the ENQUEUE is sent
  | .stateOpen => ¬env.Over₁ H s ∧ ¬env.Over₂ H s ∧ env.Over₃ H s ∧ env.sent = true
  | .stateWaiting =>
    match env.heard₁ H s with
    -- a LENT opens the connection, and it ends in the same put
    | (_, .lent) :: _ => env.Over₁ H s ∨ env.Over₂ H s ∨ env.Over₃ H s
    | _ :: _ => False
    | [] => ¬env.update.GivesUp s ∧
      match env.heard₂ H s with
      | (_, .lent) :: _ => env.Over₂ H s ∨ env.Over₃ H s
      -- the first update sends a BORROW, and the second is refused or gives up
      | _ :: _ => env.update.Resends s
      | [] => env.update.Resends s ∧ env.state.GivesUp s

end PutEnv

section Put

variable {H : Host} {spec : AtollaSourceSpec} {env : PutEnv} {s t t' s' : Source} {frame : Bytes} {result : Bool}
  {timeout : Option Int}

theorem Updated.not_sentEnqueue (h : Updated s s') : ¬SentEnqueue s s' := by
  rintro ⟨bytes, hm, hhead⟩
  obtain ⟨ids, hsock, -⟩ := h.sock
  rw [hsock, List.drop_left] at hm
  obtain ⟨id, -, rfl⟩ := List.mem_map.mp hm
  simp [Source.borrowBytes, WireMsg.bytes, WireMsg.borrow, encode] at hhead

theorem PutEnv.Rest.updated {s₂ : Source} (hrest : env.Rest H s₂ timeout t) (h : s₂.builder.msgBuf.Owned) :
    Updated s₂ t := by
  rcases hrest with ⟨-, -, rfl⟩ | ⟨-, -, h₃⟩
  · exact Updated.refl h
  · exact sourceUpdate_updated H h h₃

/-- Behind each of its updates a put only goes on updating, up to the sleep. -/
theorem PutUpdate.updated (h : s.builder.msgBuf.Owned) (hu : PutUpdate H env s t)
    (e : sourcePutTimeout H env s = .ok (timeout, t')) : Updated t t' := by
  obtain ⟨s₁, s₂, h₁, h₂, hcase⟩ := sourcePutTimeout_updates H e
  have hb₁ := (sourceUpdate_updated H h h₁).builder
  have hu₂ := sourceUpdate_updated H hb₁ h₂
  have hend := PutEnv.Rest.updated hcase hu₂.builder
  cases hu with
  | update h₁' =>
    rw [h₁, Except.ok.injEq] at h₁'
    exact h₁' ▸ hu₂.trans hend
  | state h₁' h₂' =>
    rw [h₁, Except.ok.injEq] at h₁'
    rw [← h₁', h₂, Except.ok.injEq] at h₂'
    exact h₂' ▸ hend
  | timeout h₁' h₂' ho h₃' =>
    rw [h₁, Except.ok.injEq] at h₁'
    rw [← h₁', h₂, Except.ok.injEq] at h₂'
    subst h₂'
    rcases hcase with ⟨hne, -, -⟩ | ⟨-, -, h₃⟩
    · exact absurd ho hne
    · rw [h₃, Except.ok.injEq] at h₃'
      exact h₃' ▸ Updated.refl hend.builder

/-- The last of its updates leads to where it may sleep. -/
theorem putUpdate_last (e : sourcePutTimeout H env s = .ok (timeout, t)) : PutUpdate H env s t := by
  obtain ⟨s₁, s₂, h₁, h₂, ⟨-, -, rfl⟩ | ⟨ho, -, h₃⟩⟩ := sourcePutTimeout_updates H e
  · exact .state h₁ h₂
  · exact .timeout h₁ h₂ ho h₃

/-- **What a put may do behind its updates**: if they failed the source, it sends no ENQUEUE, and they have sent nothing
and not opened the connection before. -/
theorem transmitsOpen_iff (h : s.builder.msgBuf.Owned) (htimeout : sourcePutTimeout H env s = .ok (timeout, t))
    (e : atollaSourcePut H env s frame frame.length = .ok (result, s')) :
    TransmitsOpen H env s result s' ↔ (t.state = .stateError →
      (timeout.isSome → env.sent = false) ∧ t.sock = s.sock ∧ t.lastFrameTime = s.lastFrameTime) := by
  have hu := sourcePutTimeout_updated H h htimeout
  obtain ⟨timeout', t', htimeout', hcase⟩ := atollaSourcePut_cases H e
  rw [htimeout, Except.ok.injEq, Prod.mk.injEq] at htimeout'
  obtain ⟨rfl, rfl⟩ := htimeout'
  rcases hcase with ⟨rfl, rfl, rfl⟩ | ⟨hsome, hframe⟩
  · -- it returns behind its second update
    constructor
    · intro hopen herr
      obtain ⟨-, hsock, -, htime⟩ := hopen.failed s' (putUpdate_last htimeout) herr
      exact ⟨fun hsome => (by cases hsome), hsock, htime⟩
    · intro hall
      refine ⟨fun hor => (hor.elim hu.not_sentEnqueue (by simp)).elim, fun u huu herr => ?_⟩
      obtain ⟨-, hsock, htime⟩ := hall ((huu.updated h htimeout).failed herr)
      exact ⟨rfl, hsock, hu.idx, htime⟩
  · obtain ⟨builder, e', -⟩ := sourcePutFrame_spec H hu.builder (sourcePutFrame_length_le H hframe) env
    rw [e'] at hframe
    obtain ⟨n, rfl⟩ := Option.isSome_iff_exists.mp hsome
    have hleft := sourcePutTimeout_left H h htimeout
    cases hsent : env.sent with
    | true =>
      rw [hsent] at hframe
      cases hframe
      constructor
      · intro hopen herr
        cases (hopen.failed t (putUpdate_last htimeout) herr).1
      · intro hall
        have hnot : t.state ≠ .stateError := fun herr => by cases (hall herr).1 rfl
        have hto : t.state = .stateOpen := by
          cases hst : t.state with
          | stateWaiting => exact absurd hst hleft
          | stateOpen => rfl
          | stateError => exact absurd hst hnot
        refine ⟨fun _ => ⟨_, t, htimeout, hto⟩, fun u huu herr => ?_⟩
        exact absurd ((huu.updated h htimeout).failed herr) hnot
    | false =>
      rw [hsent] at hframe
      cases hframe
      constructor
      · intro hopen herr
        obtain ⟨-, hsock, -, htime⟩ := hopen.failed t (putUpdate_last htimeout) herr
        exact ⟨fun _ => rfl, hsock, htime⟩
      · intro hall
        refine ⟨fun hor => (hor.elim hu.not_sentEnqueue (by simp)).elim, fun u huu herr => ?_⟩
        obtain ⟨-, hsock, htime⟩ := hall ((huu.updated h htimeout).failed herr)
        exact ⟨rfl, hsock, hu.idx, htime⟩

/-- **The last two updates** of a put whose connection is open, or opened by the second one. -/
theorem put_second {s₁ s₂ : Source} (hbuf : s₁.recvBuf = env.update.buffer s.recvBuf)
    (hdisc : s₁.disconnectTimeoutMs = s.disconnectTimeoutMs)
    (hlast : s₁.lastRecvLentTime = lastLent env.update.message s.lastRecvLentTime (env.heard₁ H s))
    (hd : Decides env.state s₁ s₂ (env.state.heard H s₁.recvBuf))
    (hrest : env.Rest H s₂ timeout t) :
    (t.state = .stateError ↔ env.Over₂ H s ∨ env.Over₃ H s) ∧ (timeout.isSome ↔ ¬env.Over₂ H s) := by
  have hover : s₂.state = .stateError ↔ env.Over₂ H s := by
    rw [hd.ended, hdisc, hlast, hbuf]
    rfl
  rcases hrest with ⟨hne, rfl, rfl⟩ | ⟨ho, hsome, h₃⟩
  · have herr : t.state = .stateError := by
      by_contra hnot
      exact hne (hd.opened hnot).1
    exact ⟨⟨fun _ => .inl (hover.mp herr), fun _ => herr⟩, fun hs => (by cases hs),
      fun hno => absurd (hover.mp herr) hno⟩
  · have hnot : s₂.state ≠ .stateError := by simp [ho]
    have hno : ¬env.Over₂ H s := fun h => hnot (hover.mpr h)
    have hover₃ : t.state = .stateError ↔ env.Over₃ H s := by
      rw [(sourceUpdate_open ho h₃).ended, hd.timeout, hdisc, (hd.opened hnot).2, hlast, hd.buffer, hbuf]
      rfl
    rw [hover₃]
    exact ⟨⟨.inr, fun hor => hor.resolve_left hno⟩, fun _ => hno, fun _ => hsome⟩

/-- **All three** when the first one finds it open, or opens it. -/
theorem put_first {s₁ s₂ : Source} (hb : s₁.builder.msgBuf.Owned)
    (hd : Decides env.update s s₁ (env.heard₁ H s)) (h₂ : sourceUpdate H env.state s₁ = .ok s₂)
    (hrest : env.Rest H s₂ timeout t) :
    (t.state = .stateError ↔ env.Over₁ H s ∨ env.Over₂ H s ∨ env.Over₃ H s) ∧
      (timeout.isSome ↔ ¬env.Over₁ H s ∧ ¬env.Over₂ H s) := by
  by_cases hover : env.Over₁ H s
  · have herr₂ := (sourceUpdate_updated H hb h₂).failed (hd.ended.mpr hover)
    rcases hrest with ⟨-, rfl, rfl⟩ | ⟨ho, -, -⟩
    · exact ⟨⟨fun _ => .inl hover, fun _ => herr₂⟩, fun hs => (by cases hs), fun hno => absurd hover hno.1⟩
    · rw [herr₂] at ho
      cases ho
  · obtain ⟨ho, hlast⟩ := hd.opened fun herr => hover (hd.ended.mp herr)
    obtain ⟨herr, hsome⟩ := put_second hd.buffer hd.timeout hlast (sourceUpdate_open ho h₂) hrest
    rw [herr, hsome]
    exact ⟨⟨.inr, fun hor => hor.resolve_left hover⟩, fun hno => ⟨hover, hno⟩, fun hno => hno.2⟩

/-- A put of a waiting source whose first update hears nothing. -/
theorem put_silent {s₁ s₂ : Source} (h : s.builder.msgBuf.Owned) (hw : s.state = .stateWaiting)
    (hzero : s.lastFrameTime = 0) (hl : env.heard₁ H s = []) (hstay : ¬env.update.GivesUp s)
    (h₁ : sourceUpdate H env.update s = .ok s₁) (h₂ : sourceUpdate H env.state s₁ = .ok s₂)
    (hrest : env.Rest H s₂ timeout t) :
    (t.state = .stateError →
      (timeout.isSome → env.sent = false) ∧ t.sock = s.sock ∧ t.lastFrameTime = s.lastFrameTime) ↔
    ¬match env.heard₂ H s with
      | (_, .lent) :: _ => env.Over₂ H s ∨ env.Over₃ H s
      | _ :: _ => env.update.Resends s
      | [] => env.update.Resends s ∧ env.state.GivesUp s := by
  obtain ⟨htime₁, -, hwait⟩ := sourceUpdate_waiting h hw hl h₁
  obtain ⟨hw₁, hbuf, hdisc, hfirst, hlast, hsock⟩ := hwait hstay
  have hb₁ := (sourceUpdate_updated H h h₁).builder
  have hheard : env.state.heard H s₁.recvBuf = env.heard₂ H s := by rw [hbuf]; rfl
  -- behind an error there is no third update
  have hdone : s₂.state ≠ .stateOpen → timeout = none ∧ t = s₂ := by
    intro hne
    rcases hrest with ⟨-, hnone, rfl⟩ | ⟨ho, -, -⟩
    · exact ⟨hnone, rfl⟩
    · exact absurd ho hne
  cases hl₂ : env.heard₂ H s with
  | nil =>
    rw [hl₂] at hheard
    obtain ⟨htime₂, hgive, hstay₂⟩ := sourceUpdate_waiting hb₁ hw₁ hheard h₂
    have hgives : env.state.GivesUp s₁ ↔ env.state.GivesUp s := by
      rw [SourceEnv.GivesUp, SourceEnv.GivesUp, hdisc, hfirst]
    by_cases hg : env.state.GivesUp s₁
    · obtain ⟨herr₂, hsock₂⟩ := hgive hg
      obtain ⟨rfl, rfl⟩ := hdone (by simp [herr₂])
      constructor
      · rintro hall ⟨hres, -⟩
        exact hsock.mp (hsock₂.symm.trans (hall herr₂).2.1) hres
      · intro hno _
        have hres : ¬env.update.Resends s := fun hres => hno ⟨hres, hgives.mp hg⟩
        exact ⟨fun hs => (by cases hs), hsock₂.trans (hsock.mpr hres), htime₂.trans htime₁⟩
    · have hw₂ := (hstay₂ hg).1
      obtain ⟨rfl, rfl⟩ := hdone (by simp [hw₂])
      constructor
      · exact fun _ hno => hg (hgives.mpr hno.2)
      · intro _ herr
        rw [hw₂] at herr
        cases herr
  | cons p rest =>
    rw [hl₂] at hheard
    obtain ⟨o, type⟩ := p
    by_cases htype : type = .lent
    · subst htype
      obtain ⟨hd, hnull, -⟩ := sourceUpdate_lentFirst hw₁ hheard h₂
      obtain ⟨herr, -⟩ := put_second hbuf hdisc (by rw [hlast, hl]; rfl) hd hrest
      -- the LENT has set `last_frame_time`
      have hnull' := (hrest.updated (sourceUpdate_updated H hb₁ h₂).builder).frameTime hd.left
      rw [hnull] at hnull'
      rw [herr]
      constructor
      · intro hall hor
        have htime := (hall hor).2.2
        rw [hnull', hzero] at htime
        cases htime
      · exact fun hno hor => absurd hor hno
    · obtain ⟨herr₂, htime₂, hsock₂⟩ := sourceUpdate_refused hheard htype h₂
      obtain ⟨rfl, rfl⟩ := hdone (by simp [herr₂])
      have hmatch : (match (o, type) :: rest with
          | (_, .lent) :: _ => env.Over₂ H s ∨ env.Over₃ H s
          | _ :: _ => env.update.Resends s
          | [] => env.update.Resends s ∧ env.state.GivesUp s) = env.update.Resends s := by
        cases type with
        | lent => exact absurd rfl htype
        | borrow => rfl
        | enqueue => rfl
        | fail => rfl
      rw [hmatch]
      constructor
      · exact fun hall hres => hsock.mp (hsock₂.symm.trans (hall herr₂).2.1) hres
      · exact fun hres _ => ⟨fun hs => (by cases hs), hsock₂.trans (hsock.mpr hres), htime₂.trans htime₁⟩

/-- **A put transmits on an open connection**, and is without effect once an update failed, iff it finds none of the
cases of `PutEnv.Breaks`. -/
theorem put_transmits_iff (hr : SourceReachable H spec s)
    (e : atollaSourcePut H env s frame frame.length = .ok (result, s')) :
    TransmitsOpen H env s result s' ↔ ¬env.Breaks H s := by
  have hb := (sourceReachable_inv hr).builder
  obtain ⟨timeout, t, htimeout, -⟩ := atollaSourcePut_cases H e
  rw [transmitsOpen_iff hb htimeout e]
  have hu := sourcePutTimeout_updated H hb htimeout
  obtain ⟨s₁, s₂, h₁, h₂, hrest⟩ := sourcePutTimeout_updates H htimeout
  have hu₁ := sourceUpdate_updated H hb h₁
  have hu₂ := sourceUpdate_updated H hu₁.builder h₂
  cases hs : s.state with
  | stateError =>
    have herr₂ := hu₂.failed (hu₁.failed hs)
    have hne : s.state ≠ .stateWaiting := by simp [hs]
    simp only [PutEnv.Breaks, hs, not_false_eq_true, iff_true]
    refine fun _ => ⟨fun hsome => ?_, hu.sock_eq hne, hu.frameTime hne⟩
    rcases hrest with ⟨-, rfl, -⟩ | ⟨ho, -, -⟩
    · cases hsome
    · rw [herr₂] at ho
      cases ho
  | stateOpen =>
    have hne : s.state ≠ .stateWaiting := by simp [hs]
    obtain ⟨herr, hsome⟩ := put_first hu₁.builder (sourceUpdate_open hs h₁) h₂ hrest
    simp only [PutEnv.Breaks, hs]
    rw [herr, hsome]
    constructor
    · rintro hall ⟨hno₁, hno₂, hover₃, hsent⟩
      have hfalse := (hall (.inr (.inr hover₃))).1 ⟨hno₁, hno₂⟩
      rw [hsent] at hfalse
      cases hfalse
    · intro hno hor
      refine ⟨fun ⟨hno₁, hno₂⟩ => ?_, hu.sock_eq hne, hu.frameTime hne⟩
      have hover₃ := (hor.resolve_left hno₁).resolve_left hno₂
      rw [← Bool.not_eq_true]
      exact fun hsent => hno ⟨hno₁, hno₂, hover₃, hsent⟩
  | stateWaiting =>
    have hzero := sourceReachable_waiting hr hs
    cases hl : env.heard₁ H s with
    | nil =>
      simp only [PutEnv.Breaks, hs, hl]
      by_cases hg : env.update.GivesUp s
      · -- it gives up in its first update
        obtain ⟨htime₁, hgive, -⟩ := sourceUpdate_waiting hb hs hl h₁
        obtain ⟨herr₁, hsock₁⟩ := hgive hg
        have hne₁ : s₁.state ≠ .stateWaiting := by simp [herr₁]
        have herr₂ := hu₂.failed herr₁
        rcases hrest with ⟨-, rfl, rfl⟩ | ⟨ho, -, -⟩
        · exact ⟨fun _ hno => hno.1 hg, fun _ _ => ⟨fun hsome => (by cases hsome), (hu₂.sock_eq hne₁).trans hsock₁,
            (hu₂.frameTime hne₁).trans htime₁⟩⟩
        · rw [herr₂] at ho
          cases ho
      · rw [put_silent hb hs hzero hl hg h₁ h₂ hrest]
        exact not_congr ⟨fun hbreaks => ⟨hg, hbreaks⟩, And.right⟩
    | cons p rest =>
      obtain ⟨o, type⟩ := p
      by_cases htype : type = .lent
      · subst htype
        obtain ⟨hd, hnull, -⟩ := sourceUpdate_lentFirst hs hl h₁
        obtain ⟨herr, -⟩ := put_first hu₁.builder hd h₂ hrest
        have hnull' := (hu₂.trans (PutEnv.Rest.updated hrest hu₂.builder)).frameTime hd.left
        rw [hnull] at hnull'
        simp only [PutEnv.Breaks, hs, hl]
        rw [herr]
        constructor
        · intro hall hor
          have htime := (hall hor).2.2
          rw [hnull', hzero] at htime
          cases htime
        · exact fun hno hor => absurd hor hno
      · -- it is refused in its first update
        obtain ⟨herr₁, htime₁, hsock₁⟩ := sourceUpdate_refused hl htype h₁
        have hne₁ : s₁.state ≠ .stateWaiting := by simp [herr₁]
        have herr₂ := hu₂.failed herr₁
        have hbreaks : env.Breaks H s = False := by
          simp only [PutEnv.Breaks, hs, hl]
          cases type with
          | lent => exact absurd rfl htype
          | borrow => rfl
          | enqueue => rfl
          | fail => rfl
        rw [hbreaks]
        rcases hrest with ⟨-, rfl, rfl⟩ | ⟨ho, -, -⟩
        · exact ⟨fun _ hno => hno, fun _ _ => ⟨fun hsome => (by cases hsome), (hu₂.sock_eq hne₁).trans hsock₁,
            (hu₂.frameTime hne₁).trans htime₁⟩⟩
        · rw [herr₂] at ho
          cases ho

end Put

/-- An update at 1000 ms that finds a datagram, and a put with that as its third update. -/
def exampleHearing (datagram : Option Bytes) : SourceEnv := ⟨datagram, fun _ => 1000, 1000, 1000, true, 1000⟩

def examplePutHearing (datagram : Option Bytes) : PutEnv :=
  ⟨exampleHearing none, exampleHearing none, exampleHearing datagram, 1000, 1000, true, 1000⟩

/-- That put of the example source. -/
def exampleTransmit (datagram : Option Bytes) : Run (Bool × Source × Source) := do
  let source ← exampleOpen 20
  let (result, source') ← atollaSourcePut exampleHost (examplePutHearing datagram) source [1, 2, 3] 3
  return (result, source, source')

theorem exampleTransmit_ok {datagram : Option Bytes} {result : Bool} {source source' : Source}
    (e : exampleTransmit datagram = .ok (result, source, source')) :
    exampleOpen 20 = .ok source ∧
      atollaSourcePut exampleHost (examplePutHearing datagram) source [1, 2, 3] [1, 2, 3].length =
        .ok (result, source') := by
  obtain ⟨s, h₁, e⟩ := bind_eq_ok.mp e
  obtain ⟨⟨r, s'⟩, h₂, e⟩ := bind_eq_ok.mp e
  cases e
  exact ⟨h₁, h₂⟩

/-- With a LENT in its third update a put transmits on an open connection. -/
theorem put_transmits_lent :
    ∃ source source', SourceReachable exampleHost (exampleSpec 20) source ∧
      atollaSourcePut exampleHost (examplePutHearing (some (encode 1 7 []))) source [1, 2, 3] [1, 2, 3].length =
        .ok (true, source') ∧
      TransmitsOpen exampleHost (examplePutHearing (some (encode 1 7 []))) source true source' := by
  have hrun : (exampleTransmit (some (encode 1 7 []))).toOption.map (fun p => ((p.1, p.2.1.state,
      p.2.1.disconnectTimeoutMs), (examplePutHearing (some (encode 1 7 []))).heard₃ exampleHost p.2.1)) =
        some ((true, .stateOpen, 750), [(0, .lent)]) := by decide +kernel
  obtain ⟨⟨result, source, source'⟩, e, hrun⟩ := exists_ok_of_map hrun
  simp only [Prod.mk.injEq] at hrun
  obtain ⟨⟨rfl, ho, hdisc⟩, hheard⟩ := hrun
  obtain ⟨hopen, hput⟩ := exampleTransmit_ok e
  have hr := exampleOpen_reachable hopen
  refine ⟨source, source', hr, hput, (put_transmits_iff hr hput).mpr fun hbreaks => ?_⟩
  simp only [PutEnv.Breaks, ho] at hbreaks
  obtain ⟨-, -, hover, -⟩ := hbreaks
  unfold PutEnv.Over₃ at hover
  rw [hheard, hdisc] at hover
  rcases hover with ⟨p, hp, hne⟩ | ⟨time, htime, hle⟩
  · rw [List.mem_singleton.mp hp] at hne
    exact hne rfl
  · obtain rfl : (1000 : UInt32) = time := Option.some.inj htime
    revert hle
    decide

/-- **A FAIL in the third update**: the put sends its frame in the error state, and returns true. -/
theorem put_transmits_failed :
    ∃ source source', SourceReachable exampleHost (exampleSpec 20) source ∧ source.state = .stateOpen ∧
      atollaSourcePut exampleHost (examplePutHearing (some (encode 255 0 [0, 0, 5]))) source [1, 2, 3]
        [1, 2, 3].length = .ok (true, source') ∧
      source'.state = .stateError ∧ SentEnqueue source source' ∧
      ¬TransmitsOpen exampleHost (examplePutHearing (some (encode 255 0 [0, 0, 5]))) source true source' := by
  have hrun : (exampleTransmit (some (encode 255 0 [0, 0, 5]))).toOption.map (fun p => (p.1, p.2.1.state, p.2.2.state,
      (p.2.2.sock.drop p.2.1.sock.length).map List.head?)) =
        some (true, .stateOpen, .stateError, [some 2]) := by decide +kernel
  obtain ⟨⟨result, source, source'⟩, e, hrun⟩ := exists_ok_of_map hrun
  simp only [Prod.mk.injEq] at hrun
  obtain ⟨rfl, ho, herr, hheads⟩ := hrun
  obtain ⟨hopen, hput⟩ := exampleTransmit_ok e
  have hr := exampleOpen_reachable hopen
  have hsent : SentEnqueue source source' := by
    have hmem : some 2 ∈ (source'.sock.drop source.sock.length).map List.head? := by
      rw [hheads]
      exact List.mem_singleton_self _
    obtain ⟨bytes, hm, hhead⟩ := List.mem_map.mp hmem
    exact ⟨bytes, hm, hhead⟩
  refine ⟨source, source', hr, ho, hput, herr, hsent, fun htransmits => ?_⟩
  obtain ⟨timeout, t, htimeout, hto⟩ := htransmits.opened (.inr rfl)
  -- the frame does not change the state
  obtain ⟨timeout', t', htimeout', ⟨-, hfalse, -⟩ | ⟨-, hframe⟩⟩ := atollaSourcePut_cases exampleHost hput
  · cases hfalse
  · rw [htimeout, Except.ok.injEq, Prod.mk.injEq] at htimeout'
    obtain ⟨-, rfl⟩ := htimeout'
    have hb := (sourcePutTimeout_updated exampleHost (sourceReachable_inv hr).builder htimeout).builder
    rw [sourcePutFrame_state exampleHost hb hframe, hto] at herr
    cases herr

end Atolla

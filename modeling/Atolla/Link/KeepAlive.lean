import Atolla.Lib.Cadence
import Atolla.Link.Clock
import Atolla.Sink.Cadence

/-!
# A connection that stays

A source that is open and a sink that is lent to it both count the time since they heard of each other: the source
waits for the LENTs of the sink, and the sink for anything. If the sink is updated often enough, the source puts often
enough and what they send arrives soon enough, none of them gives up, whatever other sources do (`connection_stays`).
Strangers and frames of less than a color are left out: they end the session of whoever has it.
-/

set_option autoImplicit false

namespace Atolla

open Loop Past Cadence

/-! ## Promises -/

/-- What the applications and the network promise, in milliseconds. -/
structure Promises where
  /-- How often the sink is updated. -/
  update : Nat
  /-- How soon the source hears a LENT. -/
  delay : Nat
  /-- How often the source puts a frame. -/
  put : Nat
  /-- How soon the sink receives something behind a put. -/
  arrival : Nat

/-- From one state of the network in time to the next one the promises were kept. -/
structure Promises.Kept {ι : Type} (P : Promises) (T T' : TimedNetwork ι) : Prop where
  updated : T'.now ≤ T.polled + P.update
  heard : Follows T.lents T'.heard P.delay T'.now
  put : ∃ t ∈ T.puts, T'.now ≤ t + P.put
  received : Follows T.puts T'.received P.arrival T'.now

/-- No stranger sends, and no frame is shorter than a color. -/
def NetworkAction.Proper {ι : Type} (peers : ι → Peer) : NetworkAction ι → Prop
  | .put _ _ frame => 3 ≤ frame.length
  | .sink c => ∀ datagram ∈ c.datagram, ¬Stranger peers datagram.sender
  | _ => True

instance {ι : Type} [Fintype ι] (peers : ι → Peer) : ∀ a : NetworkAction ι, Decidable (a.Proper peers)
  | .put _ _ frame => inferInstanceAs (Decidable (3 ≤ frame.length))
  | .sink c => inferInstanceAs (Decidable (∀ datagram ∈ c.datagram,
      ¬∀ i, udpEndpointEqual datagram.sender (peers i).endpoint = false))
  | .update .. => inferInstanceAs (Decidable True)
  | .sleep .. => inferInstanceAs (Decidable True)

instance (log log' : List Nat) (delay b : Nat) : Decidable (Follows log log' delay b) :=
  inferInstanceAs (Decidable (∀ t ∈ log, t + delay ≤ b → ∃ t' ∈ log', t ≤ t' ∧ t' ≤ t + delay))

instance {ι : Type} (P : Promises) (T T' : TimedNetwork ι) : Decidable (P.Kept T T') :=
  decidable_of_iff (T'.now ≤ T.polled + P.update ∧ Follows T.lents T'.heard P.delay T'.now ∧
    (∃ t ∈ T.puts, T'.now ≤ t + P.put) ∧ Follows T.puts T'.received P.arrival T'.now)
    ⟨fun h => ⟨h.1, h.2.1, h.2.2.1, h.2.2.2⟩, fun h => ⟨h.updated, h.heard, h.put, h.received⟩⟩

section System

variable {ι : Type} [DecidableEq ι] (H : Host) (peers : ι → Peer) (P : Promises) (i : ι) (D : Nat)

/-- **A connection that begins**: the source has just heard a LENT, with a disconnect timeout of `D`. The BORROW that
the sink received last counts as its first put. -/
structure Opened (T : TimedNetwork ι) : Prop where
  net : (network H peers).Reached T.net
  wrap : T.now < 2 ^ 32
  state : (T.net.sources i).state = .stateOpen
  disconnect : (T.net.sources i).disconnectTimeoutMs.toNat = D
  lent : T.net.sink.state = .stateLent
  borrower : udpEndpointEqual T.net.sink.borrowerEndpoint (peers i).endpoint = true
  told : ∀ offending code, ¬T.net.Told peers i (.fail offending code)
  frames : ∀ j, ∀ frame ∈ T.net.puts j, 3 ≤ frame.length
  heard : ∃ time, (T.net.sources i).lastRecvLentTime = some time ∧ T.heard = [time.toNat] ∧
    T.net.sink.lastSendLentTime.toNat ≤ time.toNat ∧ time.toNat ≤ T.now
  lents : T.lents = [T.net.sink.lastSendLentTime.toNat]
  polled : T.polled ≤ T.now ∧ T.polled ≤ T.net.sink.lastSendLentTime.toNat + 500 ∧ T.now ≤ T.polled + P.update
  puts : T.puts = [T.net.sink.lastRecvTime.toNat]
  received : T.received = [T.net.sink.lastRecvTime.toNat] ∧ T.net.sink.lastRecvTime.toNat ≤ T.now ∧
    T.now ≤ T.net.sink.lastRecvTime.toNat + P.put

/-- **The connection in time**, as long as the promises are kept. -/
def connection : System (TimedNetwork ι) where
  init := Opened H peers P i D
  step T T' := ∃ a start stop n', TimedStep H peers T a start stop n' ∧ a.Proper peers ∧
    T' = T.next peers i a start stop n' ∧ P.Kept T T'

/-- Behind an action from a start to a stop, if it is a step. -/
def connectionNext [Fintype ι] (T : TimedNetwork ι) (p : NetworkAction ι × Nat × Nat) : Option (TimedNetwork ι) :=
  if p.1.During p.2.1 p.2.2 ∧ (T.now ≤ p.2.1 ∧ p.2.1 ≤ p.2.2 ∧ p.2.2 < 2 ^ 32) ∧ p.1.Proper peers then
    ((networkNext H peers T.net p.1).map (T.next peers i p.1 p.2.1 p.2.2)).filter fun T' => P.Kept T T'
  else none

theorem connectionNext_step [Fintype ι] {T T' : TimedNetwork ι} {p : NetworkAction ι × Nat × Nat}
    (e : connectionNext H peers P i T p = some T') : (connection H peers P i D).step T T' := by
  unfold connectionNext at e
  split at e
  · rename_i hp
    obtain ⟨e', hk⟩ := Option.filter_eq_some_iff.mp e
    obtain ⟨n', en, rfl⟩ := Option.map_eq_some_iff.mp e'
    exact ⟨_, _, _, n', networkNext_timed en hp.1 hp.2.1, hp.2.2, rfl, of_decide_eq_true hk⟩
  · cases e

end System

/-! ## The invariant -/

section Invariant

variable {ι : Type}

/-- The source of a connection. -/
structure SourceAlive (i : ι) (D : Nat) (T : TimedNetwork ι) : Prop where
  state : (T.net.sources i).state = .stateOpen
  disconnect : (T.net.sources i).disconnectTimeoutMs.toNat = D
  heard : ∃ time, (T.net.sources i).lastRecvLentTime = some time ∧ time.toNat ≤ T.now ∧ ∀ t ∈ T.heard, t ≤ time.toNat

/-- Its sink. -/
structure SinkAlive (peers : ι → Peer) (i : ι) (T : TimedNetwork ι) : Prop where
  lent : T.net.sink.state = .stateLent
  borrower : udpEndpointEqual T.net.sink.borrowerEndpoint (peers i).endpoint = true
  told : ∀ offending code, ¬T.net.Told peers i (.fail offending code)
  polled : T.polled ≤ T.now ∧ T.polled ≤ T.net.sink.lastSendLentTime.toNat + 500
  sent : ∃ t ∈ T.lents, T.net.sink.lastSendLentTime.toNat ≤ t ∧ t ≤ T.now
  received : T.net.sink.lastRecvTime.toNat ≤ T.now ∧ ∀ t ∈ T.received, t ≤ T.net.sink.lastRecvTime.toNat

/-- Its logs: there is always a recent LENT and a recent put. -/
structure LogsCover (P : Promises) (T : TimedNetwork ι) : Prop where
  lents : ∃ a c, a ≤ c ∧ c ≤ T.now ∧ c ∈ T.heard ∧ Covers T.lents (500 + P.update) a T.now
  puts : ∃ b, b ≤ T.now ∧ b ∈ T.received ∧ Covers T.puts P.put b T.now
  putTimes : ∀ t ∈ T.puts, t ≤ T.now

/-- **What holds of a connection.** -/
structure ConnectionInv (H : Host) (peers : ι → Peer) (P : Promises) (i : ι) (D : Nat) [DecidableEq ι]
    (T : TimedNetwork ι) : Prop where
  net : (network H peers).Reached T.net
  frames : ∀ j, ∀ frame ∈ T.net.puts j, 3 ≤ frame.length
  source : SourceAlive i D T
  sink : SinkAlive peers i T
  logs : LogsCover P T

end Invariant

/-! ## The logs -/

section Logs

variable {ι : Type} [DecidableEq ι] {H : Host} {peers : ι → Peer} {P : Promises} {i : ι} {D : Nat}
  {T T' : TimedNetwork ι} {a : NetworkAction ι} {start stop : Nat} {n' : Network ι}

omit [DecidableEq ι] in
/-- The LENTs go on until the action stops. -/
theorem SinkAlive.covers (h : SinkAlive peers i T) {b : Nat} (hc : Covers T.lents (500 + P.update) b T.now)
    (hupdated : stop ≤ T.polled + P.update) : Covers T.lents (500 + P.update) b stop := by
  obtain ⟨t, ht, hle, hnow⟩ := h.sent
  have hpolled := h.polled.2
  exact hc.extend ⟨t, ht, hnow, by omega⟩

/-- **The source heard** a LENT recently, until the action stops. -/
theorem LogsCover.heard (h : LogsCover P T) (hs : SinkAlive peers i T)
    (hk : P.Kept T (T.next peers i a start stop n')) {x last : Nat} (hx : T.now ≤ x) (hxs : x ≤ stop)
    (hlast : ∀ t ∈ T.heard ++ a.hears i, t ≤ last) : x ≤ last + (500 + P.update + P.delay) := by
  obtain ⟨b, c, hbc, hc, hmem, hcovers⟩ := h.lents
  have hheard := (hs.covers hcovers hk.updated).follow hk.heard hbc (List.mem_append_left _ hmem)
  exact hheard.recent (hc.trans hx) hxs hlast

/-- **The sink received** something recently. -/
theorem LogsCover.received (h : LogsCover P T) (hk : P.Kept T (T.next peers i a start stop n')) {x last : Nat}
    (hx : T.now ≤ x) (hxs : x ≤ stop) (hlast : ∀ t ∈ T.received ++ a.receives, t ≤ last) :
    x ≤ last + (P.put + P.arrival) := by
  obtain ⟨b, hb, hmem, hcovers⟩ := h.puts
  obtain ⟨t, ht, hrecent⟩ := hk.put
  have hputs : Covers T.puts P.put b stop := hcovers.extend ⟨t, ht, h.putTimes t ht, hrecent⟩
  have hreceived := hputs.follow hk.received (Nat.le_refl b) (List.mem_append_left _ hmem)
  exact hreceived.recent (hb.trans hx) hxs hlast

/-- **The logs** go on. -/
theorem LogsCover.next (h : LogsCover P T) (hs : SinkAlive peers i T)
    (ht : T.now ≤ start ∧ start ≤ stop ∧ stop < 2 ^ 32)
    (hk : P.Kept T (T.next peers i a start stop n')) : LogsCover P (T.next peers i a start stop n') := by
  refine ⟨?_, ?_, fun t hmem => ?_⟩
  · obtain ⟨b, c, hbc, hc, hmem, hcovers⟩ := h.lents
    exact ⟨b, c, hbc, hc.trans (ht.1.trans ht.2.1), List.mem_append_left _ hmem,
      (hs.covers hcovers hk.updated).append _⟩
  · obtain ⟨b, hb, hmem, hcovers⟩ := h.puts
    obtain ⟨t, htmem, hrecent⟩ := hk.put
    exact ⟨b, hb.trans (ht.1.trans ht.2.1), List.mem_append_left _ hmem,
      (hcovers.extend ⟨t, htmem, h.putTimes t htmem, hrecent⟩).append _⟩
  · rcases List.mem_append.mp hmem with hmem | hmem
    · exact (h.putTimes t hmem).trans (ht.1.trans ht.2.1)
    · cases a with
      | put j env frame =>
        simp only [NetworkAction.sends] at hmem
        split at hmem
        · exact (List.mem_singleton.mp hmem).le
        · cases hmem
      | _ => cases hmem

end Logs

/-! ## The source -/

section Source

variable {ι : Type} [DecidableEq ι] {H : Host} {peers : ι → Peer} {P : Promises} {i : ι} {D : Nat}
  {T : TimedNetwork ι} {a : NetworkAction ι} {start stop : Nat} {n' : Network ι}

theorem hears_none {env : SourceEnv} (ha : a = .update i env ∨ ∃ now later, a = .sleep i env now later)
    (hh : env.HearsReply none) : a.hears i = [] := by
  have hnone : env.datagram = none := hh
  rcases ha with rfl | ⟨now, later, rfl⟩
  · exact if_neg (by simp [hnone])
  · exact if_neg (by simp [hnone])

/-- **The update of the source**: it hears a LENT or nothing, and its last LENT is recent. -/
theorem ConnectionInv.ownUpdate (h : ConnectionInv H peers P i D T) (hlive : 500 + P.update + P.delay < D)
    (hs : TimedStep H peers T a start stop n') (hk : P.Kept T (T.next peers i a start stop n')) {env : SourceEnv}
    (ha : a = .update i env ∨ ∃ now later, a = .sleep i env now later) :
    SourceAlive i D (T.next peers i a start stop n') := by
  have hinv := networkReached_inv h.net
  have hduring := hs.own_during ha
  have hstart := hs.time.1
  obtain ⟨reply, hreply, htold⟩ := hinv.hears (hs.own_hears ha)
  have hlent : ∀ r ∈ reply.map (·.2), r = .lent := by
    intro r hr
    cases r with
    | lent => rfl
    | fail o code => exact absurd (htold _ hr) (h.sink.told o code)
  obtain ⟨time, htime, hle, hlast⟩ := h.source.heard
  set time' := if reply.isSome then env.message 0 else time with htime'
  -- the last LENT behind the message, and the log
  have hlog : (∀ t ∈ T.heard ++ a.hears i, t ≤ time'.toNat) ∧ time'.toNat ≤ env.ensure.toNat := by
    have hmessage := hduring.message
    cases reply with
    | none =>
      rw [hears_none ha hreply, List.append_nil]
      exact ⟨hlast, hle.trans (hstart.trans hduring.ensure.1)⟩
    | some r =>
      rw [hears_lent ha hreply (congrArg some (hlent r.2 rfl))]
      refine ⟨fun t ht => ?_, hmessage.2⟩
      show t ≤ (env.message 0).toNat
      rcases List.mem_append.mp ht with ht | ht
      · have := hlast t ht
        omega
      · exact (List.mem_singleton.mp ht).le
  have hrecent := h.logs.heard h.sink hk (hstart.trans hduring.ensure.1) hduring.ensure.2 hlog.1
  have hlive' : env.ensure - time' < (T.net.sources i).disconnectTimeoutMs := by
    rw [UInt32.lt_iff_toNat_lt, UInt32.toNat_sub_of_le _ _ (UInt32.le_iff_toNat_le.mpr hlog.2), h.source.disconnect]
    omega
  obtain ⟨s', e, ho, hd, ht⟩ := sourceUpdate_stays (peers i).host h.source.state htime hreply hlent hlive'
  have hsame : n'.sources i = s' := by
    have hown := networkStep_source ha hs.step
    rw [e, Except.ok.injEq] at hown
    exact hown.symm
  refine ⟨(congrArg Source.state hsame).trans ho, ?_, time', (congrArg Source.lastRecvLentTime hsame).trans ht,
    hlog.2.trans hduring.ensure.2, hlog.1⟩
  show (n'.sources i).disconnectTimeoutMs.toNat = D
  rw [hsame, hd]
  exact h.source.disconnect

/-- **The source** behind any action. -/
theorem ConnectionInv.sourceNext (h : ConnectionInv H peers P i D T) (hlive : 500 + P.update + P.delay < D)
    (hs : TimedStep H peers T a start stop n') (hk : P.Kept T (T.next peers i a start stop n')) :
    SourceAlive i D (T.next peers i a start stop n') := by
  by_cases hown : ∃ env, a = .update i env ∨ ∃ now later, a = .sleep i env now later
  · obtain ⟨env, ha⟩ := hown
    exact h.ownUpdate hlive hs hk ha
  · have hothers : ∀ env, a ≠ .update i env ∧ ∀ now later, a ≠ .sleep i env now later :=
      fun env => ⟨fun h => hown ⟨env, .inl h⟩, fun now later h => hown ⟨env, .inr ⟨now, later, h⟩⟩⟩
    obtain ⟨hstate, htime, hd, hhears⟩ := networkStep_others hothers (networkReached_inv h.net) hs.allowed hs.step
    obtain ⟨time, hold, hle, hlast⟩ := h.source.heard
    have hnow : T.now ≤ stop := hs.time.1.trans hs.time.2.1
    refine ⟨hstate.trans h.source.state, (congrArg UInt32.toNat hd).trans h.source.disconnect, time, htime.trans hold,
      hle.trans hnow, fun t ht => ?_⟩
    have ht' : t ∈ T.heard ++ a.hears i := ht
    rw [hhears, List.append_nil] at ht'
    exact hlast t ht'

end Source

/-! ## The sink -/

section Sink

variable {ι : Type} {H : Host} {peers : ι → Peer} {P : Promises} {i : ι} {D : Nat} {T : TimedNetwork ι}
  {a : NetworkAction ι} {start stop : Nat} {n n' : Network ι}

/-- Behind an update, the log and the last LENT. -/
theorem Cadenced.next {clock : SinkClock} (n' : Network ι) (h : Cadenced clock T.net.sink n'.sink)
    (halive : SinkAlive peers i T)
    (ht : T.now ≤ start ∧ start ≤ stop ∧ stop < 2 ^ 32) (hduring : clock.During start stop)
    (hb : udpEndpointEqual n'.sink.borrowerEndpoint (peers i).endpoint = true) :
    start ≤ n'.sink.lastSendLentTime.toNat + 500 ∧
      ∃ t ∈ T.lents ++ T.net.tells peers i stop n', n'.sink.lastSendLentTime.toNat ≤ t ∧ t ≤ stop := by
  have hmessage := hduring.message
  have hreceived := hduring.received
  have hsend := hduring.lent
  cases h with
  | sent id hmem htime =>
    have htells : T.net.tells peers i stop n' = [stop] := if_pos ⟨_, hmem, Reply.isLent_bytes.mpr rfl, hb⟩
    rw [htells]
    have hbounds : start ≤ n'.sink.lastSendLentTime.toNat ∧ n'.sink.lastSendLentTime.toNat ≤ stop := by
      rcases htime with htime | htime
      · rw [htime]
        omega
      · rw [htime]
        omega
    exact ⟨by omega, stop, List.mem_append_right _ (List.mem_singleton.mpr rfl), hbounds.2, Nat.le_refl stop⟩
  | kept hsame hrecent =>
    obtain ⟨t, hmem, hle, hnow⟩ := halive.sent
    have hpast : T.net.sink.lastSendLentTime.toNat ≤ clock.send.toNat := by omega
    have hrecent' : clock.send.toNat - T.net.sink.lastSendLentTime.toNat ≤ 500 := by
      rw [← UInt32.toNat_sub_of_le _ _ (UInt32.le_iff_toNat_le.mpr hpast)]
      exact UInt32.le_iff_toNat_le.mp hrecent
    rw [hsame]
    exact ⟨by omega, t, List.mem_append_left _ hmem, hle, by omega⟩

/-- What the sink sends in a step is no FAIL to the source. -/
theorem SinkAlive.toldNext (h : SinkAlive peers i T) {sent : List (Bytes × UdpEndpoint)}
    (hsock : n'.sink.socket = T.net.sink.socket ++ sent)
    (hsent : ∀ d ∈ sent, udpEndpointEqual d.2 (peers i).endpoint = true → ∃ id, d.1 = Reply.lent.bytes id)
    (offending : UInt16) (code : ErrorCode) : ¬n'.Told peers i (.fail offending code) := by
  rintro ⟨id, receiver, hmem, heq⟩
  rw [hsock] at hmem
  rcases List.mem_append.mp hmem with hmem | hmem
  · exact h.told offending code ⟨id, receiver, hmem, heq⟩
  · obtain ⟨id', hbytes⟩ := hsent _ hmem heq
    have hbytes' : (Reply.fail offending code).bytes id = Reply.lent.bytes id' := hbytes
    cases Reply.error_eq hbytes'

/-- **A request of any source** keeps the session, and is refused only if it is someone else's. -/
theorem answer_keeps (hinv : NetworkInv peers n)
    (hunique : ∀ j, udpEndpointEqual (peers j).endpoint (peers i).endpoint = true → j = i)
    (hlent : n.sink.state = .stateLent) (hb : udpEndpointEqual n.sink.borrowerEndpoint (peers i).endpoint = true)
    (hframes : ∀ j, ∀ frame ∈ n.puts j, 3 ≤ frame.length) {j : ι} {sender : UdpEndpoint}
    (hsender : udpEndpointEqual sender (peers j).endpoint = true) {r : Request} (hasks : (peers j).Asks (n.puts j) r)
    (id : UInt16) :
    (∃ b, (n.sink.session.answer sender id r).2 = .lent b ∧ udpEndpointEqual b (peers i).endpoint = true) ∧
      ∀ reply ∈ (n.sink.session.answer sender id r).1, reply = .lent ∨
        udpEndpointEqual sender (peers i).endpoint = false := by
  have hsession := Sink.session_lent hlent
  rw [hsession]
  by_cases hforeign : udpEndpointEqual sender n.sink.borrowerEndpoint = false
  · -- someone else's request
    have hother : udpEndpointEqual sender (peers i).endpoint = false := by
      rw [← udpEndpointEqual_congr hb]
      exact hforeign
    have hf : Session.Foreign sender (.lent n.sink.borrowerEndpoint) := hforeign
    refine ⟨⟨n.sink.borrowerEndpoint, ?_, hb⟩, fun _ _ => .inr hother⟩
    cases hasks with
    | borrow _ _ =>
      have he : ∀ fl bl, Session.borrowError (.lent n.sink.borrowerEndpoint) sender fl bl = some .lentToOtherSource :=
        fun fl bl => if_pos hf
      rw [Session.answer_borrow_error (he _ _)]
      rfl
    | @enqueue idx frame hmem =>
      have h3 := hframes j frame hmem
      have he : Session.enqueueError (.lent n.sink.borrowerEndpoint) sender frame = some .lentToOtherSource := by
        rw [Session.enqueueError, if_neg (by omega), if_pos hf]
      rw [Session.answer_enqueue_error he]
      rfl
  · have hown : udpEndpointEqual sender n.sink.borrowerEndpoint = true := Bool.not_eq_false _ ▸ hforeign
    have hown' := udpEndpointEqual_trans hown hb
    have hnf : ¬Session.Foreign sender (.lent n.sink.borrowerEndpoint) := hforeign
    obtain rfl : j = i := hunique j (udpEndpointEqual_trans (udpEndpointEqual_symm hsender) hown')
    cases hasks with
    | @borrow fl bl hfl hbl =>
      -- it was granted before
      have hlease := hinv.lease _ _ (Sink.lease_lent hlent)
      obtain ⟨k, heq, -, h10, h128⟩ := hlease.resolve_left fun hs => by
        rw [hs j] at hb
        cases hb
      obtain rfl : k = j := hunique k (udpEndpointEqual_trans (udpEndpointEqual_symm heq) hb)
      have he : Session.borrowError (.lent n.sink.borrowerEndpoint) sender fl bl = none := by
        rw [Session.borrowError, if_neg hnf, if_neg (by omega), if_neg (by omega)]
      rw [Session.answer_borrow he]
      exact ⟨⟨sender, rfl, hown'⟩, fun reply hreply => .inl (Option.some.inj hreply).symm⟩
    | @enqueue idx frame hmem =>
      have h3 := hframes j frame hmem
      have he : Session.enqueueError (.lent n.sink.borrowerEndpoint) sender frame = none := by
        rw [Session.enqueueError, if_neg (by omega), if_neg hnf]
      rw [Session.answer_enqueue he]
      exact ⟨⟨_, rfl, hb⟩, fun reply hreply => by cases hreply⟩

variable [DecidableEq ι]

/-- The sink behind an action that does not concern it. -/
theorem SinkAlive.quiet (h : SinkAlive peers i T) (ht : T.now ≤ start ∧ start ≤ stop ∧ stop < 2 ^ 32)
    (hlease : n'.sink.lease = T.net.sink.lease) (hsocket : n'.sink.socket = T.net.sink.socket)
    (hsend : n'.sink.lastSendLentTime = T.net.sink.lastSendLentTime)
    (hrecv : n'.sink.lastRecvTime = T.net.sink.lastRecvTime) (hpolls : a.polls start T.polled = T.polled)
    (hreceives : a.receives = []) : SinkAlive peers i (T.next peers i a start stop n') := by
  have hnow : T.now ≤ stop := ht.1.trans ht.2.1
  rw [Sink.lease_lent h.lent] at hlease
  obtain ⟨hlent, hborrower, -⟩ := Sink.lease_eq_some.mp hlease
  have hnone : n'.sink.socket = T.net.sink.socket ++ [] := hsocket.trans (List.append_nil _).symm
  refine ⟨hlent, ?_, h.toldNext hnone (fun d hd => by cases hd), ?_, ?_, ?_⟩
  · show udpEndpointEqual n'.sink.borrowerEndpoint _ = true
    rw [hborrower]
    exact h.borrower
  · show a.polls start T.polled ≤ stop ∧ a.polls start T.polled ≤ n'.sink.lastSendLentTime.toNat + 500
    rw [hpolls, hsend]
    exact ⟨h.polled.1.trans hnow, h.polled.2⟩
  · obtain ⟨t, hmem, hle, htime⟩ := h.sent
    refine ⟨t, List.mem_append_left _ hmem, ?_, htime.trans hnow⟩
    show n'.sink.lastSendLentTime.toNat ≤ t
    rw [hsend]
    exact hle
  · show n'.sink.lastRecvTime.toNat ≤ stop ∧ ∀ t ∈ T.received ++ a.receives, t ≤ n'.sink.lastRecvTime.toNat
    rw [hrecv, hreceives, List.append_nil]
    exact ⟨h.received.1.trans hnow, h.received.2⟩

/-- **An update of the sink that finds nothing**, with something received recently. -/
theorem SinkAlive.silence (halive : SinkAlive peers i T) (hr : (network H peers).Reached T.net) {clock : SinkClock}
    (hs : TimedStep H peers T (.sink (.state clock none)) start stop n')
    (hrecent : clock.received.toNat ≤ T.net.sink.lastRecvTime.toNat + 1500) :
    SinkAlive peers i (T.next peers i (.sink (.state clock none)) start stop n') := by
  have hinv := (networkReached_inv hr).sink
  have hduring : clock.During start stop := hs.during
  have hreceived := hduring.received
  have hsend := hduring.lent
  obtain ⟨sink, e, e'⟩ := bind_eq_ok.mp hs.step
  cases e'
  have e₁ : atollaSinkState H clock T.net.sink none = .ok sink := e
  -- it is not too late
  have hpast : T.net.sink.lastRecvTime.toNat ≤ clock.received.toNat := by
    have := halive.received.1
    have := hs.time.1
    omega
  have hearly : ¬dropTimeout < clock.received - T.net.sink.lastRecvTime := by
    rw [UInt32.lt_iff_toNat_lt, UInt32.toNat_sub_of_le _ _ (UInt32.le_iff_toNat_le.mpr hpast)]
    show ¬1500 < _
    omega
  have hlent := atollaSinkState_none_lent hinv halive.lent hearly e₁
  obtain ⟨-, hlease, hrecv, hsent, hcadence⟩ := atollaSinkState_none_cadence hinv e₁ hlent
  rw [Sink.lease_lent halive.lent] at hlease
  have hborrower := (Sink.lease_eq_some.mp hlease).2.1
  have hb : udpEndpointEqual sink.borrowerEndpoint (peers i).endpoint = true := by
    rw [hborrower]
    exact halive.borrower
  obtain ⟨sent, hsocket, -⟩ := sinkCall_sent (c := .state clock none) hinv e₁
  rw [hsocket, List.drop_left] at hsent
  obtain ⟨hpolled, hlog⟩ := hcadence.next { T.net with sink := sink, stored := _ } halive hs.time hduring hb
  refine ⟨hlent, hb, halive.toldNext hsocket (fun d hd _ => hsent d hd), ⟨hs.time.2.1, hpolled⟩, hlog, ?_⟩
  show sink.lastRecvTime.toNat ≤ stop ∧ ∀ t ∈ T.received ++ [], t ≤ sink.lastRecvTime.toNat
  rw [hrecv, List.append_nil]
  exact ⟨by omega, halive.received.2⟩

/-- **An update of the sink that finds a request.** -/
theorem SinkAlive.request (halive : SinkAlive peers i T) (hr : (network H peers).Reached T.net)
    (hframes : ∀ j, ∀ frame ∈ T.net.puts j, 3 ≤ frame.length)
    (hunique : ∀ j, udpEndpointEqual (peers j).endpoint (peers i).endpoint = true → j = i) {clock : SinkClock}
    {datagram : Datagram} (hs : TimedStep H peers T (.sink (.state clock (some datagram))) start stop n')
    (hno : ¬Stranger peers datagram.sender) :
    SinkAlive peers i (T.next peers i (.sink (.state clock (some datagram))) start stop n') := by
  have hinv := networkReached_inv hr
  have hduring : clock.During start stop := hs.during
  have hreceived := hduring.received
  have hsend := hduring.lent
  have hne : T.net.sink.state ≠ .stateError := by simp [halive.lent]
  obtain ⟨sink, e, e'⟩ := bind_eq_ok.mp hs.step
  cases e'
  obtain ⟨bytes, sender⟩ := datagram
  obtain ⟨j, m, r, heq, hbytes, hreq, hfit, hasks⟩ := (hinv.reaches (hs.allowed _ rfl)).resolve_left hno
  obtain rfl : bytes = m.bytes := congrArg Datagram.bytes hbytes
  have e₁ : atollaSinkState H clock T.net.sink (some ⟨m.bytes, sender⟩) = .ok sink := e
  have hup := atollaSinkState_request hinv.sink hne hreq hfit e₁
  obtain ⟨⟨b, hsession, hb⟩, hreply⟩ := answer_keeps hinv hunique halive.lent halive.borrower hframes heq hasks m.id
  -- the session stays
  have hsession' : sink.session = .lent b := hup.session.trans hsession
  have hlent : sink.state = .stateLent := by
    by_contra hne
    rw [Sink.session, if_neg hne] at hsession'
    cases hsession'
  rw [Sink.session_lent hlent, Session.lent.injEq] at hsession'
  subst hsession'
  have hcadence := atollaSinkState_cadence hinv.sink hne hreq hfit e₁ hlent
  obtain ⟨hpolled, hlog⟩ := hcadence.next { T.net with sink := sink, stored := _ } halive hs.time hduring hb
  have hrecv : sink.lastRecvTime = clock.received := atollaSinkState_heard_recvTime hinv.sink hne hfit e₁
  obtain ⟨lents, hsocket, hlents⟩ := hup.socket
  have hsent : ∀ d ∈ (numberedFrom T.net.sink.builder.nextMsgId
      (T.net.sink.session.answer sender m.id r).1.toList).map (·, sender) ++ lents,
      udpEndpointEqual d.2 (peers i).endpoint = true → ∃ id, d.1 = Reply.lent.bytes id := by
    intro d hd heq'
    rcases List.mem_append.mp hd with hd | hd
    · cases hr : (T.net.sink.session.answer sender m.id r).1 with
      | none =>
        rw [hr] at hd
        cases hd
      | some reply =>
        rw [hr] at hd
        rw [List.mem_singleton.mp hd] at heq' ⊢
        rcases hreply reply hr with rfl | hforeign
        · exact ⟨_, rfl⟩
        · rw [hforeign] at heq'
          cases heq'
    · exact (hlents d hd).2.2
  refine ⟨hlent, hb, halive.toldNext (hsocket.trans (List.append_assoc _ _ _)) hsent, ⟨hs.time.2.1, hpolled⟩, hlog, ?_⟩
  show sink.lastRecvTime.toNat ≤ stop ∧ ∀ t ∈ T.received ++ [clock.received.toNat], t ≤ sink.lastRecvTime.toNat
  rw [hrecv]
  refine ⟨by omega, fun t ht => ?_⟩
  rcases List.mem_append.mp ht with ht | ht
  · have := halive.received.2 t ht
    have := halive.received.1
    have := hs.time.1
    omega
  · exact (List.mem_singleton.mp ht).le

/-- **The sink** behind any action, if a silence comes early enough. -/
theorem SinkAlive.next (halive : SinkAlive peers i T) (hr : (network H peers).Reached T.net)
    (hframes : ∀ j, ∀ frame ∈ T.net.puts j, 3 ≤ frame.length)
    (hunique : ∀ j, udpEndpointEqual (peers j).endpoint (peers i).endpoint = true → j = i)
    (hrecent : ∀ clock, a = .sink (.state clock none) →
      clock.received.toNat ≤ T.net.sink.lastRecvTime.toNat + 1500)
    (hs : TimedStep H peers T a start stop n') (hp : a.Proper peers) :
    SinkAlive peers i (T.next peers i a start stop n') := by
  cases a with
  | update j env =>
    obtain ⟨source, -, e⟩ := bind_eq_ok.mp hs.step
    cases e
    exact halive.quiet hs.time rfl rfl rfl rfl rfl rfl
  | sleep j env now later =>
    obtain ⟨⟨timeout, source⟩, -, e⟩ := bind_eq_ok.mp hs.step
    cases e
    exact halive.quiet hs.time rfl rfl rfl rfl rfl rfl
  | put j env frame =>
    obtain ⟨⟨sent, source⟩, -, e⟩ := bind_eq_ok.mp hs.step
    cases e
    exact halive.quiet hs.time rfl rfl rfl rfl rfl rfl
  | sink c =>
    cases c with
    | get now frame =>
      obtain ⟨sink, e₁, e⟩ := bind_eq_ok.mp hs.step
      cases e
      obtain ⟨hsend, hrecv, hsocket, hlease⟩ := sinkCall_get_times (networkReached_inv hr).sink e₁
      exact halive.quiet hs.time hlease hsocket hsend hrecv rfl rfl
    | state clock dg =>
      cases dg with
      | none => exact halive.silence hr hs (hrecent clock rfl)
      | some datagram => exact halive.request hr hframes hunique hs (hp datagram rfl)

/-- **The sink** of a connection: something was received recently. -/
theorem ConnectionInv.sinkNext (h : ConnectionInv H peers P i D T)
    (hunique : ∀ j, udpEndpointEqual (peers j).endpoint (peers i).endpoint = true → j = i)
    (hdrop : P.put + P.arrival ≤ 1500) (hs : TimedStep H peers T a start stop n') (hp : a.Proper peers)
    (hk : P.Kept T (T.next peers i a start stop n')) : SinkAlive peers i (T.next peers i a start stop n') := by
  refine h.sink.next h.net h.frames hunique (fun clock ha => ?_) hs hp
  subst ha
  have hduring : clock.During start stop := hs.during
  have hreceived := hduring.received
  have hsend := hduring.lent
  have hlast : ∀ t ∈ T.received ++ [], t ≤ T.net.sink.lastRecvTime.toNat := by
    rw [List.append_nil]
    exact h.sink.received.2
  have hrecent := h.logs.received hk (hs.time.1.trans hreceived.1) (by omega) hlast
  omega

end Sink

/-! ## Main result -/

section Connection

variable {ι : Type} [DecidableEq ι] {H : Host} {peers : ι → Peer} {P : Promises} {i : ι} {D : Nat}
  {T T' : TimedNetwork ι}

theorem Opened.inv (h : Opened H peers P i D T) : ConnectionInv H peers P i D T := by
  obtain ⟨time, htime, hheard, hsent, hnow⟩ := h.heard
  refine ⟨h.net, h.frames, ⟨h.state, h.disconnect, time, htime, hnow, ?_⟩,
    ⟨h.lent, h.borrower, h.told, ⟨h.polled.1, h.polled.2.1⟩, ?_, h.received.2.1, ?_⟩, ?_, ?_, ?_⟩
  · rw [hheard]
    exact fun t ht => (List.mem_singleton.mp ht).le
  · rw [h.lents]
    exact ⟨_, List.mem_singleton.mpr rfl, Nat.le_refl _, hsent.trans hnow⟩
  · rw [h.received.1]
    exact fun t ht => (List.mem_singleton.mp ht).le
  · refine ⟨T.net.sink.lastSendLentTime.toNat, time.toNat, hsent, hnow, ?_, ?_⟩
    · rw [hheard]
      exact List.mem_singleton.mpr rfl
    · have hmem : T.net.sink.lastSendLentTime.toNat ∈ T.lents := by
        rw [h.lents]
        exact List.mem_singleton.mpr rfl
      have hpolled := h.polled
      exact (Covers.start hmem).extend ⟨_, hmem, Nat.le_refl _, by omega⟩
  · have hmem : T.net.sink.lastRecvTime.toNat ∈ T.puts := by
      rw [h.puts]
      exact List.mem_singleton.mpr rfl
    refine ⟨T.net.sink.lastRecvTime.toNat, h.received.2.1, ?_, ?_⟩
    · rw [h.received.1]
      exact List.mem_singleton.mpr rfl
    · exact (Covers.start hmem).extend ⟨_, hmem, Nat.le_refl _, h.received.2.2⟩
  · rw [h.puts]
    intro t ht
    rw [List.mem_singleton.mp ht]
    exact h.received.2.1

/-- A frame that is put is long enough. -/
theorem TimedStep.frames {a : NetworkAction ι} {start stop : Nat} {n' : Network ι}
    (hs : TimedStep H peers T a start stop n') (hp : a.Proper peers)
    (hframes : ∀ j, ∀ frame ∈ T.net.puts j, 3 ≤ frame.length) : ∀ j, ∀ frame ∈ n'.puts j, 3 ≤ frame.length := by
  cases a with
  | update j env =>
    obtain ⟨source, -, e⟩ := bind_eq_ok.mp hs.step
    cases e
    exact hframes
  | sleep j env now later =>
    obtain ⟨⟨timeout, source⟩, -, e⟩ := bind_eq_ok.mp hs.step
    cases e
    exact hframes
  | put j env frame =>
    obtain ⟨⟨sent, source⟩, -, e⟩ := bind_eq_ok.mp hs.step
    cases e
    intro k f hf
    have hf' : f ∈ (if sent then Function.update T.net.puts j (T.net.puts j ++ [frame]) else T.net.puts) k := hf
    split at hf'
    · by_cases hk : k = j
      · subst hk
        rw [Function.update_self] at hf'
        rcases List.mem_append.mp hf' with hf' | hf'
        · exact hframes k f hf'
        · rw [List.mem_singleton.mp hf']
          exact hp
      · rw [Function.update_of_ne hk] at hf'
        exact hframes k f hf'
    · exact hframes k f hf'
  | sink c =>
    obtain ⟨sink, -, e⟩ := bind_eq_ok.mp hs.step
    cases e
    exact hframes

/-- **A step** of a connection. -/
theorem ConnectionInv.next (hi : ConnectionInv H peers P i D T)
    (hunique : ∀ j, udpEndpointEqual (peers j).endpoint (peers i).endpoint = true → j = i)
    (hlive : 500 + P.update + P.delay < D) (hdrop : P.put + P.arrival ≤ 1500) {a : NetworkAction ι} {start stop : Nat}
    {n' : Network ι} (hs : TimedStep H peers T a start stop n') (hp : a.Proper peers)
    (hk : P.Kept T (T.next peers i a start stop n')) : ConnectionInv H peers P i D (T.next peers i a start stop n') :=
  ⟨hi.net.step hs.net, hs.frames hp hi.frames, hi.sourceNext hlive hs hk, hi.sinkNext hunique hdrop hs hp hk,
    hi.logs.next hi.sink hs.time hk⟩

theorem connectionReached_inv (hunique : ∀ j, udpEndpointEqual (peers j).endpoint (peers i).endpoint = true → j = i)
    (hlive : 500 + P.update + P.delay < D) (hdrop : P.put + P.arrival ≤ 1500)
    (h : (connection H peers P i D).Reached T) : ConnectionInv H peers P i D T := by
  refine h.inv (fun T (hopened : Opened H peers P i D T) => hopened.inv) ?_
  rintro T T' - hi ⟨a, start, stop, n', hs, hp, rfl, hk⟩
  exact hi.next hunique hlive hdrop hs hp hk

/-- **A connection stays**: if the interval of the LENTs, of the updates of the sink and the delay of a LENT are
together less than the disconnect timeout of the source, and if the interval of its puts and their delay are together no
more than the timeout of the sink, then the source stays open and the sink lent to it, whatever else other sources
send. No stranger sends and nobody puts a frame of less than a color, since that would end the session. -/
theorem connection_stays (hunique : ∀ j, udpEndpointEqual (peers j).endpoint (peers i).endpoint = true → j = i)
    (hlive : 500 + P.update + P.delay < D) (hdrop : P.put + P.arrival ≤ 1500)
    (h : (connection H peers P i D).Reached T) :
    (T.net.sources i).state = .stateOpen ∧ T.net.sink.state = .stateLent ∧
      udpEndpointEqual T.net.sink.borrowerEndpoint (peers i).endpoint = true := by
  have hi := connectionReached_inv hunique hlive hdrop h
  exact ⟨hi.source.state, hi.sink.lent, hi.sink.borrower⟩

end Connection

/-! ## The first source -/

/-- The first source has heard the LENT. -/
def exampleOpened : Option (TimedNetwork Bool) :=
  (exampleNetwork.toOption.bind fun n =>
    [exampleArrival (.borrow 0 20 16) exampleEndpoint, .update true (exampleHears 0 .lent)].foldlM
      (networkNext exampleHost examplePeer) n).map fun n => ⟨n, 1000, 1000, [1000], [1000], [1000], [1000]⟩

/-- An update of the sink, and one of the source, that find nothing. -/
def exampleLater : List (NetworkAction Bool × Nat × Nat) :=
  [(.sink (.state (exampleClockAt 1010) none), 1010, 1010),
    (.update true ⟨none, fun _ => 1015, 1015, 1015, true, 1015⟩, 1015, 1016)]

def examplePromises : Promises := ⟨20, 20, 100, 20⟩

/-- What the sink and the source are then. -/
def exampleFacts (T : TimedNetwork Bool) : Prop :=
  ((T.net.sources true).state = .stateOpen ∧ (T.net.sources true).disconnectTimeoutMs.toNat = 750 ∧
    (T.net.sources true).lastRecvLentTime = some 1000) ∧
  (T.net.sink.state = .stateLent ∧ T.net.sink.borrowerEndpoint = exampleEndpoint ∧
    T.net.sink.socket = [(Reply.lent.bytes 0, exampleEndpoint)]) ∧
  (T.net.sink.lastSendLentTime.toNat = 1000 ∧ T.net.sink.lastRecvTime.toNat = 1000) ∧ ∀ j, T.net.puts j = []

instance (T : TimedNetwork Bool) : Decidable (exampleFacts T) := inferInstanceAs (Decidable (_ ∧ _ ∧ _ ∧ _))

theorem exists_exampleOpened : ∃ T T', exampleOpened = some T ∧
    exampleLater.foldlM (connectionNext exampleHost examplePeer examplePromises true) T = some T' ∧
    Opened exampleHost examplePeer examplePromises true 750 T := by
  have hrun : (exampleOpened.bind fun T =>
      (exampleLater.foldlM (connectionNext exampleHost examplePeer examplePromises true) T).map fun _ =>
        decide (exampleFacts T)) = some true := by decide +kernel
  obtain ⟨T, e, hT⟩ := Option.bind_eq_some_iff.mp hrun
  obtain ⟨T', e', hfacts⟩ := Option.map_eq_some_iff.mp hT
  obtain ⟨⟨hstate, hd, htime⟩, ⟨hlent, hborrower, hsocket⟩, ⟨hsend, hrecv⟩, hputs⟩ := of_decide_eq_true hfacts
  obtain ⟨n, en, rfl⟩ := Option.map_eq_some_iff.mp e
  obtain ⟨n₀, en₀, en₁⟩ := Option.bind_eq_some_iff.mp en
  have hreached : (network exampleHost examplePeer).Reached n :=
    System.Reached.foldlM (fun _ _ _ => networkNext_step) (.init (exampleNetwork_init en₀)) en₁
  have hwrap : 1000 < 2 ^ 32 := by decide
  have hupdate : 1000 ≤ 1000 + examplePromises.update := Nat.le_add_right _ _
  have hput : 1000 ≤ 1000 + examplePromises.put := Nat.le_add_right _ _
  refine ⟨_, T', e, e', hreached, hwrap, hstate, hd, hlent, ?_, ?_, ?_, ⟨1000, htime, rfl, hsend.le, Nat.le_refl 1000⟩,
    ?_, ⟨Nat.le_refl 1000, ?_, hupdate⟩, ?_, ?_, hrecv.le, ?_⟩
  · rw [hborrower]
    decide
  · rintro offending code ⟨id, receiver, hmem, -⟩
    rw [hsocket] at hmem
    have hbytes : (Reply.fail offending code).bytes id = Reply.lent.bytes 0 :=
      congrArg Prod.fst (List.mem_singleton.mp hmem)
    cases Reply.error_eq hbytes
  · intro j frame hf
    rw [hputs j] at hf
    cases hf
  · rw [hsend]
  · rw [hsend]
    exact Nat.le_add_right 1000 500
  · rw [hrecv]
  · rw [hrecv]
  · rw [hrecv]
    exact hput

/-- With the promises kept the connection is there at 1016 ms. -/
theorem connection_stays_first : ∃ T T', exampleOpened = some T ∧
    exampleLater.foldlM (connectionNext exampleHost examplePeer examplePromises true) T = some T' ∧
    (T'.net.sources true).state = .stateOpen ∧ T'.net.sink.state = .stateLent ∧
    udpEndpointEqual T'.net.sink.borrowerEndpoint (examplePeer true).endpoint = true := by
  obtain ⟨T, T', e, e', hopened⟩ := exists_exampleOpened
  have hr : (connection exampleHost examplePeer examplePromises true 750).Reached T' :=
    System.Reached.foldlM (fun _ _ _ => connectionNext_step exampleHost examplePeer examplePromises true 750)
      (.init hopened) e'
  have hunique : ∀ j, udpEndpointEqual (examplePeer j).endpoint (examplePeer true).endpoint = true → j = true := by
    decide
  exact ⟨T, T', e, e', connection_stays hunique (by decide) (by decide) hr⟩

end Atolla

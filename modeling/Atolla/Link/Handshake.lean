import Atolla.Link.KeepAlive

/-!
# A connection that is made

A source that was made asks for the sink: its BORROW is on its way (`Unanswered`), then the sink is lent to it and a
LENT is on its way (`Granted`), and then it is open. If nobody else asks for the sink first and everything arrives soon
enough, it is open in time, and what begins then is a connection that stays (`connection_made`).
-/

set_option autoImplicit false

namespace Atolla

open Loop Past Cadence

/-! ## Asking -/

/-- The promises to a source that asks. It has nothing to put yet. -/
structure Promises.Answered {ι : Type} (P : Promises) (T T' : TimedNetwork ι) : Prop where
  updated : T'.now ≤ T.polled + P.update
  heard : Follows T.lents T'.heard P.delay T'.now
  received : Follows T.puts T'.received P.arrival T'.now

/-- Nobody else asks for a sink that is free, and the source reads its clock in its updates. -/
def NetworkAction.Undisturbed {ι : Type} (peers : ι → Peer) (i : ι) (n : Network ι) (start stop : Nat) :
    NetworkAction ι → Prop
  | .update j env => j = i → start ≤ env.manage.toNat ∧ env.manage.toNat ≤ stop
  | .sink c => n.sink.state ≠ .stateLent →
      ∀ datagram ∈ c.datagram, udpEndpointEqual datagram.sender (peers i).endpoint = true
  | _ => True

/-- When a source began to ask. -/
def TimedNetwork.askedAt {ι : Type} (T : TimedNetwork ι) (i : ι) : Nat := (T.net.sources i).firstBorrowTime.toNat

/-- The logs of a connection begin with the LENT that was heard and the BORROW that was received last. -/
def TimedNetwork.connected {ι : Type} (T : TimedNetwork ι) (i : ι) : TimedNetwork ι :=
  { T with
    lents := [T.net.sink.lastSendLentTime.toNat]
    heard := ((T.net.sources i).lastRecvLentTime.map UInt32.toNat).toList
    puts := [T.net.sink.lastRecvTime.toNat]
    received := [T.net.sink.lastRecvTime.toNat] }

/-- Behind an action, the source asks or is connected. -/
def TimedNetwork.settle {ι : Type} (T : TimedNetwork ι) (i : ι) : TimedNetwork ι :=
  if (T.net.sources i).state = .stateOpen then T.connected i else T

section System

variable {ι : Type} [DecidableEq ι] (H : Host) (peers : ι → Peer) (P : Promises) (i : ι) (D : Nat)

/-- **A source that begins to ask**, with a disconnect timeout of `D`: its first BORROW is on its way to a sink that is
free and has not told it anything before. That BORROW counts as its first put. -/
structure Asking (T : TimedNetwork ι) : Prop where
  net : (network H peers).Reached T.net
  state : (T.net.sources i).state = .stateWaiting
  disconnect : (T.net.sources i).disconnectTimeoutMs.toNat = D
  awake : T.net.sleeping i = false
  unput : T.net.puts i = []
  free : T.net.sink.state = .stateOpen
  told : ∀ r, ¬T.net.Told peers i r
  frames : ∀ j, ∀ frame ∈ T.net.puts j, 3 ≤ frame.length
  asked : T.puts = [T.askedAt i] ∧ T.askedAt i ≤ T.now ∧ T.now ≤ T.askedAt i + P.arrival
  logs : T.heard = [] ∧ T.received = []
  polled : T.polled ≤ T.now

instance (n : Network ι) (start stop : Nat) : ∀ a : NetworkAction ι, Decidable (a.Undisturbed peers i n start stop)
  | .update j env => inferInstanceAs (Decidable (j = i → start ≤ env.manage.toNat ∧ env.manage.toNat ≤ stop))
  | .sink c => inferInstanceAs (Decidable (n.sink.state ≠ .stateLent →
      ∀ datagram ∈ c.datagram, udpEndpointEqual datagram.sender (peers i).endpoint = true))
  | .sleep .. => inferInstanceAs (Decidable True)
  | .put .. => inferInstanceAs (Decidable True)

omit [DecidableEq ι] in
instance (T T' : TimedNetwork ι) : Decidable (P.Answered T T') :=
  decidable_of_iff (T'.now ≤ T.polled + P.update ∧ Follows T.lents T'.heard P.delay T'.now ∧
    Follows T.puts T'.received P.arrival T'.now)
    ⟨fun h => ⟨h.1, h.2.1, h.2.2⟩, fun h => ⟨h.updated, h.heard, h.received⟩⟩

end System

/-! ## The invariant -/

section Invariant

variable {ι : Type}

/-- The BORROW is on its way. -/
structure Unanswered (peers : ι → Peer) (P : Promises) (i : ι) (T : TimedNetwork ι) : Prop where
  free : T.net.sink.state = .stateOpen
  told : ∀ r, ¬T.net.Told peers i r
  received : T.received = []
  early : T.now ≤ T.askedAt i + P.arrival

/-- The LENT is on its way. -/
structure Granted (peers : ι → Peer) (P : Promises) (i : ι) (T : TimedNetwork ι) : Prop where
  sink : SinkAlive peers i T
  due : ∃ r ∈ T.received, r ≤ T.askedAt i + P.arrival ∧ ∃ τ ∈ T.lents, τ ≤ r + P.update ∧ T.now ≤ τ + P.delay

/-- **What holds of a source that asks.** -/
structure AskingInv (H : Host) (peers : ι → Peer) (P : Promises) (i : ι) (D : Nat) [DecidableEq ι]
    (T : TimedNetwork ι) : Prop where
  net : (network H peers).Reached T.net
  frames : ∀ j, ∀ frame ∈ T.net.puts j, 3 ≤ frame.length
  state : (T.net.sources i).state = .stateWaiting
  disconnect : (T.net.sources i).disconnectTimeoutMs.toNat = D
  awake : T.net.sleeping i = false
  unput : T.net.puts i = []
  asked : T.askedAt i ∈ T.puts ∧ T.askedAt i ≤ T.now
  unheard : T.heard = []
  polled : T.polled ≤ T.now
  phase : Unanswered peers P i T ∨ Granted peers P i T

end Invariant

/-! ## What leaves the source alone -/

section Away

variable {ι : Type} [DecidableEq ι] {H : Host} {peers : ι → Peer} {i : ι} {T : TimedNetwork ι} {a : NetworkAction ι}
  {start stop : Nat} {n' : Network ι}

/-- A source that waits is not concerned by anything but its own updates. -/
theorem TimedStep.away (hs : TimedStep H peers T a start stop n') (hstate : (T.net.sources i).state = .stateWaiting)
    (hawake : T.net.sleeping i = false) (ha : ∀ env, a ≠ .update i env) :
    n'.sources i = T.net.sources i ∧ n'.sleeping i = false ∧ n'.puts i = T.net.puts i ∧ a.hears i = [] := by
  cases a with
  | update j env =>
    have hj : i ≠ j := fun h => ha env (by rw [h])
    obtain ⟨source, -, e⟩ := bind_eq_ok.mp hs.step
    cases e
    exact ⟨T.net.withSource_other hj source, hawake, rfl, if_neg fun h => hj h.1.symm⟩
  | sleep j env now later =>
    obtain ⟨hsleep, hopen, -⟩ := hs.allowed
    have hj : i ≠ j := by
      rintro rfl
      rw [hstate] at hopen
      cases hopen
    obtain ⟨⟨timeout, source⟩, -, e⟩ := bind_eq_ok.mp hs.step
    cases e
    exact ⟨T.net.withSource_other hj source, (Function.update_of_ne hj _ _).trans hawake, rfl,
      if_neg fun h => hj h.1.symm⟩
  | put j env frame =>
    have hj : i ≠ j := by
      rintro rfl
      have hsleep := hs.allowed.1
      rw [hawake] at hsleep
      cases hsleep
    obtain ⟨⟨sent, source⟩, -, e⟩ := bind_eq_ok.mp hs.step
    cases e
    refine ⟨T.net.withSource_other hj source, (Function.update_of_ne hj _ _).trans hawake, ?_, rfl⟩
    show (if sent then Function.update T.net.puts j (T.net.puts j ++ [frame]) else T.net.puts) i = _
    split
    · exact Function.update_of_ne hj _ _
    · rfl
  | sink c =>
    obtain ⟨sink, -, e⟩ := bind_eq_ok.mp hs.step
    cases e
    exact ⟨rfl, hawake, rfl, rfl⟩

/-- And its own updates concern nobody else. -/
theorem TimedStep.own {env : SourceEnv} (hs : TimedStep H peers T (.update i env) start stop n') :
    n'.sink = T.net.sink ∧ n'.sleeping = T.net.sleeping ∧ n'.puts = T.net.puts := by
  obtain ⟨source, -, e⟩ := bind_eq_ok.mp hs.step
  cases e
  exact ⟨rfl, rfl, rfl⟩

/-- Only calls of the sink change it. -/
theorem TimedStep.sinkSame (hs : TimedStep H peers T a start stop n') (ha : ∀ c, a ≠ .sink c) :
    n'.sink = T.net.sink ∧ a.receives = [] ∧ a.polls start T.polled = T.polled := by
  cases a with
  | update j env =>
    obtain ⟨source, -, e⟩ := bind_eq_ok.mp hs.step
    cases e
    exact ⟨rfl, rfl, rfl⟩
  | sleep j env now later =>
    obtain ⟨⟨timeout, source⟩, -, e⟩ := bind_eq_ok.mp hs.step
    cases e
    exact ⟨rfl, rfl, rfl⟩
  | put j env frame =>
    obtain ⟨⟨sent, source⟩, -, e⟩ := bind_eq_ok.mp hs.step
    cases e
    exact ⟨rfl, rfl, rfl⟩
  | sink c => exact absurd rfl (ha c)

end Away

/-! ## The sink -/

section Sink

variable {ι : Type} [DecidableEq ι] {H : Host} {peers : ι → Peer} {P : Promises} {i : ι} {D : Nat} {T : TimedNetwork ι}
  {a : NetworkAction ι} {start stop : Nat} {n' : Network ι}

/-- **A BORROW is received**: the sink is lent to the source and sends it a LENT. -/
theorem AskingInv.grant (h : AskingInv H peers P i D T) (hu : Unanswered peers P i T)
    (hunique : ∀ j, udpEndpointEqual (peers j).endpoint (peers i).endpoint = true → j = i)
    (hspec : 10 ≤ (peers i).durationByte ∧ (peers i).bufferByte ≤ 128) {clock : SinkClock} {datagram : Datagram}
    (hs : TimedStep H peers T (.sink (.state clock (some datagram))) start stop n')
    (hsender : udpEndpointEqual datagram.sender (peers i).endpoint = true) :
    SinkAlive peers i (T.next peers i (.sink (.state clock (some datagram))) start stop n') ∧
      stop ∈ T.net.tells peers i stop n' := by
  have hinv := networkReached_inv h.net
  have hduring : clock.During start stop := hs.during
  have hmessage := hduring.message
  have hreceived := hduring.received
  have hsend := hduring.lent
  obtain ⟨sink, e, e'⟩ := bind_eq_ok.mp hs.step
  cases e'
  obtain ⟨bytes, sender⟩ := datagram
  -- what arrives is a BORROW of the source
  have hno : ¬Stranger peers sender := by
    intro hstranger
    rw [hstranger i] at hsender
    cases hsender
  obtain ⟨j, m, r, heq, hbytes, hreq, hfit, hasks⟩ := (hinv.reaches (hs.allowed _ rfl)).resolve_left hno
  obtain rfl : bytes = m.bytes := congrArg Datagram.bytes hbytes
  obtain rfl : j = i := hunique j (udpEndpointEqual_trans (udpEndpointEqual_symm heq) hsender)
  rw [h.unput] at hasks
  cases hasks with
  | enqueue idx hmem => cases hmem
  | @borrow fl bl hfl hbl =>
    have hg : Grants clock sender T.net.sink sink :=
      atollaSinkState_grants hinv.sink hu.free hreq hfit (hfl ▸ hspec.1) (hbl ▸ hspec.2) e
    obtain ⟨lents, hsocket, hlents⟩ := hg.socket
    have htells : ∀ stored, T.net.tells peers j stop { T.net with sink := sink, stored := stored } = [stop] := by
      intro stored
      refine if_pos ⟨(Reply.lent.bytes T.net.sink.builder.nextMsgId, sender), ?_, Reply.isLent_bytes.mpr rfl, hsender⟩
      show _ ∈ sink.socket.drop _
      rw [hsocket, List.drop_left]
      exact List.mem_cons_self
    have htime : start ≤ sink.lastSendLentTime.toNat ∧ sink.lastSendLentTime.toNat ≤ stop := by
      rcases hg.sent with ht | ht
      · rw [ht]
        omega
      · rw [ht]
        omega
    refine ⟨⟨hg.lent, ?_, ?_, ⟨hs.time.2.1, ?_⟩, ⟨stop, ?_, htime.2, Nat.le_refl stop⟩, ?_⟩, ?_⟩
    · show udpEndpointEqual sink.borrowerEndpoint _ = true
      rw [hg.borrower]
      exact hsender
    · rintro offending code ⟨id, receiver, hmem, heq'⟩
      have hmem' : ((Reply.fail offending code).bytes id, receiver) ∈ sink.socket := hmem
      rw [hsocket] at hmem'
      rcases List.mem_append.mp hmem' with hold | hnew
      · exact hu.told _ ⟨id, receiver, hold, heq'⟩
      · obtain ⟨id', hlent⟩ : ∃ id', (Reply.fail offending code).bytes id = Reply.lent.bytes id' := by
          rcases List.mem_cons.mp hnew with hfirst | hlater
          · exact ⟨_, congrArg Prod.fst hfirst⟩
          · exact hlents _ hlater
        cases Reply.error_eq hlent
    · show start ≤ sink.lastSendLentTime.toNat + 500
      omega
    · exact List.mem_append_right _ ((htells _).symm ▸ List.mem_singleton.mpr rfl)
    · show sink.lastRecvTime.toNat ≤ stop ∧ ∀ t ∈ T.received ++ [clock.received.toNat], t ≤ sink.lastRecvTime.toNat
      rw [hg.received, hu.received]
      exact ⟨by omega, fun t ht => (List.mem_singleton.mp ht).le⟩
    · exact (htells _).symm ▸ List.mem_singleton.mpr rfl

end Sink

/-! ## Phases -/

section Phases

variable {ι : Type} [DecidableEq ι] {H : Host} {peers : ι → Peer} {P : Promises} {i : ι} {D : Nat} {T : TimedNetwork ι}
  {a : NetworkAction ι} {start stop : Nat} {n' : Network ι}

/-- A BORROW that was not received is not late. -/
theorem Unanswered.due (hu : Unanswered peers P i T) (hasked : T.askedAt i ∈ T.puts)
    (hk : P.Answered T (T.next peers i a start stop n')) (hreceives : a.receives = []) :
    stop ≤ T.askedAt i + P.arrival := by
  by_contra hlate
  have hover : T.askedAt i + P.arrival ≤ stop := by omega
  obtain ⟨t, ht, -⟩ := hk.received _ hasked hover
  have ht' : t ∈ T.received ++ a.receives := ht
  rw [hu.received, hreceives] at ht'
  cases ht'

/-- A LENT that was not heard is not late. -/
theorem AskingInv.due (h : AskingInv H peers P i D T) (hk : P.Answered T (T.next peers i a start stop n'))
    (hhears : a.hears i = []) {τ : Nat} (hτ : τ ∈ T.lents) : stop ≤ τ + P.delay := by
  by_contra hlate
  have hover : τ + P.delay ≤ stop := by omega
  obtain ⟨t, ht, -⟩ := hk.heard τ hτ hover
  have ht' : t ∈ T.heard ++ a.hears i := ht
  rw [h.unheard, hhears] at ht'
  cases ht'

/-- **Nothing is received**, and the sink is as free as before. -/
theorem Unanswered.next (hu : Unanswered peers P i T) (hasked : T.askedAt i ∈ T.puts)
    (hk : P.Answered T (T.next peers i a start stop n')) (hreceives : a.receives = [])
    (hsink : n'.sink = T.net.sink) (hsame : (T.next peers i a start stop n').askedAt i = T.askedAt i) :
    Unanswered peers P i (T.next peers i a start stop n') where
  free := (congrArg Sink.state hsink).trans hu.free
  told r := by
    rintro ⟨id, receiver, hmem, heq⟩
    have hmem' : (r.bytes id, receiver) ∈ n'.sink.socket := hmem
    rw [hsink] at hmem'
    exact hu.told r ⟨id, receiver, hmem', heq⟩
  received := by
    show T.received ++ a.receives = []
    rw [hu.received, hreceives]
    rfl
  early := by
    rw [hsame]
    exact hu.due hasked hk hreceives

/-- **The LENT is not heard yet**, and the sink does not give up. -/
theorem Granted.next (hg : Granted peers P i T) (h : AskingInv H peers P i D T)
    (hunique : ∀ j, udpEndpointEqual (peers j).endpoint (peers i).endpoint = true → j = i)
    (hpatient : P.update + P.delay ≤ 1500) (hs : TimedStep H peers T a start stop n') (hp : a.Proper peers)
    (hk : P.Answered T (T.next peers i a start stop n')) (hhears : a.hears i = [])
    (hsame : (T.next peers i a start stop n').askedAt i = T.askedAt i) :
    Granted peers P i (T.next peers i a start stop n') := by
  obtain ⟨r, hr, harrival, τ, hτ, hupdate, -⟩ := hg.due
  have hdue := h.due hk hhears hτ
  refine ⟨hg.sink.next h.net h.frames hunique (fun clock ha => ?_) hs hp, r, List.mem_append_left _ hr, ?_, τ,
    List.mem_append_left _ hτ, hupdate, hdue⟩
  · subst ha
    have hduring : clock.During start stop := hs.during
    have hreceived := hduring.received
    have hsend := hduring.lent
    have hlast := hg.sink.received.2 r hr
    omega
  · rw [hsame]
    exact harrival

/-- **The BORROW is received.** -/
theorem Unanswered.granted (hu : Unanswered peers P i T) (h : AskingInv H peers P i D T)
    (hunique : ∀ j, udpEndpointEqual (peers j).endpoint (peers i).endpoint = true → j = i)
    (hspec : 10 ≤ (peers i).durationByte ∧ (peers i).bufferByte ≤ 128) {clock : SinkClock} {datagram : Datagram}
    (hs : TimedStep H peers T (.sink (.state clock (some datagram))) start stop n')
    (hk : P.Answered T (T.next peers i (.sink (.state clock (some datagram))) start stop n'))
    (hsender : udpEndpointEqual datagram.sender (peers i).endpoint = true)
    (hsame : (T.next peers i (.sink (.state clock (some datagram))) start stop n').askedAt i = T.askedAt i) :
    Granted peers P i (T.next peers i (.sink (.state clock (some datagram))) start stop n') := by
  have hduring : clock.During start stop := hs.during
  have hreceived := hduring.received
  have hsend := hduring.lent
  obtain ⟨hsink, htells⟩ := h.grant hu hunique hspec hs hsender
  refine ⟨hsink, clock.received.toNat, List.mem_append_right _ (List.mem_singleton.mpr rfl), ?_, stop,
    List.mem_append_right _ htells, ?_, Nat.le_add_right _ _⟩
  · rw [hsame]
    by_cases hover : T.askedAt i + P.arrival ≤ stop
    · -- it was due, and nothing else was received
      obtain ⟨t, ht, -, hle⟩ := hk.received _ h.asked.1 hover
      have ht' : t ∈ T.received ++ [clock.received.toNat] := ht
      rw [hu.received] at ht'
      rwa [List.mem_singleton.mp ht'] at hle
    · omega
  · have hupdated : stop ≤ T.polled + P.update := hk.updated
    have hpolled := h.polled
    have hstart := hs.time.1
    omega

end Phases

/-! ## Steps -/

section Steps

variable {ι : Type} [DecidableEq ι] {H : Host} {peers : ι → Peer} {P : Promises} {i : ι} {D : Nat} {T : TimedNetwork ι}
  {a : NetworkAction ι} {start stop : Nat} {n' : Network ι}

/-- **The source still waits**, in the one phase or the other. -/
theorem AskingInv.next (h : AskingInv H peers P i D T) (hs : TimedStep H peers T a start stop n') (hp : a.Proper peers)
    (hhears : a.hears i = []) (hstate : (n'.sources i).state = .stateWaiting)
    (hd : (n'.sources i).disconnectTimeoutMs = (T.net.sources i).disconnectTimeoutMs)
    (hsame : (T.next peers i a start stop n').askedAt i = T.askedAt i) (hawake : n'.sleeping i = false)
    (hputs : n'.puts i = T.net.puts i)
    (hphase : Unanswered peers P i (T.next peers i a start stop n') ∨
      Granted peers P i (T.next peers i a start stop n')) :
    AskingInv H peers P i D (T.next peers i a start stop n') where
  net := h.net.step hs.net
  frames := hs.frames hp h.frames
  state := hstate
  disconnect := (congrArg UInt32.toNat hd).trans h.disconnect
  awake := hawake
  unput := hputs.trans h.unput
  asked := by
    rw [hsame]
    exact ⟨List.mem_append_left _ h.asked.1, h.asked.2.trans (hs.time.1.trans hs.time.2.1)⟩
  unheard := by
    show T.heard ++ a.hears i = []
    rw [h.unheard, hhears]
    rfl
  polled := by
    show a.polls start T.polled ≤ stop
    have hpolled := h.polled
    have htime := hs.time
    unfold NetworkAction.polls
    split
    · omega
    · omega
  phase := hphase

/-- **Its own update hears nothing**: it is too early to give up. -/
theorem AskingInv.silent (h : AskingInv H peers P i D T)
    (hunique : ∀ j, udpEndpointEqual (peers j).endpoint (peers i).endpoint = true → j = i)
    (hpatient : P.update + P.delay ≤ 1500) (hask : P.arrival + P.update + P.delay ≤ D) {env : SourceEnv}
    (hs : TimedStep H peers T (.update i env) start stop n')
    (hk : P.Answered T (T.next peers i (.update i env) start stop n'))
    (hmanage : start ≤ env.manage.toNat ∧ env.manage.toNat ≤ stop) (hh : env.HearsReply none) :
    AskingInv H peers P i D (T.next peers i (.update i env) start stop n') := by
  have hhears := hears_none (i := i) (.inl rfl) hh
  obtain ⟨hsink, hsleeping, hputs⟩ := hs.own
  have hstop : stop ≤ T.askedAt i + D := by
    rcases h.phase with hu | hg
    · have hdue := hu.due h.asked.1 hk rfl
      omega
    · obtain ⟨r, -, harrival, τ, hτ, hupdate, -⟩ := hg.due
      have hdue := h.due hk hhears hτ
      omega
  have hearly : env.manage - (T.net.sources i).firstBorrowTime ≤ (T.net.sources i).disconnectTimeoutMs := by
    have hpast : (T.net.sources i).firstBorrowTime.toNat ≤ env.manage.toNat :=
      h.asked.2.trans (hs.time.1.trans hmanage.1)
    rw [UInt32.le_iff_toNat_le, UInt32.toNat_sub_of_le _ _ (UInt32.le_iff_toNat_le.mpr hpast), h.disconnect]
    have hfirst : T.askedAt i = (T.net.sources i).firstBorrowTime.toNat := rfl
    omega
  obtain ⟨s', e, hstate, hd, hfirst⟩ :=
    sourceUpdate_waits (peers i).host ((networkReached_inv h.net).sources i).kept h.state hh hearly
  have hsame : n'.sources i = s' := by
    have hown := networkStep_source (.inl rfl) hs.step
    rw [e, Except.ok.injEq] at hown
    exact hown.symm
  have hasked : (T.next peers i (.update i env) start stop n').askedAt i = T.askedAt i := by
    show (n'.sources i).firstBorrowTime.toNat = _
    rw [hsame, hfirst]
    rfl
  refine h.next hs trivial hhears (hsame ▸ hstate) (hsame ▸ hd) hasked ?_ (congrFun hputs i) ?_
  · rw [hsleeping]
    exact h.awake
  · rcases h.phase with hu | hg
    · exact .inl (hu.next h.asked.1 hk rfl hsink hasked)
    · exact .inr (hg.next h hunique hpatient hs trivial hk hhears hasked)

/-- **Anything else.** -/
theorem AskingInv.others (h : AskingInv H peers P i D T)
    (hunique : ∀ j, udpEndpointEqual (peers j).endpoint (peers i).endpoint = true → j = i)
    (hspec : 10 ≤ (peers i).durationByte ∧ (peers i).bufferByte ≤ 128) (hpatient : P.update + P.delay ≤ 1500)
    (hs : TimedStep H peers T a start stop n') (hp : a.Proper peers) (hu : a.Undisturbed peers i T.net start stop)
    (hk : P.Answered T (T.next peers i a start stop n')) (ha : ∀ env, a ≠ .update i env) :
    AskingInv H peers P i D (T.next peers i a start stop n') := by
  obtain ⟨hsource, hawake, hputs, hhears⟩ := hs.away h.state h.awake ha
  have hasked : (T.next peers i a start stop n').askedAt i = T.askedAt i :=
    congrArg (fun s : Source => s.firstBorrowTime.toNat) hsource
  refine h.next hs hp hhears ((congrArg Source.state hsource).trans h.state)
    (congrArg Source.disconnectTimeoutMs hsource) hasked hawake hputs ?_
  rcases h.phase with hfree | hg
  · by_cases hreq : ∃ clock datagram, a = .sink (.state clock (some datagram))
    · obtain ⟨clock, datagram, rfl⟩ := hreq
      have hsender := hu (by simp [hfree.free]) datagram rfl
      exact .inr (hfree.granted h hunique hspec hs hk hsender hasked)
    · refine .inl (hfree.next h.asked.1 hk ?_ ?_ hasked)
      · unfold NetworkAction.receives
        split
        · exact absurd ⟨_, _, rfl⟩ hreq
        · rfl
      · by_cases hcall : ∃ c, a = .sink c
        · obtain ⟨c, rfl⟩ := hcall
          obtain ⟨sink, e, e'⟩ := bind_eq_ok.mp hs.step
          cases e'
          exact sinkCall_free hfree.free (fun clock datagram hc => hreq ⟨clock, datagram, by rw [hc]⟩) e
        · exact (hs.sinkSame fun c hc => hcall ⟨c, hc⟩).1
  · exact .inr (hg.next h hunique hpatient hs hp hk hhears hasked)

/-- **The LENT is heard**: a connection begins. -/
theorem AskingInv.opens (h : AskingInv H peers P i D T) (hlive : 500 + P.update + P.delay < D)
    (hfirst : 2 * P.update + P.delay ≤ P.put) {env : SourceEnv}
    (hs : TimedStep H peers T (.update i env) start stop n')
    (hk : P.Answered T (T.next peers i (.update i env) start stop n')) {id : UInt16}
    (hh : env.HearsReply (some (id, .lent))) (htold : T.net.Told peers i .lent) :
    (n'.sources i).state = .stateOpen ∧
      Opened H peers P i D ((T.next peers i (.update i env) start stop n').connected i) := by
  have hg : Granted peers P i T := h.phase.resolve_left fun hu => hu.told _ htold
  have hduring : env.During start stop := hs.during
  have hmessage := hduring.message
  have hensure := hduring.ensure
  have hupdated : stop ≤ T.polled + P.update := hk.updated
  have hpolled := hg.sink.polled
  have htime := hs.time
  obtain ⟨hsink, -, hputs⟩ := hs.own
  -- the update takes no longer than the disconnect timeout
  have hrecent : env.ensure - env.message 0 < (T.net.sources i).disconnectTimeoutMs := by
    rw [UInt32.lt_iff_toNat_lt, UInt32.toNat_sub_of_le _ _ (UInt32.le_iff_toNat_le.mpr hmessage.2), h.disconnect]
    omega
  obtain ⟨s', e, hopen, hd, hheard⟩ := sourceUpdate_hearsLent (peers i).host h.state hh hrecent
  have hsame : n'.sources i = s' := by
    have hown := networkStep_source (.inl rfl) hs.step
    rw [e, Except.ok.injEq] at hown
    exact hown.symm
  subst hsame
  obtain ⟨r, hr, -, τ, -, hupdate, hdelay⟩ := hg.due
  have hlast := hg.sink.received
  have hrecv := hlast.2 r hr
  obtain ⟨t, -, hsent, hnow⟩ := hg.sink.sent
  refine ⟨hopen, h.net.step hs.net, htime.2.2, hopen, ?_, ?_, ?_, ?_, hs.frames trivial h.frames,
    ⟨env.message 0, hheard, ?_, ?_, ?_⟩, rfl, ⟨?_, ?_, hupdated⟩, rfl, rfl, ?_, ?_⟩
  · exact (congrArg UInt32.toNat hd).trans h.disconnect
  · exact (congrArg Sink.state hsink).trans hg.sink.lent
  · show udpEndpointEqual n'.sink.borrowerEndpoint _ = true
    rw [hsink]
    exact hg.sink.borrower
  · rintro offending code ⟨id', receiver, hmem, heq⟩
    have hmem' : ((Reply.fail offending code).bytes id', receiver) ∈ n'.sink.socket := hmem
    rw [hsink] at hmem'
    exact hg.sink.told offending code ⟨id', receiver, hmem', heq⟩
  · show ((n'.sources i).lastRecvLentTime.map UInt32.toNat).toList = _
    rw [hheard]
    rfl
  · show n'.sink.lastSendLentTime.toNat ≤ (env.message 0).toNat
    rw [hsink]
    omega
  · show (env.message 0).toNat ≤ stop
    omega
  · show T.polled ≤ stop
    omega
  · show T.polled ≤ n'.sink.lastSendLentTime.toNat + 500
    rw [hsink]
    exact hpolled.2
  · show n'.sink.lastRecvTime.toNat ≤ stop
    rw [hsink]
    omega
  · show stop ≤ n'.sink.lastRecvTime.toNat + P.put
    rw [hsink]
    omega

end Steps

/-! ## Main result -/

section Lifetime

variable {ι : Type} [DecidableEq ι] {H : Host} {peers : ι → Peer} {P : Promises} {i : ι} {D : Nat}
  {T T' : TimedNetwork ι}

omit [DecidableEq ι] in
theorem TimedNetwork.settle_waiting (hs : (T.net.sources i).state = .stateWaiting) : T.settle i = T :=
  if_neg (by simp [hs])

theorem Asking.inv (h : Asking H peers P i D T) : AskingInv H peers P i D T := by
  refine ⟨h.net, h.frames, h.state, h.disconnect, h.awake, h.unput, ⟨?_, h.asked.2.1⟩, h.logs.1, h.polled,
    .inl ⟨h.free, h.told, h.logs.2, h.asked.2.2⟩⟩
  rw [h.asked.1]
  exact List.mem_singleton.mpr rfl

/-- No FAIL was sent to a source that asks. -/
theorem AskingInv.unrefused (h : AskingInv H peers P i D T) (offending : UInt16) (code : ErrorCode) :
    ¬T.net.Told peers i (.fail offending code) := by
  rcases h.phase with hu | hg
  · exact hu.told _
  · exact hg.sink.told offending code

/-- **A step of a source that asks.** -/
theorem AskingInv.step (h : AskingInv H peers P i D T)
    (hunique : ∀ j, udpEndpointEqual (peers j).endpoint (peers i).endpoint = true → j = i)
    (hspec : 10 ≤ (peers i).durationByte ∧ (peers i).bufferByte ≤ 128) (hlive : 500 + P.update + P.delay < D)
    (hask : P.arrival + P.update + P.delay ≤ D) (hfirst : 2 * P.update + P.delay ≤ P.put)
    (hdrop : P.put + P.arrival ≤ 1500) {a : NetworkAction ι} {start stop : Nat} {n' : Network ι}
    (hs : TimedStep H peers T a start stop n') (hp : a.Proper peers) (hu : a.Undisturbed peers i T.net start stop)
    (hk : P.Answered T (T.next peers i a start stop n')) :
    AskingInv H peers P i D ((T.next peers i a start stop n').settle i) ∨
      Opened H peers P i D ((T.next peers i a start stop n').settle i) := by
  have hpatient : P.update + P.delay ≤ 1500 := by omega
  by_cases hown : ∃ env, a = .update i env
  · obtain ⟨env, rfl⟩ := hown
    obtain ⟨reply, hreply, htold⟩ := (networkReached_inv h.net).hears hs.allowed.2
    cases reply with
    | none =>
      have hnext := h.silent hunique hpatient hask hs hk (hu rfl) hreply
      left
      rwa [TimedNetwork.settle_waiting hnext.state]
    | some r =>
      obtain ⟨id, r⟩ := r
      cases r with
      | fail offending code => exact absurd (htold _ rfl) (h.unrefused offending code)
      | lent =>
        obtain ⟨hopen, hopened⟩ := h.opens hlive hfirst hs hk hreply (htold _ rfl)
        have hsettle : (T.next peers i (.update i env) start stop n').settle i =
            (T.next peers i (.update i env) start stop n').connected i := if_pos hopen
        right
        rwa [hsettle]
  · have hnext := h.others hunique hspec hpatient hs hp hu hk fun env ha => hown ⟨env, ha⟩
    left
    rwa [TimedNetwork.settle_waiting hnext.state]

end Lifetime

/-! ## The first source -/

end Atolla

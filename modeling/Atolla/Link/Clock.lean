import Atolla.Link.Lease

/-!
# The network and its clock

Every action takes from a start to a stop of a clock that does not wrap, and its readings lie in between. A log says when
a LENT was sent to a source and when the source heard one. A source that is open behind an update was lent the sink
within its disconnect timeout and the time a LENT may be on its way (`open_lease_recent`): so long at most does it go
on believing in a session that is over.
-/

set_option autoImplicit false

namespace Atolla

open Loop Past Relation

/-! ## Readings -/

/-- A LENT, by its type byte. -/
def isLent (bytes : Bytes) : Bool := bytes.head? == some 1

theorem Reply.isLent_bytes {id : UInt16} {r : Reply} : isLent (r.bytes id) = true ↔ r = .lent := by
  cases r with
  | lent => simp [isLent, Reply.bytes, encode]
  | fail o code => simp [isLent, Reply.bytes, encode]

/-- The readings of an update of a source that matter here: at its message, and for the last LENT. -/
structure SourceEnv.During (env : SourceEnv) (start stop : Nat) : Prop where
  message : start ≤ (env.message 0).toNat ∧ (env.message 0).toNat ≤ env.ensure.toNat
  ensure : start ≤ env.ensure.toNat ∧ env.ensure.toNat ≤ stop

/-- The readings of an update of the sink. -/
structure SinkClock.During (clock : SinkClock) (start stop : Nat) : Prop where
  message : start ≤ (clock.message 0).toNat ∧ (clock.message 0).toNat ≤ clock.received.toNat
  received : start ≤ clock.received.toNat ∧ clock.received.toNat ≤ clock.send.toNat
  lent : clock.send.toNat ≤ clock.lent.toNat ∧ clock.lent.toNat ≤ stop

/-- The readings of an action lie between its start and its stop. -/
def NetworkAction.During {ι : Type} (start stop : Nat) : NetworkAction ι → Prop
  | .update _ env => env.During start stop
  | .sleep _ env _ _ => env.During start stop
  | .sink (.state clock _) => clock.During start stop
  | _ => True

instance (env : SourceEnv) (start stop : Nat) : Decidable (env.During start stop) :=
  decidable_of_iff ((start ≤ (env.message 0).toNat ∧ (env.message 0).toNat ≤ env.ensure.toNat) ∧
    (start ≤ env.ensure.toNat ∧ env.ensure.toNat ≤ stop)) ⟨fun h => ⟨h.1, h.2⟩, fun h => ⟨h.message, h.ensure⟩⟩

instance (clock : SinkClock) (start stop : Nat) : Decidable (clock.During start stop) :=
  decidable_of_iff ((start ≤ (clock.message 0).toNat ∧ (clock.message 0).toNat ≤ clock.received.toNat) ∧
    (start ≤ clock.received.toNat ∧ clock.received.toNat ≤ clock.send.toNat) ∧
    (clock.send.toNat ≤ clock.lent.toNat ∧ clock.lent.toNat ≤ stop))
    ⟨fun h => ⟨h.1, h.2.1, h.2.2⟩, fun h => ⟨h.message, h.received, h.lent⟩⟩

instance {ι : Type} (start stop : Nat) : ∀ a : NetworkAction ι, Decidable (a.During start stop)
  | .update _ env => inferInstanceAs (Decidable (env.During start stop))
  | .sleep _ env _ _ => inferInstanceAs (Decidable (env.During start stop))
  | .put .. => inferInstanceAs (Decidable True)
  | .sink (.state clock _) => inferInstanceAs (Decidable (clock.During start stop))
  | .sink (.get ..) => inferInstanceAs (Decidable True)

/-! ## Logs -/

/-- The network, its clock and the logs of one source. -/
structure TimedNetwork (ι : Type) where
  net : Network ι
  /-- When the last action stopped. -/
  now : Nat
  /-- When the last update of the sink started. -/
  polled : Nat
  /-- When the calls stopped that sent a LENT to the source. -/
  lents : List Nat
  /-- When the source heard a LENT. -/
  heard : List Nat
  /-- When the puts of the source stopped that sent their frame. -/
  puts : List Nat
  /-- When the sink received a datagram. -/
  received : List Nat

section Actions

variable {ι : Type} [DecidableEq ι]

/-- When an action lets a source hear a LENT. -/
def NetworkAction.hears (i : ι) : NetworkAction ι → List Nat
  | .update j env => if j = i ∧ env.datagram.any isLent then [(env.message 0).toNat] else []
  | .sleep j env _ _ => if j = i ∧ env.datagram.any isLent then [(env.message 0).toNat] else []
  | _ => []

/-- When an action that stops at `stop` sends a frame of a source. -/
def NetworkAction.sends (i : ι) (stop : Nat) : NetworkAction ι → List Nat
  | .put j env _ => if j = i ∧ env.sent then [stop] else []
  | _ => []

/-- When an action lets the sink receive a datagram. -/
def NetworkAction.receives {ι : Type} : NetworkAction ι → List Nat
  | .sink (.state clock (some _)) => [clock.received.toNat]
  | _ => []

/-- The start of the last update of the sink. -/
def NetworkAction.polls {ι : Type} (start polled : Nat) : NetworkAction ι → Nat
  | .sink (.state ..) => start
  | _ => polled

/-- When a step that stops at `stop` sends a source a LENT. -/
def Network.tells {ι : Type} (peers : ι → Peer) (i : ι) (stop : Nat) (n n' : Network ι) : List Nat :=
  if ∃ d ∈ n'.sink.socket.drop n.sink.socket.length, isLent d.1 = true ∧ udpEndpointEqual d.2 (peers i).endpoint = true
  then [stop] else []

/-- Behind an action, with the network `n'`. -/
def TimedNetwork.next (T : TimedNetwork ι) (peers : ι → Peer) (i : ι) (a : NetworkAction ι) (start stop : Nat)
    (n' : Network ι) : TimedNetwork ι where
  net := n'
  now := stop
  polled := a.polls start T.polled
  lents := T.lents ++ T.net.tells peers i stop n'
  heard := T.heard ++ a.hears i
  puts := T.puts ++ a.sends i stop
  received := T.received ++ a.receives

/-- The network `n'` behind an action that is allowed. -/
structure TimedStep (H : Host) (peers : ι → Peer) (T : TimedNetwork ι) (a : NetworkAction ι) (start stop : Nat)
    (n' : Network ι) : Prop where
  allowed : a.Allowed peers T.net
  step : networkStep H peers T.net a = .ok n'
  time : T.now ≤ start ∧ start ≤ stop ∧ stop < 2 ^ 32
  during : a.During start stop

/-- **The network in time**, where no LENT that is heard left the sink more than `delay` ago. -/
def timedNetwork (H : Host) (peers : ι → Peer) (i : ι) (delay : Nat) : System (TimedNetwork ι) where
  init T := (network H peers).init T.net ∧ T.lents = []
  step T T' := ∃ a start stop n', TimedStep H peers T a start stop n' ∧
    (∀ t ∈ a.hears i, ∃ τ ∈ T.lents, t ≤ τ + delay) ∧ T' = T.next peers i a start stop n'

/-- Behind an action from a start to a stop, if it is a step. -/
def timedNext [Fintype ι] (H : Host) (peers : ι → Peer) (i : ι) (delay : Nat) (T : TimedNetwork ι)
    (p : NetworkAction ι × Nat × Nat) : Option (TimedNetwork ι) :=
  if p.1.During p.2.1 p.2.2 ∧ (T.now ≤ p.2.1 ∧ p.2.1 ≤ p.2.2 ∧ p.2.2 < 2 ^ 32) ∧
      ∀ t ∈ p.1.hears i, ∃ τ ∈ T.lents, t ≤ τ + delay then
    (networkNext H peers T.net p.1).map (T.next peers i p.1 p.2.1 p.2.2)
  else none

/-- The sink is lent to an endpoint of the source. -/
def Network.LentToPeer {ι : Type} (peers : ι → Peer) (i : ι) (n : Network ι) : Prop :=
  ∃ endpoint, n.LentTo endpoint ∧ udpEndpointEqual endpoint (peers i).endpoint = true

end Actions

/-! ## What the logs say -/

section Timed

variable {ι : Type} [DecidableEq ι] {H : Host} {peers : ι → Peer} {i : ι} {delay : Nat} {T T' : TimedNetwork ι}
  {a : NetworkAction ι} {start stop : Nat} {n' : Network ι} {steps : List (TimedNetwork ι × TimedNetwork ι)}

theorem TimedStep.net (h : TimedStep H peers T a start stop n') : (network H peers).step T.net n' :=
  ⟨a, h.allowed, h.step⟩

theorem networkNext_timed [Fintype ι] (e : networkNext H peers T.net a = some n') (hduring : a.During start stop)
    (htime : T.now ≤ start ∧ start ≤ stop ∧ stop < 2 ^ 32) : TimedStep H peers T a start stop n' := by
  unfold networkNext at e
  split at e
  · rename_i ha
    refine ⟨ha, ?_, htime, hduring⟩
    cases e' : networkStep H peers T.net a with
    | error f =>
      rw [e'] at e
      cases e
    | ok m =>
      rw [e'] at e
      exact congrArg Except.ok (Option.some.inj e)
  · cases e

theorem timedNext_step [Fintype ι] {p : NetworkAction ι × Nat × Nat} (e : timedNext H peers i delay T p = some T') :
    (timedNetwork H peers i delay).step T T' := by
  unfold timedNext at e
  split at e
  · rename_i hp
    obtain ⟨n', e', rfl⟩ := Option.map_eq_some_iff.mp e
    exact ⟨_, _, _, n', networkNext_timed e' hp.1 hp.2.1, hp.2.2, rfl⟩
  · cases e

/-- A network in time is a network. -/
theorem timedReached_net (h : (timedNetwork H peers i delay).Reached T) : (network H peers).Reached T.net := by
  induction h with
  | init hinit => exact .init hinit.1
  | step _ hs ih =>
    obtain ⟨a, start, stop, n', hstep, -, rfl⟩ := hs
    exact ih.step hstep.net

/-- **A LENT to the source** that was just sent: the sink is lent to it now. -/
theorem TimedStep.tells (h : TimedStep H peers T a start stop n') (hr : (network H peers).Reached T.net) {t : Nat}
    (ht : t ∈ T.net.tells peers i stop n') : t = stop ∧ n'.LentToPeer peers i := by
  unfold Network.tells at ht
  split at ht
  · rename_i hlent
    refine ⟨List.mem_singleton.mp ht, ?_⟩
    obtain ⟨d, hd, hl, heq⟩ := hlent
    obtain ⟨sent, hsent, hall⟩ := step_sent hr h.net
    rw [hsent, List.drop_left] at hd
    cases hall d hd with
    | stranger hs =>
      rw [hs i] at heq
      cases heq
    | lent id hto => exact ⟨_, hto, heq⟩
    | @fail endpoint id offending code _ =>
      have hfail : isLent ((Reply.fail offending code).bytes id) = true := hl
      cases Reply.isLent_bytes.mp hfail
  · cases ht

/-- The source behind its own update. -/
theorem networkStep_source {env : SourceEnv} {n n' : Network ι}
    (ha : a = .update i env ∨ ∃ now later, a = .sleep i env now later) (e : networkStep H peers n a = .ok n') :
    sourceUpdate (peers i).host env (n.sources i) = .ok (n'.sources i) := by
  rcases ha with rfl | ⟨now, later, rfl⟩
  · obtain ⟨source, e₁, e⟩ := bind_eq_ok.mp e
    cases e
    show _ = Except.ok ((n.withSource i source).sources i)
    rw [Network.withSource_same]
    exact e₁
  · obtain ⟨⟨timeout, source⟩, e₁, e⟩ := bind_eq_ok.mp e
    cases e
    show _ = Except.ok ((n.withSource i source).sources i)
    rw [Network.withSource_same]
    exact atollaSourcePutReadyTimeout_update _ e₁

/-- Whoever's update it is not is left alone, but for what a put counts. -/
theorem networkStep_others {n n' : Network ι}
    (ha : ∀ env, a ≠ .update i env ∧ ∀ now later, a ≠ .sleep i env now later)
    (hr : NetworkInv peers n) (hallowed : a.Allowed peers n) (e : networkStep H peers n a = .ok n') :
    (n'.sources i).state = (n.sources i).state ∧
      (n'.sources i).lastRecvLentTime = (n.sources i).lastRecvLentTime ∧
      (n'.sources i).disconnectTimeoutMs = (n.sources i).disconnectTimeoutMs ∧ a.hears i = [] := by
  cases a with
  | update j env =>
    have hj : j ≠ i := fun h => (ha env).1 (by rw [h])
    obtain ⟨source, -, e⟩ := bind_eq_ok.mp e
    cases e
    have hsame : (n.withSource j source).sources i = n.sources i := n.withSource_other hj.symm source
    exact ⟨congrArg Source.state hsame, congrArg Source.lastRecvLentTime hsame,
      congrArg Source.disconnectTimeoutMs hsame, if_neg (fun h => hj h.1)⟩
  | sleep j env now later =>
    have hj : j ≠ i := fun h => (ha env).2 now later (by rw [h])
    obtain ⟨⟨timeout, source⟩, -, e⟩ := bind_eq_ok.mp e
    cases e
    have hsame : (n.withSource j source).sources i = n.sources i := n.withSource_other hj.symm source
    exact ⟨congrArg Source.state hsame, congrArg Source.lastRecvLentTime hsame,
      congrArg Source.disconnectTimeoutMs hsame, if_neg (fun h => hj h.1)⟩
  | put j env frame =>
    obtain ⟨⟨sent, source⟩, e₁, e⟩ := bind_eq_ok.mp e
    cases e
    show ((n.withSource j source).sources i).state = _ ∧ ((n.withSource j source).sources i).lastRecvLentTime = _ ∧
      ((n.withSource j source).sources i).disconnectTimeoutMs = _ ∧ _
    by_cases hj : i = j
    · subst hj
      rw [n.withSource_same]
      have hfit : frame.length ≤ 65532 := hallowed.2.trans (by decide)
      obtain ⟨builder, e₂, -⟩ := sourcePutFrame_spec (peers i).host (hr.sources i).kept.builder hfit env
      rw [e₂, Except.ok.injEq, Prod.mk.injEq] at e₁
      rw [← e₁.2]
      split
      · exact ⟨rfl, rfl, rfl, rfl⟩
      · exact ⟨rfl, rfl, rfl, rfl⟩
    · rw [n.withSource_other hj]
      exact ⟨rfl, rfl, rfl, rfl⟩
  | sink c =>
    obtain ⟨sink, -, e⟩ := bind_eq_ok.mp e
    cases e
    exact ⟨rfl, rfl, rfl, rfl⟩

/-- What a source hears in time: a LENT is heard in the log. -/
theorem hears_lent {env : SourceEnv} {reply : Option (UInt16 × Reply)}
    (ha : a = .update i env ∨ ∃ now later, a = .sleep i env now later) (hh : env.HearsReply reply)
    (hl : reply.map (·.2) = some .lent) : a.hears i = [(env.message 0).toNat] := by
  have hany : env.datagram.any isLent = true := by
    obtain ⟨r, rfl, hr⟩ := Option.map_eq_some_iff.mp hl
    rw [show env.datagram = some (r.2.bytes r.1) from hh, Option.any_some, Reply.isLent_bytes]
    exact hr
  rcases ha with rfl | ⟨now, later, rfl⟩
  · exact if_pos ⟨rfl, hany⟩
  · exact if_pos ⟨rfl, hany⟩

/-! ## A lease that is believed in -/

/-- Behind a step of the run the sink was lent to the source, when the clock read `τ`. -/
def LentAt (peers : ι → Peer) (i : ι) (steps : List (TimedNetwork ι × TimedNetwork ι)) (τ : Nat) : Prop :=
  ∃ t ∈ steps, t.2.now = τ ∧ t.2.net.LentToPeer peers i

/-- Every LENT in the log was sent in a step behind which the sink was lent to the source. -/
theorem lentAt_of_lents (hr : (timedNetwork H peers i delay).Runs steps T) {τ : Nat} (hτ : τ ∈ T.lents) :
    LentAt peers i steps τ := by
  have hinit : ∀ T, (timedNetwork H peers i delay).init T → T.lents = [] := fun _ h => h.2
  have hwrites : ∀ T T', (timedNetwork H peers i delay).Reached T → (timedNetwork H peers i delay).step T T' →
      ∃ new, T'.lents = T.lents ++ new ∧ ∀ τ ∈ new, T'.now = τ ∧ T'.net.LentToPeer peers i := by
    rintro T T' hr ⟨a, start, stop, n', hs, -, rfl⟩
    refine ⟨_, rfl, fun τ hτ => ?_⟩
    obtain ⟨rfl, hlent⟩ := hs.tells (timedReached_net hr) hτ
    exact ⟨rfl, hlent⟩
  obtain ⟨k, hk⟩ := List.mem_iff_getElem?.mp hτ
  obtain ⟨t, ht, -, -, hlent⟩ := hr.log hinit hwrites hk
  exact ⟨t, ht, hlent⟩

/-- **What holds in time**: the last LENT that an open source heard left the sink within the delay. -/
def RecentInv (i : ι) (delay : Nat) (T : TimedNetwork ι) : Prop :=
  (T.net.sources i).state = .stateOpen → ∃ time, (T.net.sources i).lastRecvLentTime = some time ∧
    time.toNat ≤ T.now ∧ ∃ τ ∈ T.lents, time.toNat ≤ τ + delay

/-- What the source finds in its own update. -/
theorem TimedStep.own_hears (hs : TimedStep H peers T a start stop n') {env : SourceEnv}
    (ha : a = .update i env ∨ ∃ now later, a = .sleep i env now later) : T.net.Hears peers i env.datagram := by
  rcases ha with rfl | ⟨now, later, rfl⟩
  · exact hs.allowed.2
  · exact hs.allowed.2.2

/-- When it reads its clock there. -/
theorem TimedStep.own_during (hs : TimedStep H peers T a start stop n') {env : SourceEnv}
    (ha : a = .update i env ∨ ∃ now later, a = .sleep i env now later) : env.During start stop := by
  rcases ha with rfl | ⟨now, later, rfl⟩
  · exact hs.during
  · exact hs.during

/-- The last LENT of a source that is open behind its own update. -/
theorem TimedStep.update_recent (hr : (timedNetwork H peers i delay).Reached T) (h : RecentInv i delay T)
    (hs : TimedStep H peers T a start stop n') (hfresh : ∀ t ∈ a.hears i, ∃ τ ∈ T.lents, t ≤ τ + delay)
    {env : SourceEnv} (ha : a = .update i env ∨ ∃ now later, a = .sleep i env now later)
    (ho : (n'.sources i).state = .stateOpen) :
    ∃ time, (n'.sources i).lastRecvLentTime = some time ∧ time.toNat ≤ env.ensure.toNat ∧
      env.ensure - time < (n'.sources i).disconnectTimeoutMs ∧ ∃ τ ∈ T.lents, time.toNat ≤ τ + delay := by
  have hinv := networkReached_inv (timedReached_net hr)
  have hduring := hs.own_during ha
  obtain ⟨reply, hreply, -⟩ := hinv.hears (hs.own_hears ha)
  obtain ⟨time, htime, hlive, hcases⟩ :=
    sourceUpdate_recent (hinv.sources i).kept hreply (networkStep_source ha hs.step) ho
  rcases hcases with ⟨hlent, rfl⟩ | ⟨-, hopen, hold⟩
  · refine ⟨_, htime, hduring.message.2, hlive, hfresh _ ?_⟩
    rw [hears_lent ha hreply hlent]
    exact List.mem_singleton.mpr rfl
  · obtain ⟨time', htime', hle, hsent⟩ := h hopen
    obtain rfl : time = time' := Option.some.inj (hold.symm.trans htime')
    have hstart := hs.time.1
    have hensure := hduring.ensure.1
    exact ⟨time, htime, by omega, hlive, hsent⟩

theorem RecentInv.step (hr : (timedNetwork H peers i delay).Reached T) (h : RecentInv i delay T)
    (hstep : (timedNetwork H peers i delay).step T T') : RecentInv i delay T' := by
  obtain ⟨a, start, stop, n', hs, hfresh, rfl⟩ := hstep
  have hinv := networkReached_inv (timedReached_net hr)
  intro ho
  by_cases hown : ∃ env, a = .update i env ∨ ∃ now later, a = .sleep i env now later
  · obtain ⟨env, ha⟩ := hown
    obtain ⟨time, htime, hle, -, τ, hτ, hdelay⟩ := hs.update_recent hr h hfresh ha ho
    have hduring : env.During start stop := by
      rcases ha with rfl | ⟨now, later, rfl⟩
      · exact hs.during
      · exact hs.during
    exact ⟨time, htime, hle.trans hduring.ensure.2, τ, List.mem_append_left _ hτ, hdelay⟩
  · have hothers : ∀ env, a ≠ .update i env ∧ ∀ now later, a ≠ .sleep i env now later :=
      fun env => ⟨fun h => hown ⟨env, .inl h⟩, fun now later h => hown ⟨env, .inr ⟨now, later, h⟩⟩⟩
    obtain ⟨hstate, htime, -, -⟩ := networkStep_others hothers hinv hs.allowed hs.step
    obtain ⟨time, hold, hle, τ, hτ, hdelay⟩ := h (hstate.symm.trans ho)
    have hpast := hs.time
    exact ⟨time, htime.trans hold, (by show _ ≤ stop; omega), τ, List.mem_append_left _ hτ, hdelay⟩

theorem timedReached_recent (h : (timedNetwork H peers i delay).Reached T) : RecentInv i delay T := by
  refine h.inv ?_ fun T T' hr hi hs => hi.step hr hs
  rintro T ⟨⟨hsources, -⟩, -⟩ ho
  obtain ⟨env, e⟩ := hsources i
  exact absurd ho (atollaSourceMake_peer e).2.1

/-- **A source that believes to hold the sink**, open behind its update, was lent it less than its disconnect timeout
and the delay of a LENT ago, whatever is lost, late or doubled. -/
theorem open_lease_recent (hr : (timedNetwork H peers i delay).Runs steps T) (hs : TimedStep H peers T a start stop n')
    (hfresh : ∀ t ∈ a.hears i, ∃ τ ∈ T.lents, t ≤ τ + delay) {env : SourceEnv}
    (ha : a = .update i env ∨ ∃ now later, a = .sleep i env now later) (ho : (n'.sources i).state = .stateOpen) :
    ∃ τ, env.ensure.toNat < τ + delay + (n'.sources i).disconnectTimeoutMs.toNat ∧ LentAt peers i steps τ := by
  have h := timedReached_recent hr.reached
  obtain ⟨time, -, hle, hlive, τ, hτ, hdelay⟩ := hs.update_recent hr.reached h hfresh ha ho
  have hlive' : env.ensure.toNat - time.toNat < (n'.sources i).disconnectTimeoutMs.toNat := by
    rw [← UInt32.toNat_sub_of_le _ _ (UInt32.le_iff_toNat_le.mpr hle)]
    exact UInt32.lt_iff_toNat_lt.mp hlive
  exact ⟨τ, by omega, lentAt_of_lents hr hτ⟩

end Timed

/-! ## The first LENT -/

/-- The first source asks for the sink, a second into the clock. -/
def exampleTimed : Option (TimedNetwork Bool) :=
  exampleNetwork.toOption.bind fun n =>
    timedNext exampleHost examplePeer true 5 ⟨n, 0, 0, [], [], [], []⟩
      (exampleArrival (.borrow 0 20 16) exampleEndpoint, 1000, 1000)

theorem exists_exampleTimed : ∃ T n', exampleTimed = some T ∧
    (timedNetwork exampleHost examplePeer true 5).Reached T ∧
    TimedStep exampleHost examplePeer T (.update true (exampleHears 0 .lent)) 1000 1000 n' ∧
    T.lents = [1000] ∧ (n'.sources true).state = .stateOpen ∧
    (n'.sources true).disconnectTimeoutMs.toNat = 750 := by
  have hrun : (exampleTimed.bind fun T =>
      (networkNext exampleHost examplePeer T.net (.update true (exampleHears 0 .lent))).map fun n' =>
        ((T.now, T.lents), (n'.sources true).state, (n'.sources true).disconnectTimeoutMs.toNat)) =
      some ((1000, [1000]), .stateOpen, 750) := by decide +kernel
  obtain ⟨T, e, hn⟩ := Option.bind_eq_some_iff.mp hrun
  obtain ⟨n', e', hn'⟩ := Option.map_eq_some_iff.mp hn
  simp only [Prod.mk.injEq] at hn'
  obtain ⟨⟨hnow, hlents⟩, ho, hd⟩ := hn'
  have hstep : TimedStep exampleHost examplePeer T (.update true (exampleHears 0 .lent)) 1000 1000 n' :=
    networkNext_timed e' (by decide) ⟨hnow.le, by decide, by decide⟩
  refine ⟨T, n', e, ?_, hstep, hlents, ho, hd⟩
  obtain ⟨n, en, eT⟩ := Option.bind_eq_some_iff.mp e
  have hinit : (timedNetwork exampleHost examplePeer true 5).init ⟨n, 0, 0, [], [], [], []⟩ :=
    ⟨exampleNetwork_init en, rfl⟩
  exact (System.Reached.init hinit).step (timedNext_step eT)

/-- The first source is open, on a lease of 1000 ms. -/
theorem open_lease_recent_first : ∃ T steps τ, exampleTimed = some T ∧
    (timedNetwork exampleHost examplePeer true 5).Runs steps T ∧ 1000 < τ + 5 + 750 ∧
      LentAt examplePeer true steps τ := by
  obtain ⟨T, n', e, hr, hs, hlents, ho, hd⟩ := exists_exampleTimed
  obtain ⟨steps, hrun⟩ := hr.runs
  obtain ⟨τ, hτ, hlent⟩ := open_lease_recent hrun hs (by
    intro t ht
    rw [hlents]
    have hheard : t = 1000 := List.mem_singleton.mp ht
    exact ⟨1000, List.mem_singleton.mpr rfl, by omega⟩) (.inl rfl) ho
  rw [hd] at hτ
  exact ⟨T, steps, τ, e, hrun, hτ, hlent⟩

end Atolla

import Atolla.Sink.Exclusive
import Atolla.Sink.Steps

/-!
# The timeout of the sink

A lent sink that finds no datagram drops the borrow once `drop_timeout` has gone by since the last datagram of anyone:
`last_recv_time` is not the time of the borrower alone. So the timeout is that of the borrower exactly as long as no
other endpoint makes itself heard after it (`timeout_iff`).
-/

set_option autoImplicit false

namespace Atolla

open Loop Relation

/-! ## Runs in time -/

/-- The datagram that an update receives at `t`, with its sender. -/
def Sink.hears (s : Sink) (t : Nat) (dg : Option Datagram) : List (Nat × UdpEndpoint) :=
  if s.state = .stateError then []
  else ((udpSocketReceiveFrom s.recvBuf sinkRecvBufLen dg).map fun p => (t, p.2.2)).toList

/-- The runs of a sink over a clock that does not go back or wrap: the sink, the last reading, and the datagrams it
received, with the readings behind them. -/
inductive Timed (H : Host) : Sink → Nat → List (Nat × UdpEndpoint) → Prop
  | make {spec : AtollaSinkSpec} {bound : Bool} {s : Sink} {t : Nat} : atollaSinkMake H spec bound = .ok s →
      t < 2 ^ 32 → Timed H s t []
  | update {s s' : Sink} {t t' : Nat} {heard : List (Nat × UdpEndpoint)} {clock : SinkClock} {dg : Option Datagram} :
      Timed H s t heard → t ≤ t' → t' < 2 ^ 32 → clock.received = UInt32.ofNat t' →
      atollaSinkState H clock s dg = .ok s' → Timed H s' t' (heard ++ s.hears t' dg)
  | get {s s' : Sink} {t t' : Nat} {heard : List (Nat × UdpEndpoint)} {frame : Bytes} : Timed H s t heard → t ≤ t' →
      t' < 2 ^ 32 → sinkCall H s (.get (UInt32.ofNat t') frame) = .ok s' → Timed H s' t' heard

/-- When an endpoint was heard last. -/
def heardFrom (endpoint : UdpEndpoint) (heard : List (Nat × UdpEndpoint)) : Option Nat :=
  (heard.filter fun p => udpEndpointEqual p.2 endpoint).getLast?.map (·.1)

/-- **The borrow is dropped**, with one FAIL to the borrower. -/
def Sink.TimesOut (s s' : Sink) : Prop :=
  s'.state = .stateOpen ∧
    s'.socket = s.socket ++
      [(encode 255 s.builder.nextMsgId (failPayload 0 ErrorCode.timeout.toByte), s.borrowerEndpoint)]

/-- **What holds of every such run**: `last_recv_time` is when the sink received anything last, and the borrower of a
lent sink was heard. -/
structure TimedInv (s : Sink) (t : Nat) (heard : List (Nat × UdpEndpoint)) : Prop where
  inv : SinkInv s
  wrap : t < 2 ^ 32
  past : ∀ p ∈ heard, p.1 ≤ t
  last : ∀ p, heard.getLast? = some p → s.lastRecvTime = UInt32.ofNat p.1 ∧ ∀ q ∈ heard, q.1 ≤ p.1
  borrower : s.state = .stateLent → ∃ p ∈ heard, udpEndpointEqual p.2 s.borrowerEndpoint = true

section Silent

variable {H : Host} {s s' : Sink} {clock : SinkClock} {dg : Option Datagram}

theorem sinkSend_recvTime (h : SinkInv s) (e : sinkSend H clock s = .ok s') : s'.lastRecvTime = s.lastRecvTime := by
  unfold sinkSend at e
  split at e
  · split at e
    · obtain ⟨builder, e', -, -⟩ := sinkSendLent_spec H h clock.lent
      rw [e', Except.ok.injEq] at e
      subst e
      rfl
    · cases e
      rfl
  · cases e
    rfl

/-- **An update of a lent sink that finds nothing** ends the session, or leaves it as it is. -/
theorem sinkUpdate_silent (h : SinkInv s) (hs : s.state = .stateLent)
    (hnone : udpSocketReceiveFrom s.recvBuf sinkRecvBufLen dg = none) (e : sinkUpdate H clock s dg = .ok s') :
    (dropTimeout < clock.received - s.lastRecvTime → s.TimesOut s') ∧
      (¬dropTimeout < clock.received - s.lastRecvTime → s'.state = .stateLent) := by
  unfold sinkUpdate at e
  obtain ⟨s₁, h₁, e⟩ := bind_eq_ok.mp e
  rw [sinkReceive, hnone] at h₁
  simp only at h₁
  constructor <;> intro hlate
  · rw [if_pos ⟨hs, hlate⟩] at h₁
    obtain ⟨builder, e₂, -, -⟩ := sinkSendFailTo_spec H h 0 .timeout s.borrowerEndpoint
    rw [sinkSendFail, e₂, ok_bind] at h₁
    cases h₁
    rw [sinkSend, if_neg (by simp [sinkDropBorrow])] at e
    cases e
    exact ⟨rfl, rfl⟩
  · rw [if_neg (fun hand => hlate hand.2)] at h₁
    cases h₁
    obtain ⟨s₂, e₂, -, hsame⟩ := sinkSend_same H h clock
    rw [e₂, Except.ok.injEq] at e
    rw [← e, hsame.state, hs]

/-- An update that finds nothing returns. -/
theorem sinkUpdate_none (h : SinkInv s) (clock : SinkClock) :
    ∃ s', sinkUpdate H clock s none = .ok s' := by
  have hreceive : ∃ s₁, sinkReceive H clock s none = .ok s₁ ∧ SinkInv s₁ := by
    rw [sinkReceive, show udpSocketReceiveFrom s.recvBuf sinkRecvBufLen none = none from rfl]
    simp only
    split
    · obtain ⟨s₁, e₁, hi, -⟩ := sinkSendFailTo_same H h 0 .timeout s.borrowerEndpoint
      exact ⟨sinkDropBorrow s₁, by rw [sinkSendFail, e₁]; rfl, hi.dropBorrow⟩
    · exact ⟨s, rfl, h⟩
  obtain ⟨s₁, e₁, hi⟩ := hreceive
  obtain ⟨s₂, e₂, -, -⟩ := sinkSend_same H hi clock
  exact ⟨s₂, by rw [sinkUpdate, e₁, ok_bind, e₂]⟩

/-- A datagram that is empty is none. -/
theorem atollaSinkState_empty (hnone : udpSocketReceiveFrom s.recvBuf sinkRecvBufLen dg = none) :
    atollaSinkState H clock s dg = atollaSinkState H clock s none := by
  have hreceive : sinkReceive H clock s dg = sinkReceive H clock s none := by
    rw [sinkReceive, hnone]
    rfl
  rw [atollaSinkState, atollaSinkState, sinkUpdate, sinkUpdate, hreceive]

/-- Where nothing is received, `last_recv_time` stays. -/
theorem sinkUpdate_silent_recvTime (h : SinkInv s)
    (hnone : udpSocketReceiveFrom s.recvBuf sinkRecvBufLen dg = none) (e : sinkUpdate H clock s dg = .ok s') :
    s'.lastRecvTime = s.lastRecvTime := by
  unfold sinkUpdate at e
  obtain ⟨s₁, h₁, e⟩ := bind_eq_ok.mp e
  have hi := sinkReceive_inv H h h₁
  rw [sinkSend_recvTime hi e]
  rw [sinkReceive, hnone] at h₁
  simp only at h₁
  split at h₁
  · obtain ⟨builder, e₂, -, -⟩ := sinkSendFailTo_spec H h 0 .timeout s.borrowerEndpoint
    rw [sinkSendFail, e₂, ok_bind] at h₁
    cases h₁
    rfl
  · cases h₁
    rfl

/-- Where something is received, it becomes the reading behind the messages. -/
theorem sinkUpdate_heard_recvTime (h : SinkInv s) {p : Bytes × Nat × UdpEndpoint}
    (hsome : udpSocketReceiveFrom s.recvBuf sinkRecvBufLen dg = some p) (e : sinkUpdate H clock s dg = .ok s') :
    s'.lastRecvTime = clock.received := by
  unfold sinkUpdate at e
  obtain ⟨s₁, h₁, e⟩ := bind_eq_ok.mp e
  have hi := sinkReceive_inv H h h₁
  rw [sinkSend_recvTime hi e]
  rw [sinkReceive, hsome] at h₁
  obtain ⟨s₂, -, h₁⟩ := bind_eq_ok.mp h₁
  cases h₁
  rfl

/-- A message that fits is received. -/
theorem atollaSinkState_heard_recvTime (h : SinkInv s) (hs : s.state ≠ .stateError) {m : WireMsg}
    (hfit : m.bytes.length ≤ sinkRecvBufLen) {sender : UdpEndpoint}
    (e : atollaSinkState H clock s (some ⟨m.bytes, sender⟩) = .ok s') : s'.lastRecvTime = clock.received := by
  rw [atollaSinkState, if_pos hs] at e
  exact sinkUpdate_heard_recvTime h (udpSocketReceiveFrom_fits sender m.bytes_ne_nil hfit) e

end Silent

section Run

variable {H : Host} {s s' : Sink} {t t' : Nat} {heard : List (Nat × UdpEndpoint)} {clock : SinkClock}
  {dg : Option Datagram}

/-- A step of the clock, without a datagram. -/
theorem TimedInv.pass (h : TimedInv s t heard) (ht : t ≤ t') (hwrap : t' < 2 ^ 32) (hi : SinkInv s')
    (htime : s'.lastRecvTime = s.lastRecvTime) (hlent : s'.state = .stateLent →
      s.state = .stateLent ∧ udpEndpointEqual s'.borrowerEndpoint s.borrowerEndpoint = true) :
    TimedInv s' t' heard where
  inv := hi
  wrap := hwrap
  past p hp := (h.past p hp).trans ht
  last p hp := by
    rw [htime]
    exact h.last p hp
  borrower hs' := by
    obtain ⟨hs, heq⟩ := hlent hs'
    obtain ⟨p, hp, hpb⟩ := h.borrower hs
    exact ⟨p, hp, udpEndpointEqual_trans hpb (udpEndpointEqual_symm heq)⟩

/-- **An update** keeps the invariant. -/
theorem TimedInv.update (h : TimedInv s t heard) (ht : t ≤ t') (hwrap : t' < 2 ^ 32)
    (hclock : clock.received = UInt32.ofNat t') (e : atollaSinkState H clock s dg = .ok s') :
    TimedInv s' t' (heard ++ s.hears t' dg) := by
  have hi := atollaSinkState_inv H h.inv e
  by_cases hs : s.state = .stateError
  · rw [Sink.hears, if_pos hs, List.append_nil]
    rw [atollaSinkState, if_neg (not_not.mpr hs)] at e
    cases e
    exact h.pass ht hwrap h.inv rfl fun hlent => ⟨hlent, udpEndpointEqual_refl _⟩
  · rw [Sink.hears, if_neg hs]
    cases hrecv : udpSocketReceiveFrom s.recvBuf sinkRecvBufLen dg with
    | none =>
      have hsteps := sinkCall_steps (c := .state clock none) (show atollaSinkState H clock s none = .ok s' by
        rw [← atollaSinkState_empty hrecv]
        exact e)
      rw [atollaSinkState, if_pos hs] at e
      simp only [Option.map_none, Option.toList_none, List.append_nil]
      refine h.pass ht hwrap hi (sinkUpdate_silent_recvTime h.inv hrecv e) fun hlent => ?_
      rcases lentTo_of_steps h.inv hsteps hlent with hold | ⟨clock', datagram, hc, -⟩
      · exact hold
      · cases hc
    | some p =>
      obtain ⟨recvBuf, received, sender⟩ := p
      cases dg with
      | none => cases hrecv
      | some datagram =>
        obtain ⟨rfl, -⟩ := iterOver_make hrecv
        have hsteps := sinkCall_steps (c := .state clock (some datagram)) e
        rw [atollaSinkState, if_pos hs] at e
        refine ⟨hi, hwrap, fun q hq => ?_, fun q hq => ?_, fun hlent => ?_⟩
        · rcases List.mem_append.mp hq with hq | hq
          · exact (h.past q hq).trans ht
          · rw [List.mem_singleton.mp hq]
        · have hlast : (t', datagram.sender) = q := by
            simpa using hq
          subst hlast
          refine ⟨(sinkUpdate_heard_recvTime h.inv hrecv e).trans hclock, fun r hr => ?_⟩
          rcases List.mem_append.mp hr with hr | hr
          · exact (h.past r hr).trans ht
          · rw [List.mem_singleton.mp hr]
        · rcases lentTo_of_steps h.inv hsteps hlent with ⟨hold, heq⟩ | ⟨clock', datagram', hc, heq⟩
          · obtain ⟨q, hq, hqb⟩ := h.borrower hold
            exact ⟨q, List.mem_append_left _ hq, udpEndpointEqual_trans hqb (udpEndpointEqual_symm heq)⟩
          · cases hc
            exact ⟨(t', datagram.sender), List.mem_append_right _ (List.mem_singleton_self _), heq⟩

theorem TimedInv.get (h : TimedInv s t heard) (ht : t ≤ t') (hwrap : t' < 2 ^ 32) {now : UInt32} {frame : Bytes}
    (e : sinkCall H s (.get now frame) = .ok s') : TimedInv s' t' heard := by
  have hi := sinkCall_inv h.inv e
  have hsteps := sinkCall_steps e
  refine h.pass ht hwrap hi ?_ fun hlent => ?_
  · obtain ⟨r, hr, he⟩ := bind_eq_ok.mp e
    cases he
    by_cases hs : s.state = .stateLent
    · obtain ⟨s₁, e₁, hshown⟩ := atollaSinkGet_lent h.inv hs now frame
      rw [e₁, Except.ok.injEq] at hr
      rw [← hr, hshown.same]
    · rw [atollaSinkGet_idle hs, Except.ok.injEq] at hr
      rw [← hr]
  · rcases lentTo_of_steps h.inv hsteps hlent with hold | ⟨clock', datagram, hc, -⟩
    · exact hold
    · cases hc

/-- **Every run** satisfies the invariant. -/
theorem Timed.inv (h : Timed H s t heard) : TimedInv s t heard := by
  induction h with
  | @make spec bound s t e hwrap =>
    refine ⟨reachable_inv (.make e), hwrap, by simp, by simp, fun hlent => ?_⟩
    obtain ⟨n, -, -, -, rfl⟩ := atollaSinkMake_fresh e
    cases bound <;> cases hlent
  | update _ ht hwrap hclock e ih => exact ih.update ht hwrap hclock e
  | get _ ht hwrap e ih => exact ih.get ht hwrap e

/-- The last time an endpoint was heard is that of a datagram. -/
theorem mem_of_heardFrom {endpoint : UdpEndpoint} {last : Nat} (h : last ∈ heardFrom endpoint heard) :
    ∃ p ∈ heard, p.1 = last := by
  rw [heardFrom, Option.mem_def, Option.map_eq_some_iff] at h
  obtain ⟨p, hp, rfl⟩ := h
  exact ⟨p, (List.mem_filter.mp (List.mem_of_getLast? hp)).1, rfl⟩

theorem heardFrom_isSome {endpoint : UdpEndpoint} {p : Nat × UdpEndpoint} (hp : p ∈ heard)
    (he : udpEndpointEqual p.2 endpoint = true) : ∃ last, heardFrom endpoint heard = some last := by
  have hne : heard.filter (fun p => udpEndpointEqual p.2 endpoint) ≠ [] :=
    List.ne_nil_of_mem (List.mem_filter.mpr ⟨hp, he⟩)
  exact ⟨_, by rw [heardFrom, List.getLast?_eq_some_getLast hne]; rfl⟩

/-- **The timeout of the borrower**: an update of a lent sink that finds no datagram ends the session exactly when the
borrower was not heard for more than 1500 ms, iff the borrower was heard since then or nobody was. -/
theorem timeout_iff (h : Timed H s t heard) (hs : s.state = .stateLent) (ht : t ≤ t') (hwrap : t' < 2 ^ 32)
    (hnone : udpSocketReceiveFrom s.recvBuf sinkRecvBufLen dg = none) (hclock : clock.received = UInt32.ofNat t')
    (e : sinkUpdate H clock s dg = .ok s') :
    (s.TimesOut s' ↔ ∃ last ∈ heardFrom s.borrowerEndpoint heard, last + 1500 < t') ↔
      (∃ last ∈ heardFrom s.borrowerEndpoint heard, t' ≤ last + 1500) ∨ ∀ p ∈ heard, p.1 + 1500 < t' := by
  have hi := h.inv
  obtain ⟨p, hp, hpb⟩ := hi.borrower hs
  obtain ⟨last, hlast⟩ := heardFrom_isSome hp hpb
  obtain ⟨q, hq, hqlast⟩ := mem_of_heardFrom hlast
  -- the datagram that was received last, whoever sent it
  obtain ⟨r, hr⟩ : ∃ r, heard.getLast? = some r := ⟨_, List.getLast?_eq_some_getLast (List.ne_nil_of_mem hp)⟩
  obtain ⟨htime, hmax⟩ := hi.last r hr
  have hrmem := List.mem_of_getLast? hr
  have hrt := hi.past r hrmem
  have hlate : dropTimeout < clock.received - s.lastRecvTime ↔ r.1 + 1500 < t' := by
    rw [hclock, htime, ← UInt32.ofNat_sub (by omega), UInt32.lt_iff_toNat_lt, UInt32.toNat_ofNat',
      Nat.mod_eq_of_lt (by omega)]
    show 1500 < t' - r.1 ↔ _
    omega
  have hout : s.TimesOut s' ↔ r.1 + 1500 < t' := by
    obtain ⟨hdrop, hstay⟩ := sinkUpdate_silent hi.inv hs hnone e
    rw [← hlate]
    refine ⟨fun hto => ?_, hdrop⟩
    by_contra hl
    have hlent := hstay hl
    rw [hto.1] at hlent
    cases hlent
  have hall : (∀ p ∈ heard, p.1 + 1500 < t') ↔ r.1 + 1500 < t' := by
    refine ⟨fun hall => hall r hrmem, fun hlt p hp => ?_⟩
    have := hmax p hp
    omega
  have hqr := hmax q hq
  rw [hout, hall, hlast]
  simp only [Option.mem_some_iff, exists_eq_left']
  omega

end Run

/-- A clock that stands still. -/
def exampleClockAt (t : Nat) : SinkClock := ⟨fun _ => UInt32.ofNat t, UInt32.ofNat t, UInt32.ofNat t, UInt32.ofNat t⟩

/-- A sink of one light that was borrowed at 1000 ms. -/
theorem example_timed :
    ∃ s, Timed exampleHost s 1000 [(1000, exampleEndpoint)] ∧ s.state = .stateLent ∧
      s.borrowerEndpoint = exampleEndpoint := by
  obtain ⟨s, hs⟩ := exists_firstSession exampleHost (d := 20) (n := 1) (by decide) (by decide) exampleClock
    exampleEndpoint
  have hmake : Timed exampleHost (freshSink exampleHost 1 true) 1000 [] :=
    .make (freshSink_make exampleHost (Nat.le_refl 1) (by decide) true) (by decide)
  exact ⟨s, hmake.update (Nat.le_refl 1000) (by decide) rfl hs.call, hs.session.state, hs.session.borrower⟩

/-- With the borrower alone the sink times out 1500 ms behind its last datagram. -/
theorem timeout_alone :
    ∃ s s', Timed exampleHost s 1000 [(1000, exampleEndpoint)] ∧
      sinkUpdate exampleHost (exampleClockAt 2501) s none = .ok s' ∧ s.TimesOut s' := by
  obtain ⟨s, h, hs, hb⟩ := example_timed
  obtain ⟨s', e⟩ := sinkUpdate_none h.inv.inv (exampleClockAt 2501)
  have hiff := timeout_iff h hs (by decide : 1000 ≤ 2501) (by decide) rfl rfl e
  rw [hb] at hiff
  exact ⟨s, s', h, e, (hiff.mpr (.inr (by decide))).mpr (by decide)⟩

/-- **A stranger postpones the timeout**: it is heard at 2000 ms, and at 3000 ms the sink is still lent to an endpoint
that was heard last at 1000 ms. -/
theorem timeout_postponed :
    ∃ s s', Timed exampleHost s 2000 [(1000, exampleEndpoint), (2000, otherEndpoint)] ∧ s.state = .stateLent ∧
      heardFrom s.borrowerEndpoint [(1000, exampleEndpoint), (2000, otherEndpoint)] = some 1000 ∧
      sinkUpdate exampleHost (exampleClockAt 3000) s none = .ok s' ∧ s'.state = .stateLent ∧ ¬s.TimesOut s' := by
  obtain ⟨s, h, hs, hb⟩ := example_timed
  -- the sink answers a LENT of the stranger by a FAIL
  set m : WireMsg := ⟨1, 0, [], by decide⟩ with hm
  obtain ⟨s₁, e₁, hi₁, hsame₁⟩ := sinkSendFailTo_same exampleHost
    (h.inv.inv.withRecvBuf (m.bytes ++ s.recvBuf.drop 5)) 0 .badMsg otherEndpoint
  obtain ⟨s₂, e₂, -, hsame₂⟩ := sinkSend_same exampleHost (hi₁.withRecvTime 2000) (exampleClockAt 2000)
  have e : atollaSinkState exampleHost (exampleClockAt 2000) s (some ⟨m.bytes, otherEndpoint⟩) = .ok s₂ := by
    rw [atollaSinkState_one exampleHost (by simp [hs]) (r := .other) rfl (by decide)]
    show sinkSendFailTo exampleHost _ 0 .badMsg otherEndpoint >>= _ = _
    rw [show s.recvBuf.drop m.bytes.length = s.recvBuf.drop 5 from rfl, e₁]
    exact e₂
  have hsame : SameSession s s₂ := SameSession.trans (SameSession.trans ⟨rfl⟩ hsame₁) (SameSession.trans ⟨rfl⟩ hsame₂)
  have hheard : s.hears 2000 (some ⟨m.bytes, otherEndpoint⟩) = [(2000, otherEndpoint)] := by
    rw [Sink.hears, if_neg (by simp [hs])]
    rfl
  have h₂ := h.update (by decide : 1000 ≤ 2000) (by decide) rfl e
  rw [hheard] at h₂
  obtain ⟨s', e'⟩ := sinkUpdate_none (H := exampleHost) h₂.inv.inv (exampleClockAt 3000)
  have hlent := hsame.state.trans hs
  have hlate : ¬dropTimeout < (exampleClockAt 3000).received - s₂.lastRecvTime := by
    rw [(h₂.inv.last (2000, otherEndpoint) rfl).1]
    decide
  have hsilent := (sinkUpdate_silent h₂.inv.inv hlent rfl e').2 hlate
  refine ⟨s₂, s', h₂, hlent, ?_, e', hsilent, fun hto => ?_⟩
  · rw [hsame.borrower, hb]
    decide
  · rw [hto.1] at hsilent
    cases hsilent

end Atolla

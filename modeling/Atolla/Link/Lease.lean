import Atolla.Link.Reached

/-!
# Who holds the sink

In a run of a network of sources, strangers and a sink a source is open only if a step lent the sink to its endpoint
(`open_was_lent`), every frame that the sink stored was stored by a step in which it took the frame from a source it was
lent to, unless a stranger sent it (`stored_was_put`), and the error of a source names what happened in a step of the
run (`error_names_reason`). All three rest on logs that only grow: what the sink sent, and what it stored.
-/

set_option autoImplicit false

namespace Atolla

open Loop Past Pattern

/-! ## Reasons -/

/-- The error code of a reply. -/
def Reply.error : Reply → Option ErrorCode
  | .lent => none
  | .fail _ code => some code

/-- Two replies of the same bytes tell the same. -/
theorem Reply.error_eq {id id' : UInt16} {r r' : Reply} (h : r.bytes id = r'.bytes id') : r.error = r'.error := by
  cases r with
  | lent =>
    cases r' with
    | lent => rfl
    | fail o' code' => simp [Reply.bytes, encode] at h
  | fail o code =>
    cases r' with
    | lent => simp [Reply.bytes, encode] at h
    | fail o' code' =>
      simp only [Reply.bytes, encode, failPayload, List.cons_append, List.nil_append, List.cons.injEq] at h
      have hcode : code.toByte = code'.toByte := by simp_all
      cases code <;> cases code' <;> first | rfl | cases hcode

section Reasons

variable {ι : Type} [DecidableEq ι] (H : Host) (peers : ι → Peer)

/-- The sink is lent to this endpoint, under its name. -/
def Network.LentTo (endpoint : UdpEndpoint) (n : Network ι) : Prop := ∃ d, n.sink.lease = some (endpoint, d)

/-- In a step the sink takes a datagram of this endpoint with this request. -/
def Network.Takes (n n' : Network ι) (endpoint : UdpEndpoint) (r : Request) : Prop :=
  ∃ clock, ∃ m : WireMsg, m.request = some r ∧ n.Reaches peers ⟨m.bytes, endpoint⟩ ∧
    networkStep H peers n (.sink (.state clock (some ⟨m.bytes, endpoint⟩))) = .ok n'

/-- **Why the sink refuses** something of an endpoint, in a step. -/
inductive Reason (n n' : Network ι) (endpoint : UdpEndpoint) : ErrorCode → Prop
  /-- A frame that a source put arrives when the sink is not lent. -/
  | notBorrowed {i : ι} {idx : UInt8} {frame : Bytes} : udpEndpointEqual endpoint (peers i).endpoint = true →
      frame ∈ n.puts i → n.Takes H peers n' endpoint (.enqueue idx frame) → n.sink.state = .stateOpen →
      Reason n n' endpoint .notBorrowed
  /-- A source asks for more frames than the sink has room for. -/
  | tooLarge {i : ι} {frameLength bufferLength : UInt8} : udpEndpointEqual endpoint (peers i).endpoint = true →
      n.Takes H peers n' endpoint (.borrow frameLength bufferLength) → bufferLength.toNat = (peers i).bufferByte →
      128 < bufferLength.toNat → Reason n n' endpoint .requestedBufferTooLarge
  /-- A source asks for frames that are too short. -/
  | tooShort {i : ι} {frameLength bufferLength : UInt8} : udpEndpointEqual endpoint (peers i).endpoint = true →
      n.Takes H peers n' endpoint (.borrow frameLength bufferLength) → frameLength.toNat = (peers i).durationByte →
      frameLength.toNat < 10 → Reason n n' endpoint .requestedFrameDurationTooShort
  /-- Something of a source arrives when the sink is lent to someone else. -/
  | lentToOther {i : ι} {r : Request} {other : UdpEndpoint} : udpEndpointEqual endpoint (peers i).endpoint = true →
      (peers i).Asks (n.puts i) r → n.Takes H peers n' endpoint r → n.LentTo other →
      udpEndpointEqual endpoint other = false → Reason n n' endpoint .lentToOtherSource
  /-- A frame of less than a color arrives, that a source put. -/
  | badMsg {i : ι} {idx : UInt8} {frame : Bytes} : udpEndpointEqual endpoint (peers i).endpoint = true →
      frame ∈ n.puts i → n.Takes H peers n' endpoint (.enqueue idx frame) → frame.length < 3 →
      Reason n n' endpoint .badMsg
  /-- The sink was lent to this endpoint, finds nothing for too long and drops the borrow. -/
  | timeout {clock : SinkClock} {dg : Option Datagram} : n.LentTo endpoint →
      networkStep H peers n (.sink (.state clock dg)) = .ok n' → LosesBorrower clock dg n.sink n'.sink →
      Reason n n' endpoint .timeout

/-- **A frame of a source is stored** in a step: the sink takes it from an endpoint that it is lent to. -/
def Network.Put (n n' : Network ι) (g : Bytes) (endpoint : UdpEndpoint) : Prop :=
  ∃ i, udpEndpointEqual endpoint (peers i).endpoint = true ∧ ∃ idx, ∃ frame ∈ n.puts i, 3 ≤ frame.length ∧
    g = cycle n.sink.frameLen frame ∧ n.Takes H peers n' endpoint (.enqueue idx frame) ∧
    ∃ borrower, n.LentTo borrower ∧ udpEndpointEqual endpoint borrower = true

/-- **What the sink sends in a step**: a LENT to whom it is lent then, or a FAIL with its reason. -/
inductive Network.Sends (n n' : Network ι) : Bytes × UdpEndpoint → Prop
  | stranger {d : Bytes × UdpEndpoint} : Stranger peers d.2 → Sends n n' d
  | lent {endpoint : UdpEndpoint} (id : UInt16) : n'.LentTo endpoint → Sends n n' (Reply.lent.bytes id, endpoint)
  | fail {endpoint : UdpEndpoint} (id offending : UInt16) {code : ErrorCode} : Reason H peers n n' endpoint code →
      Sends n n' ((Reply.fail offending code).bytes id, endpoint)

end Reasons

section Logs

variable {ι : Type} [DecidableEq ι] {H : Host} {peers : ι → Peer} {n n' : Network ι} {i : ι}
  {steps : List (Network ι × Network ι)}

/-! ## What the sink sends -/

/-- **The answers** of the sink to a request of a source. -/
theorem answer_justified {sender : UdpEndpoint} (heq : udpEndpointEqual sender (peers i).endpoint = true)
    (halive : n.sink.state ≠ .stateError) {id : UInt16} {r : Request} (hasks : (peers i).Asks (n.puts i) r)
    (htakes : n.Takes H peers n' sender r) {reply : Reply}
    (hreply : reply ∈ (n.sink.session.answer sender id r).1) :
    (reply = .lent ∧ (n.sink.session.answer sender id r).2 = .lent sender) ∨
      ∃ code, reply = .fail id code ∧ Reason H peers n n' sender code := by
  have hforeign : n.sink.session.Foreign sender → Reason H peers n n' sender .lentToOtherSource := by
    intro hf
    obtain ⟨hlent, hne⟩ := Sink.session_foreign hf
    exact .lentToOther heq hasks htakes ⟨_, Sink.lease_lent hlent⟩ hne
  cases hasks with
  | @borrow fl bl hfl hbl =>
    cases he : n.sink.session.borrowError sender fl bl with
    | none =>
      rw [Session.answer_borrow he] at hreply ⊢
      exact .inl ⟨(Option.some.inj hreply).symm, rfl⟩
    | some code =>
      rw [Session.answer_borrow_error he] at hreply
      refine .inr ⟨code, (Option.some.inj hreply).symm, ?_⟩
      unfold Session.borrowError at he
      split at he
      · rename_i hf
        cases he
        exact hforeign hf
      split at he
      · rename_i hlarge
        cases he
        exact .tooLarge heq htakes hbl hlarge
      split at he
      · rename_i hshort
        cases he
        exact .tooShort heq htakes hfl hshort
      · cases he
  | @enqueue idx frame hf =>
    cases he : n.sink.session.enqueueError sender frame with
    | none =>
      rw [Session.answer_enqueue he] at hreply
      cases hreply
    | some code =>
      rw [Session.answer_enqueue_error he] at hreply
      refine .inr ⟨code, (Option.some.inj hreply).symm, ?_⟩
      by_cases hlent : n.sink.state = .stateLent
      · rw [Sink.session_lent hlent] at he hforeign
        simp only [Session.enqueueError] at he
        split at he
        · rename_i h3
          cases he
          exact .badMsg heq hf htakes h3
        split at he
        · rename_i hother
          cases he
          exact hforeign hother
        · cases he
      · rw [Sink.session, if_neg hlent] at he
        cases he
        have hopen : n.sink.state = .stateOpen := by
          cases hst : n.sink.state with
          | stateError => exact absurd hst halive
          | stateOpen => rfl
          | stateLent => exact absurd hst hlent
        exact .notBorrowed heq hf htakes hopen

omit [DecidableEq ι] in
theorem Network.lentTo (hs : n.sink.state = .stateLent) : n.LentTo n.sink.borrowerEndpoint := ⟨_, Sink.lease_lent hs⟩

theorem Network.Sends.lentTo {id : UInt16} {endpoint : UdpEndpoint}
    (h : n.Sends H peers n' (Reply.lent.bytes id, endpoint)) (hno : ¬Stranger peers endpoint) : n'.LentTo endpoint := by
  generalize hd : (Reply.lent.bytes id, endpoint) = d at h
  cases h with
  | stranger hs =>
    rw [← hd] at hs
    exact absurd hs hno
  | lent id' hl =>
    obtain ⟨-, rfl⟩ := Prod.mk.inj hd
    exact hl
  | fail id' offending hreason => cases Reply.error_eq (Prod.mk.inj hd).1

/-- **An update with a request of a source.** -/
theorem request_sent {m : WireMsg} {r : Request} {sender : UdpEndpoint}
    (heq : udpEndpointEqual sender (peers i).endpoint = true) (halive : n.sink.state ≠ .stateError)
    (hasks : (peers i).Asks (n.puts i) r) (htakes : n.Takes H peers n' sender r)
    (hup : Updates n.sink n'.sink sender m.id r) :
    ∃ sent, n'.sink.socket = n.sink.socket ++ sent ∧ ∀ d ∈ sent, n.Sends H peers n' d := by
  obtain ⟨lents, hsocket, hlents⟩ := hup.socket
  refine ⟨_, by rw [hsocket, List.append_assoc], fun d hd => ?_⟩
  rcases List.mem_append.mp hd with hd | hd
  · cases hreply : (n.sink.session.answer sender m.id r).1 with
    | none =>
      rw [hreply] at hd
      cases hd
    | some reply =>
      rw [hreply] at hd
      rw [List.mem_singleton.mp hd]
      rcases answer_justified heq halive hasks htakes hreply with ⟨rfl, hafter⟩ | ⟨code, rfl, hreason⟩
      · have hsession : n'.sink.session = .lent sender := hup.session.trans hafter
        have hlent : n'.sink.state = .stateLent := by
          by_contra hne
          rw [Sink.session, if_neg hne] at hsession
          cases hsession
        rw [Sink.session_lent hlent, Session.lent.injEq] at hsession
        exact .lent _ (hsession ▸ Network.lentTo hlent)
      · exact .fail _ _ hreason
  · obtain ⟨hlent, hto, id, hbytes⟩ := hlents d hd
    have hd' : d = (Reply.lent.bytes id, n'.sink.borrowerEndpoint) := Prod.ext hbytes hto
    rw [hd']
    exact .lent id (Network.lentTo hlent)

/-- **A step** sends what is justified. -/
theorem step_sent (hr : (network H peers).Reached n) (hs : (network H peers).step n n') :
    ∃ sent, n'.sink.socket = n.sink.socket ++ sent ∧ ∀ d ∈ sent, n.Sends H peers n' d := by
  have hinv := networkReached_inv hr
  have hnone : n'.sink.socket = n.sink.socket →
      ∃ sent, n'.sink.socket = n.sink.socket ++ sent ∧ ∀ d ∈ sent, n.Sends H peers n' d := by
    intro hsame
    exact ⟨[], by rw [hsame, List.append_nil], fun d hd => by cases hd⟩
  obtain ⟨a, ha, e⟩ := hs
  cases a with
  | update i env =>
    obtain ⟨source, -, e⟩ := bind_eq_ok.mp e
    cases e
    exact hnone rfl
  | sleep i env now later =>
    obtain ⟨⟨timeout, source⟩, -, e⟩ := bind_eq_ok.mp e
    cases e
    exact hnone rfl
  | put i env frame =>
    obtain ⟨⟨sent, source⟩, -, e⟩ := bind_eq_ok.mp e
    cases e
    exact hnone rfl
  | sink c =>
    have hnext := e
    obtain ⟨s', e₁, e⟩ := bind_eq_ok.mp e
    cases e
    by_cases halive : n.sink.state = .stateError
    · exact hnone (congrArg Sink.socket (sinkCall_error halive e₁))
    by_cases hsource : ∃ datagram ∈ c.datagram, ¬Stranger peers datagram.sender
    · obtain ⟨datagram, hd, hno⟩ := hsource
      obtain ⟨i, m, r, heq, hbytes, hreq, hfit, hasks⟩ := (hinv.reaches (ha datagram hd)).resolve_left hno
      cases c with
      | get now frame => cases hd
      | state clock dg =>
        obtain rfl : dg = some datagram := hd
        have hreaches := ha datagram rfl
        rw [hbytes] at e₁ hnext hreaches
        exact request_sent heq halive hasks ⟨clock, m, hreq, hreaches, hnext⟩
          (atollaSinkState_request hinv.sink halive hreq hfit e₁)
    · obtain ⟨sent, hsent, hall⟩ := sinkCall_sent hinv.sink e₁
      refine ⟨sent, hsent, fun d hd => ?_⟩
      obtain ⟨id, r, hbytes, hsends⟩ := hall d hd
      obtain ⟨bytes, endpoint⟩ := d
      obtain rfl : bytes = _ := hbytes
      cases hsends with
      | @answer clock datagram r hc =>
        refine .stranger ?_
        by_contra hno
        exact hsource ⟨datagram, by rw [hc]; rfl, hno⟩
      | @timeout clock dg hc hlost =>
        subst hc
        exact .fail id 0 (.timeout (Network.lentTo hlost.lent) hnext hlost)
      | lent hlent => exact .lent id (Network.lentTo hlent)

/-- **What the sink sent**, it sent in a step of the run. -/
theorem sink_sent (hr : (network H peers).Runs steps n) {d : Bytes × UdpEndpoint} (hd : d ∈ n.sink.socket) :
    ∃ t ∈ steps, d ∈ t.2.sink.socket.drop t.1.sink.socket.length ∧ t.1.Sends H peers t.2 d := by
  have hinit : ∀ m : Network ι, (network H peers).init m → m.sink.socket = [] := by
    rintro m ⟨-, ⟨spec, bound, hsink⟩, -⟩
    obtain ⟨lights, -, -, -, hfresh⟩ := atollaSinkMake_fresh hsink
    rw [hfresh]
    rfl
  obtain ⟨k, hk⟩ := List.mem_iff_getElem?.mp hd
  obtain ⟨t, ht, hle, hwritten, hsends⟩ := System.Runs.log (L := fun n : Network ι => n.sink.socket)
    (R := fun n n' d => n.Sends H peers n' d) hinit (fun n n' hr hs => step_sent hr hs) hr hk
  refine ⟨t, ht, List.mem_iff_getElem?.mpr ⟨k - t.1.sink.socket.length, ?_⟩, hsends⟩
  rw [List.getElem?_drop, Nat.add_sub_cancel' hle]
  exact hwritten

/-! ## What the sink stores -/

/-- **An update with a request of a source** stores nothing but a frame of its own. -/
theorem request_stored {m : WireMsg} {r : Request} {sender : UdpEndpoint}
    (heq : udpEndpointEqual sender (peers i).endpoint = true) (hasks : (peers i).Asks (n.puts i) r)
    (htakes : n.Takes H peers n' sender r) (hup : Updates n.sink n'.sink sender m.id r) :
    ∀ g ∈ n'.sink.enqueued.drop n.sink.enqueued.length, n.Put H peers n' g sender := by
  intro g hg
  have hsame : n'.sink.enqueued = n.sink.enqueued → n.Put H peers n' g sender := by
    intro hq
    rw [hq, List.drop_length] at hg
    cases hg
  cases hup.handled with
  | granted _ _ hq => exact hsame hq
  | kept _ hq => exact hsame hq
  | ended _ hq => exact hsame hq
  | @stored idx frame k he _ hq =>
    rw [hq, List.drop_left] at hg
    obtain ⟨hlent, hb, h3⟩ := Sink.takes_of_enqueueError he
    cases hasks with
    | enqueue _ hf =>
      exact ⟨i, heq, idx, frame, hf, h3, List.eq_of_mem_replicate hg, htakes, _, Network.lentTo hlent, hb⟩

/-- **A step** stores frames that a source put, or a stranger sent. -/
theorem step_stored (hr : (network H peers).Reached n) (hs : (network H peers).step n n') :
    ∃ new, n'.stored = n.stored ++ new ∧ ∀ p ∈ new, Stranger peers p.2 ∨ n.Put H peers n' p.1 p.2 := by
  have hinv := networkReached_inv hr
  have hnone : n'.stored = n.stored →
      ∃ new, n'.stored = n.stored ++ new ∧ ∀ p ∈ new, Stranger peers p.2 ∨ n.Put H peers n' p.1 p.2 := by
    intro hsame
    exact ⟨[], by rw [hsame, List.append_nil], fun p hp => by cases hp⟩
  obtain ⟨a, ha, e⟩ := hs
  cases a with
  | update i env =>
    obtain ⟨source, -, e⟩ := bind_eq_ok.mp e
    cases e
    exact hnone rfl
  | sleep i env now later =>
    obtain ⟨⟨timeout, source⟩, -, e⟩ := bind_eq_ok.mp e
    cases e
    exact hnone rfl
  | put i env frame =>
    obtain ⟨⟨sent, source⟩, -, e⟩ := bind_eq_ok.mp e
    cases e
    exact hnone rfl
  | sink c =>
    have hnext := e
    obtain ⟨s', e₁, e⟩ := bind_eq_ok.mp e
    cases e
    refine ⟨c.stores n.sink s', rfl, fun p hp => ?_⟩
    cases hd : c.datagram with
    | none =>
      rw [SinkCall.stores, hd] at hp
      cases hp
    | some datagram =>
      rw [SinkCall.stores, hd] at hp
      obtain ⟨g, hg, rfl⟩ := List.mem_map.mp hp
      rcases hinv.reaches (ha datagram hd) with hstranger | ⟨i, m, r, heq, hbytes, hreq, hfit, hasks⟩
      · exact .inl hstranger
      · right
        cases c with
        | get now frame => cases hd
        | state clock dg =>
          obtain rfl : dg = some datagram := hd
          by_cases halive : n.sink.state = .stateError
          · rw [sinkCall_error halive e₁, List.drop_length] at hg
            cases hg
          have hreaches := ha datagram rfl
          rw [hbytes] at e₁ hnext hreaches
          exact request_stored heq hasks ⟨clock, m, hreq, hreaches, hnext⟩
            (atollaSinkState_request hinv.sink halive hreq hfit e₁) g hg

/-! ## Main results -/

/-- **A source that is open** was lent the sink in a step of the run, on the terms of a source with its endpoint: its
own, unless another has the same. -/
theorem open_was_lent (hr : (network H peers).Runs steps n) (ho : (n.sources i).state = .stateOpen) :
    ∃ t ∈ steps, ∃ endpoint d, t.2.sink.lease = some (endpoint, d) ∧
      udpEndpointEqual endpoint (peers i).endpoint = true ∧ Borrows peers endpoint d := by
  obtain ⟨id, receiver, hm, heq⟩ := (networkReached_inv hr.reached).opened i ho
  have hno : ¬Stranger peers receiver := by
    intro hstranger
    rw [hstranger i] at heq
    cases heq
  obtain ⟨t, ht, -, hsends⟩ := sink_sent hr hm
  obtain ⟨d, hl⟩ := hsends.lentTo hno
  have hinv := networkReached_inv ((hr.mem ht).1.step (hr.mem ht).2)
  exact ⟨t, ht, receiver, d, hl, heq, (hinv.lease receiver d hl).resolve_left hno⟩

/-- **Every frame** that the sink has shown or holds was stored in a step of the run in which the sink took it from a
source that it was lent to, which had put it, of one color at least; or a stranger sent it. -/
theorem stored_was_put (hr : (network H peers).Runs steps n) :
    n.stored.map (·.1) = n.sink.dequeued ++ n.sink.pending ∧
      ∀ k p, n.stored[k]? = some p → ∃ t ∈ steps, t.1.stored.length ≤ k ∧ t.2.stored[k]? = some p ∧
        (Stranger peers p.2 ∨ t.1.Put H peers t.2 p.1 p.2) := by
  have hinv := networkReached_inv hr.reached
  refine ⟨hinv.stored.trans hinv.sink.history.symm, fun k p hp => ?_⟩
  refine System.Runs.log (L := fun n : Network ι => n.stored)
    (R := fun n n' p => Stranger peers p.2 ∨ n.Put H peers n' p.1 p.2) ?_ (fun n n' hr hs => step_stored hr hs) hr hp
  rintro m ⟨-, -, -, -, hstored⟩
  exact hstored

end Logs

/-! ## The two sources -/

theorem exists_exampleReached : ∃ n, exampleReached = some n ∧ (n.sources true).state = .stateOpen ∧
    n.sleeping true = false ∧ (n.sources false).errorMsg = some (failMsg 3) ∧
    n.stored = [([1, 2, 3], exampleEndpoint)] := by
  have hrun : (exampleReached.map fun n =>
      (((n.sources true).state, n.sleeping true), (n.sources false).errorMsg, n.stored)) =
      some ((.stateOpen, false), some (failMsg 3), [([1, 2, 3], exampleEndpoint)]) := by decide +kernel
  obtain ⟨n, e, hn⟩ := Option.map_eq_some_iff.mp hrun
  simp only [Prod.mk.injEq] at hn
  exact ⟨n, e, hn.1.1, hn.1.2, hn.2⟩

/-- The first source was lent the sink. -/
theorem open_was_lent_first : ∃ n steps, exampleReached = some n ∧ (network exampleHost examplePeer).Runs steps n ∧
    ∃ t ∈ steps, ∃ endpoint d, t.2.sink.lease = some (endpoint, d) ∧
      udpEndpointEqual endpoint exampleEndpoint = true ∧ Borrows examplePeer endpoint d := by
  obtain ⟨n, e, ho, -, -, -⟩ := exists_exampleReached
  obtain ⟨steps, hrun⟩ := (exampleReached_reached e).runs
  exact ⟨n, steps, e, hrun, open_was_lent (i := true) hrun ho⟩

/-- Its frame is there because it was put and the sink was lent to it. -/
theorem stored_was_put_first : ∃ n steps, exampleReached = some n ∧ (network exampleHost examplePeer).Runs steps n ∧
    ∃ t ∈ steps, t.2.stored[0]? = some ([1, 2, 3], exampleEndpoint) ∧
      t.1.Put exampleHost examplePeer t.2 [1, 2, 3] exampleEndpoint := by
  obtain ⟨n, e, -, -, -, hs⟩ := exists_exampleReached
  obtain ⟨steps, hrun⟩ := (exampleReached_reached e).runs
  obtain ⟨t, ht, -, hstored, hput⟩ := (stored_was_put hrun).2 0 ([1, 2, 3], exampleEndpoint) (by rw [hs]; rfl)
  have hno : ¬Stranger examplePeer exampleEndpoint := fun hstranger => by cases hstranger true
  exact ⟨n, steps, e, hrun, t, ht, hstored, hput.resolve_left hno⟩

end Atolla

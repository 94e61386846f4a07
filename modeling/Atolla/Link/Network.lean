import Atolla.Lib.Past
import Atolla.Link.Agreement
import Atolla.Sink.Sends
import Atolla.Source.Hears
import Mathlib.Data.Fintype.Basic

/-!
# Sources, strangers and a sink

Any number of sources send to one sink, and so does anyone else. What was sent once may arrive at any time, any number
of times or never, and in any order; nobody sends under the endpoint of a source but a source. A put of a source is
two updates, the update for its timeout and its send, so that everything else may go on in between, also while it
sleeps.

`NetworkInv` says what the sources sent and where the sink and the sources got their state from.
-/

set_option autoImplicit false

namespace Atolla

open Loop Past

/-! ## The system -/

/-- What is fixed of a source: its platform, its spec and the endpoint of its socket. -/
structure Peer where
  host : Host
  spec : AtollaSourceSpec
  endpoint : UdpEndpoint

/-- The state of the system. -/
structure Network (ι : Type) where
  sources : ι → Source
  sink : Sink
  /-- The sources whose put sleeps. -/
  sleeping : ι → Bool
  /-- History: the frames that each source put successfully. -/
  puts : ι → List Bytes
  /-- History: the frames that the sink stored, each with the sender of its datagram. -/
  stored : List (Bytes × UdpEndpoint)

/-- What happens next. -/
inductive NetworkAction (ι : Type) where
  /-- An update of a source. -/
  | update (i : ι) (env : SourceEnv)
  /-- The update of a put of an open source that tells how long it sleeps; the clock reads `now` and `later` behind
  it. -/
  | sleep (i : ι) (env : SourceEnv) (now later : UInt32)
  /-- The rest of that put. -/
  | put (i : ι) (env : PutEnv) (frame : Bytes)
  /-- A call of the sink. -/
  | sink (c : SinkCall)

/-- The datagram that a call of the sink finds. -/
def SinkCall.datagram : SinkCall → Option Datagram
  | .state _ datagram => datagram
  | .get .. => none

/-- The frames that a call stored, with the sender of its datagram. -/
def SinkCall.stores (c : SinkCall) (s s' : Sink) : List (Bytes × UdpEndpoint) :=
  match c.datagram with
  | some datagram => (s'.enqueued.drop s.enqueued.length).map (·, datagram.sender)
  | none => []

/-- What a call stores stands behind what was stored before. -/
theorem sinkCall_stores {H : Host} {c : SinkCall} {s s' : Sink} (h : SinkInv s) (e : sinkCall H s c = .ok s') :
    s'.enqueued = s.enqueued ++ (c.stores s s').map (·.1) := by
  have hprefix : s.enqueued <+: s'.enqueued := by
    have hsteps := sinkCall_steps e
    clear e
    induction hsteps with
    | refl => exact List.prefix_rfl
    | @tail t u hsteps hstep ih =>
      rcases hstep.enqueued (h.steps hsteps) with hsame | ⟨-, datagram, iter, frame, -, -, -, hmore⟩
      · rw [hsame]
        exact ih
      · rw [hmore]
        exact ih.trans (List.prefix_append _ _)
  obtain ⟨more, hmore⟩ := hprefix
  unfold SinkCall.stores
  cases hd : c.datagram with
  | some datagram =>
    have hfst : ((·.1) ∘ fun g : Bytes => (g, datagram.sender)) = id := rfl
    simp only [← hmore, List.drop_left, List.map_map, hfst, List.map_id]
  | none =>
    rw [List.map_nil, List.append_nil]
    refine sinkCall_enqueued h (fun clock datagram hc => ?_) e
    rw [hc] at hd
    cases hd

section System

variable {ι : Type} [DecidableEq ι] (H : Host) (peers : ι → Peer)

/-- The system after an action. -/
def networkStep (n : Network ι) : NetworkAction ι → Run (Network ι)
  | .update i env => do
    let source ← sourceUpdate (peers i).host env (n.sources i)
    return { n with sources := Function.update n.sources i source }
  | .sleep i env now later => do
    let (_, source) ← atollaSourcePutReadyTimeout (peers i).host env now later (n.sources i)
    return { n with
      sources := Function.update n.sources i source
      sleeping := Function.update n.sleeping i true }
  | .put i env frame => do
    let (sent, source) ← sourcePutFrame (peers i).host env (n.sources i) frame frame.length
    return { n with
      sources := Function.update n.sources i source
      sleeping := Function.update n.sleeping i false
      puts := if sent then Function.update n.puts i (n.puts i ++ [frame]) else n.puts }
  | .sink c => do
    let sink ← sinkCall H n.sink c
    return { n with sink := sink, stored := n.stored ++ c.stores n.sink sink }

/-- Nobody's endpoint. -/
def Stranger (endpoint : UdpEndpoint) : Prop := ∀ i, udpEndpointEqual endpoint (peers i).endpoint = false

/-- What a source finds: the socket is connected, so nothing but what the sink sent to it. -/
def Network.Hears (n : Network ι) (i : ι) (datagram : Option Bytes) : Prop :=
  ∀ bytes ∈ datagram, ∃ d ∈ n.sink.socket, d.1 = bytes ∧ udpEndpointEqual d.2 (peers i).endpoint = true

/-- What the sink finds: a datagram that a source sent, or a stranger. -/
def Network.Reaches (n : Network ι) (datagram : Datagram) : Prop :=
  (∃ i, udpEndpointEqual datagram.sender (peers i).endpoint = true ∧ datagram.bytes ∈ (n.sources i).sock) ∨
    Stranger peers datagram.sender

/-- The guards: nothing arrives that was not sent, a source that sleeps does nothing else, and the frames fit a datagram
of the sink. -/
def NetworkAction.Allowed (n : Network ι) : NetworkAction ι → Prop
  | .update i env => n.sleeping i = false ∧ n.Hears peers i env.datagram
  | .sleep i env _ _ => n.sleeping i = false ∧ (n.sources i).state = .stateOpen ∧ n.Hears peers i env.datagram
  | .put i _ frame => n.sleeping i = true ∧ frame.length ≤ 1016
  | .sink c => ∀ datagram ∈ c.datagram, n.Reaches peers datagram

instance [Fintype ι] (n : Network ι) : ∀ a : NetworkAction ι, Decidable (a.Allowed peers n)
  | .update i env => inferInstanceAs (Decidable (n.sleeping i = false ∧ ∀ bytes ∈ env.datagram, ∃ d ∈ n.sink.socket,
      d.1 = bytes ∧ udpEndpointEqual d.2 (peers i).endpoint = true))
  | .sleep i env _ _ => inferInstanceAs (Decidable (n.sleeping i = false ∧ (n.sources i).state = .stateOpen ∧
      ∀ bytes ∈ env.datagram, ∃ d ∈ n.sink.socket,
        d.1 = bytes ∧ udpEndpointEqual d.2 (peers i).endpoint = true))
  | .put i _ frame => inferInstanceAs (Decidable (n.sleeping i = true ∧ frame.length ≤ 1016))
  | .sink c => inferInstanceAs (Decidable (∀ datagram ∈ c.datagram,
      (∃ i, udpEndpointEqual datagram.sender (peers i).endpoint = true ∧ datagram.bytes ∈ (n.sources i).sock) ∨
        ∀ i, udpEndpointEqual datagram.sender (peers i).endpoint = false))

/-- The system after an action, if it is allowed and returns. -/
def networkNext [Fintype ι] (n : Network ι) (a : NetworkAction ι) : Option (Network ι) :=
  if a.Allowed peers n then (networkStep H peers n a).toOption else none

/-- **The network**: sources that were made, each up to its first BORROW, and a sink. A make that blocks goes on with
updates. -/
def network : System (Network ι) where
  init n := (∀ i, ∃ env, atollaSourceMake (peers i).host { (peers i).spec with asyncMake := true } env =
      .ok (n.sources i)) ∧ (∃ spec bound, atollaSinkMake H spec bound = .ok n.sink) ∧
    n.sleeping = (fun _ => false) ∧ n.puts = (fun _ => []) ∧ n.stored = []
  step n n' := ∃ a, a.Allowed peers n ∧ networkStep H peers n a = .ok n'

end System

/-! ## Calls are runs -/

/-- **A put** is two updates, and if the source is open then, the update for its timeout and the rest. -/
theorem atollaSourcePut_eq (H : Host) (env : PutEnv) (source : Source) (frame : Bytes) (frameLen : Nat) :
    atollaSourcePut H env source frame frameLen = (sourceUpdate H env.update source >>= fun s₁ =>
      sourceUpdate H env.state s₁ >>= fun s₂ =>
        if s₂.state ≠ .stateOpen then .ok (false, s₂) else
          atollaSourcePutReadyTimeout H env.timeout env.now env.later s₂ >>= fun r =>
            sourcePutFrame H env r.2 frame frameLen) := by
  rw [atollaSourcePut, sourcePutTimeout, bind_assoc]
  congr 1
  funext s₁
  rw [bind_assoc, atollaSourceState]
  congr 1
  funext s₂
  by_cases hs : s₂.state ≠ .stateOpen
  · rw [if_pos hs, if_pos hs]
    rfl
  · rw [if_neg hs, if_neg hs, bind_assoc]
    rfl

/-- A make that blocks is one that does not, and then updates. -/
theorem atollaSourceMake_blocking (H : Host) (spec : AtollaSourceSpec) (env : MakeEnv) (hb : spec.asyncMake = false) :
    atollaSourceMake H spec env = atollaSourceMake H { spec with asyncMake := true } env >>= fun source =>
      sourceAwaitMakeCompletion H env.updates source := by
  rw [atollaSourceMake_eq, atollaSourceMake_eq, bind_assoc]
  congr 1
  funext _
  rw [bind_assoc, hb]
  rfl

section Calls

variable {ι : Type} [DecidableEq ι] {H : Host} {peers : ι → Peer} {n : Network ι} {i : ι}

open Relation

theorem networkNext_step [Fintype ι] {a : NetworkAction ι} {n' : Network ι}
    (e : networkNext H peers n a = some n') : (network H peers).step n n' := by
  unfold networkNext at e
  split at e
  · rename_i ha
    refine ⟨a, ha, ?_⟩
    cases e' : networkStep H peers n a with
    | error f =>
      rw [e'] at e
      cases e
    | ok m =>
      rw [e'] at e
      exact congrArg Except.ok (Option.some.inj e)
  · cases e

/-- The network with another source. -/
def Network.withSource (n : Network ι) (i : ι) (source : Source) : Network ι :=
  { n with sources := Function.update n.sources i source }

@[simp] theorem Network.withSource_same (n : Network ι) (i : ι) (source : Source) :
    (n.withSource i source).sources i = source := by simp [withSource]

theorem Network.withSource_other (n : Network ι) {i j : ι} (hj : j ≠ i) (source : Source) :
    (n.withSource i source).sources j = n.sources j := by simp [withSource, hj]

theorem Network.withSource_self (n : Network ι) (i : ι) : n.withSource i (n.sources i) = n := by
  rw [withSource, Function.update_eq_self]

theorem Network.withSource_step {env : SourceEnv} {source source' : Source} (hawake : n.sleeping i = false)
    (hh : n.Hears peers i env.datagram) (e : sourceUpdate (peers i).host env source = .ok source') :
    (network H peers).step (n.withSource i source) (n.withSource i source') := by
  refine ⟨.update i env, ⟨hawake, hh⟩, ?_⟩
  rw [networkStep, withSource_same, e]
  show Except.ok _ = _
  rw [withSource, withSource, Function.update_idem]

/-- **The updates of a blocking make** are a run. -/
theorem Network.await_run (hawake : n.sleeping i = false) : ∀ {envs : List SourceEnv} {source source' : Source},
    (∀ env ∈ envs, n.Hears peers i env.datagram) →
    sourceAwaitMakeCompletion (peers i).host envs source = .ok source' →
      ReflTransGen (network H peers).step (n.withSource i source) (n.withSource i source')
  | [], source, source', _, e => by
    rw [sourceAwaitMakeCompletion] at e
    split at e
    · cases e
    · cases e
      exact .refl
  | env :: envs, source, source', hh, e => by
    rw [sourceAwaitMakeCompletion] at e
    split at e
    · obtain ⟨s₁, h₁, e⟩ := bind_eq_ok.mp e
      exact (ReflTransGen.single (withSource_step hawake (hh env List.mem_cons_self) h₁)).trans
        (await_run hawake (fun env henv => hh env (List.mem_cons_of_mem _ henv)) e)
    · cases e
      exact .refl

/-- **A put** whose updates find what the sink sent is a run. -/
theorem Network.put_run {env : PutEnv} {frame : Bytes} {sent : Bool} {source : Source} (hawake : n.sleeping i = false)
    (hfit : frame.length ≤ 1016) (h₁ : n.Hears peers i env.update.datagram) (h₂ : n.Hears peers i env.state.datagram)
    (h₃ : n.Hears peers i env.timeout.datagram)
    (e : atollaSourcePut (peers i).host env (n.sources i) frame frame.length = .ok (sent, source)) :
    ReflTransGen (network H peers).step n { n.withSource i source with
      puts := if sent then Function.update n.puts i (n.puts i ++ [frame]) else n.puts } := by
  rw [atollaSourcePut_eq] at e
  obtain ⟨s₁, e₁, e⟩ := bind_eq_ok.mp e
  obtain ⟨s₂, e₂, e⟩ := bind_eq_ok.mp e
  have hrun : ReflTransGen (network H peers).step n (n.withSource i s₂) := by
    have hself := n.withSource_self i
    have hstep₁ : (network H peers).step n (n.withSource i s₁) := by
      have h := withSource_step (H := H) hawake h₁ e₁
      rwa [hself] at h
    exact (ReflTransGen.single hstep₁).tail (withSource_step hawake h₂ e₂)
  split at e
  · cases e
    exact hrun
  · rename_i hopen
    obtain ⟨⟨timeout, s₃⟩, e₃, e₄⟩ := bind_eq_ok.mp e
    have hs₂ : ((n.withSource i s₂).sources i).state = .stateOpen := by
      rw [withSource_same]
      exact not_not.mp hopen
    -- the put falls asleep, and goes on
    have hstep₃ : (network H peers).step (n.withSource i s₂)
        { n.withSource i s₃ with sleeping := Function.update n.sleeping i true } := by
      refine ⟨.sleep i env.timeout env.now env.later, ⟨hawake, hs₂, h₃⟩, ?_⟩
      rw [networkStep, withSource_same, e₃]
      show Except.ok _ = _
      rw [withSource, withSource, Function.update_idem]
    have hawake' : Function.update (Function.update n.sleeping i true) i false = n.sleeping := by
      rw [Function.update_idem, ← hawake, Function.update_eq_self]
    refine (hrun.tail hstep₃).tail ⟨.put i env frame, ⟨Function.update_self i true n.sleeping, hfit⟩, ?_⟩
    rw [networkStep]
    show sourcePutFrame (peers i).host env ((n.withSource i s₃).sources i) frame frame.length >>= _ = _
    rw [withSource_same, e₄]
    show Except.ok _ = _
    rw [withSource, withSource, Function.update_idem, hawake']

end Calls

/-! ## Two sources and a sink of one light -/

def examplePeer (first : Bool) : Peer := ⟨exampleHost, exampleSpec 20, if first then exampleEndpoint else otherEndpoint⟩

/-- Before anything happens. -/
def exampleNetwork : Run (Network Bool) := do
  let source ← atollaSourceMake exampleHost (exampleSpec 20) exampleMake
  return ⟨fun _ => source, freshSink exampleHost 1 true, fun _ => false, fun _ => [], []⟩

/-- The update that hears a reply. -/
def exampleHears (id : UInt16) (r : Reply) : SourceEnv := ⟨some (r.bytes id), fun _ => 1000, 1000, 1000, true, 1000⟩

/-- The update that finds nothing. -/
def exampleSilence : SourceEnv := ⟨none, fun _ => 1000, 1000, 1000, true, 1000⟩

/-- A put that does not sleep. -/
def examplePutEnv : PutEnv := ⟨exampleSilence, exampleSilence, exampleSilence, 1000, 1000, true, 1000⟩

def exampleArrival (m : WireMsg) (sender : UdpEndpoint) : NetworkAction Bool :=
  .sink (.state exampleClock (some ⟨m.bytes, sender⟩))

/-- Both ask for the sink, the first one gets it and puts a frame, which arrives, and the second one hears why it does
not. -/
def exampleNetworkActions : List (NetworkAction Bool) :=
  [exampleArrival (.borrow 0 20 16) exampleEndpoint, exampleArrival (.borrow 0 20 16) otherEndpoint,
    .update true (exampleHears 0 .lent), .update false (exampleHears 1 (.fail 0 .lentToOtherSource)),
    .sleep true exampleSilence 1000 1000, .put true examplePutEnv [1, 2, 3],
    exampleArrival (.enqueue 1 0 [1, 2, 3] exampleFrame_le) exampleEndpoint]

/-- The network behind these actions. -/
def exampleReached : Option (Network Bool) :=
  exampleNetwork.toOption.bind fun n => exampleNetworkActions.foldlM (networkNext exampleHost examplePeer) n

theorem exampleNetwork_init {n : Network Bool} (e : exampleNetwork.toOption = some n) :
    (network exampleHost examplePeer).init n := by
  cases hmake : atollaSourceMake exampleHost (exampleSpec 20) exampleMake with
  | error f =>
    rw [exampleNetwork, hmake] at e
    cases e
  | ok source =>
    rw [exampleNetwork, hmake] at e
    cases e
    have hsink := freshSink_make exampleHost (Nat.le_refl 1) (by decide) true
    exact ⟨fun _ => ⟨exampleMake, hmake⟩, ⟨⟨0, 1⟩, true, hsink⟩, rfl, rfl, rfl⟩

theorem exampleReached_reached {n : Network Bool} (e : exampleReached = some n) :
    (network exampleHost examplePeer).Reached n := by
  obtain ⟨n₀, e₀, e⟩ := Option.bind_eq_some_iff.mp e
  exact System.Reached.foldlM (fun _ _ _ => networkNext_step) (.init (exampleNetwork_init e₀)) e

end Atolla

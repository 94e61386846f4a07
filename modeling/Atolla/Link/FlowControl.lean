import Atolla.Link.EndToEnd
import Atolla.Sink.Playback
import Atolla.Source.Pacing

/-!
# Flow control

The source holds its frames back by its own clock, and nothing tells it how full the ring of the sink is. What it goes
by is `last_frame_time`: a frame is sent no sooner than one frame duration behind it.
-/

set_option autoImplicit false

namespace Atolla

open Loop Pattern Playback

/-! ## A put and its arrival -/

theorem Stored.steady {s s' : Sink} {gs : List Bytes} {last : Int} (h : Stored s s' gs last) : Steady s s' := by
  refine ⟨h.inv, ?_, ?_, ?_, ?_⟩
  · rw [h.same]
  · rw [h.same]
  · rw [h.same]
  · rw [h.same]
    exact List.prefix_append _ _

/-- The system after a put whose datagram has arrived. -/
def Link.delivered (l : Link) (builder : MsgBuilder) (frame : Bytes) (after : UInt32) (sink : Sink) : Link where
  source := l.source.advanced builder frame after
  sink := sink
  taken := l.taken + 1
  puts := l.puts ++ [frame]
  sleeping := none

section Deliver

variable {H : Host} {spec : AtollaSourceSpec} {lights : Nat} {endpoint : UdpEndpoint} {l : Link}

/-- **A frame that is put and arrives at once**, with room for it, is stored. -/
theorem LinkInv.deliver (h : LinkInv spec lights endpoint l) (hl : l.sink.state = .stateLent)
    (hc : l.taken = l.source.sock.length) (hsl : l.sleeping ≠ none) {frame : Bytes} (h3 : 3 ≤ frame.length)
    (hfit : frame.length ≤ 1016) {env : PutEnv} (hsent : env.sent = true) (hroom : 1 ≤ l.sink.freeSlots)
    (clock : SinkClock) :
    ∃ builder l₁ sink s₁ last, linkStep H endpoint l (.put env frame) = .ok l₁ ∧
      linkStep H endpoint l₁ (.arrive clock) = .ok (l.delivered builder frame env.after sink) ∧
      LinkInv spec lights endpoint (l.delivered builder frame env.after sink) ∧
      l.taken + 1 = (l.source.advanced builder frame env.after).sock.length ∧
      Stored l.sink s₁ [cycle (3 * lights) frame] last ∧ SameSession s₁ sink ∧ SinkInv sink := by
  obtain ⟨ids, msgs, hs, -, ht⟩ := h.script
  obtain ⟨source, builder, more, e₁, hsource, hs', hsock, hmore⟩ := hs.put (H := H) hsl h3 hfit env
  rw [hsent] at e₁ hsource hs' hmore
  rw [if_pos rfl] at hsource hs' hmore
  have hlen : l.source.sock.length = ids.length + l.puts.length := by
    rw [hs.sock, List.length_append, List.length_map, hs.enqueues.length]
  have hlen' : source.sock.length = l.taken + 1 := by
    rw [hsock, List.length_append, hmore, hc]
  have hput : linkStep H endpoint l (.put env frame) =
      .ok { l with source := source, puts := l.puts ++ [frame], sleeping := none } := by
    rw [linkStep, e₁]
    rfl
  -- its datagram is the next one
  rcases hs'.datagram l.taken with ⟨hlt, -⟩ | ⟨hge, f, id, idx, hf, hput', ⟨hf3, hffit⟩, hidx, hi⟩ | hnone
  · omega
  · have hext : TakenInv lights spec.frameDurationMs.toNat endpoint (l.puts ++ [frame]) ids.length l.taken l.sink :=
      ht.extend (m := 0) (fun h0 => absurd rfl h0) (by omega)
    have hlast : l.taken - ids.length = l.puts.length := by omega
    have hframe : f = frame := by
      have hput'' : (l.puts ++ [frame])[l.taken - ids.length]? = some f := hput'
      rw [hlast, List.getElem?_concat_length, Option.some.injEq] at hput''
      exact hput''.symm
    subst hframe
    obtain ⟨sink, e₂, ht', hst⟩ := hext.enqueue (H := H) hge hput' hf3 hffit hidx hroom id clock
    obtain ⟨s₁, hstored, hsame⟩ := hst hl
    subst hsource
    refine ⟨builder, _, sink, s₁, _, hput, ?_, ⟨ids, msgs ++ more, hs'.withSink sink _, hlen'.ge, ht'⟩, hlen'.symm,
      hstored, hsame, ht'.inv⟩
    rw [linkStep, hi]
    show atollaSinkState H clock l.sink (some ⟨(WireMsg.enqueue id idx f hf).bytes, endpoint⟩) >>= _ = _
    rw [e₂]
    rfl
  · have hnone' : source.sock[l.taken]? = none := hnone
    rw [List.getElem?_eq_none_iff] at hnone'
    omega

end Deliver

/-! ## The system in time -/

/-- The system with its clock, a number of milliseconds that does not wrap. -/
structure FlowState where
  link : Link
  /-- The last step of the sink, or the last arrival. -/
  time : Nat
  lastGet : Nat
  /-- The last reading of the source. -/
  lastRead : Nat
  /-- When the put that sleeps goes on. -/
  wake : Nat
  /-- `last_frame_time`, counted like the clock; none before the first put. -/
  frameTime : Option Int

/-- What happens next. -/
inductive FlowAction where
  | update (env : SourceEnv)
  | poll (clock : SinkClock)
  /-- A get at `t`. -/
  | get (t : Nat) (buf : Bytes)
  /-- A put up to its sleep; the clock is read at `t₁` and `t₂`. -/
  | sleep (env : PutEnv) (t₁ t₂ : Nat)
  /-- Behind it: the frame is sent and handled by the sink at `t`, and the source reads the clock at `after`. -/
  | put (env : PutEnv) (frame : Bytes) (t after : Nat) (clock : SinkClock)

section Flow

variable (H : Host) (spec : AtollaSourceSpec) (endpoint : UdpEndpoint)

/-- `last_frame_time` behind a put, counted like the clock. -/
def FlowState.nextFrameTime (f : FlowState) (after : Nat) : Int :=
  if f.link.source.lastFrameTime = Source.NULL_TIME then after - (spec.bufferedFrames - 1) * spec.frameDurationMs
  else f.frameTime.getD 0 + spec.frameDurationMs

/-- The system after an action. -/
def flowStep (f : FlowState) : FlowAction → Run FlowState
  | .update env => do
    let link ← linkStep H endpoint f.link (.update env)
    return { f with link := link }
  | .poll clock => do
    let link ← linkStep H endpoint f.link (.poll clock)
    return { f with link := link }
  | .get t buf => do
    let link ← linkStep H endpoint f.link (.get (UInt32.ofNat t) buf)
    return { f with link := link, time := t, lastGet := t }
  | .sleep env t₁ t₂ => do
    let link ← linkStep H endpoint f.link (.sleep { env with now := UInt32.ofNat t₁, later := UInt32.ofNat t₂ })
    return { f with link := link, lastRead := t₂, wake := t₂ + (link.sleeping.getD 0).toNat }
  | .put env frame t after clock => do
    let link ← linkStep H endpoint f.link (.put { env with sent := true, after := UInt32.ofNat after } frame)
    let link ← linkStep H endpoint link (.arrive clock)
    return { f with
      link := link
      time := t
      lastRead := after
      frameTime := some (f.nextFrameTime spec after) }

/-- The system after a put whose datagram has arrived at `t`. -/
def FlowState.delivered (f : FlowState) (builder : MsgBuilder) (frame : Bytes) (t after : Nat) (sink : Sink) :
    FlowState where
  link := f.link.delivered builder frame (UInt32.ofNat after) sink
  time := t
  lastGet := f.lastGet
  lastRead := after
  wake := f.wake
  frameTime := some (f.nextFrameTime spec after)

/-- When an action may happen: the clock does not go back, a sleeping put does nothing else and sends no sooner than its
timeout says, and no more than one frame duration goes by between two gets. -/
def FlowAction.Ready (f : FlowState) : FlowAction → Prop
  | .update _ => f.link.sleeping = none
  | .poll _ => True
  | .get t _ => f.time ≤ t ∧ t ≤ f.lastGet + spec.frameDurationMs.toNat ∧ t < 2 ^ 32
  | .sleep _ t₁ t₂ => f.link.sleeping = none ∧ f.lastRead ≤ t₁ ∧ t₁ ≤ t₂ ∧ t₂ < 2 ^ 32
  | .put _ frame t after _ => f.link.sleeping ≠ none ∧ (3 ≤ frame.length ∧ frame.length ≤ 1016) ∧
      (f.time ≤ t ∧ f.wake ≤ t ∧ t ≤ f.lastGet + spec.frameDurationMs.toNat) ∧ t ≤ after ∧ after < 2 ^ 32

/-- The source is open and the sink lent. -/
def FlowState.Up (f : FlowState) : Prop := f.link.source.state = .stateOpen ∧ f.link.sink.state = .stateLent

/-- **No long pause**: a frame behind the first is sent less than 128 frame durations behind `last_frame_time`, and that
does not happen to be `NULL_TIME`. -/
def FlowAction.Prompt (f : FlowState) : FlowAction → Prop
  | .put _ _ t _ _ => ∀ ℓ ∈ f.frameTime, (t : Int) < ℓ + 128 * spec.frameDurationMs ∧
      f.link.source.lastFrameTime ≠ Source.NULL_TIME
  | _ => True

instance (f : FlowState) : Decidable f.Up := inferInstanceAs (Decidable (_ ∧ _))

instance (f : FlowState) : ∀ a : FlowAction, Decidable (a.Ready spec f)
  | .update _ => inferInstanceAs (Decidable (_ = _))
  | .poll _ => inferInstanceAs (Decidable True)
  | .get .. => inferInstanceAs (Decidable (_ ∧ _))
  | .sleep .. => inferInstanceAs (Decidable (_ ∧ _))
  | .put .. => inferInstanceAs (Decidable (_ ∧ _))

instance (f : FlowState) : ∀ a : FlowAction, Decidable (a.Prompt spec f)
  | .update _ => inferInstanceAs (Decidable True)
  | .poll _ => inferInstanceAs (Decidable True)
  | .get .. => inferInstanceAs (Decidable True)
  | .sleep .. => inferInstanceAs (Decidable True)
  | .put .. => inferInstanceAs (Decidable (∀ ℓ ∈ f.frameTime, _))

/-- The runs of a source that has become open and a sink that is lent to it, whose steps all meet a condition. Every
ENQUEUE is handled when it is sent. -/
inductive Flow (lights : Nat) (cond : FlowState → FlowAction → Prop) : FlowState → Prop
  | start {l : Link} {t : Nat} : Linked H spec lights endpoint l → l.source.state = .stateOpen →
      l.sink.state = .stateLent → l.puts = [] → l.sleeping = none → l.taken = l.source.sock.length → t < 2 ^ 32 →
      Flow lights cond ⟨l, t, t, t, t, none⟩
  | step {f f' : FlowState} {a : FlowAction} : Flow lights cond f → a.Ready spec f → cond f a →
      flowStep H spec endpoint f a = .ok f' → f'.Up → Flow lights cond f'

/-- Actions one after the other, as far as they are ready and without a long pause. -/
def flowRun : FlowState → List FlowAction → Option FlowState
  | f, [] => some f
  | f, a :: actions =>
    match flowStep H spec endpoint f a with
    | .ok f' => if a.Ready spec f ∧ a.Prompt spec f ∧ f'.Up then flowRun f' actions else none
    | .error _ => none

variable {H spec endpoint} in
theorem Flow.run {lights : Nat} : ∀ {actions : List FlowAction} {f f' : FlowState},
    Flow H spec endpoint lights (fun f a => a.Prompt spec f) f → flowRun H spec endpoint f actions = some f' →
      Flow H spec endpoint lights (fun f a => a.Prompt spec f) f'
  | [], f, f', h, e => Option.some.inj e ▸ h
  | a :: actions, f, f', h, e => by
    rw [flowRun] at e
    split at e
    · rename_i f₁ e₁
      split at e
      · rename_i ha
        exact Flow.run (h.step ha.1 ha.2.1 e₁ ha.2.2) e
      · cases e
    · cases e

end Flow

/-! ## The invariant -/

/-- What holds once a frame was put, the first with the reading `t₁` behind it: `last_frame_time` has gone on by one
frame duration for each frame; and behind the last get no more frames wait than fit. (At the last reading before the
clock wraps the origin of the sink may be `NULL_TIME`, but then no more than the first frames were put.) -/
structure Sending (spec : AtollaSourceSpec) (s₀ : Sink) (f : FlowState) (t₁ : Nat) : Prop where
  some : f.link.sink.enqueued ≠ []
  frameTime : f.frameTime =
    Option.some (t₁ + (f.link.sink.enqueued.length - spec.bufferedFrames) * spec.frameDurationMs)
  field : f.link.source.lastFrameTime =
    UInt32.ofInt (t₁ + (f.link.sink.enqueued.length - spec.bufferedFrames) * spec.frameDurationMs)
  read : t₁ + (f.link.sink.enqueued.length - spec.bufferedFrames) * spec.frameDurationMs ≤ f.lastRead
  shown : 2 ^ 32 ≤ t₁ + spec.frameDurationMs.toNat + 1 ∨ ∃ first, PlaybackInv s₀ first f.lastGet f.link.sink ∧
    (first = none → f.lastGet ≤ t₁) ∧ (∀ t₀ ∈ first, t₀ ≤ t₁ + spec.frameDurationMs.toNat) ∧
    ((∃ t₀ ∈ first, due spec.frameDurationMs.toNat t₀ f.lastGet ≤ f.link.sink.dequeued.length) ∨
      f.link.sink.enqueued.length = f.link.sink.dequeued.length ∨
      (f.lastGet : Int) < t₁ + (f.link.sink.dequeued.length + 128 - spec.bufferedFrames) * spec.frameDurationMs.toNat)

/-- **What holds of every run** without a long pause, from the sink `s₀` on. -/
structure FlowInv (spec : AtollaSourceSpec) (lights : Nat) (endpoint : UdpEndpoint) (s₀ : Sink) (f : FlowState) :
    Prop where
  link : LinkInv spec lights endpoint f.link
  up : f.Up
  caught : f.link.taken = f.link.source.sock.length
  start : s₀.enqueued = [] ∧ s₀.dequeued = [] ∧ s₀.pending = [] ∧
    s₀.frameDurationMs.toNat = spec.frameDurationMs.toNat
  time : f.lastGet ≤ f.time
  wake : f.link.sleeping ≠ none → f.link.source.lastFrameTime ≠ Source.NULL_TIME → ∀ ℓ ∈ f.frameTime, ∀ t : Nat,
    f.wake ≤ t → (t : Int) < ℓ + 128 * spec.frameDurationMs → ℓ + spec.frameDurationMs ≤ t
  phase : (f.link.sink.enqueued = [] ∧ f.frameTime = none ∧ f.link.source.lastFrameTime = Source.NULL_TIME ∧
    PlaybackInv s₀ none f.lastGet f.link.sink) ∨ ∃ t₁, Sending spec s₀ f t₁

section FlowInv

variable {H : Host} {spec : AtollaSourceSpec} {lights : Nat} {endpoint : UdpEndpoint} {s₀ : Sink} {f f' : FlowState}

theorem LinkInv.sinkInv {l : Link} (h : LinkInv spec lights endpoint l) : SinkInv l.sink := by
  obtain ⟨ids, msgs, -, -, ht⟩ := h.script
  exact ht.inv

/-- The frames that wait. -/
theorem length_pending_eq {s : Sink} (h : SinkInv s) : s.pending.length = s.enqueued.length - s.dequeued.length := by
  rw [← h.history, List.length_append]
  omega

/-- **Room**: a frame that is put without a long pause finds a free slot. -/
theorem FlowInv.room (h : FlowInv spec lights endpoint s₀ f) (hu : spec.Usable) (hb : spec.bufferedFrames ≤ 126)
    {env : PutEnv} {frame : Bytes} {t after : Nat} {clock : SinkClock}
    (hready : (FlowAction.put env frame t after clock).Ready spec f)
    (hprompt : (FlowAction.put env frame t after clock).Prompt spec f) : 1 ≤ f.link.sink.freeSlots := by
  obtain ⟨hsl, -, ⟨-, hwake, hget⟩, hafter, hmax⟩ := hready
  have hi := h.link.sinkInv
  have hd := hu.duration
  have hdcast : (spec.frameDurationMs.toNat : Int) = spec.frameDurationMs := by omega
  rw [hi.freeSlots_eq, length_pending_eq hi]
  simp only [pendingFramesCapacity]
  rcases h.phase with ⟨hnil, -⟩ | ⟨t₁, hs⟩
  · rw [hnil, List.length_nil]
    omega
  · obtain ⟨hlate, hnull⟩ := hprompt _ hs.frameTime
    -- the frame is sent one frame duration behind the last one
    have hpace := h.wake hsl hnull _ hs.frameTime t hwake hlate
    have hpace' : (t₁ : Int) + (f.link.sink.enqueued.length + 1 - spec.bufferedFrames) * spec.frameDurationMs.toNat ≤
        t := by
      rw [hdcast]
      refine le_trans (le_of_eq ?_) hpace
      ring
    rcases hs.shown with hlast | ⟨first, hp, -, hstart, hdue | hall | hpause⟩
    · -- the clock is about to wrap, and the first frames are being put
      have hmul : ((f.link.sink.enqueued.length : Int) + 1 - spec.bufferedFrames) * spec.frameDurationMs.toNat ≤
          1 * spec.frameDurationMs.toNat := by omega
      have := Int.le_of_mul_le_mul_right hmul (by omega)
      omega
    · obtain ⟨t₀, ht₀, hdue⟩ := hdue
      have := waiting_le_of_due (by omega) (hstart t₀ ht₀) hdue hget hpace'
      omega
    · omega
    · have := waiting_lt_of_caught hpause hget hpace'
      omega

/-- What leaves the session, `last_frame_time` and the gets alone keeps the counts. -/
theorem FlowInv.carry (h : FlowInv spec lights endpoint s₀ f) (hs : SameSession f.link.sink f'.link.sink)
    (hi : SinkInv f'.link.sink) (hfield : f'.link.source.lastFrameTime = f.link.source.lastFrameTime)
    (hft : f'.frameTime = f.frameTime) (hget : f'.lastGet = f.lastGet) (hread : f.lastRead ≤ f'.lastRead) :
    (f'.link.sink.enqueued = [] ∧ f'.frameTime = none ∧ f'.link.source.lastFrameTime = Source.NULL_TIME ∧
      PlaybackInv s₀ none f'.lastGet f'.link.sink) ∨ ∃ t₁, Sending spec s₀ f' t₁ := by
  have hlent := hs.state.trans h.up.2
  rw [hft, hfield, hget, hs.enqueued]
  refine h.phase.imp (fun ⟨h₁, h₂, h₃, h₄⟩ => ⟨h₁, h₂, h₃, h₄.steady (hs.steady hi) hlent⟩) ?_
  rintro ⟨t₁, ht⟩
  refine ⟨t₁, ?_, ?_, ?_, ?_, ?_⟩
  · rw [hs.enqueued]; exact ht.some
  · rw [hs.enqueued, hft]; exact ht.frameTime
  · rw [hs.enqueued, hfield]; exact ht.field
  · rw [hs.enqueued]
    have := ht.read
    omega
  · rw [hs.enqueued, hs.dequeued, hget]
    exact ht.shown.imp id fun ⟨first, hp, hrest⟩ => ⟨first, hp.steady (hs.steady hi) hlent, hrest⟩

/-- The frames that the sink has shown since it was lent, and those there were to show. -/
theorem FlowInv.played (h : FlowInv spec lights endpoint s₀ f) (s : Sink) : s₀.played s = s.dequeued.length := by
  rw [Sink.played, h.start.2.1, List.length_nil, Nat.sub_zero]

theorem FlowInv.available (h : FlowInv spec lights endpoint s₀ f) :
    s₀.available f.link.sink = f.link.sink.enqueued := by
  obtain ⟨henq, -, hpend, -⟩ := h.start
  rw [Sink.available, hpend, henq]
  rfl

/-- **A get** before the first put shows nothing. -/
theorem FlowInv.get_first (h : FlowInv spec lights endpoint s₀ f) {t : Nat} (hle : f.lastGet ≤ t)
    (hnil : f.link.sink.enqueued = []) (hp : PlaybackInv s₀ none f.lastGet f.link.sink) {sink : Sink}
    (hs : Shown f.link.sink sink (f.link.sink.due (UInt32.ofNat t)) (f.link.sink.originAfter (UInt32.ofNat t))) :
    PlaybackInv s₀ none t sink := by
  have hfar : ∀ t₀ ∈ (none : Option Nat), t < t₀ + (s₀.played f.link.sink - 1) * s₀.frameDurationMs.toNat + 2 ^ 32 :=
    fun _ h => by cases h
  have hnone : sink.dequeued = s₀.dequeued := by
    have hsum := hp.played_add_due hle hfar
    rw [h.available, hnil, List.length_nil, Nat.zero_min, ← hp.played_after_get hs, h.played] at hsum
    rw [h.start.2.1]
    exact List.length_eq_zero_iff.mp hsum
  have hp' := hp.after_get hs hle hfar fun hne => absurd hnone hne
  rw [if_pos hnone] at hp'
  exact hp'

/-- **A get** no later than one frame duration behind the last shows all that is due, or leaves nothing. -/
theorem FlowInv.get_next (h : FlowInv spec lights endpoint s₀ f) {t₁ t : Nat} (ht : Sending spec s₀ f t₁)
    (hle : f.lastGet ≤ t) (hpoll : t ≤ f.lastGet + spec.frameDurationMs.toNat) (hmax : t < 2 ^ 32)
    (hd : 0 < spec.frameDurationMs.toNat) {first : Option Nat} (hp : PlaybackInv s₀ first f.lastGet f.link.sink)
    (hbefore : first = none → f.lastGet ≤ t₁) (hstart : ∀ t₀ ∈ first, t₀ ≤ t₁ + spec.frameDurationMs.toNat)
    {sink : Sink}
    (hs : Shown f.link.sink sink (f.link.sink.due (UInt32.ofNat t)) (f.link.sink.originAfter (UInt32.ofNat t))) :
    2 ^ 32 ≤ t₁ + spec.frameDurationMs.toNat + 1 ∨ ∃ t₀, PlaybackInv s₀ (some t₀) t sink ∧
      t₀ ≤ t₁ + spec.frameDurationMs.toNat ∧
      (due spec.frameDurationMs.toNat t₀ t ≤ sink.dequeued.length ∨
        f.link.sink.enqueued.length = sink.dequeued.length) := by
  obtain ⟨-, hdeq₀, -, hdur⟩ := h.start
  have hfar : ∀ t₀ ∈ first, t < t₀ + (s₀.played f.link.sink - 1) * s₀.frameDurationMs.toNat + 2 ^ 32 :=
    fun t₀ _ => by omega
  have hcount : sink.dequeued.length =
      min f.link.sink.enqueued.length (due spec.frameDurationMs.toNat (first.getD t) t) := by
    rw [← h.played sink, hp.played_after_get hs, hp.played_add_due hle hfar, h.available, hdur]
  have hone := one_le_due spec.frameDurationMs.toNat (first.getD t) t
  have hpos := List.length_pos_iff.mpr ht.some
  have hne : sink.dequeued ≠ s₀.dequeued := by
    rw [hdeq₀]
    exact List.ne_nil_of_length_pos (by omega)
  have hstart' : first.getD t ≤ t₁ + spec.frameDurationMs.toNat := by
    cases first with
    | none => exact hpoll.trans (Nat.add_le_add_right (hbefore rfl) _)
    | some t₀ => exact hstart t₀ rfl
  by_cases hnull : sink.timeOrigin = NULL_TIME
  · -- the origin is the last reading before the clock wraps
    left
    obtain ⟨hge, -, horigin⟩ := hp.origin_after_get hs hle hne
    rw [hnull, h.played, hdur] at horigin
    have hto := congrArg UInt32.toNat horigin
    rw [UInt32.toNat_ofNat'] at hto
    have hlast : NULL_TIME.toNat = 2 ^ 32 - 1 := rfl
    have hdue : sink.dequeued.length ≤ due spec.frameDurationMs.toNat (first.getD t) t := by omega
    by_cases h2 : 2 ≤ sink.dequeued.length
    · have := time_lt hdue h2 hd
      rw [Nat.mod_eq_of_lt (by omega)] at hto
      omega
    · rw [show sink.dequeued.length - 1 = 0 by omega, Nat.zero_mul, Nat.add_zero,
        Nat.mod_eq_of_lt (by omega)] at hto
      omega
  · right
    have hp' := hp.after_get hs hle hfar fun _ => hnull
    rw [if_neg hne] at hp'
    refine ⟨first.getD t, hp', hstart', ?_⟩
    rcases Nat.le_total (due spec.frameDurationMs.toNat (first.getD t) t) f.link.sink.enqueued.length with hc | hc
    · exact .inl (by omega)
    · exact .inr (by omega)

/-- **A get** keeps the counts. -/
theorem FlowInv.phase_get (h : FlowInv spec lights endpoint s₀ f) {t : Nat} (htime : f.time ≤ t)
    (hpoll : t ≤ f.lastGet + spec.frameDurationMs.toNat) (hmax : t < 2 ^ 32) (hd : 0 < spec.frameDurationMs.toNat)
    {sink : Sink} (hs : Shown f.link.sink sink (f.link.sink.due (UInt32.ofNat t))
      (f.link.sink.originAfter (UInt32.ofNat t)))
    (hf : f' = { f with link := { f.link with sink := sink }, time := t, lastGet := t }) :
    (f'.link.sink.enqueued = [] ∧ f'.frameTime = none ∧ f'.link.source.lastFrameTime = Source.NULL_TIME ∧
      PlaybackInv s₀ none f'.lastGet f'.link.sink) ∨ ∃ t₁, Sending spec s₀ f' t₁ := by
  subst hf
  have henq : sink.enqueued = f.link.sink.enqueued := by rw [hs.same]
  have hle : f.lastGet ≤ t := h.time.trans htime
  rcases h.phase with ⟨hnil, hft, hfield, hp⟩ | ⟨t₁, ht⟩
  · exact .inl ⟨henq.trans hnil, hft, hfield, h.get_first hle hnil hp hs⟩
  · refine .inr ⟨t₁, ?_, ?_, ?_, ?_, ?_⟩
    · show sink.enqueued ≠ []
      rw [henq]; exact ht.some
    · show f.frameTime = _
      rw [henq]; exact ht.frameTime
    · show f.link.source.lastFrameTime = _
      rw [henq]; exact ht.field
    · show t₁ + (sink.enqueued.length - spec.bufferedFrames) * spec.frameDurationMs ≤ f.lastRead
      rw [henq]; exact ht.read
    · rcases ht.shown with hlast | ⟨first, hp, hbefore, hstart, -⟩
      · exact .inl hlast
      · refine (h.get_next ht hle hpoll hmax hd hp hbefore hstart hs).imp id ?_
        rintro ⟨t₀, hp', hstart', hcount⟩
        refine ⟨some t₀, hp', (fun hnone => by cases hnone), ?_, ?_⟩
        · intro t₂ ht₂
          rw [Option.mem_some_iff] at ht₂
          exact ht₂ ▸ hstart'
        · show (∃ t₂ ∈ some t₀, due spec.frameDurationMs.toNat t₂ t ≤ sink.dequeued.length) ∨
            sink.enqueued.length = sink.dequeued.length ∨ _
          rw [henq]
          exact hcount.imp (fun hc => ⟨t₀, rfl, hc⟩) .inl

/-- **The first put** sets `last_frame_time` back by the frames that may be buffered. -/
theorem FlowInv.put_first (h : FlowInv spec lights endpoint s₀ f) (hu : spec.Usable) (hb : spec.bufferedFrames ≤ 126)
    (hnil : f.link.sink.enqueued = []) (hnull : f.link.source.lastFrameTime = Source.NULL_TIME)
    (hp : PlaybackInv s₀ none f.lastGet f.link.sink) {builder : MsgBuilder} {frame : Bytes} {t after : Nat}
    {sink : Sink} (htime : f.time ≤ after) (hlent : sink.state = .stateLent) (hst : Steady f.link.sink sink)
    (hlen : sink.enqueued.length = f.link.sink.enqueued.length + 1) :
    Sending spec s₀ (f.delivered spec builder frame t after sink) after := by
  have hd := hu.duration
  have hb₁ := hu.buffered
  obtain ⟨ids, msgs, hscript, -, -⟩ := h.link.script
  have hone : sink.enqueued.length = 1 := by rw [hlen, hnil]; rfl
  have hnext : f.nextFrameTime spec after = after + (1 - spec.bufferedFrames) * spec.frameDurationMs := by
    rw [FlowState.nextFrameTime, if_pos hnull]
    ring
  have hget : f.lastGet ≤ after := h.time.trans htime
  have hne : sink.enqueued ≠ [] := List.ne_nil_of_length_pos (by omega)
  refine ⟨hne, ?_, ?_, ?_,
    .inr ⟨none, hp.steady hst hlent, fun _ => hget, (fun _ h => by cases h), .inr (.inr ?_)⟩⟩
  · show some (f.nextFrameTime spec after) = some ((after : Int) + (sink.enqueued.length - _) * _)
    rw [hone, hnext]
    rfl
  · show (if f.link.source.lastFrameTime = Source.NULL_TIME then _ else _) =
      UInt32.ofInt (after + (sink.enqueued.length - _) * _)
    rw [if_pos hnull, hone, hscript.buffered, hscript.duration, ofNat_eq_ofInt, ← UInt32.ofInt_mul, ← ofInt_sub]
    congr 1
    push_cast
    ring
  · show (after : Int) + (sink.enqueued.length - spec.bufferedFrames) * spec.frameDurationMs ≤ after
    rw [hone]
    have : (((1 : Nat) : Int) - spec.bufferedFrames) * spec.frameDurationMs ≤ 0 :=
      Int.mul_nonpos_of_nonpos_of_nonneg (by omega) (by omega)
    omega
  · show (f.lastGet : Int) < after + (sink.dequeued.length + 128 - spec.bufferedFrames) * spec.frameDurationMs.toNat
    have hpos : 0 < ((sink.dequeued.length : Int) + 128 - spec.bufferedFrames) * spec.frameDurationMs.toNat :=
      Int.mul_pos (by omega) (by omega)
    omega

/-- **Every later put** moves `last_frame_time` on by one frame duration. -/
theorem FlowInv.put_next (h : FlowInv spec lights endpoint s₀ f) (hu : spec.Usable) {t₁ : Nat}
    (ht : Sending spec s₀ f t₁) {builder : MsgBuilder} {frame : Bytes} {t after : Nat} {clock : SinkClock}
    {env : PutEnv} (hready : (FlowAction.put env frame t after clock).Ready spec f)
    (hprompt : (FlowAction.put env frame t after clock).Prompt spec f) {sink : Sink} (hlent : sink.state = .stateLent)
    (hst : Steady f.link.sink sink) (hlen : sink.enqueued.length = f.link.sink.enqueued.length + 1) :
    Sending spec s₀ (f.delivered spec builder frame t after sink) t₁ := by
  obtain ⟨hsl, -, ⟨htime, hwake, -⟩, hafter, -⟩ := hready
  have hd := hu.duration
  have hdcast : (spec.frameDurationMs.toNat : Int) = spec.frameDurationMs := by omega
  have hcast : ((f.link.sink.enqueued.length + 1 : Nat) : Int) = f.link.sink.enqueued.length + 1 := by omega
  obtain ⟨ids, msgs, hscript, -, -⟩ := h.link.script
  obtain ⟨hlate, hnull⟩ := hprompt _ ht.frameTime
  have hpace := h.wake hsl hnull _ ht.frameTime t hwake hlate
  have hnext : f.nextFrameTime spec after =
      t₁ + (f.link.sink.enqueued.length + 1 - spec.bufferedFrames) * spec.frameDurationMs := by
    rw [FlowState.nextFrameTime, if_neg hnull, ht.frameTime, Option.getD_some]
    ring
  have hne : sink.enqueued ≠ [] := List.ne_nil_of_length_pos (by omega)
  refine ⟨hne, ?_, ?_, ?_, ht.shown.imp id ?_⟩
  · show some (f.nextFrameTime spec after) = some ((t₁ : Int) + (sink.enqueued.length - _) * _)
    rw [hlen, hnext, hcast]
  · show (if f.link.source.lastFrameTime = Source.NULL_TIME then _ else _) =
      UInt32.ofInt (t₁ + (sink.enqueued.length - _) * _)
    rw [if_neg hnull, ht.field, hscript.duration, ← UInt32.ofInt_add, hlen, hcast]
    congr 1
    ring
  · show (t₁ : Int) + (sink.enqueued.length - spec.bufferedFrames) * spec.frameDurationMs ≤ after
    have hsum : (t₁ : Int) + (f.link.sink.enqueued.length - spec.bufferedFrames) * spec.frameDurationMs +
        spec.frameDurationMs =
          t₁ + (f.link.sink.enqueued.length + 1 - spec.bufferedFrames) * spec.frameDurationMs := by ring
    rw [hlen, hcast]
    omega
  · rintro ⟨first, hp, hbefore, hstart, hcount⟩
    refine ⟨first, hp.steady hst hlent, hbefore, hstart, ?_⟩
    show (∃ t₀ ∈ first, due _ t₀ f.lastGet ≤ sink.dequeued.length) ∨
      sink.enqueued.length = sink.dequeued.length ∨
        (f.lastGet : Int) < t₁ + (sink.dequeued.length + 128 - spec.bufferedFrames) * spec.frameDurationMs.toNat
    rw [hst.dequeued]
    rcases hcount with hdue | hall | hpause
    · exact .inl hdue
    · -- the first frame behind a get that left nothing
      refine .inr (.inr ?_)
      have hsum : (t₁ : Int) + (f.link.sink.enqueued.length - spec.bufferedFrames) * spec.frameDurationMs +
          128 * spec.frameDurationMs =
            t₁ + (f.link.sink.dequeued.length + 128 - spec.bufferedFrames) * spec.frameDurationMs.toNat := by
        rw [hdcast, ← hall]
        ring
      have hget := h.time
      omega
    · exact .inr (.inr hpause)

/-- **A frame is put** without a long pause, and stored. -/
theorem FlowInv.phase_put (h : FlowInv spec lights endpoint s₀ f) (hu : spec.Usable) (hb : spec.bufferedFrames ≤ 126)
    {env : PutEnv} {frame : Bytes} {t after : Nat} {clock : SinkClock}
    (hready : (FlowAction.put env frame t after clock).Ready spec f)
    (hprompt : (FlowAction.put env frame t after clock).Prompt spec f) {builder : MsgBuilder} {sink : Sink}
    (hlent : sink.state = .stateLent) (hst : Steady f.link.sink sink) {g : Bytes}
    (henq : sink.enqueued = f.link.sink.enqueued ++ [g]) :
    ∃ t₁, Sending spec s₀ (f.delivered spec builder frame t after sink) t₁ := by
  have hlen : sink.enqueued.length = f.link.sink.enqueued.length + 1 := by
    rw [henq, List.length_append, List.length_singleton]
  rcases h.phase with ⟨hnil, -, hnull, hp⟩ | ⟨t₁, ht⟩
  · obtain ⟨-, -, ⟨htime, -, -⟩, hafter, -⟩ := hready
    exact ⟨after, h.put_first hu hb hnil hnull hp (htime.trans hafter) hlent hst hlen⟩
  · exact ⟨t₁, h.put_next hu ht hready hprompt hlent hst hlen⟩

/-- **A frame that finds room** is put, arrives and is stored. -/
theorem LinkInv.put_stored (h : LinkInv spec lights endpoint f.link) (hup : f.Up)
    (hc : f.link.taken = f.link.source.sock.length) {env : PutEnv} {frame : Bytes} {t after : Nat} {clock : SinkClock}
    (hready : (FlowAction.put env frame t after clock).Ready spec f) (hroom : 1 ≤ f.link.sink.freeSlots) :
    ∃ builder sink, flowStep H spec endpoint f (.put env frame t after clock) =
        .ok (f.delivered spec builder frame t after sink) ∧
      LinkInv spec lights endpoint (f.link.delivered builder frame (UInt32.ofNat after) sink) ∧
      f.link.taken + 1 = (f.link.source.advanced builder frame (UInt32.ofNat after)).sock.length ∧
      Steady f.link.sink sink ∧ sink.state = .stateLent ∧
      sink.enqueued = f.link.sink.enqueued ++ [cycle (3 * lights) frame] := by
  obtain ⟨hsl, ⟨h3, hfit⟩, -⟩ := hready
  have hsent : ({ env with sent := true, after := UInt32.ofNat after } : PutEnv).sent = true := rfl
  obtain ⟨builder, l₁, sink, s₁, last, e₁, e₂, hlink, hcaught, hst, hsame, hi⟩ :=
    h.deliver (H := H) hup.2 hc hsl h3 hfit hsent hroom clock
  refine ⟨builder, sink, ?_, hlink, hcaught, hst.steady.trans (hsame.steady hi), ?_, ?_⟩
  · rw [flowStep, e₁, ok_bind, e₂]
    rfl
  · rw [hsame.state, hst.same]
    exact hup.2
  · rw [hsame.enqueued, hst.same]

/-- **A put that sleeps** as long as it is told goes on no sooner than one frame duration behind `last_frame_time`. -/
theorem FlowInv.wakes (h : FlowInv spec lights endpoint s₀ f) (hu : spec.Usable) {t₁ t₂ t : Nat} {duration : UInt32}
    (hread : f.lastRead ≤ t₁) (ht₂ : t₁ ≤ t₂) (hdur : duration.toNat = spec.frameDurationMs.toNat) {ℓ : Int}
    (hℓ : ℓ ∈ f.frameTime)
    (hwake : t₂ + (if 0 < asInt ((UInt32.ofNat t₁ - f.link.source.lastFrameTime) / duration) then 0
      else asInt (f.link.source.lastFrameTime + duration - UInt32.ofNat t₂)).toNat ≤ t)
    (hlate : (t : Int) < ℓ + 128 * spec.frameDurationMs) : ℓ + spec.frameDurationMs ≤ t := by
  have hd := hu.duration
  have hft : f.frameTime = some ℓ := hℓ
  rcases h.phase with ⟨-, hnone, -⟩ | ⟨t₀, hs⟩
  · rw [hft] at hnone
    cases hnone
  · have hframe : ℓ = t₀ + (f.link.sink.enqueued.length - spec.bufferedFrames) * spec.frameDurationMs :=
      (Option.some.inj (hs.frameTime.symm.trans hft)).symm
    have hle := hs.read
    rw [hs.field, ← hframe] at hwake
    have := sleep_le hdur (by omega) (by omega) (by omega) (by omega) ht₂ hwake
    omega

/-- **One step** without a long pause. -/
theorem flowStep_inv (h : FlowInv spec lights endpoint s₀ f) (hu : spec.Usable) (hb : spec.bufferedFrames ≤ 126)
    {a : FlowAction} (hready : a.Ready spec f) (hprompt : a.Prompt spec f) (e : flowStep H spec endpoint f a = .ok f')
    (hup : f'.Up) : FlowInv spec lights endpoint s₀ f' := by
  obtain ⟨ids, msgs, hs, -, ht⟩ := h.link.script
  have hopen : f.link.source.state ≠ .stateWaiting := by
    rw [h.up.1]
    decide
  have hd := hu.duration
  cases a with
  | update env =>
    obtain ⟨link, e₁, e₂⟩ := bind_eq_ok.mp e
    cases e₂
    have hlink := linkStep_inv h.link hu e₁ hready
    obtain ⟨source, e₃, e₄⟩ := bind_eq_ok.mp e₁
    cases e₄
    have hup' := sourceUpdate_updated H hs.builder e₃
    have hsl : f.link.sleeping = none := hready
    refine ⟨hlink, hup, ?_, h.start, h.time, fun hne => absurd hsl hne, ?_⟩
    · show f.link.taken = source.sock.length
      rw [hup'.sock_eq hopen]
      exact h.caught
    · exact h.carry (SameSession.refl _) ht.inv (hup'.frameTime hopen) rfl rfl (Nat.le_refl _)
  | poll clock =>
    obtain ⟨link, e₁, e₂⟩ := bind_eq_ok.mp e
    cases e₂
    have hlink := linkStep_inv h.link hu e₁ fun _ => hup.2
    obtain ⟨sink, e₃, e₄⟩ := bind_eq_ok.mp e₁
    cases e₄
    obtain ⟨hi, hsame⟩ := atollaSinkState_silent ht.inv e₃ fun _ => hup.2
    exact ⟨hlink, hup, h.caught, h.start, h.time, h.wake, h.carry hsame hi rfl rfl rfl (Nat.le_refl _)⟩
  | get t buf =>
    obtain ⟨htime, hpoll, hmax⟩ := hready
    obtain ⟨link, e₁, e₂⟩ := bind_eq_ok.mp e
    cases e₂
    have hlink := linkStep_inv h.link hu e₁ trivial
    obtain ⟨r, e₃, e₄⟩ := bind_eq_ok.mp e₁
    obtain ⟨sink, e₅, hshown⟩ := atollaSinkGet_lent ht.inv h.up.2 (UInt32.ofNat t) buf
    rw [e₅, Except.ok.injEq] at e₃
    subst e₃
    cases e₄
    exact ⟨hlink, hup, h.caught, h.start, Nat.le_refl _, h.wake,
      h.phase_get htime hpoll hmax (by omega) hshown rfl⟩
  | sleep env t₁ t₂ =>
    obtain ⟨hsl, hread, ht₂, -⟩ := hready
    obtain ⟨link, e₁, e₂⟩ := bind_eq_ok.mp e
    cases e₂
    have hlink := linkStep_inv h.link hu e₁ hsl
    obtain ⟨⟨timeout, source⟩, e₃, e₄⟩ := bind_eq_ok.mp e₁
    cases e₄
    have hup' := sourcePutTimeout_updated H hs.builder e₃
    refine ⟨hlink, hup, ?_, h.start, h.time, ?_, ?_⟩
    · show f.link.taken = source.sock.length
      rw [hup'.sock_eq hopen]
      exact h.caught
    · intro _ hnull ℓ hℓ t hwake hlate
      have hdur : source.frameDurationMs.toNat = spec.frameDurationMs.toNat := by
        rw [hup'.duration, hs.duration, UInt32.ofInt, UInt32.toNat_ofNat']
        omega
      have hwake' : t₂ + (timeout.getD 0).toNat ≤ t := hwake
      rw [sourcePutTimeout_value e₃ hup.1 hnull, Option.getD_some, hup'.frameTime hopen] at hwake'
      exact h.wakes hu hread ht₂ hdur hℓ hwake' hlate
    · exact h.carry (SameSession.refl _) ht.inv (hup'.frameTime hopen) rfl rfl (show f.lastRead ≤ t₂ by omega)
  | put env frame t after clock =>
    have hroom := h.room hu hb hready hprompt
    obtain ⟨builder, sink, hrun, hlink, hcaught, hst, hlent, henq⟩ :=
      h.link.put_stored (H := H) h.up h.caught hready hroom
    rw [hrun, Except.ok.injEq] at e
    subst e
    have htime := hready.2.2.1.1
    exact ⟨hlink, hup, hcaught, h.start, h.time.trans htime, fun hne => absurd rfl hne,
      .inr (h.phase_put hu hb hready hprompt hlent hst henq)⟩

end FlowInv

section Run

variable {H : Host} {spec : AtollaSourceSpec} {lights : Nat} {endpoint : UdpEndpoint} {f f' : FlowState}

/-- When the source becomes open nothing was put, stored or shown. -/
theorem Linked.flowInv {l : Link} {t : Nat} (h : Linked H spec lights endpoint l) (hu : spec.Usable)
    (ho : l.source.state = .stateOpen) (hl : l.sink.state = .stateLent) (hp : l.puts = []) (hsl : l.sleeping = none)
    (hc : l.taken = l.source.sock.length) : FlowInv spec lights endpoint l.sink ⟨l, t, t, t, t, none⟩ := by
  have hi := h.inv hu
  obtain ⟨ids, msgs, hs, -, ht⟩ := hi.script
  have henq : l.sink.enqueued = [] := by
    rcases ht.phase with ⟨-, -, he⟩ | ⟨-, -, -, -, -, he⟩
    · exact he
    · rw [he, hp, List.take_nil, List.map_nil]
  obtain ⟨hdeq, hpend⟩ := List.append_eq_nil_iff.mp (ht.inv.history.trans henq)
  have hnull : l.sink.timeOrigin = NULL_TIME := by
    rcases ht.shown with hn | hd | ho
    · exact hn
    · exact absurd hdeq hd
    · rw [hl] at ho
      cases ho
  refine ⟨hi, ⟨ho, hl⟩, hc, ⟨henq, hdeq, hpend, ht.duration hl⟩, Nat.le_refl _, fun hne => absurd hsl hne, .inl ?_⟩
  exact ⟨henq, rfl, hs.fresh hp ho, ht.inv, ht.inv, hl, rfl, List.prefix_rfl, List.prefix_rfl, fun _ => ⟨hnull, rfl⟩,
    fun _ h => by cases h⟩

/-- **Every run** without a long pause satisfies the invariant. -/
theorem Flow.inv (h : Flow H spec endpoint lights (fun f a => a.Prompt spec f) f) (hu : spec.Usable)
    (hb : spec.bufferedFrames ≤ 126) : ∃ s₀, FlowInv spec lights endpoint s₀ f := by
  induction h with
  | start hl ho hk hp hsl hc _ => exact ⟨_, hl.flowInv hu ho hk hp hsl hc⟩
  | step _ hready hprompt e hup ih =>
    obtain ⟨s₀, hi⟩ := ih
    exact ⟨s₀, flowStep_inv hi hu hb hready hprompt e hup⟩

theorem Flow.mono {cond cond' : FlowState → FlowAction → Prop} (hcond : ∀ f a, cond f a → cond' f a)
    (h : Flow H spec endpoint lights cond f) : Flow H spec endpoint lights cond' f := by
  induction h with
  | start hl ho hk hp hsl hc ht => exact .start hl ho hk hp hsl hc ht
  | step _ hready hc e hup ih => exact ih.step hready (hcond _ _ hc) e hup

/-- **Flow control**: with at most 126 buffered frames and no long pause, every frame that is put finds a free slot
when it arrives, and is stored. -/
theorem flow_control (h : Flow H spec endpoint lights (fun f a => a.Prompt spec f) f) (hu : spec.Usable)
    (hb : spec.bufferedFrames ≤ 126) {env : PutEnv} {frame : Bytes} {t after : Nat} {clock : SinkClock}
    (hready : (FlowAction.put env frame t after clock).Ready spec f)
    (hprompt : (FlowAction.put env frame t after clock).Prompt spec f) :
    1 ≤ f.link.sink.freeSlots ∧ ∃ f', flowStep H spec endpoint f (.put env frame t after clock) = .ok f' ∧
      f'.link.sink.enqueued = f.link.sink.enqueued ++ [cycle (3 * lights) frame] := by
  obtain ⟨s₀, hi⟩ := h.inv hu hb
  have hroom := hi.room hu hb hready hprompt
  obtain ⟨builder, sink, e, -, -, -, -, henq⟩ := hi.link.put_stored (H := H) hi.up hi.caught hready hroom
  exact ⟨hroom, _, e, henq⟩

end Run

/-! ## Bursts -/

/-- A source whose `last_frame_time` is `ℓ`, and what else it takes to put a frame at `t`. -/
structure Lagging (spec : AtollaSourceSpec) (lights : Nat) (endpoint : UdpEndpoint) (t ℓ : Nat) (f : FlowState) :
    Prop where
  link : LinkInv spec lights endpoint f.link
  up : f.Up
  caught : f.link.taken = f.link.source.sock.length
  awake : f.link.sleeping = none
  time : f.time ≤ t ∧ t ≤ f.lastGet + spec.frameDurationMs.toNat
  read : f.lastRead ≤ t
  field : f.link.source.lastFrameTime = UInt32.ofNat ℓ
  live : ∃ time ∈ f.link.source.lastRecvLentTime, UInt32.ofNat t - time < f.link.source.disconnectTimeoutMs

/-- A source that finds no datagram at `t`. -/
def quietAt (t : Nat) : SourceEnv :=
  ⟨none, fun _ => UInt32.ofNat t, UInt32.ofNat t, UInt32.ofNat t, true, UInt32.ofNat t⟩

/-- A put at `t`. -/
def putAt (t : Nat) : PutEnv :=
  ⟨quietAt t, quietAt t, quietAt t, UInt32.ofNat t, UInt32.ofNat t, true, UInt32.ofNat t⟩

/-- An update of the sink at `t`. -/
def sinkAt (t : Nat) : SinkClock := ⟨fun _ => UInt32.ofNat t, UInt32.ofNat t, UInt32.ofNat t, UInt32.ofNat t⟩

section Burst

variable {H : Host} {spec : AtollaSourceSpec} {lights : Nat} {endpoint : UdpEndpoint} {f : FlowState} {t ℓ : Nat}

/-- **A frame duration behind**: the put does not sleep. -/
theorem Lagging.sleep (h : Lagging spec lights endpoint t ℓ f) (hu : spec.Usable)
    (hlag : ℓ + spec.frameDurationMs.toNat ≤ t) (hmax : t < 2 ^ 32 - 1) :
    flowStep H spec endpoint f (.sleep (putAt t) t t) =
      .ok { f with link := { f.link with sleeping := some 0 }, lastRead := t, wake := t } := by
  obtain ⟨ids, msgs, hs, -, -⟩ := h.link.script
  have hd := hu.duration
  have hquiet : (quietAt t).Quiet f.link.source := ⟨rfl, h.live⟩
  have hdur : f.link.source.frameDurationMs.toNat = spec.frameDurationMs.toNat := by
    rw [hs.duration, UInt32.ofInt, UInt32.toNat_ofNat']
    omega
  have hne : f.link.source.lastFrameTime ≠ Source.NULL_TIME := by
    intro hnull
    rw [h.field, ← UInt32.toNat_inj, UInt32.toNat_ofNat', Nat.mod_eq_of_lt (by omega)] at hnull
    have : Source.NULL_TIME.toNat = 2 ^ 32 - 1 := rfl
    omega
  have hcount : ((UInt32.ofNat t - f.link.source.lastFrameTime) / f.link.source.frameDurationMs).toNat =
      (t - ℓ) / spec.frameDurationMs.toNat := by
    rw [UInt32.toNat_div, hdur, h.field, ← UInt32.ofNat_sub (by omega), UInt32.toNat_ofNat',
      Nat.mod_eq_of_lt (by omega)]
  have hready : 0 < asInt ((UInt32.ofNat t - f.link.source.lastFrameTime) / f.link.source.frameDurationMs) := by
    have hpos : 0 < (t - ℓ) / spec.frameDurationMs.toNat := Nat.div_pos (by omega) (by omega)
    have hhalf : (t - ℓ) / spec.frameDurationMs.toNat < 2 ^ 31 := by
      apply Nat.div_lt_of_lt_mul
      calc t - ℓ < 10 * 2 ^ 31 := by omega
        _ ≤ spec.frameDurationMs.toNat * 2 ^ 31 := Nat.mul_le_mul_right _ (by omega)
    rw [asInt, hcount, if_pos hhalf]
    omega
  have hput : sourcePutTimeout H { putAt t with now := UInt32.ofNat t, later := UInt32.ofNat t } f.link.source =
      .ok (some 0, f.link.source) := by
    refine sourcePutTimeout_ready H h.up.1 hquiet hquiet hquiet hne ?_ hready
    intro hzero
    rw [hzero] at hdur
    have : (0 : UInt32).toNat = 0 := rfl
    omega
  rw [flowStep, linkStep, hput]
  rfl

/-- **One frame of a burst.** -/
theorem Lagging.step (h : Lagging spec lights endpoint t ℓ f) (hu : spec.Usable)
    (hlag : ℓ + spec.frameDurationMs.toNat ≤ t) (hmax : t < 2 ^ 32 - 1) (hroom : 1 ≤ f.link.sink.freeSlots)
    (hf : Flow H spec endpoint lights (fun _ _ => True) f) :
    ∃ f', Flow H spec endpoint lights (fun _ _ => True) f' ∧
      Lagging spec lights endpoint t (ℓ + spec.frameDurationMs.toNat) f' ∧
      f'.link.sink.freeSlots + 1 = f.link.sink.freeSlots := by
  obtain ⟨ids, msgs, hs, -, -⟩ := h.link.script
  have hd := hu.duration
  have e₁ := h.sleep (H := H) hu hlag hmax
  set f₁ : FlowState := { f with link := { f.link with sleeping := some 0 }, lastRead := t, wake := t } with hf₁
  have hsleep : (FlowAction.sleep (putAt t) t t).Ready spec f := ⟨h.awake, h.read, Nat.le_refl _, by omega⟩
  have hflow₁ : Flow H spec endpoint lights (fun _ _ => True) f₁ := hf.step hsleep trivial e₁ h.up
  have hlink₁ : LinkInv spec lights endpoint f₁.link := by
    obtain ⟨link, e₂, e₃⟩ := bind_eq_ok.mp e₁
    have hlink := congrArg FlowState.link (Except.ok.inj e₃)
    exact (show link = f₁.link from hlink) ▸ linkStep_inv h.link hu e₂ h.awake
  have hready : (FlowAction.put (putAt t) [1, 2, 3] t t (sinkAt t)).Ready spec f₁ :=
    ⟨by simp [hf₁], ⟨by decide, by decide⟩, ⟨h.time.1, Nat.le_refl _, h.time.2⟩, Nat.le_refl _, by omega⟩
  obtain ⟨builder, sink, e₂, hlink, hcaught, hst, hlent, henq⟩ := hlink₁.put_stored (H := H) h.up h.caught hready hroom
  refine ⟨_, hflow₁.step hready trivial e₂ ⟨h.up.1, hlent⟩, ⟨hlink, ⟨h.up.1, hlent⟩, hcaught, rfl,
    ⟨Nat.le_refl _, h.time.2⟩, Nat.le_refl _, ?_, h.live⟩, ?_⟩
  · show (if f.link.source.lastFrameTime = Source.NULL_TIME then _ else _) = _
    rw [if_neg, h.field, hs.duration]
    · apply UInt32.toNat_inj.mp
      rw [UInt32.toNat_add, UInt32.ofInt, UInt32.toNat_ofNat', UInt32.toNat_ofNat', UInt32.toNat_ofNat']
      omega
    · intro hnull
      rw [h.field, ← UInt32.toNat_inj, UInt32.toNat_ofNat', Nat.mod_eq_of_lt (by omega)] at hnull
      have : Source.NULL_TIME.toNat = 2 ^ 32 - 1 := rfl
      omega
  · show sink.freeSlots + 1 = f.link.sink.freeSlots
    have hpend := length_pending_eq h.link.sinkInv
    have hle := h.link.sinkInv.length_pending
    have hroom' := hroom
    rw [h.link.sinkInv.freeSlots_eq] at hroom'
    have hlen : f.link.sink.dequeued.length ≤ f.link.sink.enqueued.length := by
      rw [← h.link.sinkInv.history, List.length_append]
      omega
    rw [hst.inv.freeSlots_eq, h.link.sinkInv.freeSlots_eq, length_pending_eq hst.inv, henq, hst.dequeued,
      List.length_append, List.length_singleton]
    show pendingFramesCapacity - (f.link.sink.enqueued.length + 1 - f.link.sink.dequeued.length) + 1 = _
    omega

/-- **A burst**: whoever is `n` frame durations behind may put `n` frames at once. -/
theorem Lagging.burst : ∀ (n : Nat) {f : FlowState} {ℓ : Nat}, Lagging spec lights endpoint t ℓ f → spec.Usable →
    ℓ + n * spec.frameDurationMs.toNat ≤ t → t < 2 ^ 32 - 1 → n ≤ f.link.sink.freeSlots →
    Flow H spec endpoint lights (fun _ _ => True) f →
    ∃ f', Flow H spec endpoint lights (fun _ _ => True) f' ∧
      Lagging spec lights endpoint t (ℓ + n * spec.frameDurationMs.toNat) f' ∧
      f'.link.sink.freeSlots + n = f.link.sink.freeSlots
  | 0, f, ℓ, h, _, _, _, _, hf => by
    rw [Nat.zero_mul, Nat.add_zero]
    exact ⟨f, hf, h, rfl⟩
  | n + 1, f, ℓ, h, hu, hlag, hmax, hroom, hf => by
    rw [Nat.succ_mul, Nat.add_comm _ spec.frameDurationMs.toNat, ← Nat.add_assoc] at hlag ⊢
    obtain ⟨f₁, hf₁, h₁, hfree₁⟩ := h.step (H := H) hu (by omega) hmax (by omega) hf
    obtain ⟨f₂, hf₂, h₂, hfree₂⟩ := Lagging.burst n h₁ hu hlag hmax (by omega) hf₁
    exact ⟨f₂, hf₂, h₂, by omega⟩

end Burst

/-! ## Examples -/

/-- Frames of 10 ms, 126 of which may be buffered. -/
def flowSpec : AtollaSourceSpec := ⟨"sink", 10042, 10, 126, 0, 0, true⟩

/-- A source and a sink with one light that come together at 5000 ms. -/
def flowLink : Option Link :=
  (atollaSourceMake exampleHost flowSpec ⟨true, true, 5000, 5000, true, []⟩).toOption.bind fun source =>
    (atollaSinkMake exampleHost ⟨0, 1⟩ true).toOption.bind fun sink =>
      linkRun exampleHost exampleEndpoint ⟨source, sink, 0, [], none⟩
        [.arrive (sinkAt 5000), .update { quietAt 5000 with datagram := some (encode 1 0 []) }]

def flowStart : Option FlowState :=
  flowLink.bind fun l =>
    if l.source.state = .stateOpen ∧ l.sink.state = .stateLent ∧ l.puts = [] ∧ l.sleeping = none ∧
      l.taken = l.source.sock.length then some ⟨l, 5000, 5000, 5000, 5000, none⟩ else none

theorem flowLink_linked {l : Link} (e : flowLink = some l) : Linked exampleHost flowSpec 1 exampleEndpoint l := by
  unfold flowLink at e
  cases es : atollaSourceMake exampleHost flowSpec ⟨true, true, 5000, 5000, true, []⟩ with
  | error f => rw [es] at e; cases e
  | ok source =>
    cases ek : atollaSinkMake exampleHost ⟨0, 1⟩ true with
    | error f => rw [es, ek] at e; cases e
    | ok sink =>
      rw [es, ek] at e
      exact (Linked.make es ek).run e

theorem flowStart_flow {f : FlowState} (e : flowStart = some f) (cond : FlowState → FlowAction → Prop) :
    Flow exampleHost flowSpec exampleEndpoint 1 cond f := by
  obtain ⟨l, hl, e⟩ := Option.bind_eq_some_iff.mp e
  split at e
  · rename_i h
    cases e
    exact .start (flowLink_linked hl) h.1 h.2.1 h.2.2.1 h.2.2.2.1 h.2.2.2.2 (by decide)
  · cases e

theorem flowSpec_usable : flowSpec.Usable := ⟨by decide, by decide⟩

/-- A first frame, and a second one behind a get. -/
def promptActions : List FlowAction :=
  [.sleep (putAt 5000) 5000 5000, .put (putAt 5000) [1, 2, 3] 5000 5000 (sinkAt 5000), .get 5010 [],
    .sleep (putAt 5010) 5010 5010]

theorem flow_control_second :
    ∃ f f', Flow exampleHost flowSpec exampleEndpoint 1 (fun f a => a.Prompt flowSpec f) f ∧
      flowStep exampleHost flowSpec exampleEndpoint f (.put (putAt 5010) [4, 5, 6] 5010 5010 (sinkAt 5010)) = .ok f' ∧
      f'.link.sink.enqueued = [[1, 2, 3], [4, 5, 6]] := by
  have hrun : (flowStart.bind fun f => flowRun exampleHost flowSpec exampleEndpoint f promptActions).map (fun f =>
      (f.link.sink.enqueued, decide ((FlowAction.put (putAt 5010) [4, 5, 6] 5010 5010 (sinkAt 5010)).Ready flowSpec f ∧
        (FlowAction.put (putAt 5010) [4, 5, 6] 5010 5010 (sinkAt 5010)).Prompt flowSpec f))) =
          some ([[1, 2, 3]], true) := by decide +kernel
  obtain ⟨f, hf, hfacts⟩ := Option.map_eq_some_iff.mp hrun
  obtain ⟨f₀, h₀, hf⟩ := Option.bind_eq_some_iff.mp hf
  obtain ⟨henq, hnext⟩ := Prod.mk.inj hfacts
  obtain ⟨hready, hprompt⟩ := of_decide_eq_true hnext
  have hflow := (flowStart_flow h₀ (fun f a => a.Prompt flowSpec f)).run hf
  obtain ⟨-, f', e, henq'⟩ := flow_control hflow flowSpec_usable (by decide) hready hprompt
  rw [henq] at henq'
  exact ⟨f, f', hflow, e, henq'⟩

/-- A first frame is shown, and nothing follows for four frame durations. -/
def pauseActions : List FlowAction :=
  [.sleep (putAt 5000) 5000 5000, .put (putAt 5000) [1, 2, 3] 5000 5000 (sinkAt 5000), .get 5000 [], .get 5010 [],
    .get 5020 [], .get 5030 [], .get 5040 []]

/-- **A burst behind the pause**: `last_frame_time` lags 129 frame durations behind, and the frame after the 128th finds
no room. -/
theorem burst_finds_no_room :
    ∃ f, Flow exampleHost flowSpec exampleEndpoint 1 (fun _ _ => True) f ∧
      (FlowAction.put (putAt 5040) [1, 2, 3] 5040 5040 (sinkAt 5040)).Ready flowSpec f ∧
      f.link.sink.freeSlots = 0 := by
  have hrun : (flowStart.bind fun f => flowRun exampleHost flowSpec exampleEndpoint f pauseActions).map (fun f =>
      decide (f.link.sink.freeSlots = 128 ∧ f.link.source.lastFrameTime = 3750 ∧
        f.link.source.lastRecvLentTime = some 5000 ∧ f.link.source.disconnectTimeoutMs = 750 ∧
        f.link.sleeping = none ∧ f.time = 5040 ∧ f.lastGet = 5040 ∧ f.lastRead = 5000)) = some true := by decide +kernel
  obtain ⟨f, hf, hfacts⟩ := Option.map_eq_some_iff.mp hrun
  obtain ⟨f₀, h₀, hf⟩ := Option.bind_eq_some_iff.mp hf
  obtain ⟨hfree, hfield, hlive, hdis, hsl, htime, hget, hread⟩ := of_decide_eq_true hfacts
  have hflow := (flowStart_flow h₀ (fun f a => a.Prompt flowSpec f)).run hf
  obtain ⟨s₀, hi⟩ := hflow.inv flowSpec_usable (by decide)
  have hlag : Lagging flowSpec 1 exampleEndpoint 5040 3750 f := by
    refine ⟨hi.link, hi.up, hi.caught, hsl, ⟨htime.le, ?_⟩, ?_, hfield, 5000, hlive, ?_⟩
    · rw [hget]
      decide
    · rw [hread]
      decide
    · rw [hdis]
      decide
  obtain ⟨f₁, hf₁, hlag₁, hfree₁⟩ := hlag.burst (H := exampleHost) 128 flowSpec_usable (by decide) (by decide)
    (by omega) (hflow.mono fun _ _ _ => trivial)
  have e := hlag₁.sleep (H := exampleHost) flowSpec_usable (by decide) (by decide)
  have hsleep : (FlowAction.sleep (putAt 5040) 5040 5040).Ready flowSpec f₁ :=
    ⟨hlag₁.awake, hlag₁.read, Nat.le_refl _, by decide⟩
  refine ⟨_, hf₁.step hsleep trivial e hlag₁.up, ⟨by simp, ⟨by decide, by decide⟩, ⟨hlag₁.time.1, Nat.le_refl _,
    hlag₁.time.2⟩, Nat.le_refl _, by decide⟩, ?_⟩
  show f₁.link.sink.freeSlots = 0
  omega

end Atolla

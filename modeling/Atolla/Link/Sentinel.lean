import Atolla.Sink.Playback
import Atolla.Sink.Steps
import Atolla.Source.Standing
import Atolla.Source.StateMachine

/-!
# `NULL_TIME` as a time

`time_origin` of the sink and `last_frame_time` of the source are `NULL_TIME` before the first frame, and behind it a
time. Where that time is never the number that stands for none, a session that runs does not look like one that has not
started (`sentinel_missed`). Both are the clock at first and then go on by frame durations, so that it may happen with
any of them.
-/

set_option autoImplicit false

namespace Atolla

open Loop

/-! ## The sink -/

/-- The update accepts a BORROW of its datagram. -/
def SinkAccepts (H : Host) (clock : SinkClock) (dg : Option Datagram) (s : Sink) : Prop :=
  ∃ datagram ∈ dg, ∃ (t : Sink) (iter : MsgIter) (d n : UInt8), SinkAt H clock datagram s t iter ∧
    msgIterHasMsg iter = true ∧ msgIterType iter = .ok .borrow ∧ msgIterBorrowFrameLength H iter = .ok d ∧
    msgIterBorrowBufferLength H iter = .ok n ∧ t.Lends d.toNat n.toNat datagram.sender

/-- The runs of a sink of which every get meets a condition. The flag tells whether a frame of the session, which began
with the last accepted BORROW, was dequeued. -/
inductive SinkSession (H : Host) (cond : Sink → UInt32 → Prop) : Sink → Bool → Prop
  | make {spec : AtollaSinkSpec} {bound : Bool} {s : Sink} : atollaSinkMake H spec bound = .ok s →
      SinkSession H cond s false
  | state {s s' : Sink} {begun begun' : Bool} {clock : SinkClock} {dg : Option Datagram} :
      SinkSession H cond s begun → atollaSinkState H clock s dg = .ok s' →
      (begun' = true ↔ begun = true ∧ ¬SinkAccepts H clock dg s) → SinkSession H cond s' begun'
  | get {s s' : Sink} {begun result : Bool} {now : UInt32} {frame out : Bytes} : SinkSession H cond s begun →
      cond s now → atollaSinkGet now s frame frame.length = .ok (result, s', out) →
      SinkSession H cond s' (begun || decide (s.dequeued.length < s'.dequeued.length))

/-- **A get does not set `time_origin` to `NULL_TIME`**: the clock is not there at the first frame, and later it is not
so many frame durations behind as frames are due. -/
def Sink.MissesNull (now : UInt32) (s : Sink) : Prop :=
  s.state = .stateLent →
    if s.timeOrigin = NULL_TIME then s.pending = [] ∨ now ≠ NULL_TIME
    else (NULL_TIME - s.timeOrigin).toNat ≠ s.due now * s.frameDurationMs.toNat

section Sink

variable {H : Host} {s s' : Sink}

/-- A BORROW that is not accepted leaves the origin alone. -/
theorem sinkHandleBorrow_origin (h : SinkInv s) {now : UInt32} {id : UInt16} {d : Int} {n : Nat}
    {sender : UdpEndpoint} (hno : ¬s.Lends d n sender) (e : sinkHandleBorrow H now s id d n sender = .ok s') :
    s'.timeOrigin = s.timeOrigin := by
  have hfail : ∀ {code : ErrorCode} {t : Sink}, sinkSendFailTo H s id code sender = .ok t →
      t.timeOrigin = s.timeOrigin := fun et => (sinkSendFailTo_session h et).origin
  have hrefused : ∀ {code : ErrorCode}, (sinkSendFailTo H s id code sender >>= fun s =>
      pure (if s.state = .stateLent then sinkDropBorrow s else s)) = .ok s' → s'.timeOrigin = s.timeOrigin := by
    intro code e
    obtain ⟨t, et, e⟩ := bind_eq_ok.mp e
    cases e
    rw [← hfail et]
    split
    · rfl
    · rfl
  unfold sinkHandleBorrow at e
  split at e
  · rename_i hfree
    simp only at e
    split at e
    · exact hrefused e
    · rename_i hfits
      split at e
      · exact hrefused e
      · rename_i hslow
        rw [h.required_le] at hfits
        exact absurd ⟨hfree, Nat.not_lt.mp hfits, Int.not_lt.mp hslow⟩ hno
  · split at e
    · exact hfail e
    · cases e
      rfl

/-- **A message** that is not an accepted BORROW leaves the origin alone. -/
theorem sinkHandleMsg_origin (h : SinkInv s) {now : UInt32} {sender : UdpEndpoint} {iter : MsgIter}
    (hno : ¬∃ d n : UInt8, msgIterType iter = .ok .borrow ∧ msgIterBorrowFrameLength H iter = .ok d ∧
      msgIterBorrowBufferLength H iter = .ok n ∧ s.Lends d.toNat n.toNat sender)
    (e : sinkHandleMsg H now sender s iter = .ok s') : s'.timeOrigin = s.timeOrigin := by
  unfold sinkHandleMsg at e
  obtain ⟨type, htype, e⟩ := bind_eq_ok.mp e
  obtain ⟨id, -, e⟩ := bind_eq_ok.mp e
  cases type with
  | borrow =>
    obtain ⟨d, hd, e⟩ := bind_eq_ok.mp e
    obtain ⟨n, hn, e⟩ := bind_eq_ok.mp e
    exact sinkHandleBorrow_origin h (fun hl => hno ⟨d, n, htype, hd, hn, hl⟩) e
  | enqueue =>
    obtain ⟨idx, -, e⟩ := bind_eq_ok.mp e
    obtain ⟨frame, -, e⟩ := bind_eq_ok.mp e
    exact (sinkHandleEnqueue_steady H h e).origin
  | lent => exact (sinkSendFailTo_session h e).origin
  | fail => exact (sinkSendFailTo_session h e).origin

theorem sinkReceive_origin (h : SinkInv s) (hs : s.state ≠ .stateError) {clock : SinkClock} {dg : Option Datagram}
    (hno : ¬SinkAccepts H clock dg s) (e : sinkReceive H clock s dg = .ok s') : s'.timeOrigin = s.timeOrigin := by
  unfold sinkReceive at e
  split at e
  · rename_i recvBuf received sender hrecv
    cases dg with
    | none => cases hrecv
    | some datagram =>
      obtain ⟨rfl, -⟩ := iterOver_make hrecv
      obtain ⟨s₁, h₁, e⟩ := bind_eq_ok.mp e
      cases e
      obtain ⟨⟨s₂, iter⟩, hloop, h₁⟩ := bind_eq_ok.mp h₁
      cases h₁
      -- in front of every message the origin is the same
      have hbody : ∀ p p' : Sink × MsgIter,
          SinkInv p.1 ∧ SinkAt H clock datagram s p.1 p.2 ∧ p.1.timeOrigin = s.timeOrigin →
          msgIterHasMsg p.2 = true →
          msgRound H (fun s iter => sinkHandleMsg H (clock.message iter.msgBufStart) datagram.sender s iter) p =
            .ok p' →
          SinkInv p'.1 ∧ SinkAt H clock datagram s p'.1 p'.2 ∧ p'.1.timeOrigin = s.timeOrigin := by
        rintro ⟨t, iter⟩ ⟨t', iter'⟩ ⟨ht, hat, horigin⟩ hmsg e
        obtain ⟨-, buf, len, from_, k, hrecv', hrounds⟩ := hat
        obtain ⟨rfl, -⟩ := iterOver_make hrecv'
        have hnext : SinkAt H clock datagram s t' iter' := ⟨hs, buf, len, _, k + 1, hrecv', hrounds.succ hmsg e⟩
        obtain ⟨t₁, et, e⟩ := bind_eq_ok.mp e
        obtain ⟨iter₁, -, e⟩ := bind_eq_ok.mp e
        cases e
        refine ⟨sinkHandleMsg_inv H ht et, hnext, (sinkHandleMsg_origin ht ?_ et).trans horigin⟩
        rintro ⟨d, n, htype, hd, hn, hl⟩
        exact hno ⟨datagram, rfl, t, iter, d, n, ⟨hs, buf, len, _, k, hrecv', hrounds⟩, hmsg, htype, hd, hn, hl⟩
      exact (whileM_inv (fun p : Sink × MsgIter =>
        SinkInv p.1 ∧ SinkAt H clock datagram s p.1 p.2 ∧ p.1.timeOrigin = s.timeOrigin) hbody _ _ _
        ⟨h.withRecvBuf recvBuf, ⟨hs, recvBuf, received, _, 0, hrecv, .zero⟩, rfl⟩ hloop).1.2.2
  · split at e
    · obtain ⟨s₁, h₁, e⟩ := bind_eq_ok.mp e
      cases e
      exact (sinkSendFailTo_session h h₁).origin
    · cases e
      rfl

/-- **An update** that accepts no BORROW leaves the origin alone. -/
theorem atollaSinkState_origin (h : SinkInv s) {clock : SinkClock} {dg : Option Datagram}
    (hno : ¬SinkAccepts H clock dg s) (e : atollaSinkState H clock s dg = .ok s') : s'.timeOrigin = s.timeOrigin := by
  unfold atollaSinkState at e
  split at e
  · rename_i hs
    obtain ⟨s₁, h₁, h₂⟩ := bind_eq_ok.mp e
    obtain ⟨s₂, e₂, -, hsame⟩ := sinkSend_same H (sinkReceive_inv H h h₁) clock
    rw [e₂, Except.ok.injEq] at h₂
    exact (h₂ ▸ hsame.origin).trans (sinkReceive_origin h hs hno h₁)
  · cases e
    rfl

/-- The origin behind a get is `NULL_TIME` where that lies so many frame durations ahead. -/
theorem originAfter_ne_null {now : UInt32} (ho : s.timeOrigin ≠ NULL_TIME) :
    s.originAfter now ≠ NULL_TIME ↔ (NULL_TIME - s.timeOrigin).toNat ≠ s.due now * s.frameDurationMs.toNat := by
  have hle : s.due now * s.frameDurationMs.toNat ≤ s.elapsed now := by
    have hmin : s.due now ≤ (s.elapsed now - 1) / s.frameDurationMs.toNat := by
      rw [Sink.due, if_neg ho]
      exact Nat.min_le_right _ _
    have hmul := Nat.mul_le_mul_right s.frameDurationMs.toNat hmin
    have hdiv := Nat.div_mul_le_self (s.elapsed now - 1) s.frameDurationMs.toNat
    omega
  have hlt : s.due now * s.frameDurationMs.toNat < 2 ^ 32 := Nat.lt_of_le_of_lt hle (UInt32.toNat_lt _)
  have hnat : (UInt32.ofNat (s.due now * s.frameDurationMs.toNat)).toNat = s.due now * s.frameDurationMs.toNat := by
    rw [UInt32.toNat_ofNat', Nat.mod_eq_of_lt hlt]
  rw [Sink.originAfter, if_neg ho, not_iff_not, ← hnat, UInt32.toNat_inj]
  constructor
  · intro h
    rw [← h]
    grind
  · intro h
    rw [← h]
    grind

/-- **A get** keeps the origin away from `NULL_TIME` iff its condition holds. -/
theorem get_misses_iff (h : SinkInv s) {begun : Bool} (hbegun : begun = true → s.timeOrigin ≠ NULL_TIME) {now : UInt32}
    {frame out : Bytes} {result : Bool} (e : atollaSinkGet now s frame frame.length = .ok (result, s', out)) :
    ((begun || decide (s.dequeued.length < s'.dequeued.length)) = true → s'.timeOrigin ≠ NULL_TIME) ↔
      s.MissesNull now := by
  unfold Sink.MissesNull
  by_cases hs : s.state = .stateLent
  · obtain ⟨s₁, e₁, hshown⟩ := atollaSinkGet_lent h hs now frame
    rw [e₁, Except.ok.injEq, Prod.mk.injEq, Prod.mk.injEq] at e
    obtain ⟨-, rfl, -⟩ := e
    have horigin : s₁.timeOrigin = s.originAfter now := by rw [hshown.same]
    have hdequeued : s₁.dequeued.length = s.dequeued.length + s.due now := by
      rw [hshown.same, List.length_append, List.length_take, Nat.min_eq_left]
      exact Nat.min_le_left _ _
    rw [horigin, hdequeued, Bool.or_eq_true, decide_eq_true_iff]
    by_cases ho : s.timeOrigin = NULL_TIME
    · have hnot : ¬begun = true := fun hb => hbegun hb ho
      by_cases hp : s.pending = []
      · -- there is no frame to dequeue
        have hzero : s.due now = 0 := by rw [Sink.due, hp, List.length_nil, Nat.zero_min]
        rw [if_pos ho, hzero]
        exact ⟨fun _ _ => .inl hp, fun _ hor => absurd hor (by simp [hnot])⟩
      · have hone : 1 ≤ s.due now := by
          have := List.length_pos_of_ne_nil hp
          rw [Sink.due, if_pos ho]
          omega
        rw [if_pos ho, Sink.originAfter, if_pos ho, if_neg hp]
        exact ⟨fun hne _ => .inr (hne (.inr (by omega))), fun hor _ => (hor hs).resolve_left hp⟩
    · rw [if_neg ho, ← originAfter_ne_null ho]
      by_cases hzero : s.due now = 0
      · have hsame : s.originAfter now = s.timeOrigin := by
          rw [Sink.originAfter, if_neg ho, hzero, Nat.zero_mul]
          exact UInt32.add_zero _
        rw [hsame]
        exact ⟨fun _ _ => ho, fun _ _ => ho⟩
      · exact ⟨fun hne _ => hne (.inr (by omega)), fun hne _ => hne hs⟩
  · rw [atollaSinkGet_idle hs, Except.ok.injEq, Prod.mk.injEq, Prod.mk.injEq] at e
    obtain ⟨-, rfl, -⟩ := e
    refine ⟨fun _ hl => absurd hl hs, fun _ hor => hbegun ?_⟩
    simpa using hor

theorem SinkSession.inv {cond : Sink → UInt32 → Prop} {begun : Bool} (h : SinkSession H cond s begun) : SinkInv s := by
  induction h with
  | make e => exact reachable_inv (.make e)
  | state _ e _ ih => exact atollaSinkState_inv H ih e
  | get _ _ e ih => exact atollaSinkGet_inv ih e

/-- **The sink's run.** -/
theorem SinkSession.misses {begun : Bool} (h : SinkSession H (fun s now => s.MissesNull now) s begun) :
    begun = true → s.timeOrigin ≠ NULL_TIME := by
  induction h with
  | make _ => simp
  | state hrun e hiff ih =>
    intro hbegun
    obtain ⟨hold, hno⟩ := hiff.mp hbegun
    rw [atollaSinkState_origin hrun.inv hno e]
    exact ih hold
  | get hrun hcond e ih => exact (get_misses_iff hrun.inv ih e).mpr hcond

end Sink

/-! ## The source -/

/-- The runs of a source of which every put that returns true meets a condition. The flag tells whether there was
one. -/
inductive SourceSession (H : Host) (spec : AtollaSourceSpec) (cond : Source → PutEnv → Prop) : Source → Bool → Prop
  | make {env : MakeEnv} {s : Source} : atollaSourceMake H spec env = .ok s → SourceSession H spec cond s false
  | ask {s s' : Source} {begun : Bool} {c : SourceCall} : SourceSession H spec cond s begun →
      (∀ env frame, c ≠ .put env frame) → sourceCall H s c = .ok s' → SourceSession H spec cond s' begun
  | put {s s' : Source} {begun result : Bool} {env : PutEnv} {frame : Bytes} : SourceSession H spec cond s begun →
      (result = true → cond s env) → atollaSourcePut H env s frame frame.length = .ok (result, s') →
      SourceSession H spec cond s' (begun || result)

/-- **A put does not set `last_frame_time` to `NULL_TIME`**: the first one not to the clock less all but one of the
frame durations of the buffer, and later ones not to the next frame time. -/
def Source.MissesNull (env : PutEnv) (s : Source) : Prop :=
  if s.state = .stateWaiting ∨ s.lastFrameTime = Source.NULL_TIME then
    env.after - UInt32.ofInt (s.maxBufferedFrames - 1) * s.frameDurationMs ≠ Source.NULL_TIME
  else s.lastFrameTime + s.frameDurationMs ≠ Source.NULL_TIME

instance (env : PutEnv) (s : Source) : Decidable (s.MissesNull env) :=
  inferInstanceAs (Decidable (if s.state = .stateWaiting ∨ s.lastFrameTime = Source.NULL_TIME then
    env.after - UInt32.ofInt (s.maxBufferedFrames - 1) * s.frameDurationMs ≠ Source.NULL_TIME
  else s.lastFrameTime + s.frameDurationMs ≠ Source.NULL_TIME))

section Source

variable {H : Host} {spec : AtollaSourceSpec} {s s' : Source}

/-- `last_frame_time` before the sleep of a put that goes on. -/
theorem sourcePutTimeout_frameTime (h : s.builder.msgBuf.Owned) {env : PutEnv} {timeout : Int}
    (e : sourcePutTimeout H env s = .ok (some timeout, s')) :
    s'.lastFrameTime = if s.state = .stateWaiting then Source.NULL_TIME else s.lastFrameTime := by
  obtain ⟨s₁, s₂, h₁, h₂, ⟨-, hnone, -⟩ | ⟨ho, -, h₃⟩⟩ := sourcePutTimeout_updates H e
  · cases hnone
  · have hu₁ := sourceUpdate_updated H h h₁
    have hu₂ := hu₁.trans (sourceUpdate_updated H hu₁.builder h₂)
    rw [(sourceUpdate_updated H hu₂.builder h₃).frameTime (by simp [ho])]
    split
    · exact hu₂.opened ‹_› ho
    · exact hu₂.frameTime ‹_›

/-- **A put that returns true.** -/
theorem atollaSourcePut_frameTime (h : s.builder.msgBuf.Owned) {env : PutEnv} {frame : Bytes}
    (e : atollaSourcePut H env s frame frame.length = .ok (true, s')) :
    s'.state ≠ .stateWaiting ∧ (s'.lastFrameTime ≠ Source.NULL_TIME ↔ s.MissesNull env) := by
  obtain ⟨timeout, s₁, e₁, ⟨-, hfalse, -⟩ | ⟨hsome, e₂⟩⟩ := atollaSourcePut_cases H e
  · cases hfalse
  obtain ⟨timeout, rfl⟩ := Option.isSome_iff_exists.mp hsome
  have hu := sourcePutTimeout_updated H h e₁
  have hfield := sourcePutTimeout_frameTime h e₁
  obtain ⟨builder, e₃, -⟩ := sourcePutFrame_spec H hu.builder (sourcePutFrame_length_le H e₂) env
  refine ⟨?_, ?_⟩
  · rw [sourcePutFrame_state H hu.builder e₂]
    exact sourcePutTimeout_left H h e₁
  · rw [e₃, Except.ok.injEq, Prod.mk.injEq] at e₂
    obtain ⟨hsent, rfl⟩ := e₂
    rw [if_pos hsent, Source.advanced, Source.MissesNull, hfield, hu.buffered, hu.duration]
    by_cases hw : s.state = .stateWaiting
    · simp only [hw, true_or, if_true]
    · simp only [hw, false_or, if_false]
      by_cases hn : s.lastFrameTime = Source.NULL_TIME
      · simp only [if_pos hn]
      · simp only [if_neg hn]

theorem SourceSession.builder {cond : Source → PutEnv → Prop} {begun : Bool} (h : SourceSession H spec cond s begun) :
    s.builder.msgBuf.Owned := by
  have hr : SourceReachable H spec s := by
    induction h with
    | make e => exact .make e
    | ask _ _ e ih => exact .call ih e
    | @put s s' _ result env frame _ _ e ih => exact .call (c := .put env frame) ih (bind_eq_ok.mpr ⟨_, e, rfl⟩)
  exact (sourceReachable_inv hr).builder

/-- **The source's run.** -/
theorem SourceSession.misses {begun : Bool} (h : SourceSession H spec (fun s env => s.MissesNull env) s begun) :
    begun = true → s.state ≠ .stateWaiting ∧ s.lastFrameTime ≠ Source.NULL_TIME := by
  -- what leaves `last_frame_time` alone
  have hkeeps : ∀ {s s' : Source}, Updated s s' → s.state ≠ .stateWaiting ∧ s.lastFrameTime ≠ Source.NULL_TIME →
      s'.state ≠ .stateWaiting ∧ s'.lastFrameTime ≠ Source.NULL_TIME := fun hu hold =>
    ⟨hu.left hold.1, by rw [hu.frameTime hold.1]; exact hold.2⟩
  induction h with
  | make _ => simp
  | @ask s s' begun c hrun hc e ih =>
    intro hbegun
    rcases sourceCall_put hrun.builder e with hu | ⟨env, frame, rfl, -⟩
    · exact hkeeps hu (ih hbegun)
    · exact absurd rfl (hc env frame)
  | @put s s' begun result env frame hrun hcond e ih =>
    intro hbegun
    cases result with
    | true =>
      obtain ⟨hleft, hiff⟩ := atollaSourcePut_frameTime hrun.builder e
      exact ⟨hleft, hiff.mpr (hcond rfl)⟩
    | false =>
      rw [Bool.or_false] at hbegun
      have hcall : sourceCall H s (.put env frame) = .ok s' := bind_eq_ok.mpr ⟨_, e, rfl⟩
      rcases sourceCall_put hrun.builder hcall with hu | ⟨env', frame', hput, e'⟩
      · exact hkeeps hu (ih hbegun)
      · cases hput
        rw [e, Except.ok.injEq, Prod.mk.injEq] at e'
        cases e'.1

end Source

/-! ## Both -/

/-- **A session that runs does not look like one that has not started**, in every run of a sink and of a source whose
gets and puts miss `NULL_TIME`; and the next get or put keeps it so iff it does, too. -/
theorem sentinel_missed {H : Host} {spec : AtollaSourceSpec} {sink : Sink} {source : Source} {begun sent : Bool}
    (hsink : SinkSession H (fun s now => s.MissesNull now) sink begun)
    (hsource : SourceSession H spec (fun s env => s.MissesNull env) source sent) :
    (begun = true → sink.timeOrigin ≠ NULL_TIME) ∧ (sent = true → source.lastFrameTime ≠ Source.NULL_TIME) ∧
    (∀ now frame result sink' out, atollaSinkGet now sink frame frame.length = .ok (result, sink', out) →
      (((begun || decide (sink.dequeued.length < sink'.dequeued.length)) = true → sink'.timeOrigin ≠ NULL_TIME) ↔
        sink.MissesNull now)) ∧
    ∀ env frame source', atollaSourcePut H env source frame frame.length = .ok (true, source') →
      (source'.lastFrameTime ≠ Source.NULL_TIME ↔ source.MissesNull env) :=
  ⟨hsink.misses, fun hsent => (hsource.misses hsent).2,
    fun _ _ _ _ _ e => get_misses_iff hsink.inv hsink.misses e,
    fun _ _ _ e => (atollaSourcePut_frameTime hsource.builder e).2⟩

/-- A sink of one light with its first frame pending. -/
theorem exampleSinkSession (cond : Sink → UInt32 → Prop) :
    ∃ s, SinkSession exampleHost cond s false ∧ s.state = .stateLent ∧ s.timeOrigin = NULL_TIME ∧
      s.pending = [[1, 2, 3]] := by
  obtain ⟨s, hs⟩ := exists_firstSession exampleHost (d := 20) (n := 1) (by decide) (by decide) exampleClock
    exampleEndpoint
  have hmake : SinkSession exampleHost cond (freshSink exampleHost 1 true) false :=
    .make (freshSink_make exampleHost (Nat.le_refl 1) (by decide) true)
  have hlent : SinkSession exampleHost cond s false := .state hmake hs.call (by simp)
  have hidx : s.distance (0 : UInt8).toNat = (1 : Nat) := by
    rw [Sink.distance, show s.lastEnqueuedFrameIdx = -1 from hs.session.idx]
    rfl
  obtain ⟨s₁, s', e, -, hst, hsame⟩ := atollaSinkState_enqueue exampleHost hs.inv hs.session.state hs.own [1, 2, 3]
    (by decide) (by decide) 0 hidx (by decide) (by rw [hs.pending]; decide) 0 exampleClock
  refine ⟨s', .state hlent e (by simp), ?_, ?_, ?_⟩
  · rw [hsame.state, hst.same]
    exact hs.session.state
  · rw [hsame.origin, hst.same]
    exact hs.session.origin
  · rw [hsame.pending, hst.pending, hs.pending, Sink.patterned, Sink.frameLen,
      show s.lightsCount = 1 from hs.session.lights]
    rfl

theorem exampleSourceSession {cond : Source → PutEnv → Prop} {d b : Int} {t : UInt32} {source source' : Source}
    {result : Bool} (e : exampleFirstPut d b t = .ok (source, result, source'))
    (hcond : result = true → cond source (standingPut t)) :
    SourceSession exampleHost { exampleSpec d with maxBufferedFrames := b } cond source' result := by
  obtain ⟨s, hopen, e⟩ := bind_eq_ok.mp e
  obtain ⟨⟨r, s'⟩, hput, e⟩ := bind_eq_ok.mp e
  cases e
  obtain ⟨s₁, hmake, hcall⟩ := bind_eq_ok.mp hopen
  exact .put (.ask (.make hmake) (by simp) hcall) hcond hput

/-- At 1000 ms neither is there. -/
theorem sentinel_missed_1000 :
    ∃ sink source, SinkSession exampleHost (fun s now => s.MissesNull now) sink true ∧
      SourceSession exampleHost { exampleSpec 20 with maxBufferedFrames := 2 } (fun s env => s.MissesNull env)
        source true ∧
      sink.timeOrigin ≠ NULL_TIME ∧ source.lastFrameTime ≠ Source.NULL_TIME := by
  obtain ⟨s, hs, hl, ho, hp⟩ := exampleSinkSession fun s now => s.MissesNull now
  have hmisses : s.MissesNull 1000 := fun _ => by
    rw [if_pos ho]
    exact .inr (by decide)
  obtain ⟨sink, e, hshown⟩ := atollaSinkGet_lent hs.inv hl 1000 [0, 0, 0]
  have hsink := SinkSession.get hs hmisses e
  have hbegun : (false || decide (s.dequeued.length < sink.dequeued.length)) = true := by
    rw [hshown.same, Sink.due, if_pos ho, hp]
    simp
  rw [hbegun] at hsink
  have hrun : (exampleFirstPut 20 2 1000).toOption.map (fun p => (decide (p.1.MissesNull (standingPut 1000)), p.2.1)) =
      some (true, true) := by decide +kernel
  obtain ⟨⟨source, result, source'⟩, ef, hrun⟩ := exists_ok_of_map hrun
  simp only [Prod.mk.injEq, decide_eq_true_iff] at hrun
  obtain ⟨hput, rfl⟩ := hrun
  have hsource := @exampleSourceSession (fun s env => s.MissesNull env) _ _ _ _ _ _ ef fun _ => hput
  obtain ⟨horigin, htime, -⟩ := sentinel_missed hsink hsource
  exact ⟨sink, source', hsink, hsource, horigin rfl, htime rfl⟩

/-- **Clocks that set both to `NULL_TIME`**: the first get at 2^32 - 1 ms, and the first put at 19 ms, with a frame
duration of 20 ms and two frames in the buffer. -/
theorem sentinel_hit :
    (∃ s sink, SinkSession exampleHost (fun _ _ => True) s false ∧ s.pending = [[1, 2, 3]] ∧
      atollaSinkGet 4294967295 s [0, 0, 0] 3 = .ok (true, sink, [1, 2, 3]) ∧
      SinkSession exampleHost (fun _ _ => True) sink true ∧ sink.state = .stateLent ∧ sink.timeOrigin = NULL_TIME) ∧
    ∃ s source, SourceReachable exampleHost { exampleSpec 20 with maxBufferedFrames := 2 } s ∧
      atollaSourcePut exampleHost (standingPut 19) s [1, 2, 3] 3 = .ok (true, source) ∧
      SourceSession exampleHost { exampleSpec 20 with maxBufferedFrames := 2 } (fun _ _ => True) source true ∧
      source.state = .stateOpen ∧ source.lastFrameTime = Source.NULL_TIME := by
  refine ⟨?_, ?_⟩
  · obtain ⟨s, hs, hl, ho, hp⟩ := exampleSinkSession fun _ _ => True
    obtain ⟨sink, e, hshown⟩ := atollaSinkGet_lent hs.inv hl 4294967295 [0, 0, 0]
    have hsink := SinkSession.get hs trivial e
    have hbegun : (false || decide (s.dequeued.length < sink.dequeued.length)) = true := by
      rw [hshown.same, Sink.due, if_pos ho, hp]
      simp
    rw [hbegun] at hsink
    have hshows : s.shows = true := by
      rw [Sink.shows, hp]
      simp
    refine ⟨s, sink, hs, hp, ?_, hsink, ?_, ?_⟩
    · rw [hshows, if_pos rfl, Sink.picture, Sink.due, if_pos ho, hp] at e
      exact e
    · rw [hshown.same]
      exact hl
    · rw [hshown.same, Sink.originAfter, if_pos ho, hp]
      rfl
  · have hrun : (exampleFirstPut 20 2 19).toOption.map (fun p => (p.2.1, p.2.2.state, p.2.2.lastFrameTime)) =
        some (true, .stateOpen, Source.NULL_TIME) := by decide +kernel
    obtain ⟨⟨source, result, source'⟩, ef, hrun⟩ := exists_ok_of_map hrun
    simp only [Prod.mk.injEq] at hrun
    obtain ⟨rfl, ho, hf⟩ := hrun
    obtain ⟨hr, hput, -⟩ := exampleFirstPut_ok ef
    exact ⟨source, source', hr, hput, exampleSourceSession ef fun _ => trivial, ho, hf⟩

end Atolla

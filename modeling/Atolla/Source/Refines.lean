import Atolla.Source.Borrower
import Mathlib.Data.List.ReduceOption

/-!
# A source is its borrower

`Acts s b`: the source `s` is in the state that the borrower `b` stands for. Every message and every call keeps this,
with the same outcome (`sourceUpdate_acts`, `sourceServe_acts`), so that no run of calls tells the two apart
(`source_refines_borrower`). A borrower has no fields that are not initialised and no byte order, and it says which
calls do not return (`source_serves`).
-/

set_option autoImplicit false

namespace Atolla

open Loop Observe

/-! ## The relation -/

def Source.plan (s : Source) : Plan := ⟨s.frameDurationMs, s.maxBufferedFrames, s.retryTimeoutMs, s.disconnectTimeoutMs⟩

/-- What a source is about, in the terms of its borrower. -/
def Source.errand (s : Source) : Errand :=
  match s.state with
  | .stateWaiting => .asking s.firstBorrowTime s.lastBorrowTime
  | .stateOpen => .holding (s.lastRecvLentTime.getD 0) (coveredTo s.lastFrameTime)
  | .stateError => .failed (s.errorMsg.getD "")

/-- **The source `s` acts `b`.** -/
structure Acts (s : Source) (b : Borrower) : Prop where
  kept : SourceKept s
  plan : b.plan = s.plan
  errand : b.errand = s.errand
  idx : s.nextFrameIdx = b.next.toNat
  sock : s.sock = posted b.written
  next : s.builder.nextMsgId = UInt16.ofNat b.written.length

section Relation

variable {s s' : Source} {b : Borrower}

theorem posted_concat (written : List (Note × Bool)) (note : Note) (left : Bool) :
    posted (written ++ [(note, left)]) =
      posted written ++ if left then [note.bytes (UInt16.ofNat written.length)] else [] := by
  rw [posted, List.mapIdx_concat, List.reduceOption_append]
  cases left with
  | true => rfl
  | false => rfl

theorem Source.errand_waiting (hs : s.state = .stateWaiting) :
    s.errand = .asking s.firstBorrowTime s.lastBorrowTime := by rw [Source.errand, hs]

theorem Source.errand_open (hs : s.state = .stateOpen) :
    s.errand = .holding (s.lastRecvLentTime.getD 0) (coveredTo s.lastFrameTime) := by rw [Source.errand, hs]

theorem Source.errand_error (hs : s.state = .stateError) : s.errand = .failed (s.errorMsg.getD "") := by
  rw [Source.errand, hs]

theorem Acts.state (h : Acts s b) : b.state = s.state := by
  rw [Borrower.state, h.errand, Source.errand]
  cases s.state with
  | stateWaiting => rfl
  | stateOpen => rfl
  | stateError => rfl

/-- A change that spares what the borrower knows. -/
theorem Acts.congr (h : Acts s b) (hk : SourceKept s') (hp : s'.plan = s.plan) (he : s'.errand = s.errand)
    (hi : s'.nextFrameIdx = s.nextFrameIdx) (hs : s'.sock = s.sock)
    (hn : s'.builder.nextMsgId = s.builder.nextMsgId) : Acts s' b :=
  ⟨hk, h.plan.trans hp.symm, h.errand.trans he.symm, hi.trans h.idx, hs.trans h.sock, hn.trans h.next⟩

theorem Acts.withRecvBuf (h : Acts s b) (recvBuf : Bytes) : Acts { s with recvBuf := recvBuf } b :=
  h.congr ⟨h.kept.builder, h.kept.error, h.kept.lent⟩ rfl rfl rfl rfl rfl

theorem Acts.fail (h : Acts s b) (msg : String) : Acts (sourceFail s msg) (b.fail msg) :=
  ⟨h.kept.fail msg, h.plan, rfl, h.idx, h.sock, h.next⟩

/-- **A LENT.** -/
theorem Acts.lent (h : Acts s b) (now : UInt32) : Acts (sourceLent now s) (b.lent now) := by
  have hk := h.kept.lentMsg now
  have herrand := h.errand
  rw [Borrower.lent, herrand]
  unfold sourceLent at hk ⊢
  cases hs : s.state with
  | stateWaiting =>
    rw [hs] at hk
    rw [Source.errand_waiting hs]
    exact ⟨hk, h.plan, rfl, h.idx, h.sock, h.next⟩
  | stateOpen =>
    rw [hs] at hk
    rw [Source.errand_open hs]
    exact ⟨hk, h.plan, rfl, h.idx, h.sock, h.next⟩
  | stateError =>
    rw [Source.errand_error hs]
    exact h

/-- **One note more**, whether or not it left. -/
theorem Acts.write (h : Acts s b) {builder : MsgBuilder} (hb : builder.msgBuf.Owned)
    (hn : builder.nextMsgId = s.builder.nextMsgId + 1) (note : Note) (left : Bool) :
    Acts { s with
      builder := builder
      sock := s.sock ++ if left then [note.bytes s.builder.nextMsgId] else [] } (b.write note left) where
  kept := ⟨hb, h.kept.error, h.kept.lent⟩
  plan := h.plan
  errand := h.errand
  idx := h.idx
  sock := by
    rw [Borrower.write, posted_concat, ← h.next, ← h.sock]
  next := by
    rw [Borrower.write, List.length_append, List.length_singleton, UInt16.ofNat_add, ← h.next]
    exact hn

end Relation

/-! ## Updates -/

/-- What the source finds, with its datagram. -/
def SourceView.env (view : SourceView) : SourceEnv where
  datagram := match view.ms with
    | [] => none
    | m :: ms => some (wire (m :: ms))
  message := view.message
  manage := view.manage
  borrow := view.borrow
  borrowSent := view.borrowSent
  ensure := view.ensure

/-- The messages fit the receive buffer, and each has what is read of it. -/
def SourceView.Fits (view : SourceView) : Prop :=
  (wire view.ms).length ≤ Source.recvBufLen ∧ ∀ m ∈ view.ms, m.FitsSource

section Update

variable (H : Host) {s s' : Source} {b : Borrower} {view : SourceView}

/-- **A message** and its offset. -/
theorem sourceHandleWire_acts (h : Acts s b) (clock : Nat → UInt32) (p : Nat × WireMsg) :
    Agree Acts (if p.2.Known then .ok (sourceHandleWire clock s p) else .error .assertion : Run Source)
      (b.hear clock p) := by
  rw [Borrower.hear, sourceHandleWire]
  by_cases hk : p.2.Known
  · simp only [if_pos hk]
    by_cases hlent : p.2.typeByte = 1
    · simp only [if_pos hlent]
      exact agree_ok.mpr (h.lent _)
    · simp only [if_neg hlent]
      by_cases hfail : p.2.typeByte = 255
      · simp only [if_pos hfail]
        exact agree_ok.mpr (h.fail _)
      · simp only [if_neg hfail]
        exact agree_ok.mpr (h.fail _)
  · simp only [if_neg hk]
    exact rfl

/-- **The messages** of an update. -/
theorem sourceReceive_acts (h : Acts s b) (hv : view.Fits) :
    Agree Acts (sourceReceive H view.env s) ((withOffsets 0 view.ms).foldlM (Borrower.hear view.message) b) := by
  obtain ⟨hlen, hfit⟩ := hv
  rw [sourceReceive]
  cases hms : view.ms with
  | nil =>
    have hnone : view.env.datagram = none := by rw [SourceView.env, hms]
    rw [hnone]
    exact agree_ok.mpr h
  | cons m ms =>
    have hsome : view.env.datagram = some (wire (m :: ms)) := by rw [SourceView.env, hms]
    rw [hms] at hlen hfit
    have hne : wire (m :: ms) ≠ [] := by
      intro hnil
      have := congrArg List.length hnil
      rw [wire_cons, List.length_append, WireMsg.length_bytes, List.length_nil] at this
      omega
    rw [hsome, Option.map_some, udpSocketReceiveFrom_fits ⟨[], 0⟩ hne hlen]
    show Agree Acts (sourceIterateRecvBuf H view.env.message _ (wire (m :: ms)).length) _
    rw [sourceIterateRecvBuf_wire H hfit _ rfl]
    exact foldlM_agree Acts _ (fun p _ t b ht => sourceHandleWire_acts ht view.message p) _ _ (h.withRecvBuf _)

/-- **A BORROW** of a source that waits. -/
theorem sourceSendBorrow_acts (h : Acts s b) (hs : s.state = .stateWaiting) (first now : UInt32) (sent : Bool) :
    ∃ s', sourceSendBorrow H now sent { s with firstBorrowTime := first } = .ok s' ∧
      Acts s' (b.ask first now sent) := by
  obtain ⟨builder, e, hb⟩ := msgBuilderBorrow_spec H h.kept.builder s.frameDurationMs.toUInt8
    (UInt8.ofInt s.maxBufferedFrames)
  have hread : readBytes builder.msgBuf.data builder.msgBuf.size = .ok builder.msgBuf.bytes := readBytes_of_le hb.valid
  have hasked : Acts { s with firstBorrowTime := first, lastBorrowTime := now }
      { b with errand := .asking first now } := by
    refine ⟨⟨h.kept.builder, h.kept.error, h.kept.lent⟩, h.plan, ?_, h.idx, h.sock, h.next⟩
    exact (Source.errand_waiting (s := { s with firstBorrowTime := first, lastBorrowTime := now }) hs).symm
  refine ⟨_, ?_, hasked.write hb.owned hb.next _ sent⟩
  rw [sourceSendBorrow]
  simp only [e, ok_bind, hread, hb.bytes, h.plan]
  cases sent with
  | true => rfl
  | false => simp [sourceSend]

/-- **The waiting.** -/
theorem sourceManageBorrowPacketLoss_acts (h : Acts s b) (view : SourceView) :
    ∃ s', sourceManageBorrowPacketLoss H view.env s = .ok s' ∧ Acts s' (b.insist view) := by
  have hpatience : b.plan.patience = s.disconnectTimeoutMs := by rw [h.plan, Source.plan]
  have hretry : b.plan.retry = s.retryTimeoutMs := by rw [h.plan, Source.plan]
  rw [sourceManageBorrowPacketLoss, Borrower.insist, h.errand]
  cases hs : s.state with
  | stateOpen =>
    rw [if_neg (by simp), Source.errand_open hs]
    exact ⟨s, rfl, h⟩
  | stateError =>
    rw [if_neg (by simp), Source.errand_error hs]
    exact ⟨s, rfl, h⟩
  | stateWaiting =>
    rw [if_pos rfl, Source.errand_waiting hs]
    simp only [hpatience, hretry]
    by_cases hlate : s.disconnectTimeoutMs < view.env.manage - s.firstBorrowTime
    · rw [if_pos hlate, if_pos (show s.disconnectTimeoutMs < view.manage - s.firstBorrowTime from hlate)]
      exact ⟨_, rfl, h.fail _⟩
    · rw [if_neg hlate, if_neg (show ¬s.disconnectTimeoutMs < view.manage - s.firstBorrowTime from hlate)]
      by_cases hagain : s.retryTimeoutMs < view.env.manage - s.lastBorrowTime
      · rw [if_pos hagain, if_pos (show s.retryTimeoutMs < view.manage - s.lastBorrowTime from hagain)]
        exact sourceSendBorrow_acts H h hs s.firstBorrowTime view.borrow view.borrowSent
      · rw [if_neg hagain, if_neg (show ¬s.retryTimeoutMs < view.manage - s.lastBorrowTime from hagain)]
        exact ⟨s, rfl, h⟩

/-- **The loan** may be lost. -/
theorem sourceEnsureLentResent_acts (h : Acts s b) (view : SourceView) :
    ∃ s', sourceEnsureLentResent view.env s = .ok s' ∧ Acts s' (b.doubt view) := by
  have hpatience : b.plan.patience = s.disconnectTimeoutMs := by rw [h.plan, Source.plan]
  rw [sourceEnsureLentResent, Borrower.doubt, h.errand]
  cases hs : s.state with
  | stateWaiting =>
    rw [if_neg (by simp), Source.errand_waiting hs]
    exact ⟨s, rfl, h⟩
  | stateError =>
    rw [if_neg (by simp), Source.errand_error hs]
    exact ⟨s, rfl, h⟩
  | stateOpen =>
    obtain ⟨heard, hheard⟩ := Option.isSome_iff_exists.mp (h.kept.lent hs)
    have hread : readField s.lastRecvLentTime = .ok heard := by
      rw [hheard]
      rfl
    rw [if_pos rfl, hread, ok_bind, Source.errand_open hs, hheard, Option.getD_some]
    simp only [hpatience]
    by_cases hlate : s.disconnectTimeoutMs ≤ view.env.ensure - heard
    · rw [if_pos hlate, if_pos (show s.disconnectTimeoutMs ≤ view.ensure - heard from hlate)]
      exact ⟨_, rfl, h.fail _⟩
    · rw [if_neg hlate, if_neg (show ¬s.disconnectTimeoutMs ≤ view.ensure - heard from hlate)]
      exact ⟨s, rfl, h⟩

/-- **An update.** -/
theorem sourceUpdate_acts (h : Acts s b) (hv : view.Fits) :
    Agree Acts (sourceUpdate H view.env s) (b.update view) := by
  rw [sourceUpdate, Borrower.update]
  refine (sourceReceive_acts H h hv).bind fun s₁ b₁ h₁ => ?_
  obtain ⟨s₂, e₂, h₂⟩ := sourceManageBorrowPacketLoss_acts H h₁ view
  obtain ⟨s₃, e₃, h₃⟩ := sourceEnsureLentResent_acts h₂ view
  rw [e₂, ok_bind, e₃]
  exact agree_ok.mpr h₃

end Update

/-! ## Readiness and frames -/

/-- The two results of a call, and the two states behind it. -/
def Alike {α : Type} (p : α × Source) (q : α × Borrower) : Prop := p.1 = q.1 ∧ Acts p.2 q.2

section Put

variable (H : Host) {s s' : Source} {b : Borrower} {view : SourceView}

/-- Behind an update the source divides as the borrower does. -/
theorem Acts.due (h : Acts s b) (now : UInt32) :
    b.due s.lastFrameTime now = (uintDiv (now - s.lastFrameTime) s.frameDurationMs).map asInt := by
  rw [Borrower.due, h.plan]
  exact bind_pure_comp _ _

/-- **The count.** -/
theorem atollaSourcePutReadyCount_acts (h : Acts s b) (hv : view.Fits) (now : UInt32) :
    Agree Alike (atollaSourcePutReadyCount H view.env now s) (b.readyCount view now) := by
  rw [atollaSourcePutReadyCount, Borrower.readyCount]
  refine (sourceUpdate_acts H h hv).bind fun s b h => ?_
  rw [Borrower.count, h.errand]
  cases hs : s.state with
  | stateWaiting =>
    rw [if_pos (.inr rfl), Source.errand_waiting hs]
    exact agree_ok.mpr ⟨rfl, h⟩
  | stateError =>
    rw [if_pos (.inl rfl), Source.errand_error hs]
    exact agree_ok.mpr ⟨rfl, h⟩
  | stateOpen =>
    rw [if_neg (by simp), assert_pos rfl, ok_bind, Source.errand_open hs]
    by_cases hnull : s.lastFrameTime = Source.NULL_TIME
    · rw [if_pos hnull, coveredTo, if_pos hnull]
      refine agree_ok.mpr ⟨?_, h⟩
      show s.maxBufferedFrames = b.plan.ahead
      rw [h.plan, Source.plan]
    · rw [if_neg hnull, coveredTo, if_neg hnull]
      simp only [h.due]
      cases uintDiv (now - s.lastFrameTime) s.frameDurationMs with
      | error f => exact rfl
      | ok count => exact agree_ok.mpr ⟨rfl, h⟩

/-- **The timeout.** -/
theorem atollaSourcePutReadyTimeout_acts (h : Acts s b) (hv : view.Fits) (now later : UInt32) :
    Agree Alike (atollaSourcePutReadyTimeout H view.env now later s) (b.readyTimeout view now later) := by
  rw [atollaSourcePutReadyTimeout, Borrower.readyTimeout]
  refine (sourceUpdate_acts H h hv).bind fun s b h => ?_
  rw [Borrower.timeout, h.errand]
  cases hs : s.state with
  | stateWaiting =>
    rw [if_pos (.inr rfl), Source.errand_waiting hs]
    exact agree_ok.mpr ⟨rfl, h⟩
  | stateError =>
    rw [if_pos (.inl rfl), Source.errand_error hs]
    exact agree_ok.mpr ⟨rfl, h⟩
  | stateOpen =>
    rw [if_neg (by simp), Source.errand_open hs]
    by_cases hnull : s.lastFrameTime = Source.NULL_TIME
    · rw [if_pos hnull, coveredTo, if_pos hnull]
      exact agree_ok.mpr ⟨rfl, h⟩
    · have hduration : b.plan.duration = s.frameDurationMs := by rw [h.plan, Source.plan]
      rw [if_neg hnull, coveredTo, if_neg hnull]
      simp only [h.due, hduration]
      cases uintDiv (now - s.lastFrameTime) s.frameDurationMs with
      | error f => exact rfl
      | ok count =>
        by_cases hready : 0 < asInt count
        · rw [ok_bind, if_pos hready]
          exact agree_ok.mpr ⟨(if_pos hready).symm, h⟩
        · rw [ok_bind, if_neg hready]
          exact agree_ok.mpr ⟨(if_neg hready).symm, h⟩

/-- **A put up to its sleep.** -/
theorem sourcePutTimeout_acts (h : Acts s b) {first second third : SourceView} (hfirst : first.Fits)
    (hsecond : second.Fits) (hthird : third.Fits) (now later : UInt32) (sent : Bool) (after : UInt32) :
    Agree Alike (sourcePutTimeout H ⟨first.env, second.env, third.env, now, later, sent, after⟩ s)
      (b.putTimeout first second third now later) := by
  rw [sourcePutTimeout, Borrower.putTimeout]
  refine (sourceUpdate_acts H h hfirst).bind fun s b h => ?_
  rw [atollaSourceState]
  refine (sourceUpdate_acts H h hsecond).bind fun s b h => ?_
  rw [h.state]
  refine agree_ite (fun _ => agree_ok.mpr ⟨rfl, h⟩) fun _ => ?_
  refine (atollaSourcePutReadyTimeout_acts H h hthird now later).bind fun p q hpq => ?_
  exact agree_ok.mpr ⟨congrArg some hpq.1, hpq.2⟩

/-- The account of a frame that left. -/
theorem Acts.advance (h : Acts s b) (after : UInt32) :
    Acts { s with
      nextFrameIdx := (s.nextFrameIdx + 1).tmod 256
      lastFrameTime :=
        if s.lastFrameTime = Source.NULL_TIME then after - UInt32.ofInt (s.maxBufferedFrames - 1) * s.frameDurationMs
        else s.lastFrameTime + s.frameDurationMs } { b with next := b.next + 1, errand := b.cover after } where
  kept := ⟨h.kept.builder, h.kept.error, h.kept.lent⟩
  plan := h.plan
  errand := by
    have hduration : b.plan.duration = s.frameDurationMs := by rw [h.plan, Source.plan]
    have hahead : b.plan.ahead = s.maxBufferedFrames := by rw [h.plan, Source.plan]
    show b.cover after = _
    rw [Borrower.cover, h.errand, hduration, hahead]
    cases hs : s.state with
    | stateWaiting =>
      rw [Source.errand_waiting hs]
      rfl
    | stateError =>
      rw [Source.errand_error hs]
      rfl
    | stateOpen =>
      rw [Source.errand_open hs]
      by_cases hnull : s.lastFrameTime = Source.NULL_TIME
      · rw [coveredTo, if_pos hnull, if_pos hnull]
        rfl
      · rw [coveredTo, if_neg hnull, if_neg hnull]
        rfl
  idx := by
    have hlt := b.next.toNat_lt
    show (s.nextFrameIdx + 1).tmod 256 = ((b.next + 1).toNat : Int)
    rw [h.idx, UInt8.toNat_add, Int.tmod_eq_emod_of_nonneg (by omega)]
    rfl
  sock := h.sock
  next := h.next

/-- **A put behind its sleep.** -/
theorem sourcePutFrame_acts (h : Acts s b) (env : PutEnv) (frame : Bytes) :
    Agree (fun p b' => p.1 = env.sent ∧ Acts p.2 b') (sourcePutFrame H env s frame frame.length)
      (b.send frame env.sent env.after) := by
  rw [Borrower.send]
  by_cases hf : frame.length ≤ 65532
  · have hidx : UInt8.ofInt s.nextFrameIdx = b.next := by
      rw [h.idx, UInt8.ofInt]
      exact UInt8.toNat_inj.mp (by rw [UInt8.toNat_ofNat']; have := b.next.toNat_lt; omega)
    obtain ⟨builder, e, hb⟩ := msgBuilderEnqueue_spec H h.kept.builder (UInt8.ofInt s.nextFrameIdx) hf
    have hread : readBytes builder.msgBuf.data builder.msgBuf.size = .ok builder.msgBuf.bytes :=
      readBytes_of_le hb.valid
    rw [if_pos hf, sourcePutFrame, e, ok_bind, hread, ok_bind, hb.bytes, hidx]
    cases hsent : env.sent with
    | false =>
      have hlost := h.write hb.owned hb.next (.enqueue b.next frame) false
      simp only [Bool.false_eq_true, if_false, List.append_nil] at hlost
      exact agree_ok.mpr ⟨rfl, hlost⟩
    | true =>
      have hadvanced := (h.advance env.after).write hb.owned hb.next (.enqueue b.next frame) true
      rw [if_pos rfl]
      by_cases hnull : s.lastFrameTime = Source.NULL_TIME
      · rw [if_pos hnull] at hadvanced
        rw [if_pos (by exact hnull)]
        exact agree_ok.mpr ⟨rfl, hadvanced⟩
      · rw [if_neg hnull] at hadvanced
        rw [if_neg (by exact hnull)]
        exact agree_ok.mpr ⟨rfl, hadvanced⟩
  · rw [if_neg hf, sourcePutFrame_long H (by omega)]
    exact rfl

end Put

/-! ## Calls -/

/-- The put of the application, as the source finds it. -/
def putEnv (first second third : SourceView) (now later : UInt32) (sent : Bool) (after : UInt32) : PutEnv :=
  ⟨first.env, second.env, third.env, now, later, sent, after⟩

/-- A call of the source, with its outcome. -/
def sourceServe (H : Host) (s : Source) : SourceInput → Run (Source × SourceAnswer)
  | .state view => do
    let s' ← atollaSourceState H view.env s
    return (s', .state s'.state (s'.sock.drop s.sock.length))
  | .errorMsg => do
    let msg ← atollaSourceErrorMsg s
    return (s, .errorMsg msg)
  | .putReadyCount view now => do
    let (count, s') ← atollaSourcePutReadyCount H view.env now s
    return (s', .count count (s'.sock.drop s.sock.length))
  | .putReadyTimeout view now later => do
    let (timeout, s') ← atollaSourcePutReadyTimeout H view.env now later s
    return (s', .timeout timeout (s'.sock.drop s.sock.length))
  | .put first second third now later sent after frame => do
    let env := putEnv first second third now later sent after
    let (wait, _) ← sourcePutTimeout H env s
    let (result, s') ← atollaSourcePut H env s frame frame.length
    return (s', .put (max 0 (wait.getD 0)) result (s'.sock.drop s.sock.length))

/-- Whatever the call finds fits the receive buffer. -/
def SourceInput.Fits : SourceInput → Prop
  | .state view => view.Fits
  | .errorMsg => True
  | .putReadyCount view _ => view.Fits
  | .putReadyTimeout view _ _ => view.Fits
  | .put first second third _ _ _ _ _ => first.Fits ∧ second.Fits ∧ third.Fits

section Call

variable (H : Host) {s s' : Source} {b b' : Borrower}

/-- What left in a call. -/
theorem Acts.left (h : Acts s b) (h' : Acts s' b') : s'.sock.drop s.sock.length = b.left b' := by
  rw [h'.sock, h.sock, Borrower.left]

/-- The error message is there when there is an error. -/
theorem atollaSourceErrorMsg_acts (h : Acts s b) : atollaSourceErrorMsg s = .ok b.errorMsg := by
  rw [atollaSourceErrorMsg, Borrower.errorMsg, h.errand]
  cases hs : s.state with
  | stateWaiting => rw [if_neg (by simp), Source.errand_waiting hs]
  | stateOpen => rw [if_neg (by simp), Source.errand_open hs]
  | stateError =>
    obtain ⟨msg, hmsg⟩ := Option.isSome_iff_exists.mp (h.kept.error.mpr hs)
    rw [if_pos rfl, Source.errand_error hs, hmsg]
    rfl

/-- **A put.** -/
theorem sourceServe_put (h : Acts s b) {first second third : SourceView} (hfirst : first.Fits)
    (hsecond : second.Fits) (hthird : third.Fits) (now later : UInt32) (sent : Bool) (after : UInt32)
    (frame : Bytes) :
    Agree (fun q r => Acts q.1 r.1 ∧ q.2 = r.2) (sourceServe H s (.put first second third now later sent after frame))
      (b.serve (.put first second third now later sent after frame)) := by
  have hwait := sourcePutTimeout_acts H h hfirst hsecond hthird now later sent after
  simp only [sourceServe, Borrower.serve, atollaSourcePut, putEnv]
  cases e : sourcePutTimeout H ⟨first.env, second.env, third.env, now, later, sent, after⟩ s with
  | error f =>
    rw [e] at hwait
    cases e' : b.putTimeout first second third now later with
    | error f' =>
      rw [e'] at hwait
      exact hwait
    | ok q =>
      rw [e'] at hwait
      cases hwait
  | ok p =>
    obtain ⟨wait, s₁⟩ := p
    rw [e] at hwait
    cases e' : b.putTimeout first second third now later with
    | error f' =>
      rw [e'] at hwait
      cases hwait
    | ok q =>
      obtain ⟨wait', b₁⟩ := q
      rw [e'] at hwait
      obtain ⟨hsame, h₁⟩ := agree_ok.mp hwait
      obtain rfl : wait = wait' := hsame
      simp only [ok_bind]
      cases wait with
      | none => exact agree_ok.mpr ⟨h₁, by rw [h.left h₁]; rfl⟩
      | some wait =>
        refine (sourcePutFrame_acts H h₁ ⟨first.env, second.env, third.env, now, later, sent, after⟩ frame).bind ?_
        rintro ⟨result, s'⟩ b' ⟨hresult, h'⟩
        have hresult' : result = sent := hresult
        exact agree_ok.mpr ⟨h', by rw [h.left h', hresult']; rfl⟩

/-- **One call** has the same outcome for both, and leaves them alike. -/
theorem sourceServe_acts (h : Acts s b) {i : SourceInput} (hi : i.Fits) :
    Agree (fun q r => Acts q.1 r.1 ∧ q.2 = r.2) (sourceServe H s i) (b.serve i) := by
  cases i with
  | state view =>
    refine (sourceUpdate_acts H h hi).bind fun s' b' h' => ?_
    exact agree_ok.mpr ⟨h', by rw [h'.state, h.left h']⟩
  | errorMsg =>
    rw [sourceServe, atollaSourceErrorMsg_acts h]
    exact agree_ok.mpr ⟨h, rfl⟩
  | putReadyCount view now =>
    refine (atollaSourcePutReadyCount_acts H h hi now).bind ?_
    rintro ⟨count, s'⟩ ⟨count', b'⟩ ⟨hcount, h'⟩
    obtain rfl : count = count' := hcount
    exact agree_ok.mpr ⟨h', by rw [h.left h']⟩
  | putReadyTimeout view now later =>
    refine (atollaSourcePutReadyTimeout_acts H h hi now later).bind ?_
    rintro ⟨timeout, s'⟩ ⟨timeout', b'⟩ ⟨htimeout, h'⟩
    obtain rfl : timeout = timeout' := htimeout
    exact agree_ok.mpr ⟨h', by rw [h.left h']⟩
  | put first second third now later sent after frame =>
    obtain ⟨hfirst, hsecond, hthird⟩ := hi
    exact sourceServe_put H h hfirst hsecond hthird now later sent after frame

end Call

/-! ## Makes and runs -/

/-- What a make finds, with its datagrams. -/
def MakeView.env (view : MakeView) : MakeEnv :=
  ⟨view.bound, view.resolved, view.first, view.borrow, view.borrowSent, view.updates.map SourceView.env⟩

section Run

variable (H : Host) {spec : AtollaSourceSpec} {s : Source} {b : Borrower}

theorem sourceFresh_acts (spec : AtollaSourceSpec) :
    Acts (sourceFresh H spec) ⟨spec.plan, .asking 0 0, 0, []⟩ :=
  ⟨sourceFresh_kept H spec, rfl, rfl, rfl, rfl, rfl⟩

/-- **The waiting of a blocking make.** -/
theorem sourceAwaitMakeCompletion_acts {views : List SourceView} (hv : ∀ view ∈ views, view.Fits) (h : Acts s b) :
    Agree Acts (sourceAwaitMakeCompletion H (views.map SourceView.env) s) (b.await views) := by
  induction views generalizing s b with
  | nil =>
    rw [List.map_nil, sourceAwaitMakeCompletion, Borrower.await, h.state]
    exact agree_ite (fun _ => rfl) fun _ => agree_ok.mpr h
  | cons view views ih =>
    rw [List.map_cons, sourceAwaitMakeCompletion, Borrower.await, h.state]
    refine agree_ite (fun _ => ?_) fun _ => agree_ok.mpr h
    refine (sourceUpdate_acts H h (hv view List.mem_cons_self)).bind fun s' b' h' => ?_
    exact ih (fun view' hmem => hv view' (List.mem_cons_of_mem _ hmem)) h'

/-- The first BORROW, or none. -/
theorem sourceFirst_acts (spec : AtollaSourceSpec) (view : MakeView) :
    ∃ s, (if view.env.bound then
        if view.env.resolved then
          sourceSendBorrow H view.env.borrow view.env.borrowSent
            { sourceFresh H spec with firstBorrowTime := view.env.first }
        else .ok (sourceFail (sourceFresh H spec) "Sink hostname could not be resolved.")
      else .ok (sourceFail (sourceFresh H spec) "Sink could not bind to port.")) = .ok s ∧
      Acts s (Borrower.fresh spec view) := by
  have hfresh := sourceFresh_acts H spec
  have hbound : view.env.bound = view.bound := rfl
  have hresolved : view.env.resolved = view.resolved := rfl
  rw [Borrower.fresh, hbound, hresolved]
  cases view.bound with
  | false => exact ⟨_, rfl, hfresh.fail unboundMsg⟩
  | true =>
    cases view.resolved with
    | false => exact ⟨_, rfl, hfresh.fail unresolvedMsg⟩
    | true => exact sourceSendBorrow_acts H hfresh rfl view.first view.borrow view.borrowSent

/-- **A make.** -/
theorem atollaSourceMake_acts (spec : AtollaSourceSpec) {view : MakeView} (hv : ∀ v ∈ view.updates, v.Fits) :
    Agree Acts (atollaSourceMake H spec view.env) (Borrower.make spec view) := by
  obtain ⟨s, e, h⟩ := sourceFirst_acts H spec view
  rw [atollaSourceMake_eq, Borrower.make, e]
  refine (agree_refl (R := fun _ _ => True) _ fun _ _ => trivial).bind fun _ _ _ => ?_
  rw [ok_bind]
  exact agree_ite (fun _ => agree_ok.mpr h) fun _ => sourceAwaitMakeCompletion_acts H hv h

/-- A whole run: what left in the make, and the outcomes of the calls behind it. -/
def sourceRun (spec : AtollaSourceSpec) (view : MakeView) (calls : List SourceInput) :
    Run (List Bytes × List (Except Fault SourceAnswer)) := do
  let s ← atollaSourceMake H spec view.env
  return (s.sock, observe (sourceServe H) s calls)

/-- That of a borrower. -/
def Borrower.run (spec : AtollaSourceSpec) (view : MakeView) (calls : List SourceInput) :
    Run (List Bytes × List (Except Fault SourceAnswer)) := do
  let b ← Borrower.make spec view
  return (posted b.written, observe Borrower.serve b calls)

/-- All runs of a source. -/
theorem sourceRun_eq (spec : AtollaSourceSpec) {view : MakeView} (hv : ∀ v ∈ view.updates, v.Fits)
    {calls : List SourceInput} (hc : ∀ i ∈ calls, i.Fits) :
    sourceRun H spec view calls = Borrower.run spec view calls := by
  rw [sourceRun, Borrower.run]
  refine (atollaSourceMake_acts H spec hv).bind_eq fun s b h => ?_
  have hruns := observe_eq Acts SourceInput.Fits (fun _ _ i h hi => sourceServe_acts H (i := i) h hi) calls s b h hc
  rw [h.sock, hruns]

/-- **The host does not matter** for a source either. -/
theorem source_host_independent (H H' : Host) (spec : AtollaSourceSpec) {view : MakeView}
    (hv : ∀ v ∈ view.updates, v.Fits) {calls : List SourceInput} (hc : ∀ i ∈ calls, i.Fits) :
    sourceRun H spec view calls = sourceRun H' spec view calls := by
  have hborrower := sourceRun_eq H spec hv hc
  exact hborrower.trans (sourceRun_eq H' spec hv hc).symm

end Run

/-- An update at a time that finds some messages. -/
def exampleView (t : UInt32) (ms : List WireMsg) : SourceView := ⟨ms, fun _ => t, t, t, true, t⟩

/-- A LENT, a frame, and the FAIL of a sink that has given up. -/
def exampleLoan : List SourceInput :=
  [.state (exampleView 1000 [⟨1, 0, [], nil_le⟩]),
    .put (exampleView 1000 []) (exampleView 1000 []) (exampleView 1000 []) 1000 1000 true 1000 [1, 2, 3],
    .state (exampleView 1100 [⟨255, 1, [0, 0, 5], by simp⟩]), .errorMsg]

def exampleMakeView : MakeView := ⟨true, true, 1000, 1000, true, []⟩

theorem exampleMakeView_fits : ∀ v ∈ exampleMakeView.updates, v.Fits := by
  intro v hv
  cases hv

theorem exampleLoan_fit : ∀ i ∈ exampleLoan, i.Fits := by
  have hnone : ∀ t, (exampleView t []).Fits := fun t => ⟨Nat.zero_le _, fun m hm => by cases hm⟩
  have hlent : (exampleView 1000 [⟨1, 0, [], nil_le⟩]).Fits := ⟨by decide, by simp [exampleView, WireMsg.FitsSource]⟩
  have hfail : (exampleView 1100 [⟨255, 1, [0, 0, 5], by simp⟩]).Fits :=
    ⟨by decide, by simp [exampleView, WireMsg.FitsSource]⟩
  intro i hi
  simp only [exampleLoan, List.mem_cons, List.not_mem_nil, or_false] at hi
  rcases hi with rfl | rfl | rfl | rfl
  · exact hlent
  · exact ⟨hnone _, hnone _, hnone _⟩
  · exact hfail
  · exact trivial

/-- On a host of the other byte order, with other contents of fresh memory. -/
theorem source_host_independent_first :
    sourceRun exampleHost (exampleSpec 20) exampleMakeView exampleLoan =
      sourceRun ⟨true, fun _ => 7⟩ (exampleSpec 20) exampleMakeView exampleLoan :=
  source_host_independent exampleHost ⟨true, fun _ => 7⟩ (exampleSpec 20) exampleMakeView_fits exampleLoan_fit

end Atolla

import Atolla.Sink.Messages
import Atolla.Source.Model

/-!
# Runs of the source

What an update does to a source is little: it may send BORROWs while it waits, become open, or fail (`Updated`). A put
beyond that sends one ENQUEUE and moves the index and `last_frame_time` on (`sourcePutFrame_spec`). So every source that
was made from a spec and then called in any way has the parameters of the spec, and sent nothing but BORROWs with these
and ENQUEUEs (`SourceInv`).
-/

set_option autoImplicit false

namespace Atolla

open Loop

/-- The bytes of a BORROW of this source. -/
def Source.borrowBytes (s : Source) (id : UInt16) : Bytes :=
  (WireMsg.borrow id s.frameDurationMs.toUInt8 (UInt8.ofInt s.maxBufferedFrames)).bytes

/-! ## Updates -/

/-- `s'` is `s` after some updates. -/
structure Updated (s s' : Source) : Prop where
  builder : s'.builder.msgBuf.Owned
  idx : s'.nextFrameIdx = s.nextFrameIdx
  duration : s'.frameDurationMs = s.frameDurationMs
  buffered : s'.maxBufferedFrames = s.maxBufferedFrames
  sock : ∃ ids : List UInt16, s'.sock = s.sock ++ ids.map s.borrowBytes ∧ (s.state ≠ .stateWaiting → ids = [])
  left : s.state ≠ .stateWaiting → s'.state ≠ .stateWaiting
  failed : s.state = .stateError → s'.state = .stateError
  frameTime : s.state ≠ .stateWaiting → s'.lastFrameTime = s.lastFrameTime
  opened : s.state = .stateWaiting → s'.state = .stateOpen → s'.lastFrameTime = Source.NULL_TIME

section Updated

variable {s s' s'' : Source}

theorem Updated.refl (h : s.builder.msgBuf.Owned) : Updated s s where
  builder := h
  idx := rfl
  duration := rfl
  buffered := rfl
  sock := ⟨[], by simp, fun _ => rfl⟩
  left h := h
  failed h := h
  frameTime _ := rfl
  opened hw ho := by rw [hw] at ho; cases ho

/-- Updates of a source that is open in the end and did not wait leave it open all along. -/
theorem Updated.open_of_open (h : Updated s s') (hs : s.state ≠ .stateWaiting) (ho : s'.state = .stateOpen) :
    s.state = .stateOpen := by
  cases hst : s.state with
  | stateWaiting => exact absurd hst hs
  | stateOpen => rfl
  | stateError =>
    rw [h.failed hst] at ho
    cases ho

/-- An open source is open or failed behind an update. -/
theorem Updated.stays_open (h : Updated s s') (ho : s.state = .stateOpen) (hne : s'.state ≠ .stateError) :
    s'.state = .stateOpen := by
  cases hst : s'.state with
  | stateWaiting => exact absurd hst (h.left (by simp [ho]))
  | stateOpen => rfl
  | stateError => exact absurd hst hne

theorem Updated.borrowBytes (h : Updated s s') : s'.borrowBytes = s.borrowBytes := by
  funext id
  rw [Source.borrowBytes, Source.borrowBytes, h.duration, h.buffered]

theorem Updated.trans (h : Updated s s') (h' : Updated s' s'') : Updated s s'' where
  builder := h'.builder
  idx := h'.idx.trans h.idx
  duration := h'.duration.trans h.duration
  buffered := h'.buffered.trans h.buffered
  sock := by
    obtain ⟨ids, hsock, hids⟩ := h.sock
    obtain ⟨ids', hsock', hids'⟩ := h'.sock
    refine ⟨ids ++ ids', ?_, fun hs => ?_⟩
    · rw [hsock', hsock, h.borrowBytes, List.map_append, List.append_assoc]
    · rw [hids hs, hids' (h.left hs), List.append_nil]
  left hs := h'.left (h.left hs)
  failed hs := h'.failed (h.failed hs)
  frameTime hs := (h'.frameTime (h.left hs)).trans (h.frameTime hs)
  opened hs ho := by
    by_cases hw : s'.state = .stateWaiting
    · exact h'.opened hw ho
    · -- it was open after the first part already
      rw [h'.frameTime hw]
      exact h.opened hs (h'.open_of_open hw ho)

/-- What an update does to a source that does not wait. -/
theorem Updated.sock_eq (h : Updated s s') (hs : s.state ≠ .stateWaiting) : s'.sock = s.sock := by
  obtain ⟨ids, hsock, hids⟩ := h.sock
  rw [hsock, hids hs, List.map_nil, List.append_nil]

variable (H : Host)

theorem sourceFail_updated (h : s.builder.msgBuf.Owned) (errorMsg : String) : Updated s (sourceFail s errorMsg) where
  builder := h
  idx := rfl
  duration := rfl
  buffered := rfl
  sock := ⟨[], by simp [sourceFail], fun _ => rfl⟩
  left _ h := by cases h
  failed _ := rfl
  frameTime _ := rfl
  opened _ ho := by cases ho

theorem sourceLent_updated (h : s.builder.msgBuf.Owned) (now : UInt32) : Updated s (sourceLent now s) := by
  unfold sourceLent
  split
  · rename_i hs
    exact ⟨h, rfl, rfl, rfl, ⟨[], by simp, fun _ => rfl⟩, fun hne => absurd hs hne,
      fun he => absurd (hs.symm.trans he) (by decide), fun hne => absurd hs hne, fun _ _ => rfl⟩
  · rename_i hs
    exact ⟨h, rfl, rfl, rfl, ⟨[], by simp, fun _ => rfl⟩, fun hne => hne, fun he => he, fun _ => rfl,
      fun hw => absurd (hs.symm.trans hw) (by decide)⟩
  · exact Updated.refl h

/-- **Sending a BORROW** while the source waits. -/
theorem sourceSendBorrow_spec (h : s.builder.msgBuf.Owned) (now : UInt32) (sent : Bool) :
    ∃ builder, sourceSendBorrow H now sent s = .ok { s with
        lastBorrowTime := now
        builder := builder
        sock := s.sock ++ if sent then [s.borrowBytes s.builder.nextMsgId] else [] } ∧
      builder.msgBuf.Owned := by
  obtain ⟨builder, e, hb⟩ := msgBuilderBorrow_spec H h s.frameDurationMs.toUInt8 (UInt8.ofInt s.maxBufferedFrames)
  have hread : readBytes builder.msgBuf.data builder.msgBuf.size = .ok builder.msgBuf.bytes := readBytes_of_le hb.valid
  refine ⟨builder, ?_, hb.owned⟩
  rw [sourceSendBorrow]
  simp only [e, ok_bind, hread, hb.bytes]
  cases sent
  · simp [sourceSend]
  · rfl

theorem sourceSendBorrow_updated (h : s.builder.msgBuf.Owned) (hs : s.state = .stateWaiting) {now : UInt32}
    {sent : Bool} (e : sourceSendBorrow H now sent s = .ok s') : Updated s s' := by
  obtain ⟨builder, e', hb⟩ := sourceSendBorrow_spec H h now sent
  rw [e', Except.ok.injEq] at e
  subst e
  refine ⟨hb, rfl, rfl, rfl, ⟨if sent then [s.builder.nextMsgId] else [], ?_, fun hne => absurd hs hne⟩,
    fun hne => absurd hs hne, fun he => he, fun _ => rfl, fun _ ho => ?_⟩
  · cases sent <;> rfl
  · rw [hs] at ho
    cases ho

theorem sourceHandleMsg_updated (h : s.builder.msgBuf.Owned) {now : UInt32} {iter : MsgIter}
    (e : sourceHandleMsg H now s iter = .ok s') : Updated s s' := by
  unfold sourceHandleMsg at e
  obtain ⟨type, -, e⟩ := bind_eq_ok.mp e
  cases type with
  | lent =>
    cases e
    exact sourceLent_updated h now
  | fail =>
    obtain ⟨code, -, e⟩ := bind_eq_ok.mp e
    cases e
    exact sourceFail_updated h _
  | borrow =>
    cases e
    exact sourceFail_updated h _
  | enqueue =>
    cases e
    exact sourceFail_updated h _

/-- Whatever the datagram is. -/
theorem sourceIterateRecvBuf_updated (h : s.builder.msgBuf.Owned) {clock : Nat → UInt32} {n : Nat}
    (e : sourceIterateRecvBuf H clock s n = .ok s') : Updated s s' := by
  unfold sourceIterateRecvBuf msgLoop at e
  obtain ⟨⟨s₁, iter⟩, h₁, h₂⟩ := bind_eq_ok.mp e
  cases h₂
  refine (whileM_inv (fun p : Source × MsgIter => Updated s p.1) ?_ n _ _ (Updated.refl h) h₁).1
  rintro ⟨t, iter⟩ ⟨t', iter'⟩ ht - hround
  obtain ⟨t₁, h₁, h₃⟩ := bind_eq_ok.mp hround
  obtain ⟨iter₂, -, h₄⟩ := bind_eq_ok.mp h₃
  cases h₄
  exact ht.trans (sourceHandleMsg_updated H ht.builder h₁)

theorem sourceReceive_updated (h : s.builder.msgBuf.Owned) {env : SourceEnv}
    (e : sourceReceive H env s = .ok s') : Updated s s' := by
  unfold sourceReceive at e
  split at e
  · rename_i recvBuf n sender hrecv
    have hbuf : Updated s { s with recvBuf := recvBuf } :=
      ⟨h, rfl, rfl, rfl, ⟨[], by simp, fun _ => rfl⟩, fun hs => hs, fun hs => hs, fun _ => rfl,
        fun hw ho => absurd (hw.symm.trans ho) (by decide)⟩
    exact hbuf.trans (sourceIterateRecvBuf_updated H h e)
  · cases e
    exact Updated.refl h

theorem sourceManageBorrowPacketLoss_updated (h : s.builder.msgBuf.Owned) {env : SourceEnv}
    (e : sourceManageBorrowPacketLoss H env s = .ok s') : Updated s s' := by
  unfold sourceManageBorrowPacketLoss at e
  split at e
  · rename_i hs
    split at e
    · cases e
      exact sourceFail_updated h _
    · split at e
      · exact sourceSendBorrow_updated H h hs e
      · cases e
        exact Updated.refl h
  · cases e
    exact Updated.refl h

theorem sourceEnsureLentResent_updated (h : s.builder.msgBuf.Owned) {env : SourceEnv}
    (e : sourceEnsureLentResent env s = .ok s') : Updated s s' := by
  unfold sourceEnsureLentResent at e
  split at e
  · obtain ⟨time, -, e⟩ := bind_eq_ok.mp e
    split at e
    · cases e
      exact sourceFail_updated h _
    · cases e
      exact Updated.refl h
  · cases e
    exact Updated.refl h

/-- **An update**, whatever the source receives. -/
theorem sourceUpdate_updated (h : s.builder.msgBuf.Owned) {env : SourceEnv}
    (e : sourceUpdate H env s = .ok s') : Updated s s' := by
  unfold sourceUpdate at e
  obtain ⟨s₁, h₁, e⟩ := bind_eq_ok.mp e
  obtain ⟨s₂, h₂, e⟩ := bind_eq_ok.mp e
  have hu₁ := sourceReceive_updated H h h₁
  have hu₂ := sourceManageBorrowPacketLoss_updated H hu₁.builder h₂
  exact (hu₁.trans hu₂).trans (sourceEnsureLentResent_updated hu₂.builder e)

end Updated

/-! ## Puts -/

section Put

variable (H : Host) {s s' : Source} {frame : Bytes}

/-- What `atolla_source_put_ready_count` returns for an open source. -/
def Source.readyCount (now : UInt32) (s : Source) : Int :=
  if s.lastFrameTime = Source.NULL_TIME then s.maxBufferedFrames
  else asInt ((now - s.lastFrameTime) / s.frameDurationMs)

/-- What `atolla_source_put_ready_timeout` returns for it. -/
def Source.readyTimeout (now later : UInt32) (s : Source) : Int :=
  if s.lastFrameTime = Source.NULL_TIME then 0
  else if 0 < asInt ((now - s.lastFrameTime) / s.frameDurationMs) then 0
  else asInt (s.lastFrameTime + s.frameDurationMs - later)

/-- **The count** is that of the source behind the update. -/
theorem atollaSourcePutReadyCount_value {env : SourceEnv} {now : UInt32} {count : Int}
    (e : atollaSourcePutReadyCount H env now s = .ok (count, s')) :
    sourceUpdate H env s = .ok s' ∧ count = if s'.state = .stateOpen then s'.readyCount now else 0 := by
  unfold atollaSourcePutReadyCount at e
  obtain ⟨s₁, h₁, e⟩ := bind_eq_ok.mp e
  split at e
  · rename_i hclosed
    cases e
    refine ⟨h₁, (if_neg ?_).symm⟩
    rcases hclosed with hs | hs
    · simp [hs]
    · simp [hs]
  · obtain ⟨u, hopen, e⟩ := bind_eq_ok.mp e
    have hs₁ : s₁.state = .stateOpen := by
      by_contra hne
      rw [assert_neg hne] at hopen
      cases hopen
    split at e
    · rename_i hnull
      cases e
      rw [if_pos hs₁, Source.readyCount, if_pos hnull]
      exact ⟨h₁, rfl⟩
    · rename_i hne
      obtain ⟨q, hq, e⟩ := bind_eq_ok.mp e
      cases e
      rw [if_pos hs₁, Source.readyCount, if_neg hne]
      unfold uintDiv at hq
      split at hq
      · cases hq
      · cases hq
        exact ⟨h₁, rfl⟩

/-- **The timeout** is that of the source behind the update. -/
theorem atollaSourcePutReadyTimeout_value {env : SourceEnv} {now later : UInt32} {timeout : Int}
    (e : atollaSourcePutReadyTimeout H env now later s = .ok (timeout, s')) :
    sourceUpdate H env s = .ok s' ∧ (s'.state = .stateOpen → timeout = s'.readyTimeout now later) := by
  unfold atollaSourcePutReadyTimeout at e
  obtain ⟨s₁, h₁, e⟩ := bind_eq_ok.mp e
  split at e
  · rename_i hclosed
    cases e
    refine ⟨h₁, fun hs => ?_⟩
    rw [hs] at hclosed
    rcases hclosed with hc | hc
    · cases hc
    · cases hc
  split at e
  · rename_i hnull
    cases e
    rw [Source.readyTimeout, if_pos hnull]
    exact ⟨h₁, fun _ => rfl⟩
  · rename_i hne
    obtain ⟨q, hq, e⟩ := bind_eq_ok.mp e
    unfold uintDiv at hq
    split at hq
    · cases hq
    · cases hq
      split at e
      · rename_i hpos
        cases e
        rw [Source.readyTimeout, if_neg hne, if_pos hpos]
        exact ⟨h₁, fun _ => rfl⟩
      · rename_i hpos
        cases e
        rw [Source.readyTimeout, if_neg hne, if_neg hpos]
        exact ⟨h₁, fun _ => rfl⟩

theorem atollaSourcePutReadyCount_update {env : SourceEnv} {now : UInt32} {count : Int}
    (e : atollaSourcePutReadyCount H env now s = .ok (count, s')) : sourceUpdate H env s = .ok s' :=
  (atollaSourcePutReadyCount_value H e).1

theorem atollaSourcePutReadyTimeout_update {env : SourceEnv} {now later : UInt32} {timeout : Int}
    (e : atollaSourcePutReadyTimeout H env now later s = .ok (timeout, s')) : sourceUpdate H env s = .ok s' :=
  (atollaSourcePutReadyTimeout_value H e).1

/-- The updates of a put. -/
theorem sourcePutTimeout_updates {env : PutEnv} {timeout : Option Int}
    (e : sourcePutTimeout H env s = .ok (timeout, s')) :
    ∃ s₁ s₂, sourceUpdate H env.update s = .ok s₁ ∧ sourceUpdate H env.state s₁ = .ok s₂ ∧
      ((s₂.state ≠ .stateOpen ∧ timeout = none ∧ s' = s₂) ∨
        (s₂.state = .stateOpen ∧ timeout.isSome ∧ sourceUpdate H env.timeout s₂ = .ok s')) := by
  unfold sourcePutTimeout at e
  obtain ⟨s₁, h₁, e⟩ := bind_eq_ok.mp e
  obtain ⟨s₂, h₂, e⟩ := bind_eq_ok.mp e
  refine ⟨s₁, s₂, h₁, h₂, ?_⟩
  split at e
  · rename_i hs
    cases e
    exact .inl ⟨hs, rfl, rfl⟩
  · rename_i hs
    obtain ⟨⟨t, s₃⟩, h₃, e⟩ := bind_eq_ok.mp e
    cases e
    exact .inr ⟨not_not.mp hs, rfl, atollaSourcePutReadyTimeout_update H h₃⟩

theorem sourcePutTimeout_updated (h : s.builder.msgBuf.Owned) {env : PutEnv} {timeout : Option Int}
    (e : sourcePutTimeout H env s = .ok (timeout, s')) : Updated s s' := by
  obtain ⟨s₁, s₂, h₁, h₂, hcase⟩ := sourcePutTimeout_updates H e
  have hu₁ := sourceUpdate_updated H h h₁
  have hu₂ := hu₁.trans (sourceUpdate_updated H hu₁.builder h₂)
  rcases hcase with ⟨-, -, rfl⟩ | ⟨-, -, h₃⟩
  · exact hu₂
  · exact hu₂.trans (sourceUpdate_updated H hu₂.builder h₃)

/-- A source with a timeout for its put does not wait for the sink. -/
theorem sourcePutTimeout_left (h : s.builder.msgBuf.Owned) {env : PutEnv} {timeout : Int}
    (e : sourcePutTimeout H env s = .ok (some timeout, s')) : s'.state ≠ .stateWaiting := by
  obtain ⟨s₁, s₂, h₁, h₂, ⟨-, hnone, -⟩ | ⟨ho, -, h₃⟩⟩ := sourcePutTimeout_updates H e
  · cases hnone
  · have hu₁ := sourceUpdate_updated H h h₁
    have hu₂ := sourceUpdate_updated H hu₁.builder h₂
    refine (sourceUpdate_updated H hu₂.builder h₃).left ?_
    rw [ho]
    decide

/-- **A put** sends a frame, or has no timeout. -/
theorem atollaSourcePut_cases {env : PutEnv} {frameLen : Nat} {result : Bool}
    (e : atollaSourcePut H env s frame frameLen = .ok (result, s')) :
    ∃ timeout s₁, sourcePutTimeout H env s = .ok (timeout, s₁) ∧
      ((timeout = none ∧ result = false ∧ s' = s₁) ∨
        (timeout.isSome ∧ sourcePutFrame H env s₁ frame frameLen = .ok (result, s'))) := by
  unfold atollaSourcePut at e
  obtain ⟨⟨timeout, s₁⟩, h₁, e⟩ := bind_eq_ok.mp e
  refine ⟨timeout, s₁, h₁, ?_⟩
  cases timeout with
  | none =>
    cases e
    exact .inl ⟨rfl, rfl, rfl⟩
  | some timeout => exact .inr ⟨rfl, e⟩

/-- The ENQUEUE of the next frame. -/
def Source.enqueueBytes (s : Source) (frame : Bytes) : Bytes :=
  encode 2 s.builder.nextMsgId (enqueuePayload (UInt8.ofInt s.nextFrameIdx) frame)

/-- The source after that ENQUEUE was sent. -/
def Source.advanced (s : Source) (builder : MsgBuilder) (frame : Bytes) (after : UInt32) : Source :=
  { s with
    builder := builder
    sock := s.sock ++ [s.enqueueBytes frame]
    nextFrameIdx := (s.nextFrameIdx + 1).tmod 256
    lastFrameTime :=
      if s.lastFrameTime = Source.NULL_TIME then after - UInt32.ofInt (s.maxBufferedFrames - 1) * s.frameDurationMs
      else s.lastFrameTime + s.frameDurationMs }

/-- **A put behind its sleep** sends one ENQUEUE and moves on, or changes nothing but the builder. -/
theorem sourcePutFrame_spec (h : s.builder.msgBuf.Owned) (hf : frame.length ≤ 65532) (env : PutEnv) :
    ∃ builder, sourcePutFrame H env s frame frame.length =
        .ok (env.sent, if env.sent then s.advanced builder frame env.after else { s with builder := builder }) ∧
      builder.msgBuf.Owned := by
  obtain ⟨builder, e, hb⟩ := msgBuilderEnqueue_spec H h (UInt8.ofInt s.nextFrameIdx) hf
  have hread : readBytes builder.msgBuf.data builder.msgBuf.size = .ok builder.msgBuf.bytes := readBytes_of_le hb.valid
  refine ⟨builder, ?_, hb.owned⟩
  rw [sourcePutFrame, e, ok_bind, hread, ok_bind, hb.bytes]
  cases env.sent with
  | false => rfl
  | true =>
    rw [Source.advanced]
    by_cases hn : s.lastFrameTime = Source.NULL_TIME
    · rw [if_pos rfl, if_pos rfl, if_pos hn]
      exact if_pos hn
    · rw [if_pos rfl, if_pos rfl, if_neg hn]
      exact if_neg hn

/-- A frame that is too long for a message fails an assertion of the builder. -/
theorem sourcePutFrame_long (hf : 65532 < frame.length) (env : PutEnv) (s : Source) :
    sourcePutFrame H env s frame frame.length = .error .assertion := by
  have hassert : assert (1 + 2 + frame.length ≤ maxPayloadLen) = .error .assertion :=
    assert_neg (by simp only [maxPayloadLen]; omega)
  rw [sourcePutFrame, msgBuilderEnqueue, readBytes_of_le (Nat.le_refl _), ok_bind, build, hassert]
  rfl

theorem sourcePutFrame_length_le {env : PutEnv} {result : Bool}
    (e : sourcePutFrame H env s frame frame.length = .ok (result, s')) : frame.length ≤ 65532 := by
  by_contra hlt
  rw [sourcePutFrame_long H (by omega)] at e
  cases e

theorem sourcePutFrame_state (h : s.builder.msgBuf.Owned) {env : PutEnv} {result : Bool}
    (e : sourcePutFrame H env s frame frame.length = .ok (result, s')) : s'.state = s.state := by
  obtain ⟨builder, e', -⟩ := sourcePutFrame_spec H h (sourcePutFrame_length_le H e) env
  rw [e', Except.ok.injEq, Prod.mk.injEq] at e
  rw [← e.2]
  split
  · rfl
  · rfl

/-- An open source receives nothing, and the last LENT is not too old. -/
def SourceEnv.Quiet (env : SourceEnv) (s : Source) : Prop :=
  env.datagram = none ∧ ∃ time ∈ s.lastRecvLentTime, env.ensure - time < s.disconnectTimeoutMs

theorem sourceUpdate_quiet (ho : s.state = .stateOpen) {env : SourceEnv} (hq : env.Quiet s) :
    sourceUpdate H env s = .ok s := by
  obtain ⟨hnone, time, htime, hlive⟩ := hq
  have hfield : readField s.lastRecvLentTime = .ok time := by rw [Option.mem_def.mp htime]; rfl
  rw [sourceUpdate, sourceReceive, hnone]
  show sourceManageBorrowPacketLoss H env s >>= _ = _
  rw [sourceManageBorrowPacketLoss, if_neg (by simp [ho])]
  show sourceEnsureLentResent env s = _
  rw [sourceEnsureLentResent, if_pos ho, hfield]
  show (if s.disconnectTimeoutMs ≤ env.ensure - time then _ else _) = _
  rw [if_neg (UInt32.not_le.mpr hlive)]
  rfl

/-- The first put need not sleep. -/
theorem sourcePutTimeout_first (ho : s.state = .stateOpen) {env : PutEnv} (h₁ : env.update.Quiet s)
    (h₂ : env.state.Quiet s) (h₃ : env.timeout.Quiet s) (hnull : s.lastFrameTime = Source.NULL_TIME) :
    sourcePutTimeout H env s = .ok (some 0, s) := by
  have htimeout : atollaSourcePutReadyTimeout H env.timeout env.now env.later s = .ok (0, s) := by
    rw [atollaSourcePutReadyTimeout, sourceUpdate_quiet H ho h₃, ok_bind, if_neg (by simp [ho]), if_pos hnull]
    rfl
  rw [sourcePutTimeout, sourceUpdate_quiet H ho h₁, ok_bind, atollaSourceState, sourceUpdate_quiet H ho h₂, ok_bind,
    if_neg (not_not.mpr ho), htimeout]
  rfl

/-- **A put that need not sleep**: a frame duration has passed since `last_frame_time`. -/
theorem sourcePutTimeout_ready (ho : s.state = .stateOpen) {env : PutEnv} (h₁ : env.update.Quiet s)
    (h₂ : env.state.Quiet s) (h₃ : env.timeout.Quiet s) (hne : s.lastFrameTime ≠ Source.NULL_TIME)
    (hd : s.frameDurationMs ≠ 0) (hready : 0 < asInt ((env.now - s.lastFrameTime) / s.frameDurationMs)) :
    sourcePutTimeout H env s = .ok (some 0, s) := by
  have hdiv : uintDiv (env.now - s.lastFrameTime) s.frameDurationMs =
      .ok ((env.now - s.lastFrameTime) / s.frameDurationMs) := if_neg hd
  have htimeout : atollaSourcePutReadyTimeout H env.timeout env.now env.later s = .ok (0, s) := by
    rw [atollaSourcePutReadyTimeout, sourceUpdate_quiet H ho h₃, ok_bind, if_neg (by simp [ho]), if_neg hne, hdiv,
      ok_bind, if_pos hready]
    rfl
  rw [sourcePutTimeout, sourceUpdate_quiet H ho h₁, ok_bind, atollaSourceState, sourceUpdate_quiet H ho h₂, ok_bind,
    if_neg (not_not.mpr ho), htimeout]
  rfl

end Put

/-! ## Runs -/

/-- `max_buffered_frames` of a source made from the spec. -/
def AtollaSourceSpec.bufferedFrames (spec : AtollaSourceSpec) : Int :=
  if spec.maxBufferedFrames = 0 then Source.maxBufferedFramesDefault else spec.maxBufferedFrames

/-- **What holds of every source** made from the spec. -/
structure SourceInv (spec : AtollaSourceSpec) (s : Source) : Prop where
  builder : s.builder.msgBuf.Owned
  duration : s.frameDurationMs = UInt32.ofInt spec.frameDurationMs
  buffered : s.maxBufferedFrames = spec.bufferedFrames
  sent : ∀ bytes ∈ s.sock, (∃ id, bytes = s.borrowBytes id) ∨
    ∃ id idx frame h, bytes = (WireMsg.enqueue id idx frame h).bytes

section Run

variable {H : Host} {spec : AtollaSourceSpec} {s s' : Source}

theorem SourceInv.updated (h : SourceInv spec s) (hu : Updated s s') : SourceInv spec s' where
  builder := hu.builder
  duration := hu.duration.trans h.duration
  buffered := hu.buffered.trans h.buffered
  sent bytes hb := by
    obtain ⟨ids, hsock, -⟩ := hu.sock
    rw [hu.borrowBytes]
    rw [hsock, List.mem_append] at hb
    rcases hb with hb | hb
    · exact h.sent bytes hb
    · obtain ⟨id, -, rfl⟩ := List.mem_map.mp hb
      exact .inl ⟨id, rfl⟩

theorem SourceInv.putFrame (h : SourceInv spec s) {env : PutEnv} {frame : Bytes} {result : Bool}
    (e : sourcePutFrame H env s frame frame.length = .ok (result, s')) : SourceInv spec s' := by
  have hf := sourcePutFrame_length_le H e
  obtain ⟨builder, e', hb⟩ := sourcePutFrame_spec H h.builder hf env
  rw [e'] at e
  cases e
  split
  · refine ⟨hb, h.duration, h.buffered, fun bytes hm => ?_⟩
    rcases List.mem_append.mp hm with hm | hm
    · exact h.sent bytes hm
    · exact .inr ⟨_, _, frame, hf, List.mem_singleton.mp hm⟩
  · exact ⟨hb, h.duration, h.buffered, h.sent⟩

/-- A blocking make updates until the source no longer waits. -/
theorem sourceAwaitMakeCompletion_updated :
    ∀ {envs : List SourceEnv} {s : Source}, s.builder.msgBuf.Owned →
      sourceAwaitMakeCompletion H envs s = .ok s' → Updated s s'
  | [], s, h, e => by
    rw [sourceAwaitMakeCompletion] at e
    split at e
    · cases e
    · cases e
      exact Updated.refl h
  | env :: envs, s, h, e => by
    rw [sourceAwaitMakeCompletion] at e
    split at e
    · obtain ⟨s₁, h₁, e⟩ := bind_eq_ok.mp e
      have hu := sourceUpdate_updated H h h₁
      exact hu.trans (sourceAwaitMakeCompletion_updated hu.builder e)
    · cases e
      exact Updated.refl h

/-- The source before its first update. -/
def sourceFresh (H : Host) (spec : AtollaSourceSpec) : Source :=
  { sourcePrivateMake H spec with builder := msgBuilderInit H }

/-- **Making a source**: a first BORROW from the fresh one, or a failure, and then the updates of a blocking make. -/
theorem atollaSourceMake_eq (H : Host) (spec : AtollaSourceSpec) (env : MakeEnv) :
    atollaSourceMake H spec env = assert (0 ≤ spec.sinkPort ∧ spec.sinkPort < 65536) >>= fun _ =>
      (if env.bound then
        if env.resolved then
          sourceSendBorrow H env.borrow env.borrowSent { sourceFresh H spec with firstBorrowTime := env.first }
        else .ok (sourceFail (sourceFresh H spec) "Sink hostname could not be resolved.")
      else .ok (sourceFail (sourceFresh H spec) "Sink could not bind to port.")) >>= fun source =>
        if spec.asyncMake then .ok source else sourceAwaitMakeCompletion H env.updates source := by
  unfold atollaSourceMake sourceFresh
  by_cases hp : 0 ≤ spec.sinkPort ∧ spec.sinkPort < 65536
  · rw [assert_pos hp, ok_bind, ok_bind]
    cases env.bound with
    | false => rfl
    | true =>
      cases env.resolved with
      | false => rfl
      | true => rfl
  · rw [assert_neg hp]
    rfl

/-- **Making a source** is updating the fresh one. -/
theorem atollaSourceMake_updated {env : MakeEnv} (e : atollaSourceMake H spec env = .ok s) :
    ∃ s₁, Updated s₁ s ∧ s₁.state = .stateWaiting ∧ s₁.sock = [] ∧ s₁.nextFrameIdx = 0 ∧
      s₁.frameDurationMs = UInt32.ofInt spec.frameDurationMs ∧ s₁.maxBufferedFrames = spec.bufferedFrames := by
  have hown : (sourceFresh H spec).builder.msgBuf.Owned := memBlockAlloc_owned H _
  rw [atollaSourceMake_eq] at e
  obtain ⟨-, -, e⟩ := bind_eq_ok.mp e
  obtain ⟨s₂, h₂, e⟩ := bind_eq_ok.mp e
  -- a blocking make goes on with updates
  have hawait : s₂.builder.msgBuf.Owned → Updated s₂ s := by
    intro h
    split at e
    · cases e
      exact Updated.refl h
    · exact sourceAwaitMakeCompletion_updated h e
  have hfail : ∀ msg, s₂ = sourceFail (sourceFresh H spec) msg → Updated (sourceFresh H spec) s := by
    rintro msg rfl
    have hu := sourceFail_updated hown msg
    exact hu.trans (hawait hu.builder)
  split at h₂
  · split at h₂
    · have hu := sourceSendBorrow_updated H (s := { sourceFresh H spec with firstBorrowTime := env.first }) hown rfl h₂
      exact ⟨_, hu.trans (hawait hu.builder), rfl, rfl, rfl, rfl, rfl⟩
    · cases h₂
      exact ⟨sourceFresh H spec, hfail _ rfl, rfl, rfl, rfl, rfl, rfl⟩
  · cases h₂
    exact ⟨sourceFresh H spec, hfail _ rfl, rfl, rfl, rfl, rfl, rfl⟩

theorem atollaSourceMake_inv {env : MakeEnv} (e : atollaSourceMake H spec env = .ok s) : SourceInv spec s := by
  obtain ⟨s₁, hu, -, hsock, -, hd, hb⟩ := atollaSourceMake_updated e
  refine ⟨hu.builder, hu.duration.trans hd, hu.buffered.trans hb, ?_⟩
  obtain ⟨ids, hsock', -⟩ := hu.sock
  intro bytes hm
  rw [hsock', hsock, List.nil_append] at hm
  obtain ⟨id, -, rfl⟩ := List.mem_map.mp hm
  rw [hu.borrowBytes]
  exact .inl ⟨id, rfl⟩

/-- **One call.** -/
theorem sourceCall_inv (h : SourceInv spec s) {c : SourceCall} (e : sourceCall H s c = .ok s') :
    SourceInv spec s' := by
  cases c with
  | state env => exact h.updated (sourceUpdate_updated H h.builder e)
  | putReadyCount env now =>
    obtain ⟨⟨count, s₁⟩, h₁, h₂⟩ := bind_eq_ok.mp e
    cases h₂
    exact h.updated (sourceUpdate_updated H h.builder (atollaSourcePutReadyCount_update H h₁))
  | putReadyTimeout env now later =>
    obtain ⟨⟨timeout, s₁⟩, h₁, h₂⟩ := bind_eq_ok.mp e
    cases h₂
    exact h.updated (sourceUpdate_updated H h.builder (atollaSourcePutReadyTimeout_update H h₁))
  | put env frame =>
    obtain ⟨⟨result, s₁⟩, h₁, h₂⟩ := bind_eq_ok.mp e
    cases h₂
    obtain ⟨timeout, s₂, h₂, hcase⟩ := atollaSourcePut_cases H h₁
    have hi := h.updated (sourcePutTimeout_updated H h.builder h₂)
    rcases hcase with ⟨-, -, rfl⟩ | ⟨-, h₃⟩
    · exact hi
    · exact hi.putFrame h₃

/-- **Every reachable source** satisfies the invariant. -/
theorem sourceReachable_inv (h : SourceReachable H spec s) : SourceInv spec s := by
  induction h with
  | make e => exact atollaSourceMake_inv e
  | call _ e ih => exact sourceCall_inv ih e

end Run

/-- A spec with a frame duration, and the default for everything else. -/
def exampleSpec (frameDurationMs : Int) : AtollaSourceSpec := ⟨"sink", 10042, frameDurationMs, 0, 0, 0, true⟩

/-- A clock that stands still at 1000 ms, and a LENT that arrives. -/
def exampleMake : MakeEnv := ⟨true, true, 1000, 1000, true, []⟩

def exampleLent : SourceEnv := ⟨some (encode 1 0 []), fun _ => 1000, 1000, 1000, true, 1000⟩

/-- Its source, made and then open. -/
def exampleOpen (frameDurationMs : Int) : Run Source :=
  atollaSourceMake exampleHost (exampleSpec frameDurationMs) exampleMake >>= fun source =>
    sourceCall exampleHost source (.state exampleLent)

theorem exampleOpen_reachable {d : Int} {source : Source} (e : exampleOpen d = .ok source) :
    SourceReachable exampleHost (exampleSpec d) source := by
  obtain ⟨s, h₁, h₂⟩ := bind_eq_ok.mp e
  exact .call (.make h₁) h₂

end Atolla

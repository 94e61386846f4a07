import Atolla.Source.Runs
import Mathlib.Logic.Relation

/-!
# The state machine of the source

Every call runs through the states that its messages and checks lead to, one `SourceStep` after the other
(`sourceCall_steps`). A step moves the state forward only, and touches the index and `last_frame_time` only where a
frame is sent or the connection opens (`SourceMove`). The two fields that are not initialised are there before they are
read (`SourceKept`).
-/

set_option autoImplicit false

namespace Atolla

open Loop Relation

/-! ## Steps -/

/-- A step of a call: a datagram in the buffer, a message, one of the two checks behind the messages, a frame. -/
inductive SourceStep (H : Host) (c : SourceCall) : Source → Source → Prop
  | receive {s : Source} (recvBuf : Bytes) : SourceStep H c s { s with recvBuf := recvBuf }
  | message {s s' : Source} {now : UInt32} {iter : MsgIter} : sourceHandleMsg H now s iter = .ok s' →
      SourceStep H c s s'
  | manage {s s' : Source} {env : SourceEnv} : sourceManageBorrowPacketLoss H env s = .ok s' → SourceStep H c s s'
  | ensure {s s' : Source} {env : SourceEnv} : sourceEnsureLentResent env s = .ok s' → SourceStep H c s s'
  | frame {s s' : Source} {env : PutEnv} {frame : Bytes} {result : Bool} : c = .put env frame →
      sourcePutFrame H env s frame frame.length = .ok (result, s') → SourceStep H c s s'

/-- The states that a source made from the spec passes. -/
inductive SourcePasses (H : Host) (spec : AtollaSourceSpec) : Source → Prop
  | fresh : SourcePasses H spec (sourceFresh H spec)
  | borrow {s : Source} {first now : UInt32} {sent : Bool} :
      sourceSendBorrow H now sent { sourceFresh H spec with firstBorrowTime := first } = .ok s → SourcePasses H spec s
  | fail (errorMsg : String) : SourcePasses H spec (sourceFail (sourceFresh H spec) errorMsg)
  | step {s s' : Source} {c : SourceCall} : SourcePasses H spec s → SourceStep H c s s' → SourcePasses H spec s'

/-- The changes of state. -/
inductive AtollaSourceState.Moves : AtollaSourceState → AtollaSourceState → Prop
  | opened : Moves .stateWaiting .stateOpen
  | refused : Moves .stateWaiting .stateError
  | lost : Moves .stateOpen .stateError

/-- The frame of a put is sent. -/
def PutSucceeds (H : Host) (c : SourceCall) (s s' : Source) : Prop :=
  ∃ env frame, c = .put env frame ∧ sourcePutFrame H env s frame frame.length = .ok (true, s')

/-- **What a step changes**, and what it leaves alone. -/
structure SourceMove (H : Host) (c : SourceCall) (s s' : Source) : Prop where
  state : s'.state = s.state ∨ s.state.Moves s'.state
  sock : ∃ sent, s'.sock = s.sock ++ sent ∧ (s.state ≠ .stateWaiting → ∀ bytes ∈ sent, bytes.head? ≠ some 0)
  idx : s'.nextFrameIdx = s.nextFrameIdx ∨ PutSucceeds H c s s'
  frameTime : s'.lastFrameTime = s.lastFrameTime ∨ PutSucceeds H c s s' ∨
    (s.state = .stateWaiting ∧ s'.state = .stateOpen)

/-- **The fields without initial values** are written in time. -/
structure SourceKept (s : Source) : Prop where
  builder : s.builder.msgBuf.Owned
  error : s.errorMsg.isSome ↔ s.state = .stateError
  lent : s.state = .stateOpen → s.lastRecvLentTime.isSome

section Step

variable {H : Host} {c : SourceCall} {s s' : Source}

/-! ### The fields -/

theorem SourceKept.fail (h : SourceKept s) (errorMsg : String) : SourceKept (sourceFail s errorMsg) where
  builder := h.builder
  error := ⟨fun _ => rfl, fun _ => rfl⟩
  lent ho := by cases ho

theorem SourceKept.lentMsg (h : SourceKept s) (now : UInt32) : SourceKept (sourceLent now s) := by
  unfold sourceLent
  split
  · rename_i hs
    refine ⟨h.builder, ?_, fun _ => rfl⟩
    rw [h.error, hs]
    simp
  · exact ⟨h.builder, h.error, fun _ => rfl⟩
  · exact h

theorem SourceKept.firstBorrow (h : SourceKept s) (first : UInt32) :
    SourceKept { s with firstBorrowTime := first } := ⟨h.builder, h.error, h.lent⟩

theorem SourceKept.sendBorrow (h : SourceKept s) {now : UInt32} {sent : Bool}
    (e : sourceSendBorrow H now sent s = .ok s') : SourceKept s' := by
  obtain ⟨builder, e', hb⟩ := sourceSendBorrow_spec H h.builder now sent
  rw [e', Except.ok.injEq] at e
  subst e
  exact ⟨hb, h.error, h.lent⟩

theorem SourceKept.handleMsg (h : SourceKept s) {now : UInt32} {iter : MsgIter}
    (e : sourceHandleMsg H now s iter = .ok s') : SourceKept s' := by
  unfold sourceHandleMsg at e
  obtain ⟨type, -, e⟩ := bind_eq_ok.mp e
  cases type with
  | lent =>
    cases e
    exact h.lentMsg now
  | fail =>
    obtain ⟨code, -, e⟩ := bind_eq_ok.mp e
    cases e
    exact h.fail _
  | borrow =>
    cases e
    exact h.fail _
  | enqueue =>
    cases e
    exact h.fail _

theorem SourceKept.manage (h : SourceKept s) {env : SourceEnv}
    (e : sourceManageBorrowPacketLoss H env s = .ok s') : SourceKept s' := by
  unfold sourceManageBorrowPacketLoss at e
  split at e
  · split at e
    · cases e
      exact h.fail _
    · split at e
      · exact h.sendBorrow e
      · cases e
        exact h
  · cases e
    exact h

theorem SourceKept.ensure (h : SourceKept s) {env : SourceEnv} (e : sourceEnsureLentResent env s = .ok s') :
    SourceKept s' := by
  unfold sourceEnsureLentResent at e
  split at e
  · obtain ⟨time, -, e⟩ := bind_eq_ok.mp e
    split at e
    · cases e
      exact h.fail _
    · cases e
      exact h
  · cases e
    exact h

theorem SourceKept.frame (h : SourceKept s) {env : PutEnv} {frame : Bytes} {result : Bool}
    (e : sourcePutFrame H env s frame frame.length = .ok (result, s')) : SourceKept s' := by
  obtain ⟨builder, e', hb⟩ := sourcePutFrame_spec H h.builder (sourcePutFrame_length_le H e) env
  rw [e'] at e
  cases e
  split
  · exact ⟨hb, h.error, h.lent⟩
  · exact ⟨hb, h.error, h.lent⟩

/-- **A step** keeps them. -/
theorem SourceKept.step (h : SourceKept s) (hstep : SourceStep H c s s') : SourceKept s' := by
  cases hstep with
  | receive recvBuf => exact ⟨h.builder, h.error, h.lent⟩
  | message e => exact h.handleMsg e
  | manage e => exact h.manage e
  | ensure e => exact h.ensure e
  | frame _ e => exact h.frame e

theorem sourceFresh_kept (H : Host) (spec : AtollaSourceSpec) : SourceKept (sourceFresh H spec) where
  builder := memBlockAlloc_owned H _
  error := by simp [sourceFresh, sourcePrivateMake]
  lent ho := by cases ho

/-- **Every state that is passed** keeps them. -/
theorem SourcePasses.kept {spec : AtollaSourceSpec} (h : SourcePasses H spec s) : SourceKept s := by
  induction h with
  | fresh => exact sourceFresh_kept H spec
  | borrow e => exact ((sourceFresh_kept H spec).firstBorrow _).sendBorrow e
  | fail errorMsg => exact (sourceFresh_kept H spec).fail errorMsg
  | step _ hstep ih => exact ih.step hstep

/-! ### The changes -/

/-- What an update does, if `last_frame_time` is left alone while the source waits. -/
theorem Updated.move (h : Updated s s')
    (ht : s.state = .stateWaiting → s'.lastFrameTime = s.lastFrameTime ∨ s'.state = .stateOpen) :
    SourceMove H c s s' where
  state := by
    cases hs : s.state with
    | stateWaiting =>
      cases s'.state with
      | stateWaiting => exact .inl rfl
      | stateOpen => exact .inr .opened
      | stateError => exact .inr .refused
    | stateOpen =>
      cases hs' : s'.state with
      | stateWaiting => exact absurd hs' (h.left (by simp [hs]))
      | stateOpen => exact .inl rfl
      | stateError => exact .inr .lost
    | stateError => exact .inl (h.failed hs)
  sock := by
    obtain ⟨ids, hsock, hids⟩ := h.sock
    refine ⟨_, hsock, fun hs => ?_⟩
    rw [hids hs]
    simp
  idx := .inl h.idx
  frameTime := by
    by_cases hs : s.state = .stateWaiting
    · exact (ht hs).imp_right fun ho => .inr ⟨hs, ho⟩
    · exact .inl (h.frameTime hs)

theorem sourceHandleMsg_frameTime {now : UInt32} {iter : MsgIter} (hs : s.state = .stateWaiting)
    (e : sourceHandleMsg H now s iter = .ok s') : s'.lastFrameTime = s.lastFrameTime ∨ s'.state = .stateOpen := by
  unfold sourceHandleMsg at e
  obtain ⟨type, -, e⟩ := bind_eq_ok.mp e
  cases type with
  | lent =>
    cases e
    right
    simp [sourceLent, hs]
  | fail =>
    obtain ⟨code, -, e⟩ := bind_eq_ok.mp e
    cases e
    exact .inl rfl
  | borrow =>
    cases e
    exact .inl rfl
  | enqueue =>
    cases e
    exact .inl rfl

theorem sourceManageBorrowPacketLoss_frameTime {env : SourceEnv} (h : s.builder.msgBuf.Owned)
    (e : sourceManageBorrowPacketLoss H env s = .ok s') : s'.lastFrameTime = s.lastFrameTime := by
  unfold sourceManageBorrowPacketLoss at e
  split at e
  · split at e
    · cases e
      rfl
    · split at e
      · obtain ⟨builder, e', -⟩ := sourceSendBorrow_spec H h env.borrow env.borrowSent
        rw [e', Except.ok.injEq] at e
        subst e
        rfl
      · cases e
        rfl
  · cases e
    rfl

/-- **A step** changes no more than it may. -/
theorem SourceStep.move (h : SourceKept s) (hstep : SourceStep H c s s') : SourceMove H c s s' := by
  cases hstep with
  | receive recvBuf => exact ⟨.inl rfl, ⟨[], by simp, by simp⟩, .inl rfl, .inl rfl⟩
  | message e => exact (sourceHandleMsg_updated H h.builder e).move fun hs => sourceHandleMsg_frameTime hs e
  | manage e =>
    exact (sourceManageBorrowPacketLoss_updated H h.builder e).move fun _ =>
      .inl (sourceManageBorrowPacketLoss_frameTime h.builder e)
  | @ensure _ env e =>
    refine (sourceEnsureLentResent_updated h.builder e).move fun hs => .inl ?_
    rw [sourceEnsureLentResent, if_neg (by simp [hs])] at e
    cases e
    rfl
  | @frame _ env frame result hc e =>
    obtain ⟨builder, e', -⟩ := sourcePutFrame_spec H h.builder (sourcePutFrame_length_le H e) env
    have heq := e
    rw [e'] at heq
    cases hsent : env.sent with
    | false =>
      rw [hsent] at heq
      cases heq
      exact ⟨.inl rfl, ⟨[], by simp, by simp⟩, .inl rfl, .inl rfl⟩
    | true =>
      rw [hsent] at heq
      cases heq
      have hput : PutSucceeds H c s (s.advanced builder frame env.after) := ⟨env, frame, hc, e⟩
      refine ⟨.inl rfl, ⟨[s.enqueueBytes frame], rfl, fun _ bytes hm => ?_⟩, .inr hput, .inr (.inl hput)⟩
      rw [List.mem_singleton.mp hm]
      simp [Source.enqueueBytes, encode]

end Step

/-! ## Calls -/

section Call

variable {H : Host} {c : SourceCall} {s s' : Source}

theorem sourceIterateRecvBuf_steps {clock : Nat → UInt32} {n : Nat} (e : sourceIterateRecvBuf H clock s n = .ok s') :
    ReflTransGen (SourceStep H c) s s' := by
  unfold sourceIterateRecvBuf msgLoop at e
  obtain ⟨⟨s₁, iter⟩, h₁, h₂⟩ := bind_eq_ok.mp e
  cases h₂
  refine (whileM_inv (fun p : Source × MsgIter => ReflTransGen (SourceStep H c) s p.1) ?_ n _ _ .refl h₁).1
  rintro ⟨t, iter⟩ ⟨t', iter'⟩ ht - hround
  obtain ⟨t₁, h₁, h₃⟩ := bind_eq_ok.mp hround
  obtain ⟨iter₂, -, h₄⟩ := bind_eq_ok.mp h₃
  cases h₄
  exact ht.tail (.message h₁)

theorem sourceReceive_steps {env : SourceEnv} (e : sourceReceive H env s = .ok s') :
    ReflTransGen (SourceStep H c) s s' := by
  unfold sourceReceive at e
  split at e
  · rename_i recvBuf n sender hrecv
    exact (sourceIterateRecvBuf_steps e).head (.receive recvBuf)
  · cases e
    exact .refl

/-- **An update** is a run of steps. -/
theorem sourceUpdate_steps {env : SourceEnv} (e : sourceUpdate H env s = .ok s') :
    ReflTransGen (SourceStep H c) s s' := by
  unfold sourceUpdate at e
  obtain ⟨s₁, h₁, e⟩ := bind_eq_ok.mp e
  obtain ⟨s₂, h₂, e⟩ := bind_eq_ok.mp e
  exact ((sourceReceive_steps h₁).tail (.manage h₂)).tail (.ensure e)

theorem sourcePutTimeout_steps {env : PutEnv} {timeout : Option Int}
    (e : sourcePutTimeout H env s = .ok (timeout, s')) : ReflTransGen (SourceStep H c) s s' := by
  obtain ⟨s₁, s₂, h₁, h₂, ⟨-, -, rfl⟩ | ⟨-, -, h₃⟩⟩ := sourcePutTimeout_updates H e
  · exact (sourceUpdate_steps h₁).trans (sourceUpdate_steps h₂)
  · exact ((sourceUpdate_steps h₁).trans (sourceUpdate_steps h₂)).trans (sourceUpdate_steps h₃)

/-- **A call** is a run of steps. -/
theorem sourceCall_steps (e : sourceCall H s c = .ok s') : ReflTransGen (SourceStep H c) s s' := by
  cases c with
  | state env => exact sourceUpdate_steps e
  | putReadyCount env now =>
    obtain ⟨⟨count, s₁⟩, h₁, h₂⟩ := bind_eq_ok.mp e
    cases h₂
    exact sourceUpdate_steps (atollaSourcePutReadyCount_update H h₁)
  | putReadyTimeout env now later =>
    obtain ⟨⟨timeout, s₁⟩, h₁, h₂⟩ := bind_eq_ok.mp e
    cases h₂
    exact sourceUpdate_steps (atollaSourcePutReadyTimeout_update H h₁)
  | put env frame =>
    obtain ⟨⟨result, s₁⟩, h₁, h₂⟩ := bind_eq_ok.mp e
    cases h₂
    obtain ⟨timeout, s₂, h₂, hcase⟩ := atollaSourcePut_cases H h₁
    have hsteps := sourcePutTimeout_steps (c := .put env frame) h₂
    rcases hcase with ⟨-, -, rfl⟩ | ⟨-, h₃⟩
    · exact hsteps
    · exact hsteps.tail (.frame rfl h₃)

theorem SourcePasses.steps {spec : AtollaSourceSpec} (h : SourcePasses H spec s)
    (hsteps : ReflTransGen (SourceStep H c) s s') : SourcePasses H spec s' := by
  induction hsteps with
  | refl => exact h
  | tail _ hstep ih => exact ih.step hstep

theorem SourceKept.steps (h : SourceKept s) (hsteps : ReflTransGen (SourceStep H c) s s') : SourceKept s' := by
  induction hsteps with
  | refl => exact h
  | tail _ hstep ih => exact ih.step hstep

/-- A call that changes the index, or `last_frame_time` of a source that does not wait, is a put that returns true. -/
theorem sourceCall_put (h : s.builder.msgBuf.Owned) (e : sourceCall H s c = .ok s') :
    Updated s s' ∨ ∃ env frame, c = .put env frame ∧ atollaSourcePut H env s frame frame.length = .ok (true, s') := by
  cases c with
  | state env => exact .inl (sourceUpdate_updated H h e)
  | putReadyCount env now =>
    obtain ⟨⟨count, s₁⟩, h₁, h₂⟩ := bind_eq_ok.mp e
    cases h₂
    exact .inl (sourceUpdate_updated H h (atollaSourcePutReadyCount_update H h₁))
  | putReadyTimeout env now later =>
    obtain ⟨⟨timeout, s₁⟩, h₁, h₂⟩ := bind_eq_ok.mp e
    cases h₂
    exact .inl (sourceUpdate_updated H h (atollaSourcePutReadyTimeout_update H h₁))
  | put env frame =>
    obtain ⟨⟨result, s₁⟩, hput, h₂⟩ := bind_eq_ok.mp e
    cases h₂
    obtain ⟨timeout, s₂, h₂, hcase⟩ := atollaSourcePut_cases H hput
    have hu := sourcePutTimeout_updated H h h₂
    rcases hcase with ⟨-, -, rfl⟩ | ⟨-, h₃⟩
    · exact .inl hu
    · obtain ⟨builder, e', hb⟩ := sourcePutFrame_spec H hu.builder (sourcePutFrame_length_le H h₃) env
      rw [e'] at h₃
      cases hsent : env.sent with
      | true =>
        rw [hsent] at h₃
        cases h₃
        exact .inr ⟨env, frame, rfl, hput⟩
      | false =>
        rw [hsent] at h₃
        cases h₃
        exact .inl ⟨hb, hu.idx, hu.duration, hu.buffered, hu.sock, hu.left, hu.failed, hu.frameTime, hu.opened⟩

end Call

/-! ## Reads of fields without initial values, and divisions -/

section Avoids

variable (H : Host) {s : Source} {iter : MsgIter} {f : Fault} (hf : f = .uninitialised ∨ f = .divByZero)

include hf

theorem assert_avoids (p : Prop) [Decidable p] : Avoids f (assert p) := by
  by_cases h : p
  · rw [assert_pos h]
    exact avoids_ok ()
  · rw [assert_neg h]
    rcases hf with rfl | rfl
    · simp [Avoids]
    · simp [Avoids]

theorem readByte_avoids (p : Bytes) (i : Nat) : Avoids f (readByte p i) := by
  unfold readByte
  split
  · exact avoids_ok _
  · rcases hf with rfl | rfl
    · simp [Avoids]
    · simp [Avoids]

theorem loadUint16_avoids (p : Bytes) : Avoids f (loadUint16 H p) :=
  (readByte_avoids hf p 0).bind fun _ _ => (readByte_avoids hf p 1).bind fun _ _ => avoids_ok _

theorem msgIterType_avoids : Avoids f (msgIterType iter) :=
  (assert_avoids hf _).bind fun _ _ => (readByte_avoids hf _ _).bind fun _ _ =>
    (assert_avoids hf _).bind fun _ _ => avoids_ok _

theorem msgIterFailErrorCode_avoids : Avoids f (msgIterFailErrorCode H iter) :=
  (msgIterType_avoids hf).bind fun _ _ => (assert_avoids hf _).bind fun _ _ =>
    Avoids.bind ((assert_avoids hf _).bind fun _ _ => (loadUint16_avoids H hf _).bind fun _ _ => avoids_ok _)
      fun _ _ => readByte_avoids hf _ _

theorem msgIterNext_avoids : Avoids f (msgIterNext H iter) :=
  (assert_avoids hf _).bind fun _ _ =>
    Avoids.bind ((assert_avoids hf _).bind fun _ _ => (loadUint16_avoids H hf _).bind fun _ _ => avoids_ok _)
      fun _ _ => avoids_ok _

theorem sourceHandleMsg_avoids (now : UInt32) (s : Source) : Avoids f (sourceHandleMsg H now s iter) := by
  refine (msgIterType_avoids hf).bind fun type _ => ?_
  cases type with
  | borrow => exact avoids_ok _
  | lent => exact avoids_ok _
  | enqueue => exact avoids_ok _
  | fail => exact (msgIterFailErrorCode_avoids H hf).bind fun _ _ => avoids_ok _

theorem sourceReceive_avoids (env : SourceEnv) (s : Source) : Avoids f (sourceReceive H env s) := by
  have hends : f ≠ .diverges := by
    rcases hf with rfl | rfl
    · decide
    · decide
  unfold sourceReceive
  split
  · refine Avoids.bind (whileM_avoids hends (fun p => ?_) _ _) fun _ _ => avoids_ok _
    exact (sourceHandleMsg_avoids H hf _ _).bind fun _ _ => (msgIterNext_avoids H hf).bind fun _ _ => avoids_ok _
  · exact avoids_ok _

omit hf in
theorem sourceSendBorrow_avoids (h : s.builder.msgBuf.Owned) (now : UInt32) (sent : Bool) :
    Avoids f (sourceSendBorrow H now sent s) := by
  obtain ⟨builder, e, -⟩ := sourceSendBorrow_spec H h now sent
  rw [e]
  exact avoids_ok _

omit hf in
theorem sourceManageBorrowPacketLoss_avoids (h : s.builder.msgBuf.Owned) (env : SourceEnv) :
    Avoids f (sourceManageBorrowPacketLoss H env s) :=
  avoids_ite (fun _ => avoids_ite (fun _ => avoids_ok _) fun _ =>
    avoids_ite (fun _ => sourceSendBorrow_avoids H h _ _) fun _ => avoids_ok _) fun _ => avoids_ok _

omit hf in
theorem sourceEnsureLentResent_avoids (h : SourceKept s) (env : SourceEnv) :
    Avoids f (sourceEnsureLentResent env s) := by
  refine avoids_ite (fun ho => ?_) fun _ => avoids_ok _
  obtain ⟨time, htime⟩ := Option.isSome_iff_exists.mp (h.lent ho)
  rw [htime]
  exact avoids_ite (fun _ => avoids_ok _) fun _ => avoids_ok _

/-- **An update** reads `last_recv_lent_time` of an open source only, and does not divide. -/
theorem sourceUpdate_avoids (h : SourceKept s) (env : SourceEnv) : Avoids f (sourceUpdate H env s) := by
  refine (sourceReceive_avoids H hf env s).bind fun s₁ h₁ => ?_
  have hk₁ := h.steps (sourceReceive_steps (c := .state env) h₁)
  exact (sourceManageBorrowPacketLoss_avoids H hk₁.builder env).bind fun s₂ h₂ =>
    sourceEnsureLentResent_avoids (hk₁.manage h₂) env

omit hf in
theorem uintDiv_avoids {a b : UInt32} (hb : f = .divByZero → b ≠ 0) : Avoids f (uintDiv a b) := by
  unfold uintDiv
  split
  · rename_i hzero
    intro e
    cases e
    exact hb rfl hzero
  · exact avoids_ok _

theorem atollaSourcePutReadyCount_avoids (h : SourceKept s) (hd : f = .divByZero → s.frameDurationMs ≠ 0)
    (env : SourceEnv) (now : UInt32) : Avoids f (atollaSourcePutReadyCount H env now s) := by
  refine (sourceUpdate_avoids H hf h env).bind fun s₁ h₁ => avoids_ite (fun _ => avoids_ok _) fun _ => ?_
  rw [← (sourceUpdate_updated H h.builder h₁).duration] at hd
  exact (assert_avoids hf _).bind fun _ _ => avoids_ite (fun _ => avoids_ok _) fun _ =>
    (uintDiv_avoids hd).bind fun _ _ => avoids_ok _

theorem atollaSourcePutReadyTimeout_avoids (h : SourceKept s) (hd : f = .divByZero → s.frameDurationMs ≠ 0)
    (env : SourceEnv) (now later : UInt32) : Avoids f (atollaSourcePutReadyTimeout H env now later s) := by
  refine (sourceUpdate_avoids H hf h env).bind fun s₁ h₁ => avoids_ite (fun _ => avoids_ok _) fun _ => ?_
  rw [← (sourceUpdate_updated H h.builder h₁).duration] at hd
  exact avoids_ite (fun _ => avoids_ok _) fun _ => (uintDiv_avoids hd).bind fun _ _ =>
    avoids_ite (fun _ => avoids_ok _) fun _ => avoids_ok _

theorem sourcePutFrame_avoids (h : SourceKept s) (env : PutEnv) (frame : Bytes) :
    Avoids f (sourcePutFrame H env s frame frame.length) := by
  by_cases hlen : frame.length ≤ 65532
  · obtain ⟨builder, e, -⟩ := sourcePutFrame_spec H h.builder hlen env
    rw [e]
    exact avoids_ok _
  · rw [sourcePutFrame_long H (by omega)]
    rcases hf with rfl | rfl
    · simp [Avoids]
    · simp [Avoids]

theorem atollaSourcePut_avoids (h : SourceKept s) (hd : f = .divByZero → s.frameDurationMs ≠ 0) (env : PutEnv)
    (frame : Bytes) : Avoids f (atollaSourcePut H env s frame frame.length) := by
  refine Avoids.bind ?_ fun p hp => ?_
  · refine (sourceUpdate_avoids H hf h _).bind fun s₁ h₁ => ?_
    have hk₁ := h.steps (sourceUpdate_steps (c := .put env frame) h₁)
    rw [← (sourceUpdate_updated H h.builder h₁).duration] at hd
    refine (sourceUpdate_avoids H hf hk₁ _).bind fun s₂ h₂ => avoids_ite (fun _ => avoids_ok _) fun _ => ?_
    have hk₂ := hk₁.steps (sourceUpdate_steps (c := .put env frame) h₂)
    rw [← (sourceUpdate_updated H hk₁.builder h₂).duration] at hd
    exact (atollaSourcePutReadyTimeout_avoids H hf hk₂ hd _ _ _).bind fun _ _ => avoids_ok _
  · obtain ⟨timeout, s₁⟩ := p
    cases timeout with
    | none => exact avoids_ok _
    | some timeout =>
      exact sourcePutFrame_avoids H hf (h.steps (sourcePutTimeout_steps (c := .put env frame) hp)) env frame

/-- **No call** reads a field that was not written, or divides by zero if the frame duration is not. -/
theorem sourceCall_avoids (h : SourceKept s) (hd : f = .divByZero → s.frameDurationMs ≠ 0) (c : SourceCall) :
    Avoids f (sourceCall H s c) := by
  cases c with
  | state env => exact sourceUpdate_avoids H hf h env
  | putReadyCount env now => exact (atollaSourcePutReadyCount_avoids H hf h hd env now).bind fun _ _ => avoids_ok _
  | putReadyTimeout env now later =>
    exact (atollaSourcePutReadyTimeout_avoids H hf h hd env now later).bind fun _ _ => avoids_ok _
  | put env frame => exact (atollaSourcePut_avoids H hf h hd env frame).bind fun _ _ => avoids_ok _

end Avoids

/-! ## Runs -/

section Run

variable {H : Host} {spec : AtollaSourceSpec} {s t : Source}

theorem sourceAwaitMakeCompletion_passes : ∀ {envs : List SourceEnv} {s : Source}, SourcePasses H spec s →
    Avoids .uninitialised (sourceAwaitMakeCompletion H envs s) ∧
      ∀ s', sourceAwaitMakeCompletion H envs s = .ok s' → SourcePasses H spec s'
  | [], s, h => by
    rw [sourceAwaitMakeCompletion]
    split
    · exact ⟨by simp [Avoids], fun s' e => by cases e⟩
    · exact ⟨avoids_ok s, fun s' e => by cases e; exact h⟩
  | env :: envs, s, h => by
    rw [sourceAwaitMakeCompletion]
    split
    · have hnext : ∀ s₁, sourceUpdate H env s = .ok s₁ → SourcePasses H spec s₁ := fun s₁ h₁ =>
        h.steps (sourceUpdate_steps (c := .state env) h₁)
      constructor
      · exact (sourceUpdate_avoids H (.inl rfl) h.kept env).bind
          fun s₁ h₁ => (sourceAwaitMakeCompletion_passes (hnext s₁ h₁)).1
      · intro s' e
        obtain ⟨s₁, h₁, e⟩ := bind_eq_ok.mp e
        exact (sourceAwaitMakeCompletion_passes (hnext s₁ h₁)).2 s' e
    · exact ⟨avoids_ok s, fun s' e => by cases e; exact h⟩

/-- **Making a source** leads to a state it passes. -/
theorem atollaSourceMake_passes (env : MakeEnv) :
    Avoids .uninitialised (atollaSourceMake H spec env) ∧
      ∀ s, atollaSourceMake H spec env = .ok s → SourcePasses H spec s := by
  rw [atollaSourceMake_eq]
  have hfirst : ∀ s₁, (if env.bound then
      if env.resolved then
        sourceSendBorrow H env.borrow env.borrowSent { sourceFresh H spec with firstBorrowTime := env.first }
      else .ok (sourceFail (sourceFresh H spec) "Sink hostname could not be resolved.")
    else .ok (sourceFail (sourceFresh H spec) "Sink could not bind to port.")) = .ok s₁ → SourcePasses H spec s₁ := by
    intro s₁ h₁
    split at h₁
    · split at h₁
      · exact .borrow h₁
      · cases h₁
        exact .fail _
    · cases h₁
      exact .fail _
  constructor
  · refine (assert_avoids (.inl rfl) _).bind fun _ _ => Avoids.bind ?_ fun s₁ h₁ => avoids_ite (fun _ => avoids_ok _) fun _ =>
      (sourceAwaitMakeCompletion_passes (hfirst s₁ h₁)).1
    refine avoids_ite (fun _ => avoids_ite (fun _ => ?_) fun _ => avoids_ok _) fun _ => avoids_ok _
    exact sourceSendBorrow_avoids H ((sourceFresh_kept H spec).firstBorrow _).builder _ _
  · intro s e
    obtain ⟨-, -, e⟩ := bind_eq_ok.mp e
    obtain ⟨s₁, h₁, e⟩ := bind_eq_ok.mp e
    split at e
    · cases e
      exact hfirst s h₁
    · exact (sourceAwaitMakeCompletion_passes (hfirst s₁ h₁)).2 s e

theorem sourceReachable_passes (h : SourceReachable H spec s) : SourcePasses H spec s := by
  induction h with
  | make e => exact (atollaSourceMake_passes _).2 _ e
  | call _ e ih => exact ih.steps (sourceCall_steps e)

/-- `atolla_source_error_msg` returns a message exactly in the error state. -/
theorem SourceKept.errorMsg (h : SourceKept s) :
    ∃ msg, atollaSourceErrorMsg s = .ok msg ∧ (msg.isSome ↔ s.state = .stateError) := by
  unfold atollaSourceErrorMsg
  split
  · rename_i hs
    obtain ⟨msg, hmsg⟩ := Option.isSome_iff_exists.mp (h.error.mpr hs)
    rw [hmsg]
    exact ⟨some msg, rfl, by simp [hs]⟩
  · rename_i hs
    exact ⟨none, rfl, by simp [hs]⟩

/-- **The state machine.** Making a source and calling it runs through states it passes, and reads nothing that was not
written. In every state that is passed the error message is there exactly in the error state, and every step from there
moves the state forward, sends no BORROW unless the source waits, and changes the index only for a successful put, and
`last_frame_time` only for that or when the connection opens. -/
theorem source_state_machine (hr : SourceReachable H spec s) (hp : SourcePasses H spec t) :
    (∀ env, Avoids .uninitialised (atollaSourceMake H spec env)) ∧
    SourcePasses H spec s ∧
    (∀ c, Avoids .uninitialised (sourceCall H s c) ∧ ∀ s', sourceCall H s c = .ok s' →
      ReflTransGen (SourceStep H c) s s' ∧
      ((s'.nextFrameIdx = s.nextFrameIdx ∧ (s.state ≠ .stateWaiting → s'.lastFrameTime = s.lastFrameTime)) ∨
        ∃ env frame, c = .put env frame ∧ atollaSourcePut H env s frame frame.length = .ok (true, s'))) ∧
    (∃ msg, atollaSourceErrorMsg t = .ok msg ∧ (msg.isSome ↔ t.state = .stateError)) ∧
    ∀ c t', SourceStep H c t t' → SourceMove H c t t' := by
  have hpass := sourceReachable_passes hr
  refine ⟨fun env => (atollaSourceMake_passes env).1, hpass, fun c =>
    ⟨sourceCall_avoids H (.inl rfl) hpass.kept (by simp) c, ?_⟩,
    hp.kept.errorMsg, fun c t' hstep => hstep.move hp.kept⟩
  intro s' e
  refine ⟨sourceCall_steps e, ?_⟩
  rcases sourceCall_put hpass.kept.builder e with hu | hput
  · exact .inl ⟨hu.idx, hu.frameTime⟩
  · exact .inr hput

/-- An open source has no error message, and its steps are such moves. -/
theorem source_state_machine_open :
    ∃ source, exampleOpen 20 = .ok source ∧ atollaSourceErrorMsg source = .ok none ∧
      ∀ c source', SourceStep exampleHost c source source' → SourceMove exampleHost c source source' := by
  have hrun : (exampleOpen 20).toOption.map (·.state) = some .stateOpen := by decide +kernel
  obtain ⟨source, e, ho⟩ := exists_ok_of_map hrun
  have hr := exampleOpen_reachable e
  obtain ⟨-, -, -, ⟨msg, hmsg, hiff⟩, hmoves⟩ := source_state_machine hr (sourceReachable_passes hr)
  have hnone : msg = none := by
    cases msg with
    | none => rfl
    | some text => exact absurd (hiff.mp rfl) (by simp [ho])
  exact ⟨source, e, hnone ▸ hmsg, hmoves⟩

end Run

end Atolla

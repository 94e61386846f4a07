import Atolla.Source.Messages

/-!
# A clock that stands still

While the clock of an open source stands still, and nothing but LENTs arrives, the connection does not end
(`Source.Alive.update`). The calls that ask for readiness then look at one time and one duration only
(`Source.Alive.readyCount`), and a put returns true (`Source.Alive.put`).
-/

set_option autoImplicit false

namespace Atolla

open Loop

/-- A LENT. -/
def WireMsg.lent (id : UInt16) : WireMsg := ⟨1, id, [], by simp⟩

/-- **The update finds LENTs** or nothing, and reads the clock at `t` only. -/
structure SourceEnv.Stands (t : UInt32) (env : SourceEnv) : Prop where
  message : ∀ o, env.message o = t
  manage : env.manage = t
  borrow : env.borrow = t
  ensure : env.ensure = t
  lents : ∃ ms, env.Brings ms ∧ ∀ m ∈ ms, m.typeByte = 1

/-- So does every update of a put, which sends its frame. -/
structure PutEnv.Stands (t : UInt32) (env : PutEnv) : Prop where
  update : env.update.Stands t
  state : env.state.Stands t
  timeout : env.timeout.Stands t
  now : env.now = t
  later : env.later = t
  after : env.after = t
  sent : env.sent = true

/-- An open source whose last LENT is not too old at `t`. -/
structure Source.Alive (t : UInt32) (s : Source) : Prop where
  builder : s.builder.msgBuf.Owned
  opened : s.state = .stateOpen
  lent : ∃ time ∈ s.lastRecvLentTime, t - time < s.disconnectTimeoutMs

/-- `last_frame_time` behind a put at `t`. -/
def Source.nextFrameTime (t : UInt32) (s : Source) : UInt32 :=
  if s.lastFrameTime = Source.NULL_TIME then t - UInt32.ofInt (s.maxBufferedFrames - 1) * s.frameDurationMs
  else s.lastFrameTime + s.frameDurationMs

section Update

variable {H : Host} {t : UInt32} {s s' : Source} {env : SourceEnv}

/-- LENTs do nothing to an open source but renew the time of the last one. -/
theorem foldl_lents {clock : Nat → UInt32} (hclock : ∀ o, clock o = t) {ps : List (Nat × WireMsg)}
    (hl : ∀ p ∈ ps, p.2.typeByte = 1) (hs : s.state = .stateOpen) :
    ps.foldl (sourceHandleWire clock) s =
      { s with lastRecvLentTime := if ps = [] then s.lastRecvLentTime else some t } := by
  induction ps generalizing s with
  | nil => rfl
  | cons p ps ih =>
    have hone : sourceHandleWire clock s p = { s with lastRecvLentTime := some t } := by
      simp [sourceHandleWire, sourceLent, hl p List.mem_cons_self, hs, hclock]
    have hrest := ih (s := { s with lastRecvLentTime := some t }) (fun q hq => hl q (List.mem_cons_of_mem _ hq)) hs
    rw [List.foldl_cons, hone, hrest]
    simp

/-- A source that just heard a LENT is alive, if it has any time left for the next one. -/
theorem sub_self_lt {d : UInt32} (hd : d ≠ 0) : t - t < d := by
  rw [UInt32.sub_self]
  exact UInt32.pos_iff_ne_zero.mpr hd

/-- Behind the messages an update of an open source looks at the time of the last LENT. -/
theorem sourceUpdate_received {s₁ : Source} (e : sourceReceive H env s = .ok s₁) (hs₁ : s₁.Alive env.ensure) :
    sourceUpdate H env s = .ok s₁ := by
  obtain ⟨time, htime, hlive⟩ := hs₁.lent
  have hfield : readField s₁.lastRecvLentTime = .ok time := by
    rw [Option.mem_def.mp htime]
    rfl
  rw [sourceUpdate, e, ok_bind, sourceManageBorrowPacketLoss, if_neg (by simp [hs₁.opened]), ok_bind,
    sourceEnsureLentResent, if_pos hs₁.opened, hfield, ok_bind, if_neg (UInt32.not_le.mpr hlive)]
  rfl

/-- An update that leaves a source open found that its last LENT is not too old. -/
theorem sourceUpdate_lent (e : sourceUpdate H env s = .ok s') (ho : s'.state = .stateOpen) :
    ∃ time ∈ s'.lastRecvLentTime, env.ensure - time < s'.disconnectTimeoutMs := by
  unfold sourceUpdate at e
  obtain ⟨s₁, -, e⟩ := bind_eq_ok.mp e
  obtain ⟨s₂, -, e⟩ := bind_eq_ok.mp e
  unfold sourceEnsureLentResent at e
  split at e
  · obtain ⟨time, htime, e⟩ := bind_eq_ok.mp e
    split at e
    · cases e
      cases ho
    · rename_i hlive
      cases e
      refine ⟨time, ?_, UInt32.not_le.mp hlive⟩
      unfold readField at htime
      split at htime
      · rename_i hsome
        cases htime
        exact hsome
      · cases htime
  · rename_i hne
    cases e
    exact absurd ho hne

/-- **An update** keeps a source alive. -/
theorem Source.Alive.update (h : s.Alive t) (henv : env.Stands t) :
    ∃ s', sourceUpdate H env s = .ok s' ∧ s'.Alive t ∧ Updated s s' := by
  obtain ⟨ms, hms, hlent⟩ := henv.lents
  obtain ⟨recvBuf, e⟩ := sourceReceive_brings H hms s
  have hps : ∀ p ∈ withOffsets 0 ms, p.2.typeByte = 1 := fun p hp => hlent p.2 (mem_of_mem_withOffsets hp)
  rw [foldl_lents (s := { s with recvBuf := recvBuf }) henv.message hps h.opened] at e
  obtain ⟨time, htime, hlive⟩ := h.lent
  have halive : ∀ last, (last = s.lastRecvLentTime ∨ last = some t) →
      Source.Alive t { s with recvBuf := recvBuf, lastRecvLentTime := last } := by
    rintro last (rfl | rfl)
    · exact ⟨h.builder, h.opened, time, htime, hlive⟩
    · refine ⟨h.builder, h.opened, t, rfl, sub_self_lt fun hzero => ?_⟩
      -- nothing is less than zero
      rw [hzero] at hlive
      exact UInt32.not_lt_zero hlive
  have hs' := halive (if withOffsets 0 ms = [] then s.lastRecvLentTime else some t) (by split <;> simp)
  have hupd := sourceUpdate_received e (henv.ensure ▸ hs')
  exact ⟨_, hupd, hs', sourceUpdate_updated H h.builder hupd⟩

/-- **A LENT** opens a source that waits. -/
theorem sourceUpdate_opens (hb : s.builder.msgBuf.Owned) (hs : s.state = .stateWaiting)
    (hd : s.disconnectTimeoutMs ≠ 0) (henv : env.Stands t) (hl : env.Brings [.lent 0]) :
    ∃ s', sourceUpdate H env s = .ok s' ∧ s'.Alive t ∧ Updated s s' := by
  obtain ⟨recvBuf, e⟩ := sourceReceive_brings H hl s
  have hone : sourceLent (env.message 0) { s with recvBuf := recvBuf } = { s with
      recvBuf := recvBuf
      state := .stateOpen
      lastFrameTime := Source.NULL_TIME
      lastRecvLentTime := some t } := by
    simp [sourceLent, hs, henv.message]
  have hs' : Source.Alive t (sourceLent (env.message 0) { s with recvBuf := recvBuf }) := by
    rw [hone]
    exact ⟨hb, rfl, t, rfl, sub_self_lt hd⟩
  have hupd := sourceUpdate_received e (henv.ensure ▸ hs')
  exact ⟨_, hupd, hs', sourceUpdate_updated H hb hupd⟩

end Update

section Call

variable {H : Host} {t : UInt32} {s s' : Source}

/-- Readiness is a matter of fields that an update leaves alone. -/
theorem Updated.readiness (h : Updated s s') (hs : s.state = .stateOpen) :
    s'.readyCount t = s.readyCount t ∧ s'.readyTimeout t t = s.readyTimeout t t ∧
      s'.nextFrameTime t = s.nextFrameTime t := by
  have hfield := h.frameTime (by simp [hs])
  simp only [Source.readyCount, Source.readyTimeout, Source.nextFrameTime, hfield, h.duration, h.buffered, and_self]

/-- **The count** of a source that may divide by its frame duration. -/
theorem Source.Alive.count (h : s.Alive t) {env : SourceEnv} (henv : env.Stands t)
    (hd : s.lastFrameTime = Source.NULL_TIME ∨ s.frameDurationMs ≠ 0) :
    ∃ s', atollaSourcePutReadyCount H env t s = .ok (s.readyCount t, s') ∧ s'.Alive t ∧ Updated s s' := by
  obtain ⟨s', e, hs', hu⟩ := h.update (H := H) henv
  refine ⟨s', ?_, hs', hu⟩
  have hopen := hs'.opened
  have hfield := hu.frameTime (by simp [h.opened])
  rw [← hfield, ← hu.duration] at hd
  rw [← (hu.readiness h.opened).1, atollaSourcePutReadyCount, e, ok_bind, if_neg (by simp [hopen]), assert_pos hopen,
    ok_bind]
  by_cases hn : s'.lastFrameTime = Source.NULL_TIME
  · rw [if_pos hn, Source.readyCount, if_pos hn]
    rfl
  · rw [if_neg hn, Source.readyCount, if_neg hn, uintDiv, if_neg (hd.resolve_left hn)]
    rfl

/-- **The count divides** by the frame duration. -/
theorem Source.Alive.count_zero (h : s.Alive t) {env : SourceEnv} (henv : env.Stands t)
    (hn : s.lastFrameTime ≠ Source.NULL_TIME) (hd : s.frameDurationMs = 0) :
    atollaSourcePutReadyCount H env t s = .error .divByZero := by
  obtain ⟨s', e, hs', hu⟩ := h.update (H := H) henv
  have hopen := hs'.opened
  have hfield := hu.frameTime (by simp [h.opened])
  rw [← hfield] at hn
  rw [← hu.duration] at hd
  rw [atollaSourcePutReadyCount, e, ok_bind, if_neg (by simp [hopen]), assert_pos hopen, ok_bind, if_neg hn, uintDiv,
    if_pos hd]
  rfl

/-- **The timeout of a put.** -/
theorem Source.Alive.putTimeout (h : s.Alive t) {env : PutEnv} (henv : env.Stands t)
    (hd : s.lastFrameTime = Source.NULL_TIME ∨ s.frameDurationMs ≠ 0) :
    ∃ s', sourcePutTimeout H env s = .ok (some (s.readyTimeout t t), s') ∧ s'.Alive t ∧ Updated s s' := by
  obtain ⟨s₁, e₁, hs₁, hu₁⟩ := h.update (H := H) henv.update
  obtain ⟨s₂, e₂, hs₂, hu₂⟩ := hs₁.update (H := H) henv.state
  obtain ⟨s₃, e₃, hs₃, hu₃⟩ := hs₂.update (H := H) henv.timeout
  have hu := (hu₁.trans hu₂).trans hu₃
  have hopen := hs₃.opened
  have hfield := hu.frameTime (by simp [h.opened])
  rw [← hfield, ← hu.duration] at hd
  have htimeout : atollaSourcePutReadyTimeout H env.timeout env.now env.later s₂ = .ok (s₃.readyTimeout t t, s₃) := by
    rw [atollaSourcePutReadyTimeout, e₃, ok_bind, if_neg (by simp [hopen]), henv.now, henv.later]
    by_cases hn : s₃.lastFrameTime = Source.NULL_TIME
    · rw [if_pos hn, Source.readyTimeout, if_pos hn]
      rfl
    · rw [if_neg hn, Source.readyTimeout, if_neg hn, uintDiv, if_neg (hd.resolve_left hn), ok_bind]
      split
      · rfl
      · rfl
  refine ⟨s₃, ?_, hs₃, hu⟩
  rw [sourcePutTimeout, e₁, ok_bind, atollaSourceState, e₂, ok_bind, if_neg (not_not.mpr hs₂.opened), htimeout,
    (hu.readiness h.opened).2.1]
  rfl

/-- **A put** returns true, and moves `last_frame_time` on. -/
theorem Source.Alive.put (h : s.Alive t) {env : PutEnv} (henv : env.Stands t)
    (hd : s.lastFrameTime = Source.NULL_TIME ∨ s.frameDurationMs ≠ 0) {frame : Bytes} (hf : frame.length ≤ 65532) :
    ∃ s', atollaSourcePut H env s frame frame.length = .ok (true, s') ∧ s'.Alive t ∧
      s'.lastFrameTime = s.nextFrameTime t ∧ s'.frameDurationMs = s.frameDurationMs ∧
      s'.maxBufferedFrames = s.maxBufferedFrames := by
  obtain ⟨s₁, e₁, hs₁, hu⟩ := h.putTimeout (H := H) henv hd
  obtain ⟨builder, e₂, hb⟩ := sourcePutFrame_spec H hs₁.builder hf env
  rw [henv.sent, if_pos rfl] at e₂
  refine ⟨s₁.advanced builder frame env.after, ?_, ⟨hb, hs₁.opened, hs₁.lent⟩, ?_, hu.duration, hu.buffered⟩
  · rw [atollaSourcePut, e₁, ok_bind]
    exact e₂
  · rw [henv.after, ← (hu.readiness h.opened).2.2]
    rfl

end Call

/-! ## Updates and puts at one time -/

/-- An update at `t` that finds some messages. -/
def standingEnv (t : UInt32) (ms : List WireMsg) : SourceEnv := ⟨some (wire ms), fun _ => t, t, t, true, t⟩

/-- A put at `t` that finds nothing. -/
def standingPut (t : UInt32) : PutEnv := ⟨standingEnv t [], standingEnv t [], standingEnv t [], t, t, true, t⟩

theorem standingEnv_lent (t : UInt32) : (standingEnv t [.lent 0]).Brings [.lent 0] :=
  ⟨rfl, by decide, by decide, by decide⟩

theorem standingEnv_lent_stands (t : UInt32) : (standingEnv t [.lent 0]).Stands t :=
  ⟨fun _ => rfl, rfl, rfl, rfl, [.lent 0], standingEnv_lent t, by decide⟩

theorem standingEnv_stands (t : UInt32) : (standingEnv t []).Stands t :=
  ⟨fun _ => rfl, rfl, rfl, rfl, [], ⟨rfl, by decide, by simp, by simp⟩, by simp⟩

theorem standingPut_stands (t : UInt32) : (standingPut t).Stands t :=
  ⟨standingEnv_stands t, standingEnv_stands t, standingEnv_stands t, rfl, rfl, rfl, rfl⟩

/-- A source with a frame duration and a size of the buffer that opens at `t`. -/
def exampleStanding (d b : Int) (t : UInt32) : Run Source :=
  atollaSourceMake exampleHost { exampleSpec d with maxBufferedFrames := b } ⟨true, true, t, t, true, []⟩ >>=
    fun source => sourceCall exampleHost source (.state (standingEnv t [.lent 0]))

/-- That source and its first put at `t`. -/
def exampleFirstPut (d b : Int) (t : UInt32) : Run (Source × Bool × Source) := do
  let source ← exampleStanding d b t
  let (result, source') ← atollaSourcePut exampleHost (standingPut t) source [1, 2, 3] 3
  return (source, result, source')

theorem exampleFirstPut_ok {d b : Int} {t : UInt32} {source source' : Source} {result : Bool}
    (e : exampleFirstPut d b t = .ok (source, result, source')) :
    SourceReachable exampleHost { exampleSpec d with maxBufferedFrames := b } source ∧
      atollaSourcePut exampleHost (standingPut t) source [1, 2, 3] [1, 2, 3].length = .ok (result, source') ∧
      SourceReachable exampleHost { exampleSpec d with maxBufferedFrames := b } source' := by
  obtain ⟨s, hopen, e⟩ := bind_eq_ok.mp e
  obtain ⟨⟨r, s'⟩, hput, e⟩ := bind_eq_ok.mp e
  cases e
  obtain ⟨s₁, hmake, hcall⟩ := bind_eq_ok.mp hopen
  have hr := SourceReachable.call (.make hmake) hcall
  exact ⟨hr, hput, .call (c := .put (standingPut t) [1, 2, 3]) hr (bind_eq_ok.mpr ⟨_, hput, rfl⟩)⟩

end Atolla

import Atolla.Source.Ready

/-!
# Counting the frames that are ready

While the clock stands still, a put that need not sleep takes one frame from `atolla_source_put_ready_count`, and at
zero the next put sleeps. Behind that is the time that is left for frames (`Source.room`): it starts as a whole buffer
of frames or the age of `last_frame_time`, and every put takes one frame duration of it. The exception is a put that
sets `last_frame_time` to `NULL_TIME`, behind which the source counts as one that has not put a frame
(`standing_count_iff`).
-/

set_option autoImplicit false

namespace Atolla

open Loop

/-! ## Calls at one time -/

/-- A call reads the clock at `t` only, finds LENTs or nothing, and sends its frame. -/
def SourceCall.Stands (t : UInt32) : SourceCall → Prop
  | .state env => env.Stands t
  | .putReadyCount env now => env.Stands t ∧ now = t
  | .putReadyTimeout env now later => env.Stands t ∧ now = t ∧ later = t
  | .put env frame => env.Stands t ∧ frame.length ≤ 65532

/-- The runs of such calls, with a number of puts. -/
inductive StandingRun (H : Host) (t : UInt32) (s₀ : Source) : Nat → Source → Prop
  | start : StandingRun H t s₀ 0 s₀
  | ask {j : Nat} {s s' : Source} {c : SourceCall} : StandingRun H t s₀ j s → (∀ env frame, c ≠ .put env frame) →
      c.Stands t → sourceCall H s c = .ok s' → StandingRun H t s₀ j s'
  | put {j : Nat} {s s' : Source} {env : PutEnv} {frame : Bytes} : StandingRun H t s₀ j s →
      SourceCall.Stands t (.put env frame) → sourceCall H s (.put env frame) = .ok s' →
      StandingRun H t s₀ (j + 1) s'

/-- **The count is exact**: so many puts return true and do not sleep, with each of them the count goes down by one,
and the put behind them sleeps, for no longer than the duration of a frame. -/
structure CountExact (H : Host) (t : UInt32) (s₀ : Source) (count : Int) : Prop where
  counts : ∀ {j : Nat} {s : Source} {env : SourceEnv}, StandingRun H t s₀ j s → j ≤ count → env.Stands t →
    ∃ s', atollaSourcePutReadyCount H env t s = .ok (count - j, s')
  puts : ∀ {j : Nat} {s : Source} {env : PutEnv} {frame : Bytes}, StandingRun H t s₀ j s → j < count →
    SourceCall.Stands t (.put env frame) →
    ∃ timeout s₁ s', sourcePutTimeout H env s = .ok (some timeout, s₁) ∧ timeout ≤ 0 ∧
      atollaSourcePut H env s frame frame.length = .ok (true, s')
  sleeps : ∀ {j : Nat} {s : Source} {env : PutEnv}, StandingRun H t s₀ j s → j = count → env.Stands t →
    ∃ timeout s₁, sourcePutTimeout H env s = .ok (some timeout, s₁) ∧ 0 < timeout ∧
      timeout ≤ s.frameDurationMs.toNat

/-- The time that is left for frames at `t`: before the first put, a whole buffer of them. -/
def Source.room (t : UInt32) (s : Source) : Nat :=
  if s.lastFrameTime = Source.NULL_TIME then s.maxBufferedFrames.toNat * s.frameDurationMs.toNat
  else (t - s.lastFrameTime).toNat

/-- **A put at `t` sets `last_frame_time` to `NULL_TIME`**, one of those that need not sleep. -/
def Source.MeetsNull (t : UInt32) (s : Source) : Prop :=
  ∃ j, 1 ≤ j ∧ j * s.frameDurationMs.toNat ≤ s.room t ∧
    t - UInt32.ofNat (s.room t - j * s.frameDurationMs.toNat) = Source.NULL_TIME

/-! ## The time that is left -/

/-- An open source at `t` with `b` frames of `d` milliseconds, and no more time left than that. -/
structure Slotted (t : UInt32) (b d : Nat) (s : Source) : Prop where
  alive : s.Alive t
  duration : s.frameDurationMs.toNat = d
  buffered : s.maxBufferedFrames = b
  room : s.room t ≤ b * d

section Room

variable {H : Host} {t : UInt32} {b d j : Nat} {s s' : Source}

theorem Updated.room (h : Updated s s') (hs : s.state ≠ .stateWaiting) : s'.room t = s.room t := by
  rw [Source.room, Source.room, h.frameTime hs, h.duration, h.buffered]

theorem Slotted.updated (h : Slotted t b d s) (hs' : s'.Alive t) (hu : Updated s s') :
    Slotted t b d s' ∧ s'.room t = s.room t := by
  have hroom := hu.room (t := t) (by simp [h.alive.opened])
  exact ⟨⟨hs', by rw [hu.duration, h.duration], hu.buffered.trans h.buffered, hroom.symm ▸ h.room⟩, hroom⟩

theorem Slotted.duration_ne_zero (h : Slotted t b d s) (hd : 1 ≤ d) : s.frameDurationMs ≠ 0 := by
  intro hzero
  have hval := h.duration
  rw [hzero, UInt32.toNat_zero] at hval
  omega

theorem Slotted.room_null (h : Slotted t b d s) (hn : s.lastFrameTime = Source.NULL_TIME) : s.room t = b * d := by
  rw [Source.room, if_pos hn, h.buffered, h.duration, Int.toNat_natCast]

theorem Slotted.room_put (hn : s.lastFrameTime ≠ Source.NULL_TIME) : s.room t = (t - s.lastFrameTime).toNat := by
  rw [Source.room, if_neg hn]

variable (hd : 1 ≤ d) (hbd : b * d < 2 ^ 31)

include hd hbd

/-- **The count** is the number of frame durations that are left. -/
theorem Slotted.count (h : Slotted t b d s) : s.readyCount t = (s.room t / d : Nat) := by
  by_cases hn : s.lastFrameTime = Source.NULL_TIME
  · rw [Source.readyCount, if_pos hn, h.room_null hn, Nat.mul_div_cancel b hd, h.buffered]
  · have hroom := h.room
    have hle := Nat.div_le_self (s.room t) d
    rw [room_put hn] at hroom hle ⊢
    rw [Source.readyCount, if_neg hn, asInt, UInt32.toNat_div, h.duration, if_pos (by omega)]

/-- **The timeout** is what is missing of one. -/
theorem Slotted.timeout (h : Slotted t b d s) (hb : 1 ≤ b) :
    s.readyTimeout t t = if d ≤ s.room t then 0 else (d - s.room t : Int) := by
  by_cases hn : s.lastFrameTime = Source.NULL_TIME
  · rw [Source.readyTimeout, if_pos hn, h.room_null hn, if_pos (Nat.le_mul_of_pos_left d hb)]
  · have hroom := h.room
    have hdmax : d ≤ b * d := Nat.le_mul_of_pos_left d hb
    rw [room_put hn] at hroom ⊢
    have hpos := asInt_div_pos (x := t - s.lastFrameTime) (d := s.frameDurationMs) (by omega) (by rw [h.duration]; exact hd)
    rw [Source.readyTimeout, if_neg hn, h.duration] at *
    by_cases hle : d ≤ (t - s.lastFrameTime).toNat
    · rw [if_pos (hpos.mpr hle), if_pos hle]
    · rw [if_neg (mt hpos.mp hle), if_neg hle, asInt_rest (by rw [h.duration]; omega) (by rw [h.duration]; omega),
        h.duration]

omit hd hbd in
/-- **The next frame time** is one frame duration of it later. -/
theorem Slotted.nextFrameTime (h : Slotted t b d s) (hb : 1 ≤ b) (hle : d ≤ s.room t) :
    s.nextFrameTime t = t - UInt32.ofNat (s.room t - d) := by
  have hdur : s.frameDurationMs = UInt32.ofNat d := by rw [← h.duration, UInt32.ofNat_toNat]
  by_cases hn : s.lastFrameTime = Source.NULL_TIME
  · have hpred : UInt32.ofInt ((b : Int) - 1) = UInt32.ofNat (b - 1) := by
      rw [ofNat_eq_ofInt]
      congr 1
      omega
    rw [Source.nextFrameTime, if_pos hn, h.room_null hn, h.buffered, hpred, hdur, ← UInt32.ofNat_mul, Nat.sub_mul,
      Nat.one_mul]
  · rw [room_put hn] at hle ⊢
    rw [Source.nextFrameTime, if_neg hn, hdur]
    apply UInt32.toNat_inj.mp
    have := s.lastFrameTime.toNat_lt
    simp only [UInt32.toNat_add, UInt32.toNat_sub, UInt32.toNat_ofNat'] at hle ⊢
    omega

end Room

/-! ## Calls and runs -/

section Run

variable {H : Host} {t : UInt32} {b d j : Nat} {s₀ s s' : Source}

/-- A call other than a put is an update. -/
theorem Source.Alive.ask (h : s.Alive t) {c : SourceCall} (hne : ∀ env frame, c ≠ .put env frame) (hc : c.Stands t)
    (e : sourceCall H s c = .ok s') : s'.Alive t ∧ Updated s s' := by
  have hupd : ∀ env : SourceEnv, env.Stands t → sourceUpdate H env s = .ok s' → s'.Alive t ∧ Updated s s' := by
    intro env henv e'
    obtain ⟨s₁, e₁, hs₁, hu⟩ := h.update (H := H) henv
    rw [e', Except.ok.injEq] at e₁
    exact e₁ ▸ ⟨hs₁, hu⟩
  cases c with
  | state env => exact hupd env hc e
  | putReadyCount env now =>
    obtain ⟨⟨count, s₁⟩, h₁, h₂⟩ := bind_eq_ok.mp e
    cases h₂
    exact hupd env hc.1 (atollaSourcePutReadyCount_update H h₁)
  | putReadyTimeout env now later =>
    obtain ⟨⟨timeout, s₁⟩, h₁, h₂⟩ := bind_eq_ok.mp e
    cases h₂
    exact hupd env hc.1 (atollaSourcePutReadyTimeout_update H h₁)
  | put env frame => exact absurd rfl (hne env frame)

variable (hb : 1 ≤ b) (hd : 1 ≤ d)

include hb hd

/-- **A put** while there is time for a frame. -/
theorem Slotted.put (h : Slotted t b d s) (hle : d ≤ s.room t) {env : PutEnv} {frame : Bytes}
    (hput : SourceCall.Stands t (.put env frame)) :
    ∃ s', atollaSourcePut H env s frame frame.length = .ok (true, s') ∧ s'.Alive t ∧ s'.frameDurationMs.toNat = d ∧
      s'.maxBufferedFrames = b ∧ s'.lastFrameTime = t - UInt32.ofNat (s.room t - d) := by
  obtain ⟨s', e, hs', hfield, hduration, hbuffered⟩ :=
    h.alive.put (H := H) hput.1 (.inr (h.duration_ne_zero hd)) hput.2
  rw [h.nextFrameTime hb hle] at hfield
  exact ⟨s', e, hs', hduration ▸ h.duration, hbuffered.trans h.buffered, hfield⟩

variable (hbd : b * d < 2 ^ 31)

include hbd

/-- **It takes one frame duration**, unless it sets `last_frame_time` to `NULL_TIME`. -/
theorem Slotted.put_room (h : Slotted t b d s) (hle : d ≤ s.room t)
    (hne : t - UInt32.ofNat (s.room t - d) ≠ Source.NULL_TIME) {env : PutEnv} {frame : Bytes}
    (hput : SourceCall.Stands t (.put env frame)) (e : sourceCall H s (.put env frame) = .ok s') :
    Slotted t b d s' ∧ s'.room t + d = s.room t := by
  obtain ⟨s₁, e₁, hs₁, hduration, hbuffered, hfield⟩ := h.put hb hd hle hput
  obtain ⟨⟨result, s₂⟩, e₂, e₃⟩ := bind_eq_ok.mp e
  cases e₃
  rw [e₁, Except.ok.injEq, Prod.mk.injEq] at e₂
  obtain ⟨-, rfl⟩ := e₂
  have hroom : s₁.room t = s.room t - d := by
    have hmax := h.room
    rw [Slotted.room_put (hfield ▸ hne), hfield]
    have := t.toNat_lt
    simp only [UInt32.toNat_sub, UInt32.toNat_ofNat']
    omega
  exact ⟨⟨hs₁, hduration, hbuffered, by have := h.room; omega⟩, by omega⟩

/-- **A run** of puts that need not sleep, and of other calls, takes one frame duration for every put, if none of them
sets `last_frame_time` to `NULL_TIME`. -/
theorem StandingRun.slotted (h : Slotted t b d s₀)
    (hne : ∀ i, 1 ≤ i → i ≤ j → t - UInt32.ofNat (s₀.room t - i * d) ≠ Source.NULL_TIME) (hj : j * d ≤ s₀.room t)
    (hrun : StandingRun H t s₀ j s) : Slotted t b d s ∧ s.room t + j * d = s₀.room t := by
  induction hrun with
  | start => exact ⟨h, by omega⟩
  | ask _ hc hstands e ih =>
    obtain ⟨hs, hroom⟩ := ih hne hj
    obtain ⟨hs', hu⟩ := hs.alive.ask hc hstands e
    obtain ⟨hslot, hsame⟩ := hs.updated hs' hu
    exact ⟨hslot, hsame ▸ hroom⟩
  | @put j s s' env frame _ hput e ih =>
    rw [Nat.succ_mul] at hj
    obtain ⟨hs, hroom⟩ := ih (fun i h₁ h₂ => hne i h₁ (by omega)) (by omega)
    have hnext : s.room t - d = s₀.room t - (j + 1) * d := by
      rw [Nat.succ_mul]
      omega
    have hleft := hne (j + 1) (by omega) (Nat.le_refl _)
    rw [← hnext] at hleft
    obtain ⟨hs', hroom'⟩ := hs.put_room hb hd hbd (by omega) hleft hput e
    exact ⟨hs', by rw [Nat.succ_mul]; omega⟩

/-- There is such a run. -/
theorem exists_standingRun (h : Slotted t b d s₀)
    (hne : ∀ i, 1 ≤ i → i ≤ j → t - UInt32.ofNat (s₀.room t - i * d) ≠ Source.NULL_TIME) (hj : j * d ≤ s₀.room t) :
    ∃ s, StandingRun H t s₀ j s := by
  induction j with
  | zero => exact ⟨s₀, .start⟩
  | succ j ih =>
    have hstep : (j + 1) * d = j * d + d := Nat.succ_mul j d
    obtain ⟨s, hrun⟩ := ih (fun i h₁ h₂ => hne i h₁ (by omega)) (by omega)
    obtain ⟨hs, hroom⟩ := hrun.slotted hb hd hbd h (fun i h₁ h₂ => hne i h₁ (by omega)) (by omega)
    have hput : SourceCall.Stands t (.put (standingPut t) []) := ⟨standingPut_stands t, by decide⟩
    obtain ⟨s', e, -⟩ := hs.put (H := H) hb hd (by omega) hput
    exact ⟨s', .put hrun hput (bind_eq_ok.mpr ⟨_, e, rfl⟩)⟩

/-- **Exact**: each put takes one from the count, and the last one leaves less than a frame duration. -/
theorem Slotted.exact (h : Slotted t b d s₀) (hne : ¬s₀.MeetsNull t) : CountExact H t s₀ (s₀.readyCount t) := by
  have hleft : ∀ {j : Nat}, (j : Int) ≤ s₀.readyCount t → j * d ≤ s₀.room t := by
    intro j hj
    rw [h.count hd hbd, Int.ofNat_le] at hj
    exact (Nat.le_div_iff_mul_le hd).mp hj
  have hnull : ∀ {j : Nat}, j * d ≤ s₀.room t → ∀ i, 1 ≤ i → i ≤ j →
      t - UInt32.ofNat (s₀.room t - i * d) ≠ Source.NULL_TIME := by
    intro j hj i h₁ h₂ hmeets
    refine hne ⟨i, h₁, ?_, ?_⟩
    · rw [h.duration]
      exact (Nat.mul_le_mul_right d h₂).trans hj
    · rw [h.duration]
      exact hmeets
  -- behind `j` puts the count is `j` less
  have hrun : ∀ {j : Nat} {s : Source}, StandingRun H t s₀ j s → (j : Int) ≤ s₀.readyCount t →
      Slotted t b d s ∧ ((s.room t / d : Nat) : Int) = s₀.readyCount t - j := by
    intro j s hr hj
    obtain ⟨hs, hroom⟩ := hr.slotted hb hd hbd h (hnull (hleft hj)) (hleft hj)
    refine ⟨hs, ?_⟩
    rw [h.count hd hbd, ← hroom, Nat.add_mul_div_right _ _ hd]
    omega
  refine ⟨fun {j s env} hr hj henv => ?_, fun {j s env frame} hr hj hput => ?_, fun {j s env} hr hj henv => ?_⟩
  · obtain ⟨hs, hcount⟩ := hrun hr hj
    obtain ⟨s', e, -⟩ := hs.alive.count (H := H) henv (.inr (hs.duration_ne_zero hd))
    rw [hs.count hd hbd, hcount] at e
    exact ⟨s', e⟩
  · obtain ⟨hs, hcount⟩ := hrun hr (Int.le_of_lt hj)
    have hle : d ≤ s.room t := by
      by_contra hlt
      rw [Nat.div_eq_of_lt (by omega)] at hcount
      omega
    obtain ⟨s₁, e₁, -⟩ := hs.alive.putTimeout (H := H) hput.1 (.inr (hs.duration_ne_zero hd))
    obtain ⟨s', e, -⟩ := hs.put (H := H) hb hd hle hput
    rw [hs.timeout hd hbd hb, if_pos hle] at e₁
    exact ⟨0, s₁, s', e₁, Int.le_refl 0, e⟩
  · obtain ⟨hs, hcount⟩ := hrun hr (Int.le_of_eq hj)
    have hlt : s.room t < d := by
      by_contra hge
      have := Nat.div_pos (Nat.le_of_not_lt hge) hd
      omega
    obtain ⟨s₁, e₁, -⟩ := hs.alive.putTimeout (H := H) henv (.inr (hs.duration_ne_zero hd))
    rw [hs.timeout hd hbd hb, if_neg (by omega)] at e₁
    exact ⟨_, s₁, e₁, by omega, by rw [hs.duration]; omega⟩

/-- **Not exact**: behind the first put that sets `last_frame_time` to `NULL_TIME` the count is that of a whole
buffer. -/
theorem Slotted.not_exact (h : Slotted t b d s₀) (hmeets : s₀.MeetsNull t) :
    ¬CountExact H t s₀ (s₀.readyCount t) := by
  intro hexact
  classical
  obtain ⟨hone, hle, hnull⟩ := Nat.find_spec hmeets
  have hfirst := fun i (hi : i < Nat.find hmeets) => Nat.find_min hmeets hi
  generalize Nat.find hmeets = k at hone hle hnull hfirst
  obtain ⟨j, rfl⟩ : ∃ j, k = j + 1 := ⟨k - 1, by omega⟩
  rw [h.duration] at hle hnull
  have hstep : (j + 1) * d = j * d + d := Nat.succ_mul j d
  have hbefore : ∀ i, 1 ≤ i → i ≤ j → t - UInt32.ofNat (s₀.room t - i * d) ≠ Source.NULL_TIME := by
    intro i h₁ h₂ hi
    have := Nat.mul_le_mul_right d h₂
    exact hfirst i (by omega) ⟨h₁, by rw [h.duration]; omega, by rw [h.duration]; exact hi⟩
  obtain ⟨s, hrun⟩ := exists_standingRun (H := H) hb hd hbd h hbefore (by omega)
  obtain ⟨hs, hroom⟩ := hrun.slotted hb hd hbd h hbefore (by omega)
  have hput : SourceCall.Stands t (.put (standingPut t) []) := ⟨standingPut_stands t, by decide⟩
  obtain ⟨s', e, hs', -, hbuffered, hfield⟩ := hs.put (H := H) hb hd (by omega) hput
  have hn : s'.lastFrameTime = Source.NULL_TIME := by
    rw [hfield, ← hnull]
    congr 2
    omega
  have hrun' : StandingRun H t s₀ (j + 1) s' := .put hrun hput (bind_eq_ok.mpr ⟨_, e, rfl⟩)
  have hcount := h.count hd hbd
  have hjle : j + 1 ≤ s₀.room t / d := (Nat.le_div_iff_mul_le hd).mpr hle
  obtain ⟨s'', ecount⟩ := hexact.counts hrun' (by omega) (standingEnv_stands t)
  obtain ⟨s₁, e₁, -⟩ := hs'.count (H := H) (standingEnv_stands t) (.inl hn)
  have hvalue : s'.readyCount t = b := by rw [Source.readyCount, if_pos hn, hbuffered]
  rw [ecount, Except.ok.injEq, Prod.mk.injEq, hvalue] at e₁
  have hmax : s₀.room t / d ≤ b := Nat.div_le_of_le_mul (by rw [Nat.mul_comm]; exact h.room)
  omega

end Run

section Standing

variable {H : Host} {spec : AtollaSourceSpec} {t : UInt32} {s s₁ : Source} {env : SourceEnv} {count : Int}

/-- A failed source has no timeout for its put. -/
theorem sourcePutTimeout_failed (hb : s.builder.msgBuf.Owned) (hs : s.state = .stateError) {env : PutEnv}
    {timeout : Int} : sourcePutTimeout H env s ≠ .ok (some timeout, s₁) := by
  intro e
  obtain ⟨t₁, t₂, h₁, h₂, ⟨-, hnone, -⟩ | ⟨ho, -, -⟩⟩ := sourcePutTimeout_updates H e
  · cases hnone
  · have hu₁ := sourceUpdate_updated H hb h₁
    have hu := hu₁.trans (sourceUpdate_updated H hu₁.builder h₂)
    rw [hu.failed hs] at ho
    cases ho

/-- **The count of an open source is exact** at a clock that stands still iff the connection is not over, and none of
the puts that it promises sets `last_frame_time` to `NULL_TIME`. -/
theorem standing_count_iff (hr : SourceReachable H spec s) (ho : s.state = .stateOpen)
    (hd : 1 ≤ s.frameDurationMs.toNat) (hb : 1 ≤ s.maxBufferedFrames)
    (hbd : s.maxBufferedFrames * s.frameDurationMs.toNat < 2 ^ 31)
    (hroom : s.lastFrameTime ≠ Source.NULL_TIME →
      (t - s.lastFrameTime).toNat ≤ s.maxBufferedFrames * s.frameDurationMs.toNat)
    (henv : env.Stands t) (e : atollaSourcePutReadyCount H env t s = .ok (count, s₁)) :
    CountExact H t s₁ count ↔ ¬env.Ends H s ∧ ¬s.MeetsNull t := by
  obtain ⟨b, hbuffered⟩ := Int.eq_ofNat_of_zero_le (show 0 ≤ s.maxBufferedFrames by omega)
  have hown := (sourceReachable_inv hr).builder
  obtain ⟨hupd, hcount⟩ := atollaSourcePutReadyCount_value H e
  have hu := sourceUpdate_updated H hown hupd
  have hfails := sourceUpdate_fails_iff ho hupd
  rw [hbuffered] at hb hbd hroom
  by_cases hends : env.Ends H s
  · -- there is no put to wait for
    have herr := hfails.mpr hends
    refine ⟨fun hexact => ?_, fun h => absurd hends h.1⟩
    rw [if_neg (by simp [herr])] at hcount
    obtain ⟨timeout, s₂, eput, -⟩ := hexact.sleeps .start (by omega) (standingPut_stands t)
    exact absurd eput (sourcePutTimeout_failed hu.builder herr)
  · have ho₁ := hu.stays_open ho (fun herr => hends (hfails.mp herr))
    have hlent := sourceUpdate_lent hupd ho₁
    rw [henv.ensure] at hlent
    have hsame := hu.room (t := t) (by simp [ho])
    have hslot : Slotted t b s.frameDurationMs.toNat s₁ := by
      refine ⟨⟨hu.builder, ho₁, hlent⟩, by rw [hu.duration], hu.buffered.trans hbuffered, ?_⟩
      rw [hsame]
      by_cases hn : s.lastFrameTime = Source.NULL_TIME
      · rw [Source.room, if_pos hn, hbuffered, Int.toNat_natCast]
      · rw [Slotted.room_put hn]
        exact_mod_cast hroom hn
    have hmeets : s₁.MeetsNull t ↔ s.MeetsNull t := by rw [Source.MeetsNull, Source.MeetsNull, hsame, hu.duration]
    rw [hcount, if_pos ho₁, ← hmeets]
    have hb' : 1 ≤ b := by omega
    have hbd' : b * s.frameDurationMs.toNat < 2 ^ 31 := by exact_mod_cast hbd
    exact ⟨fun hexact => ⟨hends, fun h => hslot.not_exact hb' hd hbd' h hexact⟩, fun h =>
      hslot.exact hb' hd hbd' h.2⟩

end Standing

/-- A source with a buffer of two frames of 20 ms that opens at `t`, and its count before and behind a put. -/
def exampleCounts (t : UInt32) : Run ((Source × Int × Source) × Source × Int) := do
  let source ← exampleStanding 20 2 t
  let (count, asked) ← atollaSourcePutReadyCount exampleHost (standingEnv t []) t source
  let putting ← sourceCall exampleHost asked (.put (standingPut t) [1, 2, 3])
  let (left, _) ← atollaSourcePutReadyCount exampleHost (standingEnv t []) t putting
  return ((source, count, asked), putting, left)

theorem exampleCounts_ok {t : UInt32} {source asked putting : Source} {count left : Int}
    (e : exampleCounts t = .ok ((source, count, asked), putting, left)) :
    SourceReachable exampleHost { exampleSpec 20 with maxBufferedFrames := 2 } source ∧
      atollaSourcePutReadyCount exampleHost (standingEnv t []) t source = .ok (count, asked) ∧
      sourceCall exampleHost asked (.put (standingPut t) [1, 2, 3]) = .ok putting ∧
      ∃ last, atollaSourcePutReadyCount exampleHost (standingEnv t []) t putting = .ok (left, last) := by
  obtain ⟨s, hopen, e⟩ := bind_eq_ok.mp e
  obtain ⟨⟨c, s₁⟩, hcount, e⟩ := bind_eq_ok.mp e
  obtain ⟨s₂, hput, e⟩ := bind_eq_ok.mp e
  obtain ⟨⟨l, s₃⟩, hleft, e⟩ := bind_eq_ok.mp e
  cases e
  obtain ⟨s₄, hmake, hcall⟩ := bind_eq_ok.mp hopen
  exact ⟨.call (.make hmake) hcall, hcount, hput, s₃, hleft⟩

/-- At 1000 ms the count is two, and exact. -/
theorem standing_count_two :
    ∃ source asked, atollaSourcePutReadyCount exampleHost (standingEnv 1000 []) 1000 source = .ok (2, asked) ∧
      CountExact exampleHost 1000 asked 2 := by
  have hrun : (exampleCounts 1000).toOption.map (fun p => ((p.1.1.state, p.1.1.lastFrameTime,
      p.1.1.frameDurationMs, p.1.1.maxBufferedFrames), p.1.2.1, p.1.2.2.state)) =
        some ((.stateOpen, Source.NULL_TIME, 20, 2), 2, .stateOpen) := by decide +kernel
  obtain ⟨⟨⟨source, count, asked⟩, putting, left⟩, e, hrun⟩ := exists_ok_of_map hrun
  simp only [Prod.mk.injEq] at hrun
  obtain ⟨⟨ho, hn, hd, hb⟩, rfl, ho'⟩ := hrun
  obtain ⟨hr, hcount, -⟩ := exampleCounts_ok e
  refine ⟨source, asked, hcount, (standing_count_iff hr ho ?_ ?_ ?_ ?_ (standingEnv_stands 1000) hcount).mpr ⟨?_, ?_⟩⟩
  · rw [hd]
    decide
  · rw [hb]
    decide
  · rw [hb, hd]
    decide
  · exact fun hne => absurd hn hne
  · rw [← sourceUpdate_fails_iff ho (atollaSourcePutReadyCount_update exampleHost hcount), ho']
    decide
  · rintro ⟨j, hone, hle, hmeets⟩
    rw [Source.room, if_pos hn, hb, hd] at hle hmeets
    obtain rfl | rfl : j = 1 ∨ j = 2 := by
      rw [show UInt32.toNat 20 = 20 from rfl] at hle
      omega
    · revert hmeets
      decide
    · revert hmeets
      decide

/-- **A clock at 19 ms**: the first put sets `last_frame_time` to 19 - 20, which is `NULL_TIME`, and the count is two
as before. -/
theorem standing_count_stays :
    ∃ source asked putting last, SourceReachable exampleHost { exampleSpec 20 with maxBufferedFrames := 2 } source ∧
      source.state = .stateOpen ∧ source.lastFrameTime = Source.NULL_TIME ∧ source.frameDurationMs = 20 ∧
      source.maxBufferedFrames = 2 ∧
      atollaSourcePutReadyCount exampleHost (standingEnv 19 []) 19 source = .ok (2, asked) ∧
      sourceCall exampleHost asked (.put (standingPut 19) [1, 2, 3]) = .ok putting ∧
      atollaSourcePutReadyCount exampleHost (standingEnv 19 []) 19 putting = .ok (2, last) ∧
      ¬CountExact exampleHost 19 asked 2 := by
  have hrun : (exampleCounts 19).toOption.map (fun p => ((p.1.1.state, p.1.1.lastFrameTime,
      p.1.1.frameDurationMs, p.1.1.maxBufferedFrames), p.1.2.1, p.2.2)) =
        some ((.stateOpen, Source.NULL_TIME, 20, 2), 2, 2) := by decide +kernel
  obtain ⟨⟨⟨source, count, asked⟩, putting, left⟩, e, hrun⟩ := exists_ok_of_map hrun
  simp only [Prod.mk.injEq] at hrun
  obtain ⟨⟨ho, hn, hd, hb⟩, rfl, rfl⟩ := hrun
  obtain ⟨hr, hcount, hput, last, hleft⟩ := exampleCounts_ok e
  refine ⟨source, asked, putting, last, hr, ho, hn, hd, hb, hcount, hput, hleft, fun hexact => ?_⟩
  have hstands : SourceCall.Stands 19 (.put (standingPut 19) [1, 2, 3]) := ⟨standingPut_stands 19, by decide⟩
  obtain ⟨last', hcount'⟩ := hexact.counts (.put .start hstands hput) (by decide) (standingEnv_stands 19)
  rw [hleft] at hcount'
  cases hcount'

end Atolla

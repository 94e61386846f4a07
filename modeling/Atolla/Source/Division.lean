import Atolla.Source.Standing
import Atolla.Source.StateMachine

/-!
# Dividing by the frame duration

`frame_duration_ms` divides the time since `last_frame_time`, in the two calls that ask for readiness and, through one
of them, in every put. `atolla_source_make` takes any duration: of the four numbers in the spec it is the only one for
which zero does not stand for a default, and a source made with it divides by zero as soon as it has put a frame
(`no_division_by_zero_iff`).
-/

set_option autoImplicit false

namespace Atolla

open Loop

/-- The numbers of a spec are values of an `int`. -/
structure AtollaSourceSpec.Ints (spec : AtollaSourceSpec) : Prop where
  duration : IsInt spec.frameDurationMs
  buffered : IsInt spec.maxBufferedFrames
  retry : IsInt spec.retryTimeoutMs
  disconnect : IsInt spec.disconnectTimeoutMs

theorem ofInt_ne_zero {x : Int} (h : IsInt x) (hne : x ≠ 0) : UInt32.ofInt x ≠ 0 := by
  intro hzero
  have hval := congrArg UInt32.toNat hzero
  unfold IsInt at h
  rw [UInt32.ofInt, UInt32.toNat_ofNat'] at hval
  simp at hval
  omega

section Division

variable {H : Host} {spec : AtollaSourceSpec} {s s' : Source}

/-- The disconnect timeout is not zero: there zero stands for the default. -/
theorem AtollaSourceSpec.Ints.disconnect_ne_zero (hs : spec.Ints) :
    (sourceFresh H spec).disconnectTimeoutMs ≠ 0 := by
  show (if spec.disconnectTimeoutMs = 0 then _ else _) ≠ _
  split
  · decide
  · exact ofInt_ne_zero hs.disconnect ‹_›

/-- A BORROW leaves the state alone, and the disconnect timeout. -/
theorem sourceSendBorrow_waits (h : s.builder.msgBuf.Owned) (now : UInt32) (sent : Bool) :
    ∃ s', sourceSendBorrow H now sent s = .ok s' ∧ s'.builder.msgBuf.Owned ∧ s'.state = s.state ∧
      s'.disconnectTimeoutMs = s.disconnectTimeoutMs := by
  obtain ⟨builder, e, hb⟩ := sourceSendBorrow_spec H h now sent
  exact ⟨_, e, hb, rfl, rfl⟩

/-- **A source opens** at zero, whether its make waits for that or not. -/
theorem exists_open (hp : 0 ≤ spec.sinkPort ∧ spec.sinkPort < 65536) (hs : spec.Ints) :
    ∃ s, SourceReachable H spec s ∧ s.Alive 0 ∧ s.lastFrameTime = Source.NULL_TIME := by
  have hown : (sourceFresh H spec).builder.msgBuf.Owned := memBlockAlloc_owned H _
  have hopens : ∀ s : Source, s.builder.msgBuf.Owned → s.state = .stateWaiting → s.disconnectTimeoutMs ≠ 0 →
      ∃ s', sourceUpdate H (standingEnv 0 [.lent 0]) s = .ok s' ∧ s'.Alive 0 ∧ Updated s s' :=
    fun s hb hw hd => sourceUpdate_opens hb hw hd (standingEnv_lent_stands 0) (standingEnv_lent 0)
  let env : MakeEnv := ⟨true, true, 0, 0, true, [standingEnv 0 [.lent 0]]⟩
  obtain ⟨s₁, e, hb, hw, hd⟩ := sourceSendBorrow_waits (H := H)
    (s := { sourceFresh H spec with firstBorrowTime := 0 }) hown 0 true
  replace hw : s₁.state = .stateWaiting := hw
  obtain ⟨s, hu, hs', hupd⟩ := hopens s₁ hb hw (hd ▸ hs.disconnect_ne_zero)
  have hnull : s.lastFrameTime = Source.NULL_TIME := hupd.opened hw hs'.opened
  have hopen : s.state ≠ .stateWaiting := by simp [hs'.opened]
  have hmake : atollaSourceMake H spec env = if spec.asyncMake then .ok s₁ else .ok s := by
    rw [atollaSourceMake_eq, assert_pos hp, ok_bind, if_pos rfl, if_pos rfl, e, ok_bind, sourceAwaitMakeCompletion,
      if_pos hw, hu, ok_bind, sourceAwaitMakeCompletion, if_neg hopen]
  cases hasync : spec.asyncMake with
  | false =>
    rw [hasync, if_neg (by simp)] at hmake
    exact ⟨s, .make hmake, hs', hnull⟩
  | true =>
    rw [hasync, if_pos rfl] at hmake
    exact ⟨s, .call (c := .state (standingEnv 0 [.lent 0])) (.make hmake) hu, hs', hnull⟩

/-- **No call divides by zero iff** the frame duration of the spec is not zero. -/
theorem no_division_by_zero_iff (hp : 0 ≤ spec.sinkPort ∧ spec.sinkPort < 65536) (hs : spec.Ints) :
    (∀ s c, SourceReachable H spec s → Avoids .divByZero (sourceCall H s c)) ↔ spec.frameDurationMs ≠ 0 := by
  constructor
  · intro hall hzero
    obtain ⟨s, hr, hs', hnull⟩ := exists_open (H := H) hp hs
    have hd : s.frameDurationMs = 0 := by
      rw [(sourceReachable_inv hr).duration, hzero]
      rfl
    -- the first put sets `last_frame_time`, and the next count divides
    have hempty : ([] : Bytes).length ≤ 65532 := by decide
    obtain ⟨t, eput, ht, hfield, hduration, -⟩ := hs'.put (H := H) (standingPut_stands 0) (.inl hnull) hempty
    have hzeroTime : t.lastFrameTime = 0 := by
      rw [hfield, Source.nextFrameTime, if_pos hnull, hd, UInt32.mul_zero, UInt32.sub_zero]
    have hne : t.lastFrameTime ≠ Source.NULL_TIME := by
      rw [hzeroTime]
      decide
    have hreach : SourceReachable H spec t := .call (c := .put (standingPut 0) []) hr (bind_eq_ok.mpr ⟨_, eput, rfl⟩)
    refine hall t (.putReadyCount (standingEnv 0 []) 0) hreach ?_
    show (atollaSourcePutReadyCount H (standingEnv 0 []) 0 t >>= _) = _
    rw [ht.count_zero (standingEnv_stands 0) hne (hduration.trans hd)]
    rfl
  · intro hne s c hr
    refine sourceCall_avoids H (.inr rfl) (sourceReachable_passes hr).kept (fun _ => ?_) c
    rw [(sourceReachable_inv hr).duration]
    exact ofInt_ne_zero hs.duration hne

end Division

/-- With a duration of 20 ms: the count behind the first put. -/
theorem no_division_by_zero_20 :
    ∃ source, SourceReachable exampleHost { exampleSpec 20 with maxBufferedFrames := 16 } source ∧
      source.state = .stateOpen ∧ source.lastFrameTime ≠ Source.NULL_TIME ∧
      Avoids .divByZero (sourceCall exampleHost source (.putReadyCount (standingEnv 1000 []) 1000)) := by
  have hrun : (exampleFirstPut 20 16 1000).toOption.map (fun p => (p.2.2.state, p.2.2.lastFrameTime)) =
      some (.stateOpen, 700) := by decide +kernel
  obtain ⟨p, e, hrun⟩ := exists_ok_of_map hrun
  simp only [Prod.mk.injEq] at hrun
  obtain ⟨-, -, hr⟩ := exampleFirstPut_ok e
  have havoids : ∀ s c, SourceReachable exampleHost { exampleSpec 20 with maxBufferedFrames := 16 } s →
      Avoids .divByZero (sourceCall exampleHost s c) :=
    (no_division_by_zero_iff (by decide) ⟨by decide, by decide, by decide, by decide⟩).mpr (by decide)
  refine ⟨p.2.2, hr, hrun.1, ?_, havoids _ _ hr⟩
  rw [hrun.2]
  decide

/-- **Without a duration**: a LENT opens the connection, a put returns true, and the next count divides by zero. -/
theorem division_by_zero :
    ∃ source source', SourceReachable exampleHost { exampleSpec 0 with maxBufferedFrames := 16 } source ∧
      source.state = .stateOpen ∧
      atollaSourcePut exampleHost (standingPut 1000) source [1, 2, 3] [1, 2, 3].length = .ok (true, source') ∧
      SourceReachable exampleHost { exampleSpec 0 with maxBufferedFrames := 16 } source' ∧
      atollaSourcePutReadyCount exampleHost (standingEnv 1000 []) 1000 source' = .error .divByZero := by
  have hrun : (exampleFirstPut 0 16 1000).toOption.map (fun p => (p.1.state, p.2.1,
      (atollaSourcePutReadyCount exampleHost (standingEnv 1000 []) 1000 p.2.2).map (·.1))) =
        some (.stateOpen, true, .error .divByZero) := by decide +kernel
  obtain ⟨⟨source, result, source'⟩, e, hrun⟩ := exists_ok_of_map hrun
  simp only [Prod.mk.injEq] at hrun
  obtain ⟨ho, rfl, hcount⟩ := hrun
  obtain ⟨hr, hput, hr'⟩ := exampleFirstPut_ok e
  refine ⟨source, source', hr, ho, hput, hr', ?_⟩
  cases ecount : atollaSourcePutReadyCount exampleHost (standingEnv 1000 []) 1000 source' with
  | ok q => rw [ecount] at hcount; cases hcount
  | error f =>
    rw [ecount] at hcount
    cases hcount
    rfl

end Atolla

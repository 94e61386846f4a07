import Atolla.Source.Pacing
import Atolla.Source.Standing

/-!
# How long until a frame is ready

`atolla_source_put_ready_timeout` reads the clock twice, for the number of frames that are ready and for the time that
is left. Both agree unless the frame becomes ready between the two readings, and then the time that is left is negative
(`readyTimeout_contract_iff`).
-/

set_option autoImplicit false

namespace Atolla

open Loop

/-- How many milliseconds `last_frame_time` lies behind a reading of the clock. -/
def Source.age (s : Source) (t : Nat) : Nat := (UInt32.ofNat t - s.lastFrameTime).toNat

/-- A source after some calls other than puts. -/
inductive SourceIdles (H : Host) (s : Source) : Source → Prop
  | refl : SourceIdles H s s
  | call {s' s'' : Source} {c : SourceCall} : SourceIdles H s s' → (∀ env frame, c ≠ .put env frame) →
      sourceCall H s' c = .ok s'' → SourceIdles H s s''

/-- The last reading of the clock: it is read again only if no frame is ready. -/
def Source.lastReading (τ₁ τ₂ : Nat) (s : Source) : Nat :=
  if s.lastFrameTime = Source.NULL_TIME ∨ 0 < asInt ((UInt32.ofNat τ₁ - s.lastFrameTime) / s.frameDurationMs) then τ₁
  else τ₂

/-- **The contract of the timeout** of an open source: it is no error code, it is no longer than the duration of a
frame, and when it has passed and no put came between, a frame is ready. -/
structure TimeoutContract (H : Host) (s : Source) (τ₁ τ₂ : Nat) (timeout : Int) : Prop where
  nonneg : 0 ≤ timeout
  le_duration : timeout ≤ s.frameDurationMs.toNat
  ready : ∀ {s₁ s₂ : Source} {env : SourceEnv} {τ₃ : Nat} {count : Int}, SourceIdles H s s₁ →
    atollaSourcePutReadyCount H env (UInt32.ofNat τ₃) s₁ = .ok (count, s₂) → s₂.state = .stateOpen →
    s.lastReading τ₁ τ₂ + timeout ≤ τ₃ →
    (s.lastFrameTime ≠ Source.NULL_TIME → s.age τ₁ + (τ₃ - τ₁ : Int) < 2 ^ 31) → 1 ≤ count

section Timeout

variable {H : Host} {s s' : Source} {τ₁ τ₂ t : Nat}

theorem SourceIdles.updated (hb : s.builder.msgBuf.Owned) (h : SourceIdles H s s') : Updated s s' := by
  induction h with
  | refl => exact Updated.refl hb
  | call _ hc e ih =>
    rcases sourceCall_put ih.builder e with hu | ⟨env, frame, rfl, -⟩
    · exact ih.trans hu
    · exact absurd rfl (hc env frame)

/-- The age grows with the clock. -/
theorem Source.age_add (s : Source) (h : τ₁ ≤ τ₂) : s.age τ₂ = (s.age τ₁ + (τ₂ - τ₁)) % 2 ^ 32 := by
  have := s.lastFrameTime.toNat_lt
  simp only [Source.age, UInt32.toNat_sub, UInt32.toNat_ofNat']
  omega

/-- **A frame is ready** when the age reaches the duration of a frame. -/
theorem asInt_div_pos {x d : UInt32} (hx : x.toNat < 2 ^ 31) (hd : 1 ≤ d.toNat) :
    0 < asInt (x / d) ↔ d.toNat ≤ x.toNat := by
  have hle : x.toNat / d.toNat ≤ x.toNat := Nat.div_le_self _ _
  rw [asInt, UInt32.toNat_div, if_pos (by omega), Int.natCast_pos, Nat.div_pos_iff]
  omega

/-- **The rest of the duration** of a frame is no error code as long as the frame is not ready. -/
theorem asInt_rest_iff {now : UInt32} (hd : s.frameDurationMs.toNat < 2 ^ 31) :
    (0 ≤ asInt (s.lastFrameTime + s.frameDurationMs - now) ∧
      asInt (s.lastFrameTime + s.frameDurationMs - now) ≤ s.frameDurationMs.toNat) ↔
      (now - s.lastFrameTime).toNat ≤ s.frameDurationMs.toNat := by
  have := s.lastFrameTime.toNat_lt
  have := now.toNat_lt
  rw [asInt_between (by omega), UInt32.toNat_sub, UInt32.toNat_sub, UInt32.toNat_add]
  omega

theorem asInt_rest {now : UInt32} (hd : s.frameDurationMs.toNat < 2 ^ 31)
    (hle : (now - s.lastFrameTime).toNat ≤ s.frameDurationMs.toNat) :
    asInt (s.lastFrameTime + s.frameDurationMs - now) = s.frameDurationMs.toNat - (now - s.lastFrameTime).toNat := by
  have := s.lastFrameTime.toNat_lt
  have := now.toNat_lt
  rw [UInt32.toNat_sub] at hle ⊢
  rw [asInt, UInt32.toNat_sub, UInt32.toNat_add]
  split <;> omega

/-- The timeout of a source that has put a frame. -/
theorem readyTimeout_eq (τ₂ : Nat) (hne : s.lastFrameTime ≠ Source.NULL_TIME) (hd : 1 ≤ s.frameDurationMs.toNat)
    (hage : s.age τ₁ < 2 ^ 31) :
    s.readyTimeout (UInt32.ofNat τ₁) (UInt32.ofNat τ₂) =
      if s.frameDurationMs.toNat ≤ s.age τ₁ then 0
      else asInt (s.lastFrameTime + s.frameDurationMs - UInt32.ofNat τ₂) := by
  rw [Source.readyTimeout, if_neg hne]
  exact if_congr (asInt_div_pos hage hd) rfl rfl

theorem lastReading_eq (τ₂ : Nat) (hne : s.lastFrameTime ≠ Source.NULL_TIME) (hd : 1 ≤ s.frameDurationMs.toNat)
    (hage : s.age τ₁ < 2 ^ 31) :
    s.lastReading τ₁ τ₂ = if s.frameDurationMs.toNat ≤ s.age τ₁ then τ₁ else τ₂ := by
  refine if_congr ?_ rfl rfl
  rw [or_iff_right hne]
  exact asInt_div_pos hage hd

/-- The count behind calls other than puts. -/
theorem SourceIdles.count (hb : s.builder.msgBuf.Owned) (hs : s.state = .stateOpen) (h : SourceIdles H s s')
    {s'' : Source} {env : SourceEnv} {count : Int}
    (e : atollaSourcePutReadyCount H env (UInt32.ofNat t) s' = .ok (count, s'')) (ho : s''.state = .stateOpen) :
    count = s.readyCount (UInt32.ofNat t) := by
  obtain ⟨e', hcount⟩ := atollaSourcePutReadyCount_value H e
  have hu := h.updated hb
  have hu' := hu.trans (sourceUpdate_updated H hu.builder e')
  rw [hcount, if_pos ho, (hu'.readiness hs).1]

/-- **A source that has put a frame** meets the contract iff a frame is ready at the first reading, or not before the
second one. -/
theorem contract_put_iff (hb : s.builder.msgBuf.Owned) (hs : s.state = .stateOpen)
    (hne : s.lastFrameTime ≠ Source.NULL_TIME) (hd : 1 ≤ s.frameDurationMs.toNat)
    (hmax : s.frameDurationMs.toNat < 2 ^ 31) (hage : s.age τ₁ < 2 ^ 31) (hτ : τ₁ ≤ τ₂) :
    TimeoutContract H s τ₁ τ₂ (s.readyTimeout (UInt32.ofNat τ₁) (UInt32.ofNat τ₂)) ↔
      s.frameDurationMs.toNat ≤ s.age τ₁ ∨ s.age τ₂ ≤ s.frameDurationMs.toNat := by
  have hvalue := readyTimeout_eq τ₂ hne hd hage
  have hreading := lastReading_eq τ₂ hne hd hage
  constructor
  · intro h
    have hnonneg := h.nonneg
    have hle := h.le_duration
    rw [hvalue] at hnonneg hle
    split at hnonneg
    · exact .inl ‹_›
    · rename_i hlt
      rw [if_neg hlt] at hle
      exact .inr ((asInt_rest_iff hmax).mp ⟨hnonneg, hle⟩)
  · intro hready
    -- whatever is read, the age at the last reading and the timeout make up a frame duration
    have hbounds : 0 ≤ s.readyTimeout (UInt32.ofNat τ₁) (UInt32.ofNat τ₂) ∧
        s.readyTimeout (UInt32.ofNat τ₁) (UInt32.ofNat τ₂) ≤ s.frameDurationMs.toNat := by
      rw [hvalue]
      split
      · omega
      · exact (asInt_rest_iff hmax).mpr (hready.resolve_left ‹_›)
    refine ⟨hbounds.1, hbounds.2, fun {s₁ s₂ env τ₃ count} hidle e ho hlate hage₃ => ?_⟩
    have hgrow := hage₃ hne
    have hfull : τ₁ ≤ τ₃ ∧ s.frameDurationMs.toNat ≤ s.age τ₁ + (τ₃ - τ₁) := by
      by_cases hfirst : s.frameDurationMs.toNat ≤ s.age τ₁
      · rw [hreading, hvalue, if_pos hfirst, if_pos hfirst] at hlate
        omega
      · have hrest : asInt (s.lastFrameTime + s.frameDurationMs - UInt32.ofNat τ₂) =
            s.frameDurationMs.toNat - s.age τ₂ := asInt_rest hmax (hready.resolve_left hfirst)
        rw [hreading, hvalue, if_neg hfirst, if_neg hfirst, hrest] at hlate
        have := s.age_add hτ
        omega
    have hage₃' : s.age τ₃ = s.age τ₁ + (τ₃ - τ₁) := by
      rw [s.age_add hfull.1, Nat.mod_eq_of_lt (by omega)]
    have hready₃ : s.frameDurationMs.toNat ≤ s.age τ₃ := hage₃' ▸ hfull.2
    rw [hidle.count hb hs e ho, Source.readyCount, if_neg hne]
    exact Int.add_one_le_of_lt ((asInt_div_pos (show s.age τ₃ < 2 ^ 31 by omega) hd).mpr hready₃)

/-- **A source that has not put a frame** meets the contract iff its buffer has room for one. -/
theorem contract_first_iff (hb : s.builder.msgBuf.Owned) (hs : s.state = .stateOpen)
    (hn : s.lastFrameTime = Source.NULL_TIME) {now : UInt32}
    (hlive : ∃ time ∈ s.lastRecvLentTime, now - time < s.disconnectTimeoutMs) :
    TimeoutContract H s τ₁ τ₂ (s.readyTimeout (UInt32.ofNat τ₁) (UInt32.ofNat τ₂)) ↔ 1 ≤ s.maxBufferedFrames := by
  have hzero : s.readyTimeout (UInt32.ofNat τ₁) (UInt32.ofNat τ₂) = 0 := by rw [Source.readyTimeout, if_pos hn]
  rw [hzero]
  constructor
  · intro h
    -- ask for the count at once, with nothing to hear
    let env : SourceEnv := ⟨none, fun _ => now, now, now, true, now⟩
    have hquiet : env.Quiet s := ⟨rfl, hlive⟩
    have e : atollaSourcePutReadyCount H env (UInt32.ofNat τ₁) s = .ok (s.maxBufferedFrames, s) := by
      rw [atollaSourcePutReadyCount, sourceUpdate_quiet H hs hquiet, ok_bind, if_neg (by simp [hs]), assert_pos hs,
        ok_bind, if_pos hn]
      rfl
    refine h.ready .refl e hs ?_ fun hne => absurd hn hne
    rw [Source.lastReading, if_pos (.inl hn)]
    omega
  · intro hroom
    refine ⟨Int.le_refl 0, by omega, fun {s₁ s₂ env τ₃ count} hidle e ho _ _ => ?_⟩
    rw [hidle.count hb hs e ho, Source.readyCount, if_pos hn]
    exact hroom

/-- **The timeout meets its contract iff** no frame becomes ready between the two readings of the clock. -/
theorem readyTimeout_contract_iff {spec : AtollaSourceSpec} {env : SourceEnv} {timeout : Int}
    (hr : SourceReachable H spec s)
    (e : atollaSourcePutReadyTimeout H env (UInt32.ofNat τ₁) (UInt32.ofNat τ₂) s = .ok (timeout, s'))
    (ho : s'.state = .stateOpen) (hd : 1 ≤ s'.frameDurationMs.toNat ∧ s'.frameDurationMs.toNat < 2 ^ 31)
    (hage : s'.lastFrameTime ≠ Source.NULL_TIME → s'.age τ₁ < 2 ^ 31) (hτ : τ₁ ≤ τ₂) :
    TimeoutContract H s' τ₁ τ₂ timeout ↔
      if s'.lastFrameTime = Source.NULL_TIME then 1 ≤ s'.maxBufferedFrames
      else s'.frameDurationMs.toNat ≤ s'.age τ₁ ∨ s'.age τ₂ ≤ s'.frameDurationMs.toNat := by
  obtain ⟨hu, hvalue⟩ := atollaSourcePutReadyTimeout_value H e
  have hb := (sourceUpdate_updated H (sourceReachable_inv hr).builder hu).builder
  rw [hvalue ho]
  split
  · exact contract_first_iff hb ho ‹_› (sourceUpdate_lent hu ho)
  · exact contract_put_iff hb ho ‹_› hd.1 hd.2 (hage ‹_›) hτ

end Timeout

/-- The example source, which put a frame at 1000 ms, and its timeout at two readings of the clock. -/
def exampleTimeout (τ₁ τ₂ : Nat) : Run (Int × Source) := do
  let (_, _, source) ← exampleFirstPut 20 1 1000
  atollaSourcePutReadyTimeout exampleHost (standingEnv (UInt32.ofNat τ₁) []) (UInt32.ofNat τ₁) (UInt32.ofNat τ₂) source

theorem exampleTimeout_ok {τ₁ τ₂ : Nat} {timeout : Int} {last : Source}
    (e : exampleTimeout τ₁ τ₂ = .ok (timeout, last)) :
    ∃ source, SourceReachable exampleHost { exampleSpec 20 with maxBufferedFrames := 1 } source ∧
      atollaSourcePutReadyTimeout exampleHost (standingEnv (UInt32.ofNat τ₁) []) (UInt32.ofNat τ₁) (UInt32.ofNat τ₂)
        source = .ok (timeout, last) := by
  obtain ⟨⟨first, result, source⟩, hput, e⟩ := bind_eq_ok.mp e
  exact ⟨source, (exampleFirstPut_ok hput).2.2, e⟩

/-- At 1010 ms and 1012 ms it is 8 ms. -/
theorem readyTimeout_contract_8 :
    ∃ last, exampleTimeout 1010 1012 = .ok (8, last) ∧ TimeoutContract exampleHost last 1010 1012 8 := by
  have hrun : (exampleTimeout 1010 1012).toOption.map (fun p => (p.1, p.2.state, p.2.frameDurationMs,
      p.2.lastFrameTime)) = some (8, .stateOpen, 20, 1000) := by decide +kernel
  obtain ⟨⟨timeout, last⟩, e, hrun⟩ := exists_ok_of_map hrun
  simp only [Prod.mk.injEq] at hrun
  obtain ⟨rfl, ho, hd, hf⟩ := hrun
  obtain ⟨source, hr, htimeout⟩ := exampleTimeout_ok e
  have hage : last.age 1010 = 10 ∧ last.age 1012 = 12 := by
    rw [Source.age, Source.age, hf]
    decide
  have hne : last.lastFrameTime ≠ Source.NULL_TIME := by
    rw [hf]
    decide
  refine ⟨last, e, (readyTimeout_contract_iff hr htimeout ho ?_ (fun _ => ?_) (by decide)).mpr ?_⟩
  · rw [hd]
    decide
  · rw [hage.1]
    decide
  · rw [if_neg hne, hage.2, hd]
    right
    decide

/-- **The frame becomes ready between the readings** at 1019 ms and 1021 ms: the timeout is the error code. -/
theorem readyTimeout_negative :
    ∃ source last, SourceReachable exampleHost { exampleSpec 20 with maxBufferedFrames := 1 } source ∧
      atollaSourcePutReadyTimeout exampleHost (standingEnv (UInt32.ofNat 1019) []) (UInt32.ofNat 1019)
        (UInt32.ofNat 1021) source = .ok (-1, last) ∧
      last.state = .stateOpen ∧ last.frameDurationMs = 20 ∧ last.lastFrameTime ≠ Source.NULL_TIME ∧
      last.age 1019 = 19 ∧ ¬TimeoutContract exampleHost last 1019 1021 (-1) := by
  have hrun : (exampleTimeout 1019 1021).toOption.map (fun p => (p.1, p.2.state, p.2.frameDurationMs,
      p.2.lastFrameTime)) = some (-1, .stateOpen, 20, 1000) := by decide +kernel
  obtain ⟨⟨timeout, last⟩, e, hrun⟩ := exists_ok_of_map hrun
  simp only [Prod.mk.injEq] at hrun
  obtain ⟨rfl, ho, hd, hf⟩ := hrun
  obtain ⟨source, hr, htimeout⟩ := exampleTimeout_ok e
  refine ⟨source, last, hr, htimeout, ho, hd, ?_, ?_, fun h => ?_⟩
  · rw [hf]
    decide
  · rw [Source.age, hf]
    decide
  · have hnonneg := h.nonneg
    omega

end Atolla

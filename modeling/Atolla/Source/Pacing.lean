import Atolla.Source.Put

/-!
# Pacing

A source that stays open sends a frame no sooner than one frame duration behind `last_frame_time`, which starts almost a
buffer of frames in the past and goes on by one frame duration with every frame (`puts_paced`). The number of frames
that are ready comes from the same time, and a pause makes it larger than the buffer (`ready_count_iff`).
-/

set_option autoImplicit false

namespace Atolla

open Loop

/-! ## The timeout of a put -/

section Timeout

variable {H : Host} {s s' : Source}

/-- The timeout of a source that has put a frame. -/
theorem sourcePutTimeout_value {env : PutEnv} {timeout : Option Int}
    (e : sourcePutTimeout H env s = .ok (timeout, s')) (ho : s'.state = .stateOpen)
    (hne : s'.lastFrameTime ≠ Source.NULL_TIME) :
    timeout = some (if 0 < asInt ((env.now - s'.lastFrameTime) / s'.frameDurationMs) then 0
      else asInt (s'.lastFrameTime + s'.frameDurationMs - env.later)) := by
  unfold sourcePutTimeout at e
  obtain ⟨s₁, h₁, e⟩ := bind_eq_ok.mp e
  obtain ⟨s₂, h₂, e⟩ := bind_eq_ok.mp e
  split at e
  · rename_i hclosed
    cases e
    exact absurd ho hclosed
  · obtain ⟨⟨value, s₃⟩, h₃, e⟩ := bind_eq_ok.mp e
    cases e
    rw [(atollaSourcePutReadyTimeout_value H h₃).2 ho, Source.readyTimeout, if_neg hne]

theorem ofNat_eq_ofInt (t : Nat) : UInt32.ofNat t = UInt32.ofInt t := by
  apply UInt32.toNat_inj.mp
  rw [UInt32.ofInt, UInt32.toNat_ofNat', UInt32.toNat_ofNat']
  omega

theorem ofInt_sub (x y : Int) : UInt32.ofInt (x - y) = UInt32.ofInt x - UInt32.ofInt y := by
  rw [Int.sub_eq_add_neg, UInt32.ofInt_add, UInt32.ofInt_neg, UInt32.sub_eq_add_neg]

/-- A number of milliseconds in the range of an `int` is not changed by the wrap of the clock. -/
theorem asInt_ofInt {x : Int} (h : -2 ^ 31 ≤ x) (h' : x < 2 ^ 31) : asInt (UInt32.ofInt x) = x := by
  rw [asInt, UInt32.ofInt, UInt32.toNat_ofNat']
  split <;> omega

theorem asInt_between {x : UInt32} {b : Int} (hb : b < 2 ^ 31) : (0 ≤ asInt x ∧ asInt x ≤ b) ↔ (x.toNat : Int) ≤ b := by
  have := x.toNat_lt
  rw [asInt]
  split <;> omega

/-- **The sleep of a put**: whoever sends behind it sends no sooner than one frame duration behind `last_frame_time`. -/
theorem sleep_le {ℓ : Int} {d t₁ t₂ t : Nat} {duration : UInt32} (hd : duration.toNat = d) (h1 : 1 ≤ d)
    (hmax : d < 2 ^ 31) (hℓ : ℓ ≤ t₁) (hwrap : (t₁ : Int) - ℓ < 2 ^ 32) (ht : t₁ ≤ t₂)
    (hwake : t₂ + (if 0 < asInt ((UInt32.ofNat t₁ - UInt32.ofInt ℓ) / duration) then 0
      else asInt (UInt32.ofInt ℓ + duration - UInt32.ofNat t₂)).toNat ≤ t) : ℓ + d ≤ t := by
  by_cases hlate : ℓ + d ≤ t₂
  · omega
  · have hcount : (UInt32.ofNat t₁ - UInt32.ofInt ℓ).toNat = (t₁ - ℓ).toNat := by
      rw [ofNat_eq_ofInt, ← ofInt_sub, UInt32.ofInt, UInt32.toNat_ofNat']
      omega
    have hzero : asInt ((UInt32.ofNat t₁ - UInt32.ofInt ℓ) / duration) = 0 := by
      rw [asInt, UInt32.toNat_div, hcount, hd, Nat.div_eq_of_lt (by omega)]
      rfl
    have hdur : duration = UInt32.ofInt d := by rw [← ofNat_eq_ofInt, ← hd, UInt32.ofNat_toNat]
    have hrest : asInt (UInt32.ofInt ℓ + duration - UInt32.ofNat t₂) = ℓ + d - t₂ := by
      rw [hdur, ofNat_eq_ofInt, ← UInt32.ofInt_add, ← ofInt_sub]
      exact asInt_ofInt (by omega) (by omega)
    rw [hzero, if_neg (Int.lt_irrefl 0), hrest] at hwake
    omega

end Timeout

/-! ## The source in time -/

/-- An open source with its clock, a number of milliseconds that does not wrap, and its successful puts. -/
structure Pace where
  source : Source
  /-- The last reading of the clock. -/
  time : Nat
  puts : Nat
  /-- The reading behind the first successful put. -/
  first : Option Nat
  /-- `last_frame_time`, counted like the clock; none before the first successful put. -/
  frameTime : Option Int

/-- The source behind a put with a result; the clock is read at `after`. -/
def Pace.put (spec : AtollaSourceSpec) (p : Pace) (result : Bool) (source : Source) (after : Nat) : Pace :=
  if result then
    { source := source
      time := after
      puts := p.puts + 1
      first := some (p.first.getD after)
      frameTime := some (
        if p.source.lastFrameTime = Source.NULL_TIME then after - (spec.bufferedFrames - 1) * spec.frameDurationMs
        else p.frameTime.getD 0 + spec.frameDurationMs) }
  else { p with source := source, time := after }

/-- **A put is about to send** at `t`: it read the clock at `t₁` and `t₂`, no more than 2 ^ 32 ms behind
`last_frame_time`, it slept for its timeout, and the source is open. -/
structure PutReady (H : Host) (p : Pace) (env : PutEnv) (t₁ t₂ t : Nat) : Prop where
  now : env.now = UInt32.ofNat t₁
  later : env.later = UInt32.ofNat t₂
  read : p.time ≤ t₁ ∧ t₁ ≤ t₂
  noWrap : ∀ ℓ ∈ p.frameTime, (t₁ : Int) - ℓ < 2 ^ 32
  slept : ∃ timeout source, sourcePutTimeout H env p.source = .ok (some timeout, source) ∧
    source.state = .stateOpen ∧ t₂ + timeout.toNat ≤ t

/-- The runs of a source that has become open and stays so: puts at any time, of which any may fail, and other calls.
Behind each put the source meets a condition. -/
inductive Paced (H : Host) (spec : AtollaSourceSpec) (cond : Source → Prop) : Pace → Prop
  | start {source : Source} {t : Nat} : SourceReachable H spec source → source.state = .stateOpen →
      source.lastFrameTime = Source.NULL_TIME → Paced H spec cond ⟨source, t, 0, none, none⟩
  | other {p : Pace} {c : SourceCall} {source : Source} {t : Nat} : Paced H spec cond p →
      (∀ env frame, c ≠ .put env frame) → sourceCall H p.source c = .ok source → source.state = .stateOpen →
      p.time ≤ t → Paced H spec cond { p with source := source, time := t }
  | put {p : Pace} {env : PutEnv} {t₁ t₂ t after : Nat} {frame : Bytes} {result : Bool} {source : Source} :
      Paced H spec cond p → PutReady H p env t₁ t₂ t → t ≤ after → env.after = UInt32.ofNat after →
      atollaSourcePut H env p.source frame frame.length = .ok (result, source) → source.state = .stateOpen →
      cond source → Paced H spec cond (p.put spec result source after)

/-- **What holds of every such source**: `last_frame_time` is not ahead of the clock. -/
structure PaceInv (spec : AtollaSourceSpec) (p : Pace) : Prop where
  source : SourceInv spec p.source
  opened : p.source.state = .stateOpen
  fresh : p.frameTime = none → p.source.lastFrameTime = Source.NULL_TIME
  field : ∀ ℓ ∈ p.frameTime, p.source.lastFrameTime = UInt32.ofInt ℓ ∧ ℓ ≤ p.time

/-- The frame duration and the number of buffered frames, as the source takes them, are positive. -/
structure AtollaSourceSpec.Paces (spec : AtollaSourceSpec) : Prop where
  duration : 1 ≤ spec.frameDurationMs ∧ IsInt spec.frameDurationMs
  buffered : 1 ≤ spec.bufferedFrames ∧ IsInt spec.bufferedFrames

section Pace

variable {H : Host} {spec : AtollaSourceSpec} {cond : Source → Prop} {p : Pace} {env : PutEnv} {t₁ t₂ t : Nat}

theorem toNat_frameDurationMs (hs : spec.Paces) (h : SourceInv spec p.source) :
    p.source.frameDurationMs.toNat = spec.frameDurationMs.toNat := by
  have hd := hs.duration
  unfold IsInt at hd
  rw [h.duration, UInt32.ofInt, UInt32.toNat_ofNat']
  omega

/-- **About to send**: the field is as before the put, and a second or later frame comes no sooner than one frame
duration behind it. -/
theorem PaceInv.ready (h : PaceInv spec p) (hs : spec.Paces) (hr : PutReady H p env t₁ t₂ t) :
    p.time ≤ t ∧ (p.source.lastFrameTime ≠ Source.NULL_TIME → ∀ ℓ ∈ p.frameTime, ℓ + spec.frameDurationMs ≤ t) := by
  obtain ⟨timeout, s₁, e, ho, hslept⟩ := hr.slept
  have hread := hr.read
  refine ⟨by omega, fun hne ℓ hℓ => ?_⟩
  have hd := hs.duration
  unfold IsInt at hd
  have hu := sourcePutTimeout_updated H h.source.builder e
  have hfield := hu.frameTime (by simp [h.opened])
  obtain ⟨hℓfield, hℓtime⟩ := h.field ℓ hℓ
  have hvalue := sourcePutTimeout_value e ho (by rw [hfield]; exact hne)
  rw [Option.some.injEq] at hvalue
  rw [hvalue, hfield, hℓfield, hu.duration, hr.now, hr.later] at hslept
  have := sleep_le (toNat_frameDurationMs hs h.source) (by omega) (by omega) (by omega) (hr.noWrap ℓ hℓ) hread.2 hslept
  omega

/-- What a put of an open source does to it, if it stays open. -/
theorem PaceInv.put_cases (h : PaceInv spec p) {frame : Bytes} {result : Bool} {source : Source} {after : Nat}
    (hafter : env.after = UInt32.ofNat after)
    (e : atollaSourcePut H env p.source frame frame.length = .ok (result, source)) (ho : source.state = .stateOpen) :
    SourceInv spec source ∧
      ((result = false ∧ source.lastFrameTime = p.source.lastFrameTime) ∨
        (result = true ∧ source.lastFrameTime =
          if p.source.lastFrameTime = Source.NULL_TIME then
            UInt32.ofInt (after - (spec.bufferedFrames - 1) * spec.frameDurationMs)
          else p.source.lastFrameTime + UInt32.ofInt spec.frameDurationMs)) := by
  refine ⟨sourceCall_inv (c := .put env frame) h.source (bind_eq_ok.mpr ⟨_, e, rfl⟩), ?_⟩
  obtain ⟨timeout, s₁, e₁, hcase⟩ := atollaSourcePut_cases H e
  have hu := sourcePutTimeout_updated H h.source.builder e₁
  have hfield := hu.frameTime (by simp [h.opened])
  rcases hcase with ⟨-, rfl, rfl⟩ | ⟨-, e₂⟩
  · exact .inl ⟨rfl, hfield⟩
  · obtain ⟨builder, e', -⟩ := sourcePutFrame_spec H hu.builder (sourcePutFrame_length_le H e₂) env
    rw [e', Except.ok.injEq, Prod.mk.injEq] at e₂
    obtain ⟨rfl, rfl⟩ := e₂
    cases env.sent with
    | false => exact .inl ⟨rfl, hfield⟩
    | true =>
      refine .inr ⟨rfl, ?_⟩
      show (if s₁.lastFrameTime = Source.NULL_TIME then
        env.after - UInt32.ofInt (s₁.maxBufferedFrames - 1) * s₁.frameDurationMs
        else s₁.lastFrameTime + s₁.frameDurationMs) = _
      rw [hfield, hu.buffered, hu.duration, h.source.buffered, h.source.duration, hafter, ofNat_eq_ofInt,
        ← UInt32.ofInt_mul, ← ofInt_sub]

/-- **A put** keeps the invariant. -/
theorem PaceInv.put (h : PaceInv spec p) (hs : spec.Paces) (hr : PutReady H p env t₁ t₂ t) {frame : Bytes}
    {result : Bool} {source : Source} {after : Nat} (ht : t ≤ after) (hafter : env.after = UInt32.ofNat after)
    (e : atollaSourcePut H env p.source frame frame.length = .ok (result, source)) (ho : source.state = .stateOpen) :
    PaceInv spec (p.put spec result source after) := by
  obtain ⟨htime, hready⟩ := h.ready hs hr
  obtain ⟨hsource, ⟨rfl, hfield⟩ | ⟨rfl, hfield⟩⟩ := h.put_cases hafter e ho
  · refine ⟨hsource, ho, fun hn => hfield.trans (h.fresh hn), fun ℓ hℓ => ?_⟩
    obtain ⟨hℓfield, hℓtime⟩ := h.field ℓ hℓ
    exact ⟨hfield.trans hℓfield, show ℓ ≤ (after : Int) by omega⟩
  · refine ⟨hsource, ho, fun hn => by simp [Pace.put] at hn, fun ℓ hℓ => ?_⟩
    obtain rfl := Option.mem_some_iff.mp hℓ
    have hb := hs.buffered
    have hd := hs.duration
    show source.lastFrameTime = _ ∧ _ ≤ (after : Int)
    by_cases hnull : p.source.lastFrameTime = Source.NULL_TIME
    · rw [if_pos hnull] at hfield ⊢
      have hpos : 0 ≤ (spec.bufferedFrames - 1) * spec.frameDurationMs := Int.mul_nonneg (by omega) (by omega)
      exact ⟨hfield, by omega⟩
    · rw [if_neg hnull] at hfield ⊢
      cases hf : p.frameTime with
      | none => exact absurd (h.fresh hf) hnull
      | some ℓ =>
        have := hready hnull ℓ hf
        rw [hfield, (h.field ℓ hf).1, ← UInt32.ofInt_add, Option.getD_some]
        exact ⟨rfl, by omega⟩

/-- **Every run** satisfies the invariant. -/
theorem Paced.inv (h : Paced H spec cond p) (hs : spec.Paces) : PaceInv spec p := by
  induction h with
  | start hr ho hnull => exact ⟨sourceReachable_inv hr, ho, fun _ => hnull, fun ℓ hℓ => by cases hℓ⟩
  | @other p c source t _ hc e ho ht ih =>
    rcases sourceCall_put ih.source.builder e with hu | ⟨env, frame, rfl, -⟩
    · have hfield := hu.frameTime (by simp [ih.opened])
      refine ⟨ih.source.updated hu, ho, fun hn => hfield.trans (ih.fresh hn), fun ℓ hℓ => ?_⟩
      obtain ⟨hℓfield, hℓtime⟩ := ih.field ℓ hℓ
      exact ⟨hfield.trans hℓfield, show ℓ ≤ (t : Int) by omega⟩
    · exact absurd rfl (hc env frame)
  | put _ hr ht hafter e ho _ ih => exact ih.put hs hr ht hafter e ho

/-- Where `last_frame_time` is never `NULL_TIME`, it is the reading behind the first successful put, and one frame
duration more for every frame behind a buffer of them. -/
structure Counted (spec : AtollaSourceSpec) (p : Pace) : Prop where
  none : p.puts = 0 → p.frameTime = Option.none ∧ p.first = Option.none
  some : 0 < p.puts → p.source.lastFrameTime ≠ Source.NULL_TIME ∧ ∃ t₀ ∈ p.first,
    p.frameTime = Option.some (t₀ + (p.puts - spec.bufferedFrames) * spec.frameDurationMs)

theorem Counted.put (h : Counted spec p) (hi : PaceInv spec p) {frame : Bytes} {result : Bool} {source : Source}
    {after : Nat} (hafter : env.after = UInt32.ofNat after)
    (e : atollaSourcePut H env p.source frame frame.length = .ok (result, source)) (ho : source.state = .stateOpen)
    (hne : result = true → source.lastFrameTime ≠ Source.NULL_TIME) :
    Counted spec (p.put spec result source after) := by
  obtain ⟨-, ⟨rfl, hfield⟩ | ⟨rfl, -⟩⟩ := hi.put_cases hafter e ho
  · exact ⟨h.none, fun hpos => ⟨fun hnull => (h.some hpos).1 (hfield.symm.trans hnull), (h.some hpos).2⟩⟩
  · have hputs : ((p.put spec true source after).puts : Int) = p.puts + 1 := rfl
    refine ⟨fun hz => absurd hz (by simp [Pace.put]), fun _ => ⟨hne rfl, ?_⟩⟩
    rcases Nat.eq_zero_or_pos p.puts with hz | hpos
    · obtain ⟨hft, hfirst⟩ := h.none hz
      refine ⟨after, by simp [Pace.put, hfirst], ?_⟩
      show Option.some (if p.source.lastFrameTime = Source.NULL_TIME then _ else _) = _
      rw [if_pos (hi.fresh hft), hputs, hz]
      congr 1
      push_cast
      ring
    · obtain ⟨hnn, t₀, ht₀, hft⟩ := h.some hpos
      refine ⟨t₀, by simp [Pace.put, Option.mem_def.mp ht₀], ?_⟩
      show Option.some (if p.source.lastFrameTime = Source.NULL_TIME then _ else _) = _
      rw [if_neg hnn, hft, hputs, Option.getD_some]
      congr 1
      ring

theorem Paced.counted (h : Paced H spec (fun s => s.lastFrameTime ≠ Source.NULL_TIME) p) (hs : spec.Paces) :
    Counted spec p := by
  induction h with
  | start _ _ _ => exact ⟨fun _ => ⟨rfl, rfl⟩, fun hpos => absurd hpos (Nat.lt_irrefl 0)⟩
  | @other p c source t hp hc e ho ht ih =>
    have hi := hp.inv hs
    rcases sourceCall_put hi.source.builder e with hu | ⟨env, frame, rfl, -⟩
    · have hfield := hu.frameTime (by simp [hi.opened])
      exact ⟨ih.none, fun hpos => ⟨fun hnull => (ih.some hpos).1 (hfield.symm.trans hnull), (ih.some hpos).2⟩⟩
    · exact absurd rfl (hc env frame)
  | put hp _ _ hafter e ho hne ih => exact ih.put (hp.inv hs) hafter e ho fun _ => hne

/-- **Puts are paced**: a second or later frame is sent no sooner than one frame duration behind `last_frame_time`, and
so beyond a buffer of frames there is at most one for every frame duration since the first. -/
theorem puts_paced (hs : spec.Paces) (h : Paced H spec (fun s => s.lastFrameTime ≠ Source.NULL_TIME) p)
    (hr : PutReady H p env t₁ t₂ t) (hputs : 0 < p.puts) :
    ∃ t₀ ∈ p.first, ∃ ℓ ∈ p.frameTime, ∃ timeout source,
      sourcePutTimeout H env p.source = .ok (some timeout, source) ∧
      source.lastFrameTime = UInt32.ofInt ℓ ∧ ℓ + spec.frameDurationMs ≤ t ∧
      (0 ≤ ℓ → ℓ < 2 ^ 32 → (source.lastFrameTime.toNat : Int) + spec.frameDurationMs ≤ t) ∧
      (p.puts : Int) + 1 ≤ spec.bufferedFrames + (t - t₀) / spec.frameDurationMs := by
  have hi := h.inv hs
  have hd := hs.duration
  obtain ⟨hne, t₀, ht₀, hft⟩ := (h.counted hs).some hputs
  obtain ⟨timeout, source, e, -, -⟩ := hr.slept
  have hle := (hi.ready hs hr).2 hne _ hft
  have hfield := ((sourcePutTimeout_updated H hi.source.builder e).frameTime (by simp [hi.opened])).trans
    (hi.field _ hft).1
  refine ⟨t₀, ht₀, _, hft, timeout, source, e, hfield, hle, fun hpos hlt => ?_, ?_⟩
  · have hread : (source.lastFrameTime.toNat : Int) = t₀ + (p.puts - spec.bufferedFrames) * spec.frameDurationMs := by
      rw [hfield, UInt32.ofInt, UInt32.toNat_ofNat']
      omega
    rw [hread]
    exact hle
  · have hframes : (p.puts : Int) + 1 - spec.bufferedFrames ≤ (t - t₀) / spec.frameDurationMs := by
      rw [Int.le_ediv_iff_mul_le (by omega)]
      calc (p.puts + 1 - spec.bufferedFrames) * spec.frameDurationMs
          = (p.puts - spec.bufferedFrames) * spec.frameDurationMs + spec.frameDurationMs := by ring
        _ ≤ t - t₀ := by omega
    omega

/-- Behind a put the frames are as many as durations fit into the time since `last_frame_time`. -/
theorem PaceInv.readyCount_iff (hi : PaceInv spec p) (hs : spec.Paces) (hne : p.source.lastFrameTime ≠ Source.NULL_TIME)
    (ht : p.time ≤ t) (hwrap : ∀ ℓ ∈ p.frameTime, (t : Int) - ℓ < 2 ^ 32) :
    (0 ≤ p.source.readyCount (UInt32.ofNat t) ∧ p.source.readyCount (UInt32.ofNat t) ≤ spec.bufferedFrames) ↔
      ∀ ℓ ∈ p.frameTime, t < ℓ + (spec.bufferedFrames + 1) * spec.frameDurationMs := by
  have hb := hs.buffered
  have hd := hs.duration
  unfold IsInt at hb hd
  cases hf : p.frameTime with
  | none => exact absurd (hi.fresh hf) hne
  | some ℓ =>
    obtain ⟨hfield, htime⟩ := hi.field ℓ hf
    have hfar := hwrap ℓ hf
    have hsince : (UInt32.ofNat t - p.source.lastFrameTime).toNat = (t - ℓ).toNat := by
      rw [hfield, ofNat_eq_ofInt, ← ofInt_sub, UInt32.ofInt, UInt32.toNat_ofNat']
      omega
    have hquot : (((UInt32.ofNat t - p.source.lastFrameTime) / p.source.frameDurationMs).toNat : Int) =
        (t - ℓ) / spec.frameDurationMs := by
      rw [UInt32.toNat_div, hsince, toNat_frameDurationMs hs hi.source, Int.natCast_ediv,
        Int.toNat_of_nonneg (by omega), Int.toNat_of_nonneg (by omega)]
    rw [Source.readyCount, if_neg hne, asInt_between hb.2.2, hquot]
    constructor
    · intro hle ℓ' hℓ'
      obtain rfl := Option.mem_some_iff.mp hℓ'
      have := (Int.ediv_lt_iff_lt_mul (c := spec.frameDurationMs) (by omega)).mp (Int.lt_add_one_iff.mpr hle)
      omega
    · intro hlt
      have := hlt ℓ rfl
      exact Int.lt_add_one_iff.mp ((Int.ediv_lt_iff_lt_mul (by omega)).mpr (by omega))

/-- **The number of frames that are ready** is one between zero and the size of the buffer iff the connection is over,
no frame was put, or less than a buffer of frames and one more have passed since `last_frame_time`. -/
theorem ready_count_iff (hs : spec.Paces) (h : Paced H spec (fun _ => True) p) (ht : p.time ≤ t)
    (hwrap : ∀ ℓ ∈ p.frameTime, (t : Int) - ℓ < 2 ^ 32) {env : SourceEnv} {count : Int} {source : Source}
    (e : atollaSourcePutReadyCount H env (UInt32.ofNat t) p.source = .ok (count, source)) :
    (0 ≤ count ∧ count ≤ spec.bufferedFrames) ↔
      env.Ends H p.source ∨ p.source.lastFrameTime = Source.NULL_TIME ∨
        ∀ ℓ ∈ p.frameTime, t < ℓ + (spec.bufferedFrames + 1) * spec.frameDurationMs := by
  have hi := h.inv hs
  have hb := hs.buffered
  obtain ⟨hupd, hvalue⟩ := atollaSourcePutReadyCount_value H e
  have hends := sourceUpdate_fails_iff hi.opened hupd
  have hu := sourceUpdate_updated H hi.source.builder hupd
  have hleft := hu.left (by simp [hi.opened])
  have hcount : source.readyCount (UInt32.ofNat t) = p.source.readyCount (UInt32.ofNat t) := by
    rw [Source.readyCount, Source.readyCount, hu.frameTime (by simp [hi.opened]), hu.buffered, hu.duration]
  by_cases hover : env.Ends H p.source
  · rw [hvalue, if_neg (by simp [hends.mpr hover])]
    exact ⟨fun _ => .inl hover, fun _ => ⟨Int.le_refl 0, by omega⟩⟩
  have hopen : source.state = .stateOpen := by
    cases hs' : source.state with
    | stateWaiting => exact absurd hs' hleft
    | stateOpen => rfl
    | stateError => exact absurd (hends.mp hs') hover
  rw [hvalue, if_pos hopen, hcount]
  by_cases hnull : p.source.lastFrameTime = Source.NULL_TIME
  · have hready : p.source.readyCount (UInt32.ofNat t) = spec.bufferedFrames := by
      rw [Source.readyCount, if_pos hnull, hi.source.buffered]
    rw [hready]
    exact ⟨fun _ => .inr (.inl hnull), fun _ => ⟨by omega, Int.le_refl _⟩⟩
  · rw [hi.readyCount_iff hs hnull ht hwrap]
    constructor
    · intro hlt
      exact .inr (.inr hlt)
    · rintro (hends' | hnull' | hlt)
      · exact absurd hends' hover
      · exact absurd hnull' hnull
      · exact hlt

end Pace

/-- The example source behind its first put, at 1000 ms. -/
theorem exampleTransmit_paced {source source' : Source} (e : exampleTransmit none = .ok (true, source, source'))
    (cond : Source → Prop) (hcond : cond source') :
    Paced exampleHost (exampleSpec 20) cond ⟨source', 1000, 1, some 1000, some 700⟩ ∧
      PutReady exampleHost ⟨source', 1000, 1, some 1000, some 700⟩ (examplePutHearing none) 1000 1000 1000 ∧
      source'.lastFrameTime = 700 := by
  have hbefore : (exampleTransmit none).toOption.map (fun p => (p.2.1.state, p.2.1.lastRecvLentTime,
      p.2.1.disconnectTimeoutMs, p.2.1.lastFrameTime)) = some (.stateOpen, some 1000, 750, Source.NULL_TIME) := by
    decide +kernel
  have hbehind : (exampleTransmit none).toOption.map (fun p => (p.2.2.state, p.2.2.lastRecvLentTime,
      p.2.2.disconnectTimeoutMs, p.2.2.lastFrameTime, p.2.2.frameDurationMs)) =
        some (.stateOpen, some 1000, 750, 700, 20) := by decide +kernel
  rw [e] at hbefore hbehind
  simp only [Except.toOption, Option.map_some, Option.some.injEq, Prod.mk.injEq] at hbefore hbehind
  obtain ⟨ho, hl, hd, hf⟩ := hbefore
  obtain ⟨ho', hl', hd', hf', hdur⟩ := hbehind
  obtain ⟨hopen, hput⟩ := exampleTransmit_ok e
  have hquiet : (exampleHearing none).Quiet source := ⟨rfl, 1000, hl, by rw [hd]; decide⟩
  have hquiet' : (exampleHearing none).Quiet source' := ⟨rfl, 1000, hl', by rw [hd']; decide⟩
  have hfirst : PutReady exampleHost ⟨source, 1000, 0, none, none⟩ (examplePutHearing none) 1000 1000 1000 :=
    ⟨rfl, rfl, ⟨Nat.le_refl _, Nat.le_refl _⟩, fun ℓ hℓ => (by cases hℓ),
      0, source, sourcePutTimeout_first exampleHost ho hquiet hquiet hquiet hf, ho, Nat.le_refl _⟩
  have hstart : Paced exampleHost (exampleSpec 20) cond ⟨source, 1000, 0, none, none⟩ :=
    .start (exampleOpen_reachable hopen) ho hf
  have hpaced := hstart.put hfirst (Nat.le_refl 1000) rfl hput ho' hcond
  have hnext : Pace.put (exampleSpec 20) ⟨source, 1000, 0, none, none⟩ true source' 1000 =
      ⟨source', 1000, 1, some 1000, some 700⟩ := by
    rw [Pace.put, if_pos rfl, if_pos hf]
    rfl
  rw [hnext] at hpaced
  refine ⟨hpaced, ⟨rfl, rfl, ⟨Nat.le_refl _, Nat.le_refl _⟩, fun ℓ hℓ => ?_, 0, source', ?_, ho', Nat.le_refl _⟩, hf'⟩
  · obtain rfl := Option.mem_some_iff.mp hℓ
    decide
  · exact sourcePutTimeout_ready exampleHost ho' hquiet' hquiet' hquiet' (by rw [hf']; decide) (by rw [hdur]; decide)
      (by rw [hf', hdur]; decide)

theorem exampleSpec_paces : (exampleSpec 20).Paces := ⟨by decide, by decide⟩

/-- The second put of the example source. -/
theorem puts_paced_second :
    ∃ source timeout source', exampleTransmit none = .ok (true, source) ∧
      sourcePutTimeout exampleHost (examplePutHearing none) source.2 = .ok (some timeout, source') ∧
      source'.lastFrameTime = UInt32.ofInt 700 ∧ (700 : Int) + 20 ≤ (1000 : Nat) ∧
      (source'.lastFrameTime.toNat : Int) + 20 ≤ (1000 : Nat) ∧ (1 : Int) + 1 ≤ 16 + (1000 - 1000) / 20 := by
  have hrun : (exampleTransmit none).toOption.map (fun p => (p.1, p.2.2.lastFrameTime)) = some (true, 700) := by
    decide +kernel
  obtain ⟨⟨result, source, source'⟩, e, hrun⟩ := exists_ok_of_map hrun
  simp only [Prod.mk.injEq] at hrun
  obtain ⟨rfl, hf⟩ := hrun
  obtain ⟨hpaced, hready, -⟩ := exampleTransmit_paced e (fun s => s.lastFrameTime ≠ Source.NULL_TIME)
    (by rw [hf]; decide)
  obtain ⟨t₀, ht₀, ℓ, hℓ, timeout, s, e₁, hfield, hle, hread, hn⟩ :=
    puts_paced exampleSpec_paces hpaced hready Nat.one_pos
  obtain rfl := Option.mem_some_iff.mp ht₀
  obtain rfl := Option.mem_some_iff.mp hℓ
  exact ⟨(source, source'), timeout, s, e, e₁, hfield, hle, hread (by decide) (by decide), hn⟩

/-- What `atolla_source_put_ready_count` of the example source returns behind its first put, at a time when it finds a
datagram. -/
def exampleCount (t : Nat) (datagram : Option Bytes) : Run (Int × Source) := do
  let (_, _, source) ← exampleTransmit none
  let time := UInt32.ofNat t
  atollaSourcePutReadyCount exampleHost ⟨datagram, fun _ => time, time, time, true, time⟩ time source

theorem exampleCount_ok {t : Nat} {datagram : Option Bytes} {count : Int} {last : Source}
    (e : exampleCount t datagram = .ok (count, last)) (cond : Source → Prop) (hcond : ∀ s, cond s) :
    ∃ source, Paced exampleHost (exampleSpec 20) cond ⟨source, 1000, 1, some 1000, some 700⟩ ∧
      source.lastFrameTime = 700 ∧
      atollaSourcePutReadyCount exampleHost
        ⟨datagram, fun _ => UInt32.ofNat t, UInt32.ofNat t, UInt32.ofNat t, true, UInt32.ofNat t⟩ (UInt32.ofNat t)
        source = .ok (count, last) := by
  obtain ⟨⟨result, first, source⟩, h₁, h₂⟩ := bind_eq_ok.mp e
  have hresult : (exampleTransmit none).toOption.map (·.1) = some true := by decide +kernel
  rw [h₁] at hresult
  obtain rfl : result = true := Option.some.inj hresult
  obtain ⟨hpaced, -, hf⟩ := exampleTransmit_paced h₁ cond (hcond source)
  exact ⟨source, hpaced, hf, h₂⟩

/-- At once there are 15 frames left. -/
theorem ready_count_first :
    ∃ count source, exampleCount 1000 none = .ok (count, source) ∧
      0 ≤ count ∧ count ≤ (exampleSpec 20).bufferedFrames := by
  have hsome : (exampleCount 1000 none).toOption.isSome = true := by decide +kernel
  cases e : exampleCount 1000 none with
  | error f => rw [e] at hsome; cases hsome
  | ok p =>
    obtain ⟨count, last⟩ := p
    obtain ⟨source, hpaced, -, hcount⟩ := exampleCount_ok e (fun _ => True) fun _ => trivial
    refine ⟨count, last, rfl, (ready_count_iff exampleSpec_paces hpaced (Nat.le_refl 1000) ?_ hcount).mpr ?_⟩
    · intro ℓ hℓ
      obtain rfl := Option.mem_some_iff.mp hℓ
      decide
    · refine .inr (.inr fun ℓ hℓ => ?_)
      obtain rfl := Option.mem_some_iff.mp hℓ
      decide

/-- **Behind a pause of a second** 65 frames are ready, for a buffer of 16. -/
theorem ready_count_late :
    ∃ source last, Paced exampleHost (exampleSpec 20) (fun _ => True) ⟨source, 1000, 1, some 1000, some 700⟩ ∧
      atollaSourcePutReadyCount exampleHost
        ⟨some (encode 1 0 []), fun _ => UInt32.ofNat 2000, UInt32.ofNat 2000, UInt32.ofNat 2000, true,
          UInt32.ofNat 2000⟩
        (UInt32.ofNat 2000) source = .ok (65, last) ∧
      last.state = .stateOpen ∧ (exampleSpec 20).bufferedFrames < 65 := by
  have hrun : (exampleCount 2000 (some (encode 1 0 []))).toOption.map (fun p => (p.1, p.2.state)) =
      some (65, .stateOpen) := by decide +kernel
  obtain ⟨⟨count, last⟩, e, hrun⟩ := exists_ok_of_map hrun
  simp only [Prod.mk.injEq] at hrun
  obtain ⟨rfl, ho⟩ := hrun
  obtain ⟨source, hpaced, -, hcount⟩ := exampleCount_ok e (fun _ => True) fun _ => trivial
  exact ⟨source, last, hpaced, hcount, ho, by decide⟩

end Atolla

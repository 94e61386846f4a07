import Atolla.Sink.Handlers

/-!
# Showing frames (`atolla_sink_get`)

Every call first moves the frames that are due into `current_frame`, one after the other, and then shows that frame.
`Sink.due` says how many there are: at the first frame of a session one, later one for every frame duration that has
gone by since `time_origin`, and never more than are pending. `atollaSinkGet_lent`: the call never fails, and these
frames, the origin and the caller's buffer are all it changes.
-/

set_option autoImplicit false

namespace Atolla

open Loop Pattern

/-- How far the clock is ahead of `time_origin`. -/
def Sink.elapsed (s : Sink) (now : UInt32) : Nat := (now - s.timeOrigin).toNat

/-- How many frames `atolla_sink_get` dequeues. -/
def Sink.due (s : Sink) (now : UInt32) : Nat :=
  min s.pending.length
    (if s.timeOrigin = NULL_TIME then 1 else (s.elapsed now - 1) / s.frameDurationMs.toNat)

/-- The origin behind them. -/
def Sink.originAfter (s : Sink) (now : UInt32) : UInt32 :=
  if s.timeOrigin = NULL_TIME then (if s.pending = [] then NULL_TIME else now)
  else s.timeOrigin + UInt32.ofNat (s.due now * s.frameDurationMs.toNat)

/-- Whether there is a frame to show: not before the first of a session. -/
def Sink.shows (s : Sink) : Bool := !(decide (s.timeOrigin = NULL_TIME) && s.pending.isEmpty)

/-- The frame that is then the current one. -/
def Sink.picture (s : Sink) (now : UInt32) : Bytes :=
  (s.pending.take (s.due now)).getLast?.getD s.currentFrame.data

/-- `s'` is `s` with its `k` oldest frames dequeued. -/
structure Shown (s s' : Sink) (k : Nat) (origin : UInt32) : Prop where
  same : s' = { s with
    pendingFrames := s'.pendingFrames
    currentFrame := s'.currentFrame
    timeOrigin := origin
    dequeued := s.dequeued ++ s.pending.take k }
  inv : SinkInv s'
  pending : s'.pending = s.pending.drop k
  current : s'.currentFrame.data = (s.pending.take k).getLast?.getD s.currentFrame.data

section Get

variable {s : Sink}

theorem Shown.refl (h : SinkInv s) : Shown s s 0 s.timeOrigin :=
  ⟨by rw [List.take_zero, List.append_nil], h, rfl, rfl⟩

/-- One frame. -/
theorem Shown.one (h : SinkInv s) {g : Bytes} {rest : List Bytes} (hp : s.pending = g :: rest) {ring : MemRing}
    (ha : ring.Aligned s.frameLen pendingFramesCapacity) (hb : ring.blocks s.frameLen = rest) (origin : UInt32) :
    Shown s { s.popped g ring with timeOrigin := origin } 1 origin := by
  have hi := h.popped hp ha hb
  refine ⟨?_, ⟨hi.lights, hi.builder, hi.currentData, hi.currentCapacity, hi.receivedData,
    hi.receivedCapacity, hi.ring, hi.idx, hi.duration, hi.history, hi.shown⟩, ?_, ?_⟩
  · rw [hp]; rfl
  · rw [hp]; exact hb
  · rw [hp]; rfl

theorem Shown.trans {s₁ s₂ : Sink} {k₁ k₂ : Nat} {o₁ o₂ : UInt32} (h₁ : Shown s s₁ k₁ o₁)
    (h₂ : Shown s₁ s₂ k₂ o₂) : Shown s s₂ (k₁ + k₂) o₂ := by
  refine ⟨?_, h₂.inv, by rw [h₂.pending, h₁.pending, List.drop_drop], ?_⟩
  · have hd : s₁.dequeued = s.dequeued ++ s.pending.take k₁ := congrArg Sink.dequeued h₁.same
    have hq : s₁.dequeued ++ s₁.pending.take k₂ = s.dequeued ++ s.pending.take (k₁ + k₂) := by
      rw [hd, h₁.pending, List.append_assoc, List.take_add]
    have hsame := h₂.same
    rw [hq, h₁.same] at hsame
    exact hsame
  · rw [h₂.current, h₁.current, h₁.pending, List.take_add, List.getLast?_append]
    cases ((s.pending.drop k₁).take k₂).getLast? <;> rfl

/-! ## The loop -/

/-- The origin one frame on is that much closer to the clock. -/
theorem elapsed_next {now origin d : UInt32} (h : d < now - origin) :
    (now - (origin + d)).toNat = (now - origin).toNat - d.toNat := by
  have hsub : now - (origin + d) = (now - origin) - d := by grind
  rw [hsub, UInt32.toNat_sub_of_le _ _ (UInt32.le_of_lt h)]

/-- **The loop of `atolla_sink_get`** dequeues one frame for each duration that has gone by, while there are any. -/
theorem catchUp_loop (now : UInt32) :
    ∀ (p n : Nat) {s : Sink}, SinkInv s → 0 < s.frameDurationMs.toNat → s.pending.length = p → p < n →
      ∃ s' goOn, whileM .diverges (fun p : Sink × Bool => p.2 && decide (p.1.frameDurationMs < now - p.1.timeOrigin))
          sinkCatchUpRound n (s, true) = .ok (s', goOn) ∧
        Shown s s' (min p ((s.elapsed now - 1) / s.frameDurationMs.toNat))
          (s.timeOrigin + UInt32.ofNat (min p ((s.elapsed now - 1) / s.frameDurationMs.toNat) *
            s.frameDurationMs.toNat)) := by
  intro p
  induction p with
  | zero =>
    intro n s h hd hp hn
    have hnil : s.pending = [] := List.length_eq_zero_iff.mp hp
    obtain ⟨n, rfl⟩ : ∃ m, n = m + 1 := ⟨n - 1, by omega⟩
    have hrefl : Shown s s (min 0 ((s.elapsed now - 1) / s.frameDurationMs.toNat))
        (s.timeOrigin + UInt32.ofNat (min 0 ((s.elapsed now - 1) / s.frameDurationMs.toNat) *
          s.frameDurationMs.toNat)) := by
      rw [Nat.zero_min, Nat.zero_mul]
      simpa using Shown.refl h
    by_cases hc : s.frameDurationMs < now - s.timeOrigin
    · -- the ring is empty: the `break`
      refine ⟨s, false, ?_, hrefl⟩
      rw [whileM_succ (by simpa using hc), sinkCatchUpRound, sinkDequeue_nil h hnil]
      exact whileM_done rfl n
    · exact ⟨s, true, whileM_done (by simpa using hc) _, hrefl⟩
  | succ p ih =>
    intro n s h hd hp hn
    obtain ⟨n, rfl⟩ : ∃ m, n = m + 1 := ⟨n - 1, by omega⟩
    by_cases hc : s.frameDurationMs < now - s.timeOrigin
    · obtain ⟨g, rest, hg⟩ : ∃ g rest, s.pending = g :: rest := by
        cases hq : s.pending with
        | nil => rw [hq] at hp; cases hp
        | cons g rest => exact ⟨g, rest, rfl⟩
      obtain ⟨ring, e, ha, hb⟩ := sinkDequeue_cons h hg
      set s₁ : Sink := { s.popped g ring with timeOrigin := s.timeOrigin + s.frameDurationMs } with hs₁
      have h₁ : Shown s s₁ 1 (s.timeOrigin + s.frameDurationMs) := Shown.one h hg ha hb _
      have hp₁ : s₁.pending.length = p := by rw [h₁.pending, List.length_drop]; omega
      have hel : s₁.elapsed now = s.elapsed now - s.frameDurationMs.toNat := elapsed_next hc
      have hlt : s.frameDurationMs.toNat < s.elapsed now := UInt32.lt_iff_toNat_lt.mp hc
      have hdiv : (s.elapsed now - 1) / s.frameDurationMs.toNat =
          (s₁.elapsed now - 1) / s.frameDurationMs.toNat + 1 := by
        rw [hel, Nat.div_eq_sub_div hd (by omega), Nat.sub_right_comm]
      obtain ⟨s', goOn, e', hs'⟩ := ih n h₁.inv hd hp₁ (by omega)
      refine ⟨s', goOn, ?_, ?_⟩
      · rw [whileM_succ (by simpa using hc), sinkCatchUpRound, e]
        exact e'
      · have ho : s₁.timeOrigin = s.timeOrigin + s.frameDurationMs := rfl
        have hd₁ : s₁.frameDurationMs = s.frameDurationMs := rfl
        have hsum := h₁.trans hs'
        rw [hd₁, ho] at hsum
        set k := (s₁.elapsed now - 1) / s.frameDurationMs.toNat
        have hmin : min (p + 1) (k + 1) = 1 + min p k := by omega
        have horigin : s.timeOrigin + s.frameDurationMs + UInt32.ofNat (min p k * s.frameDurationMs.toNat) =
            s.timeOrigin + UInt32.ofNat ((1 + min p k) * s.frameDurationMs.toNat) := by
          rw [Nat.add_mul, Nat.one_mul, UInt32.ofNat_add, UInt32.ofNat_toNat, UInt32.add_assoc]
        rw [hdiv, hmin, ← horigin]
        exact hsum
    · have hle : s.elapsed now ≤ s.frameDurationMs.toNat :=
        Nat.le_of_not_lt fun hlt => hc (UInt32.lt_iff_toNat_lt.mpr hlt)
      have hzero : (s.elapsed now - 1) / s.frameDurationMs.toNat = 0 := Nat.div_eq_of_lt (by omega)
      refine ⟨s, true, whileM_done (by simpa using hc) _, ?_⟩
      rw [hzero, Nat.min_zero, Nat.zero_mul]
      simpa using Shown.refl h

theorem SinkInv.duration_pos (h : SinkInv s) (hs : s.state = .stateLent) : 0 < s.frameDurationMs.toNat := by
  have := h.duration hs
  omega

theorem sinkCatchUp_spec (h : SinkInv s) (hd : 0 < s.frameDurationMs.toNat) (ho : s.timeOrigin ≠ NULL_TIME)
    (now : UInt32) : ∃ s', sinkCatchUp now s = .ok s' ∧ Shown s s' (s.due now) (s.originAfter now) := by
  have hlen : s.pending.length ≤ s.pendingFrames.len := by
    rw [← h.ring.length_blocks]
    exact Nat.le_mul_of_pos_right _ h.frameLen_pos
  obtain ⟨s', goOn, e, hs'⟩ := catchUp_loop now s.pending.length (s.pendingFrames.len + 1) h hd rfl (by omega)
  refine ⟨s', by rw [sinkCatchUp, e]; rfl, ?_⟩
  simp only [Sink.originAfter, Sink.due, if_neg ho]
  exact hs'

/-! ## The call -/

/-- A sink that is not lent shows nothing. -/
theorem atollaSinkGet_idle (hs : s.state ≠ .stateLent) (now : UInt32) (frame : Bytes) (frameLen : Nat) :
    atollaSinkGet now s frame frameLen = .ok (false, s, frame) := if_neg hs

/-- **A lent sink** dequeues the frames that are due and shows the current one. -/
theorem atollaSinkGet_lent (h : SinkInv s) (hs : s.state = .stateLent) (now : UInt32) (frame : Bytes) :
    ∃ s', atollaSinkGet now s frame frame.length =
        .ok (s.shows, s', if s.shows then cycle frame.length (s.picture now) else frame) ∧
      Shown s s' (s.due now) (s.originAfter now) := by
  suffices h' : ∃ s', atollaSinkGet now s frame frame.length =
      .ok (s.shows, s', if s.shows then cycle frame.length s'.currentFrame.data else frame) ∧
        Shown s s' (s.due now) (s.originAfter now) by
    obtain ⟨s', e, hs'⟩ := h'
    exact ⟨s', by rw [e, hs'.current]; rfl, hs'⟩
  by_cases ho : s.timeOrigin = NULL_TIME
  · cases hp : s.pending with
    | nil =>
      refine ⟨s, ?_, ?_⟩
      · rw [atollaSinkGet, if_pos hs, if_pos ho, sinkDequeue_nil h hp]
        simp [Sink.shows, ho, hp]
      · have horigin : s.originAfter now = s.timeOrigin := by
          rw [Sink.originAfter, if_pos ho, if_pos hp, ho]
        rw [Sink.due, hp, List.length_nil, Nat.zero_min, horigin]
        exact Shown.refl h
    | cons g rest =>
      obtain ⟨ring, e, ha, hb⟩ := sinkDequeue_cons h hp
      have h₁ := Shown.one h hp ha hb now
      have hshows : s.shows = true := by simp [Sink.shows, hp]
      refine ⟨{ s.popped g ring with timeOrigin := now }, ?_, ?_⟩
      · rw [atollaSinkGet, if_pos hs, if_pos ho, e]
        simp only [ok_bind, if_true, fill_shown h₁.inv frame, hshows]
        rfl
      · have hdue : s.due now = 1 := by
          rw [Sink.due, hp, if_pos ho, List.length_cons]; omega
        rw [hdue, Sink.originAfter, if_pos ho, hp, if_neg (by simp)]
        exact h₁
  · obtain ⟨s', e, hs'⟩ := sinkCatchUp_spec h (h.duration_pos hs) ho now
    have hshows : s.shows = true := by simp [Sink.shows, ho]
    refine ⟨s', ?_, hs'⟩
    rw [atollaSinkGet, if_pos hs, if_neg ho, e]
    simp only [ok_bind, fill_shown hs'.inv frame, hshows]
    rfl

theorem atollaSinkGet_inv (h : SinkInv s) {now : UInt32} {frame : Bytes} {r : Bool × Sink × Bytes}
    (e : atollaSinkGet now s frame frame.length = .ok r) : SinkInv r.2.1 := by
  by_cases hs : s.state = .stateLent
  · obtain ⟨s', e', hs'⟩ := atollaSinkGet_lent h hs now frame
    rw [e'] at e
    cases e
    exact hs'.inv
  · rw [atollaSinkGet_idle hs] at e
    cases e
    exact h

end Get

end Atolla

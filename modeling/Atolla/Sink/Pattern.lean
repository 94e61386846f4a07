import Atolla.Base
import Atolla.Lib.Fifo
import Atolla.Lib.Pattern

/-!
# Filling with a pattern (`fill_with_pattern`)

Stored and shown frames are both made by repeating a shorter pattern, or cutting a longer one. What the loop is going to
leave (`FillState.filled`) is the same before and after each of its rounds, so in the end the target is the repeated
pattern (`fillWithPattern_repeats`). No more of the pattern is read than the target takes (`fillWithPattern_spec`).
-/

set_option autoImplicit false

namespace Atolla

open Fifo Loop Pattern

/-- The variables of the loop of `fill_with_pattern`: `offset_target` is an offset into the target. -/
structure FillState where
  target : Bytes
  offsetTarget : Nat
  targetLen : Nat

/-- One round of the loop. -/
def fillRound (pattern : Bytes) (patternLen : Nat) (s : FillState) : Run FillState :=
  if s.targetLen ≤ patternLen then do
    let src ← readBytes pattern s.targetLen
    let target ← writeBytes s.target s.offsetTarget src
    return { s with target := target, targetLen := 0 }
  else do
    let src ← readBytes pattern patternLen
    let target ← writeBytes s.target s.offsetTarget src
    return ⟨target, s.offsetTarget + patternLen, s.targetLen - patternLen⟩

/-- `fill_with_pattern`: the target object after it. Every round shortens `target_len`. -/
def fillWithPattern (target : Bytes) (targetLen : Nat) (pattern : Bytes) (patternLen : Nat) : Run Bytes :=
  if targetLen = 0 then .ok target
  else if patternLen = 0 then .ok target
  else do
    let s ← whileM .diverges (fun s : FillState => decide (0 < s.targetLen)) (fillRound pattern patternLen) targetLen
      ⟨target, 0, targetLen⟩
    return s.target

/-- What the loop is going to leave: from the offset on the repeated pattern, and behind it what is there. -/
def FillState.filled (pattern : Bytes) (s : FillState) : Bytes :=
  s.target.take s.offsetTarget ++ cycle s.targetLen pattern ++ s.target.drop (s.offsetTarget + s.targetLen)

theorem FillState.filled_done (pattern : Bytes) {s : FillState} (h : s.targetLen = 0) :
    s.filled pattern = s.target := by
  rw [filled, h, cycle_zero, List.append_nil, Nat.add_zero, List.take_append_drop]

section Loop

variable {pattern : Bytes} {s : FillState}

/-- The last round copies a part of the pattern, possibly all of it. -/
theorem fillRound_last (hc : s.targetLen ≤ pattern.length) (hle : s.offsetTarget + s.targetLen ≤ s.target.length) :
    fillRound pattern pattern.length s = .ok { s with target := s.filled pattern, targetLen := 0 } := by
  have hlen : (pattern.take s.targetLen).length = s.targetLen := List.length_take_of_le hc
  rw [fillRound, if_pos hc, readBytes_of_le hc, ok_bind, writeBytes_of_le (by omega), ok_bind, hlen,
    FillState.filled, cycle_of_le hc]
  rfl

/-- A round before it copies a whole pattern; what the loop is going to leave stays the same. -/
theorem fillRound_whole (hne : pattern ≠ []) (hc : pattern.length < s.targetLen)
    (hle : s.offsetTarget + s.targetLen ≤ s.target.length) :
    ∃ target, fillRound pattern pattern.length s =
        .ok ⟨target, s.offsetTarget + pattern.length, s.targetLen - pattern.length⟩ ∧
      target.length = s.target.length ∧
      FillState.filled pattern ⟨target, s.offsetTarget + pattern.length, s.targetLen - pattern.length⟩ =
        s.filled pattern := by
  refine ⟨write s.target s.offsetTarget pattern, ?_, length_write (by omega), ?_⟩
  · rw [fillRound, if_neg (by omega), readBytes_of_le (Nat.le_refl _), List.take_length, ok_bind,
      writeBytes_of_le (by omega), ok_bind]
    rfl
  · obtain ⟨n, hn⟩ : ∃ n, s.targetLen = pattern.length + n := ⟨s.targetLen - pattern.length, by omega⟩
    have hdrop : (write s.target s.offsetTarget pattern).drop (s.offsetTarget + pattern.length + n) =
        s.target.drop (s.offsetTarget + pattern.length + n) := drop_write (by omega) (by omega)
    simp only [FillState.filled, hn, Nat.add_sub_cancel_left]
    rw [take_write_end (by omega), hdrop, cycle_add n hne, ← Nat.add_assoc, List.append_assoc _ pattern]

/-- The loop from any state on. -/
theorem fill_loop (hne : pattern ≠ []) (n : Nat) (hn : s.targetLen ≤ n)
    (hle : s.offsetTarget + s.targetLen ≤ s.target.length) :
    ∃ s', whileM .diverges (fun s : FillState => decide (0 < s.targetLen)) (fillRound pattern pattern.length) n s =
        .ok s' ∧ s'.target = s.filled pattern := by
  have hpos : 0 < pattern.length := List.length_pos_iff.mpr hne
  induction n generalizing s with
  | zero =>
    have h0 : s.targetLen = 0 := by omega
    exact ⟨s, whileM_done (by simp [h0]) 0, (s.filled_done _ h0).symm⟩
  | succ n ih =>
    by_cases h0 : s.targetLen = 0
    · exact ⟨s, whileM_done (by simp [h0]) _, (s.filled_done _ h0).symm⟩
    rw [whileM_succ (by simpa using by omega)]
    by_cases hc : s.targetLen ≤ pattern.length
    · rw [fillRound_last hc hle, ok_bind]
      exact ⟨_, whileM_done rfl n, rfl⟩
    · obtain ⟨target, e, hlen, hfilled⟩ := fillRound_whole hne (by omega) hle
      obtain ⟨s', e', ht⟩ := ih (s := ⟨target, s.offsetTarget + pattern.length, s.targetLen - pattern.length⟩)
        (by simp only; omega) (by simp only; omega)
      rw [e, ok_bind]
      exact ⟨s', e', ht.trans hfilled⟩

end Loop

/-- A pattern longer than the target is cut to it, whatever follows in memory. -/
theorem fillWithPattern_cut {target pattern : Bytes} {targetLen patternLen : Nat} (hn : 0 < targetLen)
    (hle : targetLen ≤ patternLen) (ht : targetLen ≤ target.length) :
    fillWithPattern target targetLen pattern patternLen =
      if targetLen ≤ pattern.length then .ok (pattern.take targetLen ++ target.drop targetLen)
      else .error .outOfBounds := by
  obtain ⟨n, rfl⟩ : ∃ n, targetLen = n + 1 := ⟨targetLen - 1, by omega⟩
  rw [fillWithPattern, if_neg (by omega), if_neg (by omega), whileM_succ (by simp), fillRound, if_pos hle]
  by_cases hp : n + 1 ≤ pattern.length
  · have hlen : (pattern.take (n + 1)).length = n + 1 := List.length_take_of_le hp
    rw [if_pos hp, readBytes_of_le hp, ok_bind, writeBytes_of_le (by simp only; omega), ok_bind, pure_eq_ok, ok_bind,
      whileM_done rfl]
    simp [hlen]
  · rw [if_neg hp, readBytes_of_lt (by simp only; omega)]
    rfl

/-- The loop reads no more than `pattern_len` bytes of the pattern. -/
theorem fillWithPattern_take (target : Bytes) (targetLen : Nat) {pattern : Bytes} {patternLen : Nat}
    (h : patternLen ≤ pattern.length) :
    fillWithPattern target targetLen (pattern.take patternLen) patternLen =
      fillWithPattern target targetLen pattern patternLen := by
  have hlen : (pattern.take patternLen).length = patternLen := List.length_take_of_le h
  have hround : fillRound (pattern.take patternLen) patternLen = fillRound pattern patternLen := by
    funext s
    unfold fillRound
    split
    · rename_i hs
      rw [readBytes_of_le (by omega), readBytes_of_le (by omega), List.take_take, Nat.min_eq_left hs]
    · rw [readBytes_of_le h, readBytes_of_le (by omega), List.take_take, Nat.min_self]
  rw [fillWithPattern, fillWithPattern, hround]

/-- **What `fill_with_pattern` leaves in the target**: the repeated pattern, when as much of the pattern as is needed
lies inside of its object, and an access outside of it otherwise. -/
theorem fillWithPattern_spec {target pattern : Bytes} {targetLen patternLen : Nat} (hn : 0 < targetLen)
    (hp : 0 < patternLen) (ht : targetLen ≤ target.length) :
    fillWithPattern target targetLen pattern patternLen =
      if min targetLen patternLen ≤ pattern.length then
        .ok (cycle targetLen (pattern.take patternLen) ++ target.drop targetLen)
      else .error .outOfBounds := by
  by_cases hc : targetLen ≤ patternLen
  · rw [fillWithPattern_cut hn hc ht, Nat.min_eq_left hc]
    split
    · rename_i h
      rw [cycle_of_le (by rw [List.length_take]; omega), List.take_take, Nat.min_eq_left hc]
    · rfl
  · rw [Nat.min_eq_right (by omega)]
    by_cases hr : patternLen ≤ pattern.length
    · have hlen : (pattern.take patternLen).length = patternLen := List.length_take_of_le hr
      have hne : pattern.take patternLen ≠ [] := List.ne_nil_of_length_pos (by omega)
      obtain ⟨s', e, hs'⟩ := fill_loop (s := ⟨target, 0, targetLen⟩) hne targetLen (Nat.le_refl _) (by simpa using ht)
      rw [hlen] at e
      rw [if_pos hr, ← fillWithPattern_take _ _ hr, fillWithPattern, if_neg (by omega), if_neg (by omega), e, ok_bind,
        hs', FillState.filled]
      simp
    · obtain ⟨n, rfl⟩ : ∃ n, targetLen = n + 1 := ⟨targetLen - 1, by omega⟩
      rw [if_neg hr, fillWithPattern, if_neg (by omega), if_neg (by omega), whileM_succ (by simp), fillRound,
        if_neg hc, readBytes_of_lt (by omega)]
      rfl

/-- **Filling with a pattern** ends, whatever lies behind the pattern in memory: the target holds the repeated pattern,
and behind its length what it held before. Without a pattern, or without a length, nothing happens. -/
theorem fillWithPattern_repeats (target pattern : Bytes) (targetLen : Nat) :
    (pattern = [] ∨ targetLen = 0 →
      ∀ behind, fillWithPattern target targetLen (pattern ++ behind) pattern.length = .ok target) ∧
    (targetLen ≤ target.length → pattern ≠ [] →
      ∃ out, (∀ behind, fillWithPattern target targetLen (pattern ++ behind) pattern.length = .ok out) ∧
        out.length = target.length ∧
        (∀ i, i < targetLen → out[i]? = pattern[i % pattern.length]?) ∧
        ∀ i, targetLen ≤ i → out[i]? = target[i]?) := by
  constructor
  · rintro (rfl | rfl) behind
    · rw [fillWithPattern, List.length_nil, if_pos rfl]
      split
      · rfl
      · rfl
    · rw [fillWithPattern, if_pos rfl]
  · intro ht hne
    have hpos : 0 < pattern.length := List.length_pos_iff.mpr hne
    refine ⟨cycle targetLen pattern ++ target.drop targetLen, ?_, ?_, ?_, ?_⟩
    · intro behind
      rcases Nat.eq_zero_or_pos targetLen with rfl | hn
      · rw [fillWithPattern, if_pos rfl]
        rfl
      · have hle : min targetLen pattern.length ≤ (pattern ++ behind).length := by
          rw [List.length_append]
          omega
        rw [fillWithPattern_spec hn hpos ht, if_pos hle, List.take_left]
    · rw [List.length_append, length_cycle, List.length_drop]
      omega
    · intro i hi
      rw [List.getElem?_append_left (by simpa using hi), getElem?_cycle hi hne]
    · intro i hi
      rw [List.getElem?_append_right (by simpa using hi), length_cycle, List.getElem?_drop, Nat.add_sub_cancel' hi]

/-- Two bytes in a target of five, with one more behind it. -/
theorem fillWithPattern_repeats_five :
    ∃ out, (∀ behind, fillWithPattern [0, 0, 0, 0, 0, 9] 5 ([1, 2] ++ behind) 2 = .ok out) ∧ out.length = 6 ∧
      (∀ i, i < 5 → out[i]? = ([1, 2] : Bytes)[i % 2]?) ∧
      ∀ i, 5 ≤ i → out[i]? = ([0, 0, 0, 0, 0, 9] : Bytes)[i]? :=
  (fillWithPattern_repeats [0, 0, 0, 0, 0, 9] [1, 2] 5).2 (by decide) (by simp)

end Atolla

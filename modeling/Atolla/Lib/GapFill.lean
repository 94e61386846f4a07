import Mathlib.Data.List.Basic
import Mathlib.Data.Int.Basic
import Mathlib.Data.List.Induction

/-!
# Receivers that fill gaps

Items travel with their number `0, 1, 2, …` and may be lost, repeated or arrive late. The receiver's output has one
item for each number it has passed: an arrival with a number behind the output appends as many copies as it takes to
reach that number, a late one appends nothing (`fill`). After any arrivals the item for number `s` is that of the
first arrival with a number of at least `s` (`getElem?_fillAll`), and the output ends at the largest number
(`length_fillAll`).
-/

set_option autoImplicit false

namespace GapFill

variable {α : Type}

/-- Append copies of `a` up to number `n`; nothing when the output has passed `n` already. -/
def fill (out : List α) (n : ℕ) (a : α) : List α := out ++ List.replicate (n + 1 - out.length) a

/-- The output after some arrivals. -/
def fillAll (out : List α) (arrivals : List (ℕ × α)) : List α := arrivals.foldl (fun o p => fill o p.1 p.2) out

/-- The largest number among the arrivals, `-1` when there are none. -/
def largest (arrivals : List (ℕ × α)) : ℤ := arrivals.foldl (fun m p => max m p.1) (-1)

@[simp] theorem fillAll_nil (out : List α) : fillAll out [] = out := rfl

@[simp] theorem fillAll_append (out : List α) (as bs : List (ℕ × α)) :
    fillAll out (as ++ bs) = fillAll (fillAll out as) bs := by
  simp [fillAll, List.foldl_append]

@[simp] theorem fillAll_singleton (out : List α) (p : ℕ × α) : fillAll out [p] = fill out p.1 p.2 := rfl

@[simp] theorem largest_concat (as : List (ℕ × α)) (p : ℕ × α) :
    largest (as ++ [p]) = max (largest as) p.1 := by
  simp [largest, List.foldl_append]

theorem length_fill (out : List α) (n : ℕ) (a : α) : (fill out n a).length = max out.length (n + 1) := by
  simp [fill]; omega

/-- A late arrival changes nothing. -/
theorem fill_of_lt {out : List α} {n : ℕ} (h : n < out.length) (a : α) : fill out n a = out := by
  simp [fill, show n + 1 - out.length = 0 by omega]

/-- The item for number `s` after one arrival. -/
theorem getElem?_fill (out : List α) (n : ℕ) (a : α) (s : ℕ) :
    (fill out n a)[s]? = if s < out.length then out[s]? else if s ≤ n then some a else none := by
  rw [fill, List.getElem?_append]
  split
  · rfl
  · rename_i h
    rw [List.getElem?_replicate]
    split <;> split <;> first | rfl | omega

/-- **Placement**: behind the old output, the item for number `s` is that of the first arrival that reaches `s`. -/
theorem getElem?_fillAll (out : List α) (arrivals : List (ℕ × α)) (s : ℕ) :
    (fillAll out arrivals)[s]? =
      if s < out.length then out[s]? else (arrivals.find? fun p => s ≤ p.1).map (·.2) := by
  induction arrivals generalizing out with
  | nil =>
    rw [fillAll_nil]
    split
    · rfl
    · exact List.getElem?_eq_none (by omega)
  | cons p rest ih =>
    have hstep : fillAll out (p :: rest) = fillAll (fill out p.1 p.2) rest := rfl
    rw [hstep, ih, length_fill, getElem?_fill, List.find?_cons]
    by_cases hs : s < out.length
    · rw [if_pos (by omega), if_pos hs, if_pos hs]
    · by_cases hn : s ≤ p.1
      · rw [if_pos (by omega), if_neg hs, if_pos hn, if_neg hs, decide_eq_true hn]
        rfl
      · rw [if_neg (by omega), if_neg hs, decide_eq_false hn]

/-- The output only grows. -/
theorem length_le_fillAll (out : List α) (arrivals : List (ℕ × α)) : out.length ≤ (fillAll out arrivals).length := by
  induction arrivals generalizing out with
  | nil => exact Nat.le_refl _
  | cons p rest ih =>
    refine Nat.le_trans ?_ (ih (fill out p.1 p.2))
    rw [length_fill]
    exact Nat.le_max_left _ _

/-- **Length**: the output ends at the largest number. -/
theorem length_fillAll (arrivals : List (ℕ × α)) :
    ((fillAll [] arrivals).length : ℤ) = largest arrivals + 1 := by
  induction arrivals using List.reverseRecOn with
  | nil => rfl
  | append_singleton as p ih =>
    rw [fillAll_append, fillAll_singleton, length_fill, largest_concat]
    omega

/-- What the items are does not matter to their numbers. -/
theorem largest_map {β : Type} (f : α → β) (arrivals : List (ℕ × α)) :
    largest (arrivals.map fun p => (p.1, f p.2)) = largest arrivals := by
  induction arrivals using List.reverseRecOn with
  | nil => rfl
  | append_singleton as p ih => rw [List.map_append, List.map_singleton, largest_concat, largest_concat, ih]

theorem neg_one_le_largest (arrivals : List (ℕ × α)) : -1 ≤ largest arrivals := by
  have := length_fillAll arrivals
  omega

end GapFill

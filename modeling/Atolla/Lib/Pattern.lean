import Mathlib.Data.List.Basic

/-!
# Repeated patterns

`cycle n xs` is the first `n` items of `xs` repeated for ever: item `i` is `xs[i % xs.length]` (`getElem?_cycle`). A
pattern that is long enough is cut (`cycle_of_le`), a shorter one is followed by the rest (`cycle_add`).
-/

set_option autoImplicit false

namespace Pattern

variable {α : Type} [Inhabited α]

/-- The first `n` items of `xs` repeated for ever. -/
def cycle (n : ℕ) (xs : List α) : List α := (List.range n).map fun i => xs.getD (i % xs.length) default

@[simp] theorem length_cycle (n : ℕ) (xs : List α) : (cycle n xs).length = n := by simp [cycle]

@[simp] theorem cycle_zero (xs : List α) : cycle 0 xs = [] := rfl

/-- **Item `i`** of a repeated pattern. -/
theorem getElem?_cycle {n i : ℕ} {xs : List α} (hi : i < n) (hx : xs ≠ []) :
    (cycle n xs)[i]? = xs[i % xs.length]? := by
  have hlt : i % xs.length < xs.length := Nat.mod_lt _ (List.length_pos_iff.mpr hx)
  simp [cycle, List.getElem?_map, List.getElem?_range hi, List.getElem?_eq_getElem hlt]

/-- A pattern that is long enough is cut. -/
theorem cycle_of_le {n : ℕ} {xs : List α} (h : n ≤ xs.length) : cycle n xs = xs.take n := by
  apply List.ext_getElem?
  intro i
  by_cases hi : i < n
  · have hx : xs ≠ [] := List.ne_nil_of_length_pos (by omega)
    rw [getElem?_cycle hi hx, List.getElem?_take_of_lt hi, Nat.mod_eq_of_lt (by omega)]
  · rw [List.getElem?_eq_none (by simpa using hi), List.getElem?_eq_none (by simp; omega)]

/-- A pattern, then the pattern repeated again. -/
theorem cycle_add (n : ℕ) {xs : List α} (hx : xs ≠ []) : cycle (xs.length + n) xs = xs ++ cycle n xs := by
  have hpos : 0 < xs.length := List.length_pos_iff.mpr hx
  apply List.ext_getElem?
  intro i
  by_cases hi : i < xs.length + n
  · rw [getElem?_cycle hi hx]
    by_cases hl : i < xs.length
    · rw [List.getElem?_append_left hl, Nat.mod_eq_of_lt hl]
    · rw [List.getElem?_append_right (by omega), getElem?_cycle (by omega) hx,
        Nat.mod_eq_sub_mod (Nat.le_of_not_lt hl)]
  · rw [List.getElem?_eq_none (by simpa using hi), List.getElem?_eq_none (by simp; omega)]

end Pattern

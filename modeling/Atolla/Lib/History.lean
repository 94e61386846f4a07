import Atolla.Lib.Fifo

/-!
# Queues that remember

- `History α cap`: all items that a queue of at most `cap` items ever took, and how many of them it gave away again. Any
  number of items is appended or taken at once (`append`, `take`);
- `Carries mem h`: in a circular memory of `cap` cells, item `i` of those that are left lies in cell `i % cap`. Items
  that are appended in one piece, and taken from one, keep it so (`Carries.append`, `Carries.take`).
-/

set_option autoImplicit false

namespace Fifo

variable {α : Type} {cap : ℕ}

/-- All items a queue took, and how many of them it gave away; at most `cap` are left. -/
structure History (α : Type) (cap : ℕ) where
  items : List α
  taken : ℕ
  taken_le : taken ≤ items.length
  bound : items.length - taken ≤ cap

namespace History

/-- No item was taken yet. -/
def empty : History α cap := ⟨[], 0, Nat.le_refl _, Nat.zero_le _⟩

/-- How many items are left. -/
def stored (h : History α cap) : ℕ := h.items.length - h.taken

theorem append_bounds (h : History α cap) {xs : List α} (hle : h.stored + xs.length ≤ cap) :
    h.taken ≤ (h.items ++ xs).length ∧ (h.items ++ xs).length - h.taken ≤ cap := by
  have := h.taken_le
  rw [stored] at hle
  rw [List.length_append]
  omega

/-- Append items, when there is room for all of them. -/
def append (h : History α cap) (xs : List α) : Option (History α cap) :=
  if hle : h.stored + xs.length ≤ cap then
    some ⟨h.items ++ xs, h.taken, (h.append_bounds hle).1, (h.append_bounds hle).2⟩
  else none

theorem take_bounds (h : History α cap) {n : ℕ} (hle : n ≤ h.stored) :
    h.taken + n ≤ h.items.length ∧ h.items.length - (h.taken + n) ≤ cap := by
  have := h.taken_le
  have := h.bound
  rw [stored] at hle
  omega

/-- Take the `n` oldest items, when as many are left. -/
def take (h : History α cap) (n : ℕ) : Option (List α × History α cap) :=
  if hle : n ≤ h.stored then
    some ((h.items.drop h.taken).take n, ⟨h.items, h.taken + n, (h.take_bounds hle).1, (h.take_bounds hle).2⟩)
  else none

theorem append_eq_some {h h' : History α cap} {xs : List α} (e : h.append xs = some h') :
    h.stored + xs.length ≤ cap ∧ h'.items = h.items ++ xs ∧ h'.taken = h.taken := by
  unfold append at e
  split at e
  · cases e
    exact ⟨‹_›, rfl, rfl⟩
  · cases e

theorem append_eq_none {h : History α cap} {xs : List α} : h.append xs = none ↔ cap < h.stored + xs.length := by
  unfold append
  split
  · simp only [reduceCtorEq, false_iff]
    omega
  · simp only [true_iff]
    omega

theorem take_eq_some {h h' : History α cap} {n : ℕ} {xs : List α} (e : h.take n = some (xs, h')) :
    n ≤ h.stored ∧ xs = (h.items.drop h.taken).take n ∧ h'.items = h.items ∧ h'.taken = h.taken + n := by
  unfold take at e
  split at e
  · cases e
    exact ⟨‹_›, rfl, rfl, rfl⟩
  · cases e

theorem take_eq_none {h : History α cap} {n : ℕ} : h.take n = none ↔ h.stored < n := by
  unfold take
  split
  · simp only [reduceCtorEq, false_iff]
    omega
  · simp only [true_iff]
    omega

/-- What the queue gave away: the oldest of all items. -/
def given (h : History α cap) : List α := h.items.take h.taken

theorem given_append {h h' : History α cap} {xs : List α} (e : h.append xs = some h') : h'.given = h.given := by
  obtain ⟨-, hitems, htaken⟩ := append_eq_some e
  rw [given, given, hitems, htaken, List.take_append_of_le_length h.taken_le]

theorem given_take {h h' : History α cap} {n : ℕ} {xs : List α} (e : h.take n = some (xs, h')) :
    h'.given = h.given ++ xs := by
  obtain ⟨-, rfl, hitems, htaken⟩ := take_eq_some e
  rw [given, given, hitems, htaken, List.take_add]

theorem length_of_take {h h' : History α cap} {n : ℕ} {xs : List α} (e : h.take n = some (xs, h')) :
    xs.length = n := by
  obtain ⟨hle, rfl, -, -⟩ := take_eq_some e
  rw [stored] at hle
  rw [List.length_take, List.length_drop]
  omega

end History

/-! ## In circular memory -/

/-- The items that are left lie in a memory of `cap` cells, each in the cell of its number. -/
structure Carries (mem : List α) (h : History α cap) : Prop where
  length : mem.length = cap
  cell : ∀ i, h.taken ≤ i → i < h.items.length → mem[i % cap]? = h.items[i]?

theorem carries_empty {mem : List α} (hm : mem.length = cap) : Carries mem (History.empty : History α cap) :=
  ⟨hm, fun i _ hi => absurd hi (Nat.not_lt_zero i)⟩

/-- Cells in front of the written ones, the written ones, and those behind. -/
theorem getElem?_write {mem x : List α} {off i : ℕ} (h : off + x.length ≤ mem.length) :
    (write mem off x)[i]? = if off ≤ i ∧ i < off + x.length then x[i - off]? else mem[i]? := by
  have htake : (mem.take off).length = off := List.length_take_of_le (by omega)
  by_cases hlo : i < off
  · rw [if_neg (by omega), write, List.append_assoc, List.getElem?_append_left (by omega),
      List.getElem?_take_of_lt hlo]
  · rw [write, List.append_assoc, List.getElem?_append_right (by omega), htake]
    by_cases hhi : i < off + x.length
    · rw [if_pos (by omega), List.getElem?_append_left (by omega)]
    · rw [if_neg (by omega), List.getElem?_append_right (by omega), List.getElem?_drop]
      congr 1
      omega

/-- A number less than `cap` ahead of another is in its cell, if that is not the end of the memory. -/
theorem add_mod_cell {e j : ℕ} (h : e % cap + j < cap) : (e + j) % cap = e % cap + j := by
  rw [Nat.add_mod, Nat.mod_eq_of_lt (show j < cap by omega), Nat.mod_eq_of_lt h]

/-- **Appended in one piece.** -/
theorem Carries.append {mem xs : List α} {h h' : History α cap} (hc : Carries mem h) (e : h.append xs = some h')
    (hpiece : h.items.length % cap + xs.length ≤ cap) : Carries (write mem (h.items.length % cap) xs) h' := by
  obtain ⟨hroom, hitems, htaken⟩ := History.append_eq_some e
  have hle := h.taken_le
  have hfit : h.items.length % cap + xs.length ≤ mem.length := by rw [hc.length]; exact hpiece
  rw [History.stored] at hroom
  refine ⟨(length_write hfit).trans hc.length, fun i hi hlt => ?_⟩
  rw [htaken] at hi
  rw [hitems, List.length_append] at hlt
  rw [hitems, getElem?_write hfit]
  by_cases hold : i < h.items.length
  · -- an older item lies in another cell: it is less than `cap` behind the new ones
    have hother : ¬(h.items.length % cap ≤ i % cap ∧ i % cap < h.items.length % cap + xs.length) := by
      rintro ⟨hlo, hhi⟩
      obtain ⟨j, hj⟩ : ∃ j, i % cap = h.items.length % cap + j := ⟨_, (Nat.add_sub_cancel' hlo).symm⟩
      have hcell : (h.items.length + j) % cap = i % cap := by
        rw [add_mod_cell (by omega), hj]
      obtain ⟨d, hd⟩ : ∃ d, h.items.length + j = i + d := ⟨h.items.length + j - i, by omega⟩
      have hzero : (i + d) % cap = (i + 0) % cap := by rw [← hd, hcell, Nat.add_zero]
      have := slot_injective (show d < cap by omega) (show 0 < cap by omega) hzero
      omega
    rw [if_neg hother, List.getElem?_append_left hold]
    exact hc.cell i hi hold
  · obtain ⟨j, rfl⟩ : ∃ j, i = h.items.length + j := ⟨i - h.items.length, by omega⟩
    have hj : j < xs.length := by omega
    rw [add_mod_cell (by omega), if_pos ⟨by omega, by omega⟩, List.getElem?_append_right (by omega),
      Nat.add_sub_cancel_left, Nat.add_sub_cancel_left]

/-- **Taken from one piece.** -/
theorem Carries.take {mem xs : List α} {h h' : History α cap} {n : ℕ} (hc : Carries mem h)
    (e : h.take n = some (xs, h')) (hpiece : h.taken % cap + n ≤ cap) :
    (mem.drop (h.taken % cap)).take n = xs ∧ Carries mem h' := by
  obtain ⟨hle, rfl, hitems, htaken⟩ := History.take_eq_some e
  rw [History.stored] at hle
  constructor
  · apply List.ext_getElem?
    intro j
    by_cases hj : j < n
    · rw [List.getElem?_take_of_lt hj, List.getElem?_take_of_lt hj, List.getElem?_drop, List.getElem?_drop,
        ← add_mod_cell (by omega)]
      exact hc.cell (h.taken + j) (by omega) (by omega)
    · rw [List.getElem?_eq_none (by rw [List.length_take]; omega), List.getElem?_eq_none (by rw [List.length_take]; omega)]
  · refine ⟨hc.length, fun i hi hlt => ?_⟩
    rw [htaken] at hi
    rw [hitems] at hlt ⊢
    exact hc.cell i (by omega) hlt

end Fifo

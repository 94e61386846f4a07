import Mathlib.Data.List.Basic
import Mathlib.Data.Nat.ModEq
import Mathlib.Logic.Function.Basic
import Mathlib.Tactic.Ring

/-!
# Bounded queues in circular memory

- `Queue α cap`: a queue of at most `cap` items, with `push`, `pop`, `peek` and `drop`;
- `window slots cap f n`: the `n` items from slot `f` on of a circular store with `cap` slots; appending and removing
  items (`window_push`, `window_pop`, `window_drop`);
- `chunk k mem j`: slot `j` of a flat memory cut into pieces of `k` cells; writing one piece is an update of one slot
  (`chunk_write`).
-/

set_option autoImplicit false

namespace Fifo

variable {α : Type}

/-! ## The queue -/

/-- A queue of at most `cap` items, oldest first. -/
structure Queue (α : Type) (cap : ℕ) where
  items : List α
  bound : items.length ≤ cap

namespace Queue

variable {cap : ℕ}

/-- The queue without items. -/
def empty : Queue α cap := ⟨[], Nat.zero_le _⟩

theorem length_concat_le {items : List α} {a : α} (h : items.length < cap) : (items ++ [a]).length ≤ cap := by
  rw [List.length_append, List.length_singleton]
  exact h

/-- Append an item, when there is room. -/
def push (q : Queue α cap) (a : α) : Option (Queue α cap) :=
  if h : q.items.length < cap then some ⟨q.items ++ [a], length_concat_le h⟩ else none

/-- Remove the oldest item, when there is one. -/
def pop (q : Queue α cap) : Option (α × Queue α cap) :=
  match hq : q.items with
  | [] => none
  | a :: rest => some (a, ⟨rest, by have := q.bound; rw [hq, List.length_cons] at this; omega⟩)

/-- The oldest item, when there is one. -/
def peek (q : Queue α cap) : Option α := q.items.head?

/-- Remove the `n` oldest items, when there are as many. -/
def drop (q : Queue α cap) (n : ℕ) : Option (Queue α cap) :=
  if n ≤ q.items.length then some ⟨q.items.drop n, by have := q.bound; simp; omega⟩ else none

@[ext] theorem ext {p q : Queue α cap} (h : p.items = q.items) : p = q := by
  cases p; cases q; cases h; rfl

/-- The free places of a queue. -/
def free (q : Queue α cap) : ℕ := cap - q.items.length

theorem push_eq_some {q q' : Queue α cap} {a : α} :
    q.push a = some q' ↔ q.items.length < cap ∧ q'.items = q.items ++ [a] := by
  by_cases h : q.items.length < cap
  · rw [push, dif_pos h, Option.some.injEq]
    exact ⟨fun e => ⟨h, e ▸ rfl⟩, fun e => Queue.ext e.2.symm⟩
  · rw [push, dif_neg h]
    exact ⟨fun e => (by cases e), fun e => absurd e.1 h⟩

theorem push_eq_none {q : Queue α cap} {a : α} : q.push a = none ↔ cap ≤ q.items.length := by
  unfold push
  split <;> simp <;> omega

theorem pop_eq_some {q q' : Queue α cap} {a : α} : q.pop = some (a, q') ↔ q.items = a :: q'.items := by
  obtain ⟨items, hb⟩ := q
  cases items with
  | nil => simp [pop]
  | cons b rest =>
    simp only [pop, Option.some.injEq, Prod.mk.injEq, List.cons.injEq]
    constructor
    · rintro ⟨rfl, rfl⟩; exact ⟨rfl, rfl⟩
    · rintro ⟨rfl, h⟩; exact ⟨rfl, Queue.ext h⟩

theorem pop_eq_none {q : Queue α cap} : q.pop = none ↔ q.items = [] := by
  obtain ⟨items, hb⟩ := q
  cases items <;> simp [pop]

theorem drop_eq_some {q q' : Queue α cap} {n : ℕ} :
    q.drop n = some q' ↔ n ≤ q.items.length ∧ q'.items = q.items.drop n := by
  unfold drop
  split
  · rename_i h
    rw [Option.some.injEq]
    exact ⟨fun e => ⟨h, e ▸ rfl⟩, fun e => Queue.ext e.2.symm⟩
  · rename_i h
    exact ⟨fun e => (by cases e), fun e => absurd e.1 h⟩

theorem drop_eq_none {q : Queue α cap} {n : ℕ} : q.drop n = none ↔ q.items.length < n := by
  unfold drop
  split <;> simp <;> omega

/-- `pop` is `peek`, then `drop`. -/
theorem pop_eq_some_iff {q q' : Queue α cap} {a : α} :
    q.pop = some (a, q') ↔ q.peek = some a ∧ q.drop 1 = some q' := by
  obtain ⟨items, hb⟩ := q
  rw [pop_eq_some, drop_eq_some, peek]
  cases items with
  | nil => simp
  | cons b rest => simp [eq_comm]

end Queue

/-! ## Circular stores -/

/-- The `n` items from slot `f` on. -/
def window (slots : ℕ → α) (cap f n : ℕ) : List α := (List.range n).map fun j => slots ((f + j) % cap)

@[simp] theorem length_window (slots : ℕ → α) (cap f n : ℕ) : (window slots cap f n).length = n := by
  simp [window]

@[simp] theorem window_zero (slots : ℕ → α) (cap f : ℕ) : window slots cap f 0 = [] := rfl

/-- Two different places of one window are different slots. -/
theorem slot_injective {cap f i j : ℕ} (hi : i < cap) (hj : j < cap) (h : (f + i) % cap = (f + j) % cap) : i = j := by
  have h' : i % cap = j % cap := Nat.ModEq.add_left_cancel rfl h
  rwa [Nat.mod_eq_of_lt hi, Nat.mod_eq_of_lt hj] at h'

/-- Filling the slot behind the window appends to it. -/
theorem window_push (slots : ℕ → α) {cap f n : ℕ} (hn : n < cap) (x : α) :
    window (Function.update slots ((f + n) % cap) x) cap f (n + 1) = window slots cap f n ++ [x] := by
  simp only [window, List.range_succ, List.map_append, List.map_cons, List.map_nil, Function.update_self]
  congr 1
  apply List.map_congr_left
  intro j hj
  have hj' : j < n := List.mem_range.mp hj
  exact Function.update_of_ne (fun h => by have := slot_injective (by omega) hn h; omega) _ _

/-- The first slot of the window and the window after it. -/
theorem window_pop (slots : ℕ → α) (cap f n : ℕ) :
    window slots cap f (n + 1) = slots (f % cap) :: window slots cap ((f + 1) % cap) n := by
  simp only [window, List.range_succ_eq_map, List.map_cons, List.map_map, Nat.add_zero]
  congr 1
  apply List.map_congr_left
  intro j _
  have h : (f + (j + 1)) % cap = ((f + 1) % cap + j) % cap := by
    rw [Nat.mod_add_mod]; congr 1; omega
  simp [h]

/-- The window without its first `m` slots. -/
theorem window_drop (slots : ℕ → α) (cap f n m : ℕ) :
    (window slots cap f (m + n)).drop m = window slots cap ((f + m) % cap) n := by
  apply List.ext_getElem
  · simp
  · intro j _ _
    simp [window, Nat.add_assoc]

/-! ## Flat memory in pieces -/

/-- Piece `j` of a memory cut into pieces of `k` cells. -/
def chunk (k : ℕ) (mem : List α) (j : ℕ) : List α := (mem.drop (j * k)).take k

theorem length_chunk {k j : ℕ} {mem : List α} (h : (j + 1) * k ≤ mem.length) : (chunk k mem j).length = k := by
  have : (j + 1) * k = j * k + k := by ring
  simp only [chunk, List.length_take, List.length_drop]
  omega

/-- A memory with `x` written at cell `off`. -/
def write (mem : List α) (off : ℕ) (x : List α) : List α := mem.take off ++ x ++ mem.drop (off + x.length)

@[simp] theorem length_write {mem x : List α} {off : ℕ} (h : off + x.length ≤ mem.length) :
    (write mem off x).length = mem.length := by
  simp [write]
  omega

/-- Cells before the written ones are unchanged. -/
theorem take_write {mem x : List α} {off n : ℕ} (hn : n ≤ off) (h : off ≤ mem.length) :
    (write mem off x).take n = mem.take n := by
  have h1 : n - min off mem.length = 0 := by omega
  simp [write, List.take_append, List.take_take, h1, Nat.min_eq_left hn]

/-- Cells up to the end of the written ones. -/
theorem take_write_end {mem x : List α} {off : ℕ} (h : off ≤ mem.length) :
    (write mem off x).take (off + x.length) = mem.take off ++ x := by
  apply List.take_left'
  rw [List.length_append, List.length_take_of_le h]

/-- Cells after the written ones are unchanged. -/
theorem drop_write {mem x : List α} {off n : ℕ} (hn : off + x.length ≤ n) (h : off ≤ mem.length) :
    (write mem off x).drop n = mem.drop n := by
  have h1 : (mem.take off).drop n = [] := List.drop_eq_nil_of_le (by simp; omega)
  have h2 : x.drop (n - off) = [] := List.drop_eq_nil_of_le (by omega)
  have h3 : off + x.length + (n - (off + x.length)) = n := by omega
  rw [write, List.drop_append, List.drop_append, h1, List.length_append, List.length_take_of_le h, h2, List.drop_drop,
    h3]
  rfl

/-- The written cells hold what was written. -/
theorem drop_take_write {mem : List α} (x : List α) {off : ℕ} (h : off ≤ mem.length) :
    ((write mem off x).drop off).take x.length = x := by
  have h1 : (mem.take off).length = off := by simp [h]
  rw [write, List.append_assoc, List.drop_append_of_le_length (by omega), List.drop_of_length_le (by omega),
    List.nil_append, List.take_left']
  rfl

/-- Writing a whole piece updates its slot. -/
theorem chunk_write {k j : ℕ} {mem x : List α} (hx : x.length = k) (h : (j + 1) * k ≤ mem.length) :
    chunk k (write mem (j * k) x) = Function.update (chunk k mem) j x := by
  have hj : j * k + k ≤ mem.length := by rw [Nat.add_mul] at h; omega
  funext i
  rcases Nat.lt_trichotomy i j with hi | rfl | hi
  · rw [Function.update_of_ne (Nat.ne_of_lt hi)]
    have hik : i * k + k ≤ j * k := by
      have := Nat.mul_le_mul_right k (show i + 1 ≤ j by omega)
      rw [Nat.add_mul] at this; omega
    have h1 := List.drop_take (i := i * k) (j := i * k + k) (l := write mem (j * k) x)
    have h2 := List.drop_take (i := i * k) (j := i * k + k) (l := mem)
    rw [Nat.add_sub_cancel_left] at h1 h2
    rw [chunk, chunk, ← h1, ← h2, take_write hik (by omega)]
  · rw [Function.update_self, chunk]
    have := drop_take_write x (show i * k ≤ mem.length by omega)
    rwa [hx] at this
  · rw [Function.update_of_ne (Nat.ne_of_gt hi)]
    have hik : j * k + k ≤ i * k := by
      have := Nat.mul_le_mul_right k (show j + 1 ≤ i by omega)
      rw [Nat.add_mul] at this; omega
    simp only [chunk]
    rw [drop_write (by omega) (by omega)]

end Fifo

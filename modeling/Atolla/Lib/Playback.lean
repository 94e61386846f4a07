import Mathlib.Tactic.Ring

/-!
# The clock of a player

A player that shows its first item at `start` and one more after every `d` is due to have shown `due d start t` items at
`t`. A player that only catches up when it is polled, as far as it has items, does not depend on the polls: `catch_up`
says that after a poll it has shown all that are due, or all there are.

A sender that is paced by the same `d`, and may be `b` items ahead, does not overrun a player that is polled once in
every `d`: behind a poll that showed all that were due at most `b + 1` items wait (`waiting_le_of_due`), and behind one
that left none as many as a pause has allowed (`waiting_lt_of_caught`).
-/

set_option autoImplicit false

namespace Playback

/-- The items due at `t`: one at `start`, and one for each `d` that lies strictly between. -/
def due (d start t : ℕ) : ℕ := 1 + (t - start - 1) / d

variable {d start t t' k n m : ℕ}

theorem one_le_due (d start t : ℕ) : 1 ≤ due d start t := Nat.le_add_right 1 _

@[simp] theorem due_start (d t : ℕ) : due d t t = 1 := by simp [due]

theorem due_mono (h : t ≤ t') : due d start t ≤ due d start t' :=
  Nat.add_le_add_left (Nat.div_le_div_right (by omega)) 1

/-- **Enough time** for `m` more items. -/
theorem lt_due (hd : 0 < d) (h : start + m * d < t) : m < due d start t := by
  have hle : m ≤ (t - start - 1) / d := (Nat.le_div_iff_mul_le hd).mpr (by omega)
  unfold due
  omega

/-- The time of an item that is due has come. -/
theorem time_le (hk : k ≤ due d start t) (ht : start ≤ t) : start + (k - 1) * d ≤ t := by
  have hmul : (k - 1) * d ≤ (t - start - 1) / d * d := Nat.mul_le_mul_right d (Nat.sub_le_iff_le_add'.mpr hk)
  have hle := Nat.div_mul_le_self (t - start - 1) d
  omega

/-- Items behind the first are due strictly before. -/
theorem time_lt (hk : k ≤ due d start t) (hk2 : 2 ≤ k) (hd : 0 < d) : start + (k - 1) * d < t := by
  have hmul : (k - 1) * d ≤ (t - start - 1) / d * d := Nat.mul_le_mul_right d (Nat.sub_le_iff_le_add'.mpr hk)
  have hle := Nat.div_mul_le_self (t - start - 1) d
  have hpos : 0 < (k - 1) * d := Nat.mul_pos (by omega) hd
  omega

/-- **Catching up**: `k` items were shown, the last for its own time, and `n` are there. -/
theorem catch_up (hk : 1 ≤ k) (hn : k ≤ n) (hdue : k ≤ due d start t) :
    k + min (n - k) ((t - (start + (k - 1) * d) - 1) / d) = min n (due d start t) := by
  have hsub : t - (start + (k - 1) * d) - 1 = t - start - 1 - d * (k - 1) := by
    rw [Nat.mul_comm d]; omega
  rw [hsub, Nat.sub_mul_div]
  unfold due at hdue ⊢
  generalize (t - start - 1) / d = q at hdue ⊢
  omega

/-! ## A paced sender

`n` items were sent and `k` of them shown, the last poll was at `g`, and another item is sent at `s`. -/

variable {g s t₁ : ℕ} {b c : ℤ}

/-- Behind a poll that showed all that were due. -/
theorem waiting_le_of_due (hd : 0 < d) (hstart : start ≤ t₁ + d) (hdue : due d start g ≤ k) (hs : s ≤ g + d)
    (hpace : (t₁ : ℤ) + (n + 1 - b) * d ≤ s) : (n : ℤ) ≤ k + b + 1 := by
  by_contra hlt
  obtain ⟨m, hm⟩ : ∃ m : ℕ, (m : ℤ) = n - b - 2 := ⟨(n - b - 2).toNat, by omega⟩
  have hmul : ((n : ℤ) + 1 - b) * d = m * d + 3 * d := by
    rw [show (n : ℤ) + 1 - b = m + 3 by omega]
    ring
  have htime : start + m * d < g := by
    have : (start : ℤ) + m * d < g := by
      rw [hmul] at hpace
      omega
    exact_mod_cast this
  have := lt_due hd htime
  omega

/-- Behind a poll that left nothing, or shortly before `c` more items may be sent. -/
theorem waiting_lt_of_caught (hg : (g : ℤ) < t₁ + (k + c - b) * d) (hs : s ≤ g + d)
    (hpace : (t₁ : ℤ) + (n + 1 - b) * d ≤ s) : (n : ℤ) < k + c := by
  have hmul : ((n : ℤ) - b) * d < (k + c - b) * d := by
    have hsplit : ((n : ℤ) + 1 - b) * d = (n - b) * d + d := by ring
    rw [hsplit] at hpace
    omega
  have := Int.lt_of_mul_lt_mul_right hmul (Int.natCast_nonneg d)
  omega

end Playback

import Mathlib.Logic.Basic

/-!
# Logs of times

A log is a list of times. `Covers` says that it always has a recent entry, and `Follows` that every entry of it is
followed by one of another log within a delay, as far as it is due. What follows a log that is covered is covered too,
with a gap that is larger by the delay (`Covers.follow`).
-/

set_option autoImplicit false

namespace Cadence

/-- From `a` to `b` there is always an entry that is no older than `gap`. -/
def Covers (log : List Nat) (gap a b : Nat) : Prop := ∀ x, a ≤ x → x ≤ b → ∃ t ∈ log, t ≤ x ∧ x ≤ t + gap

/-- Every entry of `log` is followed by one of `log'` within the delay, if that is over by `b`. -/
def Follows (log log' : List Nat) (delay b : Nat) : Prop :=
  ∀ t ∈ log, t + delay ≤ b → ∃ t' ∈ log', t ≤ t' ∧ t' ≤ t + delay

variable {log log' : List Nat} {gap delay a b c : Nat}

/-- A log that begins. -/
theorem Covers.start (ha : a ∈ log) : Covers log gap a a := by
  intro x hax hxa
  exact ⟨a, ha, hax, by omega⟩

/-- Time goes on as long as the last entry is recent. -/
theorem Covers.extend (h : Covers log gap a b) (hlast : ∃ t ∈ log, t ≤ b ∧ c ≤ t + gap) : Covers log gap a c := by
  intro x hax hxc
  by_cases hxb : x ≤ b
  · exact h x hax hxb
  · obtain ⟨t, ht, htb, hct⟩ := hlast
    exact ⟨t, ht, by omega, by omega⟩

/-- More entries do no harm. -/
theorem Covers.append (h : Covers log gap a b) (more : List Nat) : Covers (log ++ more) gap a b := by
  intro x hax hxb
  obtain ⟨t, ht, hle⟩ := h x hax hxb
  exact ⟨t, List.mem_append_left more ht, hle⟩

/-- **What follows** a log that is covered is covered, from an entry of its own on. -/
theorem Covers.follow (h : Covers log gap a b) (hf : Follows log log' delay b) (hac : a ≤ c) (hc : c ∈ log') :
    Covers log' (gap + delay) c b := by
  intro x hcx hxb
  by_cases hx : a + delay ≤ x
  · -- the entry that was recent a delay ago
    obtain ⟨t, ht, htx, hxt⟩ := h (x - delay) (by omega) (by omega)
    obtain ⟨t', ht', hle, hdue⟩ := hf t ht (by omega)
    exact ⟨t', ht', by omega, by omega⟩
  · exact ⟨c, hc, hcx, by omega⟩

/-- **A bound of a log** that is covered is recent. -/
theorem Covers.recent (h : Covers log gap a b) {x last : Nat} (hax : a ≤ x) (hxb : x ≤ b)
    (hlast : ∀ t ∈ log, t ≤ last) : x ≤ last + gap := by
  obtain ⟨t, ht, -, hxt⟩ := h x hax hxb
  have := hlast t ht
  omega

end Cadence

import Mathlib.Data.List.Basic

/-!
# The past of a run

A system has first states and steps. `Reached` holds of the states of its runs, and `Runs` of a run, as the list of its
steps, and the state it comes to. Every entry of a log that only grows was written by a step of the run, and what holds
of all that a step writes holds of it and that step (`Runs.log`). A relation that the first states of two systems have
and a step of the one keeps with some step of the other relates their runs step by step (`Runs.follow`).
-/

set_option autoImplicit false

namespace Past

/-- A system of first states and steps. -/
structure System (σ : Type*) where
  init : σ → Prop
  step : σ → σ → Prop

namespace System

variable {σ : Type*} (S : System σ)

/-- The states of the runs. -/
inductive Reached : σ → Prop
  | init {s : σ} : S.init s → Reached s
  | step {s s' : σ} : Reached s → S.step s s' → Reached s'

/-- The runs, with their steps, the last one first. -/
inductive Runs : List (σ × σ) → σ → Prop
  | init {s : σ} : S.init s → Runs [] s
  | step {steps : List (σ × σ)} {s s' : σ} : Runs steps s → S.step s s' → Runs ((s, s') :: steps) s'

variable {S} {s s' : σ} {steps : List (σ × σ)}

theorem Runs.reached (h : S.Runs steps s) : S.Reached s := by
  induction h with
  | init hs => exact .init hs
  | step _ hs ih => exact ih.step hs

theorem Reached.runs (h : S.Reached s) : ∃ steps, S.Runs steps s := by
  induction h with
  | init hs => exact ⟨[], .init hs⟩
  | step _ hs ih =>
    obtain ⟨steps, hrun⟩ := ih
    exact ⟨_, hrun.step hs⟩

theorem Runs.mem (h : S.Runs steps s) {t : σ × σ} (ht : t ∈ steps) : S.Reached t.1 ∧ S.step t.1 t.2 := by
  induction h with
  | init => cases ht
  | step hrun hs ih =>
    rcases List.mem_cons.mp ht with rfl | ht
    · exact ⟨hrun.reached, hs⟩
    · exact ih ht

/-- **Invariants**: they may be used to show that a step keeps them. -/
theorem Reached.inv {I : σ → Prop} (hinit : ∀ s, S.init s → I s)
    (hstep : ∀ s s', S.Reached s → I s → S.step s s' → I s') (h : S.Reached s) : I s := by
  induction h with
  | init hs => exact hinit _ hs
  | step hr hs ih => exact hstep _ _ hr ih hs

/-- **Runs that are computed**, of steps that are. -/
theorem Reached.foldlM {α : Type*} {next : σ → α → Option σ} (hnext : ∀ s a s', next s a = some s' → S.step s s') :
    ∀ {actions : List α} {s : σ}, S.Reached s → actions.foldlM next s = some s' → S.Reached s'
  | [], s, h, e => by
    rw [List.foldlM_nil] at e
    exact Option.some.inj e ▸ h
  | a :: actions, s, h, e => by
    rw [List.foldlM_cons] at e
    obtain ⟨t, e₁, e₂⟩ := Option.bind_eq_some_iff.mp e
    exact (h.step (hnext s a t e₁)).foldlM hnext e₂

/-- **Logs**: an entry was written by a step of the run, where it says of the entry what it says of all it writes. -/
theorem Runs.log {β : Type*} {L : σ → List β} {R : σ → σ → β → Prop} (hinit : ∀ s, S.init s → L s = [])
    (hwrites : ∀ s s', S.Reached s → S.step s s' → ∃ new, L s' = L s ++ new ∧ ∀ x ∈ new, R s s' x)
    (h : S.Runs steps s) {k : Nat} {x : β} (hx : (L s)[k]? = some x) :
    ∃ t ∈ steps, (L t.1).length ≤ k ∧ (L t.2)[k]? = some x ∧ R t.1 t.2 x := by
  induction h with
  | @init s hs =>
    rw [hinit s hs] at hx
    cases hx
  | @step steps s s' hrun hs ih =>
    obtain ⟨new, hnew, hall⟩ := hwrites s s' hrun.reached hs
    by_cases hk : k < (L s).length
    · rw [hnew, List.getElem?_append_left hk] at hx
      obtain ⟨t, ht, hwritten⟩ := ih hx
      exact ⟨t, List.mem_cons_of_mem _ ht, hwritten⟩
    · have hk' := Nat.not_lt.mp hk
      refine ⟨(s, s'), List.mem_cons_self, hk', hx, hall x ?_⟩
      rw [hnew, List.getElem?_append_right hk'] at hx
      exact List.mem_of_getElem? hx

/-- **Simulation**: another system goes along with every run, step by step. -/
theorem Runs.follow {τ : Type*} {T : System τ} {R : σ → τ → Prop} (hinit : ∀ s, S.init s → ∃ t, T.init t ∧ R s t)
    (hstep : ∀ s s' t, R s t → S.step s s' → ∃ t', T.step t t' ∧ R s' t') (h : S.Runs steps s) :
    ∃ steps' t, T.Runs steps' t ∧ R s t ∧
      List.Forall₂ (fun (e : σ × σ) (e' : τ × τ) => R e.1 e'.1 ∧ R e.2 e'.2) steps steps' := by
  induction h with
  | @init s hs =>
    obtain ⟨t, ht, hR⟩ := hinit s hs
    exact ⟨[], t, .init ht, hR, .nil⟩
  | @step steps s s' _ hs ih =>
    obtain ⟨steps', t, hrun, hR, hall⟩ := ih
    obtain ⟨t', ht, hR'⟩ := hstep s s' t hR hs
    exact ⟨_, t', hrun.step ht, hR', .cons ⟨hR, hR'⟩ hall⟩

end System

end Past

import Atolla.Lib.Loop

/-!
# What machines show

A machine takes one input after the other and answers each with an output, or fails. `observe` is the list of its
answers. Two machines that a relation of their states connects, step by step and with the same outputs, cannot be told
apart (`observe_eq`).

A machine that never fails can be the specification of one that might: `replay` and `play` are whole runs of the two,
and a relation of their states that every step keeps makes the run of the first that of the second (`replay_refines`).
Where only some steps are matched, runs of such steps are, and no others (`Along`, `replay_along`, `replay_fails`).
-/

set_option autoImplicit false

namespace Observe

open Loop

variable {ε σ τ ι ω : Type}

/-- The answers of a machine to some inputs; a failure is the last. -/
def observe (step : σ → ι → Except ε (σ × ω)) : σ → List ι → List (Except ε ω)
  | _, [] => []
  | s, i :: is =>
    match step s i with
    | .ok (s', o) => .ok o :: observe step s' is
    | .error e => [.error e]

theorem observe_ok {step : σ → ι → Except ε (σ × ω)} {s s' : σ} {i : ι} {o : ω} (e : step s i = .ok (s', o))
    (is : List ι) : observe step s (i :: is) = .ok o :: observe step s' is := by
  rw [observe, e]

theorem observe_one (step : σ → ι → Except ε (σ × ω)) (s : σ) (i : ι) :
    observe step s [i] = [(step s i).map Prod.snd] := by
  cases e : step s i with
  | error f =>
    rw [observe, e]
    rfl
  | ok p => exact observe_ok e []

/-- **Simulation**: related states that agree on every admissible input give the same answers. -/
theorem observe_eq {step : σ → ι → Except ε (σ × ω)} {step' : τ → ι → Except ε (τ × ω)} (R : σ → τ → Prop)
    (P : ι → Prop)
    (h : ∀ s t i, R s t → P i → Agree (fun p q => R p.1 q.1 ∧ p.2 = q.2) (step s i) (step' t i)) :
    ∀ (is : List ι) (s : σ) (t : τ), R s t → (∀ i ∈ is, P i) → observe step s is = observe step' t is := by
  intro is
  induction is with
  | nil => intro s t _ _; rfl
  | cons i is ih =>
    intro s t hR hP
    have hi := h s t i hR (hP i List.mem_cons_self)
    rw [observe, observe]
    cases hs : step s i with
    | error e =>
      rw [hs] at hi
      cases ht : step' t i with
      | error e' =>
        rw [ht] at hi
        rw [show e = e' from hi]
      | ok q => rw [ht] at hi; cases hi
    | ok p =>
      rw [hs] at hi
      cases ht : step' t i with
      | error e' => rw [ht] at hi; cases hi
      | ok q =>
        rw [ht] at hi
        obtain ⟨hR', ho⟩ := agree_ok.mp hi
        simp only [ho, ih p.1 q.1 hR' fun j hj => hP j (List.mem_cons_of_mem _ hj)]

/-- A run over some inputs: the state it ends in, and all answers. -/
def replay (step : σ → ι → Except ε (σ × ω)) : σ → List ι → Except ε (σ × List ω)
  | s, [] => .ok (s, [])
  | s, i :: is => do
    let (s', o) ← step s i
    let (s'', os) ← replay step s' is
    return (s'', o :: os)

/-- A run of a machine that never fails. -/
def play (step : τ → ι → τ × ω) : τ → List ι → τ × List ω
  | t, [] => (t, [])
  | t, i :: is => ((play step (step t i).1 is).1, (step t i).2 :: (play step (step t i).1 is).2)

/-- What every step keeps holds where a run ends. -/
theorem replay_inv {step : σ → ι → Except ε (σ × ω)} (I : σ → Prop)
    (h : ∀ s i s' o, I s → step s i = .ok (s', o) → I s') (is : List ι) {s s' : σ} {os : List ω} (hs : I s)
    (e : replay step s is = .ok (s', os)) : I s' := by
  induction is generalizing s os with
  | nil =>
    cases e
    exact hs
  | cons i is ih =>
    rw [replay] at e
    obtain ⟨⟨s₁, o⟩, e₁, e⟩ := bind_eq_ok.mp e
    obtain ⟨⟨s₂, os₂⟩, e₂, e⟩ := bind_eq_ok.mp e
    cases e
    exact ih (h s i s₁ o hs e₁) e₂

/-- A condition on the inputs of a run and the states they meet. -/
def Along (step : τ → ι → τ × ω) (P : τ → ι → Prop) : τ → List ι → Prop
  | _, [] => True
  | t, i :: is => P t i ∧ Along step P (step t i).1 is

instance decidableAlong (step : τ → ι → τ × ω) (P : τ → ι → Prop) [∀ t i, Decidable (P t i)] :
    ∀ (t : τ) (is : List ι), Decidable (Along step P t is)
  | _, [] => isTrue trivial
  | t, i :: is =>
    haveI := decidableAlong step P (step t i).1 is
    inferInstanceAs (Decidable (P t i ∧ Along step P (step t i).1 is))

section Along

variable {step : σ → ι → Except ε (σ × ω)} {step' : τ → ι → τ × ω} {P Q : τ → ι → Prop}

/-- A condition that does not look at the states. -/
theorem along_of_forall {p : ι → Prop} {is : List ι} (h : ∀ i ∈ is, p i) (t : τ) :
    Along step' (fun _ i => p i) t is := by
  induction is generalizing t with
  | nil => trivial
  | cons i is ih =>
    constructor
    · exact h i List.mem_cons_self
    · exact ih (fun j hj => h j (List.mem_cons_of_mem _ hj)) _

theorem Along.and {is : List ι} {t : τ} (hP : Along step' P t is) (hQ : Along step' Q t is) :
    Along step' (fun t i => P t i ∧ Q t i) t is := by
  induction is generalizing t with
  | nil => trivial
  | cons i is ih => exact ⟨⟨hP.1, hQ.1⟩, ih hP.2 hQ.2⟩

variable (R : σ → τ → Prop)

/-- **Refinement along a condition**: a run is matched when all of its steps are. -/
theorem replay_along (h : ∀ s t i, R s t → P t i → ∃ s', step s i = .ok (s', (step' t i).2) ∧ R s' (step' t i).1)
    (is : List ι) {s : σ} {t : τ} (hR : R s t) (hP : Along step' P t is) :
    ∃ s', replay step s is = .ok (s', (play step' t is).2) ∧ R s' (play step' t is).1 := by
  induction is generalizing s t with
  | nil => exact ⟨s, rfl, hR⟩
  | cons i is ih =>
    obtain ⟨s₁, e₁, h₁⟩ := h s t i hR hP.1
    obtain ⟨s₂, e₂, h₂⟩ := ih h₁ hP.2
    refine ⟨s₂, ?_, h₂⟩
    rw [replay, e₁, ok_bind]
    simp only [e₂, ok_bind]
    rfl

/-- **Refinement**: when every step is matched, so is every run, and it does not fail. -/
theorem replay_refines (P : ι → Prop)
    (h : ∀ s t i, R s t → P i → ∃ s', step s i = .ok (s', (step' t i).2) ∧ R s' (step' t i).1) (is : List ι) {s : σ}
    {t : τ} (hR : R s t) (hP : ∀ i ∈ is, P i) :
    ∃ s', replay step s is = .ok (s', (play step' t is).2) ∧ R s' (play step' t is).1 :=
  replay_along R h is hR (along_of_forall hP t)

/-- **Only along it**: a run fails when some step does not meet the condition. -/
theorem replay_fails (h : ∀ s t i, R s t → P t i ∧ Q t i → ∃ s', step s i = .ok (s', (step' t i).2) ∧
    R s' (step' t i).1) {fault : ε} (hfault : ∀ s t i, R s t → P t i → ¬Q t i → step s i = .error fault) (is : List ι)
    {s : σ} {t : τ} (hR : R s t) (hP : Along step' P t is) (hQ : ¬Along step' Q t is) :
    replay step s is = .error fault := by
  induction is generalizing s t with
  | nil => exact absurd trivial hQ
  | cons i is ih =>
    by_cases hi : Q t i
    · obtain ⟨s₁, e₁, h₁⟩ := h s t i hR ⟨hP.1, hi⟩
      have hrest := ih h₁ hP.2 fun hrest => hQ ⟨hi, hrest⟩
      rw [replay, e₁, ok_bind]
      simp only [hrest]
      rfl
    · rw [replay, hfault s t i hR hP.1 hi]
      rfl

end Along

end Observe

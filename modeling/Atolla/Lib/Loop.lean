import Mathlib.Logic.Basic

/-!
# Loops of fallible programs

A program that may stop short is an `Except ε`. A `while` loop runs at most `n` rounds (`whileM`); a loop that never
ends is one that no number of rounds brings to its end. The rules:

- partial correctness from an invariant (`whileM_inv`);
- a loop whose condition holds for ever runs out of every number of rounds (`whileM_stuck`);
- more rounds do not change a result (`whileM_mono`);
- where a loop is after some rounds (`Rounds`), and that it fails there if a round does (`whileM_fails`);
- a run that never fails in a given way (`Avoids`);
- what a fold over a list keeps (`foldlM_inv`), that it returns (`foldlM_total`), and what the first of some elements
  brings about (`foldlM_first`);
- two runs side by side (`Agree`, `whileM_agree`, `foldlM_agree`), also when the first may stop early (`Approx`,
  `whileM_approx`).
-/

set_option autoImplicit false

namespace Loop

variable {ε σ τ α β γ δ : Type}

/-! ## Results -/

/-- A bind returns iff both halves do. -/
theorem bind_eq_ok {x : Except ε α} {f : α → Except ε β} {b : β} :
    x >>= f = .ok b ↔ ∃ a, x = .ok a ∧ f a = .ok b := by
  cases x with
  | error e => simp [bind, Except.bind]
  | ok a => simp [bind, Except.bind]

/-- A run of which something was observed has returned. -/
theorem exists_ok_of_map {x : Except ε α} {f : α → β} {b : β} (h : x.toOption.map f = some b) :
    ∃ a, x = .ok a ∧ f a = b := by
  cases x with
  | error e => cases h
  | ok a => exact ⟨a, rfl, Option.some.inj h⟩

@[simp] theorem ok_bind (a : α) (f : α → Except ε β) : (Except.ok a : Except ε α) >>= f = f a := rfl

@[simp] theorem error_bind (e : ε) (f : α → Except ε β) : (Except.error e : Except ε α) >>= f = .error e := rfl

@[simp] theorem pure_eq_ok (a : α) : (pure a : Except ε α) = .ok a := rfl

/-- A bind fails with `e` iff its first half does, or its second half does after the first returned. -/
theorem bind_eq_error {x : Except ε α} {f : α → Except ε β} {e : ε} :
    x >>= f = .error e ↔ x = .error e ∨ ∃ a, x = .ok a ∧ f a = .error e := by
  cases x <;> simp

/-! ## `while` -/

/-- `while (cond) body`, at most `n` rounds; `out` when the condition still holds after them. -/
def whileM (out : ε) (cond : σ → Bool) (body : σ → Except ε σ) : Nat → σ → Except ε σ
  | 0, s => if cond s then .error out else .ok s
  | n + 1, s => if cond s then body s >>= whileM out cond body n else .ok s

section While

variable {out : ε} {cond : σ → Bool} {body : σ → Except ε σ}

/-- A loop whose condition fails is over. -/
theorem whileM_done {s : σ} (h : cond s = false) : ∀ n, whileM out cond body n s = .ok s
  | 0 => by simp [whileM, h]
  | _ + 1 => by simp [whileM, h]

/-- One round. -/
theorem whileM_succ {s : σ} (h : cond s = true) (n : Nat) :
    whileM out cond body (n + 1) s = body s >>= whileM out cond body n := by
  simp [whileM, h]

/-- **Partial correctness**: what every round keeps holds at the end. -/
theorem whileM_inv (I : σ → Prop) (hbody : ∀ s s', I s → cond s = true → body s = .ok s' → I s') :
    ∀ n s s', I s → whileM out cond body n s = .ok s' → I s' ∧ cond s' = false := by
  intro n
  induction n with
  | zero =>
    intro s s' hI h
    cases hc : cond s with
    | false => rw [whileM_done hc] at h; cases h; exact ⟨hI, hc⟩
    | true => simp [whileM, hc] at h
  | succ n ih =>
    intro s s' hI h
    cases hc : cond s with
    | false => rw [whileM_done hc] at h; cases h; exact ⟨hI, hc⟩
    | true =>
      rw [whileM_succ hc, bind_eq_ok] at h
      obtain ⟨s₁, h₁, h₂⟩ := h
      exact ih s₁ s' (hbody s s₁ hI hc h₁) h₂

/-- **A loop that never ends**: the condition holds for ever and no round fails. -/
theorem whileM_stuck (I : σ → Prop) (hbody : ∀ s, I s → cond s = true ∧ ∃ s', body s = .ok s' ∧ I s') :
    ∀ n s, I s → whileM out cond body n s = .error out := by
  intro n
  induction n with
  | zero => intro s hI; simp [whileM, (hbody s hI).1]
  | succ n ih =>
    intro s hI
    obtain ⟨hc, s', hs', hI'⟩ := hbody s hI
    rw [whileM_succ hc, hs']
    exact ih s' hI'

/-- More rounds do not change what a loop returns. -/
theorem whileM_mono {n m : Nat} (hnm : n ≤ m) {s s' : σ} (h : whileM out cond body n s = .ok s') :
    whileM out cond body m s = .ok s' := by
  induction n generalizing m s with
  | zero =>
    cases hc : cond s with
    | false => rw [whileM_done hc] at h ⊢; exact h
    | true => simp [whileM, hc] at h
  | succ n ih =>
    cases hc : cond s with
    | false => rw [whileM_done hc] at h ⊢; exact h
    | true =>
      obtain ⟨k, rfl⟩ : ∃ k, m = k + 1 := ⟨m - 1, by omega⟩
      rw [whileM_succ hc, bind_eq_ok] at h ⊢
      obtain ⟨s₁, h₁, h₂⟩ := h
      exact ⟨s₁, h₁, ih (by omega) h₂⟩

/-- `t` is where the loop is after `k` rounds from `s`. -/
inductive Rounds (cond : σ → Bool) (body : σ → Except ε σ) (s : σ) : Nat → σ → Prop
  | zero : Rounds cond body s 0 s
  | succ {k : Nat} {t u : σ} : Rounds cond body s k t → cond t = true → body t = .ok u → Rounds cond body s (k + 1) u

/-- The loop goes on from where it is. -/
theorem whileM_rounds {s t : σ} {k : Nat} (h : Rounds cond body s k t) :
    ∀ m, whileM out cond body (k + m) s = whileM out cond body m t := by
  induction h with
  | zero => intro m; rw [Nat.zero_add]
  | succ _ hc hb ih =>
    intro m
    rw [show ∀ k, k + 1 + m = k + (m + 1) by omega, ih, whileM_succ hc, hb]
    rfl

/-- A round in front. -/
theorem Rounds.cons {s s' t : σ} {k : Nat} (h : Rounds cond body s' k t) (hc : cond s = true)
    (hb : body s = .ok s') : Rounds cond body s (k + 1) t := by
  induction h with
  | zero => exact .succ .zero hc hb
  | succ _ hc' hb' ih => exact .succ ih hc' hb'

/-- What every round keeps holds wherever the loop is. -/
theorem Rounds.inv {s t : σ} {k : Nat} (I : σ → Prop) (h : Rounds cond body s k t) (hs : I s)
    (hbody : ∀ s s', I s → cond s = true → body s = .ok s' → I s') : I t := by
  induction h with
  | zero => exact hs
  | succ _ hc hb ih => exact hbody _ _ ih hc hb

/-- Without its condition there is no round. -/
theorem Rounds.stays {s t : σ} {k : Nat} (h : Rounds cond body s k t) (hc : cond s = false) : t = s := by
  apply h.inv (· = s) rfl
  rintro u u' rfl hcond -
  rw [hc] at hcond
  cases hcond

/-- A loop fails where a round of it does. -/
theorem whileM_fails {s t : σ} {k n : Nat} {e : ε} (h : Rounds cond body s k t) (hk : k < n) (hc : cond t = true)
    (hb : body t = .error e) : whileM out cond body n s = .error e := by
  obtain ⟨m, rfl⟩ : ∃ m, n = k + (m + 1) := ⟨n - k - 1, by omega⟩
  rw [whileM_rounds h, whileM_succ hc, hb]
  rfl

/-- A loop that fails runs out of rounds or fails where it is. -/
theorem whileM_error {e : ε} : ∀ {n : Nat} {s : σ}, whileM out cond body n s = .error e →
    e = out ∨ ∃ k t, Rounds cond body s k t ∧ cond t = true ∧ body t = .error e := by
  intro n
  induction n with
  | zero =>
    intro s h
    cases hc : cond s with
    | false => rw [whileM_done hc] at h; cases h
    | true =>
      rw [whileM, if_pos hc] at h
      cases h
      exact .inl rfl
  | succ n ih =>
    intro s h
    cases hc : cond s with
    | false => rw [whileM_done hc] at h; cases h
    | true =>
      rw [whileM_succ hc, bind_eq_error] at h
      rcases h with hb | ⟨s', hb, h'⟩
      · exact .inr ⟨0, s, .zero, hc, hb⟩
      · rcases ih h' with hout | ⟨k, t, hr, ht, hbt⟩
        · exact .inl hout
        · exact .inr ⟨k + 1, t, hr.cons hc hb, ht, hbt⟩

end While

/-! ## Failures that do not happen -/

/-- The run does not fail with `e`. -/
def Avoids (e : ε) (x : Except ε α) : Prop := x ≠ .error e

section Avoids

variable {e : ε} {x y : Except ε α}

theorem avoids_ok (a : α) : Avoids e (.ok a : Except ε α) := fun h => nomatch h

theorem Avoids.bind {f : α → Except ε β} (hx : Avoids e x) (hf : ∀ a, x = .ok a → Avoids e (f a)) :
    Avoids e (x >>= f) := by
  intro h
  rcases bind_eq_error.mp h with h | ⟨a, ha, h⟩
  · exact hx h
  · exact hf a ha h

theorem avoids_ite {p : Prop} [Decidable p] (ht : p → Avoids e x) (hf : ¬p → Avoids e y) :
    Avoids e (if p then x else y) := by
  split
  · exact ht ‹_›
  · exact hf ‹_›

/-- A loop, if no round does and it does not run out of rounds in that way. -/
theorem whileM_avoids {out : ε} {cond : σ → Bool} {body : σ → Except ε σ} (hout : e ≠ out)
    (hbody : ∀ s, Avoids e (body s)) (n : Nat) (s : σ) : Avoids e (whileM out cond body n s) := by
  intro h
  rcases whileM_error h with h | ⟨k, t, -, -, h⟩
  · exact hout h
  · exact hbody t h

end Avoids

/-! ## Two runs side by side -/

/-- Both return, with related results, or both fail in the same way. -/
def Agree (R : α → β → Prop) : Except ε α → Except ε β → Prop
  | .ok a, .ok b => R a b
  | .error e, .error e' => e = e'
  | _, _ => False

@[simp] theorem agree_ok {R : α → β → Prop} {a : α} {b : β} :
    Agree R (.ok a : Except ε α) (.ok b) ↔ R a b := Iff.rfl

/-- Equal runs agree when the relation holds of a result and itself. -/
theorem agree_refl {R : α → α → Prop} (x : Except ε α) (h : ∀ a, x = .ok a → R a a) : Agree R x x := by
  cases x with
  | error e => rfl
  | ok a => exact h a rfl

/-- Two runs that branch in the same way. -/
theorem agree_ite {R : α → β → Prop} {p : Prop} [Decidable p] {x x' : Except ε α} {y y' : Except ε β}
    (ht : p → Agree R x y) (hf : ¬p → Agree R x' y') : Agree R (if p then x else x') (if p then y else y') := by
  split
  · exact ht ‹_›
  · exact hf ‹_›

theorem Agree.bind {R : α → β → Prop} {S : γ → δ → Prop} {x : Except ε α} {y : Except ε β}
    {f : α → Except ε γ} {g : β → Except ε δ} (h : Agree R x y)
    (hfg : ∀ a b, R a b → Agree S (f a) (g b)) : Agree S (x >>= f) (y >>= g) := by
  cases x <;> cases y
  · exact h
  · cases h
  · cases h
  · exact hfg _ _ h

/-- Runs that agree, with what they return. -/
theorem Agree.results {R : α → β → Prop} {x : Except ε α} {y : Except ε β} (h : Agree R x y) :
    Agree (fun a b => R a b ∧ x = .ok a ∧ y = .ok b) x y := by
  cases x <;> cases y
  · exact h
  · cases h
  · cases h
  · exact ⟨h, rfl, rfl⟩

/-- Runs that go on with the same. -/
theorem Agree.bind_eq {R : α → β → Prop} {x : Except ε α} {y : Except ε β} {f : α → Except ε γ}
    {g : β → Except ε γ} (h : Agree R x y) (hfg : ∀ a b, R a b → f a = g b) : x >>= f = y >>= g := by
  cases x <;> cases y
  · exact congrArg Except.error h
  · cases h
  · cases h
  · exact hfg _ _ h

/-- What a function makes of two results that agree. -/
theorem Agree.map_eq {R : α → β → Prop} {x : Except ε α} {y : Except ε β} {f : α → γ} {g : β → γ} (h : Agree R x y)
    (hfg : ∀ a b, R a b → g b = f a) : y.map g = x.map f := by
  cases x <;> cases y
  · exact congrArg Except.error (Eq.symm h)
  · cases h
  · cases h
  · exact congrArg Except.ok (hfg _ _ h)

/-- Two folds over one list whose steps agree have results that agree. -/
theorem foldlM_agree {f : σ → α → Except ε σ} {g : τ → α → Except ε τ} (R : σ → τ → Prop) :
    ∀ (l : List α), (∀ a ∈ l, ∀ s t, R s t → Agree R (f s a) (g t a)) → ∀ s t, R s t →
      Agree R (l.foldlM f s) (l.foldlM g t)
  | [], _, _, _, h => h
  | a :: l, hstep, s, t, h => by
    simp only [List.foldlM_cons]
    exact (hstep a List.mem_cons_self s t h).bind fun s' t' h' =>
      foldlM_agree R l (fun b hb => hstep b (List.mem_cons_of_mem _ hb)) s' t' h'

/-! ## Runs that stop early -/

/-- The first run stops with `e`, or the two agree. -/
def Approx (e : ε) (R : α → β → Prop) (x : Except ε α) (y : Except ε β) : Prop := x = .error e ∨ Agree R x y

section Approx

variable {e : ε} {R : α → β → Prop} {S : γ → δ → Prop} {x : Except ε α} {y : Except ε β}

theorem Approx.agree (h : Approx e R x y) (hx : x ≠ .error e) : Agree R x y := h.resolve_left hx

theorem Approx.refl {R : α → α → Prop} (x : Except ε α) (h : ∀ a, x = .ok a → R a a) : Approx e R x x :=
  .inr (agree_refl x h)

theorem approx_ite {p : Prop} [Decidable p] {x' : Except ε α} {y' : Except ε β} (ht : p → Approx e R x y)
    (hf : ¬p → Approx e R x' y') : Approx e R (if p then x else x') (if p then y else y') := by
  split
  · exact ht ‹_›
  · exact hf ‹_›

theorem Approx.bind {f : α → Except ε γ} {g : β → Except ε δ} (h : Approx e R x y)
    (hfg : ∀ a b, R a b → Approx e S (f a) (g b)) : Approx e S (x >>= f) (y >>= g) := by
  rcases h with rfl | h
  · exact .inl rfl
  · cases x <;> cases y
    · exact .inr h
    · cases h
    · cases h
    · exact hfg _ _ h

/-- A loop whose rounds may stop early. -/
theorem whileM_approx {out : ε} {cond : σ → Bool} {body : σ → Except ε σ} {cond' : τ → Bool}
    {body' : τ → Except ε τ} (R : σ → τ → Prop) (hc : ∀ s t, R s t → cond s = cond' t)
    (hb : ∀ s t, R s t → cond s = true → Approx e R (body s) (body' t)) :
    ∀ n s t, R s t → Approx e R (whileM out cond body n s) (whileM out cond' body' n t) := by
  intro n
  induction n with
  | zero =>
    intro s t h
    cases hcs : cond s with
    | false => rw [whileM_done hcs, whileM_done (hc s t h ▸ hcs)]; exact .inr h
    | true => simp only [whileM, hcs, ← hc s t h, if_true]; exact .inr rfl
  | succ n ih =>
    intro s t h
    cases hcs : cond s with
    | false => rw [whileM_done hcs, whileM_done (hc s t h ▸ hcs)]; exact .inr h
    | true =>
      rw [whileM_succ hcs, whileM_succ (hc s t h ▸ hcs)]
      exact (hb s t h hcs).bind fun a b hab => ih a b hab

end Approx

/-- What every step of a fold keeps holds at its end. -/
theorem foldlM_inv {f : σ → α → Except ε σ} (I : σ → Prop) :
    ∀ (l : List α), (∀ a ∈ l, ∀ s s', I s → f s a = .ok s' → I s') → ∀ s s', I s → l.foldlM f s = .ok s' → I s'
  | [], _, s, s', hI, h => by
    simp only [List.foldlM_nil, pure_eq_ok, Except.ok.injEq] at h
    exact h ▸ hI
  | a :: l, hstep, s, s', hI, h => by
    rw [List.foldlM_cons, bind_eq_ok] at h
    obtain ⟨s₁, h₁, h₂⟩ := h
    exact foldlM_inv I l (fun b hb => hstep b (List.mem_cons_of_mem _ hb)) s₁ s'
      (hstep a List.mem_cons_self s s₁ hI h₁) h₂

/-- A fold returns when every step does and keeps what the next one needs. -/
theorem foldlM_total {f : σ → α → Except ε σ} (I : σ → Prop) (l : List α)
    (hstep : ∀ a ∈ l, ∀ s, I s → ∃ s', f s a = .ok s' ∧ I s') {s : σ} (hI : I s) :
    ∃ s', l.foldlM f s = .ok s' ∧ I s' := by
  induction l generalizing s with
  | nil => exact ⟨s, rfl, hI⟩
  | cons a l ih =>
    obtain ⟨s₁, e₁, h₁⟩ := hstep a List.mem_cons_self s hI
    obtain ⟨s₂, e₂, h₂⟩ := ih (fun b hb => hstep b (List.mem_cons_of_mem _ hb)) h₁
    refine ⟨s₂, ?_, h₂⟩
    rw [List.foldlM_cons, e₁, ok_bind, e₂]

/-- What the first of some elements brings about stays when no step undoes it. -/
theorem foldlM_first {f : σ → α → Except ε σ} (I J : σ → Prop) (p : α → Prop) (l : List α)
    (hother : ∀ a ∈ l, ¬p a → ∀ s, I s → ∃ s', f s a = .ok s' ∧ I s')
    (hfirst : ∀ a ∈ l, p a → ∀ s s', I s → f s a = .ok s' → J s')
    (hstay : ∀ a ∈ l, ∀ s s', J s → f s a = .ok s' → J s') (hex : ∃ a ∈ l, p a) {s s' : σ} (hI : I s)
    (e : l.foldlM f s = .ok s') : J s' := by
  induction l generalizing s with
  | nil =>
    obtain ⟨a, ha, -⟩ := hex
    cases ha
  | cons a l ih =>
    rw [List.foldlM_cons] at e
    obtain ⟨s₁, e₁, e₂⟩ := bind_eq_ok.mp e
    by_cases ha : p a
    · have hJ := hfirst a List.mem_cons_self ha s s₁ hI e₁
      exact foldlM_inv J l (fun b hb => hstay b (List.mem_cons_of_mem _ hb)) s₁ s' hJ e₂
    · obtain ⟨t, et, hI₁⟩ := hother a List.mem_cons_self ha s hI
      obtain rfl : t = s₁ := Except.ok.inj (et.symm.trans e₁)
      obtain ⟨b, hb, hpb⟩ := hex
      rcases List.mem_cons.mp hb with rfl | hb
      · exact absurd hpb ha
      · exact ih (fun b hb => hother b (List.mem_cons_of_mem _ hb)) (fun b hb => hfirst b (List.mem_cons_of_mem _ hb))
          (fun b hb => hstay b (List.mem_cons_of_mem _ hb)) ⟨b, hb, hpb⟩ hI₁ e₂

/-- A fold that stops at the first element without a property returns iff there is none and the fold does. -/
theorem foldlM_guard {f : σ → α → Except ε σ} {p : α → Prop} [DecidablePred p] {e : ε} :
    ∀ (l : List α) (s s' : σ), l.foldlM (fun s a => if p a then f s a else .error e) s = .ok s' ↔
      (∀ a ∈ l, p a) ∧ l.foldlM f s = .ok s'
  | [], s, s' => by simp
  | a :: l, s, s' => by
    rw [List.foldlM_cons, List.foldlM_cons]
    by_cases ha : p a
    · simp only [if_pos ha, bind_eq_ok, foldlM_guard l, List.forall_mem_cons]
      constructor
      · rintro ⟨s₁, h₁, hl, h₂⟩
        exact ⟨⟨ha, hl⟩, s₁, h₁, h₂⟩
      · rintro ⟨⟨-, hl⟩, s₁, h₁, h₂⟩
        exact ⟨s₁, h₁, hl, h₂⟩
    · simp only [if_neg ha, error_bind]
      constructor
      · intro h
        cases h
      · rintro ⟨hl, -⟩
        exact absurd (hl a List.mem_cons_self) ha

/-- A fold of a function that cannot fail. -/
theorem foldlM_ok {g : σ → α → σ} : ∀ (l : List α) (s : σ),
    l.foldlM (fun s a => (.ok (g s a) : Except ε σ)) s = .ok (l.foldl g s)
  | [], _ => rfl
  | a :: l, s => by rw [List.foldlM_cons, ok_bind, foldlM_ok l, List.foldl_cons]

end Loop

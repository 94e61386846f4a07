import Atolla.Source.Messages
import Atolla.Source.StateMachine

/-!
# A blocking make ends

`source_await_make_completion` updates the source every 5 ms. While it waits, the time since `first_borrow_time` stays
within the disconnect timeout, and between two BORROWs lies more than the retry timeout (`Waiting.update`). So the loop
ends, and there are only so many BORROWs (`blocking_make_ends`).
-/

set_option autoImplicit false

namespace Atolla

open Loop

/-! ## Rounds of the loop -/

/-- A round: what its update finds, and the readings of the clock in `source_manage_borrow_packet_loss` and in
`source_send_borrow`, as numbers of milliseconds that do not wrap. -/
structure Round where
  env : SourceEnv
  now : Nat
  borrow : Nat

/-- A round behind one that read the clock at `now` and then at `last`: it comes 5 ms later or more, and finds complete
messages of known types or nothing. -/
structure Round.Follows (now last : Nat) (r : Round) : Prop where
  sleep : now + 5 ≤ r.now
  wrap : r.now < now + 2 ^ 31
  read : last ≤ r.now ∧ r.now ≤ r.borrow
  manage : r.env.manage = UInt32.ofNat r.now
  send : r.env.borrow = UInt32.ofNat r.borrow
  brings : ∃ ms, r.env.Brings ms

/-- **Rounds of a loop** behind such a round. -/
def RoundsFrom (now last : Nat) : List Round → Prop
  | [] => True
  | r :: rs => r.Follows now last ∧ RoundsFrom r.now r.borrow rs

/-- When the rounds sent a BORROW: the socket is no longer the same. -/
def awaitTimes (H : Host) : List Round → Source → List Nat
  | [], _ => []
  | r :: rs, s =>
    if s.state = .stateWaiting then
      match sourceUpdate H r.env s with
      | .ok s' => (if s'.sock = s.sock then [] else [r.borrow]) ++ awaitTimes H rs s'
      | .error _ => []
    else []

/-- The timeouts of a source made from the spec. -/
def AtollaSourceSpec.disconnectTimeout (spec : AtollaSourceSpec) : Int :=
  if spec.disconnectTimeoutMs = 0 then Source.disconnectTimeoutMsDefault.toNat else spec.disconnectTimeoutMs

def AtollaSourceSpec.retryTimeout (spec : AtollaSourceSpec) : Int :=
  if spec.retryTimeoutMs = 0 then Source.retryTimeoutMsDefault.toNat else spec.retryTimeoutMs

/-! ## One round -/

/-- What the messages do not touch. -/
structure SameBorrow (s s' : Source) : Prop where
  disconnect : s'.disconnectTimeoutMs = s.disconnectTimeoutMs
  retry : s'.retryTimeoutMs = s.retryTimeoutMs
  first : s'.firstBorrowTime = s.firstBorrowTime
  last : s'.lastBorrowTime = s.lastBorrowTime
  sock : s'.sock = s.sock

section Update

variable {H : Host} {s s' : Source} {env : SourceEnv}

theorem SameBorrow.trans {s'' : Source} (h : SameBorrow s s') (h' : SameBorrow s' s'') : SameBorrow s s'' :=
  ⟨h'.disconnect.trans h.disconnect, h'.retry.trans h.retry, h'.first.trans h.first, h'.last.trans h.last,
    h'.sock.trans h.sock⟩

theorem sourceHandleWire_same (clock : Nat → UInt32) (s : Source) (p : Nat × WireMsg) :
    SameBorrow s (sourceHandleWire clock s p) := by
  unfold sourceHandleWire sourceLent
  split
  · split
    · exact ⟨rfl, rfl, rfl, rfl, rfl⟩
    · exact ⟨rfl, rfl, rfl, rfl, rfl⟩
    · exact ⟨rfl, rfl, rfl, rfl, rfl⟩
  · split
    · exact ⟨rfl, rfl, rfl, rfl, rfl⟩
    · exact ⟨rfl, rfl, rfl, rfl, rfl⟩

theorem foldl_sourceHandleWire_same (clock : Nat → UInt32) (ps : List (Nat × WireMsg)) (s : Source) :
    SameBorrow s (ps.foldl (sourceHandleWire clock) s) := by
  induction ps generalizing s with
  | nil => exact ⟨rfl, rfl, rfl, rfl, rfl⟩
  | cons p ps ih => exact (sourceHandleWire_same clock s p).trans (ih _)

/-- **The messages of a round** are handled. -/
theorem sourceReceive_known (h : SourceKept s) {ms : List WireMsg} (hms : env.Brings ms) :
    ∃ s', sourceReceive H env s = .ok s' ∧ SourceKept s' ∧ SameBorrow s s' := by
  obtain ⟨recvBuf, e⟩ := sourceReceive_brings H hms s
  have hsame := foldl_sourceHandleWire_same env.message (withOffsets 0 ms) { s with recvBuf := recvBuf }
  exact ⟨_, e, h.steps (sourceReceive_steps (c := .state env) e), hsame.disconnect, hsame.retry, hsame.first,
    hsame.last, hsame.sock⟩

/-- Behind `source_manage_borrow_packet_loss` an update returns. -/
theorem sourceEnsureLentResent_kept (h : SourceKept s) (env : SourceEnv) :
    ∃ s', sourceEnsureLentResent env s = .ok s' ∧ (s.state ≠ .stateOpen → s' = s) ∧
      (s.state = .stateOpen → s'.state ≠ .stateWaiting) ∧ s'.sock = s.sock := by
  unfold sourceEnsureLentResent
  by_cases ho : s.state = .stateOpen
  · obtain ⟨time, htime⟩ := Option.isSome_iff_exists.mp (h.lent ho)
    rw [if_pos ho, htime]
    show ∃ s', (if s.disconnectTimeoutMs ≤ env.ensure - time then _ else _) = _ ∧ _
    split
    · exact ⟨_, rfl, fun hne => absurd ho hne, fun _ => by simp [sourceFail], rfl⟩
    · exact ⟨_, rfl, fun hne => absurd ho hne, fun _ => by simp [ho], rfl⟩
  · rw [if_neg ho]
    exact ⟨s, rfl, fun _ => rfl, fun h => absurd h ho, rfl⟩

end Update

/-- **A source that waits** behind a round: `first_borrow_time` was read at `f`, `last_borrow_time` at `ℓ`, and behind
the first BORROW there were `k` more. -/
structure Waiting (f D R : Nat) (s : Source) (now last ℓ k : Nat) : Prop where
  kept : SourceKept s
  waits : s.state = .stateWaiting
  disconnect : s.disconnectTimeoutMs.toNat = D
  retry : s.retryTimeoutMs.toNat = R
  firstTime : s.firstBorrowTime = UInt32.ofNat f
  lastTime : s.lastBorrowTime = UInt32.ofNat ℓ
  read : f ≤ now ∧ now ≤ f + D ∧ ℓ ≤ last
  spaced : f + k * (R + 1) ≤ ℓ
  early : k * (R + 1) ≤ D

/-- A time that has passed, by a clock that wraps. -/
theorem toNat_elapsed {a b : Nat} (h : a ≤ b) (hlt : b - a < 2 ^ 32) :
    (UInt32.ofNat b - UInt32.ofNat a).toNat = b - a := by
  rw [UInt32.toNat_sub, UInt32.toNat_ofNat', UInt32.toNat_ofNat']
  omega

section Await

variable {H : Host} {f D R : Nat} {s s' : Source} {now last ℓ k : Nat} {r : Round} {rs : List Round}

/-- The messages of a round leave a source waiting, or it no longer waits. -/
theorem Waiting.same (h : Waiting f D R s now last ℓ k) (hk : SourceKept s') (hsame : SameBorrow s s')
    (hw : s'.state = .stateWaiting) : Waiting f D R s' now last ℓ k where
  kept := hk
  waits := hw
  disconnect := by rw [hsame.disconnect, h.disconnect]
  retry := by rw [hsame.retry, h.retry]
  firstTime := hsame.first.trans h.firstTime
  lastTime := hsame.last.trans h.lastTime
  read := h.read
  spaced := h.spaced
  early := h.early

/-- Time passes. -/
theorem Waiting.later (h : Waiting f D R s now last ℓ k) {now' last' : Nat} (hnow : now ≤ now') (hend : now' ≤ f + D)
    (hlast : last ≤ last') : Waiting f D R s now' last' ℓ k :=
  { h with read := ⟨h.read.1.trans hnow, hend, h.read.2.2.trans hlast⟩ }

/-- **One more BORROW**, later than the retry timeout behind the last one. -/
theorem Waiting.resend (h : Waiting f D R s now last ℓ k) {b : Nat} (hlate : ℓ + R < now) (hb : now ≤ b) (sent : Bool) :
    ∃ s', sourceSendBorrow H (UInt32.ofNat b) sent s = .ok s' ∧ Waiting f D R s' now b b (k + 1) ∧
      (s'.sock = s.sock ∨ ∃ bytes, s'.sock = s.sock ++ [bytes]) := by
  obtain ⟨hfirst, hend, -⟩ := h.read
  have hspaced := h.spaced
  have hmore : (k + 1) * (R + 1) = k * (R + 1) + (R + 1) := Nat.succ_mul k (R + 1)
  obtain ⟨builder, e, -⟩ := sourceSendBorrow_spec H h.kept.builder (UInt32.ofNat b) sent
  refine ⟨_, e, ⟨h.kept.sendBorrow e, h.waits, h.disconnect, h.retry, h.firstTime, rfl, ⟨hfirst, hend, Nat.le_refl b⟩,
    ?_, ?_⟩, ?_⟩
  · omega
  · omega
  · cases sent with
    | false => exact .inl (List.append_nil _)
    | true => exact .inr ⟨_, rfl⟩

/-- **A round** leaves a source that waits with no more BORROW, or with one more that comes later than the retry
timeout, or the source no longer waits. -/
theorem Waiting.update (h : Waiting f D R s now last ℓ k) (hD : D < 2 ^ 31) (hr : r.Follows now last) :
    ∃ s', sourceUpdate H r.env s = .ok s' ∧
      ((s'.state ≠ .stateWaiting ∧ s'.sock = s.sock) ∨
        (Waiting f D R s' r.now r.borrow ℓ k ∧ s'.sock = s.sock) ∨
        (Waiting f D R s' r.now r.borrow r.borrow (k + 1) ∧ ℓ + R < r.now ∧
          (s'.sock = s.sock ∨ ∃ bytes, s'.sock = s.sock ++ [bytes]))) := by
  obtain ⟨hsleep, hwrap, hread, hmanage, hborrow, ms, hms⟩ := hr
  obtain ⟨hfirst, hearly, hlast⟩ := h.read
  have hspaced := h.spaced
  obtain ⟨s₁, e₁, hk₁, hsame⟩ := sourceReceive_known (H := H) h.kept hms
  rw [sourceUpdate, e₁, ok_bind, sourceManageBorrowPacketLoss]
  by_cases hw : s₁.state = .stateWaiting
  · have h₁ := h.same hk₁ hsame hw
    -- what the clock says
    have hsince : (r.env.manage - s₁.firstBorrowTime).toNat = r.now - f := by
      rw [hmanage, h₁.firstTime, toNat_elapsed (by omega) (by omega)]
    have hsinceLast : (r.env.manage - s₁.lastBorrowTime).toNat = r.now - ℓ := by
      rw [hmanage, h₁.lastTime, toNat_elapsed (by omega) (by omega)]
    rw [if_pos hw]
    by_cases hover : s₁.disconnectTimeoutMs < r.env.manage - s₁.firstBorrowTime
    · rw [if_pos hover, ok_bind]
      obtain ⟨s₂, e₂, hsame₂, -, hsock⟩ := sourceEnsureLentResent_kept (hk₁.fail _) r.env
      have hfail : s₂.state ≠ .stateWaiting := by
        rw [hsame₂ (by simp [sourceFail])]
        simp [sourceFail]
      exact ⟨s₂, e₂, .inl ⟨hfail, hsock.trans hsame.sock⟩⟩
    · rw [if_neg hover]
      rw [UInt32.lt_iff_toNat_lt, h₁.disconnect, hsince] at hover
      have hnow := h₁.later (show now ≤ r.now by omega) (by omega) (show last ≤ r.borrow by omega)
      by_cases hretry : s₁.retryTimeoutMs < r.env.manage - s₁.lastBorrowTime
      · rw [if_pos hretry, hborrow]
        rw [UInt32.lt_iff_toNat_lt, h₁.retry, hsinceLast] at hretry
        have hlate : ℓ + R < r.now := by omega
        obtain ⟨s₂, e₂, h₂, hsent⟩ := hnow.resend (H := H) hlate hread.2 r.env.borrowSent
        obtain ⟨s₃, e₃, hsame₃, -, -⟩ := sourceEnsureLentResent_kept h₂.kept r.env
        rw [e₂, ok_bind]
        obtain rfl := hsame₃ (by simp [h₂.waits])
        rw [hsame.sock] at hsent
        exact ⟨s₃, e₃, .inr (.inr ⟨h₂, hlate, hsent⟩)⟩
      · rw [if_neg hretry, ok_bind]
        obtain ⟨s₂, e₂, hsame₂, -, hsock⟩ := sourceEnsureLentResent_kept hk₁ r.env
        obtain rfl := hsame₂ (by simp [hw])
        exact ⟨s₂, e₂, .inr (.inl ⟨hnow, hsame.sock⟩)⟩
  · rw [if_neg hw, ok_bind]
    obtain ⟨s₂, e₂, hsame₂, hopen, hsock⟩ := sourceEnsureLentResent_kept hk₁ r.env
    refine ⟨s₂, e₂, .inl ⟨?_, hsock.trans hsame.sock⟩⟩
    by_cases ho : s₁.state = .stateOpen
    · exact hopen ho
    · rw [hsame₂ ho]
      exact hw

theorem awaitTimes_left (rs : List Round) (hs : s.state ≠ .stateWaiting) : awaitTimes H rs s = [] := by
  cases rs with
  | nil => rfl
  | cons r rs => rw [awaitTimes, if_neg hs]

theorem sourceAwaitMakeCompletion_left (envs : List SourceEnv) (hs : s.state ≠ .stateWaiting) :
    sourceAwaitMakeCompletion H envs s = .ok s := by
  cases envs with
  | nil => rw [sourceAwaitMakeCompletion, if_neg hs]
  | cons env envs => rw [sourceAwaitMakeCompletion, if_neg hs]

/-- Rounds behind the end of the loop make no difference. -/
theorem sourceAwaitMakeCompletion_append {envs : List SourceEnv} {s' : Source} (envs' : List SourceEnv)
    (e : sourceAwaitMakeCompletion H envs s = .ok s') : sourceAwaitMakeCompletion H (envs ++ envs') s = .ok s' := by
  induction envs generalizing s with
  | nil =>
    rw [sourceAwaitMakeCompletion] at e
    split at e
    · cases e
    · cases e
      exact sourceAwaitMakeCompletion_left _ ‹_›
  | cons env envs ih =>
    rw [sourceAwaitMakeCompletion] at e
    rw [List.cons_append, sourceAwaitMakeCompletion]
    split at e
    · obtain ⟨s₁, h₁, e⟩ := bind_eq_ok.mp e
      rw [if_pos ‹_›, h₁, ok_bind]
      exact ih e
    · rw [if_neg ‹_›]
      exact e

theorem RoundsFrom.take (n : Nat) (h : RoundsFrom now last rs) : RoundsFrom now last (rs.take n) := by
  induction rs generalizing now last n with
  | nil =>
    rw [List.take_nil]
    trivial
  | cons r rs ih =>
    cases n with
    | zero => trivial
    | succ n =>
      exact ⟨h.1, ih n h.2⟩

/-- **The BORROWs of the loop** lie more than the retry timeout apart, and so there are few. -/
theorem Waiting.spaced_times (h : Waiting f D R s now last ℓ k) (hD : D < 2 ^ 31) (hrs : RoundsFrom now last rs) :
    (k + (awaitTimes H rs s).length) * (R + 1) ≤ D ∧ (∀ b ∈ awaitTimes H rs s, ℓ + R < b) ∧
      (awaitTimes H rs s).Pairwise (fun a b => a + R < b) := by
  induction rs generalizing s now last ℓ k with
  | nil => exact ⟨h.early, by simp [awaitTimes], .nil⟩
  | cons r rs ih =>
    obtain ⟨hr, hrest⟩ := hrs
    have hread := hr.read
    obtain ⟨s', e, ⟨hleft, hsock⟩ | ⟨hs', hsock⟩ | ⟨hs', hlate, hsock⟩⟩ := h.update (H := H) hD hr
    · rw [awaitTimes, if_pos h.waits, e]
      simp only [if_pos hsock, awaitTimes_left rs hleft, List.nil_append]
      exact ⟨h.early, by simp, .nil⟩
    · rw [awaitTimes, if_pos h.waits, e]
      simp only [if_pos hsock, List.nil_append]
      exact ih hs' hrest
    · rw [awaitTimes, if_pos h.waits, e]
      obtain ⟨hcount, hafter, hpairs⟩ := ih hs' hrest
      have hlater : ∀ b ∈ awaitTimes H rs s', ℓ + R < b := fun b hb => by
        have := hafter b hb
        omega
      rcases hsock with hsock | ⟨bytes, hsock⟩
      · simp only [if_pos hsock, List.nil_append]
        refine ⟨(Nat.mul_le_mul_right _ (by omega)).trans hcount, hlater, hpairs⟩
      · have hne : s'.sock ≠ s.sock := fun heq => by
          rw [hsock] at heq
          simp at heq
        simp only [if_neg hne, List.singleton_append, List.length_cons]
        refine ⟨?_, fun b hb => ?_, List.pairwise_cons.mpr ⟨hafter, hpairs⟩⟩
        · rw [Nat.add_comm _ 1, ← Nat.add_assoc]
          exact hcount
        · rcases List.mem_cons.mp hb with rfl | hb
          · omega
          · exact hlater b hb

/-- **The loop ends** when its rounds take longer than the disconnect timeout. -/
theorem Waiting.ends (h : Waiting f D R s now last ℓ k) (hD : D < 2 ^ 31) (hrs : RoundsFrom now last rs)
    (hlong : f + D < now + 5 * rs.length) :
    ∃ s', sourceAwaitMakeCompletion H (rs.map (·.env)) s = .ok s' ∧ s'.state ≠ .stateWaiting ∧
      s'.sock.length = s.sock.length + (awaitTimes H rs s).length := by
  induction rs generalizing s now last ℓ k with
  | nil =>
    -- it would have waited for too long
    have hread := h.read
    rw [List.length_nil] at hlong
    omega
  | cons r rs ih =>
    obtain ⟨hr, hrest⟩ := hrs
    have hsleep := hr.sleep
    rw [List.length_cons] at hlong
    obtain ⟨s', e, hcase⟩ := h.update (H := H) hD hr
    rw [List.map_cons, sourceAwaitMakeCompletion, if_pos h.waits, e, ok_bind, awaitTimes, if_pos h.waits, e]
    rcases hcase with ⟨hleft, hsock⟩ | ⟨hs', hsock⟩ | ⟨hs', -, hsock⟩
    · rw [sourceAwaitMakeCompletion_left _ hleft]
      simp only [if_pos hsock, awaitTimes_left rs hleft]
      exact ⟨s', rfl, hleft, by rw [hsock]; rfl⟩
    · obtain ⟨s'', e', hleft, hlength⟩ := ih hs' hrest (by omega)
      simp only [if_pos hsock, List.nil_append]
      exact ⟨s'', e', hleft, by rw [hlength, hsock]⟩
    · obtain ⟨s'', e', hleft, hlength⟩ := ih hs' hrest (by omega)
      refine ⟨s'', e', hleft, ?_⟩
      rcases hsock with hsock | ⟨bytes, hsock⟩
      · simp only [if_pos hsock, List.nil_append]
        rw [hlength, hsock]
      · have hne : s'.sock ≠ s.sock := fun heq => by
          rw [hsock] at heq
          simp at heq
        simp only [if_neg hne, List.singleton_append, List.length_cons]
        rw [hlength, hsock, List.length_append, List.length_singleton]
        omega

end Await

/-! ## A blocking make -/

/-- The timeouts of a spec are positive values of an `int`. -/
structure AtollaSourceSpec.Waits (spec : AtollaSourceSpec) : Prop where
  disconnect : 1 ≤ spec.disconnectTimeout ∧ IsInt spec.disconnectTimeout
  retry : 1 ≤ spec.retryTimeout ∧ IsInt spec.retryTimeout

/-- When a make sent its BORROWs, of which the first one came at `b₀`; `s₀` is the source in front of the loop. -/
def makeTimes (H : Host) (b₀ : Nat) (rs : List Round) (s₀ : Source) : List Nat :=
  (if s₀.sock = [] then [] else [b₀]) ++ awaitTimes H rs s₀

section Make

variable {H : Host} {spec : AtollaSourceSpec} {env : MakeEnv} {f b₀ : Nat} {rs : List Round}

theorem toNat_ofInt {x : Int} (h : 0 ≤ x ∧ IsInt x) : (UInt32.ofInt x).toNat = x.toNat := by
  obtain ⟨hpos, -, hmax⟩ := h
  rw [UInt32.ofInt, UInt32.toNat_ofNat']
  omega

theorem sourceFresh_disconnect (H : Host) (hs : spec.Waits) :
    (sourceFresh H spec).disconnectTimeoutMs.toNat = spec.disconnectTimeout.toNat := by
  rw [← toNat_ofInt ⟨by have := hs.disconnect.1; omega, hs.disconnect.2⟩, AtollaSourceSpec.disconnectTimeout]
  show (if spec.disconnectTimeoutMs = 0 then _ else _ : UInt32).toNat = _
  split
  · rfl
  · rfl

theorem sourceFresh_retry (H : Host) (hs : spec.Waits) :
    (sourceFresh H spec).retryTimeoutMs.toNat = spec.retryTimeout.toNat := by
  rw [← toNat_ofInt ⟨by have := hs.retry.1; omega, hs.retry.2⟩, AtollaSourceSpec.retryTimeout]
  show (if spec.retryTimeoutMs = 0 then _ else _ : UInt32).toNat = _
  split
  · rfl
  · rfl

/-- **In front of the loop** the source has failed, or waits behind its first BORROW. -/
theorem atollaSourceMake_first (hp : 0 ≤ spec.sinkPort ∧ spec.sinkPort < 65536) (hs : spec.Waits)
    (hfirst : env.first = UInt32.ofNat f) (hborrow : env.borrow = UInt32.ofNat b₀) (hle : f ≤ b₀) :
    ∃ s₀, atollaSourceMake H { spec with asyncMake := true } env = .ok s₀ ∧
      (spec.asyncMake = false → ∀ envs, atollaSourceMake H spec { env with updates := envs } =
        sourceAwaitMakeCompletion H envs s₀) ∧
      ((s₀.state = .stateError ∧ s₀.sock = []) ∨
        (Waiting f spec.disconnectTimeout.toNat spec.retryTimeout.toNat s₀ f b₀ b₀ 0 ∧
          (s₀.sock = [] ∨ ∃ bytes, s₀.sock = [bytes]))) := by
  have hstart : ∃ s₀, (if env.bound then
      if env.resolved then
        sourceSendBorrow H env.borrow env.borrowSent { sourceFresh H spec with firstBorrowTime := env.first }
      else .ok (sourceFail (sourceFresh H spec) "Sink hostname could not be resolved.")
    else .ok (sourceFail (sourceFresh H spec) "Sink could not bind to port.")) = .ok s₀ ∧
      ((s₀.state = .stateError ∧ s₀.sock = []) ∨
        (Waiting f spec.disconnectTimeout.toNat spec.retryTimeout.toNat s₀ f b₀ b₀ 0 ∧
          (s₀.sock = [] ∨ ∃ bytes, s₀.sock = [bytes]))) := by
    split
    · split
      · have hk := (sourceFresh_kept H spec).firstBorrow env.first
        obtain ⟨builder, e, -⟩ := sourceSendBorrow_spec H hk.builder env.borrow env.borrowSent
        refine ⟨_, e, .inr ⟨⟨hk.sendBorrow e, rfl, sourceFresh_disconnect H hs, sourceFresh_retry H hs, hfirst, hborrow,
          by omega, by omega, by omega⟩, ?_⟩⟩
        cases env.borrowSent with
        | false => exact .inl rfl
        | true => exact .inr ⟨_, rfl⟩
      · exact ⟨_, rfl, .inl ⟨rfl, rfl⟩⟩
    · exact ⟨_, rfl, .inl ⟨rfl, rfl⟩⟩
  obtain ⟨s₀, e, hcase⟩ := hstart
  refine ⟨s₀, ?_, fun hsync envs => ?_, hcase⟩
  · rw [atollaSourceMake_eq, assert_pos hp, ok_bind]
    exact bind_eq_ok.mpr ⟨s₀, e, rfl⟩
  · have hmake : atollaSourceMake H spec { env with updates := envs } = (.ok s₀ >>= fun source =>
        if spec.asyncMake then .ok source else sourceAwaitMakeCompletion H envs source) := by
      rw [atollaSourceMake_eq, assert_pos hp, ok_bind, ← e]
    rw [hmake, hsync]
    rfl

/-- **A blocking make ends** after at most one round for every 5 ms of the disconnect timeout and one more, open or
failed, and it sends one BORROW and at most one more for every retry timeout, which lie more than that apart. -/
theorem blocking_make_ends (hp : 0 ≤ spec.sinkPort ∧ spec.sinkPort < 65536) (hsync : spec.asyncMake = false)
    (hs : spec.Waits) (hfirst : env.first = UInt32.ofNat f) (hborrow : env.borrow = UInt32.ofNat b₀) (hle : f ≤ b₀)
    (hrs : RoundsFrom f b₀ rs) (hupdates : env.updates = rs.map (·.env))
    (hlength : spec.disconnectTimeout.toNat / 5 + 1 ≤ rs.length) :
    ∃ s₀ s, atollaSourceMake H { spec with asyncMake := true } env = .ok s₀ ∧
      atollaSourceMake H spec { env with updates := env.updates.take (spec.disconnectTimeout.toNat / 5 + 1) } = .ok s ∧
      atollaSourceMake H spec env = .ok s ∧
      (s.state = .stateOpen ∨ s.state = .stateError) ∧
      (∀ bytes ∈ s.sock, ∃ id, bytes = s.borrowBytes id) ∧
      s.sock.length = (makeTimes H b₀ rs s₀).length ∧
      (makeTimes H b₀ rs s₀).length ≤
        1 + spec.disconnectTimeout.toNat / (spec.retryTimeout.toNat + 1) ∧
      (makeTimes H b₀ rs s₀).Pairwise (fun a b => a + spec.retryTimeout.toNat < b) := by
  obtain ⟨s₀, hasync, hawait, hcase⟩ := atollaSourceMake_first (H := H) hp hs hfirst hborrow hle
  replace hawait := hawait hsync
  have hfull : atollaSourceMake H spec env = sourceAwaitMakeCompletion H (rs.map (·.env)) s₀ := by
    rw [← hawait, ← hupdates]
  have hborrows : ∀ s, atollaSourceMake H spec env = .ok s → ∀ bytes ∈ s.sock, ∃ id, bytes = s.borrowBytes id := by
    intro s e bytes hm
    obtain ⟨s₁, hu, -, hsock, -⟩ := atollaSourceMake_updated e
    obtain ⟨ids, hids, -⟩ := hu.sock
    rw [hids, hsock, List.nil_append] at hm
    obtain ⟨id, -, rfl⟩ := List.mem_map.mp hm
    exact ⟨id, by rw [hu.borrowBytes]⟩
  rcases hcase with ⟨herr, hsock⟩ | ⟨hw, hsock⟩
  · -- no BORROW was sent, and no round is made
    have hleft : s₀.state ≠ .stateWaiting := by simp [herr]
    rw [sourceAwaitMakeCompletion_left _ hleft] at hfull
    refine ⟨s₀, s₀, hasync, ?_, hfull, .inr herr, hborrows s₀ hfull, ?_⟩
    · rw [hawait]
      exact sourceAwaitMakeCompletion_left _ hleft
    · rw [makeTimes, if_pos hsock, awaitTimes_left rs hleft, hsock]
      exact ⟨rfl, Nat.zero_le _, .nil⟩
  · have hD : spec.disconnectTimeout.toNat < 2 ^ 31 := by
      have := hs.disconnect.2.2
      omega
    have hlong : f + spec.disconnectTimeout.toNat < f + 5 * (spec.disconnectTimeout.toNat / 5 + 1) := by omega
    obtain ⟨s, e, hleft, hsent⟩ := hw.ends (H := H) hD hrs (by omega)
    obtain ⟨s', e', -, -⟩ := hw.ends (H := H) hD (hrs.take (spec.disconnectTimeout.toNat / 5 + 1))
      (by rw [List.length_take, Nat.min_eq_left hlength]; exact hlong)
    obtain ⟨hcount, hafter, hpairs⟩ := hw.spaced_times (H := H) hD hrs
    -- the rounds behind the end of the loop make no difference
    have hmore := sourceAwaitMakeCompletion_append ((rs.drop (spec.disconnectTimeout.toNat / 5 + 1)).map (·.env)) e'
    rw [← List.map_append, List.take_append_drop, e, Except.ok.injEq] at hmore
    subst hmore
    have hdiv : (awaitTimes H rs s₀).length ≤ spec.disconnectTimeout.toNat / (spec.retryTimeout.toNat + 1) := by
      rw [Nat.le_div_iff_mul_le (by omega)]
      simpa using hcount
    rw [e] at hfull
    refine ⟨s₀, s, hasync, ?_, hfull, ?_, hborrows s hfull, ?_⟩
    · rw [hawait, hupdates, ← List.map_take]
      exact e'
    · cases hst : s.state with
      | stateWaiting => exact absurd hst hleft
      | stateOpen => exact .inl rfl
      | stateError => exact .inr rfl
    · rw [makeTimes, hsent]
      rcases hsock with hsock | ⟨bytes, hsock⟩
      · rw [if_pos hsock, hsock, List.nil_append, List.length_nil, Nat.zero_add]
        exact ⟨rfl, by omega, hpairs⟩
      · rw [if_neg (by simp [hsock]), hsock, List.singleton_append, List.length_cons, List.length_nil, List.length_cons]
        exact ⟨by omega, by omega, List.pairwise_cons.mpr ⟨hafter, hpairs⟩⟩

end Make

/-- A round at a time that finds nothing. -/
def exampleRound (t : Nat) : Round :=
  ⟨⟨none, fun _ => UInt32.ofNat t, UInt32.ofNat t, UInt32.ofNat t, true, UInt32.ofNat t⟩, t, t⟩

theorem exampleRound_follows {now t : Nat} (h : now + 5 ≤ t) (hlt : t < now + 2 ^ 31) :
    (exampleRound t).Follows now now :=
  ⟨h, hlt, ⟨by show now ≤ t; omega, Nat.le_refl t⟩, rfl, rfl, [], rfl, by decide, by simp, by simp⟩

/-- A spec with short timeouts, and a make that gets no answer in three rounds. -/
def exampleBlocking : AtollaSourceSpec :=
  { exampleSpec 20 with retryTimeoutMs := 4, disconnectTimeoutMs := 10, asyncMake := false }

def exampleRounds : List Round := [exampleRound 1005, exampleRound 1010, exampleRound 1015]

def exampleUnanswered : MakeEnv := ⟨true, true, 1000, 1000, true, exampleRounds.map (·.env)⟩

/-- Its three rounds are enough, and there are three BORROWs at most. -/
theorem blocking_make_unanswered :
    ∃ s₀ s, atollaSourceMake exampleHost exampleBlocking exampleUnanswered = .ok s ∧
      (s.state = .stateOpen ∨ s.state = .stateError) ∧
      s.sock.length = (makeTimes exampleHost 1000 exampleRounds s₀).length ∧
      (makeTimes exampleHost 1000 exampleRounds s₀).length ≤ 1 + 10 / (4 + 1) := by
  have hrs : RoundsFrom 1000 1000 exampleRounds :=
    ⟨exampleRound_follows (by decide) (by decide), exampleRound_follows (by decide) (by decide),
      exampleRound_follows (by decide) (by decide), trivial⟩
  have hs : exampleBlocking.Waits := ⟨by decide, by decide⟩
  have hp : 0 ≤ exampleBlocking.sinkPort ∧ exampleBlocking.sinkPort < 65536 := by decide
  have hlength : exampleBlocking.disconnectTimeout.toNat / 5 + 1 ≤ exampleRounds.length := by decide
  have hfirst : exampleUnanswered.first = UInt32.ofNat 1000 := rfl
  have hborrow : exampleUnanswered.borrow = UInt32.ofNat 1000 := rfl
  obtain ⟨s₀, s, -, -, e, hstate, -, hsock, hcount, -⟩ :=
    blocking_make_ends (H := exampleHost) hp rfl hs hfirst hborrow (Nat.le_refl 1000) hrs rfl hlength
  exact ⟨s₀, s, e, hstate, hsock, hcount⟩

end Atolla

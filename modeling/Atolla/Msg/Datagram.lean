import Atolla.Msg.Iter

/-!
# Datagrams of complete messages

Both peers go through a received datagram with one and the same loop (`msgLoop`). Over complete messages it is a fold
over the messages (`msgLoop_complete`); each comes with the offset at which it starts. Over any other bytes it goes
wherever the iterator does (`MsgWalk`).
-/

set_option autoImplicit false

namespace Atolla

open Loop

/-- A complete message of any type. -/
structure WireMsg where
  typeByte : UInt8
  id : UInt16
  payload : Bytes
  payload_le : payload.length ≤ 65535

theorem nil_le : ([] : Bytes).length ≤ 65535 := Nat.zero_le _

/-- The bytes of a complete message. -/
def WireMsg.bytes (m : WireMsg) : Bytes := encode m.typeByte m.id m.payload

@[simp] theorem WireMsg.length_bytes (m : WireMsg) : m.bytes.length = 5 + m.payload.length := length_encode ..

/-- Complete messages one behind the other. -/
def wire (ms : List WireMsg) : Bytes := ms.flatMap WireMsg.bytes

theorem WireMsg.bytes_ne_nil (m : WireMsg) : m.bytes ≠ [] := by simp [WireMsg.bytes, encode]

@[simp] theorem wire_nil : wire [] = [] := rfl

@[simp] theorem wire_cons (m : WireMsg) (ms : List WireMsg) : wire (m :: ms) = m.bytes ++ wire ms := rfl

theorem wire_ne_nil : ∀ {ms : List WireMsg}, ms ≠ [] → wire ms ≠ []
  | [], h => absurd rfl h
  | m :: _, _ => fun h => m.bytes_ne_nil (List.append_eq_nil_iff.mp h).1

/-- The messages with the offsets at which they start, the first at `o`. -/
def withOffsets : Nat → List WireMsg → List (Nat × WireMsg)
  | _, [] => []
  | o, m :: ms => (o, m) :: withOffsets (o + (5 + m.payload.length)) ms

theorem mem_of_mem_withOffsets : ∀ {o : Nat} {ms : List WireMsg} {p : Nat × WireMsg}, p ∈ withOffsets o ms → p.2 ∈ ms
  | _, [], _, h => by cases h
  | _, m :: ms, p, h => by
    rcases List.mem_cons.mp h with rfl | h
    · exact List.mem_cons_self
    · exact List.mem_cons_of_mem _ (mem_of_mem_withOffsets h)

theorem map_snd_withOffsets : ∀ (o : Nat) (ms : List WireMsg), (withOffsets o ms).map (·.2) = ms
  | _, [] => rfl
  | _, m :: ms => by rw [withOffsets, List.map_cons, map_snd_withOffsets]

/-! ## The loop over the messages of a buffer -/

section Loop

variable {σ : Type} (H : Host) (body : σ → MsgIter → Run σ)

/-- `body`, then `msg_iter_next`. -/
def msgRound (p : σ × MsgIter) : Run (σ × MsgIter) := do
  let s ← body p.1 p.2
  let iter ← msgIterNext H p.2
  return (s, iter)

/-- `for(; msg_iter_has_msg(&iter); msg_iter_next(&iter)) body`. Every round advances, so `rounds` bytes are enough
for a buffer of `rounds` bytes. -/
def msgLoop (rounds : Nat) (s : σ) (iter : MsgIter) : Run (σ × MsgIter) :=
  whileM .diverges (fun p => msgIterHasMsg p.2) (msgRound H body) rounds (s, iter)

variable {H body}

/-- At a complete message: the body, and on to the next. -/
theorem msgLoop_step {n : Nat} {s : σ} {iter : MsgIter} {m : WireMsg} {rest : Bytes}
    (hm : msgIterHasMsg iter = true) (hc : iter.cur = m.bytes ++ rest) :
    msgLoop H body (n + 1) s iter =
      body s iter >>= fun s' =>
        msgLoop H body n s' { iter with msgBufStart := iter.msgBufStart + (5 + m.payload.length) } := by
  rw [msgLoop, whileM_succ (s := (s, iter)) hm, msgRound]
  cases body s iter with
  | error e => rfl
  | ok s' => rw [ok_bind, msgIterNext_encode H hm m.payload_le hc]; rfl

/-- Behind the last message the loop is over. -/
theorem msgLoop_nil (n : Nat) (s : σ) {iter : MsgIter} (hend : iter.msgBufEnd = iter.msgBufStart) :
    msgLoop H body n s iter = .ok (s, { iter with msgBufStart := iter.msgBufEnd }) := by
  have hm : msgIterHasMsg iter = false := by simp [msgIterHasMsg, hend]
  obtain ⟨buf, start, stop⟩ := iter
  obtain rfl : stop = start := hend
  exact whileM_done (s := (s, _)) hm n

variable (H body) in
/-- **At the first of some complete messages**: the body, and on to the others. -/
theorem msgLoop_cons {n : Nat} (s : σ) {iter : MsgIter} {m : WireMsg} {ms : List WireMsg} {rest : Bytes}
    (hn : (wire (m :: ms)).length ≤ n) (hc : iter.cur = wire (m :: ms) ++ rest)
    (hend : iter.msgBufEnd = iter.msgBufStart + (wire (m :: ms)).length) :
    ∃ k iter', msgIterHasMsg iter = true ∧ iter.cur = m.bytes ++ (wire ms ++ rest) ∧
      msgLoop H body n s iter = (body s iter >>= fun s' => msgLoop H body k s' iter') ∧
      iter' = { iter with msgBufStart := iter.msgBufStart + (5 + m.payload.length) } ∧ (wire ms).length ≤ k ∧
      iter'.cur = wire ms ++ rest ∧ iter'.msgBufEnd = iter'.msgBufStart + (wire ms).length := by
  rw [wire_cons, List.length_append, WireMsg.length_bytes] at hn hend
  obtain ⟨k, rfl⟩ : ∃ k, n = k + 1 := ⟨n - 1, by omega⟩
  have hm : msgIterHasMsg iter = true := by simp [msgIterHasMsg]; omega
  have hc' : iter.cur = m.bytes ++ (wire ms ++ rest) := by rw [hc, wire_cons, List.append_assoc]
  refine ⟨k, _, hm, hc', msgLoop_step hm hc', rfl, by omega, ?_, by simp only; omega⟩
  show iter.msgBuf.drop (iter.msgBufStart + (5 + m.payload.length)) = _
  rw [← List.drop_drop, ← WireMsg.length_bytes m]
  exact (congrArg (List.drop m.bytes.length) hc').trans List.drop_left

/-- A loop that returns is over, or goes one round. -/
theorem msgLoop_cases {n : Nat} {s s' : σ} {iter iter' : MsgIter} (e : msgLoop H body n s iter = .ok (s', iter')) :
    (msgIterHasMsg iter = false ∧ s' = s) ∨
      ∃ k s₁ iter₁, n = k + 1 ∧ msgIterHasMsg iter = true ∧ body s iter = .ok s₁ ∧ msgIterNext H iter = .ok iter₁ ∧
        msgLoop H body k s₁ iter₁ = .ok (s', iter') := by
  cases hm : msgIterHasMsg iter with
  | false =>
    rw [msgLoop, whileM_done (s := (s, iter)) hm] at e
    cases e
    exact .inl ⟨rfl, rfl⟩
  | true =>
    right
    cases n with
    | zero =>
      rw [msgLoop, whileM, if_pos hm] at e
      cases e
    | succ k =>
      rw [msgLoop, whileM_succ (s := (s, iter)) hm] at e
      obtain ⟨⟨s₁, iter₁⟩, hround, hrest⟩ := bind_eq_ok.mp e
      obtain ⟨s₂, hbody, hround⟩ := bind_eq_ok.mp hround
      obtain ⟨iter₂, hnext, hround⟩ := bind_eq_ok.mp hround
      cases hround
      exact ⟨k, s₁, iter₁, rfl, rfl, hbody, hnext, hrest⟩

/-- **Complete messages**: when the body at each message is `g`, the loop folds `g` over the messages, and ends exactly
behind the last. -/
theorem msgLoop_complete (g : σ → Nat × WireMsg → Run σ) :
    ∀ (ms : List WireMsg) (n : Nat) (s : σ) (iter : MsgIter) (rest : Bytes), (wire ms).length ≤ n →
      iter.cur = wire ms ++ rest → iter.msgBufEnd = iter.msgBufStart + (wire ms).length →
      (∀ m ∈ ms, ∀ s' o r, msgIterHasMsg { iter with msgBufStart := o } = true →
        iter.msgBuf.drop o = m.bytes ++ r → body s' { iter with msgBufStart := o } = g s' (o, m)) →
      msgLoop H body n s iter =
        ((withOffsets iter.msgBufStart ms).foldlM g s).map fun s' => (s', { iter with msgBufStart := iter.msgBufEnd })
  | [], n, s, iter, _, _, _, hend, _ => msgLoop_nil n s hend
  | m :: ms, n, s, iter, rest, hn, hc, hend, hbody => by
    obtain ⟨k, iter', hm, hc', e, rfl, hk, hnext, hend'⟩ := msgLoop_cons H body s hn hc hend
    rw [e, hbody m List.mem_cons_self s _ _ hm hc', withOffsets, List.foldlM_cons]
    cases g s (iter.msgBufStart, m) with
    | error e => rfl
    | ok s' =>
      exact msgLoop_complete g ms k s' _ rest hk hnext hend' fun m' hm' => hbody m' (List.mem_cons_of_mem _ hm')

end Loop

/-! ## Where the iterator goes -/

/-- The messages from an iterator on, as it finds them: where they start, and their types. -/
inductive MsgWalk (H : Host) : MsgIter → List (Nat × MsgType) → Prop
  | done {iter : MsgIter} : msgIterHasMsg iter = false → MsgWalk H iter []
  | step {iter iter' : MsgIter} {type : MsgType} {heard : List (Nat × MsgType)} : msgIterHasMsg iter = true →
      msgIterType iter = .ok type → msgIterNext H iter = .ok iter' → MsgWalk H iter' heard →
      MsgWalk H iter ((iter.msgBufStart, type) :: heard)

/-- The iterator finds one list of messages. -/
theorem MsgWalk.unique {H : Host} {iter : MsgIter} {l l' : List (Nat × MsgType)} (h : MsgWalk H iter l)
    (h' : MsgWalk H iter l') : l = l' := by
  induction h generalizing l' with
  | done hm =>
    cases h' with
    | done _ => rfl
    | step hm' => rw [hm] at hm'; cases hm'
  | step hm ht hn _ ih =>
    cases h' with
    | done hm' => rw [hm] at hm'; cases hm'
    | step _ ht' hn' hw' =>
      rw [ht, Except.ok.injEq] at ht'
      rw [hn, Except.ok.injEq] at hn'
      subst ht' hn'
      rw [ih hw']

end Atolla

import Atolla.Sink.Steps

/-!
# The history of the frames

What was shown followed by what is pending is what was stored, in every state that a sink passes; and every stored frame
was stored by a step on the way there, for an ENQUEUE of the endpoint that had borrowed the sink (`frames_kept`).
-/

set_option autoImplicit false

namespace Atolla

open Loop Relation

/-- **The step stores a frame**: that of an ENQUEUE whose sender has borrowed the sink. -/
def SinkStores (H : Host) (c : SinkCall) (s s' : Sink) : Prop :=
  s.state = .stateLent ∧ ∃ datagram iter frame, Enqueues H c datagram iter frame ∧
    udpEndpointEqual datagram.sender s.borrowerEndpoint = true ∧ sinkEnqueue s frame = .ok s' ∧
    s'.enqueued = s.enqueued ++ [s.patterned frame.bytes]

/-- Steps of any calls. -/
def SinkLeads (H : Host) : Sink → Sink → Prop := ReflTransGen fun s s' => ∃ c, SinkStep H c s s'

/-- A `sink_enqueue`: the frame is stored behind the others, or the ring is full and both sequences stay. -/
inductive EnqueueOutcome (s s' : Sink) (g : Bytes) : Prop
  | stored : s'.enqueued = s.enqueued ++ [g] → s'.pending = s.pending ++ [g] → s'.dequeued = s.dequeued →
      EnqueueOutcome s s' g
  | full : s.pending.length = pendingFramesCapacity → s'.enqueued = s.enqueued → s'.pending = s.pending →
      s'.dequeued = s.dequeued → EnqueueOutcome s s' g

/-- A dequeue: the oldest frame becomes the current one, or there is none and nothing changes. -/
inductive DequeueOutcome (s s' : Sink) : Bool → Prop
  | shown {g : Bytes} : s.pending = g :: s'.pending → s'.dequeued = s.dequeued ++ [g] → s'.currentFrame.data = g →
      s'.enqueued = s.enqueued → DequeueOutcome s s' true
  | empty : s.pending = [] → s' = s → DequeueOutcome s s' false

section History

variable {H : Host} {c : SinkCall} {lights : Nat} {s s' : Sink}

theorem sinkEnqueue_outcome (h : SinkInv s) {frame : MemBlock} (h3 : 0 < frame.size)
    (e : sinkEnqueue s frame = .ok s') : EnqueueOutcome s s' (s.patterned frame.bytes) := by
  by_cases hread : min s.frameLen frame.size ≤ frame.data.length
  · rcases Nat.lt_or_eq_of_le h.length_pending with hroom | hfull
    · obtain ⟨ring, e', -, hb⟩ := sinkEnqueue_room h h3 hread hroom
      rw [e', Except.ok.injEq] at e
      subst e
      exact .stored rfl hb rfl
    · rw [sinkEnqueue_full h h3 hread hfull, Except.ok.injEq] at e
      subst e
      exact .full hfull rfl rfl rfl
  · rw [sinkEnqueue, fill_received h h3, if_neg hread] at e
    cases e

theorem sinkDequeue_outcome (h : SinkInv s) {ok : Bool} (e : sinkDequeue s = .ok (ok, s')) :
    DequeueOutcome s s' ok := by
  cases hp : s.pending with
  | nil =>
    rw [sinkDequeue_nil h hp] at e
    cases e
    exact .empty hp rfl
  | cons g rest =>
    obtain ⟨ring, e', -, hb⟩ := sinkDequeue_cons h hp
    rw [e'] at e
    cases e
    have hrest : (s.popped g ring).pending = rest := hb
    exact .shown (by rw [hrest, hp]) rfl rfl rfl

/-- **A step** stores a frame or none. -/
theorem SinkStep.enqueued (h : SinkInv s) (hstep : SinkStep H c s s') :
    s'.enqueued = s.enqueued ∨ SinkStores H c s s' := by
  cases hstep with
  | receive _ => exact .inl rfl
  | fail e => exact .inl (sinkSendFailTo_session h e).enqueued
  | lent e => exact .inl (sinkSendLent_session h e).enqueued
  | grant _ _ _ _ => exact .inl rfl
  | drop => exact .inl rfl
  | store he hs hb h3 e =>
    cases sinkEnqueue_outcome h (by omega) e with
    | stored henq _ _ => exact .inr ⟨hs, _, _, _, he, hb, e, henq⟩
    | full _ henq _ _ => exact .inl henq
  | dequeue _ e =>
    left
    cases sinkDequeue_outcome h e with
    | shown _ _ _ henq => exact henq
    | empty _ hsame => rw [hsame]
  | origin _ => exact .inl rfl
  | recvTime _ => exact .inl rfl

/-- Every stored frame has the length of a frame. -/
theorem SinkPasses.length_enqueued (h : SinkPasses H lights s) : ∀ g ∈ s.enqueued, g.length = 3 * lights := by
  induction h with
  | make e hl =>
    obtain ⟨n, -, -, -, rfl⟩ := atollaSinkMake_fresh e
    exact fun g hg => by cases hg
  | @step s s' c hp hstep ih =>
    obtain ⟨hi, hl⟩ := hp.inv
    rcases hstep.enqueued hi with heq | ⟨-, datagram, iter, frame, -, -, -, heq⟩
    · rw [heq]
      exact ih
    · rw [heq]
      intro g hg
      rcases List.mem_append.mp hg with hg | hg
      · exact ih g hg
      · rw [List.mem_singleton.mp hg, Sink.patterned, Pattern.length_cycle, Sink.frameLen, hl, colorChannelCount,
          Nat.mul_comm]

/-- **Where a stored frame comes from**: a step on the way. -/
theorem SinkPasses.stored (h : SinkPasses H lights s) : ∀ k < s.enqueued.length, ∃ c t u,
    SinkPasses H lights t ∧ SinkStores H c t u ∧ SinkLeads H u s ∧ t.enqueued = s.enqueued.take k ∧
      u.enqueued = s.enqueued.take (k + 1) := by
  induction h with
  | make e hl =>
    obtain ⟨n, -, -, -, rfl⟩ := atollaSinkMake_fresh e
    exact fun k hk => absurd hk (Nat.not_lt_zero k)
  | @step s s' c hp hstep ih =>
    intro k hk
    rcases hstep.enqueued hp.inv.1 with heq | hstores
    · rw [heq] at hk ⊢
      obtain ⟨c', t, u, ht, hst, hlead, htk, huk⟩ := ih k hk
      exact ⟨c', t, u, ht, hst, hlead.tail ⟨c, hstep⟩, htk, huk⟩
    · have hlast := hstores
      obtain ⟨-, datagram, iter, frame, -, -, -, heq⟩ := hlast
      rw [heq, List.length_append, List.length_singleton] at hk
      rcases Nat.lt_or_eq_of_le (Nat.lt_succ_iff.mp hk) with hlt | heqk
      · obtain ⟨c', t, u, ht, hst, hlead, htk, huk⟩ := ih k hlt
        refine ⟨c', t, u, ht, hst, hlead.tail ⟨c, hstep⟩, ?_, ?_⟩
        · rw [heq, List.take_append_of_le_length (by omega)]
          exact htk
        · rw [heq, List.take_append_of_le_length (by omega)]
          exact huk
      · -- it is the frame of this very step
        refine ⟨c, s, s', hp, hstores, .refl, ?_, ?_⟩
        · rw [heq, heqk, List.take_append_of_le_length (Nat.le_refl _), List.take_length]
        · rw [List.take_of_length_le]
          rw [heq, List.length_append, List.length_singleton, heqk]

/-- **No frame is lost, duplicated, torn or reordered**: in every state that a sink passes the frames that were shown
and those that are pending are the stored ones, in their order and whole; each of them was stored, on the way, for an
ENQUEUE of the borrower; and what cannot be stored or shown changes nothing. -/
theorem frames_kept (h : SinkPasses H lights s) :
    s.dequeued ++ s.pending = s.enqueued ∧ (∀ g ∈ s.enqueued, g.length = 3 * lights) ∧
    (∀ k < s.enqueued.length, ∃ c t u, SinkPasses H lights t ∧ SinkStores H c t u ∧ SinkLeads H u s ∧
      t.enqueued = s.enqueued.take k ∧ u.enqueued = s.enqueued.take (k + 1)) ∧
    (∀ (frame : MemBlock) (s' : Sink), 3 ≤ frame.size → sinkEnqueue s frame = .ok s' →
      EnqueueOutcome s s' (s.patterned frame.bytes)) ∧
    (∀ ok s', sinkDequeue s = .ok (ok, s') → DequeueOutcome s s' ok) ∧
    ∀ c t, SinkCallPasses H s c t → ReflTransGen (SinkStep H c) s t ∧ SinkPasses H lights t := by
  obtain ⟨hi, -⟩ := h.inv
  exact ⟨hi.history, h.length_enqueued, h.stored, fun frame s' h3 e => sinkEnqueue_outcome hi (by omega) e,
    fun ok s' e => sinkDequeue_outcome hi e, fun c t ht => ⟨ht.steps, h.steps ht.steps⟩⟩

end History

/-- A sink of one light that has stored the first frame of a session. -/
theorem frames_kept_first :
    ∃ s g, SinkPasses exampleHost 1 s ∧ s.enqueued = [g] ∧ s.dequeued ++ s.pending = [g] ∧
      ∃ c t u, SinkStores exampleHost c t u ∧ SinkLeads exampleHost u s ∧ t.enqueued = [] := by
  obtain ⟨s, hp, -, henq, -⟩ := exists_firstFrame
  obtain ⟨hhist, -, hprov, -⟩ := frames_kept hp
  obtain ⟨c, t, u, -, hstores, hlead, htk, -⟩ := hprov 0 (by rw [henq]; exact Nat.one_pos)
  exact ⟨s, _, hp, henq, hhist.trans henq, c, t, u, hstores, hlead, htk⟩

end Atolla

import Atolla.Lib.Playback
import Atolla.Sink.Runs

/-!
# The clock of a session

A lent sink is a player (`Atolla.Lib.Playback`) of the frames available to the session: those pending when it began and
those stored since. Its `time_origin` is the time of the last frame dequeued (`PlaybackInv.running`), so that a get
dequeues what is due at its reading of the clock and no get before it makes a difference (`playback`).
-/

set_option autoImplicit false

namespace Atolla

open Loop Pattern Playback

/-! ## What does not touch the clock -/

/-- `s'` is `s` after some frames were stored, and nothing was shown. -/
structure Steady (s s' : Sink) : Prop where
  inv : SinkInv s'
  duration : s'.frameDurationMs = s.frameDurationMs
  origin : s'.timeOrigin = s.timeOrigin
  dequeued : s'.dequeued = s.dequeued
  enqueued : s.enqueued <+: s'.enqueued

section Steady

variable {s s' s'' : Sink}

theorem Steady.refl (h : SinkInv s) : Steady s s := ⟨h, rfl, rfl, rfl, List.prefix_rfl⟩

theorem Steady.trans (h : Steady s s') (h' : Steady s' s'') : Steady s s'' :=
  ⟨h'.inv, h'.duration.trans h.duration, h'.origin.trans h.origin, h'.dequeued.trans h.dequeued,
    h.enqueued.trans h'.enqueued⟩

theorem SameSession.steady (h : SameSession s s') (hi : SinkInv s') : Steady s s' :=
  ⟨hi, h.duration, h.origin, h.dequeued, h.enqueued ▸ List.prefix_rfl⟩

/-- One round of the loop of `sink_handle_enqueue`. -/
theorem sinkEnqueue_steady (h : SinkInv s) {frame : MemBlock} (h3 : 0 < frame.size)
    (e : sinkEnqueue s frame = .ok s') : Steady s s' := by
  have hi := sinkEnqueue_inv h h3 e
  by_cases hread : s.Reads frame
  · rcases Nat.lt_or_eq_of_le h.length_pending with hroom | hfull
    · obtain ⟨ring, e', -, -⟩ := sinkEnqueue_room h h3 hread hroom
      rw [e', Except.ok.injEq] at e
      subst e
      exact ⟨hi, rfl, rfl, rfl, List.prefix_append _ _⟩
    · rw [sinkEnqueue_full h h3 hread hfull, Except.ok.injEq] at e
      subst e
      exact ⟨hi, rfl, rfl, rfl, List.prefix_rfl⟩
  · have hfill := (fill_received h h3).trans (if_neg hread)
    rw [sinkEnqueue, hfill] at e
    cases e

/-- **An ENQUEUE** that returns, of any sender. -/
theorem sinkHandleEnqueue_steady (H : Host) (h : SinkInv s) {id : UInt16} {idx : Nat} {frame : MemBlock}
    {sender : UdpEndpoint} (e : sinkHandleEnqueue H s id idx frame sender = .ok s') : Steady s s' := by
  have hfail : ∀ {t : Sink} {code : ErrorCode}, sinkSendFailTo H s id code sender = .ok t → Steady s t := by
    intro t code et
    obtain ⟨t', et', hi, hs⟩ := sinkSendFailTo_same H h id code sender
    rw [et', Except.ok.injEq] at et
    exact et ▸ hs.steady hi
  unfold sinkHandleEnqueue sinkHandleEnqueueFor at e
  split at e
  · cases e
    exact Steady.refl h
  split at e
  · exact hfail e
  split at e
  · -- too short
    obtain ⟨s₁, h₁, h₂⟩ := bind_eq_ok.mp e
    cases h₂
    have hs := hfail h₁
    exact ⟨hs.inv.dropBorrow, hs.duration, hs.origin, hs.dequeued, hs.enqueued⟩
  split at e
  · split at e
    · cases e
      exact Steady.refl h
    · rename_i h3 _ _
      exact (whileM_inv (Steady s) (fun t t' ht _ et => ht.trans (sinkEnqueue_steady ht.inv (by omega) et)) 128 s s'
        (Steady.refl h) e).1
  · exact hfail e

end Steady

/-! ## Sessions -/

/-- The frames available to the session that began with `s₀`. -/
def Sink.available (s₀ s : Sink) : List Bytes := s₀.pending ++ s.enqueued.drop s₀.enqueued.length

/-- How many of them were dequeued. -/
def Sink.played (s₀ s : Sink) : Nat := s.dequeued.length - s₀.dequeued.length

/-- A session from the BORROW that led to `s₀` on: ENQUEUEs that leave the sink lent, any replies, and gets at readings
of a clock that does not go back. The clock counts milliseconds without end, what `time_now` returns are the last 32
bits. The indices are the reading at which the first frame was dequeued and the last reading; `time_origin`, counted
like the clock, is that first reading and a frame duration for each later frame. -/
inductive LentSession (H : Host) (s₀ : Sink) : Option Nat → Nat → Sink → Prop
  | borrow {s : Sink} {now : UInt32} {id : UInt16} {d n : UInt8} {sender : UdpEndpoint} : Reachable H s →
      s.Lends d.toNat n.toNat sender → sinkHandleBorrow H now s id d.toNat n.toNat sender = .ok s₀ →
      LentSession H s₀ none 0 s₀
  | enqueue {first : Option Nat} {last : Nat} {s s' : Sink} {id : UInt16} {idx : Nat} {frame : MemBlock}
      {sender : UdpEndpoint} : LentSession H s₀ first last s → sinkHandleEnqueue H s id idx frame sender = .ok s' →
      s'.state = .stateLent → LentSession H s₀ first last s'
  | reply {first : Option Nat} {last : Nat} {s s' : Sink} : LentSession H s₀ first last s → SameSession s s' →
      SinkInv s' → LentSession H s₀ first last s'
  | get {first : Option Nat} {last t : Nat} {s s' : Sink} {buf out : Bytes} {result : Bool} :
      LentSession H s₀ first last s → last ≤ t →
      (∀ t₀ ∈ first, t < t₀ + (s₀.played s - 1) * s₀.frameDurationMs.toNat + 2 ^ 32) →
      atollaSinkGet (UInt32.ofNat t) s buf buf.length = .ok (result, s', out) →
      (s'.dequeued ≠ s₀.dequeued → s'.timeOrigin ≠ NULL_TIME) →
      LentSession H s₀ (if s'.dequeued = s₀.dequeued then none else some (first.getD t)) t s'

/-- What holds of a session: before its first frame the origin is `NULL_TIME`, behind it the time of the last one. -/
structure PlaybackInv (s₀ : Sink) (first : Option Nat) (last : Nat) (s : Sink) : Prop where
  inv₀ : SinkInv s₀
  inv : SinkInv s
  state : s.state = .stateLent
  duration : s.frameDurationMs = s₀.frameDurationMs
  enqueued : s₀.enqueued <+: s.enqueued
  dequeued : s₀.dequeued <+: s.dequeued
  idle : first = none → s.timeOrigin = NULL_TIME ∧ s.dequeued = s₀.dequeued
  running : ∀ t₀ ∈ first, s.timeOrigin ≠ NULL_TIME ∧ t₀ ≤ last ∧ 1 ≤ s₀.played s ∧
    s₀.played s ≤ due s₀.frameDurationMs.toNat t₀ last ∧
    s.timeOrigin = UInt32.ofNat (t₀ + (s₀.played s - 1) * s₀.frameDurationMs.toNat)

namespace PlaybackInv

variable {s₀ s s' : Sink} {first : Option Nat} {last t : Nat}

/-- The available frames are those dequeued and those pending. -/
theorem available_eq (h : PlaybackInv s₀ first last s) :
    s₀.dequeued ++ s₀.available s = s.dequeued ++ s.pending := by
  have hdrop : s₀.enqueued ++ s.enqueued.drop s₀.enqueued.length = s.enqueued :=
    (List.prefix_iff_eq_append.mp h.enqueued)
  rw [h.inv.history, Sink.available, ← List.append_assoc, h.inv₀.history]
  exact hdrop

/-- What leaves the clock alone keeps the invariant. -/
theorem steady (h : PlaybackInv s₀ first last s) (hs : Steady s s') (hl : s'.state = .stateLent) :
    PlaybackInv s₀ first last s' where
  inv₀ := h.inv₀
  inv := hs.inv
  state := hl
  duration := hs.duration.trans h.duration
  enqueued := h.enqueued.trans hs.enqueued
  dequeued := by rw [hs.dequeued]; exact h.dequeued
  idle hf := by rw [hs.origin, hs.dequeued]; exact h.idle hf
  running t₀ ht := by
    rw [Sink.played, hs.origin, hs.dequeued]
    exact h.running t₀ ht

theorem length_available (h : PlaybackInv s₀ first last s) :
    (s₀.available s).length = s₀.played s + s.pending.length := by
  have hlen := congrArg List.length h.available_eq
  have hle := h.dequeued.length_le
  rw [List.length_append, List.length_append] at hlen
  rw [Sink.played]
  omega

/-- How far the clock is ahead, when it is less than 2^32 milliseconds. -/
theorem elapsed_ofNat {o : Nat} (ho : s.timeOrigin = UInt32.ofNat o) (hle : o ≤ t) (hfar : t < o + 2 ^ 32) :
    s.elapsed (UInt32.ofNat t) = t - o := by
  rw [Sink.elapsed, ho, ← UInt32.ofNat_sub hle, UInt32.toNat_ofNat', Nat.mod_eq_of_lt (by omega)]

/-- **What a get dequeues**: all that is due, or all there is. -/
theorem played_add_due (h : PlaybackInv s₀ first last s) (hle : last ≤ t)
    (hfar : ∀ t₀ ∈ first, t < t₀ + (s₀.played s - 1) * s₀.frameDurationMs.toNat + 2 ^ 32) :
    s₀.played s + s.due (UInt32.ofNat t) =
      min (s₀.available s).length (due s₀.frameDurationMs.toNat (first.getD t) t) := by
  rw [h.length_available]
  cases first with
  | none =>
    obtain ⟨ho, hd⟩ := h.idle rfl
    have hzero : s₀.played s = 0 := by rw [Sink.played, hd, Nat.sub_self]
    rw [Sink.due, if_pos ho, hzero, Option.getD_none, due_start, Nat.zero_add, Nat.zero_add]
  | some t₀ =>
    obtain ⟨hne, hstart, hk, hdue, ho⟩ := h.running t₀ rfl
    have hdue' := hdue.trans (due_mono hle)
    have hcatch := catch_up (n := s₀.played s + s.pending.length) hk (Nat.le_add_right _ _) hdue'
    rw [Nat.add_sub_cancel_left] at hcatch
    rw [Sink.due, if_neg hne, elapsed_ofNat ho (time_le hdue' (hstart.trans hle)) (hfar t₀ rfl), h.duration]
    exact hcatch

/-- There is something to show unless nothing is available. -/
theorem shows_eq (h : PlaybackInv s₀ first last s) {n d : Nat}
    (hn : n = min (s₀.available s).length (due d (first.getD t) t)) : s.shows = decide (0 < n) := by
  have hone := one_le_due d (first.getD t) t
  have hlen := h.length_available
  rw [Sink.shows]
  cases first with
  | none =>
    obtain ⟨ho, hd⟩ := h.idle rfl
    have hzero : s₀.played s = 0 := by rw [Sink.played, hd, Nat.sub_self]
    cases hp : s.pending with
    | nil =>
      rw [hp, List.length_nil] at hlen
      have : ¬0 < n := by omega
      simp [ho, this]
    | cons g rest =>
      rw [hp, List.length_cons] at hlen
      have : 0 < n := by omega
      simp [this]
  | some t₀ =>
    obtain ⟨hne, -, hk, -, -⟩ := h.running t₀ rfl
    have : 0 < n := by omega
    simp [hne, this]

/-- **One get**: its result, what it shows, and the frames dequeued since the session began. -/
theorem get (h : PlaybackInv s₀ first last s) (hle : last ≤ t)
    (hfar : ∀ t₀ ∈ first, t < t₀ + (s₀.played s - 1) * s₀.frameDurationMs.toNat + 2 ^ 32) (buf : Bytes)
    {n : Nat} (hn : n = min (s₀.available s).length (due s₀.frameDurationMs.toNat (first.getD t) t)) :
    ∃ s', atollaSinkGet (UInt32.ofNat t) s buf buf.length =
        .ok (decide (0 < n), s', match ((s₀.available s).take n).getLast? with
          | some g => cycle buf.length g
          | none => buf) ∧
      Shown s s' (s.due (UInt32.ofNat t)) (s.originAfter (UInt32.ofNat t)) ∧
      s'.dequeued = s₀.dequeued ++ (s₀.available s).take n := by
  obtain ⟨s', e, hs⟩ := atollaSinkGet_lent h.inv h.state (UInt32.ofNat t) buf
  have hadd := h.played_add_due hle hfar
  rw [← hn] at hadd
  have hlen := h.dequeued.length_le
  have hplayed : s.dequeued.length = s₀.dequeued.length + s₀.played s := by rw [Sink.played]; omega
  -- the frames dequeued so far are the first of the available ones
  have hdeq : s'.dequeued = s₀.dequeued ++ (s₀.available s).take n := by
    have htake : s'.dequeued = s.dequeued ++ s.pending.take (s.due (UInt32.ofNat t)) := by rw [hs.same]
    have hall := congrArg (List.take (s.dequeued.length + s.due (UInt32.ofNat t))) h.available_eq
    rw [List.take_length_add_append, hplayed, Nat.add_assoc, hadd, List.take_length_add_append] at hall
    rw [htake, hall]
  refine ⟨s', ?_, hs, hdeq⟩
  rw [e, h.shows_eq hn]
  by_cases hpos : 0 < n
  · obtain ⟨g, hg⟩ : ∃ g, ((s₀.available s).take n).getLast? = some g := by
      have hne : (s₀.available s).take n ≠ [] := by
        rw [ne_eq, List.take_eq_nil_iff, not_or]
        exact ⟨by omega, List.ne_nil_of_length_pos (by omega)⟩
      exact ⟨_, List.getLast?_eq_some_getLast hne⟩
    have hcur : s'.currentFrame.data = g := hs.inv.shown g (by rw [hdeq, List.getLast?_append, hg]; rfl)
    have hpic : s.picture (UInt32.ofNat t) = g := hs.current.symm.trans hcur
    rw [decide_eq_true hpos, if_pos rfl, hpic, hg]
  · obtain rfl : n = 0 := by omega
    rw [List.take_zero]
    rfl

section AfterGet

variable (h : PlaybackInv s₀ first last s)
  (hs : Shown s s' (s.due (UInt32.ofNat t)) (s.originAfter (UInt32.ofNat t)))

include h hs

theorem played_after_get : s₀.played s' = s₀.played s + s.due (UInt32.ofNat t) := by
  have hdeq : s'.dequeued = s.dequeued ++ s.pending.take (s.due (UInt32.ofNat t)) := by rw [hs.same]
  have hdue : s.due (UInt32.ofNat t) ≤ s.pending.length := Nat.min_le_left _ _
  have hlen := h.dequeued.length_le
  rw [Sink.played, Sink.played, hdeq, List.length_append, List.length_take]
  omega

/-- A get that dequeues nothing is one before the first frame. -/
theorem idle_after_get (hsame : s'.dequeued = s₀.dequeued) : first = none ∧ s'.timeOrigin = NULL_TIME := by
  have hplayed := h.played_after_get hs
  have hzero : s₀.played s' = 0 := by rw [Sink.played, hsame, Nat.sub_self]
  cases first with
  | none =>
    obtain ⟨ho, -⟩ := h.idle rfl
    have hnil : s.pending = [] := by
      rw [hplayed, Sink.due, if_pos ho] at hzero
      exact List.length_eq_zero_iff.mp (by omega)
    have horigin : s'.timeOrigin = s.originAfter (UInt32.ofNat t) := by rw [hs.same]
    exact ⟨rfl, by rw [horigin, Sink.originAfter, if_pos ho, if_pos hnil]⟩
  | some t₀ =>
    obtain ⟨-, -, hk, -, -⟩ := h.running t₀ rfl
    omega

/-- **The origin behind a get** that found a frame to show, now or earlier. -/
theorem origin_after_get (hle : last ≤ t) (hne : s'.dequeued ≠ s₀.dequeued) :
    first.getD t ≤ t ∧ 1 ≤ s₀.played s' ∧
      s'.timeOrigin = UInt32.ofNat (first.getD t + (s₀.played s' - 1) * s₀.frameDurationMs.toNat) := by
  have hdeq : s'.dequeued = s.dequeued ++ s.pending.take (s.due (UInt32.ofNat t)) := by rw [hs.same]
  have horigin : s'.timeOrigin = s.originAfter (UInt32.ofNat t) := by rw [hs.same]
  have hplayed := h.played_after_get hs
  cases first with
  | none =>
    obtain ⟨ho, hd⟩ := h.idle rfl
    have hcons : s.pending ≠ [] := by
      intro hnil
      rw [hnil, List.take_nil, List.append_nil, hd] at hdeq
      exact hne hdeq
    have hone : s₀.played s' = 1 := by
      have := List.length_pos_iff.mpr hcons
      rw [hplayed, Sink.due, if_pos ho, Sink.played, hd]
      omega
    refine ⟨Nat.le_refl t, hone.ge, ?_⟩
    rw [horigin, Sink.originAfter, if_pos ho, if_neg hcons, hone, Nat.sub_self, Nat.zero_mul]
    rfl
  | some t₀ =>
    obtain ⟨hne₀, hstart, hk, -, ho⟩ := h.running t₀ rfl
    refine ⟨hstart.trans hle, by omega, ?_⟩
    have hsum : s₀.played s' - 1 = s₀.played s - 1 + s.due (UInt32.ofNat t) := by omega
    rw [horigin, Sink.originAfter, if_neg hne₀, ho, h.duration, ← UInt32.ofNat_add, hsum, Nat.add_mul,
      Option.getD_some, Nat.add_assoc]

/-- **After a get** the invariant holds, while the origin is not `NULL_TIME`. -/
theorem after_get (hle : last ≤ t)
    (hfar : ∀ t₀ ∈ first, t < t₀ + (s₀.played s - 1) * s₀.frameDurationMs.toNat + 2 ^ 32)
    (hnull : s'.dequeued ≠ s₀.dequeued → s'.timeOrigin ≠ NULL_TIME) :
    PlaybackInv s₀ (if s'.dequeued = s₀.dequeued then none else some (first.getD t)) t s' := by
  refine ⟨h.inv₀, hs.inv, by rw [hs.same]; exact h.state, by rw [hs.same]; exact h.duration,
    by rw [hs.same]; exact h.enqueued, ?_, ?_, ?_⟩
  · have hdeq : s'.dequeued = s.dequeued ++ s.pending.take (s.due (UInt32.ofNat t)) := by rw [hs.same]
    rw [hdeq]
    exact h.dequeued.trans (List.prefix_append _ _)
  · intro hnone
    have hsame : s'.dequeued = s₀.dequeued := by
      by_contra hne
      rw [if_neg hne] at hnone
      cases hnone
    exact ⟨(h.idle_after_get hs hsame).2, hsame⟩
  · intro t₁ ht₁
    have hne : s'.dequeued ≠ s₀.dequeued := by
      intro hsame
      rw [if_pos hsame] at ht₁
      cases ht₁
    rw [if_neg hne, Option.mem_some_iff] at ht₁
    subst ht₁
    obtain ⟨hstart, hk, horigin⟩ := h.origin_after_get hs hle hne
    refine ⟨hnull hne, hstart, hk, ?_, horigin⟩
    rw [h.played_after_get hs, h.played_add_due hle hfar]
    exact Nat.min_le_right _ _

end AfterGet

end PlaybackInv

variable {H : Host} {s₀ s : Sink} {first : Option Nat} {last t : Nat}

/-- **Every session** satisfies the invariant. -/
theorem LentSession.inv (h : LentSession H s₀ first last s) : PlaybackInv s₀ first last s := by
  induction h with
  | @borrow s now id d n sender hr hl e =>
    have hi := reachable_inv hr
    obtain ⟨builder, e', hb, -⟩ := sinkHandleBorrow_lends H hi hl now id
    rw [e'] at e
    cases e
    have hd := d.toNat_lt
    have hlent := hi.lent hb now hl.slow (by omega) sender
    exact ⟨hlent, hlent, rfl, rfl, List.prefix_rfl, List.prefix_rfl, fun _ => ⟨rfl, rfl⟩, fun _ h => by cases h⟩
  | enqueue _ e hl ih => exact ih.steady (sinkHandleEnqueue_steady H ih.inv e) hl
  | reply _ hs hi ih => exact ih.steady (hs.steady hi) (hs.state.trans ih.state)
  | @get first last t s s' buf out result _ hle hfar e hnull ih =>
    obtain ⟨s₁, e₁, hs, -⟩ := ih.get hle hfar buf rfl
    rw [e₁] at e
    cases e
    exact ih.after_get hs hle hfar hnull

/-- **Playback**: a get at `t` has dequeued one frame and one more for each frame duration that lies strictly between
the first one and `t`, or all that are available, and shows the last of these. Without any frame it returns false. -/
theorem playback (h : LentSession H s₀ first last s) (hle : last ≤ t)
    (hfar : ∀ t₀ ∈ first, t < t₀ + (s₀.played s - 1) * s₀.frameDurationMs.toNat + 2 ^ 32) (buf : Bytes) :
    ∃ n s', n = min (s₀.available s).length (due s₀.frameDurationMs.toNat (first.getD t) t) ∧
      atollaSinkGet (UInt32.ofNat t) s buf buf.length =
        .ok (decide (0 < n), s', match ((s₀.available s).take n).getLast? with
          | some g => cycle buf.length g
          | none => buf) ∧
      s₀.played s' = n ∧ s'.dequeued = s₀.dequeued ++ (s₀.available s).take n := by
  obtain ⟨s', e, -, hd⟩ := h.inv.get hle hfar buf rfl
  refine ⟨_, s', rfl, e, ?_, hd⟩
  rw [Sink.played, hd, List.length_append, List.length_take]
  omega

/-- Two frames on a fresh sink: the second is due 21 ms behind the first. -/
theorem playback_second :
    ∃ s₀ s s', LentSession exampleHost s₀ (some 1000) 1000 s ∧
      atollaSinkGet (UInt32.ofNat 1021) s [0, 0, 0, 0] 4 = .ok (true, s', [1, 2, 3, 1]) ∧ s₀.played s' = 2 := by
  have hfresh : Reachable exampleHost (freshSink exampleHost 1 true) :=
    reachable_fresh exampleHost (by decide) (by decide) true
  have hl : (freshSink exampleHost 1 true).Lends (20 : UInt8).toNat (1 : UInt8).toNat exampleEndpoint :=
    freshSink_lends exampleHost 1 (by decide) (by decide) exampleEndpoint
  obtain ⟨builder, e₀, hb, -⟩ := sinkHandleBorrow_lends exampleHost (reachable_inv hfresh) hl 1000 0
  have h₀ := LentSession.borrow hfresh hl e₀
  set s₀ := (freshSink exampleHost 1 true).lent builder 1000 (20 : UInt8).toNat exampleEndpoint
  have hp₀ : s₀.pending = [] := freshSink_pending exampleHost (n := 1) (by decide) (by decide) true
  -- frame 1 stands in for frame 0
  have hd : s₀.distance 1 = (2 : Nat) := rfl
  obtain ⟨s, e, hst⟩ := sinkHandleEnqueue_append exampleHost h₀.inv.inv rfl (udpEndpointEqual_refl _)
    (show 3 ≤ (MemBlock.ofBytes [1, 2, 3]).size by decide) (MemBlock.valid_ofBytes _) (by decide) hd (by decide)
    (by rw [hp₀]; decide) 0
  have hs := h₀.enqueue e (by rw [hst.same]; rfl)
  have hpend : s.pending = [[1, 2, 3], [1, 2, 3]] := by
    rw [hst.pending, hp₀]
    rfl
  have havail : s₀.available s = [[1, 2, 3], [1, 2, 3]] := by
    rw [Sink.available, hp₀, hst.same]
    rfl
  -- the first get
  obtain ⟨s₁, e₁, hshown, hd₁⟩ := hs.inv.get (t := 1000) (by decide) (fun _ h => by cases h) [] rfl
  have ho : s.timeOrigin = NULL_TIME := (hs.inv.idle rfl).1
  have horigin : s₁.timeOrigin ≠ NULL_TIME := by
    have : s₁.timeOrigin = s.originAfter (UInt32.ofNat 1000) := by rw [hshown.same]
    rw [this, Sink.originAfter, if_pos ho, hpend, if_neg (by simp)]
    decide
  have hne : s₁.dequeued ≠ s₀.dequeued := by
    rw [hd₁, havail]
    simp
  have h₁ := hs.get (by decide) (fun _ h => by cases h) e₁ fun _ => horigin
  rw [if_neg hne, Option.getD_none] at h₁
  have havail₁ : s₀.available s₁ = [[1, 2, 3], [1, 2, 3]] := by
    rw [Sink.available, hshown.same]
    exact havail
  obtain ⟨n, s', hn, e', hplayed, -⟩ := playback h₁ (t := 1021) (by decide) (fun t₀ h => by cases h; omega) [0, 0, 0, 0]
  have hn2 : n = 2 := by
    rw [hn, havail₁, show s₀.frameDurationMs.toNat = 20 from rfl]
    rfl
  subst hn2
  rw [havail₁] at e'
  exact ⟨s₀, s₁, s', h₁, e', hplayed⟩

end Atolla

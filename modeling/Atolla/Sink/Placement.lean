import Atolla.Lib.GapFill
import Atolla.Sink.FullRing
import Atolla.Sink.Steps

/-!
# Where frames are placed

The frames of a session have numbers `0, 1, 2, …` of which only the remainder modulo 256 travels. As long as no number
is more than 128 ahead of the largest so far, or 128 or more behind it, the sink is a receiver that fills gaps
(`Atolla.Lib.GapFill`): the distance it computes from the two remainders is that of the numbers (`distance_ahead`,
`distance_behind`), and what it stores is what such a receiver puts out (`Placed.inv`, `placement`).

What an update does around its messages leaves the session alone and may happen at any time, so that the calls of a run
are such sessions: the update that finds the BORROW (`placed_call_borrow`), those that find an ENQUEUE
(`Placed.call_enqueue`) or nothing (`Placed.call_silent`), and the gets.
-/

set_option autoImplicit false

namespace Atolla

open GapFill Loop Pattern

/-! ## Numbers and their remainders -/

/-- `last_enqueued_frame_idx` for the largest number so far, `-1` when there is none. -/
def lastIdxOf (m : Int) : Int := if m < 0 then -1 else m % 256

/-- **Ahead**: the distance to a number ahead is the number of frames to append. -/
theorem distance_ahead {m : Int} {n : Nat} (hm : -1 ≤ m) (hlt : m < n) (hle : n ≤ m + 128) :
    boundedDiff (lastIdxOf m) (n % 256 : Nat) 256 = n - m := by
  unfold lastIdxOf boundedDiff
  split <;> split <;> omega

/-- **Behind**: a number that is not ahead is either the last one or out of reach. -/
theorem distance_behind {m : Int} {n : Nat} (hle : n ≤ m) (hge : m - 127 ≤ n) :
    boundedDiff (lastIdxOf m) (n % 256 : Nat) 256 = 0 ∨ 128 < boundedDiff (lastIdxOf m) (n % 256 : Nat) 256 := by
  unfold lastIdxOf boundedDiff
  split <;> split <;> omega

/-! ## The arrivals of a session -/

/-- A sink after a BORROW of the sender that led to `s₀`, the arrivals of some numbered frames and any gets. The BORROW
is a message anywhere in a call; around the messages the sink may do whatever leaves the session alone. Every number is
in the window around the largest before it, and its frame finds room. -/
inductive Placed (H : Host) (sender : UdpEndpoint) (s₀ : Sink) : List (Nat × Bytes) → Sink → Prop
  | borrow {r s : Sink} {c : SinkCall} {now : UInt32} {id : UInt16} {d n : UInt8} : Reachable H r →
      SinkCallPasses H r c s → s.Lends d.toNat n.toNat sender →
      sinkHandleBorrow H now s id d.toNat n.toNat sender = .ok s₀ → Placed H sender s₀ [] s₀
  /-- What `sink_receive` and `sink_send` do around the messages. -/
  | same {arrivals : List (Nat × Bytes)} {s s' : Sink} : Placed H sender s₀ arrivals s → SinkInv s' →
      SameSession s s' → Placed H sender s₀ arrivals s'
  | get {arrivals : List (Nat × Bytes)} {s s' : Sink} {now : UInt32} {buf buf' : Bytes} {result : Bool} :
      Placed H sender s₀ arrivals s → atollaSinkGet now s buf buf.length = .ok (result, s', buf') →
      Placed H sender s₀ arrivals s'
  | arrive {arrivals : List (Nat × Bytes)} {s s' : Sink} {n : Nat} {frame : Bytes} {id : UInt16} :
      Placed H sender s₀ arrivals s → largest arrivals - 127 ≤ n → n ≤ largest arrivals + 128 → 3 ≤ frame.length →
      n - largest arrivals ≤ s.freeSlots →
      sinkHandleEnqueue H s id (n % 256) (MemBlock.ofBytes frame) sender = .ok s' →
      Placed H sender s₀ (arrivals ++ [(n, frame)]) s'

/-- The arrivals with what the sink stores for their frames. -/
def Sink.stores (s : Sink) (arrivals : List (Nat × Bytes)) : List (Nat × Bytes) :=
  arrivals.map fun p => (p.1, s.patterned p.2)

/-- What holds of the sink after some arrivals. -/
structure PlacedInv (sender : UdpEndpoint) (s₀ : Sink) (arrivals : List (Nat × Bytes)) (s : Sink) : Prop where
  inv : SinkInv s
  state : s.state = .stateLent
  borrower : udpEndpointEqual sender s.borrowerEndpoint = true
  lights : s.lightsCount = s₀.lightsCount
  idx : s.lastEnqueuedFrameIdx = lastIdxOf (largest arrivals)
  enqueued : s.enqueued = s₀.enqueued ++ fillAll [] (s₀.stores arrivals)

section Arrive

variable (H : Host) {sender : UdpEndpoint} {s₀ s s' : Sink} {arrivals : List (Nat × Bytes)}

theorem PlacedInv.patterned (h : PlacedInv sender s₀ arrivals s) (frame : Bytes) :
    s.patterned frame = s₀.patterned frame := by
  rw [Sink.patterned, Sink.patterned, Sink.frameLen, Sink.frameLen, h.lights]

theorem length_stores (s₀ : Sink) (arrivals : List (Nat × Bytes)) :
    ((fillAll [] (s₀.stores arrivals)).length : Int) = largest arrivals + 1 := by
  rw [length_fillAll, Sink.stores, largest_map]

/-- **One arrival**: with room, the handler returns and stores what the receiver puts out; a frame that is not ahead
changes nothing. -/
theorem PlacedInv.arrive (h : PlacedInv sender s₀ arrivals s) {n : Nat} {frame : Bytes}
    (hge : largest arrivals - 127 ≤ n) (hle : n ≤ largest arrivals + 128) (h3 : 3 ≤ frame.length)
    (hroom : n - largest arrivals ≤ s.freeSlots) (id : UInt16) :
    ∃ s', sinkHandleEnqueue H s id (n % 256) (MemBlock.ofBytes frame) sender = .ok s' ∧
      PlacedInv sender s₀ (arrivals ++ [(n, frame)]) s' ∧ (n ≤ largest arrivals → s' = s) := by
  have hi : n % 256 ≤ 255 := by omega
  have hlen := length_stores s₀ arrivals
  have hstores : s₀.stores (arrivals ++ [(n, frame)]) = s₀.stores arrivals ++ [(n, s₀.patterned frame)] := by
    rw [Sink.stores, List.map_append]
    rfl
  rw [h.inv.freeSlots_eq] at hroom
  have hbound := h.inv.length_pending
  by_cases hahead : largest arrivals < n
  · -- the frame and copies for the numbers that are missing
    obtain ⟨k, hk⟩ : ∃ k : Nat, n - largest arrivals = k := ⟨(n - largest arrivals).toNat, by omega⟩
    have hd : s.distance (n % 256) = k := by
      rw [Sink.distance, h.idx, distance_ahead (neg_one_le_largest arrivals) hahead hle, hk]
    obtain ⟨s', e, hst⟩ := sinkHandleEnqueue_append H h.inv h.state h.borrower
      (show 3 ≤ (MemBlock.ofBytes frame).size from h3) (MemBlock.valid_ofBytes frame) hi hd (by omega) (by omega) id
    refine ⟨s', e, ⟨hst.inv, ?_, ?_, ?_, ?_, ?_⟩, fun hno => absurd hno (by omega)⟩
    · rw [hst.same]; exact h.state
    · rw [hst.same]; exact h.borrower
    · rw [hst.same]; exact h.lights
    · have hlast : s'.lastEnqueuedFrameIdx = ((n % 256 : Nat) : Int) := by rw [hst.same]
      rw [hlast, largest_concat, lastIdxOf, if_neg (by omega)]
      omega
    · have henq : s'.enqueued =
          s.enqueued ++ List.replicate k (s.patterned (MemBlock.ofBytes frame).bytes) := by rw [hst.same]
      have hmissing : n + 1 - (fillAll [] (s₀.stores arrivals)).length = k := by omega
      rw [henq, h.enqueued, hstores, fillAll_append, fillAll_singleton, fill, hmissing, MemBlock.bytes_ofBytes,
        h.patterned, List.append_assoc]
  · -- late or repeated
    have hsame : sinkHandleEnqueue H s id (n % 256) (MemBlock.ofBytes frame) sender = .ok s := by
      have hd := distance_behind (m := largest arrivals) (n := n) (by omega) hge
      rw [← h.idx] at hd
      rcases hd with hd | hd
      · have hzero : s.distance (n % 256) = 0 := hd
        rw [sinkHandleEnqueue, sinkHandleEnqueueFor_borrower H h.state h.borrower h3, if_neg (by omega)]
        exact sinkEnqueueLoop_done (by omega) 128
      · exact sinkHandleEnqueue_late H h.state h.borrower h3 hd id
    refine ⟨s, hsame, ⟨h.inv, h.state, h.borrower, h.lights, ?_, ?_⟩, fun _ => rfl⟩
    · rw [h.idx, largest_concat, max_eq_left (by omega)]
    · rw [h.enqueued, hstores, fillAll_append, fillAll_singleton, fill_of_lt (by omega)]

/-- A get stores nothing. -/
theorem PlacedInv.get (h : PlacedInv sender s₀ arrivals s) {now : UInt32} {buf buf' : Bytes} {result : Bool}
    (e : atollaSinkGet now s buf buf.length = .ok (result, s', buf')) : PlacedInv sender s₀ arrivals s' := by
  obtain ⟨s₁, e₁, hs⟩ := atollaSinkGet_lent h.inv h.state now buf
  rw [e₁] at e
  cases e
  refine ⟨hs.inv, ?_, ?_, ?_, ?_, ?_⟩
  · rw [hs.same]; exact h.state
  · rw [hs.same]; exact h.borrower
  · rw [hs.same]; exact h.lights
  · rw [hs.same]; exact h.idx
  · rw [hs.same]; exact h.enqueued

/-- Nor does what leaves the session alone. -/
theorem PlacedInv.same (h : PlacedInv sender s₀ arrivals s) (hi : SinkInv s') (hsame : SameSession s s') :
    PlacedInv sender s₀ arrivals s' :=
  ⟨hi, hsame.state.trans h.state, by rw [hsame.borrower]; exact h.borrower, hsame.lights.trans h.lights,
    hsame.idx.trans h.idx, hsame.enqueued.trans h.enqueued⟩

/-- **Every session** satisfies the invariant. -/
theorem Placed.inv (h : Placed H sender s₀ arrivals s) : PlacedInv sender s₀ arrivals s := by
  induction h with
  | @borrow r s c now id d n hr hpass hl e =>
    have hi := (reachable_inv hr).steps hpass.steps
    obtain ⟨builder, e', hb, -⟩ := sinkHandleBorrow_lends H hi hl now id
    rw [e'] at e
    cases e
    have hd := d.toNat_lt
    refine ⟨hi.lent hb now hl.slow (by omega) sender, rfl, udpEndpointEqual_refl _, rfl, rfl, ?_⟩
    exact (List.append_nil _).symm
  | same _ hi hsame ih => exact ih.same hi hsame
  | get _ e ih => exact ih.get e
  | arrive _ hge hle h3 hroom e ih =>
    obtain ⟨s₁, e₁, h₁, -⟩ := ih.arrive H hge hle h3 hroom _
    rw [e₁] at e
    cases e
    exact h₁

/-- **Placement**: after some arrivals as many frames have been appended as numbers were reached, the one for number
`k` is that of the first arrival with a number of at least `k`, and the last index is the largest number modulo 256. The
next arrival is handled, and changes nothing when it is not ahead. -/
theorem placement (h : Placed H sender s₀ arrivals s) :
    (∃ out, s.enqueued = s₀.enqueued ++ out ∧ (out.length : Int) = largest arrivals + 1 ∧
      ∀ k, out[k]? = (arrivals.find? fun p => k ≤ p.1).map fun p => cycle s₀.frameLen p.2) ∧
    (s.lastEnqueuedFrameIdx = if arrivals = [] then -1 else largest arrivals % 256) ∧
    ∀ (n : Nat) (frame : Bytes) (id : UInt16), largest arrivals - 127 ≤ n → n ≤ largest arrivals + 128 →
      3 ≤ frame.length → n - largest arrivals ≤ s.freeSlots →
      ∃ s', sinkHandleEnqueue H s id (n % 256) (MemBlock.ofBytes frame) sender = .ok s' ∧
        Placed H sender s₀ (arrivals ++ [(n, frame)]) s' ∧ (n ≤ largest arrivals → s' = s) := by
  have hi := h.inv
  refine ⟨⟨fillAll [] (s₀.stores arrivals), hi.enqueued, length_stores s₀ arrivals, ?_⟩, ?_, ?_⟩
  · intro k
    rw [getElem?_fillAll, if_neg (by simp), Sink.stores, List.find?_map, Option.map_map]
    rfl
  · rw [hi.idx, lastIdxOf]
    cases arrivals with
    | nil => rfl
    | cons p rest =>
      -- some number was reached
      have hnonneg : 0 ≤ largest (p :: rest) := by
        have hlen := length_stores s₀ (p :: rest)
        have hfill : fillAll [] (s₀.stores (p :: rest)) = fillAll (fill [] p.1 (s₀.patterned p.2)) (s₀.stores rest) :=
          rfl
        rw [hfill] at hlen
        have hle := length_le_fillAll (fill [] p.1 (s₀.patterned p.2)) (s₀.stores rest)
        rw [length_fill] at hle
        omega
      rw [if_neg (by omega), if_neg (List.cons_ne_nil p rest)]
  · intro n frame id hge hle h3 hroom
    obtain ⟨s', e, -, hlate⟩ := hi.arrive H hge hle h3 hroom id
    exact ⟨s', e, h.arrive hge hle h3 hroom e, hlate⟩

end Arrive

/-! ## The calls of a session -/

section Calls

variable {H : Host} {sender : UdpEndpoint} {s₀ s s' : Sink} {arrivals : List (Nat × Bytes)}

/-- The update that finds the BORROW. -/
theorem placed_call_borrow (hr : Reachable H s) {d n : UInt8} (hl : s.Lends d.toNat n.toNat sender) (id : UInt16)
    (clock : SinkClock) :
    ∃ s₀ s', sinkCall H s (.state clock (some ⟨(WireMsg.borrow id d n).bytes, sender⟩)) = .ok s' ∧
      Placed H sender s₀ [] s' ∧ s'.pending = s.pending ∧ s₀.enqueued = s.enqueued := by
  have hs := hl.not_error
  have hfit := WireMsg.length_borrow_le id d n
  have hnil := (WireMsg.borrow id d n).bytes_ne_nil
  set bytes := (WireMsg.borrow id d n).bytes
  -- in front of the message the datagram is in the buffer
  set r : Sink := { s with recvBuf := bytes ++ s.recvBuf.drop bytes.length } with hr'
  have hpass : SinkCallPasses H s (.state clock (some ⟨bytes, sender⟩)) r :=
    .message ⟨hs, _, _, _, 0, udpSocketReceiveFrom_fits sender hnil hfit, .zero⟩
  have hlr : r.Lends d.toNat n.toNat sender := ⟨hl.free, hl.fits, hl.slow⟩
  obtain ⟨builder, e, -, -⟩ := sinkHandleBorrow_lends H ((reachable_inv hr).steps hpass.steps) hlr (clock.message 0) id
  have h₀ : Placed H sender _ [] (r.lent builder (clock.message 0) d.toNat sender) := .borrow hr hpass hlr e
  have h₁ := h₀.same (h₀.inv.inv.withRecvTime clock.received) ⟨rfl⟩
  obtain ⟨s', e', hi', hsame⟩ := sinkSend_same H h₁.inv.inv clock
  refine ⟨_, s', ?_, h₁.same hi' hsame, hsame.pending, rfl⟩
  show atollaSinkState H clock s (some ⟨bytes, sender⟩) = .ok s'
  rw [atollaSinkState_one H hs (WireMsg.request_borrow id d n) hfit]
  show sinkHandleBorrow H (clock.message 0) r id d.toNat n.toNat sender >>= _ = _
  rw [e, ok_bind, e']

/-- An update that finds the ENQUEUE of a frame in the window, with room for it. -/
theorem Placed.call_enqueue (h : Placed H sender s₀ arrivals s) (n : Nat) (frame : Bytes)
    (hge : largest arrivals - 127 ≤ n) (hle : n ≤ largest arrivals + 128) (h3 : 3 ≤ frame.length)
    (hfit : frame.length ≤ 1016) (hroom : n - largest arrivals ≤ s.freeSlots) (id : UInt16) (clock : SinkClock) :
    ∃ s', sinkCall H s (.state clock (some ⟨(WireMsg.enqueue id (UInt8.ofNat n) frame (by omega)).bytes, sender⟩)) =
        .ok s' ∧ Placed H sender s₀ (arrivals ++ [(n, frame)]) s' := by
  have hs : s.state ≠ .stateError := by
    rw [h.inv.state]
    intro he
    cases he
  set m := WireMsg.enqueue id (UInt8.ofNat n) frame (by omega) with hm
  have hlen : m.bytes.length ≤ sinkRecvBufLen := by
    rw [hm]
    simp only [WireMsg.length_bytes, WireMsg.enqueue, length_enqueuePayload, sinkRecvBufLen]
    omega
  have hrecv := h.same (h.inv.inv.withRecvBuf (m.bytes ++ s.recvBuf.drop m.bytes.length)) ⟨rfl⟩
  obtain ⟨s₁, e₁, -⟩ := hrecv.inv.arrive H hge hle h3 hroom id
  have h₁ := hrecv.arrive hge hle h3 hroom e₁
  have h₂ := h₁.same (h₁.inv.inv.withRecvTime clock.received) ⟨rfl⟩
  obtain ⟨s', e', hi', hsame⟩ := sinkSend_same H h₂.inv.inv clock
  refine ⟨s', ?_, h₂.same hi' hsame⟩
  have hidx : (UInt8.ofNat n).toNat = n % 256 := UInt8.toNat_ofNat'
  show atollaSinkState H clock s (some ⟨m.bytes, sender⟩) = .ok s'
  rw [atollaSinkState_one H hs (WireMsg.request_enqueue id (UInt8.ofNat n) frame (by omega)) hlen]
  show sinkHandleEnqueue H _ id (UInt8.ofNat n).toNat (MemBlock.ofBytes frame) sender >>= _ = _
  rw [hidx, e₁, ok_bind, e']

/-- An update that finds nothing, and does not lose the session. -/
theorem Placed.call_silent (h : Placed H sender s₀ arrivals s) {clock : SinkClock}
    (e : sinkCall H s (.state clock none) = .ok s') (hs' : s'.state = .stateLent) : Placed H sender s₀ arrivals s' := by
  obtain ⟨hi', hsame⟩ := atollaSinkState_silent h.inv.inv e fun _ => hs'
  exact h.same hi' hsame

end Calls

/-- The calls on a fresh sink of one light: frame 1 arrives first and stands in for frame 0. -/
theorem placement_gap :
    ∃ s₀ s s', sinkCall exampleHost (freshSink exampleHost 1 true)
        (.state exampleClock (some ⟨(WireMsg.borrow 0 20 1).bytes, exampleEndpoint⟩)) = .ok s ∧
      sinkCall exampleHost s
        (.state exampleClock (some ⟨(WireMsg.enqueue 1 1 [1, 2, 3] exampleFrame_le).bytes, exampleEndpoint⟩)) = .ok s' ∧
      Placed exampleHost exampleEndpoint s₀ [(1, [1, 2, 3])] s' ∧
      ∃ out, s'.enqueued = s₀.enqueued ++ out ∧ (out.length : Int) = 2 := by
  have hfresh : Reachable exampleHost (freshSink exampleHost 1 true) :=
    reachable_fresh exampleHost (by decide) (by decide) true
  have hl : (freshSink exampleHost 1 true).Lends (20 : UInt8).toNat (1 : UInt8).toNat exampleEndpoint :=
    freshSink_lends exampleHost 1 (by decide) (by decide) exampleEndpoint
  obtain ⟨s₀, s, e, h, hpend, -⟩ := placed_call_borrow hfresh hl 0 exampleClock
  rw [freshSink_pending exampleHost (n := 1) (by decide) (by decide) true] at hpend
  obtain ⟨s', e', h'⟩ := h.call_enqueue 1 [1, 2, 3] (by decide) (by decide) (by decide) (by decide)
    (by rw [h.inv.inv.freeSlots_eq, hpend]; decide) 1 exampleClock
  obtain ⟨⟨out, hout, hlen, -⟩, -⟩ := placement exampleHost h'
  exact ⟨s₀, s, s', e, e', h', out, hout, hlen⟩

end Atolla

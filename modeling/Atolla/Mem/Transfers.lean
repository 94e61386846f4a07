import Atolla.Lib.History
import Atolla.Lib.Observe
import Atolla.Mem.Ring

/-!
# Transfers of any length

`mem_ring_enqueue` and `mem_ring_dequeue` copy any number of bytes, but each copy is one `memcpy` and a slice of the
memory. So the ring is a queue of bytes exactly as long as no transfer crosses the end of the memory
(`memRing_carries_iff`); one that does stops at the assertion of `mem_block_slice`, and without any memory at the
remainder by zero (`memRingTransfer_split`). What comes out of it is what went in, in this order (`memRing_inOrder`).
-/

set_option autoImplicit false

namespace Atolla

open Fifo Observe Loop

/-- A call that copies bytes, with the memory of the caller and the length. -/
inductive RingTransfer where
  | enqueue (inBuf : Bytes) (inBufLen : Nat)
  | dequeue (outBuf : Bytes) (outBufLen : Nat)

/-- The memory of the caller is as long as it says. -/
def RingTransfer.Fits : RingTransfer → Prop
  | .enqueue inBuf inBufLen => inBufLen ≤ inBuf.length
  | .dequeue outBuf outBufLen => outBufLen ≤ outBuf.length

instance : DecidablePred RingTransfer.Fits
  | .enqueue inBuf inBufLen => inferInstanceAs (Decidable (inBufLen ≤ inBuf.length))
  | .dequeue outBuf outBufLen => inferInstanceAs (Decidable (outBufLen ≤ outBuf.length))

/-- The result of a transfer and the memory at `out_buf`. -/
def memRingTransfer (ring : MemRing) : RingTransfer → Run (MemRing × Bool × Bytes)
  | .enqueue inBuf inBufLen => do
    let (result, ring) ← memRingEnqueue ring inBuf inBufLen
    return (ring, result, [])
  | .dequeue outBuf outBufLen => do
    let (result, ring, out) ← memRingDequeue ring outBuf outBufLen
    return (ring, result, out)

variable {cap : Nat}

/-- The same transfer on a queue of bytes: it succeeds iff the free space, respectively what is stored, suffices. -/
def historyTransfer (h : History UInt8 cap) (call : RingTransfer) : History UInt8 cap × Bool × Bytes :=
  match call with
  | .enqueue inBuf inBufLen =>
    match h.append (inBuf.take inBufLen) with
    | some h' => (h', true, [])
    | none => (h, false, [])
  | .dequeue outBuf outBufLen =>
    match h.take outBufLen with
    | some (oldest, h') => (h', true, oldest ++ outBuf.drop outBufLen)
    | none => (h, false, outBuf)

/-- The sum of the lengths is a `size_t`. -/
def RingTransfer.Adds (h : History UInt8 cap) : RingTransfer → Prop
  | .enqueue _ inBufLen => h.stored + inBufLen < 2 ^ 64
  | .dequeue _ _ => True

/-- **In one piece**: a transfer that succeeds does not cross the end of the memory. The next byte goes to the number of
all bytes enqueued so far, modulo the capacity, and comes from that of all bytes dequeued. -/
def RingTransfer.Unsplit (h : History UInt8 cap) : RingTransfer → Prop
  | .enqueue _ inBufLen => h.stored + inBufLen ≤ cap → 0 < cap ∧ h.items.length % cap + inBufLen ≤ cap
  | .dequeue _ outBufLen => outBufLen ≤ h.stored → 0 < cap ∧ h.taken % cap + outBufLen ≤ cap

instance (h : History UInt8 cap) : DecidablePred (RingTransfer.Adds h)
  | .enqueue _ inBufLen => inferInstanceAs (Decidable (h.stored + inBufLen < 2 ^ 64))
  | .dequeue _ _ => isTrue trivial

instance (h : History UInt8 cap) : DecidablePred (RingTransfer.Unsplit h)
  | .enqueue _ inBufLen =>
    inferInstanceAs (Decidable (h.stored + inBufLen ≤ cap → 0 < cap ∧ h.items.length % cap + inBufLen ≤ cap))
  | .dequeue _ outBufLen =>
    inferInstanceAs (Decidable (outBufLen ≤ h.stored → 0 < cap ∧ h.taken % cap + outBufLen ≤ cap))

/-- The ring carries the bytes that are left. -/
structure MemRing.Carries (ring : MemRing) (h : History UInt8 cap) : Prop where
  small : cap ≤ ptrdiffMax
  size : ring.buf.size = cap
  front : ring.front = h.taken % cap
  len : ring.len = h.stored
  fresh : cap = 0 → h.taken = 0
  data : Fifo.Carries ring.buf.data h

section Transfer

variable {ring : MemRing} {h : History UInt8 cap}

theorem memRingAlloc_carries (H : Host) (hcap : cap ≤ ptrdiffMax) :
    (memRingAlloc H cap).Carries (History.empty : History UInt8 cap) := by
  have hdata : (memRingAlloc H cap).buf.data.length = cap := memBlockAlloc_owned H cap
  exact ⟨hcap, rfl, (Nat.zero_mod cap).symm, rfl, fun _ => rfl, carries_empty hdata⟩

/-- Where the next byte goes. -/
theorem MemRing.Carries.back (hc : ring.Carries h) : (ring.front + ring.len) % cap = h.items.length % cap := by
  rw [hc.front, hc.len, History.stored, Nat.mod_add_mod, Nat.add_sub_cancel' h.taken_le]

theorem MemRing.Carries.front_le (hc : ring.Carries h) : ring.front ≤ cap := by
  rcases Nat.eq_zero_or_pos cap with h0 | hpos
  · rw [hc.front, hc.fresh h0, Nat.zero_mod]
    exact Nat.zero_le _
  · rw [hc.front]
    exact (Nat.mod_lt _ hpos).le

/-- An enqueue that finds no room. -/
theorem memRingEnqueue_refused (hc : ring.Carries h) {inBuf : Bytes} {inBufLen : Nat}
    (hsum : h.stored + inBufLen < 2 ^ 64) (hfull : cap < h.stored + inBufLen) :
    memRingEnqueue ring inBuf inBufLen = .ok (false, ring) := by
  rw [memRingEnqueue, if_pos]
  rw [hc.len, hc.size, sizeT_of_lt hsum]
  exact hfull

/-- **An enqueue in one piece** appends the bytes. -/
theorem memRingEnqueue_append (hc : ring.Carries h) {h' : History UInt8 cap} {inBuf : Bytes} {inBufLen : Nat}
    (hlen : inBufLen ≤ inBuf.length) (e : h.append (inBuf.take inBufLen) = some h') (hpos : 0 < cap)
    (hpiece : h.items.length % cap + inBufLen ≤ cap) :
    ∃ ring', memRingEnqueue ring inBuf inBufLen = .ok (true, ring') ∧ ring'.Carries h' := by
  obtain ⟨hroom, hitems, htaken⟩ := History.append_eq_some e
  have hsmall := hc.small
  have hfront := hc.front_le
  have hback := hc.back
  have hx : (inBuf.take inBufLen).length = inBufLen := List.length_take_of_le hlen
  have hdata := hc.data.append e (by rw [hx]; exact hpiece)
  have hbytes := hc.data.length
  unfold ptrdiffMax at hsmall
  rw [hx] at hroom
  have hring := hc.len
  refine ⟨{ ring with buf := { ring.buf with data := write ring.buf.data (h.items.length % cap) (inBuf.take inBufLen) }
                      len := h.stored + inBufLen }, ?_, hc.small, hc.size, ?_, ?_, ?_, hdata⟩
  · rw [memRingEnqueue, hc.size, if_neg (by rw [sizeT_of_lt (by omega)]; omega), sizeT_of_lt (by omega),
      sizeMod_pos hpos, ok_bind, hback, memBlockSlice_ok (by rw [hc.size]; exact hpiece) (by omega), ok_bind,
      readBytes_of_le hlen, ok_bind, writeBytes_of_le (by rw [hx]; omega), ok_bind, sizeT_of_lt (by omega), hring]
    rfl
  · rw [htaken]
    exact hc.front
  · have := h.taken_le
    show h.stored + inBufLen = h'.stored
    rw [History.stored, History.stored, hitems, htaken, List.length_append, hx]
    omega
  · intro h0
    omega

/-- A dequeue of more than is stored. -/
theorem memRingDequeue_refused (hc : ring.Carries h) {outBuf : Bytes} {outBufLen : Nat} (hshort : h.stored < outBufLen) :
    memRingDequeue ring outBuf outBufLen = .ok (false, ring, outBuf) := by
  rw [memRingDequeue, if_pos]
  rw [hc.len]
  exact hshort

/-- **A dequeue from one piece** takes the oldest bytes. -/
theorem memRingDequeue_take (hc : ring.Carries h) {h' : History UInt8 cap} {oldest outBuf : Bytes} {outBufLen : Nat}
    (hlen : outBufLen ≤ outBuf.length) (e : h.take outBufLen = some (oldest, h')) (hpos : 0 < cap)
    (hpiece : h.taken % cap + outBufLen ≤ cap) :
    ∃ ring', memRingDequeue ring outBuf outBufLen = .ok (true, ring', oldest ++ outBuf.drop outBufLen) ∧
      ring'.Carries h' := by
  obtain ⟨hle, -, hitems, htaken⟩ := History.take_eq_some e
  obtain ⟨holdest, hdata⟩ := hc.data.take e hpiece
  have hsmall := hc.small
  have hbytes := hc.data.length
  have hfront := hc.front
  have hring := hc.len
  unfold ptrdiffMax at hsmall
  have hread : readBytes (ring.buf.data.drop (h.taken % cap)) outBufLen = .ok oldest := by
    rw [readBytes_of_le (by rw [List.length_drop]; omega), holdest]
  have hcount := History.length_of_take e
  refine ⟨{ ring with front := (h.taken + outBufLen) % cap, len := h.stored - outBufLen }, ?_, hc.small, hc.size, ?_, ?_,
    ?_, hdata⟩
  · rw [memRingDequeue, if_neg (by omega), hfront, memBlockSlice_ok (by rw [hc.size]; exact hpiece) (by omega), ok_bind,
      hc.size, sizeT_of_lt (by omega), sizeMod_pos hpos, ok_bind, Nat.mod_add_mod, hread, ok_bind,
      writeBytes_of_le (by omega), ok_bind, hcount, hring, Nat.zero_add]
    rfl
  · rw [htaken]
  · show h.stored - outBufLen = h'.stored
    rw [History.stored, History.stored, hitems, htaken]
    omega
  · intro h0
    omega

/-- **One transfer in one piece**: as on the queue of bytes. -/
theorem memRingTransfer_unsplit (ring : MemRing) (h : History UInt8 cap) (call : RingTransfer) (hc : ring.Carries h)
    (hcall : (call.Fits ∧ call.Adds h) ∧ call.Unsplit h) :
    ∃ ring', memRingTransfer ring call = .ok (ring', (historyTransfer h call).2) ∧
      ring'.Carries (historyTransfer h call).1 := by
  obtain ⟨⟨hfits, hsum⟩, hpiece⟩ := hcall
  cases call with
  | enqueue inBuf inBufLen =>
    have hx : (inBuf.take inBufLen).length = inBufLen := List.length_take_of_le hfits
    cases e : h.append (inBuf.take inBufLen) with
    | some h' =>
      have hroom := (History.append_eq_some e).1
      rw [hx] at hroom
      obtain ⟨hpos, hend⟩ := hpiece hroom
      obtain ⟨ring', e', hc'⟩ := memRingEnqueue_append hc hfits e hpos hend
      simp only [memRingTransfer, historyTransfer, e, e', ok_bind]
      exact ⟨ring', rfl, hc'⟩
    | none =>
      have hfull := History.append_eq_none.mp e
      rw [hx] at hfull
      simp only [memRingTransfer, historyTransfer, e, memRingEnqueue_refused hc hsum hfull, ok_bind]
      exact ⟨ring, rfl, hc⟩
  | dequeue outBuf outBufLen =>
    cases e : h.take outBufLen with
    | some p =>
      obtain ⟨oldest, h'⟩ := p
      obtain ⟨hpos, hend⟩ := hpiece (History.take_eq_some e).1
      obtain ⟨ring', e', hc'⟩ := memRingDequeue_take hc hfits e hpos hend
      simp only [memRingTransfer, historyTransfer, e, e', ok_bind]
      exact ⟨ring', rfl, hc'⟩
    | none =>
      simp only [memRingTransfer, historyTransfer, e, memRingDequeue_refused hc (History.take_eq_none.mp e), ok_bind]
      exact ⟨ring, rfl, hc⟩

/-- What stops a transfer that is not in one piece: the remainder without any memory, the slice otherwise. -/
def splitFault (cap : Nat) : Fault := if cap = 0 then .divByZero else .assertion

/-- A slice across the end of the memory. -/
theorem MemRing.Carries.slice_split (hc : ring.Carries h) {off n : Nat} (hoff : off ≤ cap) (hn : n ≤ cap)
    (hend : cap < off + n) : memBlockSlice ring.buf off n = .error .assertion := by
  have hsmall := hc.small
  unfold ptrdiffMax at hsmall
  rw [memBlockSlice, sizeT_of_lt (by omega), hc.size, assert_neg (by omega)]
  rfl

/-- An enqueue that finds room, but not in one piece. -/
theorem memRingEnqueue_split (hc : ring.Carries h) {inBuf : Bytes} {inBufLen : Nat} (hroom : h.stored + inBufLen ≤ cap)
    (hend : ¬(0 < cap ∧ h.items.length % cap + inBufLen ≤ cap)) :
    memRingEnqueue ring inBuf inBufLen = .error (splitFault cap) := by
  have hsmall := hc.small
  have hfront := hc.front_le
  have hring := hc.len
  unfold ptrdiffMax at hsmall
  rw [memRingEnqueue, hc.size, if_neg (by rw [sizeT_of_lt (by omega)]; omega), sizeT_of_lt (by omega), splitFault]
  by_cases h0 : cap = 0
  · rw [if_pos h0, sizeMod, if_pos h0]
    rfl
  · have hback : h.items.length % cap < cap := Nat.mod_lt _ (by omega)
    rw [if_neg h0, sizeMod_pos (by omega), ok_bind, hc.back, hc.slice_split (by omega) (by omega) (by omega)]
    rfl

/-- A dequeue of what is stored, but not in one piece. -/
theorem memRingDequeue_split (hc : ring.Carries h) {outBuf : Bytes} {outBufLen : Nat} (hle : outBufLen ≤ h.stored)
    (hend : ¬(0 < cap ∧ h.taken % cap + outBufLen ≤ cap)) :
    memRingDequeue ring outBuf outBufLen = .error (splitFault cap) := by
  have hring := hc.len
  have hfront := hc.front
  have hbound : h.stored ≤ cap := h.bound
  rw [memRingDequeue, if_neg (by omega), splitFault]
  by_cases h0 : cap = 0
  · -- nothing of nothing is a slice, so the remainder is reached
    have htaken := hc.fresh h0
    have hslice : memBlockSlice ring.buf ring.front outBufLen =
        .ok ⟨ring.buf.data.drop ring.front, outBufLen, outBufLen⟩ := by
      apply memBlockSlice_ok
      · rw [hfront, htaken, hc.size, Nat.zero_mod]
        omega
      · rw [hfront, htaken, Nat.zero_mod]
        omega
    rw [if_pos h0, hslice, ok_bind, hc.size, sizeMod, if_pos h0]
    rfl
  · have hlt : h.taken % cap < cap := Nat.mod_lt _ (by omega)
    rw [if_neg h0, hc.slice_split (by omega) (by omega) (by omega)]
    rfl

/-- **One transfer that is not in one piece** stops. -/
theorem memRingTransfer_split (ring : MemRing) (h : History UInt8 cap) (call : RingTransfer) (hc : ring.Carries h)
    (hpiece : ¬call.Unsplit h) : memRingTransfer ring call = .error (splitFault cap) := by
  cases call with
  | enqueue inBuf inBufLen =>
    simp only [RingTransfer.Unsplit, Classical.not_imp] at hpiece
    rw [memRingTransfer, memRingEnqueue_split hc hpiece.1 hpiece.2]
    rfl
  | dequeue outBuf outBufLen =>
    simp only [RingTransfer.Unsplit, Classical.not_imp] at hpiece
    rw [memRingTransfer, memRingDequeue_split hc hpiece.1 hpiece.2]
    rfl

end Transfer

/-- Transfers whose memory is as long as they say and whose sums are a `size_t`. -/
theorem proper_transfers {transfers : List RingTransfer} (hfits : ∀ call ∈ transfers, call.Fits)
    (hsums : Along historyTransfer RingTransfer.Adds (History.empty : History UInt8 cap) transfers) :
    Along historyTransfer (fun h call => call.Fits ∧ RingTransfer.Adds h call) (History.empty : History UInt8 cap)
      transfers := (along_of_forall hfits _).and hsums

/-- A run with a transfer that is not in one piece. -/
theorem memRing_run_split (H : Host) (hcap : cap ≤ ptrdiffMax) {transfers : List RingTransfer}
    (hfits : ∀ call ∈ transfers, call.Fits)
    (hsums : Along historyTransfer RingTransfer.Adds (History.empty : History UInt8 cap) transfers)
    (hsplit : ¬Along historyTransfer RingTransfer.Unsplit (History.empty : History UInt8 cap) transfers) :
    replay memRingTransfer (memRingAlloc H cap) transfers = .error (splitFault cap) :=
  replay_fails MemRing.Carries memRingTransfer_unsplit
    (fun ring h call hc _ hcall => memRingTransfer_split ring h call hc hcall) transfers (memRingAlloc_carries H hcap)
    (proper_transfers hfits hsums) hsplit

/-- A run of transfers in one piece. -/
theorem memRing_run_unsplit (H : Host) (hcap : cap ≤ ptrdiffMax) {transfers : List RingTransfer}
    (hfits : ∀ call ∈ transfers, call.Fits)
    (hsums : Along historyTransfer RingTransfer.Adds (History.empty : History UInt8 cap) transfers)
    (hpiece : Along historyTransfer RingTransfer.Unsplit (History.empty : History UInt8 cap) transfers) :
    ∃ ring, replay memRingTransfer (memRingAlloc H cap) transfers =
        .ok (ring, (play historyTransfer (History.empty : History UInt8 cap) transfers).2) := by
  obtain ⟨ring, e, -⟩ := replay_along MemRing.Carries memRingTransfer_unsplit transfers
    (memRingAlloc_carries H hcap) ((proper_transfers hfits hsums).and hpiece)
  exact ⟨ring, e⟩

/-- **The ring carries bytes in transfers of any length, exactly when each stays in one piece**: the run from
`mem_ring_alloc` on returns with the results and the bytes of the queue iff no transfer that succeeds crosses the end of
the memory. Of no capacity that `malloc` can return, zero included, is more required. -/
theorem memRing_carries_iff (H : Host) (hcap : cap ≤ ptrdiffMax) (transfers : List RingTransfer)
    (hfits : ∀ call ∈ transfers, call.Fits)
    (hsums : Along historyTransfer RingTransfer.Adds (History.empty : History UInt8 cap) transfers) :
    (∃ ring, replay memRingTransfer (memRingAlloc H cap) transfers =
        .ok (ring, (play historyTransfer (History.empty : History UInt8 cap) transfers).2)) ↔
      Along historyTransfer RingTransfer.Unsplit (History.empty : History UInt8 cap) transfers := by
  constructor
  · rintro ⟨ring, e⟩
    by_contra hsplit
    rw [memRing_run_split H hcap hfits hsums hsplit] at e
    cases e
  · intro hpiece
    exact memRing_run_unsplit H hcap hfits hsums hpiece

/-- Transfers of four lengths through a memory of six bytes; the second to last enqueue finds no room. -/
def exampleTransfers : List RingTransfer :=
  [.enqueue [1, 2, 3, 4] 4, .dequeue [0, 0, 0] 3, .enqueue [5, 6] 2, .enqueue [7, 8, 9, 10] 4, .enqueue [7, 8] 2,
    .dequeue [0, 0, 0] 3, .dequeue [0] 1]

theorem memRing_carries_six :
    (∃ ring, replay memRingTransfer (memRingAlloc exampleHost 6) exampleTransfers =
        .ok (ring, (play historyTransfer (History.empty : History UInt8 6) exampleTransfers).2)) ↔
      Along historyTransfer RingTransfer.Unsplit (History.empty : History UInt8 6) exampleTransfers :=
  memRing_carries_iff exampleHost (by simp [ptrdiffMax]) _ (by decide) (by decide)

example : Along historyTransfer RingTransfer.Unsplit (History.empty : History UInt8 6) exampleTransfers := by decide

/-- Three bytes in, three out, and three in again. -/
def splitTransfers : List RingTransfer := [.enqueue [1, 2, 3] 3, .dequeue [0, 0, 0] 3, .enqueue [4, 5, 6] 3]

/-- A ring of four bytes has room for the last three, but stops at the assertion; one of none at the remainder. -/
theorem memRing_split_asserts :
    (play historyTransfer (History.empty : History UInt8 4) splitTransfers).2 =
        [(true, []), (true, [1, 2, 3]), (true, [])] ∧
      replay memRingTransfer (memRingAlloc exampleHost 4) splitTransfers = .error .assertion ∧
      (play historyTransfer (History.empty : History UInt8 0) [.enqueue [] 0]).2 = [(true, [])] ∧
      replay memRingTransfer (memRingAlloc exampleHost 0) [.enqueue [] 0] = .error .divByZero :=
  ⟨by decide, rfl, by decide, rfl⟩

/-! ## The order of the bytes -/

/-- The bytes that a transfer with this result put in. -/
def RingTransfer.putIn : RingTransfer → Bool × Bytes → Bytes
  | .enqueue inBuf inBufLen, (true, _) => inBuf.take inBufLen
  | _, _ => []

/-- The bytes that a transfer with this result took out. -/
def RingTransfer.takenOut : RingTransfer → Bool × Bytes → Bytes
  | .dequeue _ outBufLen, (true, out) => out.take outBufLen
  | _, _ => []

/-- One transfer on the queue of bytes. -/
theorem historyTransfer_moves (h : History UInt8 cap) (call : RingTransfer) :
    (historyTransfer h call).1.items = h.items ++ call.putIn (historyTransfer h call).2 ∧
      (historyTransfer h call).1.given = h.given ++ call.takenOut (historyTransfer h call).2 := by
  cases call with
  | enqueue inBuf inBufLen =>
    cases e : h.append (inBuf.take inBufLen) with
    | some h' =>
      simp only [historyTransfer, e, RingTransfer.putIn, RingTransfer.takenOut, List.append_nil]
      exact ⟨(History.append_eq_some e).2.1, History.given_append e⟩
    | none => simp only [historyTransfer, e, RingTransfer.putIn, RingTransfer.takenOut, List.append_nil, and_self]
  | dequeue outBuf outBufLen =>
    cases e : h.take outBufLen with
    | some p =>
      obtain ⟨oldest, h'⟩ := p
      simp only [historyTransfer, e, RingTransfer.putIn, RingTransfer.takenOut, List.append_nil,
        List.take_left' (History.length_of_take e)]
      exact ⟨(History.take_eq_some e).2.2.1, History.given_take e⟩
    | none => simp only [historyTransfer, e, RingTransfer.putIn, RingTransfer.takenOut, List.append_nil, and_self]

/-- A run of transfers on the queue of bytes. -/
theorem play_moves (transfers : List RingTransfer) (h : History UInt8 cap) :
    (play historyTransfer h transfers).1.items =
        h.items ++ (transfers.zipWith RingTransfer.putIn (play historyTransfer h transfers).2).flatten ∧
      (play historyTransfer h transfers).1.given =
        h.given ++ (transfers.zipWith RingTransfer.takenOut (play historyTransfer h transfers).2).flatten := by
  induction transfers generalizing h with
  | nil => simp [play]
  | cons call transfers ih =>
    obtain ⟨hitems, hgiven⟩ := historyTransfer_moves h call
    obtain ⟨hitems', hgiven'⟩ := ih (historyTransfer h call).1
    rw [hitems, List.append_assoc] at hitems'
    rw [hgiven, List.append_assoc] at hgiven'
    exact ⟨hitems', hgiven'⟩

/-- **First in, first out**: in every run that returns, the bytes taken out are the first of those put in. -/
theorem memRing_inOrder (H : Host) (hcap : cap ≤ ptrdiffMax) {transfers : List RingTransfer}
    (hfits : ∀ call ∈ transfers, call.Fits)
    (hsums : Along historyTransfer RingTransfer.Adds (History.empty : History UInt8 cap) transfers) {ring : MemRing}
    {results : List (Bool × Bytes)} (e : replay memRingTransfer (memRingAlloc H cap) transfers = .ok (ring, results)) :
    (transfers.zipWith RingTransfer.takenOut results).flatten <+:
      (transfers.zipWith RingTransfer.putIn results).flatten := by
  by_cases hpiece : Along historyTransfer RingTransfer.Unsplit (History.empty : History UInt8 cap) transfers
  · obtain ⟨ring', e'⟩ := memRing_run_unsplit H hcap hfits hsums hpiece
    rw [e, Except.ok.injEq, Prod.mk.injEq] at e'
    obtain ⟨-, rfl⟩ := e'
    obtain ⟨hitems, hgiven⟩ := play_moves transfers (History.empty : History UInt8 cap)
    have hfirst := List.take_prefix (play historyTransfer (History.empty : History UInt8 cap) transfers).1.taken
      (play historyTransfer (History.empty : History UInt8 cap) transfers).1.items
    rw [← History.given, hgiven, hitems] at hfirst
    exact hfirst
  · rw [memRing_run_split H hcap hfits hsums hpiece] at e
    cases e

/-- Of the eight bytes that went into the memory of six, the first seven came out. -/
theorem memRing_inOrder_six : ∃ ring results,
    replay memRingTransfer (memRingAlloc exampleHost 6) exampleTransfers = .ok (ring, results) ∧
      (exampleTransfers.zipWith RingTransfer.takenOut results).flatten = [1, 2, 3, 4, 5, 6, 7] ∧
      [1, 2, 3, 4, 5, 6, 7] <+: (exampleTransfers.zipWith RingTransfer.putIn results).flatten := by
  obtain ⟨ring, e⟩ := @memRing_run_unsplit 6 exampleHost (by simp [ptrdiffMax]) exampleTransfers (by decide) (by decide)
    (by decide)
  refine ⟨ring, _, e, by decide, ?_⟩
  exact memRing_inOrder exampleHost (by simp [ptrdiffMax]) (by decide) (by decide) e

end Atolla

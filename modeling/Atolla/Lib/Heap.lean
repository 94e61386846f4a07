import Mathlib.Data.List.Perm.Basic

/-!
# Heaps by their addresses

A heap is the list of the addresses of its live objects. An allocator picks an address that is not live, or finds no
memory. `Ledger live held`: the live objects are those that someone holds, each held once. An address that is held is
there to be freed (`Ledger.free`), and both operations keep the books.
-/

set_option autoImplicit false

namespace Heap

open List

/-- An allocator, as the addresses it picks. -/
structure Allocator where
  pick : List ℕ → Option ℕ
  fresh : ∀ live a, pick live = some a → a ∉ live

/-- A new object, if there is memory. -/
def malloc (A : Allocator) (live : List ℕ) : Option ℕ × List ℕ :=
  match A.pick live with
  | some a => (some a, a :: live)
  | none => (none, live)

/-- An object is freed; nothing else can be. -/
def free (live : List ℕ) (a : ℕ) : Option (List ℕ) := if a ∈ live then some (live.erase a) else none

/-- **The books**: every live object is held, and held once. -/
structure Ledger (live held : List ℕ) : Prop where
  nodup : live.Nodup
  perm : live ~ held

variable {A : Allocator} {live live' held held' : List ℕ} {a : ℕ}

theorem Ledger.congr (h : Ledger live held) (hp : held ~ held') : Ledger live held' := ⟨h.nodup, h.perm.trans hp⟩

theorem pick_of_malloc (e : malloc A live = (none, live')) : A.pick live = none := by
  unfold Heap.malloc at e
  split at e
  · cases e
  · assumption

/-- Nobody else holds a new object. -/
theorem Ledger.malloc (h : Ledger live held) (e : malloc A live = (some a, live')) : Ledger live' (a :: held) := by
  unfold Heap.malloc at e
  split at e
  · rename_i hpick
    cases e
    exact ⟨nodup_cons.mpr ⟨A.fresh live a hpick, h.nodup⟩, h.perm.cons a⟩
  · cases e

/-- **What is held can be freed.** -/
theorem Ledger.free (h : Ledger live (a :: held)) : ∃ live', free live a = some live' ∧ Ledger live' held := by
  have hmem : a ∈ live := h.perm.mem_iff.mpr mem_cons_self
  refine ⟨live.erase a, if_pos hmem, h.nodup.erase a, ?_⟩
  have herase := h.perm.erase a
  rwa [erase_cons_head] at herase

end Heap

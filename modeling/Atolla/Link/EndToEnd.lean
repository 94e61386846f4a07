import Atolla.Link.System

/-!
# End to end

What a sink shows are the frames that were put, in the order in which they were put, each repeated until it fills the
lights (`end_to_end`).
-/

set_option autoImplicit false

namespace Atolla

open Loop Pattern

section EndToEnd

variable {H : Host} {spec : AtollaSourceSpec} {lights : Nat} {endpoint : UdpEndpoint} {l : Link}

/-- What was stored, and so what was dequeued, are the first frames put. -/
theorem LinkInv.dequeued_prefix (h : LinkInv spec lights endpoint l) :
    l.sink.dequeued <+: l.puts.map (cycle (3 * lights)) := by
  obtain ⟨ids, msgs, -, -, ht⟩ := h.script
  have henq : l.sink.enqueued <+: l.puts.map (cycle (3 * lights)) := by
    rcases ht.phase with ⟨-, -, he⟩ | ⟨-, -, -, -, -, he⟩
    · rw [he]
      exact List.nil_prefix
    · rw [he, List.map_take]
      exact List.take_prefix _ _
  exact (show l.sink.dequeued <+: l.sink.enqueued from ⟨l.sink.pending, ht.inv.history⟩).trans henq

/-- The last frame dequeued is that of a put. -/
theorem LinkInv.getLast_dequeued (h : LinkInv spec lights endpoint l) {g : Bytes}
    (hg : l.sink.dequeued.getLast? = some g) :
    ∃ f, l.puts[l.sink.dequeued.length - 1]? = some f ∧ g = cycle (3 * lights) f := by
  rw [List.getLast?_eq_getElem?] at hg
  obtain ⟨rest, hrest⟩ := h.dequeued_prefix
  have hmap : (l.sink.dequeued ++ rest)[l.sink.dequeued.length - 1]? = _ :=
    List.getElem?_append_left (List.getElem?_eq_some_iff.mp hg).1
  rw [hrest, hg, List.getElem?_map, Option.map_eq_some_iff] at hmap
  obtain ⟨f, hf, rfl⟩ := hmap
  exact ⟨f, hf, rfl⟩

/-- **End to end**: the frames a sink moved into `current_frame` are the first frames put, in order, each filling the
lights; a get fills its buffer with the last of them; and a datagram that finds room is handled. -/
theorem end_to_end (h : Linked H spec lights endpoint l) (hu : spec.Usable) :
    l.sink.dequeued <+: l.puts.map (cycle (3 * lights)) ∧
    (∀ now buf, ∃ result sink out, atollaSinkGet now l.sink buf buf.length = .ok (result, sink, out) ∧
      if result then
        ∃ f, l.puts[sink.dequeued.length - 1]? = some f ∧ out = cycle buf.length (cycle (3 * lights) f)
      else out = buf) ∧
    ∀ clock, (l.EnqueueNext → 1 ≤ l.sink.freeSlots) → ∃ l', linkStep H endpoint l (.arrive clock) = .ok l' := by
  have hi := h.inv hu
  refine ⟨hi.dequeued_prefix, fun now buf => ?_, fun clock hroom => ?_⟩
  · obtain ⟨ids, msgs, hs, htaken, ht⟩ := hi.script
    obtain ⟨result, sink, out, e, ht', hout⟩ := ht.get now buf
    refine ⟨result, sink, out, e, ?_⟩
    -- the system behind the get
    have hi' : LinkInv spec lights endpoint { l with sink := sink } :=
      ⟨ids, msgs, hs.withSink sink _, htaken, ht'⟩
    split
    · rename_i hr
      rw [if_pos hr] at hout
      obtain ⟨g, hg, rfl⟩ := hout
      obtain ⟨f, hf, rfl⟩ := hi'.getLast_dequeued hg
      exact ⟨f, hf, rfl⟩
    · rename_i hr
      rw [if_neg hr] at hout
      exact hout
  · obtain ⟨l', e, -⟩ := hi.arrive (H := H) hu hroom clock
    exact ⟨l', e⟩

end EndToEnd

/-- A put of a source that finds no datagram, at 1000 ms. -/
def exampleQuiet : SourceEnv := ⟨none, fun _ => 1000, 1000, 1000, true, 1000⟩

def examplePut : PutEnv := ⟨exampleQuiet, exampleQuiet, exampleQuiet, 1000, 1000, true, 1000⟩

/-- A frame of four bytes is put, arrives and is shown. -/
def exampleActions : List LinkAction :=
  [.arrive exampleClock, .update exampleLent, .sleep examplePut, .put examplePut [1, 2, 3, 4], .arrive exampleClock,
    .get 1000 []]

/-- The system it leads to, with one light. -/
def exampleLink : Option Link :=
  (atollaSourceMake exampleHost (exampleSpec 20) exampleMake).toOption.bind fun source =>
    (atollaSinkMake exampleHost ⟨0, 1⟩ true).toOption.bind fun sink =>
      linkRun exampleHost exampleEndpoint ⟨source, sink, 0, [], none⟩ exampleActions

theorem exampleLink_linked {l : Link} (e : exampleLink = some l) :
    Linked exampleHost (exampleSpec 20) 1 exampleEndpoint l := by
  unfold exampleLink at e
  cases es : atollaSourceMake exampleHost (exampleSpec 20) exampleMake with
  | error f => rw [es] at e; cases e
  | ok source =>
    cases ek : atollaSinkMake exampleHost ⟨0, 1⟩ true with
    | error f => rw [es, ek] at e; cases e
    | ok sink =>
      rw [es, ek] at e
      exact (Linked.make es ek).run e

/-- A buffer of four bytes shows the three that fit the light, and the first of them again. -/
theorem end_to_end_one :
    ∃ l sink, Linked exampleHost (exampleSpec 20) 1 exampleEndpoint l ∧ l.sink.dequeued = [[1, 2, 3]] ∧
      atollaSinkGet 1000 l.sink [0, 0, 0, 0] 4 = .ok (true, sink, [1, 2, 3, 1]) := by
  have hrun : exampleLink.map (fun l => (l.puts, l.sink.dequeued,
      (atollaSinkGet 1000 l.sink [0, 0, 0, 0] 4).toOption.map (·.1))) =
        some ([[1, 2, 3, 4]], [[1, 2, 3]], some true) := by decide +kernel
  cases el : exampleLink with
  | none => rw [el] at hrun; cases hrun
  | some l =>
    rw [el] at hrun
    simp only [Option.map_some, Option.some.injEq, Prod.mk.injEq] at hrun
    obtain ⟨hputs, hdeq, hresult⟩ := hrun
    have hl := exampleLink_linked el
    have hu : (exampleSpec 20).Usable := ⟨by decide, by decide⟩
    obtain ⟨-, hget, -⟩ := end_to_end hl hu
    obtain ⟨result, sink, out, e, hout⟩ := hget 1000 [0, 0, 0, 0]
    have e' : atollaSinkGet 1000 l.sink [0, 0, 0, 0] 4 = .ok (result, sink, out) := e
    rw [e'] at hresult
    obtain rfl : result = true := Option.some.inj hresult
    obtain ⟨f, hf, rfl⟩ := hout
    rw [hputs] at hf
    obtain rfl : f = [1, 2, 3, 4] := (List.mem_singleton.mp (List.mem_of_getElem? hf))
    exact ⟨l, sink, hl, hdeq, e'⟩

end Atolla

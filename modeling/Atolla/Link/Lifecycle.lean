import Atolla.Lib.Past
import Atolla.Mem.Heap

/-!
# A process and its objects

A process makes sinks and sources, they build messages, and it frees them, in any order, while the rest of it allocates
and frees objects of its own. Nothing is ever freed that is not allocated (`heap_never_faults`), and a sink that is
freed leaves nothing. But `atolla_source_free` does not free the builder: of every source that was freed one object
stays for good (`freed_sources_leak`).
-/

set_option autoImplicit false

namespace Atolla

open Loop Past
open Heap (Allocator Ledger)

/-! ## The process -/

/-- A process. -/
structure HeapProcess where
  live : List ℕ
  /-- The objects of the rest of the process. -/
  others : List ℕ
  sinks : List HeapSink
  sources : List HeapSource
  /-- History: the sources that were freed. -/
  freed : List HeapSource

/-- What happens next. -/
inductive HeapStep : HeapProcess → HeapProcess → Prop
  | malloc {w : HeapProcess} {A : Allocator} {a : ℕ} {live' : List ℕ} : Heap.malloc A w.live = (some a, live') →
      HeapStep w { w with live := live', others := a :: w.others }
  | free {w : HeapProcess} {a : ℕ} {live' : List ℕ} : a ∈ w.others → heapFree w.live a = .ok live' →
      HeapStep w { w with live := live', others := w.others.erase a }
  | sinkMake {w : HeapProcess} {A : Allocator} {frameLen : ℕ} {s : HeapSink} {live' : List ℕ} :
      sinkMakeHeap A w.live frameLen = .ok (s, live') → HeapStep w { w with live := live', sinks := s :: w.sinks }
  | sinkBuild {w : HeapProcess} {A : Allocator} {l₁ l₂ : List HeapSink} {s : HeapSink} {n : ℕ} {b : HeapBlock}
      {live' : List ℕ} : w.sinks = l₁ ++ s :: l₂ → buildHeap A w.live s.builder n = .ok (b, live') →
      HeapStep w { w with live := live', sinks := l₁ ++ { s with builder := b } :: l₂ }
  | sinkFree {w : HeapProcess} {l₁ l₂ : List HeapSink} {s : HeapSink} {live' : List ℕ} : w.sinks = l₁ ++ s :: l₂ →
      sinkFreeHeap w.live s = .ok live' → HeapStep w { w with live := live', sinks := l₁ ++ l₂ }
  | sourceMake {w : HeapProcess} {A : Allocator} {s : HeapSource} {live' : List ℕ} :
      sourceMakeHeap A w.live = .ok (s, live') → HeapStep w { w with live := live', sources := s :: w.sources }
  | sourceBuild {w : HeapProcess} {A : Allocator} {l₁ l₂ : List HeapSource} {s : HeapSource} {n : ℕ} {b : HeapBlock}
      {live' : List ℕ} : w.sources = l₁ ++ s :: l₂ → buildHeap A w.live s.builder n = .ok (b, live') →
      HeapStep w { w with live := live', sources := l₁ ++ { s with builder := b } :: l₂ }
  | sourceFree {w : HeapProcess} {l₁ l₂ : List HeapSource} {s : HeapSource} {live' : List ℕ} :
      w.sources = l₁ ++ s :: l₂ → sourceFreeHeap w.live s = .ok live' →
      HeapStep w { w with live := live', sources := l₁ ++ l₂, freed := s :: w.freed }

/-- **The runs of a process**, from one without sinks and sources. -/
def heapProcess : System HeapProcess where
  init w := w.live.Nodup ∧ w.others = w.live ∧ w.sinks = [] ∧ w.sources = [] ∧ w.freed = []
  step := HeapStep

/-! ## The books -/

/-- What everyone holds: the rest of the process, the sinks, the sources, and nobody any more. -/
def HeapProcess.held (w : HeapProcess) : List ℕ :=
  w.others ++ w.sinks.flatMap HeapSink.objects ++ w.sources.flatMap HeapSource.objects ++
    w.freed.flatMap fun s => s.builder.objects

/-- **The invariant.** -/
structure HeapInv (w : HeapProcess) : Prop where
  ledger : Ledger w.live w.held
  sources : ∀ s ∈ w.sources, 0 < s.builder.capacity
  freed : ∀ s ∈ w.freed, 0 < s.builder.capacity

section Inv

variable {w w' : HeapProcess}

/-- What the others hold besides a sink. -/
theorem HeapInv.besideSink (h : HeapInv w) {l₁ l₂ : List HeapSink} {s : HeapSink} (hs : w.sinks = l₁ ++ s :: l₂) :
    Ledger w.live (s.objects ++ { w with sinks := l₁ ++ l₂ }.held) := by
  refine h.ledger.congr ?_
  rw [HeapProcess.held, HeapProcess.held, hs, List.perm_iff_count]
  intro a
  simp only [List.flatMap_append, List.flatMap_cons, List.count_append]
  omega

/-- What the others hold besides a source. -/
theorem HeapInv.besideSource (h : HeapInv w) {l₁ l₂ : List HeapSource} {s : HeapSource}
    (hs : w.sources = l₁ ++ s :: l₂) : Ledger w.live (s.objects ++ { w with sources := l₁ ++ l₂ }.held) := by
  refine h.ledger.congr ?_
  rw [HeapProcess.held, HeapProcess.held, hs, List.perm_iff_count]
  intro a
  simp only [List.flatMap_append, List.flatMap_cons, List.count_append]
  omega

/-- The books without the builder of a sink. -/
theorem HeapInv.sinkBuilder (h : HeapInv w) {l₁ l₂ : List HeapSink} {s : HeapSink} (hs : w.sinks = l₁ ++ s :: l₂) :
    Ledger w.live (s.builder.objects ++ (s.self :: (s.currentFrame.objects ++ s.receivedFrame.objects ++
      s.pendingFrames.objects) ++ { w with sinks := l₁ ++ l₂ }.held)) := by
  refine (h.besideSink hs).congr ?_
  rw [HeapSink.objects, List.perm_iff_count]
  intro a
  simp only [List.count_append, List.count_cons]
  omega

theorem HeapInv.sourceBuilder (h : HeapInv w) {l₁ l₂ : List HeapSource} {s : HeapSource}
    (hs : w.sources = l₁ ++ s :: l₂) :
    Ledger w.live (s.builder.objects ++ (s.self :: { w with sources := l₁ ++ l₂ }.held)) := by
  refine (h.besideSource hs).congr ?_
  rw [HeapSource.objects, List.perm_iff_count]
  intro a
  simp only [List.count_append, List.count_cons]
  omega

/-- A message is built. -/
theorem buildHeap_ok {A : Allocator} {live live' held : List ℕ} {block block' : HeapBlock} {n : ℕ}
    (h : Ledger live (block.objects ++ held)) (e : buildHeap A live block n = .ok (block', live')) :
    Ledger live' (block'.objects ++ held) ∧ block.capacity ≤ block'.capacity := by
  unfold buildHeap at e
  split at e
  · rcases memBlockResizeHeap_ledger (A := A) h (headerLen + n) with ⟨e', -⟩ | ⟨b, l, e', h', -, hc⟩
    · rw [e'] at e
      cases e
    · rw [e'] at e
      cases e
      exact ⟨h', by rw [hc]; exact Nat.le_max_left _ _⟩
  · cases e

/-- What building a message in a block may come to: the assertion about its length, if it is too long, and else
nothing but that there is no memory. -/
structure BuildsIn (live : List ℕ) (block : HeapBlock) : Prop where
  tooLong : ∀ A n, maxPayloadLen < n → buildHeap A live block n = .error .payloadLength
  noMemory : ∀ A n f, n ≤ maxPayloadLen → buildHeap A live block n = .error f →
    f = .noMemory ∧ ∃ live', A.pick live' = none

theorem buildHeap_builds {live held : List ℕ} {block : HeapBlock} (h : Ledger live (block.objects ++ held)) :
    BuildsIn live block where
  tooLong A n hn := by rw [buildHeap, if_neg (Nat.not_le.mpr hn)]
  noMemory A n f hn e := by
    rw [buildHeap, if_pos hn] at e
    rcases memBlockResizeHeap_ledger (A := A) h (headerLen + n) with ⟨e', hpick⟩ | ⟨b, l, e', -⟩
    · rw [e'] at e
      cases e
      exact ⟨rfl, hpick⟩
    · rw [e'] at e
      cases e

/-- **One step.** -/
theorem HeapInv.step (h : HeapInv w) (hstep : HeapStep w w') : HeapInv w' := by
  cases hstep with
  | malloc e =>
    refine ⟨(h.ledger.malloc e).congr ?_, h.sources, h.freed⟩
    exact List.Perm.refl _
  | @free a live' ha e =>
    have hheld : Ledger w.live (a :: { w with others := w.others.erase a }.held) := by
      refine h.ledger.congr ?_
      rw [HeapProcess.held, HeapProcess.held, List.perm_iff_count]
      intro b
      have hcount := (List.perm_cons_erase ha).count_eq b
      simp only [List.count_append, List.count_cons] at hcount ⊢
      omega
    obtain ⟨live'', e', h'⟩ := heapFree_ledger hheld
    rw [e'] at e
    cases e
    exact ⟨h', h.sources, h.freed⟩
  | sinkMake e =>
    refine ⟨(sinkMakeHeap_ledger h.ledger e).congr ?_, h.sources, h.freed⟩
    rw [HeapProcess.held, HeapProcess.held, List.perm_iff_count]
    intro a
    simp only [List.flatMap_cons, List.count_append]
    omega
  | sinkBuild hs e =>
    refine ⟨(buildHeap_ok (h.sinkBuilder hs) e).1.congr ?_, h.sources, h.freed⟩
    rw [HeapProcess.held, HeapProcess.held, List.perm_iff_count]
    intro a
    simp only [List.flatMap_append, List.flatMap_cons, HeapSink.objects, List.count_append, List.count_cons]
    omega
  | sinkFree hs e =>
    obtain ⟨live', e', h'⟩ := sinkFreeHeap_ledger (h.besideSink hs)
    rw [e'] at e
    cases e
    exact ⟨h', h.sources, h.freed⟩
  | sourceMake e =>
    obtain ⟨hledger, hc⟩ := sourceMakeHeap_ledger h.ledger e
    refine ⟨hledger.congr ?_, fun s hs => ?_, h.freed⟩
    · rw [HeapProcess.held, HeapProcess.held, List.perm_iff_count]
      intro a
      simp only [List.flatMap_cons, List.count_append]
      omega
    · rcases List.mem_cons.mp hs with rfl | hs
      · rw [hc]
        decide
      · exact h.sources s hs
  | @sourceBuild A l₁ l₂ s n b live' hs e =>
    obtain ⟨hledger, hc⟩ := buildHeap_ok (h.sourceBuilder hs) e
    have hmem : ∀ t ∈ l₁ ++ s :: l₂, 0 < t.builder.capacity := hs ▸ h.sources
    refine ⟨hledger.congr ?_, fun t ht => ?_, h.freed⟩
    · rw [HeapProcess.held, HeapProcess.held, List.perm_iff_count]
      intro a
      simp only [List.flatMap_append, List.flatMap_cons, HeapSource.objects, List.count_append, List.count_cons]
      omega
    · rcases List.mem_append.mp ht with ht | ht
      · exact hmem t (List.mem_append_left _ ht)
      · rcases List.mem_cons.mp ht with rfl | ht
        · exact (hmem s (List.mem_append_right _ List.mem_cons_self)).trans_le hc
        · exact hmem t (List.mem_append_right _ (List.mem_cons_of_mem _ ht))
  | @sourceFree l₁ l₂ s live' hs e =>
    obtain ⟨live'', e', h'⟩ := sourceFreeHeap_ledger (h.besideSource hs)
    rw [e'] at e
    cases e
    have hmem : ∀ t ∈ l₁ ++ s :: l₂, 0 < t.builder.capacity := hs ▸ h.sources
    refine ⟨h'.congr ?_, fun t ht => ?_, fun t ht => ?_⟩
    · rw [HeapProcess.held, HeapProcess.held, List.perm_iff_count]
      intro a
      simp only [List.flatMap_cons, List.count_append]
      omega
    · rcases List.mem_append.mp ht with ht | ht
      · exact hmem t (List.mem_append_left _ ht)
      · exact hmem t (List.mem_append_right _ (List.mem_cons_of_mem _ ht))
    · rcases List.mem_cons.mp ht with rfl | ht
      · exact hmem t (List.mem_append_right _ List.mem_cons_self)
      · exact h.freed t ht

/-- **Every state.** -/
theorem heap_inv (hr : heapProcess.Reached w) : HeapInv w := by
  refine hr.inv (fun w h => ?_) fun w w' _ h hstep => h.step hstep
  obtain ⟨hnodup, hothers, hsinks, hsources, hfreed⟩ := h
  refine ⟨⟨hnodup, ?_⟩, ?_, ?_⟩
  · rw [HeapProcess.held, hothers, hsinks, hsources, hfreed]
    simp
  · rw [hsources]
    exact fun s hs => by cases hs
  · rw [hfreed]
    exact fun s hs => by cases hs

/-! ## Runs -/

/-- An allocator for examples. -/
def exampleAllocator : Allocator where
  pick live := some (live.foldr max 0 + 1)
  fresh live a h ha := by
    have hle : a ≤ live.foldr max 0 := by
      clear h
      induction live with
      | nil => cases ha
      | cons b live ih =>
        rcases List.mem_cons.mp ha with rfl | ha
        · exact Nat.le_max_left _ _
        · exact (ih ha).trans (Nat.le_max_right _ _)
    have hpick := Option.some.inj h
    omega

/-- The only source of an example, of two objects. -/
def exampleLone : HeapSource := ⟨1, ⟨some 2, 0, 32, fun _ => rfl⟩⟩

/-- A process that makes it. -/
theorem exampleLoneMade : heapProcess.Reached ⟨[2, 1], [], [], [exampleLone], []⟩ := by
  have hmake : sourceMakeHeap exampleAllocator [] = .ok (exampleLone, [2, 1]) := rfl
  have hinit : heapProcess.Reached ⟨[], [], [], [], []⟩ := .init ⟨List.nodup_nil, rfl, rfl, rfl, rfl⟩
  exact hinit.step (.sourceMake hmake)

/-- And frees it again. -/
theorem exampleLoneFreed : heapProcess.Reached ⟨[2], [], [], [], [exampleLone]⟩ := by
  have hfree : sourceFreeHeap [2, 1] exampleLone = .ok [2] := rfl
  exact exampleLoneMade.step (@HeapStep.sourceFree _ [] [] exampleLone _ rfl hfree)

/-- **Nothing is freed that is not allocated**: whenever a sink or a source is freed, that goes through, and a message
is built unless it is longer than a message can be, or there is no memory. -/
theorem heap_never_faults (hr : heapProcess.Reached w) :
    (∀ s ∈ w.sinks, (∃ live', sinkFreeHeap w.live s = .ok live') ∧ BuildsIn w.live s.builder) ∧
      ∀ s ∈ w.sources, (∃ live', sourceFreeHeap w.live s = .ok live') ∧ BuildsIn w.live s.builder := by
  have h := heap_inv hr
  constructor
  · intro s hs
    obtain ⟨l₁, l₂, hsplit⟩ := List.append_of_mem hs
    obtain ⟨live', e, -⟩ := sinkFreeHeap_ledger (h.besideSink hsplit)
    exact ⟨⟨live', e⟩, buildHeap_builds (h.sinkBuilder hsplit)⟩
  · intro s hs
    obtain ⟨l₁, l₂, hsplit⟩ := List.append_of_mem hs
    obtain ⟨live', e, -⟩ := sourceFreeHeap_ledger (h.besideSource hsplit)
    exact ⟨⟨live', e⟩, buildHeap_builds (h.sourceBuilder hsplit)⟩

theorem heap_never_faults_first :
    (∃ live', sourceFreeHeap [2, 1] exampleLone = .ok live') ∧ BuildsIn [2, 1] exampleLone.builder :=
  (heap_never_faults exampleLoneMade).2 exampleLone List.mem_cons_self

/-- One object each. -/
theorem length_flatMap_builder {l : List HeapSource} (h : ∀ s ∈ l, 0 < s.builder.capacity) :
    (l.flatMap fun s => s.builder.objects).length = l.length := by
  induction l with
  | nil => rfl
  | cons s l ih =>
    rw [List.flatMap_cons, List.length_append, HeapBlock.length_objects (h s List.mem_cons_self),
      ih fun t ht => h t (List.mem_cons_of_mem _ ht), List.length_cons, Nat.add_comm]

/-- **Every source that was freed leaves one object** for good, and nothing else is left: the live objects are those of
the rest of the process, of the sinks and the sources there are, and one of every source there was. -/
theorem freed_sources_leak (hr : heapProcess.Reached w) :
    w.live.Perm w.held ∧
      w.live.length = w.others.length + (w.sinks.flatMap HeapSink.objects).length +
        (w.sources.flatMap HeapSource.objects).length + w.freed.length := by
  have h := heap_inv hr
  refine ⟨h.ledger.perm, ?_⟩
  rw [h.ledger.perm.length_eq, HeapProcess.held, List.length_append, List.length_append, List.length_append,
    length_flatMap_builder h.freed]

theorem freed_sources_leak_first :
    [2].Perm (HeapProcess.held ⟨[2], [], [], [], [exampleLone]⟩) ∧ [2].length = 0 + 0 + 0 + 1 :=
  freed_sources_leak exampleLoneFreed

end Inv

end Atolla

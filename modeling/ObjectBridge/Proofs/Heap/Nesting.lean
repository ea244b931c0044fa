import ObjectBridge.Proofs.Heap.Survivors

/-!
Nesting. Some of the references that an object holds name its parts, and these it has from its making. As it can
only be made of what is there already, no object is a part of itself at any depth; so a descent into parts ends
after no more levels than the heap has slots.
-/

namespace ObjectBridge.Guest.Heap

variable {α : Type} {children parts : α → List Handle} {changes : Handle → α → α → Prop}

def Nested (parts : α → List Handle) (heap : Heap α) : Prop :=
  WellFounded fun part whole => heap.Refers parts whole part

theorem Nested.of_refers {heap heap' : Heap α} (nested : heap.Nested parts)
    (same : ∀ whole part, heap'.Refers parts whole part → heap.Refers parts whole part) : heap'.Nested parts :=
  Subrelation.wf (fun {part whole} refers => same whole part refers) nested

theorem Nested.of_get? {heap heap' : Heap α} (nested : heap.Nested parts)
    (same : ∀ handle object, heap'.get? handle = some object → heap.get? handle = some object) :
    heap'.Nested parts :=
  nested.of_refers fun whole _ ⟨object, found, listed⟩ => ⟨object, same whole object found, listed⟩

theorem nested_empty : (empty : Heap α).Nested parts := by
  refine ⟨fun handle => ⟨_, fun part ⟨object, found, _⟩ => ?_⟩⟩
  simp [get?, cell?_empty] at found

section Step

variable {heap heap' : Heap α} {held held' frame : Multiset Handle} (inner : ∀ object, parts object ⊆ children object)
include inner

theorem Nested.allocate {object : α} (nested : heap.Nested parts)
    (exact : heap.Exact children ((children object : Multiset Handle) + held)) :
    (heap.allocate object).2.Nested parts := by
  have earlier {whole part : Handle} (refers : (heap.allocate object).2.Refers parts whole part) :
      part ≠ (heap.allocate object).1 := by
    obtain ⟨holder, found, listed⟩ := refers
    exact exact.ne_allocated ⟨holder, found, inner holder listed⟩
  have old (handle : Handle) (different : handle ≠ (heap.allocate object).1) :
      Acc (fun part whole => (heap.allocate object).2.Refers parts whole part) handle := by
    induction nested.apply handle with
    | intro handle _ ih =>
      refine ⟨_, fun part refers => ih part ?_ (earlier refers)⟩
      exact refers.of_allocate exact.sound different
  refine ⟨fun handle => ?_⟩
  by_cases same : handle = (heap.allocate object).1
  · exact ⟨_, fun part refers => old part (earlier refers)⟩
  · exact old handle same

theorem Step.nested (step : Step children changes (heap, held) (heap', held'))
    (fixed : ∀ handle object object', changes handle object object' → parts object' = parts object)
    (exact : heap.Exact children (held + frame)) (nested : heap.Nested parts) : heap'.Nested parts := by
  cases step with
  | @acquire _ _ other cell found =>
    exact nested.of_get? fun handle object shown => by rwa [get?_acquire] at shown
  | @lower _ _ other cell found several =>
    exact nested.of_get? fun handle object shown => by rwa [get?_occupy_count found] at shown
  | @free _ _ other cell found last => exact nested.of_get? fun handle object shown => get?_of_vacate found shown
  | @allocate _ held object =>
    exact nested.allocate inner (add_assoc _ held frame ▸ exact)
  | @change _ _ _ other object object' found allowed balance =>
    refine nested.of_refers fun whole part ⟨holder, shown, listed⟩ => ?_
    rw [get?_update] at shown
    split at shown
    · rename_i same
      rw [found, Option.map_some, Option.some.injEq] at shown
      refine ⟨object, same ▸ found, ?_⟩
      rwa [← fixed _ _ _ allowed, shown]
    · exact ⟨holder, shown, listed⟩

theorem Path.nested {before after : Heap α × Multiset Handle} (path : Path children changes before after)
    (fixed : ∀ handle object object', changes handle object object' → parts object' = parts object)
    (exact : before.1.Exact children before.2) (nested : before.1.Nested parts) : after.1.Nested parts := by
  induction path with
  | refl => exact nested
  | tail path step ih =>
    have kept := Path.exact_alone path exact
    rw [← add_zero (Prod.snd _)] at kept
    exact Step.nested inner step fixed kept ih

end Step

theorem card_le_slots {heap : Heap α} {handles : Finset Handle} (live : ∀ handle ∈ handles, (heap.get? handle).isSome) :
    handles.card ≤ heap.slots.size := by
  have listed : handles ⊆ heap.handles.toFinset := fun handle member =>
    List.mem_toFinset.mpr ((mem_handles_iff heap).mpr (live handle member))
  calc handles.card ≤ heap.handles.toFinset.card := Finset.card_le_card listed
    _ ≤ heap.handles.length := List.toFinset_card_le _
    _ = heap.occupied := length_handles heap
    _ ≤ heap.slots.toList.length := List.countP_le_length
    _ = heap.slots.size := Sequence.length_toList _

theorem irrefl_of_acc {relation : Handle → Handle → Prop} {handle : Handle} (ends : Acc relation handle) :
    ¬relation handle handle := by
  intro self
  induction ends with
  | intro handle _ ih => exact ih handle self self

theorem descend_of_acc {heap : Heap α} (holds : Nat → Handle → Prop)
    (step : ∀ levels handle, (∀ part, heap.Refers parts handle part → holds levels part) → holds (levels + 1) handle)
    {handle : Handle} (ends : Acc (fun part whole => heap.Refers parts whole part) handle) {levels : Nat}
    (enough : heap.slots.size < levels) : holds levels handle := by
  suffices below : ∀ (levels : Nat) (handle : Handle) (above : Finset Handle),
      Acc (fun part whole => heap.Refers parts whole part) handle →
        (∀ whole ∈ above, Relation.TransGen (heap.Refers parts) whole handle) → heap.slots.size < levels + above.card →
          holds levels handle from below levels handle ∅ ends (by simp) (by simpa using enough)
  intro levels
  induction levels with
  | zero =>
    intro handle above _ reached room
    refine absurd (card_le_slots fun whole member => ?_) (by omega : ¬above.card ≤ heap.slots.size)
    obtain ⟨_, ⟨object, found, -⟩, -⟩ := Relation.TransGen.head'_iff.mp (reached whole member)
    exact Option.isSome_iff_exists.mpr ⟨object, found⟩
  | succ levels ih =>
    intro handle above ends reached room
    have fresh : handle ∉ above := fun member =>
      irrefl_of_acc ends.transGen (Relation.transGen_swap.mpr (reached handle member))
    refine step levels handle fun part refers => ih part (insert handle above) (ends.inv refers) (fun whole member => ?_) ?_
    · rcases Finset.mem_insert.mp member with rfl | member
      · exact .single refers
      · exact (reached whole member).tail refers
    · rw [Finset.card_insert_of_notMem fresh]
      omega

theorem Nested.descend {heap : Heap α} (nested : heap.Nested parts) (holds : Nat → Handle → Prop)
    (step : ∀ levels handle, (∀ part, heap.Refers parts handle part → holds levels part) → holds (levels + 1) handle)
    (handle : Handle) {levels : Nat} (enough : heap.slots.size < levels) : holds levels handle :=
  descend_of_acc holds step (nested.apply handle) enough

end ObjectBridge.Guest.Heap

import ObjectBridge.Guest.Heap

/-!
Slots of a heap. A heap is sound if its list of vacant slots is right; every operation keeps it so, and
an allocation in a sound heap answers a handle that names nothing before. The references that the
objects of a heap hold change with each operation by what the object concerned holds.
-/

namespace ObjectBridge.Guest.Heap

variable {α : Type}

structure Sound (heap : Heap α) : Prop where
  once : heap.free.Nodup
  vacant : ∀ index, index ∈ heap.free ↔ ∃ slot, heap.slots.get? index = some slot ∧ slot.cell = none
  counted : heap.live = heap.occupied

def references (children : α → List Handle) (heap : Heap α) : List Handle :=
  heap.objects.flatMap children

theorem sound_empty : (empty : Heap α).Sound := by
  refine ⟨List.nodup_nil, fun index => ?_, rfl⟩
  have outside : (Sequence.empty : Sequence (Slot α)).get? index = none :=
    (Sequence.get?_eq_none_iff _ _).mpr (Nat.zero_le _)
  simp [empty, outside]

theorem references_empty (children : α → List Handle) :
    (empty : Heap α).references children = [] :=
  rfl

theorem cell?_empty (handle : Handle) : (empty : Heap α).cell? handle = none := by
  have outside : (Sequence.empty : Sequence (Slot α)).get? handle.index = none :=
    (Sequence.get?_eq_none_iff _ _).mpr (Nat.zero_le _)
  simp [cell?, empty, outside]

theorem exists_slots {heap : Heap α} {index : Nat} {slot : Slot α}
    (here : heap.slots.get? index = some slot) :
    ∃ before after, heap.slots.toList = before ++ slot :: after ∧
      ∀ change, (heap.slots.modify index change).toList = before ++ change slot :: after := by
  have inList : heap.slots.toList[index]? = some slot := by simpa using here
  obtain ⟨bound, atIndex⟩ := List.getElem?_eq_some_iff.mp inList
  refine ⟨heap.slots.toList.take index, heap.slots.toList.drop (index + 1), ?_, fun change => ?_⟩
  · rw [← atIndex, List.getElem_cons_drop, List.take_append_drop]
  · rw [Sequence.toList_modify, List.modify_eq_take_cons_drop bound, atIndex]

theorem slots_of_cell {heap : Heap α} {handle : Handle} {cell : Cell α}
    (found : heap.cell? handle = some cell) :
    heap.slots.get? handle.index = some { generation := handle.generation, cell := some cell } := by
  simpa using slot_of_cell found

section Occupy

variable {heap : Heap α} {handle : Handle} {cell : Cell α} (found : heap.cell? handle = some cell)
include found

theorem sound_occupy (sound : heap.Sound) (cell' : Cell α) : (heap.occupy handle.index cell').Sound := by
  refine ⟨sound.once, fun index => ?_, ?_⟩
  · rw [show (heap.occupy handle.index cell').free = heap.free from rfl, sound.vacant index]
    simp only [occupy, Sequence.get?_modify, slots_of_cell found, Option.map_some]
    by_cases same : index = handle.index
    · simp [same, slots_of_cell found]
    · simp [same]
  · rw [occupied_occupy found]
    exact sound.counted

theorem references_occupy (children : α → List Handle) (cell' : Cell α) (other : Handle) :
    ((heap.occupy handle.index cell').references children).count other +
        (children cell.object).count other =
      (heap.references children).count other + (children cell'.object).count other := by
  obtain ⟨before, after, split, modified⟩ := exists_slots (slots_of_cell found)
  simp only [references, objects, occupy, modified, split]
  simp [List.filterMap_append, List.count_append]
  omega

theorem sound_vacate (sound : heap.Sound) : (heap.vacate handle.index).Sound := by
  have slot := slots_of_cell found
  have occupied : handle.index ∉ heap.free := by
    intro listed
    obtain ⟨other, here, vacant⟩ := (sound.vacant _).mp listed
    simp_all
  refine ⟨List.nodup_cons.mpr ⟨occupied, sound.once⟩, fun index => ?_, ?_⟩
  · simp only [vacate, List.mem_cons, sound.vacant index, Sequence.get?_modify, slot,
      Option.map_some]
    by_cases same : index = handle.index
    · simp [same]
    · simp [same]
  · obtain ⟨before, after, split, modified⟩ := exists_slots slot
    have counted := sound.counted
    simp only [Heap.occupied, vacate, modified, split] at counted ⊢
    simp [List.countP_append] at counted ⊢
    omega

theorem references_vacate (children : α → List Handle) (other : Handle) :
    ((heap.vacate handle.index).references children).count other +
        (children cell.object).count other = (heap.references children).count other := by
  obtain ⟨before, after, split, modified⟩ := exists_slots (slots_of_cell found)
  simp only [references, objects, vacate, modified, split]
  simp [List.filterMap_append, List.count_append]
  omega

end Occupy

theorem exists_slot_of_free {heap : Heap α} (sound : heap.Sound) {index : Nat} {free : List Nat}
    (listed : heap.free = index :: free) :
    ∃ slot, heap.slots.get? index = some slot ∧ slot.cell = none :=
  (sound.vacant index).mp (listed ▸ List.mem_cons_self)

theorem allocate_cases {heap : Heap α} (sound : heap.Sound) (object : α) :
    (∃ index free slot, heap.free = index :: free ∧ heap.slots.get? index = some slot ∧
      slot.cell = none ∧ heap.allocate object =
        ({ index, generation := slot.generation },
          { heap.occupy index { count := 1, object } with free, live := heap.live + 1 })) ∨
    (heap.free = [] ∧ heap.allocate object =
      ({ index := heap.slots.size, generation := 0 },
        { heap with
          slots := heap.slots.push { generation := 0, cell := some { count := 1, object } }
          live := heap.live + 1 })) := by
  cases listed : heap.free with
  | nil => exact Or.inr ⟨rfl, by simp [allocate, listed]⟩
  | cons index free =>
    obtain ⟨slot, here, vacant⟩ := exists_slot_of_free sound listed
    refine Or.inl ⟨index, free, slot, rfl, here, vacant, ?_⟩
    simp [allocate, listed, here, occupy]

theorem cell?_fst_allocate {heap : Heap α} (sound : heap.Sound) (object : α) :
    heap.cell? (heap.allocate object).1 = none := by
  rcases allocate_cases sound object with ⟨index, free, slot, -, here, vacant, made⟩ | ⟨-, made⟩
  · rw [made, cell?_of_slot _ here]
    simp [vacant]
  · have outside : heap.slots.get? heap.slots.size = none :=
      (Sequence.get?_eq_none_iff _ _).mpr (Nat.le_refl _)
    simp [made, cell?, outside]

theorem cell?_allocate {heap : Heap α} (sound : heap.Sound) (object : α) (other : Handle) :
    (heap.allocate object).2.cell? other =
      if other = (heap.allocate object).1 then some { count := 1, object } else heap.cell? other := by
  obtain ⟨place, generation⟩ := other
  rcases allocate_cases sound object with ⟨index, free, slot, -, here, vacant, made⟩ | ⟨-, made⟩
  · simp only [made]
    by_cases same : place = index
    · subst same
      rw [cell?_of_slot { index := place, generation } here]
      simp only [cell?, occupy, Sequence.get?_modify, here, if_true, Option.map_some, vacant,
        ite_self, Handle.mk.injEq, true_and]
      by_cases current : slot.generation = generation
      · simp [current]
      · simp [current, Ne.symm current]
    · simp [cell?, occupy, Sequence.get?_modify, same]
  · have outside : heap.slots.get? heap.slots.size = none :=
      (Sequence.get?_eq_none_iff _ _).mpr (Nat.le_refl _)
    simp only [made]
    by_cases same : place = heap.slots.size
    · subst same
      simp only [cell?, Sequence.get?_push, outside, if_true, Handle.mk.injEq, true_and]
      by_cases current : generation = 0
      · simp [current]
      · simp [current, Ne.symm current]
    · simp [cell?, Sequence.get?_push, same]

theorem sound_allocate {heap : Heap α} (sound : heap.Sound) (object : α) :
    (heap.allocate object).2.Sound := by
  have counted := sound.counted
  rcases allocate_cases sound object with ⟨index, free, slot, listed, here, vacant, made⟩ | ⟨none, made⟩
  · have once := sound.once
    rw [listed, List.nodup_cons] at once
    rw [made]
    refine ⟨once.2, fun other => ?_, ?_⟩
    · have before := sound.vacant other
      simp only [listed, List.mem_cons] at before
      simp only [occupy, Sequence.get?_modify, here, Option.map_some]
      by_cases same : other = index
      · simp [same, once.1]
      · simpa [same] using before
    · obtain ⟨before, after, split, modified⟩ := exists_slots here
      simp only [Heap.occupied, occupy, modified, split] at counted ⊢
      simp [List.countP_append, vacant] at counted ⊢
      omega
  · rw [made]
    refine ⟨by simp [none], fun other => ?_, ?_⟩
    · have before := sound.vacant other
      have outside : heap.slots.get? heap.slots.size = Option.none :=
        (Sequence.get?_eq_none_iff _ _).mpr (Nat.le_refl _)
      simp only [none, Sequence.get?_push] at before ⊢
      by_cases last : other = heap.slots.size
      · simp [last]
      · simpa [last] using before
    · simp only [Heap.occupied] at counted ⊢
      simp [List.countP_append, counted]

theorem references_allocate {heap : Heap α} (sound : heap.Sound) (children : α → List Handle)
    (object : α) (other : Handle) :
    ((heap.allocate object).2.references children).count other =
      (heap.references children).count other + (children object).count other := by
  rcases allocate_cases sound object with ⟨index, free, slot, -, here, vacant, made⟩ | ⟨-, made⟩
  · obtain ⟨before, after, split, modified⟩ := exists_slots here
    rw [made]
    simp only [references, objects, occupy, modified, split]
    simp [List.filterMap_append, List.count_append, vacant]
    omega
  · rw [made]
    simp [references, objects, List.filterMap_append, List.count_append]

theorem sound_acquire {heap : Heap α} (sound : heap.Sound) (handle : Handle) :
    (heap.acquire handle).Sound := by
  unfold acquire
  split
  · rename_i cell found
    exact sound_occupy found sound _
  · exact sound

theorem sound_update {heap : Heap α} (sound : heap.Sound) (handle : Handle) (change : α → α) :
    (heap.update handle change).Sound := by
  unfold update
  split
  · rename_i cell found
    exact sound_occupy found sound _
  · exact sound

theorem mem_references {children : α → List Handle} {heap : Heap α} {handle other : Handle}
    {object : α} (found : heap.get? handle = some object) (child : other ∈ children object) :
    other ∈ heap.references children := by
  obtain ⟨cell, here, rfl⟩ := Option.map_eq_some_iff.mp found
  obtain ⟨before, after, split, -⟩ := exists_slots (slots_of_cell here)
  refine List.mem_flatMap.mpr ⟨cell.object, ?_, child⟩
  simp [objects, split, List.filterMap_append]

theorem exists_of_mem_references {children : α → List Handle} {heap : Heap α} {other : Handle}
    (member : other ∈ heap.references children) :
    ∃ handle object, heap.get? handle = some object ∧ other ∈ children object := by
  obtain ⟨object, present, child⟩ := List.mem_flatMap.mp member
  obtain ⟨slot, inSlots, shown⟩ := List.mem_filterMap.mp present
  obtain ⟨cell, occupied, rfl⟩ := Option.map_eq_some_iff.mp shown
  obtain ⟨index, atIndex⟩ := List.mem_iff_getElem?.mp inSlots
  refine ⟨{ index, generation := slot.generation }, cell.object, ?_, child⟩
  have here : heap.slots.get? index = some slot := by simpa using atIndex
  simp [get?, cell?_of_slot { index, generation := slot.generation } here, occupied]

end ObjectBridge.Guest.Heap

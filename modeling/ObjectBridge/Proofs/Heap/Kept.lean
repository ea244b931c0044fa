import ObjectBridge.Proofs.Heap.Exact

/-!
What a reference keeps. An object to which there is a reference besides those that a step is concerned
with is not freed by the step, and no other object takes its place. So an object to which someone else
holds on stays what it is, as far as changes in place allow.
-/

namespace ObjectBridge.Guest.Heap

variable {α : Type} {children : α → List Handle} {changes : Handle → α → α → Prop}

theorem get?_of_cell {heap : Heap α} {handle : Handle} {cell : Cell α}
    (found : heap.cell? handle = some cell) : heap.get? handle = some cell.object := by
  simp [get?, found]

theorem cell_of_get? {heap : Heap α} {handle : Handle} {object : α}
    (found : heap.get? handle = some object) :
    ∃ cell, heap.cell? handle = some cell ∧ cell.object = object :=
  Option.map_eq_some_iff.mp found

theorem get?_acquire (heap : Heap α) (handle other : Handle) :
    (heap.acquire handle).get? other = heap.get? other := by
  simp only [get?, cell?_acquire]
  by_cases same : other = handle <;> simp [same, Option.map_map, Function.comp_def]

theorem get?_occupy {heap : Heap α} {handle : Handle} {cell : Cell α}
    (found : heap.cell? handle = some cell) (cell' : Cell α) (other : Handle) :
    (heap.occupy handle.index cell').get? other =
      if other = handle then some cell'.object else heap.get? other := by
  simp only [get?, cell?_occupy found]
  by_cases same : other = handle <;> simp [same]

theorem get?_occupy_count {heap : Heap α} {handle : Handle} {cell : Cell α} (found : heap.cell? handle = some cell)
    (count : Nat) (other : Handle) : (heap.occupy handle.index { cell with count }).get? other = heap.get? other := by
  rw [get?_occupy found]
  split
  · rename_i same
    rw [same, get?_of_cell found]
  · rfl

theorem get?_vacate {heap : Heap α} {handle : Handle} {cell : Cell α}
    (found : heap.cell? handle = some cell) (other : Handle) :
    (heap.vacate handle.index).get? other = if other = handle then none else heap.get? other := by
  simp only [get?, cell?_vacate found]
  by_cases same : other = handle <;> simp [same]

theorem get?_of_vacate {heap : Heap α} {handle other : Handle} {cell : Cell α} {object : α}
    (found : heap.cell? handle = some cell) (shown : (heap.vacate handle.index).get? other = some object) :
    heap.get? other = some object := by
  rw [get?_vacate found] at shown
  split at shown
  · cases shown
  · exact shown

theorem get?_allocate {heap : Heap α} (sound : heap.Sound) (object : α) (other : Handle) :
    (heap.allocate object).2.get? other =
      if other = (heap.allocate object).1 then some object else heap.get? other := by
  simp only [get?, cell?_allocate sound]
  by_cases same : other = (heap.allocate object).1 <;> simp [same]

theorem get?_allocate_of_get? {heap : Heap α} (sound : heap.Sound) {handle : Handle} {object : α} (other : α)
    (found : heap.get? handle = some object) : (heap.allocate other).2.get? handle = some object := by
  rw [get?_allocate sound, if_neg, found]
  rintro rfl
  simp [get?, cell?_fst_allocate sound] at found

theorem get?_of_allocate {heap : Heap α} {object other : α} {handle : Handle}
    (found : (heap.allocate object).2.get? handle = some other) :
    other = object ∨ heap.get? handle = some other := by
  obtain ⟨cell, here, rfl⟩ := cell_of_get? found
  have slot := slot_of_cell here
  rw [Sequence.getElem?_toList] at slot
  unfold allocate at slot
  split at slot
  · rename_i index free vacant
    dsimp only [occupy] at slot
    rw [Sequence.get?_modify] at slot
    split at slot
    · obtain ⟨earlier, -, same⟩ := Option.map_eq_some_iff.mp slot
      exact Or.inl (congrArg Cell.object (Option.some.inj (congrArg Slot.cell same))).symm
    · exact Or.inr (get?_of_cell (by simp [cell?, slot]))
  · dsimp only at slot
    rw [Sequence.get?_push] at slot
    split at slot
    · exact Or.inl (congrArg Cell.object (Option.some.inj (congrArg Slot.cell (Option.some.inj slot)))).symm
    · exact Or.inr (get?_of_cell (by simp [cell?, slot]))

theorem get?_update (heap : Heap α) (handle other : Handle) (change : α → α) :
    (heap.update handle change).get? other =
      if other = handle then (heap.get? handle).map change else heap.get? other := by
  simp only [get?, cell?_update]
  by_cases same : other = handle <;> simp [same, Option.map_map, Function.comp_def]

theorem Step.kept {heap heap' : Heap α} {held held' frame : Multiset Handle} {handle : Handle}
    (step : Step children changes (heap, held) (heap', held'))
    (exact : heap.Exact children (held + frame))
    (referred : handle ∈ frame ∨ handle ∈ heap.references children) :
    heap'.get? handle = heap.get? handle ∨
      ∃ object object', heap.get? handle = some object ∧ changes handle object object' ∧
        heap'.get? handle = some object' := by
  cases step with
  | @acquire _ _ other cell found => exact Or.inl (get?_acquire heap other handle)
  | @lower _ _ other cell found several => exact Or.inl (get?_occupy_count found _ handle)
  | @free _ held other cell found last =>
    rw [get?_vacate found]
    by_cases same : handle = other
    · -- The count would be at least two: the reference that is given back and the other one.
      subst same
      exfalso
      have count := exact.count_eq found
      simp only [Multiset.cons_add, Multiset.count_cons_self, Multiset.count_add] at count
      rcases referred with outside | inside
      · have := Multiset.count_pos.mpr outside
        omega
      · have := List.count_pos_iff.mpr inside
        omega
    · simp [same]
  | @allocate _ held object =>
    rw [get?_allocate exact.sound]
    by_cases same : handle = (heap.allocate object).1
    · -- The handle of a new object names nothing before.
      exfalso
      have unnamed := cell?_fst_allocate exact.sound object
      rw [← same] at unnamed
      obtain ⟨cell, found⟩ := exact.exists_cell <| referred.imp_left fun outside =>
        Multiset.mem_add.mpr (Or.inr outside)
      simp [found] at unnamed
    · simp [same]
  | @change _ _ _ other object object' found allowed balance =>
    rw [get?_update]
    by_cases same : handle = other
    · subst same
      exact Or.inr ⟨object, object', found, allowed, by simp [found]⟩
    · simp [same]

theorem Path.kept {before after : Heap α × Multiset Handle} {frame : Multiset Handle} {handle : Handle}
    {property : α → Prop} (closed : ∀ object object', changes handle object object' →
      property object → property object')
    (path : Path children changes before after) (exact : before.1.Exact children (before.2 + frame))
    (outside : handle ∈ frame) (holds : ∃ object, before.1.get? handle = some object ∧ property object) :
    ∃ object, after.1.get? handle = some object ∧ property object := by
  induction path with
  | refl => exact holds
  | tail path step ih =>
    obtain ⟨object, found, here⟩ := ih
    rcases step.kept (Path.exact path exact) (Or.inl outside) with same | ⟨old, new, was, allowed, now⟩
    · exact ⟨object, same.trans found, here⟩
    · obtain rfl : old = object := by simpa [found, eq_comm] using was
      exact ⟨new, now, closed old new allowed here⟩

end ObjectBridge.Guest.Heap

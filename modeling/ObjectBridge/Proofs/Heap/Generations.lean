import ObjectBridge.Proofs.Heap.Kept

/-!
Generations of slots. Nothing but the end of its object moves the generation of a slot on. So an object is
there as long as the generation of its slot stays what it was.
-/

namespace ObjectBridge.Guest.Heap

variable {α : Type}

def generation? (heap : Heap α) (index : Nat) : Option UInt32 :=
  (heap.slots.get? index).map (·.generation)

theorem generation?_of_cell {heap : Heap α} {handle : Handle} {cell : Cell α}
    (found : heap.cell? handle = some cell) : heap.generation? handle.index = some handle.generation := by
  rw [generation?, slots_of_cell found, Option.map_some]

theorem generation?_of_get? {heap : Heap α} {handle : Handle} {object : α}
    (found : heap.get? handle = some object) : heap.generation? handle.index = some handle.generation := by
  obtain ⟨cell, here, -⟩ := cell_of_get? found
  exact generation?_of_cell here

theorem generation?_occupy (heap : Heap α) (index : Nat) (cell : Cell α) (other : Nat) :
    (heap.occupy index cell).generation? other = heap.generation? other := by
  simp only [generation?, occupy, Sequence.get?_modify]
  split
  · rename_i same
    simp [same, Option.map_map, Function.comp_def]
  · rfl

theorem generation?_acquire (heap : Heap α) (handle : Handle) (other : Nat) :
    (heap.acquire handle).generation? other = heap.generation? other := by
  unfold acquire
  split
  · exact generation?_occupy _ _ _ _
  · rfl

theorem generation?_update (heap : Heap α) (handle : Handle) (change : α → α) (other : Nat) :
    (heap.update handle change).generation? other = heap.generation? other := by
  unfold update
  split
  · exact generation?_occupy _ _ _ _
  · rfl

theorem generation?_vacate (heap : Heap α) (index other : Nat) :
    (heap.vacate index).generation? other =
      if other = index then (heap.generation? index).map (· + 1) else heap.generation? other := by
  simp only [generation?, vacate, Sequence.get?_modify]
  split
  · simp [Option.map_map, Function.comp_def]
  · rfl

theorem generation?_allocate {heap : Heap α} {index : Nat} {generation : UInt32}
    (known : heap.generation? index = some generation) (object : α) :
    (heap.allocate object).2.generation? index = some generation := by
  unfold allocate
  split
  · exact (generation?_occupy heap _ _ index).trans known
  · simp only [generation?, Sequence.get?_push]
    split
    · rename_i last
      rw [generation?, last, (Sequence.get?_eq_none_iff heap.slots _).mpr (Nat.le_refl _)] at known
      cases known
    · exact known

def KeepsSlots (before after : Heap α) : Prop :=
  ∀ index generation, before.generation? index = some generation → after.generation? index = some generation

theorem KeepsSlots.refl (heap : Heap α) : KeepsSlots heap heap :=
  fun _ _ known => known

theorem KeepsSlots.trans {first second third : Heap α} (one : KeepsSlots first second)
    (two : KeepsSlots second third) : KeepsSlots first third :=
  fun index generation known => two index generation (one index generation known)

section Steps

variable {children : α → List Handle} {changes : Handle → α → α → Prop} {heap heap' : Heap α}
  {held held' frame : Multiset Handle}

theorem Step.generation (step : Step children changes (heap, held) (heap', held')) {index : Nat}
    {generation : UInt32} (known : heap.generation? index = some generation) :
    heap'.generation? index = some generation ∨ heap'.generation? index = some (generation + 1) := by
  cases step with
  | acquire found => exact Or.inl ((generation?_acquire _ _ _).trans known)
  | lower found several => exact Or.inl ((generation?_occupy _ _ _ _).trans known)
  | @free _ _ handle cell found last =>
    rw [generation?_vacate]
    split
    · rename_i same
      rw [← same, known]
      exact Or.inr rfl
    · exact Or.inl known
  | allocate object => exact Or.inl (generation?_allocate known object)
  | change found allowed balance => exact Or.inl ((generation?_update _ _ _ _).trans known)

theorem add_one_ne (generation : UInt32) : generation + 1 ≠ generation := by
  intro same
  have code := congrArg UInt32.toNat same
  rw [UInt32.toNat_add] at code
  have below := generation.toNat_lt
  have one : (1 : UInt32).toNat = 1 := rfl
  omega

theorem Step.stays (step : Step children changes (heap, held) (heap', held')) (sound : heap.Sound) {handle : Handle}
    {object : α} (found : heap.get? handle = some object)
    (same : heap'.generation? handle.index = some handle.generation) :
    ∃ object', heap'.get? handle = some object' ∧ (object' = object ∨ changes handle object object') := by
  cases step with
  | acquire here => exact ⟨object, (get?_acquire _ _ _).trans found, Or.inl rfl⟩
  | @lower _ _ other cell here several =>
    rw [get?_occupy here]
    split
    · rename_i equal
      subst equal
      exact ⟨_, rfl, Or.inl (Option.some.inj ((get?_of_cell here).symm.trans found))⟩
    · exact ⟨object, found, Or.inl rfl⟩
  | @free _ _ other cell here last =>
    rw [get?_vacate here]
    split
    · rename_i equal
      subst equal
      rw [generation?_vacate, if_pos rfl, generation?_of_cell here] at same
      exact absurd (Option.some.inj same) (add_one_ne _)
    · exact ⟨object, found, Or.inl rfl⟩
  | @allocate _ _ made =>
    rw [get?_allocate sound]
    split
    · rename_i equal
      obtain ⟨cell, here, -⟩ := cell_of_get? found
      rw [equal, cell?_fst_allocate sound made] at here
      cases here
    · exact ⟨object, found, Or.inl rfl⟩
  | @change _ _ _ other old new here allowed balance =>
    rw [get?_update]
    split
    · rename_i equal
      subst equal
      obtain rfl : old = object := Option.some.inj (here.symm.trans found)
      exact ⟨new, by rw [here, Option.map_some], Or.inr allowed⟩
    · exact ⟨object, found, Or.inl rfl⟩

end Steps

end ObjectBridge.Guest.Heap

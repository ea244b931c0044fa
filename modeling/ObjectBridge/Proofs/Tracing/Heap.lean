import ObjectBridge.Proofs.Heap.Kept

/-!
Heaps that resemble each other. They have the same slots, occupied and vacant, and in each slot objects that
resemble each other; of some objects each heap has a count of its own. What is done to both alike leaves them
so, as long as something else holds on to the objects whose counts differ: these are never freed then, however
high they are counted.
-/

namespace ObjectBridge.Guest.Heap

variable {α : Type} {children : α → List Handle}

/-- How much alike heaps are. The counts of some objects are `free`, and where an object refers to one of them
the other may refer to another. -/
structure Likeness (children : α → List Handle) where
  free : Handle → Prop
  objects : Handle → α → α → Prop
  refl : ∀ handle object, objects handle object object
  children : ∀ {handle object object'}, objects handle object object' →
    List.Forall₂ (fun first second => first = second ∨ free first ∧ free second) (children object) (children object')

namespace Likeness

variable (likeness : Likeness children)

def Handles (first second : Handle) : Prop :=
  first = second ∨ likeness.free first ∧ likeness.free second

def Cells (handle : Handle) (first second : Cell α) : Prop :=
  likeness.objects handle first.object second.object ∧ (first.count = second.count ∨ likeness.free handle)

def Slots (index : Nat) (first second : Slot α) : Prop :=
  first.generation = second.generation ∧
    Option.Rel (likeness.Cells { index, generation := first.generation }) first.cell second.cell

theorem handles_refl (handles : List Handle) : List.Forall₂ likeness.Handles handles handles :=
  List.forall₂_same.mpr fun _ _ => Or.inl rfl

theorem cells_refl (handle : Handle) (cell : Cell α) : likeness.Cells handle cell cell :=
  ⟨likeness.refl handle cell.object, Or.inl rfl⟩

theorem slots_refl (index : Nat) (slot : Slot α) : likeness.Slots index slot slot := by
  refine ⟨rfl, ?_⟩
  cases slot.cell with
  | some cell => exact .some (likeness.cells_refl _ cell)
  | none => exact .none

end Likeness

structure Like (likeness : Likeness children) (first second : Heap α) : Prop where
  slots : ∀ index, Option.Rel (likeness.Slots index) (first.slots.get? index) (second.slots.get? index)
  free : second.free = first.free
  live : second.live = first.live

variable {likeness : Likeness children} {first second : Heap α}

theorem Like.refl (heap : Heap α) : Like likeness heap heap := by
  refine ⟨fun index => ?_, rfl, rfl⟩
  cases heap.slots.get? index with
  | some slot => exact .some (likeness.slots_refl index slot)
  | none => exact .none

theorem Like.size (like : Like likeness first second) : second.slots.size = first.slots.size := by
  have within (index : Nat) : index < second.slots.size ↔ index < first.slots.size := by
    rw [← Sequence.isSome_get?_iff, ← Sequence.isSome_get?_iff]
    have related := like.slots index
    generalize first.slots.get? index = slot at related
    generalize second.slots.get? index = slot' at related
    cases related <;> simp
  have below := within second.slots.size
  have above := within first.slots.size
  omega

theorem Like.slot (like : Like likeness first second) {index : Nat} {slot slot' : Slot α}
    (here : first.slots.get? index = some slot) (here' : second.slots.get? index = some slot') :
    likeness.Slots index slot slot' := by
  have related := like.slots index
  rw [here, here'] at related
  cases related
  assumption

theorem Like.cell? (like : Like likeness first second) (handle : Handle) :
    Option.Rel (likeness.Cells handle) (first.cell? handle) (second.cell? handle) := by
  obtain ⟨index, generation⟩ := handle
  have related := like.slots index
  unfold Heap.cell?
  generalize first.slots.get? index = slot at related
  generalize second.slots.get? index = slot' at related
  cases related with
  | none => exact .none
  | @some slot slot' related =>
    obtain ⟨current, cells⟩ := related
    simp only [← current]
    split
    · rename_i here
      exact here ▸ cells
    · exact .none

theorem Like.exists_cell (like : Like likeness first second) {handle : Handle} {cell : Cell α}
    (found : first.cell? handle = some cell) :
    ∃ cell', second.cell? handle = some cell' ∧ likeness.Cells handle cell cell' := by
  have related := like.cell? handle
  rw [found] at related
  generalize second.cell? handle = other at related ⊢
  cases related with
  | some related => exact ⟨_, rfl, related⟩

theorem Like.cell?_eq_none (like : Like likeness first second) {handle : Handle}
    (stale : first.cell? handle = none) : second.cell? handle = none := by
  have related := like.cell? handle
  rw [stale] at related
  generalize second.cell? handle = other at related ⊢
  cases related
  rfl

theorem Like.get? (like : Like likeness first second) (handle : Handle) :
    Option.Rel (likeness.objects handle) (first.get? handle) (second.get? handle) := by
  have related := like.cell? handle
  unfold Heap.get?
  generalize first.cell? handle = cell at related
  generalize second.cell? handle = cell' at related
  cases related with
  | some related => exact .some related.1
  | none => exact .none

theorem Like.occupy (like : Like likeness first second) {handle : Handle} {cell cell' other other' : Cell α}
    (found : first.cell? handle = some cell) (found' : second.cell? handle = some cell')
    (cells : likeness.Cells handle other other') :
    Like likeness (first.occupy handle.index other) (second.occupy handle.index other') := by
  refine ⟨fun index => ?_, like.free, like.live⟩
  have slot := slots_of_cell found
  have slot' := slots_of_cell found'
  simp only [Heap.occupy, Sequence.get?_modify]
  split
  · rename_i here
    rw [slot, slot', Option.map_some, Option.map_some, here]
    exact .some ⟨rfl, .some cells⟩
  · exact like.slots index

theorem Like.recount_first (like : Like likeness first second) {handle : Handle} {cell : Cell α}
    (found : first.cell? handle = some cell) (free : likeness.free handle) (count : Nat) :
    Like likeness (first.occupy handle.index { cell with count }) second := by
  obtain ⟨cell', found', related⟩ := like.exists_cell found
  refine ⟨fun index => ?_, like.free, like.live⟩
  simp only [Heap.occupy, Sequence.get?_modify]
  split
  · rename_i here
    rw [slots_of_cell found, here, slots_of_cell found', Option.map_some]
    exact .some ⟨rfl, .some ⟨related.1, Or.inr free⟩⟩
  · exact like.slots index

theorem Like.occupy_second (like : Like likeness first second) {handle : Handle} {cell cell' other' : Cell α}
    (found : first.cell? handle = some cell) (found' : second.cell? handle = some cell')
    (cells : likeness.Cells handle cell other') : Like likeness first (second.occupy handle.index other') := by
  refine ⟨fun index => ?_, like.free, like.live⟩
  simp only [Heap.occupy, Sequence.get?_modify]
  split
  · rename_i here
    rw [here, slots_of_cell found, slots_of_cell found', Option.map_some]
    exact .some ⟨rfl, .some cells⟩
  · exact like.slots index

theorem Like.recount_second (like : Like likeness first second) {handle : Handle} {cell' : Cell α}
    (found' : second.cell? handle = some cell') (free : likeness.free handle) (count : Nat) :
    Like likeness first (second.occupy handle.index { cell' with count }) := by
  obtain ⟨cell, found, related⟩ : ∃ cell, first.cell? handle = some cell ∧ likeness.Cells handle cell cell' := by
    have related := like.cell? handle
    rw [found'] at related
    generalize first.cell? handle = other at related ⊢
    cases related with
    | some related => exact ⟨_, rfl, related⟩
  exact like.occupy_second found found' ⟨related.1, Or.inr free⟩

theorem Like.vacate (like : Like likeness first second) {handle : Handle} {cell cell' : Cell α}
    (found : first.cell? handle = some cell) (found' : second.cell? handle = some cell') :
    Like likeness (first.vacate handle.index) (second.vacate handle.index) := by
  refine ⟨fun index => ?_, congrArg (handle.index :: ·) like.free, congrArg (· - 1) like.live⟩
  simp only [Heap.vacate, Sequence.get?_modify]
  split
  · rename_i here
    rw [slots_of_cell found, slots_of_cell found', Option.map_some, Option.map_some]
    exact .some ⟨rfl, .none⟩
  · exact like.slots index

theorem Like.acquire (like : Like likeness first second) (handle : Handle) :
    Like likeness (first.acquire handle) (second.acquire handle) := by
  rcases found : first.cell? handle with _ | cell
  · simpa only [Heap.acquire, found, like.cell?_eq_none found] using like
  · obtain ⟨cell', found', related⟩ := like.exists_cell found
    simp only [Heap.acquire, found, found']
    exact like.occupy found found' ⟨related.1, related.2.imp (congrArg (· + 1)) id⟩

theorem Like.update (like : Like likeness first second) {handle : Handle} {change change' : α → α}
    (changed : ∀ object object', likeness.objects handle object object' →
      first.get? handle = some object → second.get? handle = some object' →
      likeness.objects handle (change object) (change' object')) :
    Like likeness (first.update handle change) (second.update handle change') := by
  rcases found : first.cell? handle with _ | cell
  · simpa only [Heap.update, found, like.cell?_eq_none found] using like
  · obtain ⟨cell', found', related⟩ := like.exists_cell found
    simp only [Heap.update, found, found']
    refine like.occupy found found' ⟨changed _ _ related.1 ?_ ?_, related.2⟩
    · rw [Heap.get?, found, Option.map_some]
    · rw [Heap.get?, found', Option.map_some]

theorem Like.allocate (like : Like likeness first second) (object : α) :
    (second.allocate object).1 = (first.allocate object).1 ∧
      Like likeness (first.allocate object).2 (second.allocate object).2 := by
  unfold Heap.allocate
  rw [like.free]
  split
  · rename_i index free listed
    have slots := like.slots index
    extract_lets cell generation occupied generation' occupied'
    have current : generation' = generation := by
      simp only [generation, generation']
      generalize first.slots.get? index = slot at slots ⊢
      generalize second.slots.get? index = slot' at slots ⊢
      cases slots with
      | some related => simp [related.1]
      | none => rfl
    refine ⟨by rw [current], fun other => ?_, rfl, congrArg (· + 1) like.live⟩
    simp only [occupied, occupied', Heap.occupy, Sequence.get?_modify]
    split
    · generalize first.slots.get? index = slot at slots ⊢
      generalize second.slots.get? index = slot' at slots ⊢
      rename_i here
      cases slots with
      | some related => exact .some ⟨related.1, .some (likeness.cells_refl _ _)⟩
      | none => exact .none
    · exact like.slots other
  · refine ⟨by rw [like.size], fun index => ?_, rfl, congrArg (· + 1) like.live⟩
    simp only [Sequence.get?_push, like.size]
    split
    · exact .some (likeness.slots_refl _ _)
    · exact like.slots index

section Release

variable {handle : Handle} {pending : List Handle} {freed : List α} {heap : Heap α} {cell : Cell α}

theorem releaseAll_of_last (found : heap.cell? handle = some cell) (last : cell.count ≤ 1) :
    heap.releaseAll children (handle :: pending) freed =
      (heap.vacate handle.index).releaseAll children ((children cell.object).reverse ++ pending)
        (cell.object :: freed) := by
  rw [releaseAll]
  split
  · simp_all
  · rename_i other here
    obtain rfl : cell = other := Option.some.inj (found.symm.trans here)
    rw [if_pos last]

theorem releaseAll_of_several (found : heap.cell? handle = some cell) (several : ¬cell.count ≤ 1) :
    heap.releaseAll children (handle :: pending) freed =
      (heap.occupy handle.index { cell with count := cell.count - 1 }).releaseAll children pending freed := by
  rw [releaseAll]
  split
  · simp_all
  · rename_i other here
    obtain rfl : cell = other := Option.some.inj (found.symm.trans here)
    rw [if_neg several]

theorem Exact.several {held : Multiset Handle} (exact : heap.Exact children (handle ::ₘ held))
    (kept : handle ∈ held ∨ handle ∈ heap.references children) (found : heap.cell? handle = some cell) :
    ¬cell.count ≤ 1 := by
  have counted := exact.count_eq found
  rw [Multiset.count_cons_self] at counted
  rcases kept with outside | inside
  · have := Multiset.count_pos.mpr outside
    omega
  · have := List.count_pos_iff.mpr inside
    omega

theorem Exact.vacate {held : Multiset Handle} (exact : heap.Exact children (handle ::ₘ held))
    (found : heap.cell? handle = some cell) (last : cell.count ≤ 1) :
    (heap.vacate handle.index).Exact children ((children cell.object : Multiset Handle) + held) := by
  have positive := exact.positive handle cell.count (by simp [count?, found])
  have step : Step children (fun _ _ _ => False) (heap, handle ::ₘ held) _ := .free found (by omega)
  simpa using step.exact (by simpa using exact : heap.Exact children (handle ::ₘ held + 0))

theorem Exact.lower {held : Multiset Handle} (exact : heap.Exact children (handle ::ₘ held))
    (found : heap.cell? handle = some cell) (several : ¬cell.count ≤ 1) :
    (heap.occupy handle.index { cell with count := cell.count - 1 }).Exact children held := by
  have step : Step children (fun _ _ _ => False) (heap, handle ::ₘ held) _ := .lower found (by omega)
  simpa using step.exact (by simpa using exact : heap.Exact children (handle ::ₘ held + 0))

end Release

/-- Heaps stay alike when references are given back to both, if others hold on to whatever has a count that
is free. -/
theorem Like.releaseAll (like : Like likeness first second) {pending pending' : List Handle} {freed freed' : List α}
    {frame frame' : Multiset Handle} (exact : first.Exact children ((pending : Multiset Handle) + frame))
    (exact' : second.Exact children ((pending' : Multiset Handle) + frame'))
    (pairs : List.Forall₂ likeness.Handles pending pending')
    (kept : ∀ handle, likeness.free handle → handle ∈ frame ∧ handle ∈ frame') :
    Like likeness (first.releaseAll children pending freed).1 (second.releaseAll children pending' freed').1 := by
  -- The induction follows the first heap; the second one goes the same way at every handle.
  fun_induction Heap.releaseAll children first pending freed generalizing second pending' freed' with
  | case1 heap freed =>
    cases pairs
    simpa only [Heap.releaseAll] using like
  | case2 heap freed handle pending stale ih =>
    have referred : handle ∈ ((handle :: pending : List Handle) : Multiset Handle) + frame := by simp
    obtain ⟨cell, found⟩ := exact.exists_cell_of_held referred
    simp [found] at stale
  | case3 heap freed handle pending cell found last ih =>
    cases pairs with
    | @cons _ handle' _ pending' same rest =>
      rw [← Multiset.cons_coe, Multiset.cons_add] at exact exact'
      have counted : ¬likeness.free handle := fun free => by
        exact exact.several (Or.inl (Multiset.mem_add.mpr (Or.inr (kept handle free).1))) found last
      obtain rfl : handle = handle' := same.resolve_right fun free => counted free.1
      obtain ⟨cell', found', related⟩ := like.exists_cell found
      have last' : cell'.count ≤ 1 := (related.2.resolve_right counted) ▸ last
      rw [releaseAll_of_last found' last']
      refine ih (like.vacate found found') ?_ ?_ ?_
      · simpa [← Multiset.coe_add, add_assoc] using exact.vacate found last
      · simpa [← Multiset.coe_add, add_assoc] using exact'.vacate found' last'
      · exact List.rel_append (List.rel_reverse (likeness.children related.1)) rest
  | case4 heap freed handle pending cell found several ih =>
    cases pairs with
    | @cons _ handle' _ pending' same rest =>
      rw [← Multiset.cons_coe, Multiset.cons_add] at exact exact'
      obtain ⟨cell', found'⟩ := exact'.exists_cell_of_held (Multiset.mem_cons_self _ _)
      have lowered : ¬cell'.count ≤ 1 ∧ Like likeness
          (heap.occupy handle.index { cell with count := cell.count - 1 })
          (second.occupy handle'.index { cell' with count := cell'.count - 1 }) := by
        -- Two handles with free counts need not be the same, but others hold on to both, so neither is vacated.
        by_cases free : likeness.free handle ∧ likeness.free handle'
        · refine ⟨exact'.several (Or.inl (Multiset.mem_add.mpr (Or.inr (kept handle' free.2).2))) found', ?_⟩
          exact (like.recount_first found free.1 _).recount_second found' free.2 _
        · obtain rfl : handle = handle' := same.resolve_right free
          obtain ⟨other, there, related⟩ := like.exists_cell found
          obtain rfl : cell' = other := Option.some.inj (found'.symm.trans there)
          have count := related.2.resolve_right fun here => free ⟨here, here⟩
          exact ⟨count ▸ several, like.occupy found found' ⟨related.1, Or.inl (congrArg (· - 1) count)⟩⟩
      rw [releaseAll_of_several found' lowered.1]
      exact ih lowered.2 (exact.lower found several) (exact'.lower found' lowered.1) rest

theorem Like.release (like : Like likeness first second) {handle handle' : Handle} {frame frame' : Multiset Handle}
    (exact : first.Exact children (handle ::ₘ frame)) (exact' : second.Exact children (handle' ::ₘ frame'))
    (same : likeness.Handles handle handle')
    (kept : ∀ handle, likeness.free handle → handle ∈ frame ∧ handle ∈ frame') :
    Like likeness (first.release children handle) (second.release children handle') :=
  like.releaseAll (by simpa using exact) (by simpa using exact') (.cons same .nil) kept

section Loose

def Likeness.loose (likeness : Likeness children) : Likeness children where
  free _ := True
  objects := likeness.objects
  refl := likeness.refl
  children related := (likeness.children related).imp fun _ _ _ => Or.inr ⟨trivial, trivial⟩

variable {handle : Handle} {held : Multiset Handle} (like : Like likeness.loose first second)
include like

theorem Like.acquire_second (handle : Handle) : Like likeness.loose first (second.acquire handle) := by
  cases found : second.cell? handle with
  | none => simpa only [Heap.acquire, found] using like
  | some cell =>
    simp only [Heap.acquire, found]
    exact like.recount_second found trivial _

theorem Like.release_second (exact : second.Exact children (handle ::ₘ held))
    (kept : handle ∈ held ∨ handle ∈ second.references children) :
    Like likeness.loose first (second.release children handle) := by
  obtain ⟨cell, found⟩ := exact.exists_cell_of_held (Multiset.mem_cons_self _ _)
  have lowered : second.release children handle = second.occupy handle.index { cell with count := cell.count - 1 } := by
    rw [Heap.release, releaseAll_of_several found (exact.several kept found), Heap.releaseAll]
  rw [lowered]
  exact like.recount_second found trivial _

theorem Like.update_second {object : α} (found : first.get? handle = some object) {change : α → α}
    (changed : ∀ object', second.get? handle = some object' → likeness.objects handle object (change object')) :
    Like likeness.loose first (second.update handle change) := by
  obtain ⟨cell, here, rfl⟩ := cell_of_get? found
  obtain ⟨cell', here', -⟩ := like.exists_cell here
  simp only [Heap.update, here']
  exact like.occupy_second here here' ⟨changed _ (get?_of_cell here'), Or.inr trivial⟩

omit like in
theorem count_eq_of_forall₂ {free : Handle → Prop} {handles handles' : List Handle}
    (pairs : List.Forall₂ (fun first second => first = second ∨ free first ∧ free second) handles handles')
    (counted : ¬free handle) : handles'.count handle = handles.count handle := by
  induction pairs with
  | nil => rfl
  | @cons first second _ _ same _ ih =>
    rcases same with rfl | ⟨free, free'⟩
    · rw [List.count_cons, List.count_cons, ih]
    · have apart : first ≠ handle := by rintro rfl; exact counted free
      have apart' : second ≠ handle := by rintro rfl; exact counted free'
      rw [List.count_cons_of_ne apart, List.count_cons_of_ne apart', ih]

theorem Like.count_references (counted : ¬likeness.free handle) :
    (second.references children).count handle = (first.references children).count handle := by
  have pairs : List.Forall₂ (fun slot slot' => ∃ index, likeness.loose.Slots index slot slot') first.slots.toList
      second.slots.toList := by
    refine List.forall₂_iff_get.mpr ⟨?_, fun index within within' => ⟨index, like.slot ?_ ?_⟩⟩
    · simpa using like.size.symm
    · simp [← Sequence.getElem?_toList]
    · simp [← Sequence.getElem?_toList]
  clear like
  unfold references objects
  generalize first.slots.toList = slots at pairs ⊢
  generalize second.slots.toList = slots' at pairs ⊢
  induction pairs with
  | nil => rfl
  | @cons slot slot' _ _ related _ ih =>
    obtain ⟨index, -, cells⟩ := related
    rcases full : slot.cell with _ | cell <;> rcases full' : slot'.cell with _ | cell' <;>
      rw [full, full'] at cells <;> cases cells
    · simpa [full, full'] using ih
    · rename_i cells
      have held := count_eq_of_forall₂ (likeness.children cells.1) counted
      simp [full, full', List.count_append, held, ih]

theorem Like.counted (exact : first.Exact children held) (exact' : second.Exact children held) :
    Like likeness first second := by
  refine ⟨fun index => ?_, like.free, like.live⟩
  have related := like.slots index
  rcases here : first.slots.get? index with _ | slot <;> rcases here' : second.slots.get? index with _ | slot' <;>
    rw [here, here'] at related <;> cases related
  · exact .none
  · rename_i related
    obtain ⟨generation, cells⟩ := related
    refine .some ⟨generation, ?_⟩
    rcases full : slot.cell with _ | cell <;> rcases full' : slot'.cell with _ | cell' <;>
      rw [full, full'] at cells <;> cases cells
    · exact .none
    · rename_i cells
      let handle : Handle := { index, generation := slot.generation }
      have found : first.cell? handle = some cell := by simp [handle, Heap.cell?, here, full]
      have found' : second.cell? handle = some cell' := by simp [handle, Heap.cell?, here', full', generation]
      refine .some ⟨cells.1, (Classical.em (likeness.free handle)).symm.imp (fun counted => ?_) id⟩
      rw [exact.count_eq found, exact'.count_eq found', like.count_references counted]

end Loose

end ObjectBridge.Guest.Heap

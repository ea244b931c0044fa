import Mathlib.Algebra.Order.Group.Multiset
import Mathlib.Logic.Relation
import ObjectBridge.Proofs.Heap.Slots

/-!
Reference accounting of a heap. Some references to its objects are held from outside, the others by
objects. A heap is exact if every count is the number of both and no object is there without one.

What can be done to a heap is a step of one of five kinds. A step changes the references that are held
from outside along with the heap, and keeps the heap exact. Giving a reference back is a run of such
steps, one for each count that is lowered and each object that is freed.
-/

namespace ObjectBridge.Guest.Heap

variable {α : Type} {children : α → List Handle} {changes : Handle → α → α → Prop}

/-- Every count is the number of references that are held from outside and by objects, and is at least
one. -/
structure Exact (children : α → List Handle) (heap : Heap α) (held : Multiset Handle) : Prop where
  sound : heap.Sound
  balance : ∀ handle,
    (heap.count? handle).getD 0 = held.count handle + (heap.references children).count handle
  positive : ∀ handle count, heap.count? handle = some count → 0 < count

/-- What can be done to a heap while references to its objects are held from outside. `changes` says
what may be made of an object. -/
inductive Step (children : α → List Handle) (changes : Handle → α → α → Prop) :
    Heap α × Multiset Handle → Heap α × Multiset Handle → Prop
  | acquire {heap held handle cell} (found : heap.cell? handle = some cell) :
      Step children changes (heap, held) (heap.acquire handle, handle ::ₘ held)
  | lower {heap held handle cell} (found : heap.cell? handle = some cell) (several : 1 < cell.count) :
      Step children changes (heap, handle ::ₘ held)
        (heap.occupy handle.index { cell with count := cell.count - 1 }, held)
  | free {heap held handle cell} (found : heap.cell? handle = some cell) (last : cell.count = 1) :
      Step children changes (heap, handle ::ₘ held)
        (heap.vacate handle.index, (children cell.object : Multiset Handle) + held)
  | allocate {heap held} (object : α) :
      Step children changes (heap, (children object : Multiset Handle) + held)
        ((heap.allocate object).2, (heap.allocate object).1 ::ₘ held)
  | change {heap held held' handle object object'} (found : heap.get? handle = some object)
      (allowed : changes handle object object')
      (balance : (children object' : Multiset Handle) + held' = (children object : Multiset Handle) + held) :
      Step children changes (heap, held) (heap.update handle fun _ => object', held')

abbrev Path (children : α → List Handle) (changes : Handle → α → α → Prop) :
    Heap α × Multiset Handle → Heap α × Multiset Handle → Prop :=
  Relation.ReflTransGen (Step children changes)

theorem exact_empty : (empty : Heap α).Exact children 0 := by
  refine ⟨sound_empty, fun handle => ?_, fun handle count found => ?_⟩
  · simp [count?, cell?_empty, references_empty]
  · simp [count?, cell?_empty] at found

section Exact

variable {heap : Heap α} {held : Multiset Handle} (exact : heap.Exact children held)
include exact

theorem Exact.exists_cell {handle : Handle}
    (referred : handle ∈ held ∨ handle ∈ heap.references children) :
    ∃ cell, heap.cell? handle = some cell := by
  have balance := exact.balance handle
  cases found : heap.cell? handle with
  | some cell => exact ⟨cell, rfl⟩
  | none =>
    simp only [count?, found, Option.map_none, Option.getD_none] at balance
    rcases referred with outside | inside
    · have := Multiset.count_pos.mpr outside
      omega
    · have := List.count_pos_iff.mpr inside
      omega

theorem Exact.exists_cell_of_held {handle : Handle} (member : handle ∈ held) :
    ∃ cell, heap.cell? handle = some cell :=
  exact.exists_cell (Or.inl member)

theorem Exact.exists_cell_of_child {handle other : Handle} {object : α}
    (found : heap.get? handle = some object) (child : other ∈ children object) :
    ∃ cell, heap.cell? other = some cell :=
  exact.exists_cell (Or.inr (mem_references found child))

theorem Exact.referred_of_cell {handle : Handle} {cell : Cell α}
    (found : heap.cell? handle = some cell) :
    handle ∈ held ∨ ∃ other object, heap.get? other = some object ∧ handle ∈ children object := by
  have balance := exact.balance handle
  have positive := exact.positive handle cell.count (by simp [count?, found])
  simp only [count?, found, Option.map_some, Option.getD_some] at balance
  by_cases outside : handle ∈ held
  · exact Or.inl outside
  · rw [Multiset.count_eq_zero_of_notMem outside] at balance
    exact Or.inr (exists_of_mem_references (List.count_pos_iff.mp (by omega)))

theorem Exact.count_eq {handle : Handle} {cell : Cell α} (found : heap.cell? handle = some cell) :
    cell.count = held.count handle + (heap.references children).count handle := by
  have balance := exact.balance handle
  simpa [count?, found] using balance

end Exact

section Counts

variable {heap : Heap α}

theorem count?_acquire (handle other : Handle) :
    (heap.acquire handle).count? other =
      if other = handle then (heap.count? handle).map (· + 1) else heap.count? other := by
  simp only [count?, cell?_acquire]
  by_cases same : other = handle <;> simp [same, Option.map_map, Function.comp_def]

theorem references_acquire (handle other : Handle) :
    ((heap.acquire handle).references children).count other =
      (heap.references children).count other := by
  unfold acquire
  split
  · rename_i cell found
    exact Nat.add_right_cancel (references_occupy found children _ other)
  · rfl

theorem count?_occupy {handle : Handle} {cell : Cell α} (found : heap.cell? handle = some cell)
    (cell' : Cell α) (other : Handle) :
    (heap.occupy handle.index cell').count? other =
      if other = handle then some cell'.count else heap.count? other := by
  simp only [count?, cell?_occupy found]
  by_cases same : other = handle <;> simp [same]

theorem count?_vacate {handle : Handle} {cell : Cell α} (found : heap.cell? handle = some cell)
    (other : Handle) :
    (heap.vacate handle.index).count? other = if other = handle then none else heap.count? other := by
  simp only [count?, cell?_vacate found]
  by_cases same : other = handle <;> simp [same]

theorem count?_allocate (sound : heap.Sound) (object : α) (other : Handle) :
    (heap.allocate object).2.count? other =
      if other = (heap.allocate object).1 then some 1 else heap.count? other := by
  simp only [count?, cell?_allocate sound]
  by_cases same : other = (heap.allocate object).1 <;> simp [same]

theorem count?_update (handle : Handle) (change : α → α) (other : Handle) :
    (heap.update handle change).count? other = heap.count? other := by
  simp only [count?, cell?_update]
  by_cases same : other = handle <;> simp [same, Option.map_map, Function.comp_def]

theorem references_update (children : α → List Handle) {handle : Handle} {object : α}
    (found : heap.get? handle = some object) (object' : α) (other : Handle) :
    ((heap.update handle fun _ => object').references children).count other +
        (children object).count other =
      (heap.references children).count other + (children object').count other := by
  obtain ⟨cell, here, rfl⟩ := Option.map_eq_some_iff.mp found
  simp only [update, here]
  exact references_occupy here children { cell with object := object' } other

end Counts

theorem Step.exact {heap heap' : Heap α} {held held' frame : Multiset Handle}
    (step : Step children changes (heap, held) (heap', held'))
    (exact : heap.Exact children (held + frame)) : heap'.Exact children (held' + frame) := by
  have sound := exact.sound
  cases step with
  | @acquire _ _ handle cell found =>
    refine ⟨sound_acquire sound _, fun other => ?_, fun other count shown => ?_⟩
    · have balance := exact.balance other
      rw [count?_acquire, references_acquire]
      by_cases same : other = handle
      · subst same
        simp [count?, found] at balance ⊢
        omega
      · simpa [same] using balance
    · rw [count?_acquire] at shown
      by_cases same : other = handle
      · simp [same, count?, found] at shown
        omega
      · exact exact.positive other count (by simpa only [same, if_false] using shown)
  | @lower _ _ handle cell found several =>
    refine ⟨sound_occupy found sound _, fun other => ?_, fun other count shown => ?_⟩
    · have balance := exact.balance other
      have inside : ((heap.occupy handle.index { cell with count := cell.count - 1 }).references
          children).count other = (heap.references children).count other :=
        Nat.add_right_cancel (references_occupy found children _ other)
      rw [count?_occupy found, inside]
      by_cases same : other = handle
      · subst same
        simp [count?, found] at balance ⊢
        omega
      · simpa [same] using balance
    · rw [count?_occupy found] at shown
      by_cases same : other = handle
      · simp [same] at shown
        omega
      · exact exact.positive other count (by simpa only [same, if_false] using shown)
  | @free _ held handle cell found last =>
    refine ⟨sound_vacate found sound, fun other => ?_, fun other count shown => ?_⟩
    · have balance := exact.balance other
      have inside := references_vacate found children other
      rw [count?_vacate found]
      by_cases same : other = handle
      · -- The reference that is given back was the only one.
        subst same
        simp [count?, found] at balance ⊢
        omega
      · simp [same] at balance ⊢
        omega
    · rw [count?_vacate found] at shown
      by_cases same : other = handle
      · simp [same] at shown
      · exact exact.positive other count (by simpa only [same, if_false] using shown)
  | @allocate _ held object =>
    refine ⟨sound_allocate sound object, fun other => ?_, fun other count shown => ?_⟩
    · have balance := exact.balance other
      rw [count?_allocate sound, references_allocate sound children object other]
      by_cases same : other = (heap.allocate object).1
      · have unnamed : heap.count? other = none := by
          simp [count?, same, cell?_fst_allocate sound object]
        simp [unnamed] at balance
        simp [same] at balance ⊢
        omega
      · simp [same] at balance ⊢
        omega
    · rw [count?_allocate sound] at shown
      by_cases same : other = (heap.allocate object).1
      · simp [same] at shown
        omega
      · exact exact.positive other count (by simpa only [same, if_false] using shown)
  | @change _ _ _ handle object object' found _ balanced =>
    refine ⟨sound_update sound _ _, fun other => ?_, fun other count shown => ?_⟩
    · have balance := exact.balance other
      have inside := references_update children found object' other
      have moved := congrArg (Multiset.count other) balanced
      rw [count?_update]
      simp at balance moved ⊢
      omega
    · rw [count?_update] at shown
      exact exact.positive other count shown

theorem Path.exact {before after : Heap α × Multiset Handle} {frame : Multiset Handle}
    (path : Path children changes before after) (exact : before.1.Exact children (before.2 + frame)) :
    after.1.Exact children (after.2 + frame) := by
  induction path with
  | refl => exact exact
  | tail _ step ih => exact step.exact ih

theorem Path.exact_alone {before after : Heap α × Multiset Handle}
    (path : Path children changes before after) (exact : before.1.Exact children before.2) :
    after.1.Exact children after.2 := by
  have framed := Path.exact path (by rwa [add_zero] : before.1.Exact children (before.2 + 0))
  rwa [add_zero] at framed

theorem Step.frame {heap heap' : Heap α} {held held' : Multiset Handle}
    (step : Step children changes (heap, held) (heap', held')) (frame : Multiset Handle) :
    Step children changes (heap, held + frame) (heap', held' + frame) := by
  cases step with
  | acquire found =>
    rw [Multiset.cons_add]
    exact .acquire found
  | lower found several =>
    rw [Multiset.cons_add]
    exact .lower found several
  | free found last =>
    rw [Multiset.cons_add, add_assoc]
    exact .free found last
  | allocate object =>
    rw [Multiset.cons_add, add_assoc]
    exact .allocate object
  | change found allowed balance =>
    refine .change found allowed ?_
    rw [← add_assoc, balance, add_assoc]

theorem Path.frame {before after : Heap α × Multiset Handle} (path : Path children changes before after)
    (frame : Multiset Handle) :
    Path children changes (before.1, before.2 + frame) (after.1, after.2 + frame) := by
  induction path with
  | refl => exact .refl
  | tail _ step ih => exact ih.tail (step.frame frame)

theorem path_allocate (children : α → List Handle) (changes : Handle → α → α → Prop) (heap : Heap α) (object : α)
    (held : Multiset Handle) :
    Path children changes (heap, (children object : Multiset Handle) + held)
      ((heap.allocate object).2, (heap.allocate object).1 ::ₘ held) :=
  .single (.allocate object)

theorem exact_allocate {heap : Heap α} {held : Multiset Handle} (object : α)
    (childless : children object = []) (exact : heap.Exact children held) :
    (heap.allocate object).2.Exact children ((heap.allocate object).1 ::ₘ held) := by
  have path := path_allocate children (fun _ _ _ => False) heap object held
  exact Path.exact_alone path (by simpa [childless] using exact)

theorem path_releaseAll (changes : Handle → α → α → Prop) (heap : Heap α) (pending : List Handle) (freed : List α)
    (held frame : Multiset Handle) (exact : heap.Exact children ((pending : Multiset Handle) + held + frame)) :
    Path children changes (heap, (pending : Multiset Handle) + held)
      ((heap.releaseAll children pending freed).1, held) := by
  fun_induction releaseAll children heap pending freed with
  | case1 heap freed => simpa using Relation.ReflTransGen.refl
  | case2 heap freed handle pending stale ih =>
    have first : handle ∈ ((handle :: pending : List Handle) : Multiset Handle) + held + frame := by simp
    obtain ⟨cell, found⟩ := exact.exists_cell_of_held first
    simp [found] at stale
  | case3 heap freed handle pending cell found last ih =>
    have positive := exact.positive handle cell.count (by simp [count?, found])
    have step : Step children changes (heap, ((handle :: pending : List Handle) : Multiset Handle) + held)
        (heap.vacate handle.index,
          (((children cell.object).reverse ++ pending : List Handle) : Multiset Handle) + held) := by
      rw [← Multiset.coe_add, Multiset.coe_reverse, add_assoc, ← Multiset.cons_coe,
        Multiset.cons_add]
      exact .free found (by omega)
    exact .head step (ih (step.exact exact))
  | case4 heap freed handle pending cell found several ih =>
    have step : Step children changes (heap, ((handle :: pending : List Handle) : Multiset Handle) + held)
        (heap.occupy handle.index { cell with count := cell.count - 1 },
          (pending : Multiset Handle) + held) := by
      rw [← Multiset.cons_coe, Multiset.cons_add]
      exact .lower found (by omega)
    exact .head step (ih (step.exact exact))

theorem release_of_stale {heap : Heap α} {handle : Handle} (stale : heap.cell? handle = none) :
    heap.release children handle = heap := by
  unfold release releaseAll
  split
  · simp [releaseAll]
  · simp_all

end ObjectBridge.Guest.Heap

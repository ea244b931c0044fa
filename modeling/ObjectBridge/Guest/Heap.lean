import ObjectBridge.Sequence

/-!
The heap: slots that hold objects, each with a count of the references to it. Nothing is freed but by
giving back a last reference. Giving one back may free a whole chain: an object that goes gives back
the references it holds itself.

The objects are of any type; what an object refers to is given by a function `children`.

A heap is seen through `cell?`, which answers a handle as long as the object it was given out for is
there. Below each operation stands what it does to that view.
-/

namespace ObjectBridge.Guest

/-- Names a slot of the heap and the generation it was occupied in. Each time a slot is vacated its
generation moves on, so a handle is never taken for one of a later occupant. -/
structure Handle where
  index : Nat
  generation : UInt32
deriving DecidableEq, Repr, Inhabited

namespace Handle

def id (handle : Handle) : Nat :=
  handle.generation.toNat * UInt32.size + handle.index

end Handle

structure Cell (α : Type) where
  count : Nat
  object : α

structure Slot (α : Type) where
  generation : UInt32
  cell : Option (Cell α)

/-- `free` lists the vacant slots, the last vacated first; `live` counts the occupied ones. -/
structure Heap (α : Type) where
  slots : Sequence (Slot α)
  free : List Nat
  live : Nat

namespace Heap

variable {α : Type}

def empty : Heap α :=
  { slots := .empty, free := [], live := 0 }

instance : Inhabited (Heap α) := ⟨empty⟩

def cell? (heap : Heap α) (handle : Handle) : Option (Cell α) :=
  match heap.slots.get? handle.index with
  | some slot => if slot.generation = handle.generation then slot.cell else none
  | none => none

def get? (heap : Heap α) (handle : Handle) : Option α :=
  (heap.cell? handle).map (·.object)

def count? (heap : Heap α) (handle : Handle) : Option Nat :=
  (heap.cell? handle).map (·.count)

def occupy (heap : Heap α) (index : Nat) (cell : Cell α) : Heap α :=
  { heap with slots := heap.slots.modify index fun slot => { slot with cell := some cell } }

def allocate (heap : Heap α) (object : α) : Handle × Heap α :=
  let cell : Cell α := { count := 1, object }
  match heap.free with
  | index :: free =>
    let generation := ((heap.slots.get? index).map (·.generation)).getD 0
    let heap := heap.occupy index cell
    ({ index, generation }, { heap with free, live := heap.live + 1 })
  | [] =>
    ({ index := heap.slots.size, generation := 0 },
      { heap with
        slots := heap.slots.push { generation := 0, cell := some cell }
        live := heap.live + 1 })

def update (heap : Heap α) (handle : Handle) (change : α → α) : Heap α :=
  match heap.cell? handle with
  | some cell => heap.occupy handle.index { cell with object := change cell.object }
  | none => heap

def acquire (heap : Heap α) (handle : Handle) : Heap α :=
  match heap.cell? handle with
  | some cell => heap.occupy handle.index { cell with count := cell.count + 1 }
  | none => heap

def vacate (heap : Heap α) (index : Nat) : Heap α :=
  { slots := heap.slots.modify index fun slot =>
      { generation := slot.generation + 1, cell := none }
    free := index :: heap.free
    live := heap.live - 1 }

def occupied (heap : Heap α) : Nat :=
  heap.slots.toList.countP (·.cell.isSome)

theorem countP_modify {β : Type} (test : β → Bool) (change : β → β) {items : List β} {index : Nat}
    {item : β} (here : items[index]? = some item) (holds : test item = true) :
    (items.modify index change).countP test + 1 =
      items.countP test + if test (change item) then 1 else 0 := by
  induction items generalizing index with
  | nil => simp at here
  | cons head rest ih =>
    cases index with
    | zero =>
      obtain rfl : head = item := by simpa using here
      simp only [List.modify_zero_cons, List.countP_cons, holds, if_true]
      omega
    | succ index =>
      have step := ih (show rest[index]? = some item by simpa using here)
      simp only [List.modify_succ_cons, List.countP_cons]
      omega

theorem slot_of_cell {heap : Heap α} {handle : Handle} {cell : Cell α}
    (found : heap.cell? handle = some cell) :
    heap.slots.toList[handle.index]? = some { generation := handle.generation, cell := some cell } := by
  unfold cell? at found
  split at found
  · rename_i slot atIndex
    obtain ⟨generation, content⟩ := slot
    split at found
    · rename_i same
      simp only at same found
      simpa [same, found] using atIndex
    · simp at found
  · simp at found

theorem cell?_of_slot {heap : Heap α} (handle : Handle) {slot : Slot α}
    (here : heap.slots.get? handle.index = some slot) :
    heap.cell? handle = if slot.generation = handle.generation then slot.cell else none := by
  simp [cell?, here]

theorem cell?_occupy {heap : Heap α} {handle : Handle} {cell cell' : Cell α}
    (found : heap.cell? handle = some cell) (other : Handle) :
    (heap.occupy handle.index cell').cell? other =
      if other = handle then some cell' else heap.cell? other := by
  have slot : heap.slots.get? handle.index =
      some { generation := handle.generation, cell := some cell } := by
    simpa using slot_of_cell found
  obtain ⟨index, generation⟩ := other
  obtain ⟨place, current⟩ := handle
  by_cases same : index = place
  · subst same
    have modified : (heap.occupy index cell').slots.get? index =
        some { generation := current, cell := some cell' } := by
      simp [occupy, Sequence.get?_modify, slot]
    have before : heap.cell? { index, generation } =
        if current = generation then some cell else none :=
      cell?_of_slot { index, generation } slot
    rw [cell?_of_slot _ modified, before]
    by_cases here : current = generation
    · simp [here]
    · simp [here, Ne.symm here]
  · simp [cell?, occupy, Sequence.get?_modify, same]

theorem cell?_vacate {heap : Heap α} {handle : Handle} {cell : Cell α}
    (found : heap.cell? handle = some cell) (other : Handle) :
    (heap.vacate handle.index).cell? other =
      if other = handle then none else heap.cell? other := by
  have slot : heap.slots.get? handle.index =
      some { generation := handle.generation, cell := some cell } := by
    simpa using slot_of_cell found
  obtain ⟨index, generation⟩ := other
  obtain ⟨place, current⟩ := handle
  by_cases same : index = place
  · subst same
    have modified : (heap.vacate index).slots.get? index =
        some { generation := current + 1, cell := none } := by
      simp [vacate, Sequence.get?_modify, slot]
    have before : heap.cell? { index, generation } =
        if current = generation then some cell else none :=
      cell?_of_slot { index, generation } slot
    rw [cell?_of_slot _ modified, before]
    by_cases here : current = generation
    · simp [here]
    · simp [here]
  · simp [cell?, vacate, Sequence.get?_modify, same]

theorem cell?_acquire (heap : Heap α) (handle other : Handle) :
    (heap.acquire handle).cell? other =
      if other = handle then (heap.cell? handle).map fun cell => { cell with count := cell.count + 1 }
      else heap.cell? other := by
  unfold acquire
  split
  · rename_i cell found
    simp [cell?_occupy found, found]
  · rename_i stale
    by_cases same : other = handle
    · simp [same, stale]
    · simp [same]

theorem cell?_update (heap : Heap α) (handle other : Handle) (change : α → α) :
    (heap.update handle change).cell? other =
      if other = handle then
        (heap.cell? handle).map fun cell => { cell with object := change cell.object }
      else heap.cell? other := by
  unfold update
  split
  · rename_i cell found
    simp [cell?_occupy found, found]
  · rename_i stale
    by_cases same : other = handle
    · simp [same, stale]
    · simp [same]

theorem occupied_occupy {heap : Heap α} {handle : Handle} {cell cell' : Cell α}
    (found : heap.cell? handle = some cell) :
    (heap.occupy handle.index cell').occupied = heap.occupied := by
  have counted := countP_modify (fun slot : Slot α => slot.cell.isSome)
    (fun slot => { slot with cell := some cell' }) (slot_of_cell found) rfl
  simp only [occupied, occupy, Sequence.toList_modify]
  simpa using counted

def slotReferences (children : α → List Handle) (slot : Slot α) : List Handle :=
  (slot.cell.map fun cell => children cell.object).getD []

def referenceCount (children : α → List Handle) (heap : Heap α) : Nat :=
  (heap.slots.toList.flatMap (slotReferences children)).length

theorem length_flatMap_modify {β : Type} (held : β → List Handle) (change : β → β) {items : List β} {index : Nat}
    {item : β} (here : items[index]? = some item) :
    ((items.modify index change).flatMap held).length + (held item).length =
      (items.flatMap held).length + (held (change item)).length := by
  induction items generalizing index with
  | nil => simp at here
  | cons head rest ih =>
    cases index with
    | zero =>
      obtain rfl : head = item := by simpa using here
      simp only [List.modify_zero_cons, List.flatMap_cons, List.length_append]
      omega
    | succ index =>
      have step := ih (show rest[index]? = some item by simpa using here)
      simp only [List.modify_succ_cons, List.flatMap_cons, List.length_append]
      omega

theorem referenceCount_occupy (children : α → List Handle) {heap : Heap α} {handle : Handle} {cell : Cell α}
    (found : heap.cell? handle = some cell) (count : Nat) :
    (heap.occupy handle.index { cell with count }).referenceCount children = heap.referenceCount children := by
  have counted := length_flatMap_modify (slotReferences children)
    (fun slot => { slot with cell := some { cell with count } }) (slot_of_cell found)
  simp only [referenceCount, occupy, Sequence.toList_modify]
  simpa [slotReferences] using counted

theorem referenceCount_vacate (children : α → List Handle) {heap : Heap α} {handle : Handle} {cell : Cell α}
    (found : heap.cell? handle = some cell) :
    (heap.vacate handle.index).referenceCount children + (children cell.object).length =
      heap.referenceCount children := by
  have counted := length_flatMap_modify (slotReferences children)
    (fun slot => { generation := slot.generation + 1, cell := none }) (slot_of_cell found)
  simp only [referenceCount, vacate, Sequence.toList_modify]
  simpa [slotReferences] using counted

/-- Gives back the references in `pending`, first to last. An object whose last reference goes is
freed, and the references it held come first among those still to be given back, its last child
before the others. `freed` collects what was freed. Stale handles are passed over. -/
def releaseAll (children : α → List Handle) (heap : Heap α) (pending : List Handle)
    (freed : List α) : Heap α × List α :=
  match pending with
  | [] => (heap, freed)
  | handle :: pending =>
    match _found : heap.cell? handle with
    | none => releaseAll children heap pending freed
    | some cell =>
      if cell.count ≤ 1 then
        releaseAll children (heap.vacate handle.index)
          ((children cell.object).reverse ++ pending) (cell.object :: freed)
      else
        releaseAll children (heap.occupy handle.index { cell with count := cell.count - 1 })
          pending freed
termination_by pending.length + heap.referenceCount children
decreasing_by
  · simp
  · have fewer := referenceCount_vacate children _found
    simp only [List.length_append, List.length_reverse, List.length_cons]
    omega
  · rw [referenceCount_occupy children _found]
    simp

def release (children : α → List Handle) (heap : Heap α) (handle : Handle) : Heap α :=
  (heap.releaseAll children [handle] []).1

def objects (heap : Heap α) : List α :=
  heap.slots.toList.filterMap fun slot => slot.cell.map (·.object)

def drain (heap : Heap α) : List α × Heap α :=
  (heap.objects, empty)

def handles (heap : Heap α) : List Handle :=
  heap.slots.toList.zipIdx.filterMap fun (slot, index) =>
    slot.cell.map fun _ => { index, generation := slot.generation }

end Heap

end ObjectBridge.Guest

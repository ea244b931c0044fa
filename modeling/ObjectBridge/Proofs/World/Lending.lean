import ObjectBridge.Proofs.World.Conversions

/-!
References that are taken for a while. What is given back right after it was taken leaves the world just as it was, not
only with the same objects; and so does what is taken again right after it was given back.
-/

namespace ObjectBridge

open Guest (Extent Handle)

namespace Guest.Heap

variable {α : Type} {children : α → List Handle} {heap : Heap α} {handle other : Handle} {cell cell' : Cell α}

theorem index_ne (found : heap.cell? handle = some cell) (found' : heap.cell? other = some cell')
    (different : handle ≠ other) : handle.index ≠ other.index := by
  intro same
  have slot := slot_of_cell found
  rw [same, slot_of_cell found'] at slot
  refine different ?_
  cases handle
  cases other
  simp_all

theorem acquire_of_stale (stale : heap.cell? handle = none) : heap.acquire handle = heap := by
  rw [acquire, stale]

theorem acquire_of_cell (found : heap.cell? handle = some cell) :
    heap.acquire handle = heap.occupy handle.index { cell with count := cell.count + 1 } := by
  rw [acquire, found]

theorem acquire_comm (heap : Heap α) (handle other : Handle) :
    (heap.acquire handle).acquire other = (heap.acquire other).acquire handle := by
  by_cases same : handle = other
  · rw [same]
  · have first := cell?_acquire heap other handle
    have second := cell?_acquire heap handle other
    rw [if_neg same] at first
    rw [if_neg (Ne.symm same)] at second
    cases found : heap.cell? handle with
    | none => rw [acquire_of_stale found, acquire_of_stale (first.trans found)]
    | some cell =>
      cases found' : heap.cell? other with
      | none => rw [acquire_of_stale found', acquire_of_stale (second.trans found')]
      | some cell' =>
        rw [acquire_of_cell (second.trans found'), acquire_of_cell (first.trans found), acquire_of_cell found,
          acquire_of_cell found']
        simp only [occupy, Sequence.modify_comm _ (index_ne found found' same)]

theorem release_acquire (positive : ∀ count, heap.count? handle = some count → 0 < count) :
    (heap.acquire handle).release children handle = heap := by
  cases found : heap.cell? handle with
  | none => rw [acquire_of_stale found, release_of_stale found]
  | some cell =>
    have taken : (heap.acquire handle).cell? handle = some { cell with count := cell.count + 1 } := by
      rw [cell?_acquire, if_pos rfl, found, Option.map_some]
    have several : 1 < cell.count + 1 := Nat.succ_lt_succ (positive _ (by rw [count?, found, Option.map_some]))
    have slot : heap.slots.get? handle.index = some { generation := handle.generation, cell := some cell } := by
      simpa using slot_of_cell found
    rw [release_of_several taken several, acquire_of_cell found]
    simp only [occupy, Nat.add_sub_cancel]
    rw [Sequence.modify_modify_of_eq slot rfl]

theorem acquire_release_of_several (found : heap.cell? handle = some cell) (several : 1 < cell.count) :
    (heap.release children handle).acquire handle = heap := by
  have lowered : (heap.occupy handle.index { cell with count := cell.count - 1 }).cell? handle =
      some { cell with count := cell.count - 1 } := by
    rw [cell?_occupy found, if_pos rfl]
  have restored : cell.count - 1 + 1 = cell.count := by omega
  have slot : heap.slots.get? handle.index = some { generation := handle.generation, cell := some cell } := by
    simpa using slot_of_cell found
  rw [release_of_several found several, acquire_of_cell lowered]
  simp only [occupy, restored]
  rw [Sequence.modify_modify_of_eq slot rfl]

end Guest.Heap

namespace World

variable {world : World} {held : Multiset Ref} {ref : Ref}

theorem retain_comm (world : World) (ref other : Ref) :
    (world.retain ref).retain other = (world.retain other).retain ref := by
  simp only [retain, updateSpace, mk.injEq, and_true]
  refine Array.ext_getElem? fun index => ?_
  simp only [Array.getElem?_modify]
  split <;> split <;> try rfl
  simp only [Option.map_map]
  congr 1
  funext space
  simp only [Function.comp_apply, Guest.Space.retain, Guest.Heap.acquire_comm]

theorem retainAll_cons (world : World) (ref : Ref) (refs : List Ref) :
    world.retainAll (ref :: refs) = (world.retainAll refs).retain ref := by
  induction refs generalizing world with
  | nil => rfl
  | cons other rest ih =>
    have later := ih (world.retain other)
    simp only [retainAll, List.foldl_cons] at later ⊢
    rw [retain_comm, later]

theorem roots_retainAll (world : World) (refs : List Ref) (id : SpaceId) :
    ((world.retainAll refs).space id).roots = (world.space id).roots := by
  induction refs with
  | nil => rfl
  | cons ref rest ih => rw [retainAll_cons, Bridge.roots_retain, ih]

theorem release_retain (exact : world.Exact held) (known : ref.space.index < world.spaces.size) :
    (world.retain ref).release ref = world := by
  have positive : ∀ count, (world.space ref.space).heap.count? ref.handle = some count → 0 < count := by
    intro count counted
    cases started : (world.space ref.space).roots with
    | some roots => exact ((exact.spaces ref.space).started (by simp [started])).positive _ count counted
    | none =>
      rw [((exact.spaces ref.space).ended started).1, Guest.Heap.count?, Guest.Heap.cell?_empty] at counted
      cases counted
  have here : (world.retain ref).space ref.space = (world.space ref.space).retain ref.handle := by
    rw [retain, updateSpace_eq_setSpace, space_setSpace known, if_pos rfl]
  have same : ((world.retain ref).space ref.space).release ref.handle = world.space ref.space := by
    rw [here, Guest.Space.retain, Guest.Space.release, Guest.Heap.release_acquire positive]
  rw [release, updateSpace_eq_setSpace, same, retain, updateSpace_eq_setSpace, setSpace_setSpace, setSpace_self]

theorem retain_release_of_several {cell : Guest.Cell (Guest.Object Code)}
    (known : ref.space.index < world.spaces.size)
    (found : (world.space ref.space).heap.cell? ref.handle = some cell) (several : 1 < cell.count) :
    (world.release ref).retain ref = world := by
  have here : (world.release ref).space ref.space = (world.space ref.space).release ref.handle := by
    rw [release, updateSpace_eq_setSpace, space_setSpace known, if_pos rfl]
  have same : ((world.release ref).space ref.space).retain ref.handle = world.space ref.space := by
    rw [here, Guest.Space.retain, Guest.Space.release, Guest.Heap.acquire_release_of_several found several]
  rw [retain, updateSpace_eq_setSpace, same, release, updateSpace_eq_setSpace, setSpace_setSpace, setSpace_self]

theorem leads_retained {refs : List Ref} (exact : world.Exact held) (live : ∀ ref ∈ refs, world.Live ref) :
    Leads .lasting (world, held) (world.retainAll refs, (refs : Multiset Ref) + held) := by
  have framed : world.Exact (held + 0) := by rwa [add_zero]
  exact leads_retainAll .lasting framed live

theorem releaseAll_retainAll {refs : List Ref} (exact : world.Exact held) (live : ∀ ref ∈ refs, world.Live ref) :
    (world.retainAll refs).releaseAll refs = world := by
  induction refs with
  | nil => rfl
  | cons ref rest ih =>
    have liveRest : ∀ other ∈ rest, world.Live other := fun other member => live other (List.mem_cons_of_mem _ member)
    have leads := leads_retained exact liveRest
    have known : ref.space.index < (world.retainAll rest).spaces.size :=
      (live ref List.mem_cons_self).1.trans_le leads.size
    -- The first reference is taken last, as well as first, so it is given back right after it was taken.
    rw [retainAll_cons, releaseAll, List.foldl_cons, release_retain (leads.exact_alone exact) known]
    exact ih liveRest

end World

end ObjectBridge

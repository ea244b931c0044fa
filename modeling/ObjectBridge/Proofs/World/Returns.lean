import ObjectBridge.Proofs.World.Ended
import ObjectBridge.Proofs.World.RoundTrip

/-!
What is there when references are given back: all that others hold on to, as it was.
-/

namespace ObjectBridge.World

variable {world before after : World} {owned frame : Multiset Ref} {refs : List Ref} {ref : Ref}

theorem Leads.get?_of_old (leads : Leads .temporary (before, 0) (after, owned)) (exact : before.Exact frame)
    (old : ∀ ref ∈ owned, (before.get? ref).isSome) (ref : Ref) : after.get? ref = before.get? ref := by
  have cells := leads.cell?_of_old exact old ref
  unfold cell? at cells
  rw [get?, get?, Guest.Heap.get?, Guest.Heap.get?, cells, Option.map_map]
  rfl

theorem Exact.get?_of_ended (exact : world.Exact frame) (ended : (world.space ref.space).roots = none) :
    world.get? ref = none := by
  rw [get?, ((exact.spaces ref.space).ended ended).1, Guest.Heap.get?, Guest.Heap.cell?_empty, Option.map_none]

theorem Exact.get?_releaseAll (exact : world.Exact ((refs : Multiset Ref) + frame)) {object : Guest.Object Code}
    (anchored : world.Anchored frame ref) (found : world.get? ref = some object) :
    (world.releaseAll refs).get? ref = some object := by
  have framed : world.Exact ((refs : Multiset Ref) + 0 + frame) := by rwa [add_zero]
  exact (leads_releaseAll .temporary framed).unchanged framed anchored found

theorem Exact.get?_releaseAll_of_ended (exact : world.Exact ((refs : Multiset Ref) + frame))
    (listed : ref ∈ (refs : Multiset Ref) + frame) (ended : (world.space ref.space).roots = none) :
    (world.releaseAll refs).get? ref = none := by
  have framed : world.Exact ((refs : Multiset Ref) + 0 + frame) := by rwa [add_zero]
  have released := leads_releaseAll .lasting framed
  have known := exact.known ref (Multiset.mem_add.mpr (Or.inl listed))
  exact (released.exact framed).get?_of_ended (released.ended known ended)

theorem Exact.get?_releaseAll_of_mem (exact : world.Exact ((refs : Multiset Ref) + frame)) (listed : ref ∈ frame) :
    (world.releaseAll refs).get? ref = world.get? ref := by
  have within : ref ∈ (refs : Multiset Ref) + frame := Multiset.mem_add.mpr (Or.inr listed)
  by_cases started : (world.space ref.space).roots.isSome
  · obtain ⟨object, found⟩ := exact.exists_object within started
    rw [found]
    exact exact.get?_releaseAll (anchored_of_mem (Multiset.mem_add.mpr (Or.inl listed))) found
  · have ended := Option.not_isSome_iff_eq_none.mp started
    rw [exact.get?_releaseAll_of_ended within ended, exact.get?_of_ended ended]

end ObjectBridge.World

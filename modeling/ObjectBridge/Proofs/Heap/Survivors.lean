import Mathlib.Data.List.Sigma
import Mathlib.Data.Set.Card
import Mathlib.Order.WellFounded
import ObjectBridge.Guest.Linearization
import ObjectBridge.Proofs.Heap.Kept

/-!
What survives. In an exact heap every object is reached from a reference held from outside or from a
cycle of objects: who follows references backwards without end comes by some object twice. And what is so
reached is kept by every step that takes no reference of those on the way.
-/

namespace ObjectBridge.Guest.Heap

variable {α : Type} {children : α → List Handle} {changes : Handle → α → α → Prop}

section Handles

variable (heap : Heap α)

theorem mem_handles_iff {handle : Handle} : handle ∈ heap.handles ↔ (heap.get? handle).isSome := by
  constructor
  · intro listed
    obtain ⟨⟨slot, index⟩, inSlots, shown⟩ := List.mem_filterMap.mp listed
    obtain ⟨cell, occupied, rfl⟩ := Option.map_eq_some_iff.mp shown
    have here : heap.slots.get? index = some slot := by
      simpa using List.mk_mem_zipIdx_iff_getElem?.mp inSlots
    have occupied : slot.cell = some cell := occupied
    simp [get?, cell?_of_slot { index, generation := slot.generation } here, occupied]
  · intro present
    obtain ⟨object, found⟩ := Option.isSome_iff_exists.mp present
    obtain ⟨cell, here, -⟩ := cell_of_get? found
    exact mem_handles here

theorem nodup_handles : heap.handles.Nodup := by
  have apart : heap.slots.toList.zipIdx.Pairwise fun first second => first.2 ≠ second.2 :=
    List.pairwise_map.mp (List.nodup_zipIdx_map_snd heap.slots.toList)
  refine List.pairwise_filterMap.mpr (apart.imp fun {first second} different one shown other shownOther => ?_)
  obtain ⟨-, -, rfl⟩ := Option.map_eq_some_iff.mp shown
  obtain ⟨-, -, rfl⟩ := Option.map_eq_some_iff.mp shownOther
  exact fun same => different (congrArg Handle.index same)

theorem length_handles : heap.handles.length = heap.occupied := by
  unfold handles occupied
  rw [List.length_filterMap_eq_countP, ← List.zipIdx_map_fst 0 heap.slots.toList, List.countP_map,
    List.zipIdx_map_fst]
  simp [Function.comp_def]

theorem live_eq_ncard {heap : Heap α} (sound : heap.Sound) :
    heap.live = Set.ncard {handle | (heap.get? handle).isSome} := by
  have listed : {handle | (heap.get? handle).isSome} = (heap.handles.toFinset : Set Handle) := by
    ext handle
    simp [mem_handles_iff]
  rw [listed, Set.ncard_coe_finset, List.toFinset_card_of_nodup heap.nodup_handles, length_handles,
    sound.counted]

end Handles

def Refers (children : α → List Handle) (heap : Heap α) (first second : Handle) : Prop :=
  ∃ object, heap.get? first = some object ∧ second ∈ children object

theorem Refers.of_allocate {heap : Heap α} {object : α} {first second : Handle}
    (refers : (heap.allocate object).2.Refers children first second) (sound : heap.Sound)
    (different : first ≠ (heap.allocate object).1) : heap.Refers children first second := by
  obtain ⟨holder, found, child⟩ := refers
  rw [get?_allocate sound, if_neg different] at found
  exact ⟨holder, found, child⟩

theorem Exact.ne_allocated {heap : Heap α} {held : Multiset Handle} {object : α}
    (exact : heap.Exact children ((children object : Multiset Handle) + held)) {first second : Handle}
    (refers : (heap.allocate object).2.Refers children first second) : second ≠ (heap.allocate object).1 := by
  rintro rfl
  have unnamed := cell?_fst_allocate exact.sound object
  obtain ⟨holder, found, child⟩ := refers
  rw [get?_allocate exact.sound] at found
  have live : ∃ cell, heap.cell? (heap.allocate object).1 = some cell := by
    split at found
    · obtain rfl := Option.some.inj found
      exact exact.exists_cell_of_held (by simp [child])
    · exact exact.exists_cell_of_child found child
  obtain ⟨cell, here⟩ := live
  simp [here] at unnamed

def Anchored (edge : Handle → Handle → Prop) (held : Multiset Handle) (handle : Handle) : Prop :=
  ∃ root, (root ∈ held ∨ Relation.TransGen edge root root) ∧ Relation.ReflTransGen edge root handle

section Anchored

variable {edge edge' : Handle → Handle → Prop} {held : Multiset Handle} {handle : Handle}

theorem Anchored.mono (included : ∀ first second, edge first second → edge' first second)
    (anchored : Anchored edge held handle) : Anchored edge' held handle := by
  obtain ⟨root, rooted, reached⟩ := anchored
  exact ⟨root, rooted.imp_right fun cycle => Relation.TransGen.mono included root root cycle,
    Relation.ReflTransGen.mono included root handle reached⟩

theorem Anchored.tail {next : Handle} (anchored : Anchored edge held handle) (step : edge handle next) :
    Anchored edge held next := by
  obtain ⟨root, rooted, reached⟩ := anchored
  exact ⟨root, rooted, reached.tail step⟩

theorem Anchored.supported (anchored : Anchored edge held handle) :
    handle ∈ held ∨ ∃ other, Anchored edge held other ∧ edge other handle := by
  obtain ⟨root, rooted, reached⟩ := anchored
  rcases Relation.ReflTransGen.cases_tail reached with same | ⟨other, earlier, step⟩
  · subst same
    rcases rooted with outside | cycle
    · exact Or.inl outside
    · obtain ⟨other, earlier, step⟩ := Relation.TransGen.tail'_iff.mp cycle
      exact Or.inr ⟨other, ⟨handle, Or.inr cycle, earlier⟩, step⟩
  · exact Or.inr ⟨other, ⟨root, rooted, earlier⟩, step⟩

end Anchored

theorem Exact.anchored {heap : Heap α} {held : Multiset Handle} (exact : heap.Exact children held)
    {handle : Handle} (present : (heap.get? handle).isSome) : Anchored (heap.Refers children) held handle := by
  by_contra adrift
  -- What is adrift has a predecessor that is adrift, and so on without end.
  let Adrift := {handle // (heap.get? handle).isSome ∧ ¬Anchored (heap.Refers children) held handle}
  have finite : Finite Adrift := by
    refine (Set.Finite.subset (List.finite_toSet heap.handles) fun handle found => ?_).to_subtype
    exact (mem_handles_iff heap).mpr found.1
  have preceded (item : Adrift) : ∃ other : Adrift, heap.Refers children other.1 item.1 := by
    obtain ⟨handle, present, adrift⟩ := item
    obtain ⟨object, found⟩ := Option.isSome_iff_exists.mp present
    obtain ⟨cell, found, -⟩ := cell_of_get? found
    rcases exact.referred_of_cell found with outside | ⟨other, object, here, child⟩
    · exact absurd ⟨handle, Or.inl outside, .refl⟩ adrift
    · refine ⟨⟨other, by simp [here], fun anchored => adrift (anchored.tail ⟨object, here, child⟩)⟩, ?_⟩
      exact ⟨object, here, child⟩
  let Precedes := Relation.TransGen fun first second : Adrift => heap.Refers children first.1 second.1
  have transitive : IsTrans Adrift Precedes := ⟨fun _ _ _ => Relation.TransGen.trans⟩
  have acyclic : Std.Irrefl Precedes := by
    refine ⟨fun item cycle => item.2.2 ⟨item.1, Or.inr ?_, .refl⟩⟩
    exact Relation.TransGen.lift Subtype.val (fun _ _ step => step) item item cycle
  have founded : WellFounded Precedes := Finite.wellFounded_of_trans_of_irrefl Precedes
  obtain ⟨first, -, least⟩ := founded.has_min Set.univ ⟨⟨handle, present, adrift⟩, trivial⟩
  obtain ⟨earlier, step⟩ := preceded first
  exact least earlier trivial (.single step)

theorem Path.anchored {before after : Heap α × Multiset Handle} {edge : Handle → Handle → Prop}
    {outside : Multiset Handle} {property : Handle → α → Prop}
    (path : Path children changes before after) (exact : before.1.Exact children (before.2 + outside))
    (refers : ∀ handle object, property handle object → ∀ next, edge handle next → next ∈ children object)
    (leaves : ∀ handle object object', changes handle object object' → property handle object →
      property handle object')
    (shown : ∀ handle, Anchored edge outside handle →
      ∃ object, before.1.get? handle = some object ∧ property handle object)
    {handle : Handle} (anchored : Anchored edge outside handle) :
    ∃ object, after.1.get? handle = some object ∧ property handle object := by
  induction path generalizing handle with
  | refl => exact shown handle anchored
  | @tail middle last path step ih =>
    obtain ⟨object, found, holds⟩ := ih anchored
    have referred : handle ∈ outside ∨ handle ∈ middle.1.references children := by
      refine anchored.supported.imp_right fun ⟨other, earlier, edge⟩ => ?_
      obtain ⟨holder, here, holds⟩ := ih earlier
      exact mem_references here (refers other holder holds handle edge)
    rcases step.kept (Path.exact path exact) referred with same | ⟨old, new, was, allowed, now⟩
    · exact ⟨object, same.trans found, holds⟩
    · obtain rfl : old = object := by simpa [found, eq_comm] using was
      exact ⟨new, now, leaves handle old new allowed holds⟩

theorem get?_releaseAll {heap : Heap α} {pending : List Handle} {freed : List α} {handle : Handle} {object : α}
    (found : (heap.releaseAll children pending freed).1.get? handle = some object) :
    heap.get? handle = some object := by
  fun_induction releaseAll children heap pending freed with
  | case1 heap freed => exact found
  | case2 heap freed other pending stale ih => exact ih found
  | case3 heap freed other pending cell here last ih =>
    have earlier := ih found
    rw [get?_vacate here] at earlier
    split at earlier
    · simp at earlier
    · exact earlier
  | case4 heap freed other pending cell here several ih =>
    have earlier := ih found
    rw [get?_occupy here] at earlier
    split at earlier
    · rename_i same
      subst same
      rw [get?_of_cell here]
      exact earlier
    · exact earlier

end ObjectBridge.Guest.Heap

import ObjectBridge.Proofs.Heap.Nesting
import ObjectBridge.Proofs.Space.Start

/-!
Tuples of a space. The items of a tuple are there before it and never change, so tuples are founded on objects
that are none.
-/

namespace ObjectBridge.Guest

variable {β : Type}

def Object.items : Object β → List Handle
  | .tuple items => items
  | _ => []

theorem Object.items_subset_children (object : Object β) : object.items ⊆ object.children := by
  cases object with
  | tuple items => exact List.Subset.refl items
  | _ => exact List.nil_subset _

theorem Object.Changes.items_eq {object object' : Object β} (changes : Object.Changes object object') :
    object'.items = object.items := by
  cases changes <;> rfl

namespace Space

/-- No tuple is inside itself, and the constant `None` is what it should be. -/
structure Founded (space : Space β) : Prop where
  nested : space.heap.Nested Object.items
  none : ∀ roots, space.roots = some roots → space.heap.get? roots.noneValue = some .none

theorem founded_of_ended {space : Space β} (ended : space.roots = none) (empty : space.heap = .empty) : space.Founded :=
  ⟨empty ▸ Heap.nested_empty, fun roots rooted => by simp [ended] at rooted⟩

section Nested

variable {parts : Object β → List Handle} (inner : ∀ object, parts object ⊆ object.children)
include inner

theorem nested_start : (start : Space β).heap.Nested parts := by
  obtain ⟨heap, object, types, started, -, -, -, -, -, path⟩ := exists_start (β := β)
  rw [started]
  exact Heap.Path.nested inner (path.trans (path_ofTypes _ heap object types)) (fun _ _ _ changed => changed.elim)
    Heap.exact_empty Heap.nested_empty

variable (fixed : ∀ object object', Object.Changes object object' → parts object' = parts object)
include fixed

theorem Step.nested {extent : Extent} {before after : Space β × Multiset Handle} {frame : Multiset Handle}
    (step : Step extent before after) (exact : before.1.Exact (before.2 + frame))
    (nested : before.1.heap.Nested parts) : after.1.heap.Nested parts := by
  cases step with
  | @heap _ space heap held held' started step =>
    have kept := exact.started started
    rw [add_assoc] at kept
    refine step.nested inner (fun _ object object' allowed => ?_) kept nested
    cases extent with
    | temporary => exact absurd allowed not_false
    | lasting => exact fixed object object' allowed
  | @finalize space =>
    have finalized : space.finalize.2.Exact 0 := exact_finalize exact
    rw [(finalized.ended (roots_finalize space)).1]
    exact Heap.nested_empty
  | _ => exact nested

theorem Path.nested {extent : Extent} {before after : Space β × Multiset Handle} {frame : Multiset Handle}
    (path : Path extent before after) (exact : before.1.Exact (before.2 + frame))
    (nested : before.1.heap.Nested parts) : after.1.heap.Nested parts := by
  induction path with
  | refl => exact nested
  | tail path step ih => exact step.nested inner fixed (Path.exact path exact) ih

end Nested

theorem founded_start : (start : Space β).Founded := by
  refine ⟨nested_start Object.items_subset_children, ?_⟩
  obtain ⟨heap, object, types, started, -, -, -, -, -, path⟩ := exists_start (β := β)
  have exact := Heap.Path.exact_alone path Heap.exact_empty
  have noneMade := Heap.exact_allocate .none rfl exact
  have trueMade := Heap.exact_allocate (.bool true) rfl noneMade
  rw [started]
  intro roots rooted
  obtain rfl := Option.some.inj rooted
  have found : (heap.allocate .none).2.get? (heap.allocate .none).1 = some .none := by
    rw [Heap.get?_allocate exact.sound, if_pos rfl]
  exact Heap.get?_allocate_of_get? trueMade.sound _ (Heap.get?_allocate_of_get? noneMade.sound _ found)

theorem Step.founded {extent : Extent} {before after : Space β × Multiset Handle} {frame : Multiset Handle}
    (step : Step extent before after) (exact : before.1.Exact (before.2 + frame)) (founded : before.1.Founded) :
    after.1.Founded := by
  refine ⟨step.nested Object.items_subset_children (fun _ _ changes => changes.items_eq) exact founded.nested, ?_⟩
  intro roots rooted
  cases step with
  | @heap _ space heap held held' started step =>
    have kept := exact.started started
    rw [add_assoc] at kept
    have rooted : space.roots = some roots := rooted
    have found := founded.none roots rooted
    have own : roots.noneValue ∈ frame + space.own := by
      simp [Space.own, rootHandles, rooted, Roots.handles]
    rcases step.kept kept (Or.inl own) with same | ⟨object, object', was, allowed, -⟩
    · exact same.trans found
    · obtain rfl : object = .none := by simpa [found, eq_comm] using was
      cases extent with
      | temporary => exact absurd allowed not_false
      | lasting => cases allowed
  | @finalize space => simp [roots_finalize space] at rooted
  | _ => exact founded.none roots rooted

theorem Path.founded {extent : Extent} {before after : Space β × Multiset Handle} {frame : Multiset Handle}
    (path : Path extent before after) (exact : before.1.Exact (before.2 + frame)) (founded : before.1.Founded) :
    after.1.Founded := by
  induction path with
  | refl => exact founded
  | tail path step ih => exact step.founded (Path.exact path exact) ih

end Space

end ObjectBridge.Guest

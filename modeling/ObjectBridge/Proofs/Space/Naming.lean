import ObjectBridge.Proofs.Space.Extension
import ObjectBridge.Proofs.Space.Traits

/-!
Names of types. A type has its name among its members from the moment it is made, and no member is ever taken out.
The builtin types have nothing else, and stay so.
-/

namespace ObjectBridge.Guest

variable {β : Type}

def Object.Named : Object β → Prop
  | .typeObject contents => (contents.members.get? "__name__").isSome
  | _ => True

theorem Object.Native.named {root : Handle} {object : Object β} (native : object.Native root) : object.Named := by
  cases object with
  | typeObject contents =>
    obtain ⟨-, ⟨label, members⟩, -⟩ := native
    simp [Named, members, Bindings.singleton, Bindings.get?_insert]
  | _ => trivial

namespace Space

def Named (space : Space β) : Prop :=
  ∀ handle object, space.heap.get? handle = some object → object.Named

variable {space : Space β}

theorem named_start : (start : Space β).Named := by
  obtain ⟨roots, -, -, native⟩ := exists_native_start (β := β)
  intro handle object found
  exact (native handle object found).named

theorem Path.native {extent : Extent} {held : Multiset Handle} {roots : Roots}
    (path : Path extent (start, 0) (space, held)) (rooted : space.roots = some roots) :
    roots.types.get? "object" = some roots.object ∧
      ∀ type ∈ roots.types.values, ∃ object, space.heap.get? type = some object ∧ object.Native roots.object := by
  have started : space.roots.isSome := by simp [rooted]
  obtain ⟨first, rootedFirst, based, native⟩ := exists_native_start (β := β)
  obtain rfl : first = roots := Option.some.inj (rootedFirst.symm.trans ((path.roots_eq started).symm.trans rooted))
  refine ⟨based, fun type member => ?_⟩
  have exact : (start : Space β).Exact (0 + 0) := exact_start
  have root : type ∈ (start : Space β).rootHandles := by
    rw [rootHandles, rootedFirst, Option.map_some, Option.getD_some]
    exact List.mem_append_right _ member
  obtain ⟨object, found⟩ := exact.has_root root
  exact path.kept_of (fun _ _ changes => changes.native) exact (Or.inr root) ⟨object, found, native type object found⟩
    started

end Space

def Trait.named : Trait β where
  holds _ object := object.Named
  plain _ object other := by
    cases object with
    | typeObject contents => exact absurd rfl other
    | _ => trivial
  started := Space.named_start
  made _ _ _ titled := titled
  bound _ contents name value _ titled := by
    unfold Object.Named at titled ⊢
    dsimp only at titled ⊢
    rw [Bindings.get?_insert]
    split
    · rfl
    · exact titled

end ObjectBridge.Guest

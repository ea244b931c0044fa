import ObjectBridge.Proofs.Heap.Survivors
import ObjectBridge.Proofs.Space.Modules
import ObjectBridge.Proofs.Space.Start

/-!
What is so of all types from the moment they are made. Builtin types stay what they are, and all that happens to other
types is that members are bound in them. What holds of the types that a space starts with and of those that are made
later, and withstands this, holds of all types at any time.
-/

namespace ObjectBridge.Guest

variable {β : Type}

/-- What holds of types when they are made, and goes on to hold while members are bound in them. -/
structure Trait (β : Type) where
  holds : Handle → Object β → Prop
  plain : ∀ handle object, object.kind ≠ .typeObject → holds handle object
  started : (Space.start : Space β).heap.Each holds
  made : ∀ handle contents, contents.builtin = false → (contents.members.get? "__name__").isSome →
    holds handle (.typeObject contents)
  bound : ∀ handle contents name value, contents.builtin = false → holds handle (.typeObject contents) →
    holds handle (.typeObject { contents with members := contents.members.insert name value })

namespace Trait

def Holds (trait : Trait β) (space : Space β) : Prop :=
  space.heap.Each trait.holds

open Space

variable {trait : Trait β} {space : Space β}

theorem holds_withSettable {handle : Handle} {object : Object β} {attributes : Bindings Handle} {name : String}
    {value : Handle} (place : settable object = some attributes) (holds : trait.holds handle object) :
    trait.holds handle (withSettable (attributes.insert name value) object) := by
  cases object with
  | typeObject contents =>
    by_cases builtin : contents.builtin = true
    · simp [settable, builtin] at place
    · obtain rfl : contents.members = attributes := by simpa [settable, builtin] using place
      exact trait.bound handle contents name value (by simpa using builtin) holds
  | object contents =>
    apply trait.plain
    simp [withSettable, Object.kind]
  | moduleObject contents =>
    apply trait.plain
    simp [withSettable, Object.kind]
  | _ => simp [settable] at place

theorem Holds.retain (holds : trait.Holds space) (handle : Handle) : trait.Holds (space.retain handle) :=
  Heap.Each.acquire holds handle

theorem Holds.release (holds : trait.Holds space) (handle : Handle) : trait.Holds (space.release handle) := by
  intro other object found
  exact holds other object (Heap.get?_releaseAll found)

theorem Holds.retainAll (holds : trait.Holds space) (handles : List Handle) : trait.Holds (space.retainAll handles) := by
  unfold Space.retainAll
  induction handles generalizing space with
  | nil => exact holds
  | cons handle rest ih => exact ih (holds.retain handle)

theorem Holds.releaseAll (holds : trait.Holds space) (handles : List Handle) :
    trait.Holds (space.releaseAll handles) := by
  unfold Space.releaseAll
  induction handles generalizing space with
  | nil => exact holds
  | cons handle rest ih => exact ih (holds.release handle)

theorem Holds.update (holds : trait.Holds space) {handle : Handle} {change : Object β → Object β}
    (keeps : ∀ object, space.heap.get? handle = some object → trait.holds handle object →
      trait.holds handle (change object)) : trait.Holds (space.update handle change) := by
  intro other object found
  rw [Space.update, Heap.get?_update] at found
  split at found
  · rename_i same
    obtain ⟨earlier, here, rfl⟩ := Option.map_eq_some_iff.mp found
    subst same
    exact keeps earlier here (holds _ earlier here)
  · exact holds other object found

theorem Holds.allocate (holds : trait.Holds space) {object : Object β} (made : ∀ handle, trait.holds handle object) :
    trait.Holds { space with heap := (space.heap.allocate object).2 } := by
  intro handle other found
  rcases Heap.get?_of_allocate found with rfl | earlier
  · exact made handle
  · exact holds handle other earlier

theorem Holds.bindGlobal (holds : trait.Holds space) (module : Handle) (name : String) (value : Handle) :
    trait.Holds (space.bindGlobal module name value) := by
  unfold Space.bindGlobal
  split
  · rename_i contents _
    have bound : trait.Holds (space.update module fun _ => .moduleObject
        { contents with globals := contents.globals.insert name value }) :=
      holds.update fun _ _ _ => trait.plain _ _ nofun
    extract_lets after
    split
    · exact bound.release _
    · exact bound
  · exact holds

end Trait

end ObjectBridge.Guest

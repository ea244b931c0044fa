import ObjectBridge.Proofs.Space.Nesting

/-!
Plain objects. An object that is made up of `None`, strings and tuples all the way down has the same form wherever
it is, and an object that is not has in it a first one of another kind.
-/

namespace ObjectBridge.Guest

variable {β : Type}

def Kind.isPlain : Kind → Bool
  | .none | .str | .tuple => true
  | _ => false

namespace Space

variable {space space' : Space β} {handle handle' alien : Handle}

inductive Plain (space : Space β) : Handle → Prop
  | none {handle : Handle} (found : space.heap.get? handle = some .none) : Plain space handle
  | text {handle : Handle} {text : String} (found : space.heap.get? handle = some (.str text)) : Plain space handle
  | tuple {handle : Handle} {items : List Handle} (found : space.heap.get? handle = some (.tuple items))
      (each : ∀ item ∈ items, Plain space item) : Plain space handle

/-- The second object is the first of another kind that is met in the object, from left to right and each item to
its depth before the next. -/
inductive FirstForeign (space : Space β) : Handle → Handle → Prop
  | here {alien : Handle} {object : Object β} (found : space.heap.get? alien = some object)
      (foreign : object.kind.isPlain = false) : FirstForeign space alien alien
  | inside {handle item alien : Handle} {before after : List Handle}
      (found : space.heap.get? handle = some (.tuple (before ++ item :: after)))
      (earlier : ∀ other ∈ before, Plain space other) (first : FirstForeign space item alien) :
      FirstForeign space handle alien

inductive Alike (space space' : Space β) : Handle → Handle → Prop
  | none {handle handle' : Handle} (left : space.heap.get? handle = some .none)
      (right : space'.heap.get? handle' = some .none) : Alike space space' handle handle'
  | text {handle handle' : Handle} {text : String} (left : space.heap.get? handle = some (.str text))
      (right : space'.heap.get? handle' = some (.str text)) : Alike space space' handle handle'
  | tuple {handle handle' : Handle} {items items' : List Handle}
      (left : space.heap.get? handle = some (.tuple items)) (right : space'.heap.get? handle' = some (.tuple items'))
      (length : items.length = items'.length)
      (each : ∀ (index : Nat) item item', items[index]? = some item → items'[index]? = some item' →
        Alike space space' item item') :
      Alike space space' handle handle'

theorem Plain.exists_object (plain : space.Plain handle) :
    ∃ object, space.heap.get? handle = some object ∧ object.kind.isPlain := by
  cases plain with
  | none found => exact ⟨_, found, rfl⟩
  | text found => exact ⟨_, found, rfl⟩
  | tuple found each => exact ⟨_, found, rfl⟩

theorem FirstForeign.not_plain (first : space.FirstForeign handle alien) : ¬space.Plain handle := by
  induction first with
  | here found foreign =>
    intro plain
    obtain ⟨object, found', kind⟩ := plain.exists_object
    rw [found, Option.some.injEq] at found'
    simp [found', kind] at foreign
  | inside found earlier first ih =>
    intro plain
    cases plain with
    | tuple found' each =>
      rw [found, Option.some.injEq, Object.tuple.injEq] at found'
      exact ih (each _ (by simp [← found']))
    | _ => simp_all

theorem FirstForeign.exists_object (first : space.FirstForeign handle alien) :
    ∃ object, space.heap.get? alien = some object ∧ object.kind.isPlain = false := by
  induction first with
  | here found foreign => exact ⟨_, found, foreign⟩
  | inside _ _ _ ih => exact ih

end Space

end ObjectBridge.Guest

import ObjectBridge.Proofs.Space.Traits

/-!
Operations on objects. Most operations of a space make objects, count references or change objects in place. What
modules the space lists and what its roots are is not touched by them, and types stay what they are made.
-/

namespace ObjectBridge.Guest

variable {α β γ : Type}

namespace Space

structure SameTables (before after : Space β) : Prop where
  modules : after.modules = before.modules
  roots : after.roots = before.roots

theorem SameTables.refl (space : Space β) : space.SameTables space :=
  ⟨rfl, rfl⟩

theorem SameTables.trans {first second third : Space β} (one : first.SameTables second)
    (two : second.SameTables third) : first.SameTables third :=
  ⟨two.modules.trans one.modules, two.roots.trans one.roots⟩

theorem sameTables_retainAll (space : Space β) (handles : List Handle) :
    space.SameTables (space.retainAll handles) := by
  unfold retainAll
  induction handles generalizing space with
  | nil => exact .refl space
  | cons handle rest ih =>
    have counted : space.SameTables (space.retain handle) := ⟨rfl, rfl⟩
    exact counted.trans (ih (space.retain handle))

theorem sameTables_releaseAll (space : Space β) (handles : List Handle) :
    space.SameTables (space.releaseAll handles) := by
  unfold releaseAll
  induction handles generalizing space with
  | nil => exact .refl space
  | cons handle rest ih =>
    have counted : space.SameTables (space.release handle) := ⟨rfl, rfl⟩
    exact counted.trans (ih (space.release handle))

/-- Only objects were worked on: the tables are the same, and what holds of all types still does. -/
structure OnlyObjects (before after : Space β) : Prop extends SameTables before after where
  holds : ∀ trait : Trait β, trait.Holds before → trait.Holds after

theorem OnlyObjects.refl (space : Space β) : space.OnlyObjects space :=
  ⟨.refl space, fun _ => id⟩

theorem OnlyObjects.trans {first second third : Space β} (one : first.OnlyObjects second)
    (two : second.OnlyObjects third) : first.OnlyObjects third :=
  ⟨one.toSameTables.trans two.toSameTables, fun trait => two.holds trait ∘ one.holds trait⟩

theorem onlyObjects_retain (space : Space β) (handle : Handle) : space.OnlyObjects (space.retain handle) :=
  ⟨⟨rfl, rfl⟩, fun _ holds => holds.retain handle⟩

theorem onlyObjects_release (space : Space β) (handle : Handle) : space.OnlyObjects (space.release handle) :=
  ⟨⟨rfl, rfl⟩, fun _ holds => holds.release handle⟩

theorem onlyObjects_retainAll (space : Space β) (handles : List Handle) : space.OnlyObjects (space.retainAll handles) :=
  ⟨space.sameTables_retainAll handles, fun _ holds => holds.retainAll handles⟩

theorem onlyObjects_releaseAll (space : Space β) (handles : List Handle) :
    space.OnlyObjects (space.releaseAll handles) :=
  ⟨space.sameTables_releaseAll handles, fun _ holds => holds.releaseAll handles⟩

theorem onlyObjects_update (space : Space β) (handle : Handle) {change : Object β → Object β}
    (keeps : ∀ trait : Trait β, ∀ object, space.heap.get? handle = some object → trait.holds handle object →
      trait.holds handle (change object)) :
    space.OnlyObjects (space.update handle change) :=
  ⟨⟨rfl, rfl⟩, fun trait holds => holds.update (keeps trait)⟩

theorem onlyObjects_bindGlobal (space : Space β) (module : Handle) (name : String) (value : Handle) :
    space.OnlyObjects (space.bindGlobal module name value) :=
  ⟨⟨modules_bindGlobal space module name value, roots_bindGlobal space module name value⟩,
    fun _ holds => holds.bindGlobal module name value⟩

theorem onlyObjects_addDefinition (space : Space β) (definition : Definition β) :
    space.OnlyObjects (space.addDefinition definition) :=
  ⟨⟨rfl, rfl⟩, fun _ => id⟩

end Space

open Space (OnlyObjects)

namespace Op

class OnObjects (operation : Op β α) : Prop where
  onlyObjects : ∀ {space value after}, operation.run space = .ok (value, after) → space.OnlyObjects after

instance (value : α) : OnObjects (pure value : Op β α) where
  onlyObjects ran := by
    obtain ⟨-, rfl⟩ := run_pure_eq_ok.mp ran
    exact .refl _

instance (exception : Exception) : OnObjects (throw exception : Op β α) where
  onlyObjects ran := (run_throw_ne_ok.mp ran).elim

instance (reader : Space β → Except Exception α) : OnObjects (Space.read reader) where
  onlyObjects ran := by
    obtain ⟨-, rfl⟩ := run_read_eq_ok.mp ran
    exact .refl _

instance (operation : Op β α) (next : α → Op β γ) [OnObjects operation] [∀ value, OnObjects (next value)] :
    OnObjects (operation >>= next) where
  onlyObjects ran := by
    obtain ⟨value, middle, first, rest⟩ := run_bind_eq_ok.mp ran
    exact (OnObjects.onlyObjects first).trans (OnObjects.onlyObjects rest)

instance (operation : Op β α) (change : α → γ) [OnObjects operation] : OnObjects (change <$> operation) where
  onlyObjects ran := by
    obtain ⟨value, ran, -⟩ := run_map_eq_ok.mp ran
    exact OnObjects.onlyObjects ran

instance (operation : Op β α) [OnObjects operation] : OnObjects (discard operation) where
  onlyObjects ran := by
    obtain ⟨value, ran⟩ := run_discard_eq_ok.mp ran
    exact OnObjects.onlyObjects ran

theorem OnObjects.modify {change : Space β → Space β} (same : ∀ space, OnlyObjects space (change space)) :
    OnObjects (modify change : Op β PUnit) where
  onlyObjects ran := by
    obtain rfl := run_modify_eq_ok.mp ran
    exact same _

instance (act : α → Op β PUnit) (items : List α) [each : ∀ item, OnObjects (act item)] : OnObjects (forM items act) := by
  induction items with
  | nil => exact inferInstanceAs (OnObjects (pure PUnit.unit))
  | cons item rest ih => exact inferInstanceAs (OnObjects (act item >>= fun _ => forM rest act))

instance (act : α → Op β PUnit) (item : Option α) [each : ∀ item, OnObjects (act item)] :
    OnObjects (item.forM act) := by
  cases item with
  | none => exact inferInstanceAs (OnObjects (pure PUnit.unit))
  | some item => exact each item

end Op

namespace Space

open Op

instance (handle : Handle) : OnObjects (modify (·.retain handle) : Op β PUnit) :=
  .modify fun space => space.onlyObjects_retain handle

instance (handle : Handle) : OnObjects (modify (·.release handle) : Op β PUnit) :=
  .modify fun space => space.onlyObjects_release handle

instance (handle : Handle) (entries : Bindings Handle) :
    OnObjects (modify (·.update handle fun _ => .dict entries) : Op β PUnit) :=
  .modify fun space => space.onlyObjects_update handle fun trait _ _ _ => trait.plain _ _ nofun

instance (handles : List Handle) : OnObjects (modify (·.retainAll handles) : Op β PUnit) :=
  .modify fun space => space.onlyObjects_retainAll handles

instance (handle : Handle) : OnObjects (acquire handle : Op β Handle) := by
  unfold acquire
  infer_instance

theorem onObjects_allocate {object : Object β} (made : ∀ (trait : Trait β) handle, trait.holds handle object) :
    OnObjects (allocate object) where
  onlyObjects ran := by
    obtain ⟨-, -, rfl⟩ := allocate_eq_ok.mp ran
    exact ⟨⟨rfl, rfl⟩, fun trait holds => holds.allocate (made trait)⟩

theorem onObjects_plain {object : Object β} (plain : object.kind ≠ .typeObject) : OnObjects (allocate object) :=
  onObjects_allocate fun trait handle => trait.plain handle object plain

instance (text : String) : OnObjects (allocate (.str text) : Op β Handle) :=
  onObjects_plain nofun

instance (items : List Handle) : OnObjects (allocate (.tuple items) : Op β Handle) :=
  onObjects_plain nofun

instance (entries : Bindings Handle) : OnObjects (allocate (.dict entries) : Op β Handle) :=
  onObjects_plain nofun

instance (callable : Function β) : OnObjects (allocate (.function callable)) :=
  onObjects_plain nofun

instance (receiver callable : Handle) : OnObjects (allocate (.boundMethod receiver callable) : Op β Handle) :=
  onObjects_plain nofun

instance (contents : InstanceObject) : OnObjects (allocate (.object contents) : Op β Handle) :=
  onObjects_plain nofun

instance (contents : ModuleObject) : OnObjects (allocate (.moduleObject contents) : Op β Handle) :=
  onObjects_plain nofun

instance : OnObjects (noneValue : Op β Handle) := by
  unfold noneValue
  infer_instance

instance (value : Bool) : OnObjects (boolValue value : Op β Handle) := by
  unfold boolValue
  infer_instance

instance (value : Int64) : OnObjects (newInt value : Op β Handle) :=
  onObjects_plain nofun

instance (text : String) : OnObjects (newText text : Op β Handle) :=
  inferInstanceAs (OnObjects (allocate (.str text)))

instance (items : List Handle) : OnObjects (newTuple items : Op β Handle) := by
  unfold newTuple
  simp only [List.forM_eq_forM]
  infer_instance

instance (name : String) (bound : Option Handle) (body : β) : OnObjects (newFunction name bound body) := by
  unfold newFunction
  infer_instance

instance (handle : Handle) (name : String) : OnObjects (getattr handle name : Op β Handle) := by
  have bound (function : Handle) : OnObjects (modify fun space : Space β => (space.retain handle).retain function) :=
    .modify fun space => (space.onlyObjects_retain handle).trans (onlyObjects_retain _ function)
  have answered (place : Attribute) : OnObjects (match place with
      | .plain value => acquire value
      | .method function => do
        modify fun space => (space.retain handle).retain function
        allocate (.boundMethod handle function) : Op β Handle) := by
    cases place <;> infer_instance
  unfold getattr
  infer_instance

instance (target : Handle) (name : String) (value : Handle) : OnObjects (setattr target name value : Op β Unit) where
  onlyObjects {space result after} ran := by
    obtain ⟨-, -, object, attributes, found, place, rfl⟩ := setattr_eq_ok.mp ran
    have counted := space.onlyObjects_retain value
    have bound : (space.retain value).OnlyObjects
        ((space.retain value).update target (withSettable (attributes.insert name value))) := by
      refine onlyObjects_update _ target fun trait other here holds => ?_
      obtain rfl : other = object := Option.some.inj (here.symm.trans ((Heap.get?_acquire _ _ _).trans (object_eq_ok.mp found).2))
      exact Trait.holds_withSettable place holds
    exact (counted.trans bound).trans (onlyObjects_releaseAll _ _)

instance (dict : Handle) (key : String) : OnObjects (dictGet dict key : Op β (Option Handle)) := by
  have answered (entries : Bindings Handle) : OnObjects (match entries.get? key with
      | some value => some <$> acquire value
      | none => return none : Op β (Option Handle)) := by
    split <;> infer_instance
  unfold dictGet
  infer_instance

instance (dict : Handle) (key : String) (value : Handle) : OnObjects (dictSet dict key value : Op β Unit) := by
  unfold dictSet
  infer_instance

instance (dict : Handle) (key : String) : OnObjects (dictRemove dict key : Op β Bool) := by
  have removed (entries : Bindings Handle) : OnObjects (match entries.get? key with
      | some earlier => do
        modify (·.update dict fun _ => .dict (entries.erase key))
        modify (·.release earlier)
        return true
      | none => return false : Op β Bool) := by
    split <;> infer_instance
  unfold dictRemove
  infer_instance

instance (dict : Handle) : OnObjects (dictItems dict : Op β (List (String × Handle))) := by
  unfold dictItems
  infer_instance

instance (name : String) (bases : List Handle) (members : List (String × Handle)) :
    OnObjects (newType name bases members : Op β Handle) where
  onlyObjects {space type after} ran := by
    obtain ⟨-, -, parents, label, middle, -, -, -, named, made⟩ := newType_eq_ok.mp ran
    have counted := (space.onlyObjects_retainAll parents).trans (onlyObjects_retainAll _ (members.map (·.2)))
    have titled : OnObjects (allocate (.typeObject
        { name, bases := parents, members := (Bindings.ofList members).insert "__name__" label, builtin := false }) :
        Op β Handle) :=
      onObjects_allocate fun trait handle => trait.made handle _ rfl (by simp [Bindings.get?_insert])
    exact (counted.trans (OnObjects.onlyObjects named)).trans (titled.onlyObjects made)

instance (module : Handle) (name : String) (value : Handle) :
    OnObjects (modify (·.bindGlobal module name value) : Op β PUnit) :=
  .modify fun space => space.onlyObjects_bindGlobal module name value

instance (name : String) : OnObjects (importedModule name : Op β (Option Handle)) where
  onlyObjects {space found after} ran := by
    cases found with
    | none =>
      obtain ⟨-, rfl⟩ := importedModule_eq_none ran
      exact .refl space
    | some module =>
      obtain ⟨-, rfl⟩ := importedModule_eq_some ran
      exact space.onlyObjects_retain module

/-! ### Operations that list modules or take them out -/

theorem exists_of_createModule {name : String} {definition : Definition β} {space after : Space β} {module : Handle}
    (made : (createModule name definition).run space = .ok (module, after)) :
    space.roots.isSome ∧ ∃ filled : Space β, space.OnlyObjects filled ∧
      after = ({ filled with modules := filled.modules.insert name module } : Space β).retain module := by
  simp only [createModule, List.forM_eq_forM, run_bind_eq_ok, run_modify_eq_ok] at made
  obtain ⟨label, named, ranLabel, other, created, ranModule, _, filled, ranFunctions, _, _, rfl, acquired⟩ := made
  obtain ⟨-, rfl, rfl⟩ := acquire_eq_ok.mp acquired
  have only := ((OnObjects.onlyObjects ranLabel).trans (OnObjects.onlyObjects ranModule)).trans
    (OnObjects.onlyObjects ranFunctions)
  exact ⟨(allocate_eq_ok.mp ranLabel).1, filled, only, rfl⟩

theorem tables_createModule {name : String} {definition : Definition β} {space after : Space β} {module : Handle}
    (made : (createModule name definition).run space = .ok (module, after)) :
    space.roots.isSome ∧ after.roots = space.roots ∧ after.modules = space.modules.insert name module := by
  obtain ⟨started, filled, only, rfl⟩ := exists_of_createModule made
  exact ⟨started, only.roots, by simp [only.modules]⟩

section Traits

variable {trait : Trait β}

theorem holds_createModule {name : String} {definition : Definition β} {space after : Space β} {module : Handle}
    (made : (createModule name definition).run space = .ok (module, after)) (holds : trait.Holds space) :
    trait.Holds after := by
  obtain ⟨-, filled, only, rfl⟩ := exists_of_createModule made
  have listed : trait.Holds { filled with modules := filled.modules.insert name module } := only.holds trait holds
  exact listed.retain module

theorem holds_clearModule {space : Space β} (holds : trait.Holds space) (module : Handle) :
    trait.Holds (space.clearModule module) := by
  unfold clearModule
  split
  · rename_i contents _
    have emptied : trait.Holds (space.update module fun _ => .moduleObject { contents with globals := .empty }) :=
      holds.update fun _ _ _ => trait.plain _ _ nofun
    exact emptied.releaseAll _
  · exact holds

theorem holds_forgetModule {space : Space β} (holds : trait.Holds space) (name : String) :
    trait.Holds (space.forgetModule name) := by
  unfold forgetModule
  split
  · have unlisted : trait.Holds { space with modules := space.modules.erase name } := holds
    exact (holds_clearModule unlisted _).release _
  · exact holds

theorem holds_finalize {space : Space β} (holds : trait.Holds space) : trait.Holds space.finalize.2 := by
  unfold finalize
  split
  · exact holds
  · exact fun handle object found => by simp [Heap.drain, Heap.get?, Heap.cell?_empty] at found

end Traits

theorem sameTables_clearModule (space : Space β) (module : Handle) : space.SameTables (space.clearModule module) := by
  unfold clearModule
  split
  · rename_i contents _
    have cleared : space.SameTables (space.update module fun _ => .moduleObject { contents with globals := .empty }) :=
      ⟨rfl, rfl⟩
    exact cleared.trans (sameTables_releaseAll _ _)
  · exact .refl space

theorem roots_forgetModule (space : Space β) (name : String) : (space.forgetModule name).roots = space.roots := by
  unfold forgetModule
  split
  · exact (sameTables_clearModule _ _).roots
  · rfl

theorem get?_modules_forgetModule (space : Space β) (name other : String) :
    (space.forgetModule name).modules.get? other = if other = name then none else space.modules.get? other := by
  unfold forgetModule
  split
  · rw [modules_release, (sameTables_clearModule _ _).modules, Bindings.get?_erase]
  · rename_i unlisted
    split
    · rename_i same
      rw [same, unlisted]
    · rfl

theorem modules_finalize {space : Space β} (empty : space.roots = none → space.modules = .empty) :
    space.finalize.2.modules = .empty := by
  unfold finalize
  split
  · rename_i ended
    exact empty ended
  · rfl

end Space

end ObjectBridge.Guest

import ObjectBridge.Proofs.Space.Traits
import ObjectBridge.Proofs.World.Imports

/-!
What is so of all types of a world, whatever runs. Modules that are made for imports are no types, and a space that
starts is like any other at its start.
-/

namespace ObjectBridge

open Act
open Guest (Trait)

namespace World

def Holds (trait : Trait Code) (world : World) : Prop :=
  ∀ id, trait.Holds (world.space id)

def KeepsTrait (trait : Trait Code) (before after : World) : Prop :=
  before.Holds trait → after.Holds trait

variable {trait : Trait Code}

theorem holds_empty : empty.Holds trait := by
  intro id handle object found
  rw [space_of_unknown (Nat.not_lt_zero _)] at found
  simp [default, Guest.Heap.get?, Guest.Heap.cell?_empty] at found

theorem keepsTrait_of_spaces {before after : World} (spaces : after.spaces = before.spaces) :
    KeepsTrait trait before after := by
  intro holds id
  rw [space, spaces]
  exact holds id

theorem holds_setSpace {world : World} {id : SpaceId} {space : Space} (holds : world.Holds trait)
    (made : trait.Holds space) : (world.setSpace id space).Holds trait := by
  intro other
  by_cases known : id.index < world.spaces.size
  · rw [space_setSpace known]
    split
    · exact made
    · exact holds other
  · rw [setSpace_of_unknown known]
    exact holds other

theorem holds_addSpace {world : World} (holds : world.Holds trait) : world.addSpace.2.Holds trait := by
  intro id
  rw [space_addSpace]
  split
  · exact trait.started
  · exact holds id

theorem Quiet.keepsTrait {before after : World} (quiet : Quiet before after) : KeepsTrait trait before after :=
  fun holds id => (quiet.tables id).holds trait (holds id)

instance : CoversObjects (KeepsTrait trait) where
  refl _ := id
  trans _ _ _ one two := two ∘ one
  of_quiet quiet := quiet.keepsTrait

theorem keepsTrait_undoImport (world : World) (importing : Importing) :
    KeepsTrait trait world (world.undoImport importing) := by
  intro holds
  unfold undoImport
  rw [updateSpace_eq_setSpace]
  refine (quiet_release _ _).keepsTrait (holds_setSpace holds ?_)
  exact Guest.Space.holds_forgetModule (holds importing.space) importing.name

theorem keepsTrait_importModule {engine : Engine} (respects : engine.Respects (KeepsTrait trait)) (space : SpaceId)
    (name : String) : Act.Respects (KeepsTrait trait) (engine.importModule space name) := by
  intro world holds
  rcases engine.importModule_cases space name world with ⟨exception, -, failed⟩ | ⟨module, -, -, answered⟩ |
    ⟨definition, module, made, -, -, created, initialized⟩
  · rwa [failed]
  · rw [answered]
    exact (world.quiet_retain module).keepsTrait holds
  · rw [initialized]
    have createdHolds : (world.setSpace space made).Holds trait :=
      holds_setSpace holds (Guest.Space.holds_createModule created (holds space))
    have initializes : Act.Respects (KeepsTrait trait)
        (definition.initializers.forM (engine.runInitializer space { space, handle := module })) :=
      .forM (Engine.respects_runInitializer (respects.call space) _) _
    have lasts := initializes _ createdHolds
    have same : (Importing.created space name module definition).ref = { space, handle := module } := rfl
    rw [same]
    split
    · rename_i last ran
      rwa [ran] at lasts
    · rename_i exception last ran
      rw [ran] at lasts
      exact keepsTrait_undoImport last _ lasts

instance : CoversSpaces (KeepsTrait trait) where
  finalizes _ id holds := holds_setSpace holds (Guest.Space.holds_finalize (holds id))
  imports := keepsTrait_importModule

instance : CoversSessions (KeepsTrait trait) where
  hold _ := keepsTrait_of_spaces rfl
  drop world session holds id := ((world.onlyObjects_dropSession session).2 id).holds trait (holds id)
  close world session holds id := ((world.onlyObjects_dropModule session).2 id).holds trait (holds id)
  record _ := keepsTrait_of_spaces rfl
  enter _ _ _ := keepsTrait_of_spaces rfl
  clear _ _ := keepsTrait_of_spaces rfl
  forget _ _ := keepsTrait_of_spaces rfl
  start _ := holds_addSpace
  interpreter world name := by
    unfold World.interpreter
    split <;> exact keepsTrait_of_spaces rfl
  register _ _ _ := keepsTrait_of_spaces rfl

instance : CoversProcess (KeepsTrait trait) :=
  Bridge.coversProcess_of_place fun _ => keepsTrait_of_spaces rfl

end World

end ObjectBridge

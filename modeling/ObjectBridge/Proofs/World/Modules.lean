import ObjectBridge.Import
import ObjectBridge.Proofs.World.Calls

/-!
Balance of the import of modules. If an initializer fails, the module is taken out of the list again and
nothing is left of it but what others took.
-/

namespace ObjectBridge.Engine

open Act

theorem leads_undoImport (space : SpaceId) (name : String) {world : World} {frame : Multiset Ref}
    {module : Ref} (exact : world.Exact ({module} + frame)) :
    World.Leads .lasting (world, {module})
      ((world.updateSpace space (·.forgetModule name)).release module, 0) := by
  have forgotten : World.Leads .lasting (world, 0) (world.updateSpace space (·.forgetModule name), 0) :=
    World.leads_updateSpace (Guest.Space.path_forgetModule name (exact.spaces space))
  have known := exact.known
  rw [add_assoc] at known
  have framed := forgotten.frame (World.knows_add.mp known).1
  rw [zero_add] at framed
  exact framed.trans (World.leads_release .lasting (framed.exact exact))

theorem answers_importModule {engine : Engine} {space : SpaceId} (name : String) :
    Act.Answers (engine.importModule space name) (·.space = space) := by
  refine (Answers.trivial _).bind fun found _ => ?_
  cases found with
  | some handle => exact .pure rfl
  | none =>
    refine (Answers.trivial _).bind fun world _ => ?_
    split
    · exact .throw _
    · exact (Answers.ownedBy space _).bind fun module here => (Answers.trivial _).bind fun _ _ => .pure here

theorem settles_createModule [World.Passing] {world : World} {frame : Multiset Ref} {space : SpaceId} {name : String}
    (definition : Definition) (exact : world.Exact frame) (free : (world.space space).modules.get? name = none) :
    Settles .lasting world 0 (ownedBy space (Guest.Space.createModule name definition)) ({·}) :=
  .ownedBy (fun _ _ ran => Guest.Space.path_createModule (exact.spaces space) free ran)
    fun _ exact typed _ _ ran => Guest.Space.wellTyped_createModule exact typed ran

variable [World.Passing] {engine : Engine} (balanced : engine.Balanced) {borrowed : List Ref} {space : SpaceId}
include balanced

theorem balanced_runInitializer (module : Ref) (initializer : Guest.Initializer Code) :
    Act.Balanced .lasting borrowed 0 (engine.runInitializer space module initializer) fun _ => 0 := by
  cases initializer with
  | run body =>
    refine (Balanced.ownedBy (Guest.Space.balanced_newFunction .lasting "init" _ body)).bind fun function => ?_
    refine Balanced.lending ?_ rfl
    exact (balanced.call space function [] [] (List.forall_mem_nil _) (List.forall_mem_nil _)).bind fun result =>
      .release result
  | registry =>
    refine (Balanced.ownedBy (Guest.Space.balanced_allocate .lasting (.dict .empty))).bind fun registry => ?_
    refine Balanced.lending ?_ rfl
    refine (balanced_setattr module _ registry).bind fun _ => ?_
    refine (Balanced.ownedBy (Guest.Space.balanced_boolValue .lasting false)).bind fun flag => ?_
    exact (balanced_setattr module _ flag).lending rfl

theorem balanced_importModule (name : String) :
    Act.Balanced .lasting borrowed 0 (engine.importModule space name) ({·}) := by
  intro world frame exact lent
  have imported : Act.Balanced .lasting borrowed 0 (onSpace space (Guest.Space.importedModule name)) _ :=
    .onSpace (Guest.Space.balanced_importedModule .lasting name)
  have looked := imported world frame exact lent
  refine looked.bind fun found ran => ?_
  cases found with
  | some handle => exact .pure (by simp)
  | none =>
    -- The list is as it was, so the name is free.
    have after := looked.exact exact
    rw [ran, left_ok] at after
    obtain ⟨free, same⟩ : (world.space space).modules.get? name = none ∧
        ((onSpace space (Guest.Space.importedModule name)).run world).2 = world := by
      rw [run_onSpace] at ran ⊢
      split at ran
      · rename_i value after looked
        obtain rfl : value = none := by simpa using ran
        obtain ⟨free, rfl⟩ := Guest.Space.importedModule_eq_none looked
        exact ⟨free, by simp only [World.setSpace_self]⟩
      · simp at ran
    rw [same] at after ⊢
    refine .get_bind ?_
    cases ((world.space space).definitions.get? name).or (world.catalogue.get? name) with
    | none => exact .throw _
    | some definition =>
      have created : Settles .lasting world 0 (ownedBy space (Guest.Space.createModule name definition)) ({·}) :=
        settles_createModule definition (by rwa [zero_add] at exact) free
      refine created.bind fun module ran => ?_
      have made := created.exact exact
      rw [ran, left_ok] at made
      have initialized : Act.Balanced .lasting ([module] ++ borrowed) 0
          (definition.initializers.forM (engine.runInitializer space module)) fun _ => 0 :=
        .forM fun initializer _ => balanced_runInitializer balanced module initializer
      have undone := initialized.onFailureUndo (add_zero _).symm fun world frame exact =>
        (leads_undoImport space name exact).passes <|
          (World.onlyLoses_updateSpace fun space => space.onlyLoses_forgetModule name).trans (World.onlyLoses_release _ _)
      exact (undone _ frame made lent).bind fun _ _ => .pure rfl

end ObjectBridge.Engine

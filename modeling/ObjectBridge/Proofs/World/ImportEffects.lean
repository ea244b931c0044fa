import ObjectBridge.Proofs.World.Alterations
import ObjectBridge.Proofs.World.FailedImports
import ObjectBridge.Proofs.World.Returns

/-!
What an import does to objects that others hold: nothing itself. Either an object is as it was, or a module was
created for the import, and the object is as the initializers of that module have left it.
-/

namespace ObjectBridge

open Act
open Guest (Handle)

namespace World

variable {world after : World} {frame held owned owned' : Multiset Ref} {id : SpaceId} {name : String}

theorem get?_createModule {definition : Definition} {module : Handle} {space : Space} (exact : world.Exact frame)
    (made : (Guest.Space.createModule name definition).run (world.space id) = .ok (module, space)) {target : Ref}
    (listed : target ∈ frame) (here : target.space = id) :
    target.handle ≠ module ∧ (world.setSpace id space).get? target = world.get? target := by
  subst here
  have started := (Guest.Space.tables_createModule made).1
  obtain ⟨object, found⟩ := exact.exists_object listed started
  obtain ⟨apart, kept⟩ := Guest.Space.get?_createModule (exact.spaces target.space) made
    (mem_heldIn (Multiset.mem_add.mpr (Or.inl listed))) found
  exact ⟨apart, (get?_setSpace (known_of_started started) space target.handle).trans (kept.trans found.symm)⟩

theorem get?_undoImport {importing : Importing} {contents : Guest.ModuleObject}
    (exact : world.Exact (importing.ref ::ₘ frame))
    (listed : (world.space importing.space).modules.get? importing.name = some importing.module)
    (found : (world.space importing.space).heap.get? importing.module = some (.moduleObject contents)) {target : Ref}
    (kept : target ∈ frame) (here : target.space = importing.space) (apart : target.handle ≠ importing.module) :
    (world.undoImport importing).get? target = world.get? target := by
  have started : ((world.undoImport importing).space importing.space).roots.isSome := by
    have began := Guest.Space.started_of_get? (exact.spaces importing.space) found
    rw [undoImport_eq_setSpace, space_setSpace (known_of_started began), if_pos rfl]
    exact (Guest.Space.roots_forgetModule _ _).symm ▸ began
  have undone : Leads .lasting (world, {importing.ref}) (world.undoImport importing, 0) :=
    Engine.leads_undoImport importing.space importing.name (by rwa [Multiset.singleton_add])
  have exactAfter : (world.undoImport importing).Exact (0 + frame) :=
    undone.exact (by rwa [Multiset.singleton_add])
  rw [zero_add] at exactAfter
  obtain ⟨object, now⟩ := exactAfter.exists_object kept (here ▸ started)
  have shown := now
  rw [get?, here, space_undoImport started] at shown
  have earlier := Guest.Space.get?_of_withdraw listed found shown
  rw [if_neg apart] at earlier
  rw [now, get?, here, earlier]

end World

namespace Engine

/-- The object is as it was before the import, unless a module was created for it: then it is as the initializers of
that module have left it. -/
inductive LeftByInitializers (engine : Engine) (id : SpaceId) (name : String) (before : World) (target : Ref) :
    Option (Guest.Object Code) → Prop
  | untouched : LeftByInitializers engine id name before target (before.get? target)
  | initialized {definition : Definition} {module : Handle} {space : Space} {result : Except Guest.Exception PUnit}
      {last : World}
      (made : (Guest.Space.createModule name definition).run (before.space id) = .ok (module, space))
      (same : (before.setSpace id space).get? target = before.get? target)
      (ran : (definition.initializers.forM (engine.runInitializer id { space := id, handle := module })).run
        (before.setSpace id space) = (result, last)) :
      LeftByInitializers engine id name before target (last.get? target)

variable {engine : Engine} {world after : World} {frame : Multiset Ref} {id : SpaceId} {name : String}

theorem exact_initializers {definition : Definition} {module : Handle} {space : Space} {last : World}
    {result : Except Guest.Exception PUnit} (balanced : engine.Balanced) (exact : world.Exact frame)
    (free : (world.space id).modules.get? name = none)
    (made : (Guest.Space.createModule name definition).run (world.space id) = .ok (module, space))
    (ran : (definition.initializers.forM (engine.runInitializer id { space := id, handle := module })).run
      (world.setSpace id space) = (result, last)) : last.Exact ({{ space := id, handle := module }} + frame) := by
  have exactCreated := exact_createModule exact free made
  have initializes : Act.Balanced .lasting [{ space := id, handle := module }] 0
      (definition.initializers.forM (engine.runInitializer id { space := id, handle := module })) fun _ => 0 :=
    .forM fun initializer _ => balanced_runInitializer balanced _ initializer
  have settles := initializes _ _ (by rwa [zero_add]) (by simp)
  have exactLast := settles.exact (by rwa [zero_add])
  rwa [ran, left_zero, zero_add] at exactLast

theorem leftByInitializers_importModule (balanced : engine.Balanced) (respects : engine.Respects World.KeepsListed)
    (exact : world.Exact frame) {target : Ref} (listed : target ∈ frame) (here : target.space = id)
    {outcome : Except Guest.Exception Ref} (ran : (engine.importModule id name).run world = (outcome, after)) :
    LeftByInitializers engine id name world target (after.get? target) := by
  have framed : world.Exact (0 + frame) := by rwa [zero_add]
  have imports : Act.Balanced .lasting [] 0 (engine.importModule id name) ({·}) := balanced_importModule balanced name
  have exactAfter := imports.settles framed |>.exact framed
  rcases engine.importModule_cases id name world with ⟨exception, -, failed⟩ | ⟨module, -, -, answered⟩ |
    ⟨definition, module, space, free, -, made, initialized⟩
  · obtain ⟨-, rfl⟩ := Prod.mk.inj (failed.symm.trans ran)
    exact .untouched
  · obtain ⟨-, rfl⟩ := Prod.mk.inj (answered.symm.trans ran)
    rw [World.get?_retain]
    exact .untouched
  · obtain ⟨apart, same⟩ := World.get?_createModule exact made listed here
    have ref : (Importing.created id name module definition).ref = { space := id, handle := module } := rfl
    rw [ran] at initialized exactAfter
    rcases initializes : (definition.initializers.forM (engine.runInitializer id { space := id, handle := module })).run
      (world.setSpace id space) with ⟨exception | _, last⟩
    · simp only [ref, initializes] at initialized
      obtain ⟨rfl, rfl⟩ := Prod.mk.inj initialized
      suffices kept : (last.undoImport (.created id name module definition)).get? target = last.get? target by
        rw [kept]
        exact .initialized made same initializes
      by_cases started : (last.space id).roots.isSome
      · obtain ⟨exactLast, listedThen, contents, found⟩ :=
          module_of_failed balanced respects exact free made initializes started
        exact World.get?_undoImport exactLast listedThen found listed here apart
      · -- Initializers have finalized the space, so that nothing is there.
        have ended : (last.space target.space).roots = none := by
          rw [here]
          exact Option.not_isSome_iff_eq_none.mp started
        have exactLast := exact_initializers balanced exact free made initializes
        have endedAfter : ((last.undoImport (.created id name module definition)).space target.space).roots = none :=
          (leads_undoImport id name exactLast).ended (exactLast.known target (by simp [listed])) ended
        rw [exactLast.get?_of_ended ended, exactAfter.get?_of_ended endedAfter]
    · simp only [ref, initializes] at initialized
      obtain ⟨rfl, rfl⟩ := Prod.mk.inj initialized
      exact .initialized made same initializes

end Engine

end ObjectBridge

import ObjectBridge.Proofs.Tracing.Switching
import ObjectBridge.Proofs.World.FailedImports
import ObjectBridge.Proofs.World.Machine

/-!
What a session that is opened finds: its module has just been imported into a space of its own, with the function
that sets the flag in it and the flag not set.
-/

namespace ObjectBridge

open Guest (Handle)

namespace Guest

variable {β : Type}

theorem Definition.lookup_addFunction (definition : Definition β) (name key : String) (body : β) :
    (definition.addFunction name body).functions.reverse.lookup key =
      if key = name then some body else definition.functions.reverse.lookup key := by
  rw [addFunction, List.reverse_append, List.reverse_singleton, List.singleton_append, List.lookup_cons]
  split
  · rename_i same
    rw [if_pos (beq_iff_eq.mp same)]
  · rename_i other
    have apart : key ≠ name := by
      rintro rfl
      simp at other
    rw [if_neg apart, ← List.filter_reverse]
    induction definition.functions.reverse with
    | nil => rfl
    | cons function rest ih =>
      obtain ⟨given, body⟩ := function
      rw [List.filter_cons]
      split
      · rw [List.lookup_cons, List.lookup_cons, ih]
      · rename_i dropped
        obtain rfl : given = name := by simpa using dropped
        rw [ih, List.lookup_cons]
        split
        · rename_i same
          exact absurd (beq_iff_eq.mp same) apart
        · rfl

theorem Space.global_of_setattr {space after : Space β} {target value : Handle} {name : String}
    {contents : ModuleObject}
    (ran : (setattr target name value).run space = .ok ((), after))
    (found : after.heap.get? target = some (.moduleObject contents)) : contents.globals.get? name = some value := by
  obtain ⟨-, -, object, attributes, shown, place, rfl⟩ := setattr_eq_ok.mp ran
  have here := get?_of_releaseAll found
  rw [update, Heap.get?_update, if_pos rfl, Space.retain, Heap.get?_acquire, (object_eq_ok.mp shown).2,
    Option.map_some] at here
  cases object with
  | moduleObject earlier =>
    obtain rfl : { earlier with globals := attributes.insert name value } = contents := by
      simpa [withSettable] using here
    rw [Bindings.get?_insert, if_pos rfl]
  | _ => simp [withSettable] at here

end Guest

namespace Registry

variable {β : Type} (body : Service → β) (definition : Guest.Definition β)

theorem initializers_install : (install body definition).initializers = definition.initializers ++ [.registry] := by
  have unchanged (services : List Service) (definition : Guest.Definition β) :
      (services.foldl (fun definition service => definition.addFunction service.name (body service))
        definition).initializers = definition.initializers := by
    induction services generalizing definition with
    | nil => rfl
    | cons service rest ih => exact ih _
  exact unchanged _ _

theorem name_install : (install body definition).name = definition.name := by
  have unchanged (services : List Service) (definition : Guest.Definition β) :
      (services.foldl (fun definition service => definition.addFunction service.name (body service))
        definition).name = definition.name := by
    induction services generalizing definition with
    | nil => rfl
    | cons service rest ih => exact ih _
  exact unchanged _ _

theorem Service.name_inj {service other : Service} (same : service.name = other.name) : service = other := by
  cases service <;> cases other <;> first | rfl | exact absurd same (by decide)

theorem lookup_install (service : Service) :
    (install body definition).functions.reverse.lookup service.name = some (body service) := by
  have found (services : List Service) (definition : Guest.Definition β) :
      (services.foldl (fun definition service => definition.addFunction service.name (body service))
        definition).functions.reverse.lookup service.name =
        if service ∈ services then some (body service) else definition.functions.reverse.lookup service.name := by
    induction services generalizing definition with
    | nil => rfl
    | cons other rest ih =>
      rw [List.foldl_cons, ih, definition.lookup_addFunction]
      by_cases later : service ∈ rest
      · rw [if_pos later, if_pos (List.mem_cons_of_mem _ later)]
      · rw [if_neg later]
        by_cases same : service = other
        · rw [if_pos (congrArg Service.name same), if_pos (by simp [same]), same]
        · rw [if_neg fun named => same (Service.name_inj named), if_neg (by simp [same, later])]
  have listed : service ∈ Service.all := by cases service <;> decide
  exact (found _ _).trans (if_pos listed)

end Registry

namespace World

theorem get?_of_release {world : World} {ref other : Ref} {object : Guest.Object Code}
    (found : (world.release ref).get? other = some object) : world.get? other = some object := by
  rw [release, updateSpace_eq_setSpace] at found
  by_cases known : ref.space.index < world.spaces.size
  · rw [get?, space_setSpace known] at found
    split at found
    · rename_i same
      rw [get?, same]
      exact Guest.Heap.get?_releaseAll found
    · exact found
  · rwa [setSpace_of_unknown known] at found

theorem get?_of_releaseAll {world : World} {refs : List Ref} {other : Ref} {object : Guest.Object Code}
    (found : (world.releaseAll refs).get? other = some object) : world.get? other = some object := by
  unfold releaseAll at found
  induction refs generalizing world with
  | nil => exact found
  | cons ref rest ih => exact get?_of_release (ih found)

end World

namespace Engine

open Act

theorem global_of_registry {engine : Engine} {id : SpaceId} {module : Ref} {world after : World}
    (here : module.space = id) (ran : (engine.runInitializer id module .registry).run world = (.ok (), after)) :
    ∃ roots, (after.space id).roots = some roots ∧ ∀ contents, after.get? module = some (.moduleObject contents) →
      contents.globals.get? Registry.debugGlobal = some roots.falseValue := by
  unfold runInitializer at ran
  obtain ⟨registry, created, -, ran⟩ := run_bind_eq_ok.mp ran
  obtain ⟨bound, ranBound, rfl⟩ := run_lending_eq_ok.mp ran
  obtain ⟨_, listed, -, ranFlag⟩ := run_bind_eq_ok.mp ranBound
  obtain ⟨flag, taken, ranTaken, ranFlag⟩ := run_bind_eq_ok.mp ranFlag
  obtain ⟨set, ranSet, rfl⟩ := run_lending_eq_ok.mp ranFlag
  obtain ⟨counted, ranFalse, -, rfl⟩ := run_ownedBy_eq_ok.mp ranTaken
  obtain ⟨home, handle⟩ := module
  obtain rfl : home = id := here
  rw [setattr, run_onSpace] at ranSet
  rcases ranGlobal : (Guest.Space.setattr handle Registry.debugGlobal flag.handle).run
    ((listed.setSpace home counted).space home) with exception | ⟨⟨⟩, last⟩ <;>
      rw [ranGlobal] at ranSet <;> cases ranSet
  -- The roots are the same from when the flag was taken to the end.
  have took := listed.quiet_setSpace home (Guest.Op.OnObjects.onlyObjects ranFalse)
  have sets := (listed.setSpace home counted).quiet_setSpace home (Guest.Op.OnObjects.onlyObjects ranGlobal)
  have gave := World.quiet_releaseAll ((listed.setSpace home counted).setSpace home last) [flag]
  have gaveBack := World.quiet_releaseAll
    (((listed.setSpace home counted).setSpace home last).releaseAll [flag]) [registry]
  have same := ((((took.trans sets).trans gave).trans gaveBack).tables home).roots
  obtain ⟨roots, _, looked, acquired⟩ := Guest.Op.run_bind_eq_ok.mp ranFalse
  obtain ⟨rooted, rfl⟩ := Guest.Op.run_read_eq_ok.mp looked
  obtain ⟨-, falsity, -⟩ := Guest.Space.acquire_eq_ok.mp acquired
  have rooted := Guest.Space.rootsNow_eq_ok.mp rooted
  have known : home.index < (listed.setSpace home counted).spaces.size := by
    rw [World.size_setSpace]
    exact World.known_of_started (by rw [rooted, Option.isSome_some])
  refine ⟨roots, same.trans rooted, fun contents found => ?_⟩
  have there := World.get?_of_releaseAll (World.get?_of_releaseAll found)
  rw [World.get?_setSpace known] at there
  exact (Guest.Space.global_of_setattr ranGlobal there).trans (congrArg some falsity)

end Engine

namespace World

theorem Leads.roots_eq_of_started {before after : World} {owned owned' : Multiset Ref} {id : SpaceId}
    (leads : Leads .lasting (before, owned) (after, owned')) (known : id.index < before.spaces.size)
    (started : (after.space id).roots.isSome) : (after.space id).roots = (before.space id).roots := by
  have path := leads.paths id (known.trans_le leads.size)
  rw [origin, if_pos known] at path
  exact Guest.Space.Path.roots_eq path started

end World

def Flag.ofModule (module : Ref) (roots : Guest.Roots) (name : String) (function : Handle) : Flag where
  space := module.space
  module := module.handle
  values := [roots.trueValue, roots.falseValue]
  setter := some (name, function,
    { name := Registry.Service.debugOn.name, bound := some module.handle, body := .service .debugOn })

theorem World.Tuned.of_spaces {world world' : World} {flag : Flag} {roots : Guest.Roots} {name : String}
    {globals : Bindings Handle} {value function : Handle} (tuned : world.Tuned flag roots name globals value function)
    (same : world'.spaces = world.spaces) : world'.Tuned flag roots name globals value function := by
  have spaces (id : SpaceId) : world'.space id = world.space id := by rw [World.space, same, World.space]
  obtain ⟨rooted, typed, values, set, module, bound, function⟩ := tuned
  unfold World.get? at module function
  exact ⟨by rwa [spaces], by rwa [spaces], values, set, by rwa [World.get?, spaces], bound, by rwa [World.get?, spaces]⟩

namespace Engine

open Act

theorem twins_of_createModule {world : World} {frame : Multiset Ref} {id : SpaceId} {name : String} {handle : Handle}
    {space : Space} {definition : Definition} {roots : Guest.Roots} (exact : world.Exact frame)
    (rooted : (world.space id).roots = some roots) (alone : (world.space id).modules = .empty)
    (made : (Guest.Space.createModule name (Registry.install Code.service definition)).run (world.space id) =
      .ok (handle, space)) :
    let ref : Ref := { space := id, handle }
    ∃ function, (world.setSpace id space).Twins (.ofModule ref roots name function) ({ref} + frame)
      (world.setSpace id space) := by
  intro ref
  obtain ⟨started, rootedThen, modules⟩ := Guest.Space.tables_createModule made
  obtain ⟨contents, found, -, offers⟩ := Guest.Space.offers_of_createModule (exact.spaces id) made
  obtain ⟨function, bound, callable⟩ := offers _ _ (Registry.lookup_install Code.service definition .debugOn)
  have known := World.known_of_started started
  have exactCreated := exact_createModule exact (by rw [alone, Bindings.get?_empty]) made
  refine ⟨function, exactCreated, exactCreated, fun other => ?_, rfl, rfl⟩
  by_cases here : other = id
  · subst here
    have sound := (exactCreated.spaces other).sound
    rw [World.space_setSpace known, if_pos rfl] at sound ⊢
    refine .refl sound (fun _ value listed => ?_) fun fixture fixed _ => ?_
    · have either : value = roots.trueValue ∨ value = roots.falseValue := by
        simpa [Flag.at, Flag.ofModule, ref] using listed
      rw [Guest.Space.rootHandles, rootedThen, rooted, Option.map_some, Option.getD_some]
      rcases either with rfl | rfl <;> simp [Guest.Roots.handles]
    · obtain rfl : _ = fixture := by simpa [Flag.at, Flag.ofModule, ref] using fixed
      refine ⟨fun key => ?_, ⟨contents, found, bound⟩, callable⟩
      show space.modules.get? key = some handle ↔ key = name
      rw [modules, alone, Bindings.get?_insert, Bindings.get?_empty]
      split <;> simp [*]
  · rw [World.space_setSpace known, if_neg here]
    refine .refl (exact.spaces other).sound ?_ ?_
    · simp [Flag.at, Flag.ofModule, ref, here]
    · simp [Guest.Space.Fixes, Flag.at, Flag.ofModule, ref, here]

theorem initialized_of_importModule (engine : Engine) {world after : World} {frame : Multiset Ref} {id : SpaceId}
    {name : String} {module : Ref} {definition : Definition} (exact : world.Exact frame)
    (started : (world.space id).roots.isSome) (free : (world.space id).modules.get? name = none)
    (defined : ((world.space id).definitions.get? name).or (world.catalogue.get? name) = some definition)
    (ran : (engine.importModule id name).run world = (.ok module, after)) :
    ∃ handle space, module = { space := id, handle } ∧
      (Guest.Space.createModule name definition).run (world.space id) = .ok (handle, space) ∧
      (definition.initializers.forM (engine.runInitializer id module)).run (world.setSpace id space) =
        (.ok ⟨⟩, after) := by
  obtain ⟨handle, space, made, initialized⟩ := engine.run_importModule_fresh exact started free defined
  have same : (Importing.created id name handle definition).ref = { space := id, handle } := rfl
  rw [ran] at initialized
  rcases ranAll : (definition.initializers.forM (engine.runInitializer id { space := id, handle })).run
    (world.setSpace id space) with ⟨exception | ⟨⟩, last⟩ <;> simp only [same, ranAll] at initialized
  · cases initialized
  · obtain ⟨answer, rfl⟩ := Prod.mk.inj initialized
    obtain rfl := Except.ok.inj answer
    exact ⟨handle, space, rfl, made, ranAll⟩

theorem tuned_of_alike {world : World} {module : Ref} {roots : Guest.Roots} {name : String} {function : Handle}
    (alike : world.Alike (.ofModule module roots name function) world)
    (rooted : (world.space module.space).roots = some roots) (typed : (world.space module.space).Typed)
    (global : ∀ contents, world.get? module = some (.moduleObject contents) →
      contents.globals.get? Registry.debugGlobal = some roots.falseValue) :
    module.handle ∈ (world.space module.space).modules.values ∧ ∃ moduleName globals,
      world.Tuned (.ofModule module roots name function) roots moduleName globals roots.falseValue function := by
  let fixture : Guest.Fixture Code :=
    { moduleName := name, name := Registry.Service.debugOn.name, function := function,
      callable := { name := Registry.Service.debugOn.name, bound := some module.handle, body := .service .debugOn } }
  have fixed : fixture ∈ ((Flag.ofModule module roots name function).at module.space).fixture := by
    simp [Flag.at, Flag.ofModule, fixture]
  obtain ⟨listed, ⟨contents, found, bound⟩, callable⟩ :=
    (alike.spaces module.space).fixes fixture fixed (by rw [rooted, Option.isSome_some])
  have set := global contents found
  have same : contents.globals.insert Registry.debugGlobal roots.falseValue = contents.globals := by
    refine Bindings.ext_get? fun key => ?_
    rw [Bindings.get?_insert]
    split
    · rename_i here
      rw [here, set]
    · rfl
  refine ⟨Bindings.mem_values.mpr ⟨name, (listed name).mpr rfl⟩, contents.name, contents.globals, ?_⟩
  exact ⟨rooted, typed, rfl, by simp [Flag.ofModule], by rw [same]; exact found, bound, callable⟩

theorem tuned_of_importModule {heard : Hearing} (depth : Nat)
    {world after : World} {frame : Multiset Ref} {id : SpaceId} {name : String} {module : Ref} {definition : Definition}
    (exact : world.Exact frame) (started : (world.space id).roots.isSome) (typed : (world.space id).Typed)
    (alone : (world.space id).modules = .empty)
    (defined : (world.space id).definitions.get? name = some (Registry.install Code.service definition))
    (ran : ((watched ⟨heard, true⟩ depth).importModule id name).run world = (.ok module, after)) :
    ∃ flag roots moduleName globals function, flag.ref = module ∧ after.Twins flag ({module} + frame) after ∧
      after.Tuned flag roots moduleName globals roots.falseValue function ∧
      flag.module ∈ (after.space flag.space).modules.values := by
  let engine := watched ⟨heard, true⟩ depth
  obtain ⟨roots, rooted⟩ := Option.isSome_iff_exists.mp started
  have free : (world.space id).modules.get? name = none := by rw [alone, Bindings.get?_empty]
  have given : ((world.space id).definitions.get? name).or (world.catalogue.get? name) =
      some (Registry.install Code.service definition) := by rw [defined, Option.some_or]
  obtain ⟨handle, space, rfl, made, ranAll⟩ := initialized_of_importModule engine exact started free given ran
  let ref : Ref := { space := id, handle }
  obtain ⟨function, twins⟩ := twins_of_createModule exact rooted alone made
  have known := World.known_of_started started
  obtain ⟨-, rootedThen, -⟩ := Guest.Space.tables_createModule made
  -- All initializers have run, the last of them the one that sets up the registry.
  rw [Registry.initializers_install] at ranAll
  have agrees (initializers : List (Guest.Initializer Code)) :
      Act.Agrees (Flag.ofModule ref roots name function) [ref] 0
        (initializers.forM (engine.runInitializer id ref))
        (initializers.forM (engine.runInitializer id ref)) fun _ => 0 :=
    .forM fun initializer _ => agrees_runInitializer (agrees_watched depth) ref initializer
  have balanced (initializers : List (Guest.Initializer Code)) : Act.Balanced .lasting [ref] 0
      (initializers.forM (engine.runInitializer id ref)) fun _ => 0 :=
    .forM fun initializer _ => balanced_runInitializer (balanced_watched _ depth) ref initializer
  have framed : (world.setSpace id space).Exact (0 + ({ref} + frame)) := by
    rw [zero_add]
    exact twins.exact
  have leads := (balanced _).leads_ok_of_lent framed (by simp) ranAll
  obtain ⟨result, last, last', ranHere, ranAgain, ended⟩ :=
    agrees _ (world.setSpace id space) (world.setSpace id space) ({ref} + frame) (by rwa [zero_add]) (by simp)
  obtain ⟨rfl, rfl⟩ := Prod.mk.inj (ranAll.symm.trans ranHere)
  obtain rfl := (Prod.mk.inj (ranAll.symm.trans ranAgain)).2
  rw [left_ok, zero_add] at ended
  rw [List.forM_eq_forM, List.forM_append] at ranAll
  obtain ⟨_, middle, -, ranLast⟩ := run_bind_eq_ok.mp ranAll
  rw [List.forM_cons] at ranLast
  obtain ⟨_, initialized, ranRegistry, ranNone⟩ := run_bind_eq_ok.mp ranLast
  obtain rfl : initialized = after := (Prod.mk.inj ranNone).2
  have registered := global_of_registry (show ref.space = id from rfl) ranRegistry
  obtain ⟨rootsNow, rootedNow, global⟩ := registered
  -- The space has the roots it was started with.
  have startedNow : (initialized.space id).roots.isSome := by rw [rootedNow, Option.isSome_some]
  have same := leads.roots_eq_of_started (by rwa [World.size_setSpace]) startedNow
  rw [World.space_setSpace known, if_pos rfl, rootedThen, rooted] at same
  obtain rfl : rootsNow = roots := Option.some.inj (rootedNow.symm.trans same)
  have typedThen : ((world.setSpace id space).space id).Typed := by
    rw [World.space_setSpace known, if_pos rfl]
    intro roots started
    exact typed roots (rootedThen ▸ started)
  obtain ⟨listed, moduleName, globals, tuned⟩ :=
    tuned_of_alike ended.alike rootedNow (leads.typed typedThen) global
  exact ⟨_, _, moduleName, globals, function, rfl, ended, tuned, listed⟩

end Engine

namespace Engine

open Act Bridge

/-- What is done first to open a session: its module is imported into a space of its own. -/
def enterModule (engine : Engine) (config : Config) : BridgeAct (SpaceId × Ref) := do
  liftM (config.validate.mapError Bridge.Error.config)
  let space ← step (·.addSpace)
  let found := (← get).catalogue.get? config.moduleName
  let definition := Registry.install Code.service (found.getD (.ofName config.moduleName))
  change (·.updateSpace space (·.addDefinition definition))
  match ← (engine.importModule space config.moduleName).outcome with
  | .ok module => return (space, module)
  | .error exception =>
    match ← (finalizeSpace space).outcome with
    | .ok () => pure ()
    | .error failure => warn s!"teardown after failed import: {failure.message}"
    throw (.guest exception)

def switchOn (engine : Engine) (space : SpaceId) (module : Ref) : BridgeAct Unit := do
  let switched ← (asBridge (engine.callMethod space module "debug_on" [])).onFailure (·.release module)
  change (·.release switched)

def recordSession (host : Host.HostId) (config : Config) (space : SpaceId) (module : Ref) : BridgeAct Session := do
  let proxyClass ← step (proxyClassFor · host config.proxyClass)
  traceLine config 0 s!"session open (module {config.moduleName})"
  step fun world =>
    let session : Session :=
      { id := { index := world.sessions.size }, host, space, config, proxyClass }
    (session,
      { world with
        sessions := world.sessions.push
          { session, module? := some module.handle, active := none, holders := 1 } })

theorem openSession_eq (engine : Engine) (host : Host.HostId) (config : Config) :
    engine.openSession host config = (engine.enterModule config >>= fun entered => do
      if config.debug then engine.switchOn entered.1 entered.2
      recordSession host config entered.1 entered.2) := by
  unfold openSession enterModule
  cases config.validate with
  | error fault => rfl
  | ok _ =>
    refine Eq.trans ?_ (bind_assoc _ _ _).symm
    refine Eq.trans ?_ (pure_bind () _).symm
    refine Eq.trans ?_ (bind_assoc _ _ _).symm
    refine congrArg (step (·.addSpace) >>= ·) (funext fun space => ?_)
    refine Eq.trans ?_ (bind_assoc _ _ _).symm
    refine congrArg (get >>= ·) (funext fun world => ?_)
    refine Eq.trans ?_ (bind_assoc _ _ _).symm
    refine congrArg (change _ >>= ·) (funext fun _ => ?_)
    refine Eq.trans ?_ (bind_assoc _ _ _).symm
    refine congrArg (outcome _ >>= ·) (funext fun result => ?_)
    cases result with
    | ok module =>
      refine (pure_bind _ _).trans (Eq.trans ?_ (pure_bind _ _).symm)
      cases config.debug with
      | false => rfl
      | true => exact (bind_assoc _ _ _).symm
    | error exception =>
      refine Eq.trans ?_ (bind_assoc _ _ _).symm
      refine congrArg (outcome _ >>= ·) (funext fun result => ?_)
      cases result <;> rfl

section Enter

def definitionFor (world : World) (config : Config) : Definition :=
  (world.catalogue.get? config.moduleName).getD (.ofName config.moduleName)

def prepared (world : World) (config : Config) : World :=
  world.addSpace.2.updateSpace world.addSpace.1
    (·.addDefinition (Registry.install Code.service (definitionFor world config)))

variable {engine : Engine} {config : Config} {world after : World} {frame : Multiset Ref} {entered : SpaceId × Ref}

theorem run_enterModule_ok (ran : (engine.enterModule config).run world = (.ok entered, after)) :
    entered.1 = world.addSpace.1 ∧
      (engine.importModule world.addSpace.1 config.moduleName).run (prepared world config) =
        (.ok entered.2, after) := by
  unfold enterModule at ran
  obtain ⟨_, _, ranValid, ran⟩ := run_bind_eq_ok.mp ran
  obtain ⟨space, _, ranSpace, ran⟩ := run_bind_eq_ok.mp ran
  rw [run_lift] at ranValid
  obtain ⟨-, rfl⟩ := Prod.mk.inj ranValid
  rw [run_step] at ranSpace
  obtain ⟨answer, rfl⟩ := Prod.mk.inj ranSpace
  obtain rfl := Except.ok.inj answer
  rw [run_get_bind] at ran
  obtain ⟨_, _, ranDefined, ran⟩ := run_bind_eq_ok.mp ran
  obtain ⟨-, rfl⟩ := Prod.mk.inj ranDefined
  obtain ⟨result, _, ranImport, ran⟩ := run_bind_eq_ok.mp ran
  cases result with
  | ok module =>
    obtain ⟨answer, rfl⟩ := Prod.mk.inj ran
    obtain rfl := Except.ok.inj answer
    rw [run_outcome] at ranImport
    obtain ⟨imported, rfl⟩ := Prod.mk.inj ranImport
    exact ⟨rfl, Prod.ext (Except.ok.inj imported) rfl⟩
  | error exception =>
    obtain ⟨result, _, -, ran⟩ := run_bind_eq_ok.mp ran
    cases result with
    | ok _ => cases (Prod.mk.inj ran).1
    | error failure =>
      obtain ⟨_, _, -, ran⟩ := run_bind_eq_ok.mp ran
      cases (Prod.mk.inj ran).1

theorem exact_prepared (exact : world.Exact frame) (config : Config) : (prepared world config).Exact frame := by
  have framed : world.Exact (0 + frame) := by rwa [zero_add]
  have added := World.leads_addSpace framed
  have defined : World.Leads .lasting (world.addSpace.2, 0) (prepared world config, 0) :=
    World.leads_updateSpace (.single (.define _))
  simpa using (added.trans defined).exact framed

theorem space_prepared (world : World) (config : Config) : ∃ roots, Guest.Space.Typed
    ((prepared world config).space world.addSpace.1) ∧
    ((prepared world config).space world.addSpace.1).roots = some roots ∧
    ((prepared world config).space world.addSpace.1).modules = .empty ∧
    ((prepared world config).space world.addSpace.1).definitions.get? (definitionFor world config).name =
      some (Registry.install Code.service (definitionFor world config)) := by
  have size : world.addSpace.1.index < world.addSpace.2.spaces.size := by simp [World.addSpace]
  have shown : (prepared world config).space world.addSpace.1 =
      (Guest.Space.start : Space).addDefinition (Registry.install Code.service (definitionFor world config)) := by
    rw [prepared, World.updateSpace_eq_setSpace, World.space_setSpace size, if_pos rfl, World.space_addSpace]
    exact congrArg (Guest.Space.addDefinition · _) (if_pos rfl)
  obtain ⟨heap, object, types, started, -⟩ :
    ∃ heap object types, (Guest.Space.start : Space) = .ofTypes heap object types ∧ _ :=
    Guest.Space.exists_start
  have typed : (Guest.Space.start : Space).Typed := Guest.Space.exact_start_typed.2
  rw [started] at shown typed
  rw [shown]
  refine ⟨_, typed, rfl, rfl, ?_⟩
  rw [Guest.Space.addDefinition, Registry.name_install, Bindings.get?_insert, if_pos rfl]

theorem name_definitionFor
    (filed : ∀ definition, world.catalogue.get? config.moduleName = some definition →
      definition.name = config.moduleName) : (definitionFor world config).name = config.moduleName := by
  unfold definitionFor
  cases found : world.catalogue.get? config.moduleName with
  | none => rfl
  | some given => exact filed given found

theorem tuned_of_enterModule {heard : Hearing} {depth : Nat}
    (exact : world.Exact frame)
    (filed : ∀ definition, world.catalogue.get? config.moduleName = some definition →
      definition.name = config.moduleName)
    (ran : ((watched ⟨heard, true⟩ depth).enterModule config).run world = (.ok entered, after)) :
    ∃ flag roots moduleName globals function, flag.ref = entered.2 ∧ after.Twins flag ({entered.2} + frame) after ∧
      after.Tuned flag roots moduleName globals roots.falseValue function ∧
      flag.module ∈ (after.space flag.space).modules.values := by
  obtain ⟨-, imported⟩ := run_enterModule_ok ran
  obtain ⟨roots, typed, rooted, alone, defined⟩ := space_prepared world config
  rw [name_definitionFor filed] at defined
  have started : ((prepared world config).space world.addSpace.1).roots.isSome := by rw [rooted, Option.isSome_some]
  exact tuned_of_importModule depth (exact_prepared exact config) started typed alone defined imported

theorem run_enterModule_of_codeless (engine engine' : Engine) (exact : world.Exact frame)
    (filed : ∀ definition, world.catalogue.get? config.moduleName = some definition →
      definition.name = config.moduleName)
    (codeless : (definitionFor world config).initializers = []) :
    (engine.enterModule config).run world = (engine'.enterModule config).run world := by
  obtain ⟨roots, -, rooted, alone, defined⟩ := space_prepared world config
  rw [name_definitionFor filed] at defined
  have imported : (engine.importModule world.addSpace.1 config.moduleName).run (prepared world config) =
      (engine'.importModule world.addSpace.1 config.moduleName).run (prepared world config) := by
    have fresh (engine : Engine) := engine.run_importModule_fresh (exact_prepared exact config)
      (by rw [rooted, Option.isSome_some]) (by rw [alone, Bindings.get?_empty]) (by rw [defined, Option.some_or])
    obtain ⟨module, space, made, ran⟩ := fresh engine
    obtain ⟨module', space', made', ran'⟩ := fresh engine'
    obtain ⟨rfl, rfl⟩ := Prod.mk.inj (Except.ok.inj (made.symm.trans made'))
    -- All that is run is the initializer with which the services come.
    have registered (module : Ref) :
        [Guest.Initializer.registry].forM (engine.runInitializer world.addSpace.1 module) =
          [Guest.Initializer.registry].forM (engine'.runInitializer world.addSpace.1 module) := rfl
    rw [ran, ran', Registry.initializers_install, codeless, List.nil_append, registered]
  unfold enterModule
  refine run_bind_congr rfl fun _ _ ranValid => ?_
  refine run_bind_congr rfl fun space _ ranSpace => ?_
  rw [run_lift] at ranValid
  obtain ⟨-, rfl⟩ := Prod.mk.inj ranValid
  rw [run_step] at ranSpace
  obtain ⟨answer, rfl⟩ := Prod.mk.inj ranSpace
  obtain rfl := Except.ok.inj answer
  rw [run_get_bind, run_get_bind]
  refine run_bind_congr rfl fun _ _ ranDefined => ?_
  obtain ⟨-, rfl⟩ := Prod.mk.inj ranDefined
  refine run_bind_congr ?_ fun _ _ _ => rfl
  exact (run_outcome _).trans ((congrArg (fun ran => (Except.ok ran.1, ran.2)) imported).trans (run_outcome _).symm)

theorem exact_of_enterModule (balanced : engine.Balanced) (exact : world.Exact frame)
    (ran : (engine.enterModule config).run world = (.ok entered, after)) :
    entered.2.space = entered.1 ∧ after.Exact ({entered.2} + frame) ∧ world.hosts.size ≤ after.hosts.size := by
  obtain ⟨space, imported⟩ := run_enterModule_ok ran
  have answered : entered.2.space = world.addSpace.1 := answers_importModule _ _ _ (by rw [imported])
  have framed : (prepared world config).Exact (0 + frame) := by
    rw [zero_add]
    exact exact_prepared exact config
  have leads := (balanced_importModule balanced config.moduleName).leads_ok framed imported
  exact ⟨answered.trans space.symm, leads.exact framed, leads.steady.hosts⟩

end Enter

section Record

variable {flag : Flag} {world world' : World} {frame : Multiset Ref} {host : Host.HostId} {module : Ref}

def sessionFor (world : World) (host : Host.HostId) (config : Config) (module : Ref) : Session where
  id := { index := (proxyClassFor world host config.proxyClass).2.sessions.size }
  host := host
  space := module.space
  config := config
  proxyClass := (proxyClassFor world host config.proxyClass).1

def recorded (world : World) (host : Host.HostId) (config : Config) (module : Ref) (trace : Array String) : World :=
  let found := (proxyClassFor world host config.proxyClass).2
  { found with
    trace
    sessions := found.sessions.push
      { session := sessionFor world host config module, module? := some module.handle, active := none, holders := 1 } }

theorem run_recordSession (world : World) (host : Host.HostId) (config : Config) (module : Ref) :
    ∃ trace, (recordSession host config module.space module).run world =
      (.ok (sessionFor world host config module), recorded world host config module trace) := by
  obtain ⟨trace, traced⟩ := run_traceLine config 0 s!"session open (module {config.moduleName})"
    (proxyClassFor world host config.proxyClass).2
  refine ⟨trace, ?_⟩
  unfold recordSession
  rw [run_bind_ok (run_step _), run_bind_ok traced]
  rfl

theorem leads_recorded (exact : world.Exact ({module} + frame)) (known : host.index < world.hosts.size)
    (config : Config)
    (trace : Array String) : World.Leads .lasting (world, {module}) (recorded world host config module trace, 0) := by
  obtain ⟨spaces, outside, steady⟩ := proxyClassFor_keeps world host config.proxyClass
  let traced : World := { (proxyClassFor world host config.proxyClass).2 with trace }
  have found : World.Leads .lasting (world, {module}) (traced, {module}) :=
    World.leads_move spaces (congrArg _ outside) (steady.trans (.of_same rfl rfl rfl))
  refine found.trans (World.leads_openSession rfl ?_)
  exact World.steady_open (known.trans_le steady.hosts) (findClass_proxyClassFor exact.prepared known config.proxyClass)

theorem proxyClassFor_plain (world : World) (host : Host.HostId) (name : String) :
    proxyClassFor world.plain host name =
      ((proxyClassFor world host name).1, (proxyClassFor world host name).2.plain) := by
  have hosts : world.plain.host host = world.host host := rfl
  unfold proxyClassFor
  rw [hosts]
  split <;> rfl

theorem twins_recorded (twins : world.Twins flag ({module} + frame) world') (known : host.index < world.hosts.size)
    (config : Config) (debug : Bool) (trace trace' : Array String) :
    sessionFor world' host { config with debug } module = (sessionFor world host config module).debugging debug ∧
      (recorded world host config module trace).Twins flag frame
        (recorded world' host { config with debug } module trace') := by
  obtain ⟨family, plains⟩ := Prod.mk.inj <| (proxyClassFor_plain world' host config.proxyClass).symm.trans <|
    (congrArg (proxyClassFor · host config.proxyClass) twins.alike.plain).trans (proxyClassFor_plain world host _)
  have ids : (proxyClassFor world' host config.proxyClass).2.sessions.size =
      (proxyClassFor world host config.proxyClass).2.sessions.size := by
    simpa [World.plain] using congrArg (fun world => world.sessions.size) plains
  have session : sessionFor world' host { config with debug } module =
      (sessionFor world host config module).debugging debug := by
    simp only [sessionFor, Session.debugging, ids, family]
  have pushes (world : World) (state : SessionState) (trace : Array String) :
      World.plain { world with trace, sessions := world.sessions.push state } =
        { world.plain with sessions := world.plain.sessions.push state.plain } := by
    simp [World.plain]
  refine ⟨session, ?_⟩
  have known' : host.index < world'.hosts.size := twins.alike.hosts ▸ known
  have alike : (recorded world host config module trace).Alike flag
      (recorded world' host { config with debug } module trace') := by
    refine twins.alike.of_spaces (proxyClassFor_keeps world host config.proxyClass).1
      (proxyClassFor_keeps world' host config.proxyClass).1 ?_
    refine (pushes _ _ trace').trans (Eq.trans ?_ (pushes _ _ trace).symm)
    rw [plains, session]
    rfl
  have ended := twins.of_leads (leads_recorded twins.exact known config trace)
    (leads_recorded twins.exact' known' { config with debug } trace') alike
  rwa [zero_add] at ended

theorem spaces_recorded (world : World) (host : Host.HostId) (config : Config) (module : Ref) (trace : Array String) :
    (recorded world host config module trace).spaces = world.spaces :=
  (proxyClassFor_keeps world host _).1

theorem sessionModule?_recorded (world : World) (host : Host.HostId) (config : Config) (module : Ref)
    (trace : Array String) :
    (recorded world host config module trace).sessionModule? (sessionFor world host config module) = some module := by
  simp [World.sessionModule?, World.session?, recorded, sessionFor]

end Record

section Open

variable {heard : Hearing} {world after : World}
  {frame : Multiset Ref} {host : Host.HostId} {config : Config} {session : Session}

theorem run_openSession_of_silent (engine : Engine) (config : Config) (world : World) (silent : config.debug = false) :
    (∃ error after, (engine.enterModule config).run world = (.error error, after) ∧
      (engine.openSession host config).run world = (.error error, after)) ∨
    ∃ entered between trace, (engine.enterModule config).run world = (.ok entered, between) ∧
      entered.2.space = entered.1 ∧ (engine.openSession host config).run world =
        (.ok (sessionFor between host config entered.2), recorded between host config entered.2 trace) := by
  rw [openSession_eq]
  rcases ran : (engine.enterModule config).run world with ⟨error | entered, between⟩
  · exact Or.inl ⟨error, between, rfl, run_bind_error ran _⟩
  · obtain ⟨space, imported⟩ := run_enterModule_ok ran
    have here : entered.2.space = entered.1 := (answers_importModule _ _ _ (by rw [imported])).trans space.symm
    obtain ⟨trace, records⟩ := run_recordSession between host config entered.2
    refine Or.inr ⟨entered, between, trace, rfl, here, ?_⟩
    rw [run_bind_ok ran, silent, ← here]
    exact records

theorem run_switchOn (heard : Hearing) {flag : Flag} {roots : Guest.Roots} {name : String} {globals : Bindings Handle}
    {value function : Handle} (tuned : world.Tuned flag roots name globals value function) (depth : Nat)
    (exact : world.Exact frame) (held : flag.ref ∈ frame) :
    ∃ after, ((watched ⟨heard, false⟩ (depth + 1)).switchOn flag.space flag.ref).run world = (.ok (), after) ∧
      world.Aside flag frame after := by
  obtain ⟨called, ran, aside⟩ := tuned.run_callMethod exact held (watched ⟨heard, false⟩ depth)
  let none : Ref := { space := flag.space, handle := roots.noneValue }
  refine ⟨called.release none, ?_, aside.release (Or.inr (Or.inl (tuned.mem_own (by simp [Guest.Roots.handles]))))⟩
  have ranHere : ((watched ⟨heard, false⟩ (depth + 1)).callMethod flag.space flag.ref "debug_on" []).run world =
      (.ok none, called) := ran
  have ranCall :
      (asBridge ((watched ⟨heard, false⟩ (depth + 1)).callMethod flag.space flag.ref "debug_on" [])).run world =
      (.ok none, called) := run_adapt_ok _ ranHere
  unfold switchOn
  rw [run_bind_ok (run_onFailure_ok _ ranCall)]
  rfl

/-- Where the module runs no code of its own as it is imported, and the session is not to trace, it makes no difference
how code is run. -/
theorem run_openSession_of_codeless (engine engine' : Engine) (exact : world.Exact frame)
    (filed : ∀ definition, world.catalogue.get? config.moduleName = some definition →
      definition.name = config.moduleName)
    (codeless : (definitionFor world config).initializers = []) (silent : config.debug = false) :
    (engine.openSession host config).run world = (engine'.openSession host config).run world := by
  rw [openSession_eq, openSession_eq]
  refine run_bind_congr (run_enterModule_of_codeless engine engine' exact filed codeless) fun _ _ _ => ?_
  rw [silent]
  rfl

theorem opens_alike (depth : Nat) (exact : world.Exact frame) (known : host.index < world.hosts.size)
    (filed : ∀ definition, world.catalogue.get? config.moduleName = some definition →
      definition.name = config.moduleName)
    (unasked : ((watched ⟨heard, true⟩ (depth + 1)).openSession host { config with debug := false }).run world =
      ((watched ⟨heard, false⟩ (depth + 1)).openSession host { config with debug := false }).run world) :
    let engine := watched ⟨heard, false⟩ (depth + 1)
    (∃ error after, (engine.openSession host { config with debug := false }).run world = (.error error, after) ∧
      (engine.openSession host { config with debug := true }).run world = (.error error, after)) ∨
    ∃ flag session after after' roots,
      (engine.openSession host { config with debug := false }).run world = (.ok session, after) ∧
      (engine.openSession host { config with debug := true }).run world = (.ok (session.debugging true), after') ∧
      after.Twins flag frame after' ∧ after.sessionModule? session = some flag.ref ∧
      (after.space flag.space).roots = some roots ∧ flag.values = [roots.trueValue, roots.falseValue] := by
  intro engine
  let plain : Config := { config with debug := false }
  let traced : Config := { config with debug := true }
  have enters : engine.enterModule traced = engine.enterModule plain := rfl
  rcases run_openSession_of_silent engine plain world rfl with ⟨error, after, ran, opened⟩ |
    ⟨entered, between, trace, ran, here, opened⟩
  · refine Or.inl ⟨error, after, opened, ?_⟩
    rw [openSession_eq, run_bind_error (enters ▸ ran)]
  · rcases run_openSession_of_silent (watched ⟨heard, true⟩ (depth + 1)) plain world rfl with
      ⟨error, failed, -, refused⟩ |
      ⟨wary, waryBetween, waryTrace, waryRan, -, waryOpened⟩
    · cases (Prod.mk.inj (refused.symm.trans (unasked.trans opened))).1
    · -- Both engines have entered the same module, and left the same objects.
      obtain ⟨home, module⟩ := entered
      obtain rfl : module.space = home := here
      obtain ⟨sessions, worlds⟩ := Prod.mk.inj (waryOpened.symm.trans (unasked.trans opened))
      have spaces : between.spaces = waryBetween.spaces := by
        rw [← spaces_recorded between host plain module trace, ← worlds, spaces_recorded]
      have same : wary.2 = module := by
        have first := sessionModule?_recorded waryBetween host plain wary.2 waryTrace
        rw [worlds, Except.ok.inj sessions, sessionModule?_recorded] at first
        exact (Option.some.inj first).symm
      obtain ⟨flag, roots, moduleName, globals, function, ref, twins, tuned, listed⟩ :=
        tuned_of_enterModule exact filed waryRan
      obtain rfl : flag.ref = module := ref.trans same
      have tuned := tuned.of_spaces spaces
      have space : between.space flag.space = waryBetween.space flag.space := by rw [World.space, World.space, spaces]
      rw [← space] at listed
      obtain ⟨-, exactBetween, hosts⟩ := exact_of_enterModule (balanced_watched _ _) exact ran
      -- The one that is to trace sets the flag before it is recorded.
      obtain ⟨switched, ranSwitch, aside⟩ := run_switchOn heard tuned depth exactBetween (by simp)
      have twins := aside.twins exactBetween (twins.alike.of_spaces spaces spaces rfl) listed
      obtain ⟨trace', records⟩ := run_recordSession switched host traced flag.ref
      have knownBetween := known.trans_le hosts
      obtain ⟨session, twinsRecorded⟩ := twins_recorded twins knownBetween plain true trace trace'
      have openedTraced : (engine.openSession host traced).run world =
          (.ok (sessionFor switched host traced flag.ref), recorded switched host traced flag.ref trace') := by
        rw [openSession_eq, run_bind_ok (enters ▸ ran)]
        exact (run_bind_ok ranSwitch _).trans records
      refine Or.inr ⟨flag, _, _, _, roots, opened, ?_, twinsRecorded, sessionModule?_recorded _ _ _ _ _,
        ?_, tuned.values⟩
      · rw [openedTraced, session]
      · rw [World.space, spaces_recorded]
        exact tuned.rooted

end Open

end Engine

end ObjectBridge

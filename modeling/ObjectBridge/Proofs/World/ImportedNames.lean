import ObjectBridge.Proofs.Space.Labels
import ObjectBridge.Proofs.World.Ended
import ObjectBridge.Proofs.World.ImportEffects
import ObjectBridge.Proofs.World.ImportRequests
import ObjectBridge.Proofs.World.Listing
import ObjectBridge.Proofs.World.RoundTrip

/-!
Imports of names. A module that serves one imports another module first, then takes all that is asked for, and only
then binds it. So either every name is bound or nothing is, and beside what is bound the globals of the module are
as the initializers of the import have left them.
-/

namespace ObjectBridge

open Act
open Guest (Attribute Handle)

namespace World

/-- The value is what the attribute of the target stands for: the object that was found, or a method of the target. -/
def Stands (world : World) (target : Ref) : Attribute → Ref → Prop
  | .plain handle, value => value = { target with handle }
  | .method function, value =>
    value.space = target.space ∧ world.get? value = some (.boundMethod target.handle function)

theorem Stands.space_eq {world : World} {target value : Ref} {place : Attribute}
    (stands : world.Stands target place value) : value.space = target.space := by
  cases place with
  | plain handle =>
    obtain rfl : value = { target with handle } := stands
    rfl
  | method function => exact stands.1

theorem Stands.of_kept {world after : World} {target value : Ref} {place : Attribute}
    (stands : world.Stands target place value)
    (kept : ∀ receiver function, world.get? value = some (.boundMethod receiver function) →
      after.get? value = some (.boundMethod receiver function)) :
    after.Stands target place value := by
  cases place with
  | plain handle => exact stands
  | method function => exact ⟨stands.1, kept _ _ stands.2⟩

theorem Extends.findAttribute_eq {before after : World} (grown : Extends before after) {target : Ref}
    {object : Guest.Object Code} (closed : (before.space target.space).Closed)
    (found : before.get? target = some object) (name : String) :
    (after.space target.space).findAttribute target.handle name =
      (before.space target.space).findAttribute target.handle name := by
  have here := grown.spaces target.space
  exact closed.findAttribute_eq here.sameObjects ⟨object, found⟩ (Guest.Space.Has.object_eq ⟨object, found⟩ here) name

end World

namespace Act

variable {world : World} {frame : Multiset Ref} {target : Ref} {name : String}

theorem run_getattr_stands {place : Attribute} (exact : world.Exact frame)
    (typed : (world.space target.space).Typed)
    (found : (world.space target.space).findAttribute target.handle name = .ok place) :
    ∃ value after, (getattr target.space target name).run world = (.ok value, after) ∧
      World.Leads .temporary (world, 0) (after, {value}) ∧ after.Stands target place value := by
  have balanced : Balanced .temporary [] 0 (getattr target.space target name) ({·}) := balanced_getattr target name
  have closed := (exact.spaces target.space).closed typed
  cases place with
  | plain handle =>
    obtain ⟨object, there⟩ := closed.has_attribute found
    have present : world.get? { target with handle } = some object := there
    have started := exact.started_of_get? present
    have acquired := Guest.Space.acquire_eq_ok.mpr
      ⟨⟨object, Guest.Space.object_eq_ok.mpr ⟨started, there⟩⟩, rfl, rfl⟩
    have ran : (getattr target.space target name).run world =
        (.ok { target with handle }, world.setSpace target.space ((world.space target.space).retain handle)) := by
      rw [getattr, run_ownedBy, Guest.Space.run_getattr_plain found, acquired]
    exact ⟨_, _, ran, balanced.leads_ok (by rwa [zero_add]) ran, rfl⟩
  | method function =>
    obtain ⟨callable, shown⟩ := Guest.Space.function_of_findAttribute found
    have started := (Guest.Space.object_eq_ok.mp shown).1
    have allocates : (Guest.Space.getattr target.handle name).run (world.space target.space) =
        (Guest.Space.allocate (.boundMethod target.handle function)).run
          ((world.space target.space).retainAll [target.handle, function]) :=
      Guest.Space.run_getattr_method found
    obtain ⟨value, after, ran, here, -, made⟩ := run_ownedBy_allocate exact started allocates
    exact ⟨value, after, ran, balanced.leads_ok (by rwa [zero_add]) ran, here, made⟩

theorem run_getattr_error {exception : Guest.Exception}
    (failed : (world.space target.space).findAttribute target.handle name = .error exception) :
    (getattr target.space target name).run world = (.error exception, world) := by
  rw [getattr, run_ownedBy, Guest.Space.run_getattr_error failed]

theorem collect_append {ε α : Type} (act : α → Act ε Ref) (done : Array Ref) (first second : List α) (world : World) :
    (collect act done (first ++ second)).run world =
      (collect act done first >>= fun refs => collect act refs.toArray second).run world := by
  induction first generalizing done world with
  | nil => rfl
  | cons item rest ih =>
    rw [List.cons_append, collect, collect, run_bind, bind_assoc, run_bind]
    rcases ((act item).onFailure (·.releaseAll done.toList)).run world with ⟨error | ref, after⟩
    · rfl
    · exact ih (done.push ref) after

end Act

namespace Registry

open Guest (Exception)

variable {world : World} {frame : Multiset Ref} {source : Ref} {object : Guest.Object Code} {moduleName : String}
  {names : List String}

def importedValue (space : SpaceId) (moduleName : String) (source : Ref) (name : String) : GuestAct Ref :=
  (getattr space source name).adapt fun exception =>
    if exception.isAttributeError then .unimportable name moduleName else exception

theorem run_importedValues_found (source : Ref) (moduleName : String) (done : Array Ref) (exact : world.Exact frame)
    (typed : (world.space source.space).Typed) (present : world.get? source = some object)
    (found : ∀ name ∈ names, ∃ place, (world.space source.space).findAttribute source.handle name = .ok place) :
    ∃ values after,
      (collect (importedValue source.space moduleName source) done names).run world = (.ok (done.toList ++ values), after) ∧
      World.Leads .temporary (world, 0) (after, (values : Multiset Ref)) ∧
      List.Forall₂ (fun name value => ∃ place, (world.space source.space).findAttribute source.handle name = .ok place ∧
        after.Stands source place value) names values := by
  induction names generalizing world frame done with
  | nil => exact ⟨[], world, by rw [List.append_nil]; rfl, .refl world 0, .nil⟩
  | cons name rest ih =>
    obtain ⟨place, first⟩ := found name List.mem_cons_self
    obtain ⟨value, taken, ranFirst, leads, stands⟩ := run_getattr_stands exact typed first
    have exactTaken : taken.Exact ({value} + frame) := leads.exact (by rwa [zero_add])
    have grown := leads.extends exact
    have same := grown.findAttribute_eq ((exact.spaces source.space).closed typed) present
    obtain ⟨values, after, ran, leadsRest, standsRest⟩ :=
      ih (done.push value) exactTaken (leads.typed typed) (grown.get? present) fun other member => by
        rw [same]
        exact found other (List.mem_cons_of_mem _ member)
    simp only [same] at standsRest
    refine ⟨value :: values, after, ?_, ?_, .cons ⟨place, first, ?_⟩ standsRest⟩
    · have fetched : (importedValue source.space moduleName source name).run world = (.ok value, taken) :=
        run_adapt_ok _ ranFirst
      rw [collect, run_bind_ok (run_onFailure_ok _ fetched), ran, Array.toList_push, List.append_assoc]
      rfl
    · have both := leads.follow exact leadsRest
      rwa [add_comm, Multiset.singleton_add, Multiset.cons_coe] at both
    · exact stands.of_kept fun _ _ there => (leadsRest.extends exactTaken).get? there

theorem run_importedValues_missing (source : Ref) (moduleName : String) {first : List String} (rest : List String)
    {missing : String} (exact : world.Exact frame)
    (typed : (world.space source.space).Typed) (present : world.get? source = some object)
    (found : ∀ name ∈ first, ∃ place, (world.space source.space).findAttribute source.handle name = .ok place)
    {exception : Exception}
    (failed : (world.space source.space).findAttribute source.handle missing = .error exception)
    (lacks : exception.kind = "AttributeError") :
    ∃ after, (importedValues source.space moduleName source (first ++ missing :: rest)).run world =
      (.error (.unimportable missing moduleName), after) := by
  obtain ⟨values, taken, ran, leads, -⟩ := run_importedValues_found source moduleName #[] exact typed present found
  have failedThen : (getattr source.space source missing).run taken = (.error exception, taken) := by
    refine run_getattr_error ?_
    rw [(leads.extends exact).findAttribute_eq ((exact.spaces source.space).closed typed) present, failed]
  have unimportable : (importedValue source.space moduleName source missing).run taken =
      (.error (.unimportable missing moduleName), taken) := by
    have attributeError : exception.isAttributeError = true := beq_iff_eq.mpr lacks
    rw [importedValue, run_adapt_error _ failedThen, if_pos attributeError]
  refine ⟨taken.releaseAll values, ?_⟩
  have split : (importedValues source.space moduleName source (first ++ missing :: rest)).run world = _ :=
    collect_append (importedValue source.space moduleName source) #[] first (missing :: rest) world
  rw [split, run_bind_ok ran, collect]
  exact run_bind_error (run_onFailure_error _ unimportable) _

theorem run_bindValues {invocation : Invocation} {module : Ref} {contents : Guest.ModuleObject}
    (state : invocation.bound? = some module) {bindings : List (String × Ref)} (exact : world.Exact frame)
    (typed : (world.space module.space).Typed) (held : module ∈ frame)
    (found : world.get? module = some (.moduleObject contents))
    (values : ∀ binding ∈ bindings, binding.2 ∈ frame ∧ binding.2.space = module.space) :
    ∃ after, (bindings.forM fun (name, value) => do
        setattr module.space (← liftM invocation.bound) name value : GuestAct PUnit).run world = (.ok ⟨⟩, after) ∧
      World.Leads .lasting (world, 0) (after, 0) ∧
      (after.space module.space).roots = (world.space module.space).roots ∧
      after.get? module = some (.moduleObject { contents with
        globals := (bindings.map fun binding => (binding.1, binding.2.handle)).foldl
          (fun globals binding => globals.insert binding.1 binding.2) contents.globals }) := by
  induction bindings generalizing world contents with
  | nil => exact ⟨world, rfl, .refl world 0, rfl, found⟩
  | cons binding rest ih =>
    obtain ⟨name, value⟩ := binding
    obtain ⟨listed, here⟩ := values _ List.mem_cons_self
    have started := exact.started_of_get? found
    obtain ⟨bound, live⟩ := exact.exists_object listed (here ▸ started)
    have typeName := ((exact.spaces module.space).closed typed).exists_typeNameOf ⟨_, found⟩ started
    obtain ⟨between, ran, modifies, changed⟩ := run_setattr_held exact rfl found typeName live here held name
    have leads : World.Leads .lasting (world, 0) (between, 0) := modifies.leads (by rwa [zero_add])
    have exactThen : between.Exact frame := by simpa using leads.exact (by rwa [zero_add])
    obtain ⟨after, ranRest, leadsRest, rooted, last⟩ :=
      ih exactThen (leads.typed typed) changed fun other member => values other (List.mem_cons_of_mem _ member)
    refine ⟨after, ?_, leads.trans leadsRest, rooted.trans (modifies.roots_eq module.space), last⟩
    have bound : (liftM invocation.bound : GuestAct Ref).run world = (.ok module, world) := by
      simp only [Invocation.bound, state]
      exact run_lift _
    have first : (do setattr module.space (← liftM invocation.bound) name value : GuestAct Unit).run world =
        (.ok (), between) := by
      rw [run_bind_ok bound, ran]
    exact (run_bind_ok first _).trans ranRest

theorem all_or_first_missing (property : String → Prop) (names : List String) : (∀ name ∈ names, property name) ∨
    ∃ first missing rest, names = first ++ missing :: rest ∧ (∀ name ∈ first, property name) ∧ ¬property missing := by
  induction names with
  | nil => exact Or.inl nofun
  | cons name rest ih =>
    by_cases holds : property name
    · rcases ih with all | ⟨first, missing, later, rfl, before, lacks⟩
      · exact Or.inl (List.forall_mem_cons.mpr ⟨holds, all⟩)
      · exact Or.inr ⟨name :: first, missing, later, rfl, List.forall_mem_cons.mpr ⟨holds, before⟩, lacks⟩
    · exact Or.inr ⟨[], name, rest, rfl, nofun, holds⟩

section BindFrom

variable {invocation : Invocation} {module : Ref} {contents : Guest.ModuleObject}

theorem run_bindFrom_missing (moduleName : String) {first : List String} (rest : List String) {missing : String}
    (reached : world.Reached ({source} + frame)) (home : invocation.space = module.space)
    (here : source.space = module.space) (held : module ∈ frame) (found : world.get? module = some (.moduleObject contents))
    (present : world.get? source = some object)
    (provides : ∀ name ∈ first, ∃ place, (world.space module.space).Provides source.handle object name place)
    (nothing : ∀ place, ¬(world.space module.space).Provides source.handle object missing place) :
    ∃ after, (bindFrom invocation moduleName (first ++ missing :: rest) source).run world =
        (.error (.unimportable missing moduleName), after) ∧ after.get? module = world.get? module := by
  obtain ⟨_, handle⟩ := source
  obtain rfl := here
  have exact := reached.exact
  have searchable := reached.searchable (exact.started_of_get? found)
  have typed : (world.space module.space).Typed := reached.leads.typed (World.typed_empty _)
  obtain ⟨exception, failed, lacks⟩ := searchable.findAttribute_of_none present nothing
  have places (name : String) (member : name ∈ first) :
      ∃ place, (world.space module.space).findAttribute handle name = .ok place := by
    obtain ⟨place, leads⟩ := provides name member
    exact ⟨place, searchable.findAttribute_of_provides present leads⟩
  let source : Ref := { space := module.space, handle }
  obtain ⟨between, ran⟩ := run_importedValues_missing source moduleName rest exact typed present places failed
    lacks
  have balanced : Balanced .temporary [] 0
      (importedValues module.space moduleName source (first ++ missing :: rest)) fun refs => (refs : Multiset Ref) :=
    balanced_importedValues _ _ _ _
  have leads := balanced.leads_error (show world.Exact (0 + ({source} + frame)) by rwa [zero_add]) ran
  have exactThen : between.Exact ((([source] : List Ref) : Multiset Ref) + frame) := by
    simpa using leads.exact (show world.Exact (0 + ({source} + frame)) by rwa [zero_add])
  refine ⟨between.releaseAll [source], ?_, ?_⟩
  · unfold bindFrom
    rw [home]
    exact run_lending_of (run_bind_error ran _) [source]
  · rw [found]
    exact exactThen.get?_releaseAll (World.anchored_of_mem (Multiset.mem_add.mpr (Or.inl held)))
      ((leads.extends exact).get? found)

theorem run_bindFrom_found (moduleName : String) (reached : world.Reached ({source} + frame)) (home : invocation.space = module.space)
    (state : invocation.bound? = some module) (here : source.space = module.space) (held : module ∈ frame)
    (found : world.get? module = some (.moduleObject contents)) (present : world.get? source = some object)
    (provides : ∀ name ∈ names, ∃ place, (world.space module.space).Provides source.handle object name place) :
    ∃ answer after globals, (bindFrom invocation moduleName names source).run world = (.ok answer, after) ∧
      after.get? module = some (.moduleObject { contents with globals }) ∧
      (∀ name ∈ names, ∃ place value, (world.space module.space).Provides source.handle object name place ∧
        after.Stands source place value ∧ globals.get? name = some value.handle) ∧
      ∀ name, name ∉ names → globals.get? name = contents.globals.get? name := by
  obtain ⟨_, handle⟩ := source
  obtain rfl := here
  let source : Ref := { space := module.space, handle }
  have exact := reached.exact
  have started := exact.started_of_get? found
  have searchable := reached.searchable started
  have typed : (world.space module.space).Typed := reached.leads.typed (World.typed_empty _)
  obtain ⟨values, taken, ranValues, leadsTaken, stands⟩ :=
    run_importedValues_found source moduleName #[] exact typed present fun name member => by
      obtain ⟨place, leads⟩ := provides name member
      exact ⟨place, searchable.findAttribute_of_provides present leads⟩
  have exactTaken : taken.Exact ((values : Multiset Ref) + ({source} + frame)) := leadsTaken.exact (by rwa [zero_add])
  have foundTaken := (leadsTaken.extends exact).get? found
  have pairs : ∀ binding ∈ names.zip values, binding.2 ∈ (values : Multiset Ref) + ({source} + frame) ∧
      binding.2.space = module.space := by
    intro binding member
    obtain ⟨place, -, stood⟩ := (List.forall₂_iff_zip.mp stands).2 member
    exact ⟨Multiset.mem_add.mpr (Or.inl (List.of_mem_zip member).2), stood.space_eq⟩
  obtain ⟨bound, ranBound, leadsBound, rooted, last⟩ := run_bindValues state exactTaken (leadsTaken.typed typed)
    (by simp [held]) foundTaken pairs
  have exactBound : bound.Exact ((values : Multiset Ref) + ({source} + frame)) := by
    have exactAfter := leadsBound.exact (show taken.Exact (0 + ((values : Multiset Ref) + ({source} + frame))) by
      rwa [zero_add])
    rwa [zero_add] at exactAfter
  have startedBound : (bound.space module.space).roots.isSome := by
    rw [rooted, leadsTaken.roots_eq]
    exact started
  obtain ⟨answer, answered, ranNone, -, -, leadsNone⟩ := run_noneValue exactBound startedBound
  have exactAnswered : answered.Exact (((values ++ [source] : List Ref) : Multiset Ref) + ({answer} + frame)) := by
    have exactAfter : answered.Exact ({answer} + ((values : Multiset Ref) + ({source} + frame))) :=
      leadsNone.exact (by rwa [zero_add])
    have rearranged : ({answer} : Multiset Ref) + ((values : Multiset Ref) + ({source} + frame)) =
        (values : Multiset Ref) + {source} + ({answer} + frame) := by
      ac_rfl
    rwa [rearranged, ← Multiset.coe_singleton source, Multiset.coe_add] at exactAfter
  have lastAnswered := (leadsNone.extends exactBound).get? last
  have anchored : answered.Anchored ({answer} + frame) module :=
    World.anchored_of_mem (Multiset.mem_add.mpr (Or.inl (by simp [held])))
  have names_eq : ((names.zip values).map fun binding => (binding.1, binding.2.handle)).map (·.1) = names := by
    rw [List.map_map]
    exact List.map_fst_zip stands.length_eq.le
  have ran : (bindFrom invocation moduleName names source).run world =
      (.ok answer, (answered.releaseAll values).releaseAll [source]) := by
    unfold bindFrom
    refine run_lending_of ?_ [source]
    have taking : (importedValues module.space moduleName source names).run world = (.ok values, taken) := ranValues
    rw [home, run_bind_ok taking]
    exact run_lending_of ((run_bind_ok ranBound _).trans ranNone) values
  have lastReleased := exactAnswered.get?_releaseAll anchored lastAnswered
  rw [← World.releaseAll_append] at lastReleased
  refine ⟨answer, _, _, ran, lastReleased, fun name member => ?_, fun name unlisted => ?_⟩
  · obtain ⟨_, pair, now⟩ := Bindings.get?_foldl_insert_of_mem contents.globals (names_eq.symm ▸ member)
    obtain ⟨⟨listed, value⟩, zipped, same⟩ := List.mem_map.mp pair
    obtain ⟨rfl, rfl⟩ := Prod.mk.inj same
    obtain ⟨place, leads, stood⟩ := (List.forall₂_iff_zip.mp stands).2 zipped
    obtain ⟨other, given⟩ := provides listed member
    obtain rfl : other = place :=
      Except.ok.inj ((searchable.findAttribute_of_provides present given).symm.trans leads)
    refine ⟨other, value, given, stood.of_kept ?_, now⟩
    intro receiver function there
    have home : value.space = module.space := stood.space_eq
    have here : value = { module with handle := value.handle } := by rw [← home]
    obtain ⟨_, kept, rfl⟩ := leadsBound.kept (· = .boundMethod receiver function)
      (fun _ _ changes same => by subst same; cases changes) (show taken.Exact (0 + _) by rwa [zero_add])
      (pairs _ zipped).1 ⟨_, there, rfl⟩ (home ▸ startedBound)
    have child := anchored.child lastAnswered (show value.handle ∈ _ from Bindings.mem_values.mpr ⟨_, now⟩)
    rw [World.releaseAll_append]
    exact exactAnswered.get?_releaseAll (here ▸ child) ((leadsNone.extends exactBound).get? kept)
  · exact Bindings.get?_foldl_insert_of_notMem (names_eq.symm ▸ unlisted)

end BindFrom

/-- The import that was asked for was carried out, in a world that is as it was but for counts and what is traced, and
of what the module that serves has, only the initializers of the import have changed anything. -/
structure Imported (engine : Engine) (module : Ref) (world : World) (arguments : List Ref) (moduleName : String)
    (names : List String) (outcome : Except Exception Ref) (imported : World) : Prop where
  asked : Requests world arguments moduleName names
  ran : ∃ before, world.Extends before ∧
    (engine.importModule module.space moduleName).run before = (outcome, imported) ∧
    Engine.LeftByInitializers engine module.space moduleName before module (imported.get? module)

theorem Imported.space_eq {engine : Engine} {module source : Ref} {world imported : World} {arguments : List Ref}
    {moduleName : String} {names : List String}
    (imports : Imported engine module world arguments moduleName names (.ok source) imported) :
    source.space = module.space := by
  obtain ⟨before, -, ran, -⟩ := imports.ran
  exact Engine.answers_importModule moduleName before source (by rw [ran])

inductive FromImport (engine : Engine) (module : Ref) (world : World) (arguments : List Ref) :
    Except Exception Ref → World → Prop
  | refused {exception : Exception} {after : World}
      (unasked : ∀ moduleName names, ¬Requests world arguments moduleName names)
      (same : after.get? module = world.get? module) : FromImport engine module world arguments (.error exception) after
  | failed {moduleName : String} {names : List String} {exception : Exception} {imported after : World}
      (imports : Imported engine module world arguments moduleName names (.error exception) imported)
      (same : after.get? module = imported.get? module) : FromImport engine module world arguments (.error exception) after
  | ended {moduleName : String} {names : List String} {source : Ref} {imported after : World}
      (imports : Imported engine module world arguments moduleName names (.ok source) imported)
      (ended : (imported.space module.space).roots = none)
      (same : after.get? module = imported.get? module) : FromImport engine module world arguments (.error .finalized) after
  | lacking {moduleName : String} {first rest : List String} {missing : String} {source : Ref} {imported after : World}
      {object : Guest.Object Code} {exception : Exception}
      (imports : Imported engine module world arguments moduleName (first ++ missing :: rest) (.ok source) imported)
      (present : imported.get? source = some object)
      (provides : ∀ name ∈ first, ∃ place, (imported.space module.space).Provides source.handle object name place)
      (nothing : ∀ place, ¬(imported.space module.space).Provides source.handle object missing place)
      (raised : exception = .unimportable missing moduleName ∧ exception.kind = "ImportError")
      (same : after.get? module = imported.get? module) : FromImport engine module world arguments (.error exception) after
  | bound {moduleName : String} {names : List String} {source answer : Ref} {imported after : World}
      {object : Guest.Object Code} {contents : Guest.ModuleObject} {globals : Bindings Handle}
      (imports : Imported engine module world arguments moduleName names (.ok source) imported)
      (present : imported.get? source = some object)
      (before : imported.get? module = some (.moduleObject contents))
      (now : after.get? module = some (.moduleObject { contents with globals }))
      (listed : ∀ name ∈ names, ∃ place value,
        (imported.space module.space).Provides source.handle object name place ∧ after.Stands source place value ∧
          globals.get? name = some value.handle)
      (others : ∀ name, name ∉ names → globals.get? name = contents.globals.get? name) :
      FromImport engine module world arguments (.ok answer) after

section Served

variable {engine : Engine} {invocation : Invocation} {module : Ref} {contents : Guest.ModuleObject}

theorem run_bindFrom_ended (source : Ref) (moduleName : String) (names : List String) (home : invocation.space = module.space)
    (ended : (world.space module.space).roots = none) :
    (bindFrom invocation moduleName names source).run world = (.error .finalized, world.releaseAll [source]) := by
  refine run_lending_of ?_ [source]
  rw [home]
  cases names with
  | nil =>
    have taking : (importedValues module.space moduleName source []).run world = (.ok [], world) := rfl
    rw [run_bind_ok taking]
    exact run_lending_of (run_noneValue_finalized ended) []
  | cons name rest =>
    have first : (importedValue module.space moduleName source name).run world = (.error .finalized, world) := by
      rw [importedValue, run_adapt_error _ (run_getattr_refused ended source name)]
      rfl
    have taking : (importedValues module.space moduleName source (name :: rest)).run world = _ :=
      run_bind_error (run_onFailure_error _ first) _
    exact run_bind_error taking _

theorem fromImport_importFrom (balanced : engine.Balanced) (lists : engine.Respects World.KeepsListed)
    (keeps : engine.Respects World.KeepsNames) (reached : world.Reached frame) (home : invocation.space = module.space)
    (state : invocation.bound? = some module) (held : module ∈ frame)
    (found : world.get? module = some (.moduleObject contents)) {outcome : Except Exception Ref} {after : World}
    (ran : (importFrom engine invocation).run world = (outcome, after)) :
    FromImport engine module world invocation.arguments outcome after := by
  have exact := reached.exact
  have framed : world.Exact (0 + frame) := by rwa [zero_add]
  have requests : Balanced .temporary [] 0 (request invocation) fun _ => 0 := balanced_request invocation
  rw [importFrom_eq] at ran
  rcases request_cases invocation world with ⟨moduleName, names, before, asked, understood⟩ |
    ⟨exception, last, unasked, failed⟩
  · rw [run_bind_ok understood] at ran
    have grown := (requests.leads_ok framed understood).extends exact
    have reachedBefore : before.Reached (0 + frame) := by
      have whole : world.Reached (0 + frame) := by rwa [zero_add]
      have lasts : Balanced .lasting [] 0 (request invocation) fun _ => 0 := balanced_request invocation
      have run := whole.run lasts (respects_request invocation) (List.forall_mem_nil _)
      rwa [understood] at run
    have exactBefore : before.Exact frame := by simpa using reachedBefore.exact
    rcases importing : (engine.importModule invocation.space moduleName).run before with ⟨exception | source, imported⟩
    · -- The import fails.
      rw [run_bind_error importing] at ran
      obtain ⟨rfl, rfl⟩ := Prod.mk.inj ran
      rw [home] at importing
      exact .failed ⟨asked, before, grown, importing,
        Engine.leftByInitializers_importModule balanced lists exactBefore held rfl importing⟩ rfl
    · -- The import succeeds, and what follows depends on what the source has then.
      rw [run_bind_ok importing] at ran
      rw [home] at importing
      have imports : Imported engine module world invocation.arguments moduleName names (.ok source) imported :=
        ⟨asked, before, grown, importing,
          Engine.leftByInitializers_importModule balanced lists exactBefore held rfl importing⟩
      have balancedImport : Balanced .lasting [] 0 (engine.importModule module.space moduleName) ({·}) :=
        Engine.balanced_importModule balanced moduleName
      have reachedImported : imported.Reached ({source} + frame) := by
        have run := reachedBefore.run balancedImport (World.CoversSpaces.imports keeps module.space moduleName)
          (List.forall_mem_nil _)
        rwa [importing] at run
      have here := imports.space_eq
      by_cases started : (imported.space module.space).roots.isSome
      · obtain ⟨object, present⟩ := reachedImported.exact.exists_object (show source ∈ {source} + frame by simp)
          (here ▸ started)
        have leadsImport := balancedImport.leads_ok reachedBefore.exact importing
        obtain ⟨contents, foundImported⟩ :=
          leadsImport.kept_module reachedBefore.exact held (grown.get? found) started
        rcases all_or_first_missing (fun name =>
          ∃ place, (imported.space module.space).Provides source.handle object name place) names with provides |
          ⟨first, missing, rest, rfl, provides, lacks⟩
        · obtain ⟨answer, last, globals, bound, now, listed, others⟩ :=
            run_bindFrom_found moduleName reachedImported home state here held foundImported present provides
          obtain ⟨rfl, rfl⟩ := Prod.mk.inj (bound.symm.trans ran)
          exact .bound imports present foundImported now listed others
        · have nothing := not_exists.mp lacks
          obtain ⟨last, raised, same⟩ := run_bindFrom_missing moduleName rest reachedImported
            home here held foundImported present provides nothing
          obtain ⟨rfl, rfl⟩ := Prod.mk.inj (raised.symm.trans ran)
          exact .lacking imports present provides nothing ⟨rfl, rfl⟩ same
      · have ended := Option.not_isSome_iff_eq_none.mp started
        have raised := run_bindFrom_ended source moduleName names home ended
        obtain ⟨rfl, rfl⟩ := Prod.mk.inj (raised.symm.trans ran)
        have framedImported : imported.Exact ((([source] : List Ref) : Multiset Ref) + frame) := by
          rw [Multiset.coe_singleton]
          exact reachedImported.exact
        refine .ended imports ended ?_
        rw [framedImported.get?_releaseAll_of_ended (by simp [held]) ended, framedImported.get?_of_ended ended]
  · -- What is asked for is not understood.
    rw [run_bind_error failed] at ran
    obtain ⟨rfl, rfl⟩ := Prod.mk.inj ran
    refine .refused unasked ?_
    have grown := (requests.leads_error framed failed).extends exact
    rw [found]
    exact grown.get? found

/-- It ends for a caller as it does for what is called, since all that the caller lends for the time of the call leaves
the objects as they are, and those that the module refers to outlast it. -/
theorem FromImport.of_call {arguments : List Ref} {before after last : World} {outcome : Except Exception Ref}
    (ends : FromImport engine module before arguments outcome last) (grown : world.Extends before)
    (same : ∀ ref, before.get? ref = world.get? ref) (still : after.get? module = last.get? module)
    (outlasts : ∀ contents, last.get? module = some (.moduleObject contents) → ∀ value : Ref,
      value.space = module.space → value.handle ∈ contents.globals.values → ∀ object, last.get? value = some object →
        after.get? value = some object) :
    FromImport engine module world arguments outcome after := by
  have imported {moduleName : String} {names : List String} {result : Except Exception Ref} {imported : World}
      (imports : Imported engine module before arguments moduleName names result imported) :
      Imported engine module world arguments moduleName names result imported := by
    obtain ⟨asked, between, extended, ran, left⟩ := imports
    exact ⟨(Requests.of_same same).mp asked, between, grown.trans extended, ran, left⟩
  cases ends with
  | refused unasked kept =>
    exact .refused (fun moduleName names asked => unasked moduleName names ((Requests.of_same same).mpr asked))
      (still.trans (kept.trans (same module)))
  | failed imports kept => exact .failed (imported imports) (still.trans kept)
  | ended imports ended kept => exact .ended (imported imports) ended (still.trans kept)
  | lacking imports present provides nothing raised kept =>
    exact .lacking (imported imports) present provides nothing raised (still.trans kept)
  | bound imports present held now listed others =>
    refine .bound (imported imports) present held (still.trans now) (fun name member => ?_) others
    obtain ⟨place, value, provides, stands, bound⟩ := listed name member
    refine ⟨place, value, provides, stands.of_kept fun receiver function there => ?_, bound⟩
    exact outlasts _ now value (stands.space_eq.trans imports.space_eq) (Bindings.mem_values.mpr ⟨name, bound⟩) _ there

end Served

/-- A from-import binds all names or none, in every world that is come to, whatever it is asked for. If it succeeds,
every listed name is a global of the module that serves, bound to what the attribute of the source stood for once
the import had finished, and no other global is bound to anything else. If it fails for whatever reason, the module is
as the initializers of the import have left it, and if they are run to their end, the failure for a name that the
source has no attribute of is an `ImportError`. -/
theorem from_import_binds_all_or_none {depth : Nat} {world after : World} {held : Multiset Ref}
    (reached : world.Reached held) {function module : Ref} {label : String} {contents : Guest.ModuleObject}
    (offers : world.get? function =
      some (.function { name := label, bound := some module.handle, body := .service .invokeFromImport }))
    (serves : world.get? module = some (.moduleObject contents)) (here : module.space = function.space)
    (callee : function ∈ held) {arguments : List Ref} {keywords : List (String × Ref)}
    (lent : ∀ ref ∈ arguments, ref ∈ held) (named : ∀ keyword ∈ keywords, keyword.2 ∈ held)
    {outcome : Except Exception Ref}
    (ran : ((Engine.ofDepth (depth + 1)).call function.space function arguments keywords).run world = (outcome, after)) :
    FromImport (Engine.ofDepth depth) module world arguments outcome after := by
  let callable : Guest.Function Code :=
    { name := label, bound := some module.handle, body := .service .invokeFromImport }
  let invocation : Invocation := { space := function.space, bound? := some module, arguments, keywords }
  let given : List Ref := [module] ++ arguments ++ keywords.map (·.2)
  have state : { function with handle := module.handle } = module := by rw [← here]
  have child : module.handle ∈ Guest.Object.children (.function callable) := by simp [Guest.Object.children, callable]
  have exact := reached.exact
  have live : ∀ ref ∈ given, world.Live ref := by
    intro ref member
    simp only [given, List.mem_append, List.mem_singleton, List.mem_map] at member
    rcases member with (rfl | argument) | ⟨keyword, listed, rfl⟩
    · exact state ▸ exact.live_of_child offers child
    · exact exact.live (Multiset.mem_add.mpr (Or.inl (lent ref argument)))
    · exact exact.live (Multiset.mem_add.mpr (Or.inl (named keyword listed)))
  -- The module and all that is handed over is lent to the service.
  let before := world.retainAll given
  have reachedBefore : before.Reached ((given : Multiset Ref) + held) := reached.retainAll live
  have framed : world.Exact (0 + held) := by rwa [zero_add]
  have grown : world.Extends before := (World.leads_retainAll .temporary framed live).extends exact
  have same (ref : Ref) : before.get? ref = world.get? ref := world.get?_retainAll given ref
  rcases served : (importFrom (Engine.ofDepth depth) invocation).run before with ⟨result, last⟩
  have called : ((Engine.ofDepth (depth + 1)).call function.space function arguments keywords).run world =
      (result, last.releaseAll given) := by
    rw [Engine.ofDepth_succ, Engine.run_call_function _ exact offers arguments keywords
      (show some module = _ by simp [state]) (show given = _ from rfl)]
    exact run_lending_of served given
  obtain ⟨rfl, rfl⟩ := Prod.mk.inj (called.symm.trans ran)
  have ends := fromImport_importFrom (Engine.balanced_ofDepth depth) (Engine.respects_ofDepth depth)
    (Engine.respects_ofDepth depth) reachedBefore here.symm rfl (by simp [given]) ((same module).trans serves) served
  -- What the function refers to is there when what was lent is given back.
  have framedBefore : before.Exact (0 + ((given : Multiset Ref) + held)) := by
    rw [zero_add]
    exact reachedBefore.exact
  have serving : Balanced .lasting [] 0 (importFrom (Engine.ofDepth depth) invocation) ({·}) :=
    balanced_importFrom (Engine.balanced_ofDepth depth) invocation
  have leads : World.Leads .lasting (before, 0) (last, left ({·}) result) := by
    have settles := serving.settles framedBefore
    rwa [Settles, served] at settles
  have exactLast : last.Exact ((given : Multiset Ref) + (left ({·}) result + held)) := by
    have exactAfter := leads.exact framedBefore
    rwa [add_left_comm] at exactAfter
  have kept {object : Guest.Object Code} (there : last.get? module = some object) :
      last.Anchored (left ({·}) result + held) module := by
    have started := exactLast.started_of_get? there
    obtain ⟨_, offersLast, rfl⟩ := leads.kept (· = .function callable)
      (fun _ _ changes same => by subst same; cases changes) framedBefore (by simp [callee])
      ⟨_, (same function).trans offers, rfl⟩ (here ▸ started)
    have anchored : last.Anchored (left ({·}) result + held) function :=
      World.anchored_of_mem (Multiset.mem_add.mpr (Or.inl (by simp [callee])))
    exact state ▸ anchored.child offersLast child
  refine ends.of_call grown same ?_ fun contents there value home member object found => ?_
  · cases there : last.get? module with
    | some object => exact exactLast.get?_releaseAll (kept there) there
    | none =>
      have listed : module ∈ (given : Multiset Ref) + (left ({·}) result + held) := by simp [given]
      refine exactLast.get?_releaseAll_of_ended listed (Option.not_isSome_iff_eq_none.mp fun started => ?_)
      obtain ⟨object, found⟩ := exactLast.exists_object listed started
      cases there.symm.trans found
  · have listed : last.Anchored (left ({·}) result + held) { module with handle := value.handle } :=
      (kept there).child there member
    refine exactLast.get?_releaseAll ?_ found
    rwa [← home] at listed

/-- The module of a session binds its own name as a global of that name, when it is asked to import it from itself. -/
theorem from_import_binds_own_name :
    let world := Console.after (.ofDepth 1) [Console.opening "s",
      { action := .session .module, place := some "s", host := "", result := some "module", keyed := false },
      { action := .guest (.getattr (.register "module") "invoke_from_import" false), place := some "s", host := ""
        result := some "function", keyed := false },
      { action := .guest (.value (.text "m")), place := some "s", host := "", result := some "source", keyed := false },
      { action := .guest (.value (.tuple [.text "__name__"])), place := some "s", host := "", result := some "names"
        keyed := false }] .empty
    ∃ function source names module answer after, world.registerValue? "function" = some function ∧
      world.registerValue? "source" = some source ∧ world.registerValue? "names" = some names ∧
      world.registerValue? "module" = some module ∧
      let held := world.retainAll [function, source, names]
      ((Engine.ofDepth 1).call function.space function [source, names] []).run held = (.ok answer, after) ∧
        FromImport (Engine.ofDepth 0) module held [source, names] (.ok answer) after := by
  intro world
  let value (register : String) : Ref := (world.registerValue? register).getD default
  obtain ⟨found, offered, answered, here, live⟩ :
      (∀ register ∈ ["function", "source", "names", "module"], world.registerValue? register = some (value register)) ∧
      ((world.globals? (value "module")).isSome ∧
        world.offered? (value "module") .invokeFromImport = some (value "function")) ∧
      (((Engine.ofDepth 1).call (value "function").space (value "function") [value "source", value "names"] []).run
        (world.retainAll [value "function", value "source", value "names"])).1.isOk ∧
      (value "module").space = (value "function").space ∧
      ∀ ref ∈ [value "function", value "source", value "names"], (world.get? ref).isSome := by
    decide +kernel
  have reached : world.Reached 0 := Console.reached_after 1 _
  clear_value value world
  have lives : ∀ ref ∈ [value "function", value "source", value "names"], world.Live ref := by
    intro ref member
    obtain ⟨object, there⟩ := Option.isSome_iff_exists.mp (live ref member)
    exact World.live_of_get? there
  have reachedHeld := reached.retainAll lives
  obtain ⟨globals, shown⟩ := Option.isSome_iff_exists.mp offered.1
  obtain ⟨-, -, label, offers⟩ := World.offers_of_offered? shown offered.2
  obtain ⟨moduleName, serves⟩ := World.globals?_eq_some.mp shown
  rw [← World.get?_retainAll world [value "function", value "source", value "names"]] at offers serves
  rcases ran : ((Engine.ofDepth 1).call (value "function").space (value "function") [value "source", value "names"]
    []).run (world.retainAll [value "function", value "source", value "names"]) with ⟨exception | answer, after⟩
  · rw [ran] at answered
    cases answered
  · refine ⟨_, _, _, _, answer, after, found _ (by simp), found _ (by simp), found _ (by simp), found _ (by simp), ran, ?_⟩
    exact from_import_binds_all_or_none reachedHeld offers serves here (by simp) (by simp) (List.forall_mem_nil _) ran

end Registry

end ObjectBridge

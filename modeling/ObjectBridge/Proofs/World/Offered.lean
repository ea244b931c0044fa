import ObjectBridge.Machine
import ObjectBridge.Proofs.Names
import ObjectBridge.Proofs.World.Proxies
import ObjectBridge.Proofs.World.Results

/-!
Services that are offered. As long as the function of a service is bound in the module of an open session,
to call the service is to carry it out, with the module and the arguments held meanwhile.
-/

namespace ObjectBridge

open Guest (Extent Handle)

namespace World

structure Open (world : World) (session : Session) (module : Ref) (globals : Bindings Handle) : Prop where
  recorded : ∃ state, world.session? session.id = some state ∧ state.session = session ∧
    state.module? = some module.handle
  space : module.space = session.space
  object : ∃ name, world.get? module = some (.moduleObject { name, globals })

def Offers (world : World) (module : Ref) (globals : Bindings Handle) (service : Registry.Service)
    (function : Ref) : Prop :=
  globals.get? service.name = some function.handle ∧ function.space = module.space ∧
    ∃ name, world.get? function = some (.function { name, bound := some module.handle, body := .service service })

def globals? (world : World) (module : Ref) : Option (Bindings Handle) :=
  match world.get? module with
  | some (.moduleObject contents) => some contents.globals
  | _ => none

def offered? (world : World) (module : Ref) (service : Registry.Service) : Option Ref := do
  let handle ← (← world.globals? module).get? service.name
  match world.get? { module with handle } with
  | some (.function { bound, body := .service other, .. }) =>
    if bound = some module.handle ∧ other = service then some { module with handle } else none
  | _ => none

section Open

variable {world after : World} {session : Session} {module function : Ref} {globals : Bindings Handle}
  {service : Registry.Service}

theorem globals?_eq_some : world.globals? module = some globals ↔
    ∃ name, world.get? module = some (.moduleObject { name, globals }) := by
  unfold globals?
  split
  · rename_i contents found
    rw [found]
    constructor
    · rintro ⟨⟩
      exact ⟨contents.name, rfl⟩
    · rintro ⟨name, same⟩
      rw [Guest.Object.moduleObject.inj (Option.some.inj same)]
  · rename_i other
    exact ⟨nofun, fun ⟨name, found⟩ => absurd found (other _)⟩

theorem open_of_globals? {id : SessionId} {state : SessionState} (recorded : world.session? id = some state)
    (same : state.session.id = id) (held : state.module? = some module.handle)
    (space : module.space = state.session.space) (found : world.globals? module = some globals) :
    world.Open state.session module globals := by
  subst same
  exact ⟨⟨state, recorded, rfl, held⟩, space, globals?_eq_some.mp found⟩

theorem offers_of_offered? (found : world.globals? module = some globals)
    (offered : world.offered? module service = some function) : world.Offers module globals service function := by
  obtain ⟨_, same, named⟩ := Option.bind_eq_some_iff.mp offered
  obtain rfl : globals = _ := Option.some.inj (found.symm.trans same)
  obtain ⟨handle, bound, checked⟩ := Option.bind_eq_some_iff.mp named
  split at checked
  · rename_i name state other shown
    split at checked
    · rename_i fits
      obtain ⟨rfl, rfl⟩ := fits
      obtain rfl := Option.some.inj checked
      exact ⟨bound, rfl, name, shown⟩
    · cases checked
  · cases checked

theorem Open.sessionModule? (opened : world.Open session module globals) :
    world.sessionModule? session = some module := by
  obtain ⟨state, found, same, held⟩ := opened.recorded
  obtain ⟨space, handle⟩ := module
  obtain rfl : space = session.space := opened.space
  rw [World.sessionModule?, found]
  simp [same, held]

theorem Open.mem_outside (opened : world.Open session module globals) : module ∈ world.outside :=
  mem_outside_of_sessionModule? opened.sessionModule?

theorem Open.live {loose : Multiset Ref} (opened : world.Open session module globals)
    (exact : world.Exact loose) : world.Live module :=
  exact.live (Multiset.mem_add.mpr (Or.inr opened.mem_outside))

theorem Open.anchored (opened : world.Open session module globals) (frame : Multiset Ref) :
    world.Anchored frame module :=
  anchored_of_mem (Multiset.mem_add.mpr (Or.inr opened.mem_outside))

theorem Open.anchored_global (opened : world.Open session module globals) (frame : Multiset Ref) {name : String}
    {handle : Handle} (bound : globals.get? name = some handle) :
    world.Anchored frame { module with handle } := by
  obtain ⟨moduleName, found⟩ := opened.object
  exact (opened.anchored frame).child found (Bindings.mem_values.mpr ⟨name, bound⟩)

theorem Offers.anchored (offers : world.Offers module globals service function)
    (opened : world.Open session module globals) (frame : Multiset Ref) : world.Anchored frame function := by
  obtain ⟨bound, space, -⟩ := offers
  obtain ⟨home, handle⟩ := function
  obtain rfl : home = module.space := space
  exact opened.anchored_global frame bound

theorem Open.of_leads {owned owned' frame : Multiset Ref} (opened : world.Open session module globals)
    (leads : Leads .temporary (world, owned) (after, owned')) (exact : world.Exact (owned + frame)) :
    after.Open session module globals := by
  obtain ⟨name, found⟩ := opened.object
  obtain ⟨_, _, rest⟩ := leads.rest_eq
  refine ⟨?_, opened.space, name, leads.unchanged exact (opened.anchored frame) found⟩
  rw [rest]
  exact opened.recorded

theorem Offers.of_leads {owned owned' frame : Multiset Ref} (offers : world.Offers module globals service function)
    (opened : world.Open session module globals) (leads : Leads .temporary (world, owned) (after, owned'))
    (exact : world.Exact (owned + frame)) : after.Offers module globals service function := by
  have anchored := offers.anchored opened frame
  obtain ⟨bound, space, name, found⟩ := offers
  exact ⟨bound, space, name, leads.unchanged exact anchored found⟩

end Open

end World

namespace Guest.Space

variable {β : Type} {space : Space β} {handle value : Handle} {name : String}

theorem findAttribute_global {contents : ModuleObject} (found : space.object handle = .ok (.moduleObject contents))
    (bound : contents.globals.get? name = some value) : space.findAttribute handle name = .ok (.plain value) := by
  simp [findAttribute, ownAttribute, found, bound, bind, Except.bind, pure, Except.pure]

theorem dir_module {contents : ModuleObject} (found : space.object handle = .ok (.moduleObject contents)) :
    space.dir handle = .ok contents.globals.names := by
  simp only [dir, found, bind, Except.bind, pure, Except.pure, foldr_insertName contents.globals.names_ascending]

theorem callee_function {callable : Function β} (found : space.object handle = .ok (.function callable)) :
    space.callee handle = .ok (.native callable.body callable.bound) := by
  simp [callee, found, bind, Except.bind, pure, Except.pure]

end Guest.Space

namespace World

theorem retainAll_append (world : World) (first second : List Ref) :
    (world.retainAll first).retainAll second = world.retainAll (first ++ second) :=
  List.foldl_append.symm

theorem releaseAll_append (world : World) (first second : List Ref) :
    (world.releaseAll first).releaseAll second = world.releaseAll (first ++ second) :=
  List.foldl_append.symm

end World

namespace Act

variable {world : World} {id : SpaceId} {frame : Multiset Ref}

theorem run_getattr_global {module : Ref} (value : Ref) {name moduleName : String} {globals : Bindings Handle}
    {object : Guest.Object Code} (exact : world.Exact frame)
    (found : world.get? module = some (.moduleObject { name := moduleName, globals }))
    (bound : globals.get? name = some value.handle) (here : module.space = value.space)
    (live : world.get? value = some object) :
    (getattr value.space module name).run world = (.ok value, world.retain value) := by
  have shown := exact.object_eq_ok found
  rw [here] at shown
  have ran := Guest.Space.run_getattr_plain (Guest.Space.findAttribute_global shown bound)
  rw [Guest.Space.acquire_eq_ok.mpr ⟨⟨object, exact.object_eq_ok live⟩, rfl, rfl⟩] at ran
  rw [getattr, run_ownedBy, ran, World.retain, World.updateSpace_eq_setSpace]

theorem run_kindOf {ε : Type} (ref : Ref) :
    (kindOf ref : Act ε (Option Guest.Kind)).run world = (.ok ((world.get? ref).map (·.kind)), world) :=
  rfl

end Act

namespace Engine

open Act Bridge

variable {world : World} {session : Session} {module function : Ref} {globals : Bindings Handle}
  {service : Registry.Service}

def heldBy (module function : Ref) (arguments : List Ref) : List Ref :=
  module :: function :: module :: arguments

def givenBack (module function : Ref) (arguments : List Ref) : List Ref :=
  module :: arguments ++ [function, module]

theorem coe_givenBack (module function : Ref) (arguments : List Ref) :
    (givenBack module function arguments : Multiset Ref) = heldBy module function arguments := by
  simp only [givenBack, heldBy, ← Multiset.coe_add, ← Multiset.cons_coe, Multiset.coe_nil, Multiset.cons_add]
  rw [Multiset.add_cons, Multiset.add_cons, add_zero, Multiset.cons_swap function]

theorem run_moduleOf (opened : world.Open session module globals) :
    (moduleOf session).run world = (.ok module, world.retain module) := by
  unfold moduleOf
  rw [run_get_bind, opened.sessionModule?]
  rfl

theorem run_call_function (engine : Engine) {frame : Multiset Ref} {callable : Guest.Function Code}
    (exact : world.Exact frame) (found : world.get? function = some (.function callable)) (arguments : List Ref)
    (keywords : List (String × Ref)) {bound? : Option Ref} {lent : List Ref}
    (bound : bound? = callable.bound.map fun handle => { space := function.space, handle })
    (total : lent = bound?.toList ++ arguments ++ keywords.map (·.2)) :
    (engine.next.call function.space function arguments keywords).run world =
      (lending lent (engine.runCode callable.body
        { space := function.space, bound?, arguments, keywords })).run (world.retainAll lent) := by
  have viewed : (onView function.space (·.callee function.handle)).run world =
      (.ok (.native callable.body callable.bound), world) := by
    rw [run_onView, Guest.Space.callee_function (exact.object_eq_ok found)]
  subst bound total
  show (engine.callObject engine.runCode function.space function arguments keywords).run world = _
  rw [callObject, run_bind_ok viewed]
  rfl

theorem run_textArgument (invocation : Invocation) {index : Nat} {ref : Ref} {text : String}
    (given : invocation.arguments[index]? = some ref) (found : world.get? ref = some (.str text)) :
    (invocation.textArgument index).run world = (.ok text, world) := by
  have argument : invocation.argument index = .ok ref := by simp [Invocation.argument, given]
  unfold Invocation.textArgument
  rw [argument, run_bind_ok (run_lift _), run_bind_ok (World.textOf_eq found)]
  rfl

theorem run_serviceTrace (world : World) (invocation : Invocation) (line : String) :
    ∃ trace, (Registry.traceLine invocation line).run world = (.ok (), { world with trace }) := by
  unfold Registry.traceLine
  rw [run_change]
  cases invocation.bound? with
  | none => exact ⟨world.trace, rfl⟩
  | some module =>
    by_cases tracing : Registry.isTracing world module = true
    · exact ⟨_, by simp only [tracing, if_true]; rfl⟩
    · exact ⟨world.trace, by simp only [tracing, Bool.false_eq_true, if_false]⟩

theorem run_registryCall (engine : Engine) (opened : world.Open session module globals)
    (offers : world.Offers module globals service function) {frame : Multiset Ref} (exact : world.Exact frame)
    (arguments : List Ref) {result : Except Guest.Exception Ref} {after : World}
    (served : (Registry.serve engine service
      { space := session.space, bound? := some module, arguments, keywords := [] }).run
        (world.retainAll (heldBy module function arguments)) = (result, after)) :
    (engine.next.registryCall session service.name arguments).run world =
      (result.mapError .guest, after.releaseAll (givenBack module function arguments)) := by
  obtain ⟨home, handle⟩ := module
  obtain rfl : home = session.space := opened.space
  obtain ⟨bound, here, functionName, callable⟩ := offers
  obtain ⟨home, functionHandle⟩ := function
  obtain rfl : home = session.space := here
  obtain ⟨moduleName, found⟩ := opened.object
  let module : Ref := { space := session.space, handle }
  let function : Ref := { space := session.space, handle := functionHandle }
  -- The module is taken first, and then its function.
  have taken := World.leads_retain .temporary (by rwa [zero_add]) (opened.live exact)
  have exactTaken := taken.exact (by rwa [zero_add])
  have fetched : (getattr session.space module service.name).run (world.retain module) =
      (.ok function, (world.retain module).retain function) :=
    run_getattr_global function exactTaken (by rwa [World.get?_retain]) bound rfl (by rwa [World.get?_retain])
  have live : (world.retain module).Live function := World.live_of_get? (by rwa [World.get?_retain])
  have fetches := World.leads_retain .temporary exactTaken live
  have called : (engine.next.call session.space function arguments []).run
      ((world.retain module).retain function) = (result, after.releaseAll (module :: arguments)) := by
    have ran := run_call_function engine (fetches.exact exactTaken)
      (by rwa [World.get?_retain, World.get?_retain]) arguments [] rfl rfl
    rw [ran]
    simp only [Option.map_some, Option.toList_some, List.map_nil, List.append_nil, List.singleton_append,
      run_lending]
    have same : ((world.retain module).retain function).retainAll (module :: arguments) =
        world.retainAll (heldBy module function arguments) := rfl
    rw [same, runCode, served]
  rw [registryCall, run_bind_ok (run_moduleOf opened), run_lending, asBridge, run_adapt, callMethod,
    run_bind_ok fetched, run_lending, called, World.releaseAll_append, World.releaseAll_append, givenBack,
    List.append_assoc]
  rfl

theorem live_heldBy {frame : Multiset Ref} {arguments : List Ref} (opened : world.Open session module globals)
    (offers : world.Offers module globals service function) (exact : world.Exact frame)
    (live : ∀ ref ∈ arguments, world.Live ref) : ∀ ref ∈ heldBy module function arguments, world.Live ref := by
  obtain ⟨-, -, name, found⟩ := offers
  intro ref member
  simp only [heldBy, List.mem_cons] at member
  rcases member with rfl | rfl | rfl | member
  · exact opened.live exact
  · exact World.live_of_get? found
  · exact opened.live exact
  · exact live ref member

theorem leads_heldBy (extent : Extent) {frame : Multiset Ref} {arguments : List Ref}
    (opened : world.Open session module globals) (offers : world.Offers module globals service function)
    (exact : world.Exact frame) (live : ∀ ref ∈ arguments, world.Live ref) :
    World.Leads extent (world, 0)
      (world.retainAll (heldBy module function arguments), heldBy module function arguments) := by
  have framed : world.Exact (0 + frame) := by rwa [zero_add]
  have taken := World.leads_retainAll extent framed (live_heldBy opened offers exact live)
  rwa [add_zero] at taken

theorem leads_registryCall {extent : Extent} {frame owned : Multiset Ref} {arguments : List Ref} {after : World}
    (opened : world.Open session module globals) (offers : world.Offers module globals service function)
    (exact : world.Exact frame) (live : ∀ ref ∈ arguments, world.Live ref)
    (served : World.Leads extent (world.retainAll (heldBy module function arguments), 0) (after, owned)) :
    World.Leads extent (world, 0) (after.releaseAll (givenBack module function arguments), owned) := by
  have taken := leads_heldBy extent opened offers exact live
  have exactTaken := taken.exact (by rwa [zero_add])
  have framed := served.frame (World.knows_add.mp (World.knows_add.mp exactTaken.known).1).1
  rw [zero_add] at framed
  refine (taken.trans framed).trans ?_
  have exactServed := framed.exact exactTaken
  rw [add_comm, ← coe_givenBack]
  rw [add_comm owned, ← coe_givenBack] at exactServed
  exact World.leads_releaseAll extent exactServed

end Engine

end ObjectBridge

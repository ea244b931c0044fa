import ObjectBridge.Proofs.World.Alterations
import ObjectBridge.Proofs.World.Commands
import ObjectBridge.Proofs.World.Synthesis

/-!
Publication of classes. A type that was made is bound in the module under its name, and in every spelling
the name leads to it from then on. A definition is accepted just if there is nothing against it; one that is
refused leaves everything as it was.
-/

namespace ObjectBridge

open Guest (Extent Handle)

namespace World

theorem Alters.binds {before after : World} {session : Session} {module : Ref} {globals globals' : Bindings Handle}
    {name : String} (alters : before.Alters after module (.moduleObject { name, globals := globals' }))
    (opened : before.Open session module globals) : after.Open session module globals' := by
  obtain ⟨_, _, same⟩ := alters.rest
  refine ⟨?_, opened.space, name, alters.changed⟩
  rw [same]
  exact opened.recorded

theorem Alters.synthesized {before after : World} {module type : Ref} {contents contents' : Guest.ModuleObject}
    {className : String} {base : Handle} {methods : List String} {route : Route}
    (alters : before.Alters after module (.moduleObject contents'))
    (found : before.get? module = some (.moduleObject contents))
    (synthesized : before.Synthesized type className base methods route) :
    after.Synthesized type className base methods route := by
  obtain ⟨members, made, listed, ⟨label, labelled, named⟩, routed⟩ := synthesized
  refine ⟨members, alters.unchanged made found nofun, listed, ⟨label, labelled, alters.unchanged named found nofun⟩,
    fun name member => ?_⟩
  obtain ⟨function, bound, handle, made, spelled⟩ := routed name member
  exact ⟨function, bound, handle, alters.unchanged made found nofun, alters.unchanged spelled found nofun⟩

theorem Synthesized.of_extends {before after : World} {type : Ref} {className : String} {base : Handle}
    {methods : List String} {route : Route} (synthesized : before.Synthesized type className base methods route)
    (grown : before.Extends after) : after.Synthesized type className base methods route := by
  obtain ⟨members, made, listed, ⟨label, labelled, named⟩, routed⟩ := synthesized
  refine ⟨members, grown.get? made, listed, ⟨label, labelled, grown.get? named⟩, fun name member => ?_⟩
  obtain ⟨function, bound, leadsAlong⟩ := routed name member
  exact ⟨function, bound, leadsAlong.of_extends grown⟩

theorem Synthesized.of_leads {before after : World} {owned owned' frame : Multiset Ref} {type : Ref}
    {className : String} {base : Handle} {methods : List String} {route : Route}
    (synthesized : before.Synthesized type className base methods route)
    (leads : Leads .temporary (before, owned) (after, owned')) (exact : before.Exact (owned + frame))
    (anchored : before.Anchored frame type) : after.Synthesized type className base methods route := by
  obtain ⟨members, made, listed, ⟨label, labelled, named⟩, routed⟩ := synthesized
  have held {name : String} {handle : Handle} (bound : members.get? name = some handle) :
      before.Anchored frame { type with handle } :=
    anchored.child made (List.mem_append_right _ (Bindings.mem_values.mpr ⟨name, bound⟩))
  refine ⟨members, leads.unchanged exact anchored made, listed,
    ⟨label, labelled, leads.unchanged exact (held labelled) named⟩, fun name member => ?_⟩
  obtain ⟨function, bound, leadsAlong⟩ := routed name member
  exact ⟨function, bound, leadsAlong.of_leads leads exact (held bound)⟩

structure Published (world : World) (session : Session) (module : Ref) (globals : Bindings Handle) (className : String)
    (base : Handle) (methods : List String) (route : Route) (type : Ref) : Prop where
  opened : world.Open session module (globals.insert className type.handle)
  here : type.space = module.space
  synthesized : world.Synthesized type className base methods route

section Published

variable {world after : World} {owned owned' frame : Multiset Ref} {session : Session} {module type : Ref}
  {globals : Bindings Handle} {className : String} {base : Handle} {methods : List String} {route : Route}

theorem Published.of_leads (published : world.Published session module globals className base methods route type)
    (leads : Leads .temporary (world, owned) (after, owned')) (exact : world.Exact (owned + frame)) :
    after.Published session module globals className base methods route type := by
  obtain ⟨opened, here, synthesized⟩ := published
  have bound : (globals.insert className type.handle).get? className = some type.handle := by
    rw [Bindings.get?_insert, if_pos rfl]
  have anchored : world.Anchored frame { module with handle := type.handle } := opened.anchored_global frame bound
  rw [← here] at anchored
  exact ⟨opened.of_leads leads exact, here, synthesized.of_leads leads exact anchored⟩

end Published

end World

namespace Engine

open Act Bridge

section Publish

variable {now : World} {frame : Multiset Ref} {session : Session} {module binder : Ref} {globals : Bindings Handle}
  {className : String} {name type : Ref} {object : Guest.Object Code}

theorem run_serve_setGlobals (engine : Engine) (exact : now.Exact frame) (typed : (now.space module.space).Typed)
    {moduleName : String} (found : now.get? module = some (.moduleObject { name := moduleName, globals }))
    (named : now.get? name = some (.str className)) (live : now.get? type = some object)
    (here : type.space = module.space) (fresh : globals.get? className = none) :
    ∃ none bound after, (Registry.serve engine .setGlobals
        { space := module.space, bound? := some module, arguments := [name, type], keywords := [] }).run now =
          (.ok none, after) ∧
      now.Alters bound module (.moduleObject { name := moduleName, globals := globals.insert className type.handle }) ∧
      World.Leads .lasting (now, 0) (bound, 0) ∧ World.Leads .temporary (bound, 0) (after, {none}) := by
  let invocation : Invocation :=
    { space := module.space, bound? := some module, arguments := [name, type], keywords := [] }
  obtain ⟨trace, traced⟩ := run_serviceTrace now invocation s!"set_globals({className})"
  have leadsTrace : World.Leads .lasting (now, 0) ({ now with trace }, 0) := World.leads_trace now 0 trace
  have exactTrace := exact.with_trace trace
  have named' := exactTrace.spaces module.space |>.closed typed |>.exists_typeNameOf ⟨_, found⟩
    (exactTrace.started_of_get? found)
  obtain ⟨target, rfl⟩ : ∃ handle, module = { space := type.space, handle } := ⟨module.handle, by rw [here]⟩
  obtain ⟨bound, ranSet, alters, leadsSet⟩ := run_setattr exactTrace rfl found named' live className
  rw [fresh] at ranSet leadsSet
  have exactBound : bound.Exact frame := by simpa using leadsSet.exact (by rwa [zero_add])
  obtain ⟨none, after, ranNone, -, -, leadsNone⟩ := run_noneValue exactBound
    (exactBound.started_of_get? alters.changed)
  refine ⟨none, bound, after, ?_, alters.of_same (fun _ => rfl) (fun _ => ⟨rfl, rfl⟩) ⟨now.spaces, trace, rfl⟩,
    leadsTrace.trans leadsSet, leadsNone⟩
  unfold Registry.serve
  rw [run_bind_ok (run_textArgument invocation rfl named), run_bind_ok traced]
  show (setattr type.space { space := type.space, handle := target } className type >>= fun _ =>
    ownedBy type.space Guest.Space.noneValue).run _ = _
  rw [run_bind_ok ranSet]
  exact ranNone

theorem run_publish (engine : Engine) (exact : now.Exact frame) (typed : (now.space module.space).Typed)
    (opened : now.Open session module globals) (offers : now.Offers module globals .setGlobals binder)
    (named : now.get? name = some (.str className)) (live : now.get? type = some object)
    (here : type.space = module.space) (fresh : globals.get? className = none) :
    ∃ published bound owned after, (engine.next.registryCall session "set_globals" [name, type]).run now =
        (.ok published, after) ∧
      (∃ moduleName, now.get? module = some (.moduleObject { name := moduleName, globals }) ∧
        now.Alters bound module
          (.moduleObject { name := moduleName, globals := globals.insert className type.handle })) ∧
      World.Leads .lasting (now, 0) (bound, owned) ∧ World.Leads .temporary (bound, owned) (after, {published}) := by
  obtain ⟨moduleName, found⟩ := opened.object
  have listed : ∀ ref ∈ [name, type], now.Live ref := by
    simpa using ⟨World.live_of_get? named, World.live_of_get? live⟩
  have leadsHeld := leads_heldBy .lasting opened offers exact listed
  let held := now.retainAll (heldBy module binder [name, type])
  have exactHeld : held.Exact ((heldBy module binder [name, type] : Multiset Ref) + frame) :=
    leadsHeld.exact (by rwa [zero_add])
  have objects (ref : Ref) : held.get? ref = now.get? ref := World.get?_retainAll _ _ _
  obtain ⟨none, bound, served, ran, alters, leadsBound, leadsServed⟩ :=
    run_serve_setGlobals engine exactHeld (leadsHeld.typed typed) ((objects module).trans found)
      ((objects name).trans named) ((objects type).trans live) here fresh
  rw [opened.space] at ran
  have exactBound : bound.Exact ((heldBy module binder [name, type] : Multiset Ref) + frame) := by
    simpa using leadsBound.exact (by rwa [zero_add])
  -- What was held for the service is given back once the type is bound.
  have framed : World.Leads .temporary (bound, (heldBy module binder [name, type] : Multiset Ref))
      (served, {none} + (heldBy module binder [name, type] : Multiset Ref)) := by
    simpa only [zero_add] using leadsServed.frame (World.knows_add.mp (World.knows_add.mp exactBound.known).1).1
  have exactServed : served.Exact ({none} + (heldBy module binder [name, type] : Multiset Ref) + frame) :=
    framed.exact exactBound
  rw [add_comm ({none} : Multiset Ref), ← coe_givenBack] at exactServed
  have given := World.leads_releaseAll .temporary exactServed
  rw [coe_givenBack, add_comm] at given
  have grown := (leads_heldBy .temporary opened offers exact listed).extends exact
  have tables (id : SpaceId) := And.intro (grown.spaces id).roots (grown.spaces id).modules
  refine ⟨none, bound, heldBy module binder [name, type], _, run_registryCall engine opened offers exact _ ran,
    ⟨moduleName, found, alters.of_same objects tables grown.rest⟩, ?_, framed.trans given⟩
  have follows := leadsHeld.follow exact leadsBound
  rwa [zero_add] at follows

end Publish

section Class

variable {now : World} {frame : Multiset Ref} {session : Session} {module binder baseType : Ref}
  {globals : Bindings Handle} {className : String} {methods : List String} {route : Route}

def activate (origin : HostValue) (className : String) (state : SessionState) : SessionState :=
  { state with active := some { origin, className } }

theorem releaseAll_updateSession (world : World) (id : SessionId) (change : SessionState → SessionState)
    (refs : List Ref) :
    (world.updateSession id change).releaseAll refs = (world.releaseAll refs).updateSession id change := by
  induction refs generalizing world with
  | nil => rfl
  | cons ref rest ih => exact ih (world.release ref)

theorem run_publishType (engine : Engine) {type : Ref} (exact : now.Exact ({type} + frame))
    (typed : (now.space module.space).Typed) (opened : now.Open session module globals)
    (offers : now.Offers module globals .setGlobals binder) (fresh : globals.get? className = none)
    (here : type.space = module.space) {base : Handle}
    (synthesized : now.Synthesized type className base methods route) :
    ∃ name named published after,
      (ownedBy session.space (Guest.Space.newText className)).run now = (.ok name, named) ∧
      (engine.next.registryCall session "set_globals" [name, type]).run named = (.ok published, after) ∧
      (∃ moduleName, World.Modifies module
        (.moduleObject { name := moduleName, globals := globals.insert className type.handle })
          (now, {type}) ((after.release published).releaseAll [name, type], 0)) ∧
      ((after.release published).releaseAll [name, type]).Published session module globals className base methods
        route type := by
  have framed : now.Exact (0 + ({type} + frame)) := by rwa [zero_add]
  have started : (now.space session.space).roots.isSome := by
    obtain ⟨moduleName, found⟩ := opened.object
    exact opened.space ▸ exact.started_of_get? found
  obtain ⟨name, named, ranText, -, leadsText, -, shown⟩ := run_newText exact started className
  have exactNamed : named.Exact ({name} + ({type} + frame)) := leadsText.exact framed
  have openedNamed := opened.of_leads leadsText framed
  have synthesizedNamed := synthesized.of_extends (leadsText.extends exact)
  obtain ⟨members, made, -⟩ := synthesizedNamed
  obtain ⟨published, bound, owned, after, ran, ⟨moduleName, found, alters⟩, leadsBound, leadsAfter⟩ :=
    run_publish engine exactNamed (leadsText.typed typed) openedNamed (offers.of_leads opened leadsText framed)
      shown made here fresh
  have publishedBound : bound.Published session module globals className base methods route type :=
    ⟨alters.binds openedNamed, here, alters.synthesized found (synthesized.of_extends (leadsText.extends exact))⟩
  -- The name and the type are held until the module has the type.
  have pair : (([name, type] : List Ref) : Multiset Ref) = {name} + {type} := rfl
  have exactPair : named.Exact (0 + (([name, type] : List Ref) + frame)) := by
    rwa [zero_add, pair, add_assoc]
  have exactBound : bound.Exact (owned + (([name, type] : List Ref) + frame)) := leadsBound.exact exactPair
  have exactAfter : after.Exact ({published} + (([name, type] : List Ref) + frame)) := leadsAfter.exact exactBound
  have released := leadsAfter.trans (World.leads_release .temporary exactAfter)
  have exactReleased : (after.release published).Exact (([name, type] : List Ref) + 0 + frame) := by
    simpa using released.exact exactBound
  have settled : World.Leads .temporary (bound, owned + ([name, type] : List Ref))
      ((after.release published).releaseAll [name, type], 0) := by
    have beside := released.beside exactBound
    rw [zero_add, ← add_zero (([name, type] : List Ref) : Multiset Ref)] at beside
    exact beside.trans (World.leads_releaseAll .temporary exactReleased)
  have taken : World.Leads .temporary (now, {type}) (named, ([name, type] : List Ref)) := by
    have beside := leadsText.beside framed
    rwa [zero_add, ← pair] at beside
  have boundPair := leadsBound.beside exactPair
  rw [zero_add] at boundPair
  rw [← add_assoc] at exactBound
  exact ⟨name, named, published, after, ranText, ran,
    ⟨moduleName, named, _, bound, _, taken, alters, boundPair, settled⟩, publishedBound.of_leads settled exactBound⟩

/-- How it ends to make and publish a class, from a world with loose references: with the class published and
active if classes may derive from its base, and otherwise with everything as it was. -/
def Publishes (session : Session) (module : Ref) (globals : Bindings Handle) (origin : HostValue) (className : String)
    (baseType : Ref) (contents : Guest.TypeObject) (methods : List String) (before : World × Multiset Ref) :
    Except Error Unit × World → Prop
  | (.ok _, after) => (contents.builtin = true → contents.name = "object") ∧ ∃ type later,
      after = later.updateSession session.id (activate origin className) ∧ before.1.get? type = none ∧
      (∃ moduleName, World.Modifies module
        (.moduleObject { name := moduleName, globals := globals.insert className type.handle }) before (later, 0)) ∧
      later.Published session module globals className baseType.handle methods
        { session := session.id, origin, className } type
  | (.error error, after) => ¬(contents.builtin = true → contents.name = "object") ∧
      (∃ fault, error = .classDefinition fault) ∧ World.Leads .temporary before (after, 0)

theorem run_makeType (exact : now.Exact ({baseType} + frame)) {contents : Guest.TypeObject}
    (here : baseType.space = session.space) (found : now.get? baseType = some (.typeObject contents))
    (faultless : nameFault? className methods = none) {functions : List Ref}
    (made : List.Forall₂ (fun name function => function.space = session.space ∧ now.LeadsAlong function name route)
      methods functions) :
    ∃ (result : Except Guest.Exception Ref) (after : World),
      (lending [baseType] ((ownedBy session.space (Guest.Space.newType className [baseType.handle]
        (methods.zip (functions.map (·.handle))))).adapt fun exception =>
          Error.classDefinition (.refused exception.message))).run now =
        (result.mapError fun exception => Error.classDefinition (.refused exception.message), after) ∧
      World.Leads .temporary (now, {baseType}) (after, left ({·}) result) ∧
        match result with
        | .ok type => (contents.builtin = true → contents.name = "object") ∧ type.space = session.space ∧
            now.get? type = none ∧ after.Synthesized type className baseType.handle methods route
        | .error _ => ¬(contents.builtin = true → contents.name = "object") := by
  have framed : now.Exact (0 + ({baseType} + frame)) := by rwa [zero_add]
  have members : List.Forall₂ (fun name handle => now.LeadsAlong { space := session.space, handle } name route)
      methods (functions.map (·.handle)) := by
    refine List.forall₂_map_right_iff.mpr (made.imp fun name function => ?_)
    rintro ⟨space, leadsAlong⟩
    rwa [← space]
  obtain ⟨result, created, ran, leads, spec⟩ := run_newClass exact here found faultless members
  have exactCreated : created.Exact (([baseType] : List Ref) + 0 + (left ({·}) result + frame)) := by
    simpa [add_left_comm] using leads.exact framed
  have given := World.leads_releaseAll .temporary exactCreated
  refine ⟨result, created.releaseAll [baseType], ?_, ?_, ?_⟩
  · rw [run_lending, run_adapt, ran]
  · have beside := leads.beside framed
    have besideGiven := given.beside exactCreated
    rw [zero_add, add_comm] at beside
    rw [zero_add, add_zero] at besideGiven
    exact beside.trans besideGiven
  · cases result with
    | error exception => exact spec
    | ok type =>
      obtain ⟨derivable, space, unknown, synthesized⟩ := spec
      exact ⟨derivable, space, unknown, synthesized.of_leads given exactCreated (World.anchored_of_mem (by simp))⟩

theorem run_publishClass (engine : Engine) {contents : Guest.TypeObject} (exact : now.Exact ({baseType} + frame))
    (typed : (now.space module.space).Typed) (opened : now.Open session module globals)
    (offers : now.Offers module globals .setGlobals binder) (fresh : globals.get? className = none)
    (faultless : nameFault? className methods = none) (here : baseType.space = module.space)
    (found : now.get? baseType = some (.typeObject contents)) {functions : List Ref} {origin : HostValue}
    (made : List.Forall₂ (fun name function => function.space = session.space ∧
      now.LeadsAlong function name { session := session.id, origin, className }) methods functions) :
    Publishes session module globals origin className baseType contents methods (now, {baseType})
      ((engine.next.publishClass session origin className baseType methods functions).run now) := by
  obtain ⟨result, created, ranType, passes, spec⟩ :=
    run_makeType exact (here.trans opened.space) found faultless made
  unfold publishClass
  cases result with
  | error exception =>
    rw [run_bind_error ranType]
    exact ⟨spec, ⟨_, rfl⟩, passes⟩
  | ok type =>
    obtain ⟨derivable, space, unknown, synthesized⟩ := spec
    obtain ⟨name, named, published, after, ranText, ranPublish, ⟨moduleName, modifies⟩, shown⟩ :=
      run_publishType engine (passes.exact exact) (passes.typed typed) (opened.of_leads passes exact)
        (offers.of_leads opened passes exact) fresh (space.trans opened.space.symm) synthesized
    let final := (after.release published).releaseAll [name, type]
    have exactCreated : created.Exact ({type} + frame) := passes.exact exact
    have exactFinal : final.Exact (0 + frame) := (modifies.leads exactCreated).exact exactCreated
    obtain ⟨trace, traced⟩ := run_traceLine (ε := Error) session.config 0 s!"define_class {className} published"
      (final.updateSession session.id (activate origin className))
    have leadsTrace : World.Leads .temporary (final, 0) ({ final with trace }, 0) := World.leads_trace final 0 trace
    have ranPublished : (lending [name, type] do
        let published ← engine.next.registryCall session "set_globals" [name, type]
        change (·.release published)).run named = (.ok (), final) := by
      rw [run_lending, run_bind_ok ranPublish]
      rfl
    have ranName : (asBridge (ownedBy session.space (Guest.Space.newText className))).run created = (.ok name, named) :=
      run_adapt_ok Error.guest ranText
    have ends : Publishes session module globals origin className baseType contents methods (now, {baseType})
        (.ok (), { final.updateSession session.id (activate origin className) with trace }) :=
      ⟨derivable, type, { final with trace }, rfl, unknown,
        ⟨moduleName, (modifies.of_leads passes).trans_leads leadsTrace⟩,
        shown.of_leads leadsTrace exactFinal⟩
    rw [run_bind_ok ranType, run_bind_ok (run_onFailure_ok _ ranName), run_bind_ok ranPublished]
    rw [← traced] at ends
    exact ends

end Class

end Engine

namespace World

open Engine

structure Admits (world : World) (module : Ref) (globals : Bindings Handle) (className base : String)
    (methods : List String) (baseType : Ref) : Prop where
  identifier : Text.isIdentifier className = true
  admissible : ∀ name ∈ methods, Text.isIdentifier name = true ∧ name ∉ Guest.reservedNames
  once : methods.Nodup
  free : Free globals className
  resolves : ((Registry.resolve module.space module base).run world).1 = .ok baseType
  derivable : ∃ contents, world.get? baseType = some (.typeObject contents) ∧
    (contents.builtin = true → contents.name = "object")

/-- A definition has been carried out: the module has one global more, which is a new type, and the name leads
to it in every spelling. -/
structure Defines (before after : World) (session : Session) (module : Ref) (globals : Bindings Handle)
    (origin : HostValue) (className : String) (baseType : Ref) (methods : List String) (type : Ref) : Prop where
  unknown : before.get? type = none
  published : after.Published session module globals className baseType.handle methods
    { session := session.id, origin, className } type
  resolves : ∀ spelling, Text.lowercase spelling = Text.lowercase className →
    ((Registry.resolve module.space module spelling).run after).1 = .ok type
  active : ∃ state, after.session? session.id = some state ∧ state.active = some { origin, className }

section Published

variable {world : World} {frame : Multiset Ref} {session : Session} {module type : Ref}
  {globals : Bindings Handle} {className : String} {base : Handle} {methods : List String} {route : Route}

theorem Published.activate (published : world.Published session module globals className base methods route type)
    (origin : HostValue) (name : String) :
    (world.updateSession session.id (activate origin name)).Published session module globals className base methods
      route type := by
  obtain ⟨⟨⟨state, recorded, same, held⟩, space, object⟩, here, synthesized⟩ := published
  refine ⟨⟨⟨Engine.activate origin name state, ?_, same, held⟩, space, object⟩, here, synthesized⟩
  rw [session?_updateSession, if_pos rfl, recorded]
  rfl

theorem Published.resolve_spelling (exact : world.Exact frame) (typed : (world.space module.space).Typed)
    (published : world.Published session module globals className base methods route type)
    (identifier : Text.isIdentifier className = true) (free : Free globals className) {spelling : String}
    (alike : Text.lowercase spelling = Text.lowercase className) :
    ((Registry.resolve module.space module spelling).run world).1 = .ok type := by
  obtain ⟨⟨-, -, moduleName, found⟩, here, members, made, -⟩ := published
  have closed := (exact.spaces module.space).closed typed
  refine (Registry.resolve_eq_ok_type exact closed rfl ⟨_, found⟩ spelling made).mpr ⟨?_, here⟩
  refine Registry.resolved_global _ (exact.object_eq_ok found) (by rw [Bindings.get?_insert, if_pos rfl]) identifier
    (fun other listed same => ?_) alike
  obtain ⟨value, bound⟩ := Bindings.mem_names.mp listed
  by_contra different
  rw [Bindings.get?_insert, if_neg different] at bound
  exact free other value bound same

end Published

end World

namespace Engine

open Act Bridge

section Definition

variable {world : World} {frame : Multiset Ref} {session : Session} {module resolver binder : Ref}
  {globals : Bindings Handle}

theorem prepares_of_admits (exact : world.Exact frame) (closed : (world.space module.space).Closed)
    (has : (world.space module.space).Has module.handle) {className base : String} {methods : List String}
    {baseType : Ref} (admits : world.Admits module globals className base methods baseType) :
    Prepares world module globals className base methods (module, baseType) := by
  obtain ⟨contents, found, -⟩ := admits.derivable
  obtain ⟨leading, here⟩ := (Registry.resolve_eq_ok_type exact closed rfl has base found).mp admits.resolves
  exact ⟨rfl, nameFault?_eq_none.mpr ⟨admits.identifier, admits.admissible, admits.once⟩, admits.free, here, leading,
    contents, found⟩

theorem admits_of_prepares (exact : world.Exact frame) (closed : (world.space module.space).Closed)
    (has : (world.space module.space).Has module.handle) {className base : String} {methods : List String}
    {found : Ref × Ref} {contents : Guest.TypeObject}
    (prepares : Prepares world module globals className base methods found)
    (shown : world.get? found.2 = some (.typeObject contents))
    (derivable : contents.builtin = true → contents.name = "object") :
    world.Admits module globals className base methods found.2 := by
  obtain ⟨-, faultless, free, here, leading, -⟩ := prepares
  obtain ⟨identifier, admissible, once⟩ := nameFault?_eq_none.mp faultless
  exact ⟨identifier, admissible, once, free,
    (Registry.resolve_eq_ok_type exact closed rfl has base shown).mpr ⟨leading, here⟩, contents, shown, derivable⟩

theorem run_makeClass (engine : Engine) {baseType : Ref} {contents : Guest.TypeObject}
    (exact : world.Exact ({module} + {baseType} + frame)) (typed : (world.space module.space).Typed)
    (opened : world.Open session module globals) (binds : world.Offers module globals .setGlobals binder)
    {className : String} (fresh : globals.get? className = none) {methods : List String}
    (faultless : nameFault? className methods = none) (here : baseType.space = module.space)
    (found : world.get? baseType = some (.typeObject contents)) (origin : HostValue) :
    Publishes session module globals origin className baseType contents methods (world, {module} + {baseType})
      ((lending [module] do
        let functions ← (callbacks session { session := session.id, origin, className } methods).onFailure
          (·.release baseType)
        lending functions
          (engine.next.publishClass session origin className baseType methods functions)).run world) := by
  have started : (world.space session.space).roots.isSome := by
    obtain ⟨moduleName, shown⟩ := opened.object
    exact opened.space ▸ exact.started_of_get? shown
  obtain ⟨functions, called, ranCallbacks, leadsCallbacks, made⟩ :=
    run_callbacks exact started { session := session.id, origin, className } methods
  let held := functions ++ [module]
  have leadsCalled : World.Leads .temporary (world, {module} + {baseType})
      (called, {baseType} + (held : Multiset Ref)) := by
    have framed : world.Exact (0 + (({module} + {baseType}) + frame)) := by rwa [zero_add]
    convert leadsCallbacks.beside framed using 2
    · rw [zero_add]
    · simp only [held, ← Multiset.coe_add, Multiset.coe_singleton]
      abel
  have exactCalled : called.Exact ({baseType} + ((held : Multiset Ref) + frame)) := by
    rw [← add_assoc]
    exact leadsCalled.exact exact
  have publishes := run_publishClass engine exactCalled (leadsCalled.typed typed) (opened.of_leads leadsCalled exact)
    (binds.of_leads opened leadsCalled exact) fresh faultless here (leadsCallbacks.extends exact |>.get? found) made
  -- What was held for the class is given back, whatever came of it.
  have settled {extent : Extent} {ended : World} (leads : World.Leads extent (called, {baseType}) (ended, 0)) :
      World.Leads extent (called, {baseType} + (held : Multiset Ref)) (ended.releaseAll held, 0) := by
    have exactEnded : ended.Exact ((held : Multiset Ref) + 0 + frame) := by
      simpa only [zero_add, add_zero] using leads.exact exactCalled
    have beside := leads.beside exactCalled
    rw [add_comm (0 : Multiset Ref)] at beside
    exact beside.trans (World.leads_releaseAll extent exactEnded)
  rw [run_lending, run_bind_ok (run_onFailure_ok _ ranCallbacks), run_lending, World.releaseAll_append]
  rcases ran : (engine.next.publishClass session origin className baseType methods functions).run called with
    ⟨error | _, ended⟩
  all_goals rw [ran] at publishes
  · obtain ⟨underivable, fault, leads⟩ := publishes
    exact ⟨underivable, fault, leadsCalled.trans (settled leads)⟩
  · obtain ⟨derivable, type, later, rfl, unknown, ⟨moduleName, modifies⟩, published⟩ := publishes
    have exactLater : later.Exact ((held : Multiset Ref) + 0 + frame) := by
      simpa only [zero_add, add_zero] using (modifies.leads exactCalled).exact exactCalled
    have given := World.leads_releaseAll .temporary exactLater
    have beside := modifies.beside exactCalled
    rw [add_comm (0 : Multiset Ref)] at beside
    exact ⟨derivable, type, later.releaseAll held, releaseAll_updateSession _ _ _ _,
      (leadsCallbacks.extends exact).get?_eq_none unknown,
      ⟨moduleName, (beside.of_leads leadsCalled).trans_leads given⟩, published.of_leads given exactLater⟩

/-- A definition is carried out, and changes nothing but the module, or it is refused because nothing is fit to be its
base. -/
theorem run_defineClass_modifies (engine : Engine) (exact : world.Exact frame) (typed : (world.space module.space).Typed)
    (opened : world.Open session module globals) (resolves : world.Offers module globals .resolveFunction resolver)
    (binds : world.Offers module globals .setGlobals binder) (origin : HostValue) (className base : String)
    (methods : List String) :
    ∃ result after, (engine.next.defineClass session origin className base methods).run world = (result, after) ∧
      match result with
      | .ok _ => ∃ baseType, world.Admits module globals className base methods baseType ∧
          ∃ type, world.Defines after session module globals origin className baseType methods type ∧
            ∃ moduleName later, after = later.updateSession session.id (activate origin className) ∧
              World.Modifies module
                (.moduleObject { name := moduleName, globals := globals.insert className type.handle })
                (world, 0) (later, 0)
      | .error error => (∃ fault, error = .classDefinition fault) ∧
          (∀ baseType, ¬world.Admits module globals className base methods baseType) ∧
            World.Leads .temporary (world, 0) (after, 0) := by
  have closed := (exact.spaces module.space).closed typed
  have has : (world.space module.space).Has module.handle := by
    obtain ⟨moduleName, found⟩ := opened.object
    exact ⟨_, found⟩
  have framed : world.Exact (0 + frame) := by rwa [zero_add]
  obtain ⟨result, prepared, ranPrepare, leadsPrepare, decides⟩ :=
    run_prepareClass engine exact closed opened resolves className base methods
  unfold defineClass
  cases result with
  | error error =>
    refine ⟨.error error, prepared, run_bind_error ranPrepare _, decides.1, fun baseType admits => ?_, leadsPrepare⟩
    exact decides.2 _ (prepares_of_admits exact closed has admits)
  | ok found =>
    obtain ⟨module', baseType⟩ := found
    have prepares := decides
    obtain ⟨same, faultless, free, here, leading, contents, shown⟩ := decides
    obtain rfl : module = module' := same.symm
    have fresh := Free.get?_eq_none free
    replace leadsPrepare : World.Leads .temporary (world, 0) (prepared, {module} + {baseType}) := leadsPrepare
    obtain ⟨⟨error | _, after⟩, ran, publishes⟩ : ∃ outcome,
        (engine.next.defineClass session origin className base methods).run world = outcome ∧
          Publishes session module globals origin className baseType contents methods
            (prepared, {module} + {baseType}) outcome :=
      ⟨_, run_bind_ok ranPrepare _, run_makeClass engine (leadsPrepare.exact framed) (leadsPrepare.typed typed)
        (opened.of_leads leadsPrepare framed) (binds.of_leads opened leadsPrepare framed) fresh faultless here
        ((leadsPrepare.extends exact).get? shown) origin⟩
    · obtain ⟨underivable, fault, leads⟩ := publishes
      refine ⟨.error error, after, ran, fault, fun other admits => ?_, leadsPrepare.trans leads⟩
      -- There is only one type that the name leads to.
      have resolved := (Registry.resolve_eq_ok_type exact closed rfl has base shown).mpr ⟨leading, here⟩
      obtain rfl : baseType = other := Except.ok.inj (resolved.symm.trans admits.resolves)
      obtain ⟨contents', shown', derivable⟩ := admits.derivable
      obtain rfl : contents = contents' := by simpa [shown] using shown'
      exact underivable derivable
    · obtain ⟨derivable, type, later, rfl, unknown, ⟨moduleName, modifies⟩, published⟩ := publishes
      have exactPrepared : prepared.Exact ({module} + {baseType} + frame) := leadsPrepare.exact framed
      have leads := modifies.leads exactPrepared
      have exactLater : later.Exact (0 + frame) := leads.exact exactPrepared
      have activates : World.Leads .lasting (later, 0)
          (later.updateSession session.id (activate origin className), 0) :=
        World.leads_updateSession fun _ => ⟨rfl, rfl⟩
      have typedLater := leads.typed (leadsPrepare.typed typed)
      have active := published.activate origin className
      refine ⟨.ok (), _, ran, baseType, admits_of_prepares exact closed has prepares shown derivable, type,
        ⟨(leadsPrepare.extends exact).get?_eq_none unknown, active, fun spelling alike => ?_, ?_⟩, moduleName, later, rfl,
        modifies.of_leads leadsPrepare⟩
      · exact active.resolve_spelling (activates.exact exactLater) (activates.typed typedLater)
          (nameFault?_eq_none.mp faultless).1 free alike
      · obtain ⟨state, recorded, -⟩ := published.opened.recorded
        refine ⟨activate origin className state, ?_, rfl⟩
        rw [World.session?_updateSession, if_pos rfl, recorded]
        rfl

theorem run_defineClass (engine : Engine) (exact : world.Exact frame) (typed : (world.space module.space).Typed)
    (opened : world.Open session module globals) (resolves : world.Offers module globals .resolveFunction resolver)
    (binds : world.Offers module globals .setGlobals binder) (origin : HostValue) (className base : String)
    (methods : List String) :
    ∃ result after, (engine.next.defineClass session origin className base methods).run world = (result, after) ∧
      match result with
      | .ok _ => ∃ baseType, world.Admits module globals className base methods baseType ∧
          ∃ type, world.Defines after session module globals origin className baseType methods type
      | .error error => (∃ fault, error = .classDefinition fault) ∧
          (∀ baseType, ¬world.Admits module globals className base methods baseType) ∧
            World.Leads .temporary (world, 0) (after, 0) := by
  obtain ⟨result, after, ran, spec⟩ :=
    run_defineClass_modifies engine exact typed opened resolves binds origin className base methods
  refine ⟨result, after, ran, ?_⟩
  cases result with
  | ok value =>
    obtain ⟨baseType, admits, type, defines, -⟩ := spec
    exact ⟨baseType, admits, type, defines⟩
  | error error => exact spec

/-- A class is defined just if there is nothing against it, and then it is published and active. Otherwise the
definition is refused with an error of its own, and leaves the module, the sessions, all objects and all counts as
they were. -/
theorem defineClass_all_or_nothing (engine : Engine) (exact : world.Exact frame)
    (typed : (world.space module.space).Typed) (opened : world.Open session module globals)
    (resolves : world.Offers module globals .resolveFunction resolver)
    (binds : world.Offers module globals .setGlobals binder) (origin : HostValue) (className base : String)
    (methods : List String) :
    let ran := (engine.next.defineClass session origin className base methods).run world
    (ran.1 = .ok () ↔ ∃ baseType, world.Admits module globals className base methods baseType) ∧
      (∀ baseType, world.Admits module globals className base methods baseType →
        ∃ type, world.Defines ran.2 session module globals origin className baseType methods type) ∧
      ((∀ baseType, ¬world.Admits module globals className base methods baseType) →
        (∃ fault, ran.1 = .error (.classDefinition fault)) ∧ world.SameObjects ran.2 ∧
          ran.2.Open session module globals ∧ ran.2.sessions = world.sessions) := by
  intro ran
  obtain ⟨result, after, same, spec⟩ :=
    run_defineClass engine exact typed opened resolves binds origin className base methods
  have answered : ran.1 = result := congrArg Prod.fst same
  have left : ran.2 = after := congrArg Prod.snd same
  rw [answered, left]
  cases result with
  | ok value =>
    obtain ⟨baseType, admits, type, defines⟩ := spec
    refine ⟨⟨fun _ => ⟨baseType, admits⟩, fun _ => rfl⟩, fun other admits' => ?_, fun refused =>
      absurd admits (refused baseType)⟩
    obtain rfl : baseType = other := Except.ok.inj (admits.resolves.symm.trans admits'.resolves)
    exact ⟨type, defines⟩
  | error error =>
    obtain ⟨⟨fault, rfl⟩, refused, leads⟩ := spec
    refine ⟨⟨nofun, fun ⟨baseType, admits⟩ => absurd admits (refused baseType)⟩, fun baseType admits =>
      absurd admits (refused baseType), fun _ => ⟨⟨fault, rfl⟩, leads.restored exact, ?_, (leads.extends exact).sessions⟩⟩
    exact opened.of_leads leads (by rwa [zero_add])

end Definition

/-- A class is defined in a session that was just opened. -/
theorem defineClass_all_or_nothing_point :
    let world := Console.opened
    let state := Console.openedState
    let module := Console.openedModule
    let globals := (world.globals? module).get (by decide +kernel)
    let ran := (exhausted.next.defineClass state.session .nil "Point" "object" ["move"]).run world
    ∃ baseType type, world.Admits module globals "Point" "object" ["move"] baseType ∧
      world.Defines ran.2 state.session module globals .nil "Point" baseType ["move"] type := by
  intro world state module globals ran
  have carried : ran.1.isOk := by decide +kernel
  have exact : world.Exact 0 := Console.exact_after 1 _
  have typed : (world.space module.space).Typed := Console.typed_after 1 _ _
  have recorded : world.session? { index := 0 } = some state := (Option.some_get _).symm
  have same : state.session.id = { index := 0 } := by decide +kernel
  have held : state.module? = some module.handle := by decide +kernel
  have here : module.space = state.session.space := by decide +kernel
  have found : world.globals? module = some globals := (Option.some_get _).symm
  have resolves : (world.offered? module .resolveFunction).isSome := by decide +kernel
  have binds : (world.offered? module .setGlobals).isSome := by decide +kernel
  clear_value globals module state world
  obtain ⟨resolver, resolves⟩ := Option.isSome_iff_exists.mp resolves
  obtain ⟨binder, binds⟩ := Option.isSome_iff_exists.mp binds
  obtain ⟨accepted, defined, -⟩ := defineClass_all_or_nothing exhausted exact typed
    (World.open_of_globals? recorded same held here found) (World.offers_of_offered? found resolves)
    (World.offers_of_offered? found binds) .nil "Point" "object" ["move"]
  have answered : ran.1 = .ok () := by
    cases outcome : ran.1 with
    | ok value => rfl
    | error error => simp [outcome, Except.isOk, Except.toBool] at carried
  obtain ⟨baseType, admits⟩ := accepted.mp answered
  obtain ⟨type, defines⟩ := defined baseType admits
  exact ⟨baseType, type, admits, defines⟩

end Engine

end ObjectBridge

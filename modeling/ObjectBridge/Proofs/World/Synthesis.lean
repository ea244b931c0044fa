import Mathlib.Tactic.Abel
import ObjectBridge.Proofs.Names
import ObjectBridge.Proofs.World.Definitions
import ObjectBridge.Proofs.World.Resolution

/-!
Synthesis of classes. Each part of a definition is told by what it answers: the base if the name of one
resolves to a type, a function bound to its name for each method, and the type made of them. Nothing that
is there is changed before the type is published.
-/

namespace ObjectBridge

open Guest (Extent Handle)

namespace World

def LeadsAlong (world : World) (function : Ref) (name : String) (route : Route) : Prop :=
  ∃ bound, world.get? function = some (.function { name, bound := some bound, body := .callback route }) ∧
    world.get? { function with handle := bound } = some (.str name)

theorem LeadsAlong.of_extends {world after : World} {function : Ref} {name : String} {route : Route}
    (leadsAlong : world.LeadsAlong function name route) (grown : world.Extends after) :
    after.LeadsAlong function name route := by
  obtain ⟨bound, made, named⟩ := leadsAlong
  exact ⟨bound, grown.get? made, grown.get? named⟩

theorem LeadsAlong.of_leads {world after : World} {owned owned' frame : Multiset Ref} {function : Ref}
    {name : String} {route : Route} (leadsAlong : world.LeadsAlong function name route)
    (leads : Leads .temporary (world, owned) (after, owned')) (exact : world.Exact (owned + frame))
    (anchored : world.Anchored frame function) : after.LeadsAlong function name route := by
  obtain ⟨bound, made, named⟩ := leadsAlong
  have held : world.Anchored frame { function with handle := bound } :=
    anchored.child made (by simp [Guest.Object.children])
  exact ⟨bound, leads.unchanged exact anchored made, leads.unchanged exact held named⟩

/-- The type has the one base, and in its namespace its own name and the methods, which lead along the route. -/
def Synthesized (world : World) (type : Ref) (className : String) (base : Handle) (methods : List String)
    (route : Route) : Prop :=
  ∃ members : Bindings Handle,
    world.get? type = some (.typeObject { name := className, bases := [base], members, builtin := false }) ∧
    (∀ name, name ∈ members.names ↔ name = "__name__" ∨ name ∈ methods) ∧
    (∃ label, members.get? "__name__" = some label ∧ world.get? { type with handle := label } = some (.str className)) ∧
    ∀ name ∈ methods, ∃ function, members.get? name = some function ∧
      world.LeadsAlong { type with handle := function } name route

end World

namespace Engine

open Act Bridge

section Callbacks

variable {world : World} {frame : Multiset Ref} {session : Session}

def callback (session : Session) (route : Route) (name : String) : BridgeAct Ref :=
  asBridge do
    let bound ← ownedBy session.space (Guest.Space.newText name)
    lending [bound] do
      ownedBy session.space (Guest.Space.newFunction name (some bound.handle) (.callback route))

theorem run_callback (exact : world.Exact frame) (started : (world.space session.space).roots.isSome)
    (route : Route) (name : String) :
    ∃ function after, (callback session route name).run world = (.ok function, after) ∧
      function.space = session.space ∧ World.Leads .temporary (world, 0) (after, {function}) ∧
        after.LeadsAlong function name route := by
  obtain ⟨bound, named, ranText, space, leadsText, -, shown⟩ := run_newText exact started name
  have exactText : named.Exact ({bound} + frame) := leadsText.exact (by rwa [zero_add])
  have startedText : (named.space session.space).roots.isSome := space ▸ exactText.started_of_get? shown
  have live : (named.space session.space).object bound.handle = .ok (.str name) := space ▸ exactText.object_eq_ok shown
  have allocates := Guest.Space.run_newFunction live name (Code.callback route)
  obtain ⟨function, made, ranFunction, here, -, shownFunction⟩ :=
    run_ownedBy_allocate exactText startedText allocates
  have balanced : Act.Balanced .temporary [] 0
      (ownedBy session.space (Guest.Space.newFunction name (some bound.handle) (.callback route))) ({·}) :=
    .ownedBy (Guest.Space.balanced_newFunction .temporary _ _ _)
  have leadsFunction : World.Leads .temporary (named, 0) (made, {function}) :=
    balanced.leads_ok (by rwa [zero_add]) ranFunction
  have leads : World.Leads .temporary (world, 0) (made, (([bound] : List Ref) : Multiset Ref) + {function}) := by
    rw [add_comm]
    exact leadsText.follow exact leadsFunction
  have exactMade : made.Exact ((([bound] : List Ref) : Multiset Ref) + {function} + frame) :=
    leads.exact (by rwa [zero_add])
  -- The string is held while the function is made, and by the function from then on.
  have routed : made.LeadsAlong function name route := by
    refine ⟨bound.handle, shownFunction, ?_⟩
    have same : ({ function with handle := bound.handle } : Ref) = bound := by rw [here, ← space]
    rw [same]
    have framedText : named.Exact (0 + ({bound} + frame)) := by rwa [zero_add]
    exact leadsFunction.unchanged framedText (World.anchored_of_mem (by simp)) shown
  have exactGiven : made.Exact ((([bound] : List Ref) : Multiset Ref) + 0 + ({function} + frame)) := by
    rwa [add_zero, ← add_assoc]
  have given := World.leads_releaseAll .temporary exactGiven
  refine ⟨function, made.releaseAll [bound], ?_, here, leads.giveBack [bound] exact, ?_⟩
  · refine run_adapt_ok Error.guest ?_
    rw [run_bind_ok ranText, run_lending, ranFunction]
  · exact routed.of_leads given exactGiven (World.anchored_of_mem (by simp))

theorem run_collect_callback (exact : world.Exact frame) (started : (world.space session.space).roots.isSome)
    (route : Route) (done : Array Ref) (methods : List String) :
    ∃ functions after, (collect (callback session route) done methods).run world =
        (.ok (done.toList ++ functions), after) ∧
      World.Leads .temporary (world, 0) (after, functions) ∧
        List.Forall₂ (fun name function => function.space = session.space ∧ after.LeadsAlong function name route)
          methods functions := by
  induction methods generalizing world frame done with
  | nil => exact ⟨[], world, by simp [collect, run_pure], .refl world 0, .nil⟩
  | cons name rest ih =>
    obtain ⟨function, between, ran, here, leads, routed⟩ := run_callback exact started route name
    have exactThen : between.Exact ({function} + frame) := leads.exact (by rwa [zero_add])
    have startedThen : (between.space session.space).roots.isSome := by
      obtain ⟨bound, made, -⟩ := routed
      exact here ▸ exactThen.started_of_get? made
    obtain ⟨functions, after, ranRest, leadsRest, routedRest⟩ := ih exactThen startedThen (done.push function)
    refine ⟨function :: functions, after, ?_, ?_, .cons ⟨here, ?_⟩ routedRest⟩
    · rw [collect, run_bind_ok (run_onFailure_ok _ ran), ranRest, Array.toList_push, List.append_assoc,
        List.singleton_append]
    · rw [← Multiset.cons_coe, ← Multiset.singleton_add, add_comm]
      exact leads.follow exact leadsRest
    · have framedThen : between.Exact (0 + ({function} + frame)) := by rwa [zero_add]
      exact routed.of_leads leadsRest framedThen (World.anchored_of_mem (by simp))

theorem run_callbacks (exact : world.Exact frame) (started : (world.space session.space).roots.isSome)
    (route : Route) (methods : List String) :
    ∃ functions after, (callbacks session route methods).run world = (.ok functions, after) ∧
      World.Leads .temporary (world, 0) (after, functions) ∧
        List.Forall₂ (fun name function => function.space = session.space ∧ after.LeadsAlong function name route)
          methods functions :=
  run_collect_callback exact started route #[] methods

end Callbacks

section Base

variable {base now : World} {owned frame : Multiset Ref} {session : Session} {module function : Ref}
  {globals : Bindings Handle}

/-- A part of a definition answers what is good, or else refuses the definition because nothing is. -/
def Decides {α : Type} (good : α → Prop) : Except Error α → Prop
  | .ok value => good value
  | .error error => (∃ fault, error = .classDefinition fault) ∧ ∀ value, ¬good value

def LeadsToType (base : World) (module : Ref) (name : String) (type : Ref) : Prop :=
  type.space = module.space ∧
    Registry.resolved (base.space module.space) module.handle name = .ok (.object type.handle) ∧
      ∃ contents, base.get? type = some (.typeObject contents)

theorem run_serve_resolveFunction (engine : Engine) (exact : base.Exact frame)
    (closed : (base.space module.space).Closed) (has : (base.space module.space).Has module.handle)
    (leads : World.Leads .temporary (base, 0) (now, owned)) {name : Ref} {text : String}
    (named : now.get? name = some (.str text)) :
    ∃ result after, (Registry.serve engine .resolveFunction
        { space := module.space, bound? := some module, arguments := [name], keywords := [] }).run now =
          (result, after) ∧
      World.Leads .temporary (now, 0) (after, left ({·}) result) ∧
        Registry.Finds (base.space module.space) module.space (result, after)
          (Registry.resolved (base.space module.space) module.handle text) := by
  let invocation : Invocation := { space := module.space, bound? := some module, arguments := [name], keywords := [] }
  obtain ⟨trace, traced⟩ := run_serviceTrace now invocation s!"resolve_function({text})"
  have leadsTrace : World.Leads .temporary (now, 0) ({ now with trace }, 0) := World.leads_trace now 0 trace
  have ran : (Registry.serve engine .resolveFunction invocation).run now =
      (Registry.resolve module.space module text).run { now with trace } := by
    unfold Registry.serve
    rw [run_bind_ok (run_textArgument invocation rfl named), run_bind_ok traced]
    rfl
  have exactNow : now.Exact (0 + (owned + frame)) := by
    rw [zero_add]
    exact leads.exact (by rwa [zero_add])
  have balanced : Act.Balanced .temporary [] 0 (Registry.resolve module.space module text) ({·}) :=
    Registry.balanced_resolve _ _ _
  have settles := balanced.settles (leadsTrace.exact exactNow)
  have finds := Registry.finds_resolve exact closed (leads.follow exact leadsTrace) rfl has text
  exact ⟨_, _, ran, leadsTrace.trans settles, finds⟩

theorem kind_of_shows (grown : base.Extends now) {name : String} {ref : Ref} {found : Registry.Found}
    (leading : Registry.resolved (base.space module.space) module.handle name = .ok found)
    (shows : Registry.Shows (base.space module.space) now module.space ref found) :
    if (now.get? ref).map (·.kind) = some .typeObject then LeadsToType base module name ref
    else ∀ type, ¬LeadsToType base module name type := by
  cases found with
  | method found function =>
    obtain ⟨-, -, receiver, shown, -⟩ := shows
    rw [shown, if_neg (by simp [Guest.Object.kind])]
    rintro type ⟨-, led, -⟩
    rw [leading] at led
    cases led
  | object handle =>
    obtain ⟨rfl, object, there⟩ := shows
    have found : base.get? { space := module.space, handle } = some object := there
    rw [grown.get? found]
    split
    · rename_i kind
      obtain ⟨contents, rfl⟩ : ∃ contents, object = .typeObject contents := by
        cases object <;> simp [Guest.Object.kind] at kind
        exact ⟨_, rfl⟩
      exact ⟨rfl, leading, contents, found⟩
    · rename_i kind
      rintro type ⟨space, led, contents, shown⟩
      obtain ⟨home, other⟩ := type
      obtain rfl : home = module.space := space
      rw [leading] at led
      obtain rfl : handle = other := by simpa using led
      rw [found] at shown
      obtain rfl : object = .typeObject contents := Option.some.inj shown
      exact kind rfl

theorem run_resolveName (engine : Engine) (exact : base.Exact frame) (closed : (base.space module.space).Closed)
    (opened : base.Open session module globals) (offers : base.Offers module globals .resolveFunction function)
    (leads : World.Leads .temporary (base, 0) (now, owned)) (name : String) :
    ∃ spelled named result after, (ownedBy session.space (Guest.Space.newText name)).run now = (.ok spelled, named) ∧
      (lending [spelled] (engine.next.registryCall session "resolve_function" [spelled])).run named =
        (result.mapError .guest, after) ∧
      World.Leads .temporary (now, 0) (after, left ({·}) result) ∧
        Registry.Finds (base.space module.space) module.space (result, after)
          (Registry.resolved (base.space module.space) module.handle name) := by
  have framed : base.Exact (0 + frame) := by rwa [zero_add]
  have has : (base.space module.space).Has module.handle := by
    obtain ⟨moduleName, found⟩ := opened.object
    exact ⟨_, found⟩
  have here : module.space = session.space := opened.space
  have exactNow : now.Exact (owned + frame) := leads.exact framed
  have framedNow : now.Exact (0 + (owned + frame)) := by rwa [zero_add]
  have openedNow := opened.of_leads leads framed
  have startedNow : (now.space session.space).roots.isSome := by
    obtain ⟨moduleName, found⟩ := openedNow.object
    exact here ▸ exactNow.started_of_get? found
  obtain ⟨spelled, named, ranText, -, leadsText, -, shown⟩ := run_newText exactNow startedNow name
  have exactNamed : named.Exact ({spelled} + (owned + frame)) := leadsText.exact framedNow
  have openedNamed := openedNow.of_leads leadsText framedNow
  have offersNamed := (offers.of_leads opened leads framed).of_leads openedNow leadsText framedNow
  have liveNamed : ∀ ref ∈ [spelled], named.Live ref := by
    simpa using World.live_of_get? shown
  have leadsHeld := leads_heldBy .temporary openedNamed offersNamed exactNamed liveNamed
  have shownHeld : (named.retainAll (heldBy module function [spelled])).get? spelled = some (.str name) := by
    rwa [World.get?_retainAll]
  obtain ⟨result, served, ranServe, leadsServe, finds⟩ := run_serve_resolveFunction engine exact closed has
    ((leads.follow exact leadsText).follow exact leadsHeld) shownHeld
  rw [here] at ranServe
  have called := run_registryCall engine openedNamed offersNamed exactNamed [spelled] ranServe
  have leadsCall := leads_registryCall openedNamed offersNamed exactNamed liveNamed leadsServe
  refine ⟨spelled, named, result,
    (served.releaseAll (givenBack module function [spelled])).releaseAll [spelled], ranText, ?_, ?_, ?_⟩
  · rw [run_lending]
    exact congrArg (fun ran => (ran.1, ran.2.releaseAll [spelled])) called
  · refine World.Leads.giveBack [spelled] ?_ exactNow
    rw [add_comm]
    exact leadsText.follow exactNow leadsCall
  · -- What is given back is not what was found.
    rw [World.releaseAll_append]
    have exactServed : served.Exact (((givenBack module function [spelled] ++ [spelled] : List Ref) : Multiset Ref) +
        0 + (left ({·}) result + (owned + frame))) := by
      have held : served.Exact (left ({·}) result + (heldBy module function [spelled] + ({spelled} + (owned + frame)))) :=
        leadsServe.exact (by simpa only [zero_add] using leadsHeld.exact (by rwa [zero_add]))
      rw [← Multiset.coe_add, coe_givenBack, Multiset.coe_singleton, add_zero]
      convert held using 1
      abel
    refine finds.of_leads (World.leads_releaseAll .temporary exactServed) exactServed fun ref answered => ?_
    simp [answered]

theorem run_resolveBase (engine : Engine) (exact : base.Exact frame) (closed : (base.space module.space).Closed)
    (opened : base.Open session module globals) (offers : base.Offers module globals .resolveFunction function)
    (leads : World.Leads .temporary (base, 0) (now, owned)) (name : String) :
    ∃ result after, (engine.next.resolveBase session name).run now = (result, after) ∧
      World.Leads .temporary (now, 0) (after, left ({·}) result) ∧ Decides (LeadsToType base module name) result := by
  obtain ⟨spelled, named, result, after, ranText, ranCall, leadsCall, finds⟩ :=
    run_resolveName engine exact closed opened offers leads name
  have exactNow : now.Exact (owned + frame) := leads.exact (by rwa [zero_add])
  have grown := (leads.follow exact leadsCall).extends exact
  have ranSpelled : (asBridge (ownedBy session.space (Guest.Space.newText name))).run now = (.ok spelled, named) :=
    run_adapt_ok Error.guest ranText
  unfold resolveBase
  rw [run_bind_ok ranSpelled]
  rcases leading : Registry.resolved (base.space module.space) module.handle name with exception | found
  all_goals rw [leading] at finds
  · obtain rfl : result = .error exception := finds
    refine ⟨.error (.classDefinition (.unresolvedBase name exception.message)), after, ?_, leadsCall,
      ⟨_, rfl⟩, ?_⟩
    · rw [run_bind_error (run_adapt_error _ ranCall)]
    · rintro type ⟨-, led, -⟩
      rw [leading] at led
      cases led
  · obtain ⟨ref, rfl, shows⟩ := finds
    have decides := kind_of_shows grown leading shows
    rw [run_bind_ok (run_adapt_ok _ ranCall), run_bind_ok (run_kindOf ref)]
    split at decides
    · rename_i kind
      rw [if_pos kind]
      exact ⟨.ok ref, after, rfl, leadsCall, decides⟩
    · rename_i kind
      rw [if_neg kind]
      refine ⟨.error (.classDefinition (.baseNotType name)), after.release ref, rfl, ?_, ⟨_, rfl⟩, decides⟩
      exact World.Leads.giveBack [ref] (by simpa using leadsCall) exactNow

end Base

section Prepare

variable {world now : World} {frame : Multiset Ref} {session : Session} {module function : Ref}
  {globals : Bindings Handle}

def Free (globals : Bindings Handle) (className : String) : Prop :=
  ∀ name value, globals.get? name = some value → Text.lowercase name ≠ Text.lowercase className

theorem Free.get?_eq_none {className : String} (free : Free globals className) : globals.get? className = none := by
  by_contra taken
  obtain ⟨value, bound⟩ := Option.ne_none_iff_exists'.mp taken
  exact free className value bound rfl

theorem find?_eq_none_iff_free {className : String} :
    (globals.names.find? fun name => Text.lowercase name == Text.lowercase className) = none ↔
      Free globals className := by
  simp only [List.find?_eq_none, beq_iff_eq, Bindings.mem_names, forall_exists_index, Free]

def Prepares (world : World) (module : Ref) (globals : Bindings Handle) (className base : String)
    (methods : List String) (found : Ref × Ref) : Prop :=
  found.1 = module ∧ nameFault? className methods = none ∧ Free globals className ∧
    LeadsToType world module base found.2

theorem run_prepareClass (engine : Engine) (exact : world.Exact frame) (closed : (world.space module.space).Closed)
    (opened : world.Open session module globals) (offers : world.Offers module globals .resolveFunction function)
    (className base : String) (methods : List String) :
    ∃ result after, (engine.next.prepareClass session className base methods).run world = (result, after) ∧
      World.Leads .temporary (world, 0) (after, left (fun found => {found.1} + {found.2}) result) ∧
        Decides (Prepares world module globals className base methods) result := by
  have framed : world.Exact (0 + frame) := by rwa [zero_add]
  have here : module.space = session.space := opened.space
  obtain ⟨traced, ranTrace, leadsTrace⟩ := leads_traceLine (ε := Error) .temporary session.config 0
    s!"define_class {className}({base}) {Text.bracketed (methods.map Text.quoted)}" world 0
  have openedTrace := opened.of_leads leadsTrace framed
  unfold prepareClass
  rw [run_bind_ok ranTrace]
  rcases faultless : nameFault? className methods with _ | fault
  · -- The module is held while the base is looked for.
    have exactTrace := leadsTrace.exact framed
    have leadsHeld : World.Leads .temporary (world, 0) (traced.retain module, {module}) :=
      leadsTrace.trans (World.leads_retain .temporary exactTrace (openedTrace.live exactTrace))
    have openedHeld := opened.of_leads leadsHeld framed
    have exactHeld := leadsHeld.exact framed
    obtain ⟨moduleName, found⟩ := openedHeld.object
    have listed : (asBridge (onView session.space (·.dir module.handle))).run
        (traced.retain module) = (.ok globals.names, traced.retain module) := by
      refine run_adapt_ok Error.guest ?_
      rw [run_onView, ← here]
      rw [Guest.Space.dir_module (exactHeld.object_eq_ok found)]
    dsimp only
    rw [run_bind_ok (run_moduleOf openedTrace)]
    rcases clash : globals.names.find? fun name => Text.lowercase name == Text.lowercase className with _ | existing
    · obtain ⟨result, after, ran, leads, decides⟩ :=
        run_resolveBase engine exact closed opened offers leadsHeld base
      have leadsAfter := leadsHeld.follow exact leads
      rw [run_bind, run_onFailure, run_bind_ok listed]
      simp only [clash, ran]
      cases result with
      | ok type =>
        refine ⟨.ok (module, type), after, rfl, ?_, rfl, faultless, find?_eq_none_iff_free.mp clash, decides⟩
        rw [left_ok, add_comm] at leadsAfter
        exact leadsAfter
      | error error =>
        refine ⟨.error error, after.release module, rfl, ?_, decides.1, fun found good => decides.2 _ good.2.2.2⟩
        exact World.Leads.giveBack [module] (by simpa using leadsAfter) exact
    · have refused : ¬Free globals className := by
        rw [← find?_eq_none_iff_free, clash]
        simp
      rw [run_bind, run_onFailure, run_bind_ok listed]
      simp only [clash]
      refine ⟨_, _, rfl, ?_, ⟨_, rfl⟩, fun found good => refused good.2.2.1⟩
      exact World.Leads.giveBack [module] (by simpa using leadsHeld) exact
  · refine ⟨_, _, rfl, leadsTrace, ⟨_, rfl⟩, ?_⟩
    rintro found ⟨-, none, -⟩
    rw [faultless] at none
    cases none

end Prepare

section Make

variable {now : World} {frame : Multiset Ref} {session : Session} {className : String} {methods : List String}

theorem run_newClass (exact : now.Exact frame) {baseType : Ref} {contents : Guest.TypeObject}
    (here : baseType.space = session.space) (found : now.get? baseType = some (.typeObject contents))
    (faultless : nameFault? className methods = none) {handles : List Handle} {route : Route}
    (made : List.Forall₂ (fun name handle => now.LeadsAlong { space := session.space, handle } name route)
      methods handles) :
    ∃ result after, (ownedBy session.space (Guest.Space.newType className [baseType.handle]
        (methods.zip handles))).run now = (result, after) ∧
      World.Leads .temporary (now, 0) (after, left ({·}) result) ∧
        match result with
        | .ok type => (contents.builtin = true → contents.name = "object") ∧ type.space = session.space ∧
            now.get? type = none ∧ after.Synthesized type className baseType.handle methods route
        | .error _ => ¬(contents.builtin = true → contents.name = "object") := by
  obtain ⟨identifier, admissible, once⟩ := nameFault?_eq_none.mp faultless
  have balanced : Act.Balanced .temporary [] 0
      (ownedBy session.space (Guest.Space.newType className [baseType.handle] (methods.zip handles))) ({·}) :=
    .ownedBy (Guest.Space.balanced_newType .temporary _ _ _)
  have framed : now.Exact (0 + frame) := by rwa [zero_add]
  have based : (now.space session.space).object baseType.handle = .ok (.typeObject contents) :=
    here ▸ exact.object_eq_ok found
  have ranWhole : (ownedBy session.space (Guest.Space.newType className [baseType.handle]
    (methods.zip handles))).run now = _ := run_ownedBy _ now
  by_cases derivable : contents.builtin = true → contents.name = "object"
  · have started := (Guest.Space.object_eq_ok.mp based).1
    have names : (methods.zip handles).map (·.1) = methods := List.map_fst_zip made.length_eq.le
    have unfaulted : Guest.memberFault? [] ((methods.zip handles).map (·.1)) = none := by
      rw [names]
      exact Guest.memberFault?_eq_none.mpr ⟨fun name listed =>
        ⟨(admissible name listed).1, (admissible name listed).2, List.not_mem_nil⟩, once⟩
    have live : ∀ member ∈ methods.zip handles, ∃ object, (now.space session.space).object member.2 = .ok object := by
      rintro ⟨name, handle⟩ listed
      obtain ⟨bound, shown, -⟩ := (List.forall₂_iff_zip.mp made).2 listed
      exact ⟨_, exact.object_eq_ok shown⟩
    obtain ⟨type, label, after, ran, fresh, labelled, shown⟩ := Guest.Space.run_newType
      ((exact.spaces session.space).started started).sound based derivable identifier unfaulted live
    have known := World.known_of_started started
    rw [ran] at ranWhole
    have leads := balanced.leads_ok framed ranWhole
    have grown := leads.extends exact
    have unlisted : "__name__" ∉ methods := fun listed => (admissible _ listed).2 (by simp [Guest.reservedNames])
    refine ⟨_, _, ranWhole, leads, derivable, rfl, fresh, _, by rw [World.get?_setSpace known]; exact shown, fun name => ?_,
      ⟨label, by rw [Bindings.get?_insert, if_pos rfl], by rw [World.get?_setSpace known]; exact labelled⟩,
      fun name listed => ?_⟩
    · rw [Bindings.mem_names, Bindings.get?_insert]
      by_cases same : name = "__name__"
      · simp [same]
      by_cases listed : name ∈ methods
      · obtain ⟨value, bound, -⟩ := Bindings.get?_ofList_zip once made listed
        simp [same, listed, bound]
      · have absent : (Bindings.ofList (methods.zip handles)).get? name = none :=
          Bindings.get?_ofList_of_notMem (by rwa [names])
        simp [same, listed, absent]
    · obtain ⟨handle, bound, routed⟩ := Bindings.get?_ofList_zip once made listed
      have apart : name ≠ "__name__" := fun same => unlisted (same ▸ listed)
      exact ⟨handle, by rw [Bindings.get?_insert, if_neg apart, bound], routed.of_extends grown⟩
  · rcases ran : (Guest.Space.newType className [baseType.handle] (methods.zip handles)).run
        (now.space session.space) with exception | ⟨type, after⟩
    · rw [ran] at ranWhole
      exact ⟨_, _, ranWhole, balanced.leads_error framed ranWhole, derivable⟩
    · obtain ⟨-, -, parents, -, -, same, admitted, -⟩ := Guest.Space.newType_eq_ok.mp ran
      obtain rfl : [baseType.handle] = parents := Option.some.inj same
      obtain ⟨contents', shown, allowed⟩ := Guest.Space.checkBase_eq_ok.mp (admitted baseType.handle (by simp))
      rw [based] at shown
      cases shown
      exact absurd allowed derivable

end Make

end Engine

end ObjectBridge

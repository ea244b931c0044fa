import Mathlib.Tactic.Abel
import ObjectBridge.Proofs.World.Callbacks

/-!
Routing. The functions that a definition makes for the methods of its class lead along a route to the origin of
the definition. However long after that one of them is called, and whatever has been defined in between, the
call is one message to that origin.
-/

namespace ObjectBridge

open Guest (Extent Handle)

namespace Engine

open Act Bridge

/-- At all later times, as long as the function is there and the session can be used, to call the function is to send
one message along the route, and to be answered when it ends. -/
def SendsEver (start : World × Multiset Ref) (session : Session) (route : Route) (method : String) (function : Ref) :
    Prop :=
  ∀ now held, World.Later function.space function.handle.index 0 start (now, held) → now.Ready held session →
    ∀ inner call arguments, Reaches now held session function call arguments →
      ∃ proxies stored giveBack, Sends inner now session route method call arguments proxies stored giveBack ∧
        ∀ send : Host.HostId → HostValue → String → List HostValue → HostAct HostValue,
          Act.Balanced .lasting [] 0 (send session.host route.origin method proxies) (fun _ => 0) →
            Answers session.space route method ((send session.host route.origin method proxies).run stored)
              ((call { call := inner.next.call, send }).run now).1

theorem sendsEver_of_leadsAlong {start : World × Multiset Ref} {session : Session} {route : Route} {method : String}
    {function : Ref} (exact : start.1.Exact start.2) (own : route.session = session.id)
    (home : function.space = session.space) (routed : start.1.LeadsAlong function method route) :
    SendsEver start session route method function := by
  intro now held later ready inner call arguments reaches
  have started : (now.space function.space).roots.isSome := by
    obtain ⟨module, service, registry, globals, stores⟩ := ready.stores
    exact home ▸ stores.started ready.exact
  have routedNow := later.leadsAlong exact started routed
  have comesDown := comesDown_of_reaches ready.exact home routedNow reaches
  obtain ⟨proxies, stored, giveBack, sends⟩ := comesDown.sendsOnce inner ready own
  exact ⟨proxies, stored, giveBack, sends, fun send balanced => sends.answers balanced⟩

section Parts

variable {world after : World} {frame : Multiset Ref} {session : Session}

theorem callbacks_of_run (exact : world.Exact frame) (started : (world.space session.space).roots.isSome)
    {route : Route} {methods : List String} {functions : List Ref}
    (ran : (callbacks session route methods).run world = (.ok functions, after)) :
    List.Forall₂ (fun method function => function.space = session.space ∧ after.LeadsAlong function method route)
      methods functions := by
  obtain ⟨functions', after', ran', -, made⟩ := run_callbacks exact started route methods
  obtain ⟨⟨⟩, rfl⟩ : Except.ok functions = Except.ok functions' ∧ after = after' := Prod.mk.inj (ran.symm.trans ran')
  exact made

theorem members_of_run (exact : world.Exact frame) {id : SpaceId} {className : String} {bases : List Handle}
    {methods : List String} {functions : List Ref} {type : Ref} (each : methods.length = functions.length)
    (ran : (ownedBy id (Guest.Space.newType className bases (methods.zip (functions.map (·.handle))))).run world =
      (.ok type, after)) :
    type.space = id ∧ ∃ contents, after.get? type = some (.typeObject contents) ∧
      List.Forall₂ (fun method function => contents.members.get? method = some function.handle) methods functions := by
  obtain ⟨space, made, rfl, rfl⟩ := run_ownedBy_eq_ok.mp ran
  have started := Guest.Space.started_of_newType made
  obtain ⟨contents, found, members⟩ :=
    Guest.Space.members_of_newType ((exact.spaces type.space).started started).sound made
  refine ⟨rfl, contents, (World.get?_setSpace (World.known_of_started started) _ _).trans found,
    List.forall₂_iff_zip.mpr ⟨each, fun {method function} listed => members (method, function.handle) ?_⟩⟩
  rw [List.zip_map_right]
  exact List.mem_map.mpr ⟨_, listed, rfl⟩

end Parts

structure ClassParts where
  module : Ref
  base : Ref
  functions : List Ref
  type : Ref

section Definition

variable {engine : Engine} {before defined : World} {frame : Multiset Ref} {session : Session} {origin : HostValue}
  {className base : String} {methods : List String}

/-- A definition prepares the class, makes a function for each method, and makes the type of these. -/
def Makes (engine : Engine) (session : Session) (origin : HostValue) (className base : String) (methods : List String)
    (before : World) (parts : ClassParts) (created made : World) : Prop :=
  ∃ prepared, (engine.prepareClass session className base methods).run before =
      (.ok (parts.module, parts.base), prepared) ∧
    (callbacks session { session := session.id, origin, className } methods).run prepared =
      (.ok parts.functions, created) ∧
    (ownedBy session.space (Guest.Space.newType className [parts.base.handle]
      (methods.zip (parts.functions.map (·.handle))))).run created = (.ok parts.type, made)

def ClassParts.lent (parts : ClassParts) : List Ref :=
  parts.functions ++ [parts.module]

def ClassParts.held (parts : ClassParts) : Multiset Ref :=
  {parts.base} + parts.lent

theorem exists_makes (ran : (engine.defineClass session origin className base methods).run before = (.ok (), defined)) :
    ∃ parts created made ended, Makes engine session origin className base methods before parts created made ∧
      (engine.publishClass session origin className parts.base methods parts.functions).run created = (.ok (), ended) ∧
        defined = ended.releaseAll parts.lent := by
  obtain ⟨⟨module, baseType⟩, prepared, ranPrepare, ranRest⟩ := run_bind_eq_ok.mp ran
  obtain ⟨published, ranClass, rfl⟩ := run_lending_eq_ok.mp ranRest
  obtain ⟨functions, created, ranCallbacks, ranClass⟩ := run_bind_eq_ok.mp ranClass
  obtain ⟨ended, ranPublish, rfl⟩ := run_lending_eq_ok.mp ranClass
  -- The type is made first of all when the class is published.
  obtain ⟨type, _, ranLent, -⟩ := run_bind_eq_ok.mp ranPublish
  obtain ⟨made, ranType, -⟩ := run_lending_eq_ok.mp ranLent
  exact ⟨{ module, base := baseType, functions, type }, created, made, ended,
    ⟨prepared, ranPrepare, run_onFailure_eq_ok.mp ranCallbacks, run_adapt_eq_ok.mp ranType⟩, ranPublish,
    World.releaseAll_append _ _ _⟩

theorem leads_of_prepareClass (balanced : engine.Balanced) (exact : before.Exact frame) {prepared : World}
    {found : Ref × Ref}
    (ran : (engine.prepareClass session className base methods).run before = (.ok found, prepared)) :
    World.Leads .lasting (before, 0) (prepared, {found.1} + {found.2}) := by
  have prepares : Act.Balanced .lasting [] 0 (engine.prepareClass session className base methods)
      fun found => {found.1} + {found.2} := balanced_prepareClass balanced session className base methods
  exact prepares.leads_ok (by rwa [zero_add]) ran

section Made

variable {parts : ClassParts} {created made : World} (balanced : engine.Balanced) (exact : before.Exact frame)
  (makes : Makes engine session origin className base methods before parts created made)
include balanced exact makes

theorem Makes.leads : World.Leads .lasting (before, 0) (created, parts.held) := by
  obtain ⟨prepared, ranPrepare, ranCallbacks, -⟩ := makes
  have leadsPrepare := leads_of_prepareClass balanced exact ranPrepare
  have exactPrepared : prepared.Exact (0 + ({parts.module} + {parts.base} + frame)) := by
    rw [zero_add]
    exact leadsPrepare.exact (by rwa [zero_add])
  have calls : Act.Balanced .lasting [] 0 (callbacks session { session := session.id, origin, className } methods) _ :=
    balanced_callbacks session _ methods
  convert leadsPrepare.follow exact (calls.leads_ok exactPrepared ranCallbacks) using 2
  simp only [ClassParts.held, ClassParts.lent, ← Multiset.coe_add, Multiset.coe_singleton]
  abel

theorem Makes.leads_defined {ended : World}
    (ran : (engine.publishClass session origin className parts.base methods parts.functions).run created =
      (.ok (), ended)) : World.Leads .lasting (created, parts.held) (ended.releaseAll parts.lent, 0) := by
  have exactCreated : created.Exact ({parts.base} + (parts.lent + frame)) := by
    rw [← add_assoc]
    exact (makes.leads balanced exact).exact (by rwa [zero_add])
  have publishes : Act.Balanced .lasting [] {parts.base}
      (engine.publishClass session origin className parts.base methods parts.functions) _ :=
    balanced_publishClass balanced session origin className parts.base methods parts.functions
  have leads := publishes.leads_ok exactCreated ran
  have leadsEnded : World.Leads .lasting (created, parts.held) (ended, parts.lent + 0) := by
    rw [add_comm]
    exact leads.beside exactCreated
  exact leadsEnded.trans (World.leads_releaseAll .lasting (leadsEnded.exact (add_assoc _ _ frame ▸ exactCreated)))

theorem Makes.members : parts.type.space = session.space ∧
    ∃ contents, made.get? parts.type = some (.typeObject contents) ∧
      List.Forall₂ (fun method function => contents.members.get? method = some function.handle ∧
        function.space = session.space ∧ created.LeadsAlong function method { session := session.id, origin, className })
        methods parts.functions := by
  have exactCreated := (makes.leads balanced exact).exact (by rwa [zero_add])
  obtain ⟨prepared, ranPrepare, ranCallbacks, ranType⟩ := makes
  have exactPrepared := (leads_of_prepareClass balanced exact ranPrepare).exact (by rwa [zero_add])
  have started : (prepared.space session.space).roots.isSome := by
    have calls : Act.Balanced .temporary [] 0 (callbacks session { session := session.id, origin, className } methods) _ :=
      balanced_callbacks session _ methods
    obtain ⟨_, made, -⟩ := run_ownedBy_eq_ok.mp ranType
    rw [← (calls.leads_ok (by rwa [zero_add]) ranCallbacks).roots_eq]
    exact Guest.Space.started_of_newType made
  have each := callbacks_of_run exactPrepared started ranCallbacks
  obtain ⟨here, contents, found, members⟩ := members_of_run exactCreated each.length_eq ranType
  exact ⟨here, contents, found, List.forall₂_iff_zip.mpr ⟨each.length_eq, fun listed =>
    ⟨(List.forall₂_iff_zip.mp members).2 listed, (List.forall₂_iff_zip.mp each).2 listed⟩⟩⟩

theorem Makes.later {function : Ref} (listed : function ∈ parts.functions) (home : function.space = session.space) :
    World.Later function.space function.handle.index 0 (created, parts.held + frame)
      (made, {parts.type} + parts.held + frame) := by
  have exactCreated : created.Exact (parts.held + frame) :=
    (makes.leads balanced exact).exact (by rwa [zero_add])
  obtain ⟨here, contents, found, -⟩ := makes.members balanced exact
  obtain ⟨_, -, -, ranType⟩ := makes
  have types : Act.Balanced .lasting [] 0 (ownedBy session.space (Guest.Space.newType className [parts.base.handle]
      (methods.zip (parts.functions.map (·.handle))))) ({·}) := .ownedBy (Guest.Space.balanced_newType .lasting _ _ _)
  have leads := types.leads_ok (by rwa [zero_add]) ranType
  have exactMade := leads.exact (by rwa [zero_add])
  have holds : function ∈ parts.held + frame := by simp [ClassParts.held, ClassParts.lent, listed]
  have started : (made.space function.space).roots.isSome := by
    rw [home, ← here]
    exact exactMade.started_of_get? found
  have later := leads.later_of_held (by rwa [zero_add]) holds started
  rwa [zero_add, ← add_assoc] at later

end Made

/-- In whatever order classes are defined, and with whatever names and methods: from the moment that a definition
makes its functions, one that is called sends one message, to the origin of that definition and of the name of the
method. -/
theorem callback_sends_once (balanced : engine.Balanced) (exact : before.Exact frame)
    (ran : (engine.defineClass session origin className base methods).run before = (.ok (), defined)) :
    ∃ parts created made, Makes engine session origin className base methods before parts created made ∧
      World.Leads .lasting (before, 0) (created, parts.held) ∧ World.Leads .lasting (created, parts.held) (defined, 0) ∧
      parts.type.space = session.space ∧ ∃ contents, made.get? parts.type = some (.typeObject contents) ∧
        List.Forall₂ (fun method function => contents.members.get? method = some function.handle ∧
          function.space = session.space ∧ SendsEver (created, parts.held + frame) session
            { session := session.id, origin, className } method function) methods parts.functions := by
  obtain ⟨parts, created, made, ended, makes, ranPublish, rfl⟩ := exists_makes ran
  obtain ⟨here, contents, found, members⟩ := makes.members balanced exact
  have leads := makes.leads balanced exact
  have exactCreated : created.Exact (parts.held + frame) := leads.exact (by rwa [zero_add])
  exact ⟨parts, created, made, makes, leads, makes.leads_defined balanced exact ranPublish, here, contents, found,
    members.imp fun method function ⟨member, home, routed⟩ =>
      ⟨member, home, sendsEver_of_leadsAlong exactCreated rfl home routed⟩⟩

theorem Makes.leads_temporary {parts : ClassParts} {created made : World} {module resolver : Ref}
    {globals : Bindings Handle} (exact : before.Exact frame) (closed : (before.space module.space).Closed)
    (opened : before.Open session module globals) (offers : before.Offers module globals .resolveFunction resolver)
    (makes : Makes engine.next session origin className base methods before parts created made) :
    World.Leads .temporary (before, 0) (made, {parts.type} + parts.held) := by
  obtain ⟨prepared, ranPrepare, ranCallbacks, ranType⟩ := makes
  obtain ⟨result, prepared', ranPrepare', leadsPrepare, -⟩ :=
    run_prepareClass engine exact closed opened offers className base methods
  obtain ⟨rfl, rfl⟩ : Except.ok (parts.module, parts.base) = result ∧ prepared = prepared' :=
    Prod.mk.inj (ranPrepare.symm.trans ranPrepare')
  have exactPrepared : prepared.Exact (0 + ({parts.module} + {parts.base} + frame)) := by
    rw [zero_add]
    exact leadsPrepare.exact (by rwa [zero_add])
  have calls : Act.Balanced .temporary [] 0 (callbacks session { session := session.id, origin, className } methods) _ :=
    balanced_callbacks session _ methods
  have leadsCreated := leadsPrepare.follow exact (calls.leads_ok exactPrepared ranCallbacks)
  have types : Act.Balanced .temporary [] 0 (ownedBy session.space (Guest.Space.newType className [parts.base.handle]
      (methods.zip (parts.functions.map (·.handle))))) ({·}) := .ownedBy (Guest.Space.balanced_newType .temporary _ _ _)
  have exactCreated : created.Exact (parts.functions + ({parts.module} + {parts.base}) + frame) :=
    leadsCreated.exact (by rwa [zero_add])
  convert leadsCreated.follow exact (types.leads_ok (by rwa [zero_add]) ranType) using 3
  simp only [ClassParts.held, ClassParts.lent, ← Multiset.coe_add, Multiset.coe_singleton, left_ok]
  abel

/-- A method of a class in a session that was just opened, called as an attribute of the class. -/
theorem callback_sends_once_point :
    let world := Console.opened
    let state := Console.openedState
    ∃ parts created made function proxies stored giveBack,
      Makes exhausted.next state.session .nil "Point" "object" ["move"] world parts created made ∧
        parts.functions = [function] ∧
          Sends exhausted made state.session { session := state.session.id, origin := .nil, className := "Point" } "move"
            (fun engine => engine.next.callMethod state.session.space parts.type "move" [parts.type, function])
            [parts.type, function] proxies stored giveBack := by
  intro world state
  have exact : world.Exact 0 := Console.exact_after 1 _
  have recorded : world.session? { index := 0 } = some state := (Option.some_get _).symm
  have same : state.session.id = { index := 0 } := by decide +kernel
  have stores : world.canStore state.session := by decide +kernel
  have alive : (world.aliveSession? state.session.id).isSome := by decide +kernel
  have carried : ((exhausted.next.defineClass state.session .nil "Point" "object" ["move"]).run world).1.isOk := by
    decide +kernel
  let module := (world.sessionModule? state.session).get (by decide +kernel)
  let globals := (world.globals? module).get (by decide +kernel)
  have typed : (world.space module.space).Typed := Console.typed_after 1 _ _
  have held : state.module? = some module.handle := by decide +kernel
  have here : module.space = state.session.space := by decide +kernel
  have listed : world.globals? module = some globals := (Option.some_get _).symm
  have resolves : (world.offered? module .resolveFunction).isSome := by decide +kernel
  clear_value globals module state world
  obtain ⟨resolver, resolves⟩ := Option.isSome_iff_exists.mp resolves
  obtain ⟨defined, ran⟩ : ∃ defined,
      (exhausted.next.defineClass state.session .nil "Point" "object" ["move"]).run world = (.ok (), defined) := by
    rcases outcome : (exhausted.next.defineClass state.session .nil "Point" "object" ["move"]).run world with
      ⟨error | _, defined⟩
    · simp [outcome, Except.isOk, Except.toBool] at carried
    · exact ⟨defined, rfl⟩
  obtain ⟨parts, created, made, makes, leads, -, home, contents, found, members⟩ :=
    callback_sends_once (balanced_next balanced_exhausted) exact ran
  obtain ⟨function, functions, ⟨member, homeFunction, sends⟩, none, listedFunctions⟩ :=
    List.forall₂_cons_left_iff.mp members
  obtain rfl := List.forall₂_nil_left_iff.mp none
  have opened := World.open_of_globals? recorded same held here listed
  have leadsMade := makes.leads_temporary exact ((exact.spaces module.space).closed typed) opened
    (World.offers_of_offered? listed resolves)
  obtain ⟨_, _, _, _, stores⟩ := World.exists_stores_of_canStore recorded same stores
  have ready : made.Ready ({parts.type} + parts.held + 0) state.session :=
    World.Ready.of_leads ⟨exact, ⟨_, _, _, _, stores⟩, alive⟩ leadsMade
  have among : function ∈ parts.functions := by simp [listedFunctions]
  have later := makes.later (balanced_next balanced_exhausted) exact among homeFunction
  have reaches : Reaches made ({parts.type} + parts.held + 0) state.session function (fun engine =>
      engine.next.callMethod state.session.space parts.type "move" [parts.type, function]) [parts.type, function] := by
    refine reaches_of_type ready.exact home found (.own ?_) ?_
    · rw [← home]
      unfold World.get? at found
      rw [Guest.Space.members, found]
      exact member
    · intro ref listed
      rcases List.mem_pair.mp listed with rfl | rfl
      · exact ⟨by simp, home⟩
      · exact ⟨by simp [ClassParts.held, ClassParts.lent, among], homeFunction⟩
  obtain ⟨proxies, stored, giveBack, sent, -⟩ := sends made _ later ready exhausted _ _ reaches
  exact ⟨parts, created, made, function, proxies, stored, giveBack, makes, listedFunctions, sent⟩

end Definition

end Engine

end ObjectBridge

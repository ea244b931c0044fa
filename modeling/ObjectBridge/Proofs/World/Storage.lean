import ObjectBridge.Proofs.World.Alterations
import ObjectBridge.Proofs.World.Conversions
import ObjectBridge.Proofs.World.Offered

/-!
Storage of objects. As long as the module of a session offers the service that keeps objects and has its
registry, an object that is there can be kept, and a proxy be made for it; nothing but the registry changes.
-/

namespace ObjectBridge

open Guest (Extent Handle)

namespace World

/-- The session is open, its module offers the service that keeps objects, and the registry is a dict. -/
structure Stores (world : World) (session : Session) (module function registry : Ref) (globals : Bindings Handle) :
    Prop where
  opened : world.Open session module globals
  offers : world.Offers module globals .storeObject function
  bound : globals.get? Registry.registryGlobal = some registry.handle
  here : registry.space = module.space
  dict : ∃ entries, world.get? registry = some (.dict entries)

def registry? (world : World) (module : Ref) : Option Ref := do
  let handle ← (← world.globals? module).get? Registry.registryGlobal
  match world.get? { module with handle } with
  | some (.dict _) => some { module with handle }
  | _ => none

def canStore (world : World) (session : Session) : Bool :=
  match world.sessionModule? session with
  | some module => (world.offered? module .storeObject).isSome && (world.registry? module).isSome
  | none => false

theorem aliveSession?_of_sessions {world after : World} (same : after.sessions = world.sessions) (id : SessionId) :
    after.aliveSession? id = world.aliveSession? id := by
  unfold aliveSession? session?
  rw [same]

section Stores

variable {world after : World} {owned owned' frame : Multiset Ref} {session : Session}
  {module function registry : Ref} {globals : Bindings Handle}

theorem exists_stores_of_canStore {id : SessionId} {state : SessionState} (recorded : world.session? id = some state)
    (same : state.session.id = id) (stores : world.canStore state.session) :
    ∃ module function registry globals, world.Stores state.session module function registry globals := by
  unfold canStore at stores
  split at stores
  · rename_i module found
    rw [sessionModule?, same, recorded] at found
    obtain ⟨handle, held, rfl⟩ := Option.map_eq_some_iff.mp found
    obtain ⟨offered, kept⟩ := Bool.and_eq_true_iff.mp stores
    obtain ⟨function, offered⟩ := Option.isSome_iff_exists.mp offered
    obtain ⟨registry, kept⟩ := Option.isSome_iff_exists.mp kept
    obtain ⟨globals, shown, named⟩ := Option.bind_eq_some_iff.mp kept
    obtain ⟨registryHandle, bound, checked⟩ := Option.bind_eq_some_iff.mp named
    split at checked
    · rename_i entries dict
      exact ⟨_, function, { space := state.session.space, handle := registryHandle }, globals,
        open_of_globals? recorded same held rfl shown, offers_of_offered? shown offered, bound, rfl, entries, dict⟩
    · cases checked
  · cases stores

theorem Stores.anchored (stores : world.Stores session module function registry globals) (frame : Multiset Ref) :
    world.Anchored frame registry := by
  have anchored := stores.opened.anchored_global frame stores.bound
  rwa [← stores.here] at anchored

theorem Stores.started (stores : world.Stores session module function registry globals) (exact : world.Exact frame) :
    (world.space session.space).roots.isSome := by
  obtain ⟨name, found⟩ := stores.opened.object
  exact stores.opened.space ▸ exact.started_of_get? found

theorem Stores.of_leads (stores : world.Stores session module function registry globals)
    (leads : Leads .temporary (world, owned) (after, owned')) (exact : world.Exact (owned + frame)) :
    after.Stores session module function registry globals := by
  obtain ⟨entries, found⟩ := stores.dict
  exact ⟨stores.opened.of_leads leads exact, stores.offers.of_leads stores.opened leads exact, stores.bound, stores.here,
    entries, leads.unchanged exact (stores.anchored frame) found⟩

theorem Stores.of_spaces (stores : world.Stores session module function registry globals)
    (spaces : after.spaces = world.spaces)
    (recorded : ∃ state, after.session? session.id = some state ∧ state.session = session ∧
      state.module? = some module.handle) : after.Stores session module function registry globals := by
  have objects (ref : Ref) : after.get? ref = world.get? ref := by
    rw [get?, get?, space, space, spaces]
  obtain ⟨⟨-, space, name, object⟩, ⟨listed, home, label, callable⟩, bound, here, entries, dict⟩ := stores
  exact ⟨⟨recorded, space, name, (objects module).trans object⟩,
    ⟨listed, home, label, (objects function).trans callable⟩, bound, here, entries, (objects registry).trans dict⟩

theorem Stores.of_alters {entries : Bindings Handle} (stores : world.Stores session module function registry globals)
    (alters : world.Alters after registry (.dict entries)) : after.Stores session module function registry globals := by
  obtain ⟨⟨recorded, space, name, object⟩, ⟨listed, home, label, callable⟩, bound, here, _, dict⟩ := stores
  obtain ⟨_, _, rest⟩ := alters.rest
  refine ⟨⟨?_, space, name, alters.unchanged object dict nofun⟩,
    ⟨listed, home, label, alters.unchanged callable dict nofun⟩, bound, here, entries, alters.changed⟩
  rw [rest]
  exact recorded

end Stores

end World

namespace Bridge

def ProxyFor (session : Session) (value : Ref) (key : String) (proxy : HostValue) : Prop :=
  ∃ content, proxy = .object content ∧ content.family = session.proxyClass ∧
    opaqueReference? proxy = some { key, target := value.handle, session := session.id }

end Bridge

namespace Registry

open Act

variable {world : World} {frame : Multiset Ref} {session : Session} {module function registry value : Ref}
  {globals : Bindings Handle} {object : Guest.Object Code} (invocation : Invocation)

theorem run_enter (stores : world.Stores session module function registry globals) (exact : world.Exact frame)
    (live : world.get? value = some object) (home : value.space = session.space)
    (space : invocation.space = session.space) (state : invocation.bound? = some module) (key : String) :
    ∃ taken after, (registryOf invocation).run world = (.ok registry, taken) ∧
      (lending [registry] (onSpace invocation.space (Guest.Space.dictSet registry.handle key value.handle))).run taken =
        (.ok (), after) ∧
      World.Leads .lasting (world, 0) (after, 0) ∧ after.Stores session module function registry globals ∧
        ∃ spaces trace, after = { world with spaces, trace } := by
  obtain ⟨entries, dict⟩ := stores.dict
  obtain ⟨moduleName, contents⟩ := stores.opened.object
  have framed : world.Exact (0 + frame) := by rwa [zero_add]
  have registrySpace : registry.space = session.space := stores.here.trans stores.opened.space
  have bound : (liftM invocation.bound : GuestAct Ref).run world = (.ok module, world) := by
    simp only [Invocation.bound, state]
    exact run_lift _
  have ranRegistry : (registryOf invocation).run world = (.ok registry, world.retain registry) := by
    unfold registryOf
    rw [run_bind_ok bound, space, ← registrySpace]
    exact run_getattr_global registry exact contents stores.bound stores.here.symm dict
  have taken (extent : Extent) := World.leads_retain extent framed (World.live_of_get? dict)
  have exactTaken : (world.retain registry).Exact ({registry} + frame) := (taken .temporary).exact framed
  obtain ⟨_, handle⟩ := value
  obtain rfl := home
  obtain ⟨_, registryHandle⟩ := registry
  obtain rfl := registrySpace
  let registry : Ref := { space := session.space, handle := registryHandle }
  obtain ⟨altered, ranSet, alters, leadsSet⟩ := run_dictSet exactTaken ((World.get?_retain _ _ _).trans dict)
    ((World.get?_retain _ _ _).trans live) key
  -- An earlier value of the entry goes, and the registry is given back.
  let loose : List Ref := (entries.get? key).toList.map (Ref.mk session.space) ++ [registry]
  have leadsAltered : World.Leads .lasting (world, 0) (altered, loose) := (taken .lasting).follow exact leadsSet
  have exactAltered : altered.Exact ((loose : Multiset Ref) + 0 + frame) := by
    rw [add_zero]
    exact leadsAltered.exact framed
  have given := World.leads_releaseAll .temporary exactAltered
  refine ⟨_, altered.releaseAll loose, ranRegistry, ?_, World.Leads.giveBack loose (by rwa [add_zero]) exact,
    ((stores.of_leads (taken .temporary) framed).of_alters alters).of_leads given exactAltered, ?_⟩
  · rw [space, run_lending, ranSet, World.releaseAll_append]
  · obtain ⟨_, _, restTaken⟩ := (taken .temporary).rest_eq
    obtain ⟨_, _, restAltered⟩ := alters.rest
    obtain ⟨spaces, trace, restGiven⟩ := given.rest_eq
    exact ⟨spaces, trace, by rw [restGiven, restAltered, restTaken]⟩

theorem run_keep (stores : world.Stores session module function registry globals) (exact : world.Exact frame)
    (live : world.get? value = some object) (home : value.space = session.space)
    (space : invocation.space = session.space) (state : invocation.bound? = some module) :
    ∃ issued after, (keep invocation value).run world = (.ok issued, after) ∧
      after.get? issued = some (.str (keyOf value)) ∧ World.Leads .lasting (world, 0) (after, {issued}) ∧
        after.Stores session module function registry globals ∧ ∃ spaces trace, after = { world with spaces, trace } := by
  obtain ⟨taken, entered, ranRegistry, ranSet, leadsEntered, storesEntered, _, _, restEntered⟩ :=
    run_enter invocation stores exact live home space state (keyOf value)
  obtain ⟨trace, ranTrace⟩ := Engine.run_serviceTrace entered invocation s!"store_object -> {keyOf value}"
  have leadsTrace : World.Leads .lasting (world, 0) ({ entered with trace }, 0) :=
    leadsEntered.trans (World.leads_trace entered 0 trace)
  have storesTrace : World.Stores { entered with trace } session module function registry globals :=
    storesEntered.of_spaces rfl storesEntered.opened.recorded
  have exactEntered : entered.Exact frame := by
    simpa only [zero_add] using leadsEntered.exact (by rwa [zero_add])
  have exactTrace := exactEntered.with_trace trace
  obtain ⟨issued, after, ranText, -, leadsText, -, shown⟩ :=
    run_newText exactTrace (storesTrace.started exactTrace) (keyOf value)
  refine ⟨issued, after, ?_, shown, leadsTrace.trans (leadsText.lasting (World.knows_add.mp exactTrace.known).2),
    storesTrace.of_leads leadsText (by rwa [zero_add]), ?_⟩
  · unfold keep
    rw [run_bind_ok ranRegistry, run_bind_ok ranSet, run_bind_ok ranTrace, space]
    exact ranText
  · obtain ⟨spaces, trace, restText⟩ := leadsText.rest_eq
    exact ⟨spaces, trace, by rw [restText, restEntered]⟩

end Registry

namespace Engine

open Act Bridge

variable {world : World} {frame : Multiset Ref} {session : Session} {module function registry value : Ref}
  {globals : Bindings Handle} {object : Guest.Object Code}

theorem run_serve_storeObject (engine : Engine) {invocation : Invocation} {rest : List Ref}
    (given : invocation.arguments = value :: rest) :
    (Registry.serve engine .storeObject invocation).run world = (Registry.keep invocation value).run world := by
  have argument : (liftM (invocation.argument 0) : GuestAct Ref).run world = (.ok value, world) := by
    simp only [Invocation.argument, given, List.getElem?_cons_zero]
    exact run_lift _
  unfold Registry.serve
  rw [run_bind_ok argument]

theorem run_storeObject (engine : Engine) (stores : world.Stores session module function registry globals)
    (exact : world.Exact frame) (live : world.get? value = some object) (home : value.space = session.space) :
    ∃ issued after, (engine.next.registryCall session "store_object" [value]).run world = (.ok issued, after) ∧
      after.get? issued = some (.str (Registry.keyOf value)) ∧ World.Leads .lasting (world, 0) (after, {issued}) ∧
        after.Stores session module function registry globals ∧ ∃ spaces trace, after = { world with spaces, trace } := by
  have opened := stores.opened
  have offers := stores.offers
  have lives : ∀ ref ∈ [value], world.Live ref := by simpa using World.live_of_get? live
  have taken := leads_heldBy .temporary opened offers exact lives
  have framed : world.Exact (0 + frame) := by rwa [zero_add]
  let invocation : Invocation :=
    { space := session.space, bound? := some module, arguments := [value], keywords := [] }
  obtain ⟨issued, served, ran, shown, leads, storesServed, _, _, rest⟩ :=
    Registry.run_keep invocation (stores.of_leads taken framed) (taken.exact framed)
      ((World.get?_retainAll _ _ _).trans live) home rfl rfl
  rw [← run_serve_storeObject engine rfl] at ran
  have exactServed := leads.exact (by simpa only [zero_add] using taken.exact framed)
  rw [← coe_givenBack, add_left_comm, ← add_zero (givenBack module function [value] : Multiset Ref)] at exactServed
  have given := World.leads_releaseAll .temporary exactServed
  refine ⟨issued, served.releaseAll (givenBack module function [value]),
    run_registryCall engine opened offers exact [value] ran, ?_, leads_registryCall opened offers exact lives leads,
    storesServed.of_leads given exactServed, ?_⟩
  · exact given.unchanged exactServed (World.anchored_of_mem (by simp)) shown
  · obtain ⟨_, _, restTaken⟩ := taken.rest_eq
    obtain ⟨spaces, trace, restGiven⟩ := given.rest_eq
    exact ⟨spaces, trace, by rw [restGiven, rest, restTaken]⟩

theorem run_makeProxy (engine : Engine) (stores : world.Stores session module function registry globals)
    (exact : world.Exact frame) (live : world.get? value = some object) (home : value.space = session.space) :
    ∃ proxy after, (engine.next.makeProxy session value).run world = (.ok proxy, after) ∧
      ProxyFor session value (Registry.keyOf value) proxy ∧ World.Leads .lasting (world, 0) (after, 0) ∧
        after.Stores session module function registry globals ∧ after.sessions = world.sessions := by
  obtain ⟨issued, kept, ranKept, shown, leads, storesKept, _, _, rest⟩ := run_storeObject engine stores exact live home
  obtain ⟨trace, ranTrace⟩ := run_traceLine (ε := Error) session.config 1 s!"proxy {Registry.keyOf value}" kept
  let reference : OpaqueReference := { key := Registry.keyOf value, target := value.handle, session := session.id }
  let traced : World := { kept with trace }
  let made := traced.newObject session.host session.proxyClass (some (.proxy reference))
  have leadsMade : World.Leads .lasting (world, 0) (made.2, {issued}) :=
    (leads.trans (World.leads_trace kept {issued} trace)).trans
      (World.leads_move rfl rfl (World.steady_newObject traced _ _ _))
  have exactMade : made.2.Exact ((([issued] : List Ref) : Multiset Ref) + 0 + frame) := by
    rw [add_zero]
    exact leadsMade.exact (by rwa [zero_add])
  have storesMade : made.2.Stores session module function registry globals := 
    storesKept.of_spaces rfl storesKept.opened.recorded
  have given := World.leads_releaseAll .temporary exactMade
  refine ⟨made.1, made.2.releaseAll [issued], ?_, ⟨_, rfl, rfl, rfl⟩,
    World.Leads.giveBack [issued] (by rwa [add_zero]) exact, storesMade.of_leads given exactMade, ?_⟩
  · unfold makeProxy
    rw [run_bind_ok ranKept, run_lending, run_bind_ok (World.textOf_eq shown)]
    dsimp only
    rw [run_bind_ok ranTrace]
    rfl
  · obtain ⟨_, _, restGiven⟩ := given.rest_eq
    have sameKept : kept.sessions = world.sessions := by rw [rest]
    rw [restGiven]
    exact sameKept

end Engine

end ObjectBridge

import ObjectBridge.Proofs.Space.Inheritance
import ObjectBridge.Proofs.World.Identity
import ObjectBridge.Proofs.World.Synthesis

/-!
Callbacks. A function that was made for a method of a class leads along its route for as long as it is there.
To call it is to send one message along the route, with a proxy for each argument after the receiver, however
the function was reached.
-/

namespace ObjectBridge

open Guest (Extent Handle)

namespace World

variable {world after : World} {session : Session}

theorem Records.holdSession (records : world.Records session) :
    (world.holdSession session).aliveSession? session.id = some session := by
  obtain ⟨state, found, same⟩ := records
  have held : (world.holdSession session).session? session.id = some { state with holders := state.holders + 1 } := by
    rw [World.holdSession, session?_updateSession, if_pos rfl, found]
    rfl
  simp [aliveSession?, held, same]

theorem Stores.holdSession {module function registry : Ref} {globals : Bindings Handle}
    (stores : world.Stores session module function registry globals) :
    (world.holdSession session).Stores session module function registry globals := by
  obtain ⟨state, found, same, held⟩ := stores.opened.recorded
  refine stores.of_spaces rfl ⟨{ state with holders := state.holders + 1 }, ?_, same, held⟩
  rw [World.holdSession, session?_updateSession, if_pos rfl, found]
  rfl

structure Ready (world : World) (held : Multiset Ref) (session : Session) : Prop where
  exact : world.Exact held
  stores : ∃ module service registry globals, world.Stores session module service registry globals
  alive : (world.aliveSession? session.id).isSome

theorem Ready.of_leads {held owned : Multiset Ref} (ready : world.Ready held session)
    (leads : Leads .temporary (world, 0) (after, owned)) : after.Ready (owned + held) session := by
  have framed : world.Exact (0 + held) := by
    rw [zero_add]
    exact ready.exact
  obtain ⟨module, service, registry, globals, stores⟩ := ready.stores
  refine ⟨leads.exact framed, ⟨module, service, registry, globals, stores.of_leads leads framed⟩, ?_⟩
  rw [aliveSession?_of_sessions (leads.extends ready.exact).sessions]
  exact ready.alive

theorem Later.leadsAlong {function : Ref} {name : String} {route : Route} {before after : World × Multiset Ref}
    (later : Later function.space function.handle.index 0 before after) (exact : before.1.Exact before.2)
    (started : (after.1.space function.space).roots.isSome) (leadsAlong : before.1.LeadsAlong function name route) :
    after.1.LeadsAlong function name route := by
  obtain ⟨bound, made, named⟩ := leadsAlong
  have whole : (before.1.space function.space).Exact (heldIn function.space (before.2 + before.1.outside) + 0) := by
    rw [add_zero]
    exact exact.spaces function.space
  have fixed := Guest.Object.fixed_function { name, bound := some bound, body := Code.callback route }
  have course : Guest.Space.Course bound.index 0 _ _ :=
    later.course.child whole started fixed made (by simp [Guest.Object.children])
  exact ⟨bound, later.course.unchanged whole started fixed made, course.unchanged whole started (Guest.Object.fixed_str _) named⟩

end World

namespace Guest.Space

theorem callee_boundMethod {β : Type} {space : Space β} {handle receiver function : Handle}
    (found : space.object handle = .ok (.boundMethod receiver function)) :
    space.callee handle = .ok (.method receiver function) := by
  simp [callee, found, bind, Except.bind, pure, Except.pure]

end Guest.Space

namespace Engine

open Act Bridge

section Proxies

variable {world : World} {frame : Multiset Ref} {session : Session} {module function registry value : Ref}
  {globals : Bindings Handle} {proxy : HostValue}

theorem run_toGuest_proxy (exact : world.Exact frame) (live : world.Live value) (home : value.space = session.space)
    (records : world.Records session) (alive : (world.aliveSession? session.id).isSome)
    (started : (world.space session.space).roots.isSome) {key : String} (proxyFor : ProxyFor session value key proxy) :
    ∃ after, (toGuest session proxy).run world = (.ok value, after) := by
  have run := World.Later.refl value.space value.handle.index (world, frame)
  obtain ⟨ref, after, ran⟩ : ∃ ref after, (toGuest session (Place.here.fill proxy)).run world = (.ok ref, after) :=
    exists_run_of_sees exact live home records proxyFor run ⟨rfl, alive, started, rfl⟩ trivial
  obtain ⟨-, space, item, -⟩ := sees_of_run exact live home records proxyFor run (by decide) records ran
  obtain ⟨_, handle⟩ := ref
  obtain rfl := space
  obtain rfl : handle = value.handle := Option.some.inj item
  exact ⟨after, ran⟩

theorem run_makeProxies (engine : Engine) {arguments : List Ref}
    (stores : world.Stores session module function registry globals) (exact : world.Exact frame)
    (given : ∀ ref ∈ arguments, ref ∈ frame ∧ ref.space = session.space) :
    ∃ proxies after, (arguments.mapM fun argument =>
        (engine.next.makeProxy session argument).adapt (·.toException) : GuestAct (List HostValue)).run world =
          (.ok proxies, after) ∧
      List.Forall₂ (fun argument proxy => (argument ∈ frame ∧ argument.space = session.space) ∧
        ProxyFor session argument (Registry.keyOf argument) proxy) arguments proxies ∧
        World.Leads .lasting (world, 0) (after, 0) ∧ after.Stores session module function registry globals ∧
          after.sessions = world.sessions := by
  induction arguments generalizing world with
  | nil => exact ⟨[], world, rfl, .nil, .refl world 0, stores, rfl⟩
  | cons argument rest ih =>
    obtain ⟨listed, home⟩ := given argument List.mem_cons_self
    obtain ⟨-, present⟩ := exact.live (Multiset.mem_add.mpr (Or.inl listed))
    rw [home] at present
    obtain ⟨cell, here⟩ := present (stores.started exact)
    have live : world.get? argument = some cell.object := by
      rw [World.get?, home]
      exact Guest.Heap.get?_of_cell here
    obtain ⟨proxy, made, ran, proxyFor, leads, storesMade, sessions⟩ := run_makeProxy engine stores exact live home
    have exactMade : made.Exact frame := by simpa only [zero_add] using leads.exact (by rwa [zero_add])
    obtain ⟨proxies, after, ranRest, each, leadsRest, storesRest, sessionsRest⟩ :=
      ih storesMade exactMade fun ref member => given ref (List.mem_cons_of_mem _ member)
    refine ⟨proxy :: proxies, after, ?_, .cons ⟨⟨listed, home⟩, proxyFor⟩ each, leads.trans leadsRest, storesRest,
      sessionsRest.trans sessions⟩
    rw [List.mapM_cons, run_bind_ok (run_adapt_ok _ ran), run_bind_ok ranRest]
    rfl

end Proxies

def answered (space : SpaceId) (route : Route) (method : String) (giveBack : World → World) :
    Except Host.Error HostValue × World → Except Guest.Exception Ref × World
  | (.ok _, after) =>
    let (answer, after) := (ownedBy space Guest.Space.noneValue).run after
    (answer, giveBack after)
  | (.error error, after) => (.error (.hostFailure route.className method error.message), giveBack after)

/-- The call sends one message, whatever it is that sends messages: one of the name of the method to the object of
the route. What it sends are proxies for its arguments after the first. What it does before does not depend on the
message, and what it does then depends only on how the message ends. -/
structure Sends (inner : Engine) (world : World) (session : Session) (route : Route) (method : String)
    (call : Engine → GuestAct Ref) (arguments : List Ref) (proxies : List HostValue) (stored : World)
    (giveBack : World → World) : Prop where
  exact : ∃ kept, stored.Exact kept
  proxied : List.Forall₂ (fun argument proxy => (opaqueReference? proxy).isSome ∧
    ∃ after, (toGuest session proxy).run stored = (.ok argument, after)) (arguments.drop 1) proxies
  once : ∀ send : Host.HostId → HostValue → String → List HostValue → HostAct HostValue,
    (call { call := inner.next.call, send }).run world =
      answered session.space route method giveBack ((send session.host route.origin method proxies).run stored)

def SendsOnce (inner : Engine) (world : World) (session : Session) (route : Route) (method : String)
    (call : Engine → GuestAct Ref) (arguments : List Ref) : Prop :=
  ∃ proxies stored giveBack, Sends inner world session route method call arguments proxies stored giveBack

def Answers (space : SpaceId) (route : Route) (method : String) :
    Except Host.Error HostValue × World → Except Guest.Exception Ref → Prop
  | (.ok _, after), answer =>
    match (after.space space).builtin? "None" with
    | some handle => answer = .ok { space, handle }
    | none => answer = .error .finalized
  | (.error error, _), answer => answer = .error (.hostFailure route.className method error.message)

theorem Sends.answers {inner : Engine} {world stored : World} {session : Session} {route : Route} {method : String}
    {call : Engine → GuestAct Ref} {arguments : List Ref} {proxies : List HostValue} {giveBack : World → World}
    (sends : Sends inner world session route method call arguments proxies stored giveBack)
    {send : Host.HostId → HostValue → String → List HostValue → HostAct HostValue}
    (balanced : Act.Balanced .lasting [] 0 (send session.host route.origin method proxies) fun _ => 0) :
    Answers session.space route method ((send session.host route.origin method proxies).run stored)
      ((call { call := inner.next.call, send }).run world).1 := by
  obtain ⟨kept, exact⟩ := sends.exact
  rw [sends.once]
  rcases ran : (send session.host route.origin method proxies).run stored with ⟨error | value, after⟩
  · rfl
  have exactAfter : after.Exact (0 + kept) := (balanced.leads_ok (by rwa [zero_add]) ran).exact (by rwa [zero_add])
  rcases started : (after.space session.space).roots with _ | roots
  · have ended : (ownedBy session.space Guest.Space.noneValue).run after = (.error .finalized, after) :=
      run_noneValue_finalized started
    simp [Answers, answered, ended, Guest.Space.builtin?, started]
  · obtain ⟨none, _, ranNone, here, builtin, -⟩ := run_noneValue exactAfter (Option.isSome_of_eq_some started)
    obtain ⟨_, handle⟩ := none
    obtain rfl := here
    simp only [Answers, answered, ranNone, builtin]

section Dispatch

variable {world : World} {held : Multiset Ref} {session : Session} {route : Route} {method : String}

theorem SendsOnce.of_lending {inner : Engine} {between : World} {call call' : Engine → GuestAct Ref}
    {arguments : List Ref} (sends : SendsOnce inner between session route method call' arguments) (refs : List Ref)
    (ran : ∀ send : Host.HostId → HostValue → String → List HostValue → HostAct HostValue,
      (call { call := inner.next.call, send }).run world =
        (lending refs (call' { call := inner.next.call, send })).run between) :
    SendsOnce inner world session route method call arguments := by
  obtain ⟨proxies, stored, giveBack, sends⟩ := sends
  refine ⟨proxies, stored, fun after => (giveBack after).releaseAll refs, sends.exact, sends.proxied, fun send => ?_⟩
  rw [ran, run_lending, sends.once]
  rcases (send session.host route.origin method proxies).run stored with ⟨error | value, after⟩ <;> rfl

theorem run_dispatch (inner : Engine) (ready : world.Ready held session) (own : route.session = session.id)
    {bound : Ref} (named : world.get? bound = some (.str method)) {arguments : List Ref}
    (given : ∀ ref ∈ arguments, ref ∈ held ∧ ref.space = session.space) (keywords : List (String × Ref)) :
    SendsOnce inner world session route method (fun engine => engine.dispatch route
      { space := session.space, bound? := some bound, arguments, keywords }) arguments := by
  obtain ⟨exact, ⟨module, service, registry, globals, stores⟩, alive⟩ := ready
  have records := stores.opened.records
  -- The session is held while the message is on its way.
  have leadsHeld : World.Leads .lasting (world, 0) (world.holdSession session, 0) := World.leads_holdSession session
  have exactHeld : (world.holdSession session).Exact held := by
    simpa only [zero_add] using leadsHeld.exact (by rwa [zero_add])
  have storesHeld := stores.holdSession
  obtain ⟨trace, ranTrace⟩ := run_traceLine (ε := Guest.Exception) session.config 1
    s!"callback {route.className}.{method} ({(arguments.drop 1).length} args)" (world.holdSession session)
  let traced : World := { world.holdSession session with trace }
  have exactTraced : traced.Exact held := exactHeld.with_trace trace
  have storesTraced : traced.Stores session module service registry globals :=
    storesHeld.of_spaces rfl storesHeld.opened.recorded
  have givenRest : ∀ ref ∈ arguments.drop 1, ref ∈ held ∧ ref.space = session.space :=
    fun ref member => given ref (List.mem_of_mem_drop member)
  obtain ⟨proxies, stored, ranProxies, each, leads, storesStored, sessions⟩ :=
    run_makeProxies inner storesTraced exactTraced givenRest
  have exactStored : stored.Exact held := by simpa only [zero_add] using leads.exact (by rwa [zero_add])
  have aliveStored : (stored.aliveSession? session.id).isSome := by
    rw [World.aliveSession?_of_sessions sessions]
    exact Option.isSome_iff_exists.mpr ⟨session, records.holdSession⟩
  refine ⟨proxies, stored, (·.dropSession session), ⟨held, exactStored⟩, ?_, fun send => ?_⟩
  · refine each.imp fun argument proxy ⟨⟨listed, home⟩, proxyFor⟩ => ⟨?_, ?_⟩
    · obtain ⟨_, -, -, carried⟩ := proxyFor
      exact Option.isSome_iff_exists.mpr ⟨_, carried⟩
    · exact run_toGuest_proxy exactStored (exactStored.live (Multiset.mem_add.mpr (Or.inl listed))) home
        storesStored.opened.records aliveStored (storesStored.started exactStored) proxyFor
  · have ranBound : (liftM (Except.ok bound) : GuestAct Ref).run world = (.ok bound, world) := run_lift _
    unfold dispatch
    simp only [Invocation.bound]
    rw [run_bind_ok ranBound, run_bind_ok (World.textOf_eq named)]
    simp only [own, run_get_bind, records.alive alive]
    have ranAll : ((arguments.drop 1).mapM fun argument =>
        (Engine.makeProxy { call := inner.next.call, send } session argument).adapt (·.toException)).run traced =
          (.ok proxies, stored) := ranProxies
    rw [run_holding, run_bind_ok ranTrace, run_bind_ok ranAll, run_bind, run_adapt]
    rcases (send session.host route.origin method proxies).run stored with ⟨error | value, after⟩ <;> rfl

def Lends (held : Multiset Ref) (session : Session) (refs : List Ref) : Prop :=
  ∀ ref ∈ refs, ref ∈ held ∧ ref.space = session.space

/-- The call comes down to the dispatch of the arguments along the route, in a world in which more references are
held; some are given back after it. Nothing else about it depends on what is called and sent by. -/
def ComesDown (world : World) (held : Multiset Ref) (session : Session) (route : Route) (method : String)
    (call : Engine → GuestAct Ref) (arguments : List Ref) : Prop :=
  ∃ bound keywords between owned refs, between.get? bound = some (.str method) ∧
    World.Leads .temporary (world, 0) (between, owned) ∧ Lends (owned + held) session arguments ∧
      ∀ engine, (call engine).run world = (lending refs (engine.dispatch route
        { space := session.space, bound? := some bound, arguments, keywords })).run between

theorem ComesDown.of_lending {between : World} {owned : Multiset Ref} {call call' : Engine → GuestAct Ref}
    {arguments : List Ref} (exact : between.Exact (owned + held))
    (leads : World.Leads .temporary (world, 0) (between, owned))
    (comesDown : ComesDown between (owned + held) session route method call' arguments) (refs : List Ref)
    (ran : ∀ engine, (call engine).run world = (lending refs (call' engine)).run between) :
    ComesDown world held session route method call arguments := by
  obtain ⟨bound, keywords, later, more, lent, named, leadsLater, lends, ranLater⟩ := comesDown
  have known := exact.known
  rw [add_assoc] at known
  have framed := leadsLater.frame (World.knows_add.mp known).1
  rw [zero_add] at framed
  refine ⟨bound, keywords, later, more + owned, lent ++ refs, named, leads.trans framed, ?_, fun engine => ?_⟩
  · rw [add_assoc]
    exact lends
  · rw [ran, run_lending, ranLater, run_lending, run_lending, World.releaseAll_append]

theorem ComesDown.sendsOnce (inner : Engine) (ready : world.Ready held session) (own : route.session = session.id)
    {call : Engine → GuestAct Ref} {arguments : List Ref}
    (comesDown : ComesDown world held session route method call arguments) :
    SendsOnce inner world session route method call arguments := by
  obtain ⟨bound, keywords, between, owned, refs, named, leads, lends, ran⟩ := comesDown
  exact (run_dispatch inner (ready.of_leads leads) own named lends keywords).of_lending refs fun send => ran _

variable {function : Ref}

theorem comesDown_function (exact : world.Exact held) (home : function.space = session.space)
    (routed : world.LeadsAlong function method route) (arguments : List Ref) (keywords : List (String × Ref))
    (given : Lends held session (arguments ++ keywords.map (·.2))) :
    ComesDown world held session route method
      (fun engine => engine.next.call session.space function arguments keywords) arguments := by
  obtain ⟨_, handle⟩ := function
  obtain rfl := home
  obtain ⟨bound, made, named⟩ := routed
  let state : Ref := { space := session.space, handle := bound }
  let lent : List Ref := state :: (arguments ++ keywords.map (·.2))
  have live : ∀ ref ∈ lent, world.Live ref := by
    intro ref member
    rcases List.mem_cons.mp member with rfl | listed
    · exact World.live_of_get? named
    · exact exact.live (Multiset.mem_add.mpr (Or.inl (given ref listed).1))
  have framed : world.Exact (0 + held) := by rwa [zero_add]
  have taken := World.leads_retainAll .temporary framed live
  refine ⟨state, keywords, world.retainAll lent, _, lent, (World.get?_retainAll _ _ _).trans named, taken,
    fun ref member => ?_, fun engine => run_call_function engine exact made arguments keywords rfl rfl⟩
  obtain ⟨listed, here⟩ := given ref (List.mem_append_left _ member)
  exact ⟨Multiset.mem_add.mpr (Or.inr listed), here⟩

theorem run_call_boundMethod (engine : Engine) (exact : world.Exact held) {callable : Ref} {receiver target : Handle}
    (found : world.get? callable = some (.boundMethod receiver target)) (arguments : List Ref)
    (keywords : List (String × Ref)) {lent : List Ref}
    (total : lent = { space := callable.space, handle := receiver } :: arguments ++
      [{ space := callable.space, handle := target }]) :
    (engine.next.call callable.space callable arguments keywords).run world =
      (lending lent (engine.call callable.space { space := callable.space, handle := target }
        ({ space := callable.space, handle := receiver } :: arguments) keywords)).run (world.retainAll lent) := by
  have viewed : (onView callable.space (·.callee callable.handle)).run world =
      (.ok (.method receiver target), world) := by
    rw [run_onView, Guest.Space.callee_boundMethod (exact.object_eq_ok found)]
  subst total
  show (engine.callObject engine.runCode callable.space callable arguments keywords).run world = _
  rw [callObject, run_bind_ok viewed]
  rfl

theorem comesDown_boundMethod (exact : world.Exact held) (home : function.space = session.space)
    (routed : world.LeadsAlong function method route) {callable : Ref} {receiver : Handle}
    (here : callable.space = session.space)
    (found : world.get? callable = some (.boundMethod receiver function.handle)) (arguments : List Ref)
    (keywords : List (String × Ref)) (given : Lends held session (arguments ++ keywords.map (·.2))) :
    ComesDown world held session route method
      (fun engine => engine.next.next.call session.space callable arguments keywords)
      ({ space := session.space, handle := receiver } :: arguments) := by
  obtain ⟨_, target⟩ := callable
  obtain rfl := here
  obtain ⟨_, handle⟩ := function
  obtain rfl := home
  let lent : List Ref := { space := session.space, handle := receiver } :: arguments ++
    [{ space := session.space, handle }]
  have live : ∀ ref ∈ lent, world.Live ref := by
    intro ref member
    rcases List.mem_cons.mp member with rfl | listed
    · exact exact.live_of_child found (by simp [Guest.Object.children])
    · rcases List.mem_append.mp listed with listed | listed
      · exact exact.live (Multiset.mem_add.mpr (Or.inl (given ref (List.mem_append_left _ listed)).1))
      · obtain rfl := List.mem_singleton.mp listed
        exact exact.live_of_child found (by simp [Guest.Object.children])
  have framed : world.Exact (0 + held) := by rwa [zero_add]
  have taken := World.leads_retainAll .temporary framed live
  have givenTaken : Lends ((lent : Multiset Ref) + 0 + held) session
      (({ space := session.space, handle := receiver } :: arguments) ++ keywords.map (·.2)) := by
    intro ref member
    rcases List.mem_cons.mp member with rfl | listed
    · exact ⟨by simp [lent], rfl⟩
    · exact ⟨Multiset.mem_add.mpr (Or.inr (given ref listed).1), (given ref listed).2⟩
  have exactTaken := taken.exact framed
  have comesDown := comesDown_function exactTaken rfl (routed.of_extends (taken.extends exact))
    ({ space := session.space, handle := receiver } :: arguments) keywords givenTaken
  exact comesDown.of_lending exactTaken taken lent fun engine =>
    run_call_boundMethod engine.next exact found arguments keywords rfl

theorem comesDown_attribute (exact : world.Exact held) (home : function.space = session.space)
    (routed : world.LeadsAlong function method route) {target : Ref} {name : String}
    (found : (world.space session.space).findAttribute target.handle name = .ok (.plain function.handle))
    (arguments : List Ref) (given : Lends held session arguments) :
    ComesDown world held session route method
      (fun engine => engine.next.callMethod session.space target name arguments) arguments := by
  have live := routed
  obtain ⟨bound, made, -⟩ := live
  have framed : world.Exact (0 + held) := by rwa [zero_add]
  have taken := World.leads_retain .temporary framed (World.live_of_get? made)
  have fetched : (getattr session.space target name).run world = (.ok function, world.retain function) := by
    have shown := exact.object_eq_ok made
    obtain ⟨_, handle⟩ := function
    obtain rfl := home
    rw [getattr, run_ownedBy, Guest.Space.run_getattr_plain found,
      Guest.Space.acquire_eq_ok.mpr ⟨⟨_, shown⟩, rfl, rfl⟩, World.retain, World.updateSpace_eq_setSpace]
  have exactTaken := taken.exact framed
  have comesDown := comesDown_function exactTaken home (routed.of_extends (taken.extends exact)) arguments []
    fun ref member => by
      have listed : ref ∈ arguments := by simpa using member
      exact ⟨Multiset.mem_add.mpr (Or.inr (given ref listed).1), (given ref listed).2⟩
  refine comesDown.of_lending exactTaken taken [function] fun engine => ?_
  rw [callMethod, run_bind_ok fetched]

theorem comesDown_method (exact : world.Exact held) (home : function.space = session.space)
    (routed : world.LeadsAlong function method route) {target : Ref} {name : String}
    (found : (world.space session.space).findAttribute target.handle name = .ok (.method function.handle))
    (arguments : List Ref) (given : Lends held session arguments) (here : target.space = session.space) :
    ComesDown world held session route method
      (fun engine => engine.next.next.callMethod session.space target name arguments) (target :: arguments) := by
  obtain ⟨_, receiver⟩ := target
  obtain rfl := here
  have live := routed
  obtain ⟨_, made, -⟩ := live
  have allocates : (Guest.Space.getattr receiver name).run (world.space session.space) =
      (Guest.Space.allocate (.boundMethod receiver function.handle)).run
        ((world.space session.space).retainAll [receiver, function.handle]) :=
    Guest.Space.run_getattr_method found
  obtain ⟨callable, after, fetched, space, -, bound⟩ :=
    run_ownedBy_allocate exact (home ▸ exact.started_of_get? made) allocates
  have framed : world.Exact (0 + held) := by rwa [zero_add]
  have balanced : Act.Balanced .temporary [] 0
      (getattr session.space { space := session.space, handle := receiver } name) ({·}) :=
    balanced_getattr _ name
  have leads := balanced.leads_ok framed fetched
  have exactAfter := leads.exact framed
  have comesDown := comesDown_boundMethod exactAfter home (routed.of_extends (leads.extends exact)) space bound
    arguments [] fun ref member => by
      have listed : ref ∈ arguments := by simpa using member
      exact ⟨Multiset.mem_add.mpr (Or.inr (given ref listed).1), (given ref listed).2⟩
  refine comesDown.of_lending exactAfter leads [callable] fun engine => ?_
  have ran : (getattr session.space { space := session.space, handle := receiver } name).run world =
      (.ok callable, after) := fetched
  rw [callMethod, run_bind_ok ran]

inductive Reaches (world : World) (held : Multiset Ref) (session : Session) (function : Ref) :
    (Engine → GuestAct Ref) → List Ref → Prop
  | itself (arguments : List Ref) (keywords : List (String × Ref))
      (lent : Lends held session (arguments ++ keywords.map (·.2))) :
      Reaches world held session function
        (fun engine => engine.next.call session.space function arguments keywords) arguments
  | bound {callable : Ref} {receiver : Handle} (here : callable.space = session.space)
      (found : world.get? callable = some (.boundMethod receiver function.handle)) (arguments : List Ref)
      (keywords : List (String × Ref)) (lent : Lends held session (arguments ++ keywords.map (·.2))) :
      Reaches world held session function
        (fun engine => engine.next.next.call session.space callable arguments keywords)
        ({ space := session.space, handle := receiver } :: arguments)
  | plain {target : Ref} {name : String}
      (found : (world.space session.space).findAttribute target.handle name = .ok (.plain function.handle))
      (arguments : List Ref) (lent : Lends held session arguments) :
      Reaches world held session function
        (fun engine => engine.next.callMethod session.space target name arguments) arguments
  | method {target : Ref} {name : String} (here : target.space = session.space)
      (found : (world.space session.space).findAttribute target.handle name = .ok (.method function.handle))
      (arguments : List Ref) (lent : Lends held session arguments) :
      Reaches world held session function
        (fun engine => engine.next.next.callMethod session.space target name arguments) (target :: arguments)

theorem comesDown_of_reaches (exact : world.Exact held) (home : function.space = session.space)
    (routed : world.LeadsAlong function method route) {call : Engine → GuestAct Ref} {arguments : List Ref}
    (reaches : Reaches world held session function call arguments) :
    ComesDown world held session route method call arguments := by
  cases reaches with
  | itself arguments keywords lent => exact comesDown_function exact home routed arguments keywords lent
  | bound here found arguments keywords lent =>
    exact comesDown_boundMethod exact home routed here found arguments keywords lent
  | plain found arguments lent => exact comesDown_attribute exact home routed found arguments lent
  | method here found arguments lent => exact comesDown_method exact home routed found arguments lent here

theorem reaches_of_type (exact : world.Exact held) {type : Ref}
    {contents : Guest.TypeObject} (here : type.space = session.space)
    (found : world.get? type = some (.typeObject contents)) {name : String} {steps : Nat}
    (inherits : (world.space session.space).Inherits name function.handle steps type.handle) {arguments : List Ref}
    (lent : Lends held session arguments) :
    Reaches world held session function (fun engine => engine.next.callMethod session.space type name arguments)
      arguments :=
  .plain (Guest.Space.findAttribute_type (here ▸ exact.object_eq_ok found) inherits) arguments lent

end Dispatch

end Engine

end ObjectBridge

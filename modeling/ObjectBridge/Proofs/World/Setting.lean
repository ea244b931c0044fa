import ObjectBridge.Proofs.World.Arguments
import ObjectBridge.Proofs.World.Endurance
import ObjectBridge.Proofs.World.Messages
import ObjectBridge.Proofs.World.Stored

/-!
Setting attributes by messages. A message that assigns converts the value, sets the attribute and answers what it has
set. Whatever goes wrong before the attribute is set leaves all objects as they were. Where it is set, only that object
is changed, and the module of the session stays open.
-/

namespace ObjectBridge

open Guest (Handle)

namespace Act

variable {world after : World} {frame : Multiset Ref} {id : SpaceId} {target value : Ref}
  {object bound : Guest.Object Code} {attributes : Bindings Handle} {name : String}

theorem run_lending_lending {ε α : Type} {act inner : Act ε α} {between : World} {refs : List Ref}
    (ran : act.run world = (lending refs inner).run between) (more : List Ref) :
    (lending more act).run world = (lending (refs ++ more) inner).run between := by
  rw [run_lending, ran, run_lending, run_lending, World.releaseAll_append]

theorem run_setattr_unsettable (exact : world.Exact frame) (found : world.get? target = some object)
    (place : Guest.Space.settable object = none) (name : String) (value : Ref) :
    ∃ exception, (setattr target.space target name value).run world = (.error exception, world) := by
  have shown := exact.object_eq_ok found
  rw [setattr, run_onSpace]
  rcases set : (Guest.Space.setattr target.handle name value.handle).run (world.space target.space) with
    exception | ⟨_, space⟩
  · exact ⟨exception, rfl⟩
  · obtain ⟨-, -, other, _, shown', settable, -⟩ := Guest.Space.setattr_eq_ok.mp set
    obtain rfl := Except.ok.inj (shown.symm.trans shown')
    cases place.symm.trans settable

theorem others_of_setattr (exact : world.Exact frame) (place : Guest.Space.settable object = some attributes)
    (found : world.get? target = some object)
    (typed : ∃ typeName, (world.space target.space).typeNameOf target.handle = .ok typeName)
    (live : world.get? value = some bound) (here : value.space = target.space)
    (ran : (setattr target.space target name value).run world = (.ok (), after)) {ref : Ref} (other : ref ≠ target)
    {kept : Guest.Object Code} (there : after.get? ref = some kept) : world.get? ref = some kept := by
  obtain ⟨id, targetHandle⟩ := target
  obtain ⟨valueSpace, valueHandle⟩ := value
  obtain rfl : valueSpace = id := here
  obtain ⟨altered, ran', alters, -⟩ := run_setattr exact place found typed live name
  obtain ⟨-, rfl⟩ := Prod.mk.inj (ran.symm.trans ran')
  rw [← alters.others ref other]
  exact World.get?_of_releaseAll there

end Act

namespace World

variable {world after : World} {frame : Multiset Ref} {session : Session} {module function registry object value : Ref}
  {globals attributes : Bindings Handle} {contents changed : Guest.Object Code} {service : Registry.Service}
  {name : String}

theorem Alters.recorded (alters : world.Alters after object changed) (opened : world.Open session module globals) :
    ∃ state, after.session? session.id = some state ∧ state.session = session ∧ state.module? = some module.handle := by
  obtain ⟨_, _, rest⟩ := alters.rest
  rw [rest]
  exact opened.recorded

theorem Modifies.rest_eq {owned owned' : Multiset Ref}
    (modifies : Modifies object changed (world, owned) (after, owned')) :
    ∃ spaces trace, after = { world with spaces, trace } := by
  obtain ⟨now, taken, bound, given, leads, alters, -, settles⟩ := modifies
  obtain ⟨_, _, earlier⟩ := leads.rest_eq
  obtain ⟨_, _, rest⟩ := alters.rest
  obtain ⟨spaces, trace, later⟩ := settles.rest_eq
  exact ⟨spaces, trace, by rw [later, rest, earlier]⟩

theorem Modifies.keeps_stores (modifies : Modifies object changed (world, 0) (after, 0)) (exact : world.Exact frame)
    (stores : world.Stores session module function registry globals)
    (place : Guest.Space.settable contents = some attributes) (found : world.get? object = some contents)
    (other : object ≠ module) :
    after.Stores session module function registry globals ∧ after.get? registry = world.get? registry := by
  obtain ⟨now, taken, bound, kept, leads, alters, binds, settles⟩ := modifies
  have framed : world.Exact (0 + frame) := by rwa [zero_add]
  have exactNow : now.Exact (taken + frame) := leads.exact framed
  have exactBound : bound.Exact (kept + frame) := binds.exact exactNow
  have foundNow := (leads.extends exact).get? found
  obtain ⟨entries, dict⟩ := stores.dict
  have dictNow := (leads.extends exact).get? dict
  obtain ⟨opened, ⟨offered, home, label, callable⟩, named, here, -⟩ := stores.of_leads leads framed
  have recorded := alters.recorded opened
  obtain ⟨-, space, moduleName, there⟩ := opened
  -- Neither functions nor dicts have a place for attributes.
  have dictBound := alters.unchanged dictNow foundNow (by rintro rfl; cases place)
  have storesBound : bound.Stores session module function registry globals :=
    ⟨⟨recorded, space, moduleName, (alters.others module other.symm).trans there⟩,
      ⟨offered, home, label, alters.unchanged callable foundNow (by rintro rfl; cases place)⟩, named, here, entries,
      dictBound⟩
  refine ⟨storesBound.of_leads settles exactBound, ?_⟩
  rw [settles.unchanged exactBound (storesBound.anchored frame) dictBound, dict]

theorem Modifies.keeps_open {moduleName : String}
    (modifies : Modifies module (.moduleObject { name := moduleName, globals := globals.insert name value.handle })
      (world, 0) (after, 0)) (exact : world.Exact frame) (opened : world.Open session module globals)
    (offers : world.Offers module globals service function) :
    after.Open session module (globals.insert name value.handle) ∧
      (after.Offers module (globals.insert name value.handle) service function ∨
        (globals.insert name value.handle).get? service.name = some value.handle) := by
  obtain ⟨now, taken, bound, kept, leads, alters, binds, settles⟩ := modifies
  have framed : world.Exact (0 + frame) := by rwa [zero_add]
  have exactNow : now.Exact (taken + frame) := leads.exact framed
  have exactBound : bound.Exact (kept + frame) := binds.exact exactNow
  have openedNow := opened.of_leads leads framed
  obtain ⟨offered, here, label, callable⟩ := offers.of_leads opened leads framed
  have recorded := alters.recorded openedNow
  obtain ⟨-, space, _, there⟩ := openedNow
  have openedBound : bound.Open session module (globals.insert name value.handle) :=
    ⟨recorded, space, moduleName, alters.changed⟩
  refine ⟨openedBound.of_leads settles exactBound, ?_⟩
  by_cases own : service.name = name
  · exact Or.inr (by rw [Bindings.get?_insert, if_pos own])
  · have offersBound : bound.Offers module (globals.insert name value.handle) service function :=
      ⟨by rwa [Bindings.get?_insert, if_neg own], here, label, alters.unchanged callable there nofun⟩
    exact Or.inl (offersBound.of_leads openedBound settles exactBound)

/-- Whatever attribute is set, a session is still open. Its module offers what it offered, unless the attribute is its
global for the service. -/
theorem Modifies.keeps_services
    (modifies : Modifies object (Guest.Space.withSettable (attributes.insert name value.handle) contents) (world, 0)
      (after, 0)) (exact : world.Exact frame) (stores : world.Stores session module function registry globals)
    (place : Guest.Space.settable contents = some attributes) (found : world.get? object = some contents) :
    ∃ globals', after.Open session module globals' ∧ (after.Offers module globals' .storeObject function ∨
      globals'.get? Registry.Service.storeObject.name = some value.handle) := by
  by_cases same : object = module
  · subst same
    obtain ⟨moduleName, there⟩ := stores.opened.object
    obtain rfl := Option.some.inj (found.symm.trans there)
    obtain rfl := Option.some.inj place
    exact ⟨_, modifies.keeps_open exact stores.opened stores.offers⟩
  · obtain ⟨storesAfter, -⟩ := modifies.keeps_stores exact stores place found same
    exact ⟨globals, storesAfter.opened, Or.inl storesAfter.offers⟩

end World

namespace Engine

open Act Bridge

variable (engine : Engine) {world between : World} {held : Multiset Ref} {session : Session} {object : Ref}
  {key : String} {proxy : HostValue} {contents : Guest.Object Code}

theorem run_target (exact : world.Exact held) (alive : world.aliveSession? session.id = some session)
    (proxyFor : ProxyFor session object key proxy) (home : object.space = session.space)
    (live : world.get? object = some contents) :
    (target session proxy).run world = (.ok object, world.retain object) := by
  obtain ⟨content, rfl, -, carried⟩ := proxyFor
  obtain ⟨space, handle⟩ := object
  obtain rfl : space = session.space := home
  obtain ⟨after, ran, -⟩ := run_acquire exact live
  obtain ⟨-, rfl, -⟩ := acquired_of_run ran
  unfold target
  rw [carried]
  exact run_dereference_eq_ok.mpr ⟨by rw [alive]; rfl, ran⟩

omit engine in
theorem exists_typeNameOf (exact : world.Exact held) (typed : (world.space session.space).Typed)
    (home : object.space = session.space) (live : world.get? object = some contents) :
    ∃ typeName, (world.space object.space).typeNameOf object.handle = .ok typeName :=
  ((exact.spaces object.space).closed (home ▸ typed)).exists_typeNameOf ⟨contents, live⟩ (exact.started_of_get? live)

/-- The value was converted and an attribute of the object set to what it was converted to. -/
structure Sets (session : Session) (object : Ref) (contents : Guest.Object Code) (names : List String) (name : String)
    (value : HostValue) (stored : Ref) (attributes : Bindings Handle) (world formed bound : World) : Prop where
  place : Guest.Space.settable contents = some attributes
  converted : World.Leads .temporary (world, 0) (formed, {stored})
  here : stored.space = session.space
  denotes : Denotes formed session value stored.handle
  there : ∃ object, formed.get? stored = some object
  set : (setattr session.space object ((findAttribute names name).getD name) stored).run formed = (.ok (), bound)

theorem run_assign (exact : world.Exact ({object} + held)) (typed : (world.space session.space).Typed)
    (home : object.space = session.space) (live : world.get? object = some contents) (names : List String)
    (message name : String) (arguments : List HostValue) :
    let ran := (engine.assign session object names message name arguments).run world
    (∃ error, ran.1 = .error error) ∧ World.Leads .temporary (world, 0) (ran.2, 0) ∨
      ∃ value rest attributes stored formed bound, arguments = value :: rest ∧
        Sets session object contents names name value stored attributes world formed bound ∧
          ran = (lending [stored] (engine.toHostOrProxy session stored)).run bound := by
  intro ran
  have framed : world.Exact (0 + ({object} + held)) := by rwa [zero_add]
  cases arguments with
  | nil => exact Or.inl ⟨⟨_, rfl⟩, .refl world 0⟩
  | cons value rest =>
    have balanced : Act.Balanced .temporary [] 0 (toGuest session value) ({·}) :=
      balanced_toGuestAt session 0 value []
    have unfolded : ran = (toGuest session value >>= fun converted => lending [converted] do
        asBridge (setattr session.space object ((findAttribute names name).getD name) converted)
        engine.toHostOrProxy session converted).run world := rfl
    rcases ranValue : (toGuest session value).run world with ⟨error | stored, formed⟩
    · rw [run_bind_error ranValue] at unfolded
      rw [unfolded]
      exact Or.inl ⟨⟨error, rfl⟩, balanced.leads_error framed ranValue⟩
    · have converted := balanced.leads_ok framed ranValue
      obtain ⟨⟨here, denotes⟩, -⟩ := denotes_of_run value exact ranValue
      have exactFormed : formed.Exact ({stored} + ({object} + held)) := converted.exact framed
      have liveFormed := (converted.extends exact).get? live
      rw [run_bind_ok ranValue] at unfolded
      cases place : Guest.Space.settable contents with
      | none =>
        obtain ⟨exception, refused⟩ := run_setattr_unsettable exactFormed liveFormed place
          ((findAttribute names name).getD name) stored
        rw [home] at refused
        have failed := run_bind_error (run_adapt_error Error.guest refused) fun _ => engine.toHostOrProxy session stored
        have unset : ran = (.error (.guest exception), formed.releaseAll [stored]) :=
          unfolded.trans (run_lending_of failed [stored])
        rw [unset]
        exact Or.inl ⟨⟨_, rfl⟩, World.Leads.giveBack [stored] (by rwa [add_zero]) exact⟩
      | some attributes =>
        have started := exactFormed.started_of_get? liveFormed
        have given : stored ∈ {stored} + ({object} + held) := by simp
        obtain ⟨value', there⟩ := exactFormed.exists_object given (by rwa [here, ← home])
        have named := exists_typeNameOf exactFormed (converted.typed typed) home liveFormed
        obtain ⟨bound, ranSet, -⟩ := run_setattr_held exactFormed place liveFormed named there (here.trans home.symm)
          (by simp) ((findAttribute names name).getD name)
        rw [home] at ranSet
        refine Or.inr ⟨value, rest, attributes, stored, formed, bound, rfl,
          ⟨place, converted, here, denotes, ⟨value', there⟩, ranSet⟩, ?_⟩
        have answers := run_bind_ok (run_adapt_ok Error.guest ranSet) fun _ => engine.toHostOrProxy session stored
        rw [run_lending, ← answers]
        exact unfolded

theorem Sets.modifies {names : List String} {name : String} {value : HostValue} {stored : Ref}
    {attributes : Bindings Handle} {formed bound : World}
    (sets : Sets session object contents names name value stored attributes world formed bound)
    (exact : world.Exact ({object} + held)) (typed : (world.space session.space).Typed)
    (home : object.space = session.space) (live : world.get? object = some contents) :
    let changed := Guest.Space.withSettable
      (attributes.insert ((findAttribute names name).getD name) stored.handle) contents
    World.Modifies object changed (formed, 0) (bound, 0) ∧ bound.get? object = some changed ∧
      ∀ ref kept, ref ≠ object → bound.get? ref = some kept → formed.get? ref = some kept := by
  obtain ⟨place, converted, here, -, ⟨bound', there⟩, set⟩ := sets
  have exactFormed : formed.Exact ({stored} + ({object} + held)) := converted.exact (by rwa [zero_add])
  have liveFormed := (converted.extends exact).get? live
  have named := exists_typeNameOf exactFormed (converted.typed typed) home liveFormed
  rw [← home] at set
  obtain ⟨_, ran, modifies, shown⟩ := run_setattr_held exactFormed place liveFormed named there (here.trans home.symm)
    (by simp) ((findAttribute names name).getD name)
  obtain ⟨-, rfl⟩ := Prod.mk.inj (set.symm.trans ran)
  exact ⟨modifies, shown, fun ref kept other found =>
    others_of_setattr exactFormed place liveFormed named there (here.trans home.symm) set other found⟩

theorem dir_of_extends (exact : world.Exact held) (typed : (world.space session.space).Typed)
    (home : object.space = session.space) (live : world.get? object = some contents) (grown : world.Extends between) :
    (between.space session.space).dir object.handle = (world.space session.space).dir object.handle := by
  have here := grown.spaces session.space
  have has : (world.space session.space).Has object.handle := ⟨contents, home ▸ live⟩
  exact ((exact.spaces session.space).closed typed).dir_eq here.sameObjects has (has.object_eq here)

theorem run_message (exact : world.Exact held) (typed : (world.space session.space).Typed)
    (alive : world.aliveSession? session.id = some session) (proxyFor : ProxyFor session object key proxy)
    (home : object.space = session.space) (live : world.get? object = some contents) {names : List String}
    (listed : (world.space session.space).dir object.handle = .ok names) (message : String)
    (arguments : List HostValue) :
    ∃ between, World.Leads .temporary (world, 0) (between, {object}) ∧
      (engine.callProxy session proxy message arguments).run world =
        (lending [object] ((assignedName? message).elim (engine.sendTo session object names message arguments)
          fun name => engine.assign session object names message name arguments)).run between := by
  have led := run_target exact alive proxyFor home live
  have taken := World.leads_retain .temporary (by rwa [zero_add]) (World.live_of_get? live)
  have listedTaken := (dir_of_extends exact typed home live (taken.extends exact)).trans listed
  obtain ⟨trace, ran⟩ := run_callProxy_listed engine arguments led listedTaken
  exact ⟨_, taken.trans (World.leads_trace _ _ trace), ran⟩

theorem run_assignment (exact : world.Exact held) (typed : (world.space session.space).Typed)
    (alive : world.aliveSession? session.id = some session) (proxyFor : ProxyFor session object key proxy)
    (home : object.space = session.space) (live : world.get? object = some contents) {names : List String}
    (listed : (world.space session.space).dir object.handle = .ok names) (name : String) (arguments : List HostValue) :
    let ran := (engine.callProxy session proxy (name ++ "=") arguments).run world
    (∃ error, ran.1 = .error error) ∧ world.Resembles ran.2 ∨
      ∃ value rest attributes stored between formed bound, arguments = value :: rest ∧
        World.Leads .temporary (world, 0) (between, {object}) ∧
          Sets session object contents names name value stored attributes between formed bound ∧
            ran = (lending [stored, object] (engine.toHostOrProxy session stored)).run bound := by
  intro ran
  obtain ⟨between, leads, ranCall⟩ :=
    engine.run_message exact typed alive proxyFor home live listed (name ++ "=") arguments
  rw [assignedName?_append_equals, Option.elim_some] at ranCall
  have exactBetween : between.Exact ({object} + held) := leads.exact (by rwa [zero_add])
  have liveBetween := (leads.extends exact).get? live
  rcases engine.run_assign exactBetween (leads.typed typed) home liveBetween names (name ++ "=") name arguments with
    ⟨⟨error, failed⟩, unset⟩ | ⟨value, rest, attributes, stored, formed, bound, given, sets, ranAssign⟩
  · rw [run_lending, failed] at ranCall
    have followed := leads.follow exact unset
    rw [zero_add, ← add_zero ({object} : Multiset Ref)] at followed
    have whole := World.Leads.giveBack [object] followed exact
    have unchanged : ran = (.error error, _) := ranCall
    rw [unchanged]
    exact Or.inl ⟨⟨error, rfl⟩, whole.resembles exact⟩
  · exact Or.inr ⟨value, rest, attributes, stored, _, formed, bound, given, leads, sets,
      ranCall.trans (run_lending_lending ranAssign [object])⟩

end Engine

end ObjectBridge

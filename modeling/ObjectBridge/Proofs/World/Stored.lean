import ObjectBridge.Proofs.Tracing.Opening
import ObjectBridge.Proofs.World.Identity
import ObjectBridge.Proofs.World.ImportedNames

/-!
Objects that were stored. Where the service that keeps objects has kept one, the registry is a dict, so that objects
can be kept from then on. It has one entry more then, and no attribute of any object has another value.
-/

namespace ObjectBridge

open Guest (Handle)

theorem Guest.Space.callee_of_uncallable {β : Type} {space : Guest.Space β} {handle : Handle} {object : Guest.Object β}
    (shown : space.object handle = .ok object) (uncallable : object.kind.isCallable = false) :
    ∃ exception, space.callee handle = .error exception := by
  unfold callee
  rw [shown]
  cases object with
  | function | boundMethod | typeObject => cases uncallable
  | _ => cases named : space.typeNameOf handle <;> exact ⟨_, by simp only [bind, Except.bind]; rfl⟩

namespace World

def Sheds (before after : World) : Prop :=
  ∀ ref object, object.kind ≠ .str → after.get? ref = some object → before.get? ref = some object

def Gathers (key : String) (value : Handle) (before after : World) : Prop :=
  ∀ ref object, object.kind ≠ .str → after.get? ref = some object → before.get? ref = some object ∨
    ∃ entries, before.get? ref = some (.dict entries) ∧ object = .dict (entries.insert key value)

section Sheds

variable {world first second third after : World} {key : String} {value : Handle}

theorem Sheds.of_fewer (fewer : ∀ ref object, after.get? ref = some object → world.get? ref = some object) :
    world.Sheds after :=
  fun ref object _ found => fewer ref object found

theorem Sheds.trans (one : first.Sheds second) (two : second.Sheds third) : first.Sheds third :=
  fun ref object kind found => one ref object kind (two ref object kind found)

theorem Sheds.of_spaces (same : after.spaces = world.spaces) : world.Sheds after :=
  .of_fewer fun ref object found => by rwa [get?, space, ← same]

theorem sheds_retain (world : World) (ref : Ref) : world.Sheds (world.retain ref) :=
  .of_fewer fun _ _ found => by rwa [get?_retain] at found

theorem sheds_retainAll (world : World) (refs : List Ref) : world.Sheds (world.retainAll refs) :=
  .of_fewer fun _ _ found => by rwa [get?_retainAll] at found

theorem sheds_releaseAll (world : World) (refs : List Ref) : world.Sheds (world.releaseAll refs) :=
  .of_fewer fun _ _ found => get?_of_releaseAll found

theorem Gathers.refl (key : String) (value : Handle) (world : World) : world.Gathers key value world :=
  fun _ _ _ found => Or.inl found

theorem Gathers.after_sheds (gathers : second.Gathers key value third) (sheds : first.Sheds second) :
    first.Gathers key value third := by
  intro ref object kind found
  rcases gathers ref object kind found with same | ⟨entries, dict, rfl⟩
  · exact Or.inl (sheds ref object kind same)
  · exact Or.inr ⟨entries, sheds ref _ nofun dict, rfl⟩

theorem Gathers.trans_sheds (gathers : first.Gathers key value second) (sheds : second.Sheds third) :
    first.Gathers key value third :=
  fun ref object kind found => gathers ref object kind (sheds ref object kind found)

theorem Gathers.get? {ref : Ref} {object : Guest.Object Code} (gathers : world.Gathers key value after)
    (dict : object.kind ≠ .dict) (text : object.kind ≠ .str) (found : after.get? ref = some object) :
    world.get? ref = some object := by
  rcases gathers ref object text found with same | ⟨_, -, rfl⟩
  · exact same
  · exact absurd rfl dict

theorem Alters.gathers {target : Ref} {entries : Bindings Handle} (there : world.get? target = some (.dict entries))
    (alters : world.Alters after target (.dict (entries.insert key value))) : world.Gathers key value after := by
  intro ref object _ found
  by_cases same : ref = target
  · subst same
    exact Or.inr ⟨entries, there, Option.some.inj (found.symm.trans alters.changed)⟩
  · exact Or.inl ((alters.others ref same).symm.trans found)

end Sheds

end World

namespace Act

variable {world after : World} {frame : Multiset Ref}

theorem sheds_newText {id : SpaceId} {text : String} {ref : Ref} (exact : world.Exact frame)
    (ran : (ownedBy id (Guest.Space.newText text)).run world = (.ok ref, after)) : world.Sheds after := by
  obtain ⟨space, ranSpace, -, -⟩ := run_ownedBy_eq_ok.mp ran
  have started : (world.space id).roots.isSome := (Guest.Space.allocate_eq_ok.mp ranSpace).1
  obtain ⟨_, _, ran', -, leads, new, made⟩ := run_newText exact started text
  obtain ⟨⟨⟩, rfl⟩ := Prod.mk.inj (ran.symm.trans ran')
  intro other object noText found
  obtain ⟨-, others⟩ := leads.cell?_of_new exact new made (List.forall_mem_nil _)
  have apart : other ≠ ref := by
    rintro rfl
    obtain rfl := Option.some.inj (found.symm.trans made)
    exact noText rfl
  obtain ⟨cell, here, rfl⟩ := Guest.Heap.cell_of_get? found
  obtain ⟨earlier, there, rfl⟩ := Option.map_eq_some_iff.mp ((others other apart).symm.trans here)
  exact Guest.Heap.get?_of_cell there

theorem global_of_getattr {module value : Ref} {name : String} {contents : Guest.ModuleObject}
    (exact : world.Exact frame) (found : world.get? module = some (.moduleObject contents))
    (ran : (getattr module.space module name).run world = (.ok value, after)) :
    contents.globals.get? name = some value.handle ∧ value.space = module.space ∧ after = world.retain value ∧
      ∃ object, world.get? value = some object := by
  have shown := exact.object_eq_ok found
  cases bound : contents.globals.get? name with
  | none =>
    have failed : (world.space module.space).findAttribute module.handle name =
        .error (.noGlobal contents.name name) := by
      rw [Guest.Space.findAttribute_eq_bind, Guest.Space.ownAttribute, shown]
      simp [bound, bind, Except.bind, throw, throwThe, MonadExceptOf.throw]
    cases (run_getattr_error failed).symm.trans ran
  | some handle =>
    rw [getattr, run_ownedBy, Guest.Space.run_getattr_plain (Guest.Space.findAttribute_global shown bound),
      ← run_ownedBy] at ran
    obtain ⟨rfl, rfl, there⟩ := Bridge.acquired_of_run ran
    exact ⟨rfl, rfl, rfl, there⟩

theorem dict_of_dictSet {id : SpaceId} {target value : Handle} {key : String} {object : Guest.Object Code}
    {nothing : Unit} (exact : world.Exact frame) (live : world.get? { space := id, handle := value } = some object)
    (ran : (onSpace id (Guest.Space.dictSet target key value)).run world = (.ok nothing, after)) :
    (∃ entries, world.get? { space := id, handle := target } = some (.dict entries)) ∧
      world.Gathers key value after := by
  obtain ⟨entries, dict⟩ : ∃ entries, world.get? { space := id, handle := target } = some (.dict entries) := by
    rw [run_onSpace] at ran
    rcases set : (Guest.Space.dictSet target key value).run (world.space id) with exception | ⟨_, space⟩
    all_goals rw [set] at ran
    · cases ran
    · obtain ⟨-, entries, found, -⟩ := Guest.Space.dictSet_eq_ok.mp set
      exact ⟨entries, (Guest.Space.object_eq_ok.mp found).2⟩
  obtain ⟨altered, ran', alters, -⟩ := run_dictSet exact dict live key
  obtain ⟨-, rfl⟩ := Prod.mk.inj (ran.symm.trans ran')
  exact ⟨⟨entries, dict⟩, (alters.gathers dict).trans_sheds (altered.sheds_releaseAll _)⟩

end Act

namespace Registry

open Act

variable {world after : World} {frame : Multiset Ref} {session : Session} {module value issued : Ref}
  {globals : Bindings Handle} {object : Guest.Object Code} {invocation : Invocation}

theorem registry_of_keep (opened : world.Open session module globals) (exact : world.Exact frame)
    (live : world.get? value = some object) (home : value.space = session.space)
    (space : invocation.space = session.space) (state : invocation.bound? = some module)
    (ran : (keep invocation value).run world = (.ok issued, after)) :
    (∃ registry : Ref, globals.get? registryGlobal = some registry.handle ∧ registry.space = module.space ∧
      ∃ entries, world.get? registry = some (.dict entries)) ∧ world.Gathers (keyOf value) value.handle after := by
  obtain ⟨moduleName, contents⟩ := opened.object
  unfold keep at ran
  obtain ⟨registry, _, ranRegistry, ran⟩ := run_bind_eq_ok.mp ran
  obtain ⟨_, entered, ranSet, ran⟩ := run_bind_eq_ok.mp ran
  obtain ⟨_, traced, ranTrace, ranText⟩ := run_bind_eq_ok.mp ran
  -- The registry is one of the globals.
  have bound : (liftM invocation.bound : GuestAct Ref).run world = (.ok module, world) := by
    simp only [Invocation.bound, state]
    exact run_lift _
  rw [registryOf, run_bind_ok bound, space, ← opened.space] at ranRegistry
  obtain ⟨named, here, rfl, _, there⟩ := global_of_getattr exact contents ranRegistry
  have taken := World.leads_retain .temporary (by rwa [zero_add]) (World.live_of_get? there)
  have exactTaken : (world.retain registry).Exact ({registry} + frame) := taken.exact (by rwa [zero_add])
  have balancedSet : Balanced .lasting [] {registry} (lending [registry]
      (onSpace invocation.space (Guest.Space.dictSet registry.handle (keyOf value) value.handle))) fun _ => 0 :=
    Balanced.lending (Balanced.onSpace (Guest.Space.balanced_dictSet _ _ _)) rfl
  have exactEntered := (balancedSet.leads_ok exactTaken ranSet).exact exactTaken
  have balancedTrace : Balanced .lasting [] 0 (traceLine invocation s!"store_object -> {keyOf value}") fun _ => 0 :=
    balanced_traceLine invocation _
  have exactTraced := (balancedTrace.leads_ok exactEntered ranTrace).exact exactEntered
  have text := sheds_newText exactTraced ranText
  obtain ⟨trace, ranTrace'⟩ := Engine.run_serviceTrace entered invocation s!"store_object -> {keyOf value}"
  obtain rfl : traced = { entered with trace } := (Prod.mk.inj (ranTrace.symm.trans ranTrace')).2
  obtain ⟨set, ranEntry, rfl⟩ := run_lending_eq_ok.mp ranSet
  have liveTaken : (world.retain registry).get? { space := invocation.space, handle := value.handle } = some object := by
    rw [space, ← home, World.get?_retain]
    exact live
  obtain ⟨⟨entries, dict⟩, gathers⟩ := dict_of_dictSet exactTaken liveTaken ranEntry
  have same : ({ space := invocation.space, handle := registry.handle } : Ref) = registry := by
    rw [space, ← opened.space, ← here]
  rw [same, World.get?_retain] at dict
  refine ⟨⟨registry, named, here, entries, dict⟩, ?_⟩
  have entry := (gathers.after_sheds (world.sheds_retain registry)).trans_sheds (set.sheds_releaseAll [registry])
  exact (entry.trans_sheds (.of_spaces rfl)).trans_sheds text

end Registry

namespace Engine

open Act Bridge

variable {engine : Engine} {world after : World} {frame : Multiset Ref} {session : Session}
  {module function value : Ref} {globals : Bindings Handle} {object : Guest.Object Code} {proxy : HostValue}

theorem stores_of_makeProxy (opened : world.Open session module globals)
    (offers : world.Offers module globals .storeObject function) (exact : world.Exact frame)
    (live : world.get? value = some object) (home : value.space = session.space)
    (ran : (engine.next.makeProxy session value).run world = (.ok proxy, after)) :
    (∃ registry, world.Stores session module function registry globals) ∧
      world.Gathers (Registry.keyOf value) value.handle after ∧ after.outside = world.outside := by
  unfold makeProxy at ran
  obtain ⟨issued, between, ranIssued, ran⟩ := run_bind_eq_ok.mp ran
  obtain ⟨wrapped, ranWrapped, rfl⟩ := run_lending_eq_ok.mp ran
  obtain ⟨text, read, ranText, ranProxy⟩ := run_bind_eq_ok.mp ranWrapped
  obtain ⟨wraps, holds⟩ : between.Sheds wrapped ∧ wrapped.outside = between.outside := by
    cases ranText
    split at ranProxy
    · rw [run_get_bind] at ranProxy
      cases ranProxy
    · rename_i key _
      obtain ⟨trace, ranTrace⟩ := run_traceLine (ε := Error) session.config 1 s!"proxy {key}" between
      rw [run_bind_ok ranTrace] at ranProxy
      cases ranProxy
      exact ⟨.of_spaces rfl, rfl⟩
  let invocation : Invocation :=
    { space := session.space, bound? := some module, arguments := [value], keywords := [] }
  obtain ⟨result, served, ranServed⟩ : ∃ result served, (Registry.serve engine .storeObject invocation).run
      (world.retainAll (heldBy module function [value])) = (result, served) := ⟨_, _, rfl⟩
  obtain ⟨answered, rfl⟩ := Prod.mk.inj
    ((run_registryCall engine opened offers exact [value] ranServed).symm.trans ranIssued)
  obtain rfl : result = .ok issued := by
    rcases result with exception | ref
    · cases answered
    · rw [Except.ok.inj answered]
  rw [run_serve_storeObject engine rfl] at ranServed
  have lives : ∀ ref ∈ [value], world.Live ref := by simpa using World.live_of_get? live
  have taken := leads_heldBy .temporary opened offers exact lives
  have framed : world.Exact (0 + frame) := by rwa [zero_add]
  obtain ⟨⟨registry, named, here, entries, dict⟩, gathers⟩ := Registry.registry_of_keep (opened.of_leads taken framed)
    (taken.exact framed) ((World.get?_retainAll _ _ _).trans live) home rfl rfl ranServed
  rw [World.get?_retainAll] at dict
  have stores : world.Stores session module function registry globals := ⟨opened, offers, named, here, entries, dict⟩
  have stored := (gathers.after_sheds (world.sheds_retainAll _)).trans_sheds
    (served.sheds_releaseAll (givenBack module function [value]))
  refine ⟨⟨registry, stores⟩, (stored.trans_sheds wraps).trans_sheds (wrapped.sheds_releaseAll [issued]), ?_⟩
  obtain ⟨_, _, ranStored, -, -, -, spaces, trace, rest⟩ := run_storeObject engine stores exact live home
  obtain ⟨-, same⟩ := Prod.mk.inj (ranIssued.symm.trans ranStored)
  rw [(wrapped.quiet_releaseAll [issued]).outside_eq, holds, same, rest]
  rfl

theorem not_registryCall_of_uncallable (engine : Engine) (opened : world.Open session module globals)
    (exact : world.Exact frame) {name : String} (bound : globals.get? name = some value.handle)
    (here : value.space = module.space) (live : world.get? value = some object)
    (uncallable : object.kind.isCallable = false) (arguments : List Ref) (answer : Ref) :
    ((engine.next.registryCall session name arguments).run world).1 ≠ .ok answer := by
  obtain ⟨moduleName, contents⟩ := opened.object
  have taken := World.leads_retain .temporary (by rwa [zero_add]) (opened.live exact)
  have exactTaken : (world.retain module).Exact ({module} + frame) := taken.exact (by rwa [zero_add])
  have liveTaken : (world.retain module).get? value = some object := by rwa [World.get?_retain]
  have fetched : (getattr value.space module name).run (world.retain module) =
      (.ok value, (world.retain module).retain value) :=
    run_getattr_global value exactTaken (by rwa [World.get?_retain]) bound here.symm liveTaken
  have liveValue : ((world.retain module).retain value).get? value = some object := by rwa [World.get?_retain]
  have exactValue : ((world.retain module).retain value).Exact ({value} + ({module} + frame)) :=
    (World.leads_retain .temporary (by rwa [zero_add]) (World.live_of_get? liveTaken)).exact (by rwa [zero_add])
  obtain ⟨exception, uncalled⟩ := Guest.Space.callee_of_uncallable (exactValue.object_eq_ok liveValue) uncallable
  have viewed : (onView value.space (·.callee value.handle)).run ((world.retain module).retain value) =
      (.error exception, (world.retain module).retain value) := by
    rw [run_onView, uncalled]
  have refused : (engine.next.call value.space value arguments []).run ((world.retain module).retain value) =
      (.error exception, (world.retain module).retain value) := by
    show (engine.callObject engine.runCode value.space value arguments []).run _ = _
    rw [callObject, run_bind_error viewed]
  rw [registryCall, run_bind_ok (run_moduleOf opened), run_lending, asBridge, run_adapt, callMethod, ← opened.space,
    ← here, run_bind_ok fetched, run_lending, refused]
  intro same
  cases same

end Engine

end ObjectBridge

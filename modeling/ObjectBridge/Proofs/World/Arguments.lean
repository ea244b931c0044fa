import ObjectBridge.Proofs.World.Meanings
import ObjectBridge.Proofs.World.RoundTrip

/-!
Arguments of a call by name. A value that is no array is passed alone, just as the array that has nothing else
in it would be: the same function is called with the same argument, while the same objects are live. Only a proxy
of a tuple is told apart: given alone, it stands for the items of the tuple.
-/

namespace ObjectBridge

open Guest (Extent Handle)

namespace Guest.Space

variable {β : Type} {space after : Space β} {handle other result : Handle} {name : String} {items : List Handle}

theorem started_of_getattr (ran : (getattr handle name).run space = .ok (result, after)) : space.roots.isSome := by
  obtain ⟨place, _, lookedUp, -⟩ := Op.run_bind_eq_ok.mp ran
  obtain ⟨found, rfl⟩ := Op.run_read_eq_ok.mp lookedUp
  obtain ⟨object, live⟩ := findAttribute_live found
  exact (object_eq_ok.mp live).1

theorem tuple_of_getattr (sound : space.heap.Sound) (ran : (getattr handle name).run space = .ok (result, after))
    (tuple : after.heap.get? other = some (.tuple items)) : space.heap.get? other = some (.tuple items) := by
  obtain ⟨place, _, lookedUp, ran⟩ := Op.run_bind_eq_ok.mp ran
  obtain ⟨-, rfl⟩ := Op.run_read_eq_ok.mp lookedUp
  cases place with
  | plain value =>
    obtain ⟨-, -, rfl⟩ := acquire_eq_ok.mp ran
    exact (Heap.get?_acquire _ _ _).symm.trans tuple
  | method function =>
    obtain ⟨_, between, modified, ran⟩ := Op.run_bind_eq_ok.mp ran
    obtain rfl := Op.run_modify_eq_ok.mp modified
    obtain ⟨-, -, rfl⟩ := allocate_eq_ok.mp ran
    have soundThen : (space.retainAll [handle, function]).heap.Sound := sound_retainAll sound _
    have shown := (Heap.get?_allocate soundThen (.boundMethod handle function) other).symm.trans tuple
    split at shown
    · cases shown
    · exact (get?_retainAll space [handle, function] other).symm.trans shown

end Guest.Space

namespace World

variable {world first second third : World} {frame : Multiset Ref} {ref : Ref}

/-- The later world differs from the earlier one by what was written to the trace, and by which slots are vacant. -/
structure Resembles (before after : World) : Prop where
  objects : before.SameObjects after
  tables : ∀ id, (after.space id).roots = (before.space id).roots ∧
    (after.space id).modules = (before.space id).modules ∧ (after.space id).definitions = (before.space id).definitions
  rest : ∃ spaces trace, after = { before with spaces, trace }

theorem Leads.resembles (leads : Leads .temporary (first, 0) (second, 0)) (exact : first.Exact frame) :
    first.Resembles second :=
  ⟨leads.restored exact, leads.tables, leads.rest_eq⟩

theorem resembles_trace (world : World) (trace : Array String) : world.Resembles { world with trace } :=
  ⟨fun _ _ => rfl, fun _ => ⟨rfl, rfl, rfl⟩, world.spaces, trace, rfl⟩

theorem Resembles.trans (one : first.Resembles second) (two : second.Resembles third) : first.Resembles third := by
  refine ⟨fun id handle => (two.objects id handle).trans (one.objects id handle), fun id => ?_, ?_⟩
  · obtain ⟨roots, modules, definitions⟩ := one.tables id
    obtain ⟨roots', modules', definitions'⟩ := two.tables id
    exact ⟨roots'.trans roots, modules'.trans modules, definitions'.trans definitions⟩
  · obtain ⟨_, _, rfl⟩ := one.rest
    exact two.rest

end World

namespace Act

variable {ε ε' α γ : Type}

def Untraced (act : Act ε α) : Prop :=
  ∀ world trace, ∃ trace', act.run { world with trace } =
    ((act.run world).1, { (act.run world).2 with trace := trace' })

theorem Untraced.throw (error : ε) : Untraced (throw error : Act ε α) :=
  fun _ trace => ⟨trace, rfl⟩

theorem Untraced.ownedBy (id : SpaceId) (operation : Guest.Op Code Handle) : Untraced (ownedBy id operation) := by
  intro world trace
  rw [run_ownedBy, run_ownedBy]
  have same : World.space { world with trace } id = world.space id := rfl
  rw [same]
  rcases operation.run (world.space id) with exception | ⟨handle, space⟩
  · exact ⟨trace, rfl⟩
  · exact ⟨trace, rfl⟩

theorem Untraced.adapt {act : Act ε α} (untraced : Untraced act) (restate : ε → ε') :
    Untraced (act.adapt restate) := by
  intro world trace
  obtain ⟨trace', ran⟩ := untraced world trace
  refine ⟨trace', ?_⟩
  rw [run_adapt, run_adapt, ran]

theorem Untraced.bind {act : Act ε α} {next : α → Act ε γ} (first : Untraced act)
    (rest : ∀ value, Untraced (next value)) : Untraced (act >>= next) := by
  intro world trace
  obtain ⟨between, ran⟩ := first world trace
  rw [run_bind, run_bind, ran]
  rcases act.run world with ⟨error | value, after⟩
  · exact ⟨between, rfl⟩
  · exact rest value after between

theorem Untraced.get_bind {next : World → Act ε α} (rest : ∀ world, Untraced (next world))
    (same : ∀ world trace, next { world with trace } = next world) : Untraced (get >>= next) := by
  intro world trace
  rw [run_get_bind, run_get_bind, same]
  exact rest world world trace

end Act

namespace Bridge

open Act

variable {world after : World} {session : Session} {frame : Multiset Ref} {ref : Ref} {value : HostValue}

theorem untraced_warn {ε : Type} (line : String) : Untraced (warn line : Act ε Unit) :=
  fun _ _ => ⟨_, rfl⟩

theorem untraced_dereference (session : Session) (reference : OpaqueReference) :
    Untraced (dereference session reference) := by
  refine .get_bind (fun world => ?_) fun _ _ => rfl
  extract_lets owner
  split
  · exact (Untraced.ownedBy _ _).adapt _
  · exact (untraced_warn _).bind fun _ => .throw _

theorem exists_conversion (session : Session) (single : ∀ items, value ≠ .array items) :
    ∃ convert : BridgeAct Ref, convert.Untraced ∧ ∀ depth, toGuestAt session depth value =
      traceLine session.config depth s!"to_guest {value.className}" >>= fun _ => convert := by
  cases value with
  | nil =>
    exact ⟨asBridge (ownedBy session.space Guest.Space.noneValue), (Untraced.ownedBy _ _).adapt _,
      fun depth => by rw [toGuestAt]⟩
  | text content =>
    exact ⟨asBridge (ownedBy session.space (Guest.Space.newText content)), (Untraced.ownedBy _ _).adapt _,
      fun depth => by rw [toGuestAt]⟩
  | array items => exact absurd rfl (single items)
  | object content =>
    refine ⟨_, ?_, fun depth => by rw [toGuestAt]⟩
    refine .get_bind (fun world => ?_) fun _ _ => rfl
    extract_lets host
    split
    · split
      · exact untraced_dereference session _
      · exact .throw _
    · exact .throw _

theorem run_toGuestAt_trace (session : Session) (single : ∀ items, value ≠ .array items) (depth depth' : Nat)
    (world : World) (trace : Array String) :
    ∃ trace', (toGuestAt session depth' value).run { world with trace } =
      (((toGuestAt session depth value).run world).1,
        { ((toGuestAt session depth value).run world).2 with trace := trace' }) := by
  obtain ⟨convert, untraced, same⟩ := exists_conversion session single
  obtain ⟨first, ranFirst⟩ := run_traceLine (ε := Error) session.config depth s!"to_guest {value.className}" world
  obtain ⟨second, ranSecond⟩ :=
    run_traceLine (ε := Error) session.config depth' s!"to_guest {value.className}" { world with trace }
  rw [same, same, run_bind_ok ranFirst, run_bind_ok ranSecond]
  obtain ⟨_, ran⟩ := untraced world first
  obtain ⟨trace', ran'⟩ := untraced world second
  exact ⟨trace', by rw [ran, ran']⟩

structure ProxyOfTuple (world : World) (session : Session) (value : HostValue) : Prop where
  family : (world.host session.host).isInstanceOfNamed value session.proxyClass.name
  leads : ∃ reference items, opaqueReference? value = some reference ∧
    (world.aliveSession? reference.session).map (·.id) = some session.id ∧
      world.get? { space := session.space, handle := reference.target } = some (.tuple items)

theorem proxyOfTuple_of_run {depth : Nat} {items : List Handle} (single : ∀ items, value ≠ .array items)
    (exact : world.Exact frame) (founded : (world.space session.space).Founded)
    (ran : (toGuestAt session depth value).run world = (.ok ref, after))
    (tuple : after.get? ref = some (.tuple items)) : ProxyOfTuple world session value := by
  unfold toGuestAt at ran
  obtain ⟨trace, ranTrace⟩ := run_traceLine (ε := Error) session.config depth s!"to_guest {value.className}" world
  rw [run_bind_ok ranTrace] at ran
  cases value with
  | nil =>
    obtain ⟨here, rfl, constant⟩ := constant_of_run (run_adapt_eq_ok.mp ran)
    rw [World.get?_retain] at tuple
    obtain ⟨roots, started, named⟩ := Option.bind_eq_some_iff.mp constant
    rw [roots_retain] at started
    have none : world.get? ref = some .none := by
      rw [World.get?, here, ← Option.some.inj named]
      exact founded.none roots started
    have same : World.get? { world with trace } ref = world.get? ref := rfl
    simp [same, none] at tuple
  | text content =>
    have same : (Guest.Space.newText content).run (world.space session.space) =
        (Guest.Space.allocate (.str content)).run ((world.space session.space).retainAll []) := rfl
    obtain ⟨-, found, -⟩ := made_of_run (exact.with_trace trace) same (run_adapt_eq_ok.mp ran)
    simp [found] at tuple
  | array items => exact absurd rfl (single items)
  | object content =>
    rw [run_get_bind] at ran
    extract_lets host at ran
    split at ran
    · rename_i reference carried
      split at ran
      · rename_i family
        obtain ⟨owner, ranTarget⟩ := run_dereference_eq_ok.mp ran
        obtain ⟨rfl, rfl, -⟩ := acquired_of_run ranTarget
        rw [World.get?_retain] at tuple
        exact ⟨family, reference, items, carried, owner, tuple⟩
      · cases ran
    · cases ran

end Bridge

namespace Engine

open Act Bridge

variable {world after : World} {session : Session} {frame : Multiset Ref} {ref : Ref} {value : HostValue}

theorem run_spread_alone (plain : (world.space ref.space).tuple? ref.handle = none) :
    (spread ref).run world = (.ok [ref], world) := by
  unfold spread itemsOf
  rw [run_bind, run_get_bind, plain]
  rfl

theorem run_spread_tuple {items : List Handle} (found : (world.space ref.space).tuple? ref.handle = some items) :
    (spread ref).run world = (.ok (items.map fun handle => { space := ref.space, handle }),
      (world.retainAll (items.map fun handle => { space := ref.space, handle })).release ref) := by
  unfold spread itemsOf
  rw [run_bind, run_get_bind, found]
  rfl

theorem exists_run_spread_single (exact : world.Exact ({ref} + frame))
    (started : (world.space session.space).roots.isSome) (here : ref.space = session.space) :
    ∃ after, (lending [ref] (asBridge (ownedBy session.space (Guest.Space.newTuple ([ref].map (·.handle))))) >>=
      spread).run world = (.ok [ref], after) ∧ world.Resembles after := by
  obtain ⟨tuple, lent, ranTuple⟩ : ∃ tuple after, (lending [ref] (asBridge (ownedBy session.space
      (Guest.Space.newTuple ([ref].map (·.handle)))))).run world = (.ok tuple, after) :=
    exists_run_lending_newTuple exact started (by simp [here])
  obtain ⟨made, ran, rfl⟩ := run_lending_eq_ok.mp ranTuple
  have ranMade := run_adapt_eq_ok.mp ran
  obtain ⟨_, ranSpace, -, -⟩ := run_ownedBy_eq_ok.mp ranMade
  have allocates := (Guest.Space.newTuple_eq_ok.mp ranSpace).2
  obtain ⟨home, found, -⟩ := made_of_run exact (ranSpace.trans allocates.symm) ranMade
  have balanced : Act.Balanced .temporary [] 0
      (ownedBy session.space (Guest.Space.newTuple ([ref].map (·.handle)))) ({·}) :=
    .ownedBy (Guest.Space.balanced_newTuple .temporary _)
  have leads := balanced.leads_ok (by rwa [zero_add]) ranMade
  have exactMade : made.Exact ({tuple} + ({ref} + frame)) := leads.exact (by rwa [zero_add])
  -- While the tuple is there, its item is given back and taken again.
  have same : (made.release ref).retain ref = made := by
    have reordered : made.Exact (ref ::ₘ ({tuple} + frame)) := by
      rwa [← Multiset.singleton_add, add_left_comm]
    obtain ⟨cell, shown, several⟩ := reordered.several_of_item found (here.trans home.symm) (by simp)
    exact World.retain_release_of_several (reordered.known ref (by simp)) shown several
  have listed : ((made.release ref).space tuple.space).tuple? tuple.handle = some [ref.handle] := by
    have kept : (made.release ref).get? tuple = some (.tuple [ref.handle]) := by
      rw [← World.get?_retain _ ref, same]
      exact found
    unfold World.get? at kept
    simp [Guest.Space.tuple?, kept]
  have ranSpread : (spread tuple).run (made.release ref) = (.ok [ref], made.release tuple) := by
    rw [run_spread_tuple listed]
    have item : ([ref.handle].map fun handle => ({ space := tuple.space, handle } : Ref)) = [ref] := by
      simp [home, ← here]
    rw [item]
    exact congrArg (fun world : World => (Except.ok [ref], world.release tuple)) same
  refine ⟨made.release tuple, (run_bind_ok ranTuple spread).trans ranSpread, ?_⟩
  have released : World.Leads .temporary (made, {tuple}) (made.release tuple, 0) :=
    World.leads_release .temporary (by rwa [← Multiset.singleton_add])
  exact (leads.trans released).resembles exact

def positional (session : Session) : Option HostValue → BridgeAct (List Ref)
  | none => return []
  | some value => toGuest session value >>= spread

def concludes (engine : Engine) (session : Session) (name : String) (module callable : Ref) (arguments : List Ref) :
    BridgeAct (Option HostValue) :=
  lending [module] <| lending [callable] <| lending arguments do
    let result ← asBridge (engine.call session.space callable arguments [])
    lending [result] do
      if (← kindOf result) = some .none then
        traceLine session.config 0 s!"call_function {name} -> None"
        return none
      else return some (← toHost session result)

theorem tuples_of_run_getattr {id : SpaceId} {module callable : Ref} {name : String} (exact : world.Exact frame)
    (ran : (getattr id module name).run world = (.ok callable, after)) :
    (world.space id).roots.isSome ∧
      ∀ ref items, after.get? ref = some (.tuple items) → world.get? ref = some (.tuple items) := by
  obtain ⟨space, ranSpace, -, rfl⟩ := run_ownedBy_eq_ok.mp ran
  have started := Guest.Space.started_of_getattr ranSpace
  refine ⟨started, fun ref items tuple => ?_⟩
  rw [World.get?, World.space_setSpace (World.known_of_started started)] at tuple
  split at tuple
  · rename_i same
    rw [World.get?, same]
    exact Guest.Space.tuple_of_getattr ((exact.spaces id).started started).sound ranSpace tuple
  · exact tuple

theorem leads_of_failed {name : String} {argument : Option HostValue} {error : Error} (exact : world.Exact frame)
    (failed : ∀ engine : Engine, (engine.callFunction session name argument).run world = (.error error, after)) :
    World.Leads .temporary (world, 0) (after, 0) := by
  have settles : Settles .temporary world 0 (exhausted.callFunction session name argument) fun _ => 0 :=
    settles_callFunction (by rwa [zero_add]) session name argument fun _ _ _ _ _ => .throw _
  rwa [Settles, failed exhausted] at settles

structure Fetched (session : Session) (name : String) (module callable : Ref) (world found : World) : Prop where
  binds : world.Binds session name callable
  leads : World.Leads .temporary (world, 0) (found, {callable} + {module})
  started : (found.space session.space).roots.isSome
  tuples : ∀ ref items, found.get? ref = some (.tuple items) → world.get? ref = some (.tuple items)

theorem run_callFunction (session : Session) (name : String) (exact : world.Exact frame) :
    (∃ error after, ∀ (engine : Engine) argument,
      (engine.callFunction session name argument).run world = (.error error, after)) ∨
    ∃ module callable found, Fetched session name module callable world found ∧ ∀ (engine : Engine) argument,
      (engine.callFunction session name argument).run world =
        match (positional session argument).run found with
        | (.ok arguments, before) => (engine.concludes session name module callable arguments).run before
        | (.error error, after) => (.error error, (after.release callable).release module) := by
  obtain ⟨trace, ranTrace⟩ := run_traceLine (ε := Error) session.config 0 s!"call_function {name}" world
  have exactTrace := exact.with_trace trace
  simp only [callFunction, run_bind_ok ranTrace]
  rcases ranModule : (moduleOf session).run { world with trace } with ⟨error | module, held⟩
  · exact Or.inl ⟨error, held, fun engine argument => run_bind_error ranModule _⟩
  have balancedModule : Act.Balanced .temporary [] 0 (moduleOf session) ({·}) := balanced_moduleOf session
  have leadsModule := balancedModule.leads_ok (by rwa [zero_add]) ranModule
  have exactModule : held.Exact ({module} + frame) := leadsModule.exact (by rwa [zero_add])
  simp only [run_bind_ok ranModule, run_lending]
  rcases ranCallable : ((getattr session.space module name).adapt fun exception =>
      if exception.isAttributeError then Error.functionNotFound name else .guest exception).run held
    with ⟨error | callable, found⟩
  · exact Or.inl ⟨error, found.releaseAll [module], fun engine argument => by rw [run_bind_error ranCallable]⟩
  simp only [run_bind_ok ranCallable, run_lending]
  have fetched : Fetched session name module callable world found := by
    have ranFound := run_adapt_eq_ok.mp ranCallable
    have balanced : Act.Balanced .temporary [] 0 (getattr session.space module name) ({·}) := balanced_getattr module name
    have leadsCallable := balanced.leads_ok (by rwa [zero_add]) ranFound
    obtain ⟨started, tuples⟩ := tuples_of_run_getattr exactModule ranFound
    refine ⟨binds_of_run ranTrace ranModule ranCallable,
      (World.leads_trace world 0 trace).trans (leadsModule.follow exactTrace leadsCallable), ?_, fun ref items tuple => ?_⟩
    · rwa [leadsCallable.roots_eq]
    · have shown := tuples ref items tuple
      obtain ⟨-, rfl⟩ := run_moduleOf_eq_ok.mp ranModule
      rwa [World.get?_retain] at shown
  have ranCheck : (isCallable callable).run found =
      (.ok ((((found.space callable.space).kind? callable.handle).map (·.isCallable)).getD false), found) := rfl
  simp only [run_bind_ok ranCheck]
  cases (((found.space callable.space).kind? callable.handle).map (·.isCallable)).getD false with
  | false =>
    let warned : World := ((warn s!"{name} is not callable" : BridgeAct Unit).run found).2
    exact Or.inl ⟨.functionNotFound name, (warned.release callable).release module, fun engine argument => rfl⟩
  | true =>
    refine Or.inr ⟨module, callable, found, fetched, fun engine argument => ?_⟩
    cases argument with
    | none => rfl
    | some value =>
      simp only [Bool.not_true, Bool.false_eq_true, if_false]
      rw [← bind_assoc, run_bind]
      have same : (positional session (some value)).run found = (toGuest session value >>= spread).run found := rfl
      rw [same]
      rcases (toGuest session value >>= spread).run found with ⟨error | arguments, before⟩ <;> rfl

theorem run_positional_single (session : Session) (value : HostValue) (world : World) :
    ∃ trace, (positional session (some (.array [value]))).run world =
      match (toGuestAt session 1 value).run { world with trace } with
      | (.ok ref, between) => (lending [ref] (asBridge (ownedBy session.space
          (Guest.Space.newTuple ([ref].map (·.handle))))) >>= spread).run between
      | (.error error, after) => (.error error, after) := by
  let listed : HostValue := .array [value]
  obtain ⟨trace, ranTrace⟩ := run_traceLine (ε := Error) session.config 0 s!"to_guest {listed.className}" world
  refine ⟨trace, ?_⟩
  unfold positional toGuest
  dsimp only
  rw [toGuestAt, bind_assoc, run_bind_ok ranTrace, itemsToGuest, bind_assoc, bind_assoc, run_bind, run_onFailure]
  rcases (toGuestAt session (0 + 1) value).run { world with trace } with ⟨error | ref, between⟩
  · rfl
  · rfl

theorem positional_single_alike (exact : world.Exact frame) (founded : (world.space session.space).Founded)
    (started : (world.space session.space).roots.isSome) (single : ∀ items, value ≠ .array items)
    (scalar : ¬ProxyOfTuple world session value) :
    (∃ error after after', (positional session (some value)).run world = (.error error, after) ∧
      (positional session (some (.array [value]))).run world = (.error error, after')) ∨
    ∃ argument before before', (positional session (some value)).run world = (.ok [argument], before) ∧
      (positional session (some (.array [value]))).run world = (.ok [argument], before') ∧
        argument.space = session.space ∧ Denotes before session value argument.handle ∧ before.Resembles before' := by
  obtain ⟨trace, ranListed⟩ := run_positional_single session value world
  obtain ⟨trace', ranItem⟩ := run_toGuestAt_trace session single 0 1 world trace
  rw [ranListed, ranItem]
  rcases ran : (toGuestAt session 0 value).run world with ⟨error | argument, before⟩
  · exact Or.inl ⟨error, before, _, run_bind_error ran _, rfl⟩
  have balanced : Act.Balanced .temporary [] 0 (toGuestAt session 0 value) ({·}) :=
    balanced_toGuestAt session 0 value []
  have leads : World.Leads .temporary (world, 0) (before, {argument}) := balanced.leads_ok (by rwa [zero_add]) ran
  have exactBefore : before.Exact ({argument} + frame) := leads.exact (by rwa [zero_add])
  obtain ⟨⟨here, denotes⟩, -⟩ := denotes_of_run value exact ran
  have startedBefore : (before.space session.space).roots.isSome := by rwa [leads.roots_eq]
  obtain ⟨before', ranTuple, resembles⟩ :=
    exists_run_spread_single (exactBefore.with_trace trace') startedBefore here
  have plain : (before.space argument.space).tuple? argument.handle = none := by
    unfold Guest.Space.tuple?
    split
    · rename_i items tuple
      exact absurd (proxyOfTuple_of_run single exact founded ran tuple) scalar
    · rfl
  have ranAlone : (positional session (some value)).run world = (.ok [argument], before) :=
    (run_bind_ok ran spread).trans (run_spread_alone plain)
  exact Or.inr ⟨argument, before, before', ranAlone, ranTuple, here, denotes,
    (World.resembles_trace before trace').trans resembles⟩

theorem Fetched.proxyOfTuple {name : String} {module callable : Ref} {found : World}
    (fetched : Fetched session name module callable world found) (proxied : ProxyOfTuple found session value) :
    ProxyOfTuple world session value := by
  obtain ⟨spaces, trace, rest⟩ := fetched.leads.rest_eq
  obtain ⟨family, reference, items, carried, owner, tuple⟩ := proxied
  refine ⟨?_, reference, items, carried, ?_, fetched.tuples _ _ tuple⟩
  · rw [rest] at family
    exact family
  · rw [rest] at owner
    exact owner

/-- The calls by name with the one and with the other both fail with the same error before anything is called, or
both call the same function, once and with the same argument, which stands for the first; its answer is treated alike.
Whatever is called finds the same objects. -/
def CallsAlike (world : World) (session : Session) (name : String) (value other : HostValue) : Prop :=
  (∃ error after after', world.Resembles after ∧ world.Resembles after' ∧ ∀ engine : Engine,
    (engine.callFunction session name (some value)).run world = (.error error, after) ∧
      (engine.callFunction session name (some other)).run world = (.error error, after')) ∨
  ∃ module callable argument before before', world.Binds session name callable ∧ argument.space = session.space ∧
    Denotes before session value argument.handle ∧ before.Resembles before' ∧ ∀ engine : Engine,
      (engine.callFunction session name (some value)).run world =
          (engine.concludes session name module callable [argument]).run before ∧
        (engine.callFunction session name (some other)).run world =
          (engine.concludes session name module callable [argument]).run before'

/-- What is no array, and no proxy of a tuple, is passed like the array that has only that in it. -/
theorem single_argument_calls_alike {held : Multiset Ref} (reached : World.Leads .lasting (.empty, 0) (world, held))
    (session : Session) (name : String) (single : ∀ items, value ≠ .array items)
    (scalar : ¬ProxyOfTuple world session value) : CallsAlike world session name value (.array [value]) := by
  have exactEmpty : World.empty.Exact (0 + 0) := World.exact_empty
  have exact : world.Exact held := by simpa using reached.exact exactEmpty
  have founded : (world.space session.space).Founded := reached.founded exactEmpty (World.founded_empty _)
  have resembles {argument : HostValue} {error : Error} {after : World}
      (failed : ∀ engine : Engine, (engine.callFunction session name (some argument)).run world = (.error error, after)) :
      world.Resembles after :=
    (leads_of_failed exact failed).resembles exact
  rcases run_callFunction session name exact with ⟨error, after, failed⟩ | ⟨module, callable, found, fetched, ran⟩
  · exact Or.inl ⟨error, after, after, resembles fun engine => failed engine (some value),
      resembles fun engine => failed engine (some value), fun engine => ⟨failed _ _, failed _ _⟩⟩
  have exactFound : found.Exact ({callable} + {module} + held) := fetched.leads.exact (by rwa [zero_add])
  have foundedFound := fetched.leads.founded (by rwa [zero_add]) founded
  rcases positional_single_alike exactFound foundedFound fetched.started single
      (mt fetched.proxyOfTuple scalar) with
    ⟨error, after, after', ranAlone, ranListed⟩ | ⟨argument, before, before', ranAlone, ranListed, here, denotes, alike⟩
  · have failed (engine : Engine) : (engine.callFunction session name (some value)).run world =
        (.error error, (after.release callable).release module) := by
      rw [ran, ranAlone]
    have failed' (engine : Engine) : (engine.callFunction session name (some (.array [value]))).run world =
        (.error error, (after'.release callable).release module) := by
      rw [ran, ranListed]
    exact Or.inl ⟨error, _, _, resembles failed, resembles failed', fun engine => ⟨failed engine, failed' engine⟩⟩
  · refine Or.inr ⟨module, callable, argument, before, before', fetched.binds, here, denotes, alike, fun engine => ⟨?_, ?_⟩⟩
    · rw [ran, ranAlone]
    · rw [ran, ranListed]

/-- A string is passed to a service of a session that was just opened. -/
theorem single_argument_calls_alike_text :
    let world := Console.opened
    let session := Console.openedState.session
    (((ofDepth 1).callFunction session "store_object" (some (.text "x"))).run world).1.isOk ∧
      CallsAlike world session "store_object" (.text "x") (.array [.text "x"]) := by
  intro world session
  have reached : World.Leads .lasting (.empty, 0) (world, 0) :=
    Console.leads_after (balanced_ofDepth 1) _ World.exact_empty
  refine ⟨by decide +kernel, single_argument_calls_alike reached session _ nofun fun proxied => ?_⟩
  obtain ⟨-, reference, items, carried, -⟩ := proxied
  cases carried

def counting : Engine :=
  { exhausted with call := fun _ _ arguments _ => throw (.missingArgument arguments.length 0) }

/-- A proxy of a tuple stands for the items of the tuple when it is given alone. -/
theorem tuple_proxy_is_spread :
    let world := Console.after (.ofDepth 2) [Console.opening "s",
      { action := .session (.makeProxy (.tuple [.text "a", .text "b"])), place := some "s", host := "", result := some "p"
        keyed := false }] .empty
    ∃ state value, world.session? { index := 0 } = some state ∧ (world.aliveSession? state.session.id).isSome ∧
      world.registerHost? "p" = some value ∧ (∀ items, value ≠ .array items) ∧
        ¬CallsAlike world state.session "store_object" value (.array [value]) := by
  intro world
  let state := (world.session? { index := 0 }).get (by decide +kernel)
  let value := (world.registerHost? "p").get (by decide +kernel)
  obtain ⟨alive, object, alone, listed⟩ : (world.aliveSession? state.session.id).isSome ∧ value.object?.isSome ∧
      ((counting.callFunction state.session "store_object" (some value)).run world).1.map (fun _ => ()) =
        .error (.guest (.missingArgument 2 0)) ∧
      ((counting.callFunction state.session "store_object" (some (.array [value]))).run world).1.map (fun _ => ()) =
        .error (.guest (.missingArgument 1 0)) := by
    decide +kernel
  refine ⟨state, value, (Option.some_get _).symm, alive, (Option.some_get _).symm, fun items same => ?_, ?_⟩
  · simp [same, Host.Value.object?] at object
  rintro (⟨error, after, after', -, -, failed⟩ | ⟨module, callable, argument, before, before', -, -, -, -, ran⟩)
  · obtain ⟨ranAlone, ranListed⟩ := failed counting
    rw [ranAlone] at alone
    rw [ranListed] at listed
    simpa using alone.symm.trans listed
  · rw [(ran counting).1] at alone
    cases alone

end Engine

end ObjectBridge

import ObjectBridge.Proofs.Space.Rebinding
import ObjectBridge.Proofs.World.Publication

/-!
What names mean. A definition gives a module one global more. Names lead where they led before it, but for those
that lead to a builtin whose name the class has taken: globals go before builtins.
-/

namespace ObjectBridge

open Guest (Extent Handle)

namespace Registry

open Engine (Free)

section Names

variable {names more : List String} {other wanted known : String} {globals : Bindings Handle} {className : String}
  {value : Handle}

theorem findName_of_perm (perm : more.Perm (other :: names)) (unlike : Text.lowercase wanted ≠ Text.lowercase other)
    {found : Option String} (finds : findName names wanted = .ok found) : findName more wanted = .ok found := by
  have apart : wanted ≠ other := fun same => unlike (by rw [same])
  have filtered : (more.filter fun name => Text.lowercase name == Text.lowercase wanted).Perm
      (names.filter fun name => Text.lowercase name == Text.lowercase wanted) := by
    have kept := perm.filter fun name => Text.lowercase name == Text.lowercase wanted
    rwa [List.filter_cons_of_neg (by simpa using unlike.symm)] at kept
  unfold findName at finds ⊢
  by_cases listed : wanted ∈ names
  · rw [if_pos listed] at finds
    rwa [if_pos (perm.mem_iff.mpr (List.mem_cons_of_mem _ listed))]
  · have unlisted : wanted ∉ more := fun member => (List.mem_cons.mp (perm.mem_iff.mp member)).elim apart listed
    rw [if_neg listed] at finds
    rw [if_neg unlisted]
    dsimp only at finds ⊢
    split at finds
    · rename_i empty
      rw [empty] at filtered
      rwa [List.perm_nil.mp filtered]
    · rename_i single
      rw [single] at filtered
      rwa [List.perm_singleton.mp filtered]
    · cases finds

theorem listed_of_findName (finds : findName names wanted = .ok (some known)) :
    known ∈ names ∧ Text.lowercase known = Text.lowercase wanted := by
  unfold findName at finds
  split at finds
  · rename_i listed
    obtain rfl : wanted = known := Option.some.inj (Except.ok.inj finds)
    exact ⟨listed, rfl⟩
  · dsimp only at finds
    split at finds
    · cases finds
    · rename_i found single
      obtain rfl : found = known := Option.some.inj (Except.ok.inj finds)
      have member : found ∈ names.filter fun name => Text.lowercase name == Text.lowercase wanted := by simp [single]
      simpa using member
    · cases finds

variable (free : Free globals className)
include free

theorem names_insert : (globals.insert className value).names.Perm (className :: globals.names) := by
  have perm := (Bindings.entries_insert_perm globals className value).map (·.1)
  rwa [Bindings.erase_of_none free.get?_eq_none] at perm

theorem findName_insert (finds : findName globals.names wanted = .ok (some known)) :
    findName (globals.insert className value).names wanted = .ok (some known) := by
  obtain ⟨listed, alike⟩ := listed_of_findName finds
  obtain ⟨bound, here⟩ := Bindings.mem_names.mp listed
  exact findName_of_perm (names_insert free) (alike ▸ free known bound here) finds

theorem longestGlobal_insert (identifier : Text.isIdentifier className = true) {segments : List String} {count : Nat}
    (enough : count ≤ segments.length) {found : Option (String × Nat)}
    (longest : longestGlobal globals.names segments count = .ok found)
    (unlike : found = none → ∀ first ∈ segments.head?, Text.lowercase first ≠ Text.lowercase className) :
    longestGlobal (globals.insert className value).names segments count = .ok found := by
  induction count with
  | zero => exact longest
  | succ count ih =>
    unfold longestGlobal at longest ⊢
    rcases finds : findName globals.names (Text.dotted (segments.take (count + 1))) with exception | _ | known
    all_goals simp only [finds, bind, Except.bind] at longest
    · cases longest
    · have apart : Text.lowercase (Text.dotted (segments.take (count + 1))) ≠ Text.lowercase className := by
        cases segments with
        | nil => simp at enough
        | cons first rest =>
          cases count with
          | zero =>
            -- Only the first segment is left, and it is spelled otherwise.
            obtain rfl : found = none := (Except.ok.inj longest).symm
            simpa [Text.dotted] using unlike rfl first rfl
          | succ count =>
            -- What is joined has a point in it, and no identifier has.
            intro same
            refine Text.point_not_mem_of_isIdentifier identifier (Text.point_mem_lowercase.mp ?_)
            rw [← same, Text.point_mem_lowercase]
            cases rest with
            | nil => simp at enough
            | cons second rest => simp [Text.dotted]
      have perm : (globals.insert className value).names.Perm _ := names_insert free
      have unfound := findName_of_perm perm apart finds
      simp only [unfound, bind, Except.bind]
      exact ih (by omega) longest
    · simp only [findName_insert free finds, bind, Except.bind]
      exact longest

omit free in
theorem longestGlobal_mem {segments : List String} {count taken : Nat}
    (longest : longestGlobal globals.names segments count = .ok (some (known, taken))) : known ∈ globals.names := by
  induction count with
  | zero => cases longest
  | succ count ih =>
    unfold longestGlobal at longest
    rcases finds : findName globals.names (Text.dotted (segments.take (count + 1))) with exception | _ | found
    all_goals simp only [finds, bind, Except.bind] at longest
    · cases longest
    · exact ih longest
    · cases longest
      exact (listed_of_findName finds).1

end Names

def Found.Has (base : Space) : Found → Prop
  | .object handle => base.Has handle
  | .method .. => True

theorem has_builtinNamed {base : Space} {held : Multiset Handle} (exact : base.Exact held) {name : String}
    {found : Found} (named : builtinNamed base name = .ok found) : found.Has base := by
  unfold builtinNamed at named
  rcases finds : findName Guest.Space.builtinNames name with exception | known
  · simp [finds, bind, Except.bind] at named
  rcases builtin : known.bind base.builtin? with _ | handle
  · simp [finds, builtin, bind, Except.bind, throw, throwThe, MonadExceptOf.throw] at named
  · obtain rfl : .object handle = found := by
      simpa [finds, builtin, bind, Except.bind, pure, Except.pure] using named
    obtain ⟨global, -, here⟩ := Option.bind_eq_some_iff.mp builtin
    exact exact.has_builtin here

section Rebound

variable {base space : Space} {module : Handle} {found next : Found} (closed : base.Closed)
  (rebinds : base.Rebinds space module)
include closed rebinds

theorem namesOf_rebound (has : found.Has base) (other : found ≠ .object module) :
    namesOf space found = namesOf base found := by
  cases found with
  | object handle =>
    exact closed.dir_eq rebinds.sameObjects has (rebinds.object_eq has fun same => other (by rw [same]))
  | method found function =>
    unfold namesOf Guest.Space.rootsNow
    rw [rebinds.roots]
    rcases started : base.roots with _ | roots
    · rfl
    · have hasType := closed.types roots started .boundMethod
      simp only [bind, Except.bind, closed.inheritedNames_eq rebinds.sameTypes hasType]

theorem attributeOf_rebound (has : found.Has base) (other : found ≠ .object module) (name : String) :
    attributeOf space name found = attributeOf base name found := by
  cases found with
  | object handle =>
    exact closed.findAttribute_eq rebinds.sameObjects has (rebinds.object_eq has fun same => other (by rw [same])) name
  | method found function =>
    rw [attributeOf_method, attributeOf_method, Guest.Space.rootsNow, Guest.Space.rootsNow, rebinds.roots]
    rcases started : base.roots with _ | roots
    · rfl
    · exact closed.inheritedAttribute_eq rebinds.sameObjects (closed.types roots started .boundMethod) name

omit rebinds in
theorem has_ofAttribute {name : String} {place : Guest.Attribute} (shown : attributeOf base name found = .ok place) :
    (found.ofAttribute place).Has base := by
  cases place with
  | plain value => exact has_of_attributeOf closed shown
  | method function => trivial

variable {globals : Bindings Handle} {moduleName moduleName' className : String} {type : Handle}
  (earlier : base.object module = .ok (.moduleObject { name := moduleName, globals }))
  (later : space.object module = .ok (.moduleObject { name := moduleName', globals := globals.insert className type }))
  (free : Engine.Free globals className)
include earlier later free

omit closed rebinds in
theorem attributeOf_global {name : String} (listed : name ∈ globals.names) :
    attributeOf space name (.object module) = attributeOf base name (.object module) := by
  obtain ⟨value, bound⟩ := Bindings.mem_names.mp listed
  have other : name ≠ className := fun same => free name value bound (by rw [same])
  have bound' : (globals.insert className type).get? name = some value := by
    rwa [Bindings.get?_insert, if_neg other]
  exact (Guest.Space.findAttribute_global later bound').trans (Guest.Space.findAttribute_global earlier bound).symm

theorem stepped_rebound (has : found.Has base) {name segment : String}
    (led : stepped base name segment found = .ok next) :
    stepped space name segment found = .ok next ∧ next.Has base := by
  unfold stepped at led ⊢
  rcases named : namesOf base found with exception | names
  · simp [named, bind, Except.bind] at led
  rcases finds : findName names segment with exception | _ | known
  · simp [named, finds, bind, Except.bind] at led
  · simp [named, finds, bind, Except.bind, throw, throwThe, MonadExceptOf.throw] at led
  rcases shown : attributeOf base known found with exception | place
  · simp [named, finds, shown, bind, Except.bind, Except.map] at led
  obtain rfl : found.ofAttribute place = next := by
    simpa [named, finds, shown, bind, Except.bind, Except.map] using led
  refine ⟨?_, has_ofAttribute closed shown⟩
  by_cases same : found = .object module
  · subst same
    obtain rfl : globals.names = names := Except.ok.inj ((Guest.Space.dir_module earlier).symm.trans named)
    have names' : namesOf space (.object module) = .ok (globals.insert className type).names :=
      Guest.Space.dir_module later
    have finds' : findName (globals.insert className type).names segment = .ok (some known) := findName_insert free finds
    have shown' := attributeOf_global earlier later free (listed_of_findName finds).1
    simp only [names', finds', shown', shown, bind, Except.bind, Except.map]
  · simp only [namesOf_rebound closed rebinds has same, attributeOf_rebound closed rebinds has same, named, finds, shown,
      bind, Except.bind, Except.map]

theorem followed_rebound {name : String} {segments : List String} (has : found.Has base)
    (led : followed base name found segments = .ok next) : followed space name found segments = .ok next := by
  induction segments generalizing found with
  | nil => exact led
  | cons segment rest ih =>
    unfold followed at led ⊢
    rcases stepping : stepped base name segment found with exception | between
    · simp [stepping, bind, Except.bind] at led
    · obtain ⟨stepping', hasBetween⟩ := stepped_rebound closed rebinds earlier later free has stepping
      simp only [stepping, bind, Except.bind] at led
      simp only [stepping', bind, Except.bind]
      exact ih hasBetween led

theorem resolved_rebound {held : Multiset Handle} (exact : base.Exact held)
    (identifier : Text.isIdentifier className = true) {name : String} (led : resolved base module name = .ok found)
    (kept : longestGlobal globals.names (Text.segments name) (Text.segments name).length = .ok none →
      ∀ first ∈ (Text.segments name).head?, Text.lowercase first ≠ Text.lowercase className) :
    resolved space module name = .ok found := by
  have names : namesOf base (.object module) = .ok globals.names := Guest.Space.dir_module earlier
  have names' : namesOf space (.object module) = .ok (globals.insert className type).names :=
    Guest.Space.dir_module later
  unfold resolved at led ⊢
  split at led
  · cases led
  rename_i nonempty
  rw [if_neg nonempty]
  simp only [names, bind, Except.bind] at led
  simp only [names', bind, Except.bind]
  rcases longest : longestGlobal globals.names (Text.segments name) (Text.segments name).length with exception | result
  · simp [longest] at led
  have longest' : longestGlobal (globals.insert className type).names (Text.segments name) (Text.segments name).length =
      .ok result := longestGlobal_insert free identifier le_rfl longest fun none => kept (none ▸ longest)
  simp only [longest] at led
  simp only [longest']
  cases result with
  | none =>
    -- The name leads to a builtin, before and after: the new global does not get in between.
    have builtin (name : String) : builtinNamed space name = builtinNamed base name := by
      have same : space.builtin? = base.builtin? := funext fun _ => by simp only [Guest.Space.builtin?, rebinds.roots]
      unfold builtinNamed
      rw [same]
    dsimp only at led ⊢
    rw [builtin]
    rcases named : builtinNamed base ((Text.segments name).head?.getD "") with exception | start
    · simp [named] at led
    · simp only [named] at led ⊢
      exact followed_rebound closed rebinds earlier later free (has_builtinNamed exact named) led
  | some taken =>
    obtain ⟨global, count⟩ := taken
    have listed : global ∈ globals.names := longestGlobal_mem longest
    dsimp only at led ⊢
    rw [attributeOf_global earlier later free listed]
    rcases shown : attributeOf base global (.object module) with exception | place
    · simp [shown, Except.map] at led
    · simp only [shown, Except.map] at led ⊢
      exact followed_rebound closed rebinds earlier later free (has_ofAttribute closed shown) led

end Rebound

end Registry

namespace World

/-- References, each of its world, have the same meaning: they are to one object that was there before both, or to
bound methods of one function for receivers that have the same meaning. -/
inductive SameMeaning (base world after : World) : Ref → Ref → Prop
  | object {ref : Ref} {object : Guest.Object Code} (there : base.get? ref = some object) :
      SameMeaning base world after ref ref
  | method {ref ref' : Ref} {receiver receiver' function : Handle} (home : ref'.space = ref.space)
      (left : world.get? ref = some (.boundMethod receiver function))
      (right : after.get? ref' = some (.boundMethod receiver' function))
      (same : SameMeaning base world after { ref with handle := receiver } { ref' with handle := receiver' }) :
      SameMeaning base world after ref ref'

theorem sameMeaning_of_shows {base world after : World} {id : SpaceId} {space : Space} {found : Registry.Found}
    {ref ref' : Ref} (shows : Registry.Shows (base.space id) world id ref found)
    (shows' : Registry.Shows space after id ref' found) : SameMeaning base world after ref ref' := by
  induction found generalizing ref ref' with
  | object handle =>
    obtain ⟨rfl, object, there⟩ := shows
    obtain ⟨rfl, -⟩ := shows'
    exact .object there
  | method found function ih =>
    obtain ⟨rfl, -, receiver, shown, given⟩ := shows
    obtain ⟨home, -, receiver', shown', given'⟩ := shows'
    refine .method home shown shown' (ih given ?_)
    rwa [home]

end World

namespace Engine

open Act Bridge

theorem exists_of_isOk {ε α : Type} {ran : Except ε α × World} (ok : ran.1.isOk) :
    ∃ value after, ran = (.ok value, after) := by
  obtain ⟨error | value, after⟩ := ran
  · cases ok
  · exact ⟨value, after, rfl⟩

def lookUp (engine : Engine) (session : Session) (name : String) : BridgeAct Ref := do
  let spelled ← asBridge (ownedBy session.space (Guest.Space.newText name))
  lending [spelled] (engine.registryCall session "resolve_function" [spelled])

/-- The name leads to a builtin, and its first segment spells the name of the class, perhaps in another case. -/
def Shadows (globals : Bindings Handle) (className name : String) : Prop :=
  Registry.longestGlobal globals.names (Text.segments name) (Text.segments name).length = .ok none ∧
    ∃ first ∈ (Text.segments name).head?, Text.lowercase first = Text.lowercase className

section Definition

variable {world : World} {frame : Multiset Ref} {session : Session} {module resolver binder : Ref}
  {globals : Bindings Handle}

section LookUp

variable (engine : Engine) (exact : world.Exact frame) (typed : (world.space module.space).Typed)
  (opened : world.Open session module globals) (offers : world.Offers module globals .resolveFunction resolver)
include exact typed opened offers

theorem run_lookUp (name : String) :
    ∃ result after, (engine.next.lookUp session name).run world = (result.mapError .guest, after) ∧
      Registry.Finds (world.space module.space) module.space (result, after)
        (Registry.resolved (world.space module.space) module.handle name) := by
  obtain ⟨spelled, named, result, after, ranText, ranCall, -, finds⟩ :=
    run_resolveName engine exact ((exact.spaces module.space).closed typed) opened offers (.refl world 0) name
  have ranSpelled : (asBridge (ownedBy session.space (Guest.Space.newText name))).run world = (.ok spelled, named) :=
    run_adapt_ok Error.guest ranText
  exact ⟨result, after, (run_bind_ok ranSpelled _).trans ranCall, finds⟩

theorem resolved_of_lookUp {name : String} {ref : Ref} {after : World}
    (found : (engine.next.lookUp session name).run world = (.ok ref, after)) :
    ∃ place, Registry.resolved (world.space module.space) module.handle name = .ok place ∧
      Registry.Shows (world.space module.space) after module.space ref place := by
  obtain ⟨result, after', answered, finds⟩ := run_lookUp engine exact typed opened offers name
  obtain ⟨same, rfl⟩ := Prod.mk.inj (found.symm.trans answered)
  rcases result with exception | other
  · cases same
  obtain rfl : ref = other := Except.ok.inj same
  rcases leading : Registry.resolved (world.space module.space) module.handle name with exception | place
  all_goals rw [leading] at finds
  · cases finds
  · obtain ⟨other, answer, shows⟩ := finds
    obtain rfl : ref = other := Except.ok.inj answer
    exact ⟨place, rfl, shows⟩

theorem exists_lookUp {name : String} {place : Registry.Found}
    (leading : Registry.resolved (world.space module.space) module.handle name = .ok place) :
    ∃ ref after, (engine.next.lookUp session name).run world = (.ok ref, after) ∧
      Registry.Shows (world.space module.space) after module.space ref place := by
  obtain ⟨result, after, answered, finds⟩ := run_lookUp engine exact typed opened offers name
  rw [leading] at finds
  obtain ⟨ref, answer, shows⟩ := finds
  obtain rfl : result = .ok ref := answer
  exact ⟨ref, after, answered, shows⟩

end LookUp

theorem spares_of_modifies {later : World} {className : String} {type : Handle} {moduleName moduleName' : String}
    (exact : world.Exact frame) (found : world.get? module = some (.moduleObject { name := moduleName, globals }))
    (fresh : globals.get? className = none)
    (modifies : World.Modifies module
      (.moduleObject { name := moduleName', globals := globals.insert className type }) (world, 0) (later, 0))
    {ref : Ref} {object : Guest.Object Code} (other : ref ≠ module) (there : world.get? ref = some object) :
    later.get? ref = some object := by
  refine modifies.spares exact found (fun child member => ?_) other there
  obtain ⟨name, bound⟩ := Bindings.mem_values.mp member
  have apart : name ≠ className := fun same => by simp [same, fresh] at bound
  exact Bindings.mem_values.mpr ⟨name, by rwa [Bindings.get?_insert, if_neg apart]⟩

/-- A definition leaves every name the meaning that it has, unless the name leads to a builtin and the class takes
the name of it. -/
theorem definition_keeps_meanings (engine asking : Engine) (exact : world.Exact frame)
    (typed : (world.space module.space).Typed) (opened : world.Open session module globals)
    (resolves : world.Offers module globals .resolveFunction resolver)
    (binds : world.Offers module globals .setGlobals binder) {origin : HostValue} {className base : String}
    {methods : List String} {defined : World}
    (ran : (engine.next.defineClass session origin className base methods).run world = (.ok (), defined)) {name : String}
    (visible : ¬Shadows globals className name) {ref : Ref} {after : World}
    (found : (asking.next.lookUp session name).run world = (.ok ref, after)) :
    ∃ ref' after', (asking.next.lookUp session name).run defined = (.ok ref', after') ∧
      World.SameMeaning world after after' ref ref' := by
  obtain ⟨result, _, ranDefine, spec⟩ :=
    run_defineClass_modifies engine exact typed opened resolves binds origin className base methods
  obtain ⟨rfl, rfl⟩ := Prod.mk.inj (ranDefine.symm.trans ran)
  obtain ⟨baseType, admits, type, defines, moduleName, later, rfl, modifies⟩ := spec
  obtain ⟨label, shown⟩ := opened.object
  have openedThen := defines.published.opened
  obtain ⟨label', shownThen⟩ := openedThen.object
  have identifier := admits.identifier
  have free := admits.free
  have framed : world.Exact (0 + frame) := by rwa [zero_add]
  have leads : World.Leads .lasting (world, 0) (later.updateSession session.id (activate origin className), 0) :=
    (modifies.leads framed).trans (World.leads_updateSession fun _ => ⟨rfl, rfl⟩)
  have exactThen := leads.exact framed
  have spares {ref : Ref} {object : Guest.Object Code} (other : ref ≠ module) (there : world.get? ref = some object) :
      later.get? ref = some object := spares_of_modifies exact shown free.get?_eq_none modifies other there
  have rebinds : (world.space module.space).Rebinds (later.space module.space) module.handle := by
    refine ⟨fun handle object other there => ?_, ⟨_, shown⟩, ⟨_, shownThen⟩, modifies.roots_eq _⟩
    have different : ({ space := module.space, handle } : Ref) ≠ module := fun same => other (by rw [← same])
    exact spares different there
  -- The service is found where it was.
  have offers : (later.updateSession session.id (activate origin className)).Offers module
      (globals.insert className type.handle) .resolveFunction resolver := by
    obtain ⟨listed, home, label, callable⟩ := resolves
    have other : Registry.Service.resolveFunction.name ≠ className := fun same => free _ _ listed (by rw [same])
    refine ⟨by rwa [Bindings.get?_insert, if_neg other], home, label, ?_⟩
    refine spares ?_ callable
    rintro rfl
    simp [shown] at callable
  have closed := (exact.spaces module.space).closed typed
  obtain ⟨place, leading, shows⟩ := resolved_of_lookUp asking exact typed opened resolves found
  have leadingThen := Registry.resolved_rebound closed rebinds (exact.object_eq_ok shown)
    (exactThen.object_eq_ok shownThen) free (exact.spaces module.space) identifier leading
    fun none first member alike => visible ⟨none, first, member, alike⟩
  obtain ⟨ref', after', foundThen, showsThen⟩ :=
    exists_lookUp asking exactThen (leads.typed typed) openedThen offers leadingThen
  exact ⟨ref', after', foundThen, World.sameMeaning_of_shows shows showsThen⟩

end Definition

/-- The name of the base keeps its meaning when a class is defined in a session that was just opened. -/
theorem definition_keeps_meanings_point :
    let world := Console.opened
    let state := Console.openedState
    let defined := (exhausted.next.defineClass state.session .nil "Point" "OBJECT" ["move"]).run world
    ∃ ref after ref' after', (exhausted.next.lookUp state.session "OBJECT").run world = (.ok ref, after) ∧
      (exhausted.next.lookUp state.session "OBJECT").run defined.2 = (.ok ref', after') ∧
        World.SameMeaning world after after' ref ref' := by
  intro world state defined
  have exact : world.Exact 0 := Console.exact_after 1 _
  have typed (id : SpaceId) : (world.space id).Typed := Console.typed_after 1 _ id
  have recorded : world.session? { index := 0 } = some state := (Option.some_get _).symm
  have same : state.session.id = { index := 0 } := by decide +kernel
  let module := (world.sessionModule? state.session).get (by decide +kernel)
  let globals := (world.globals? module).get (by decide +kernel)
  obtain ⟨held, here, resolves, binds, carried, led⟩ :
      state.module? = some module.handle ∧ module.space = state.session.space ∧
        (world.offered? module .resolveFunction).isSome ∧ (world.offered? module .setGlobals).isSome ∧
          defined.1.isOk ∧ ((exhausted.next.lookUp state.session "OBJECT").run world).1.isOk := by
    decide +kernel
  have found : world.globals? module = some globals := (Option.some_get _).symm
  have visible : ¬Shadows globals "Point" "OBJECT" := by
    rintro ⟨-, first, member, alike⟩
    obtain rfl : first = "OBJECT" := by
      have head : (Text.segments "OBJECT").head? = some "OBJECT" := by decide
      simpa [head, eq_comm] using member
    exact absurd alike (by decide +kernel)
  obtain ⟨_, after, ranDefine⟩ := exists_of_isOk carried
  obtain ⟨ref, now, ranLookUp⟩ := exists_of_isOk led
  have opened := World.open_of_globals? recorded same held here found
  obtain ⟨resolver, offered⟩ := Option.isSome_iff_exists.mp resolves
  obtain ⟨binder, offered'⟩ := Option.isSome_iff_exists.mp binds
  obtain ⟨ref', after', ranLater, meaning⟩ := definition_keeps_meanings exhausted exhausted exact (typed _) opened
    (World.offers_of_offered? found offered) (World.offers_of_offered? found offered') ranDefine visible ranLookUp
  have left : defined.2 = after := congrArg Prod.snd ranDefine
  exact ⟨ref, now, ref', after', ranLookUp, left ▸ ranLater, meaning⟩

/-- A class that is named like a builtin takes its place: globals go before builtins. -/
theorem definition_shadows_builtin :
    let world := Console.opened
    let state := Console.openedState
    let module := Console.openedModule
    let defined := (exhausted.next.defineClass state.session .nil "Object" "object" []).run world
    let before := (exhausted.next.lookUp state.session "object").run world
    let later := (exhausted.next.lookUp state.session "object").run defined.2
    (world.offered? module .resolveFunction).isSome ∧ (world.offered? module .setGlobals).isSome ∧ defined.1.isOk ∧
      ∃ ref ref', before.1 = .ok ref ∧ later.1 = .ok ref' ∧ ¬World.SameMeaning world before.2 later.2 ref ref' := by
  intro world state module defined before later
  obtain ⟨resolves, binds, accepted, found, found', different, kind⟩ :
      (world.offered? module .resolveFunction).isSome ∧ (world.offered? module .setGlobals).isSome ∧ defined.1.isOk ∧
        before.1.isOk ∧ later.1.isOk ∧ before.1.toOption ≠ later.1.toOption ∧
          (before.1.toOption.bind before.2.get?).map (·.kind) = some .typeObject := by
    decide +kernel
  clear_value before later
  obtain ⟨ref, after, rfl⟩ := exists_of_isOk found
  obtain ⟨ref', after', rfl⟩ := exists_of_isOk found'
  refine ⟨resolves, binds, accepted, ref, ref', rfl, rfl, fun meaning => ?_⟩
  cases meaning with
  | object there => exact different rfl
  | method home left right meaning =>
    have shown : (after.get? ref).map (·.kind) = some .typeObject := kind
    simp [left, Guest.Object.kind] at shown

end Engine

end ObjectBridge

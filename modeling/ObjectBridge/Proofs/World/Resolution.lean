import ObjectBridge.Proofs.World.Offered

/-!
Resolution of names. What a name stands for can be read off the space, except that a bound method is a new
object each time it is found. So it stands for the same in every extension of the space.
-/

namespace ObjectBridge

open Guest (Extent Handle)

namespace Registry

open Act

/-- What a name leads to: an object that is there, or else a bound method that is made for what was found before. -/
inductive Found where
  | object (handle : Handle)
  | method (receiver : Found) (function : Handle)

def Found.ofAttribute (found : Found) : Guest.Attribute → Found
  | .plain value => .object value
  | .method function => .method found function

section Found

variable (space : Space)

def namesOf : Found → Except Guest.Exception (List String)
  | .object handle => space.dir handle
  | .method .. => do
    let roots ← space.rootsNow
    return (space.inheritedNames (roots.typeFor .boundMethod)).foldr Guest.insertName []

def attributeOf (name : String) : Found → Except Guest.Exception Guest.Attribute
  | .object handle => space.findAttribute handle name
  | .method .. => do
    let type := (← space.rootsNow).typeFor .boundMethod
    match space.lookup type name with
    | none => throw (.noAttribute (← space.typeName type) name)
    | some value =>
      match ← space.object value with
      | .function _ => return .method value
      | _ => return .plain value

theorem attributeOf_method (name : String) (found : Found) (function : Handle) :
    attributeOf space name (.method found function) =
      (do space.inheritedAttribute ((← space.rootsNow).typeFor .boundMethod) name) := by
  rcases started : space.rootsNow with _ | roots
  · simp only [attributeOf, started, bind, Except.bind]
  · simp only [attributeOf, Guest.Space.inheritedAttribute, started, bind, Except.bind]
    rcases space.lookup (roots.typeFor .boundMethod) name with _ | value
    · rfl
    · rcases shown : space.object value with _ | object
      · simp only [shown]
      · cases object <;> simp only [shown]

def stepped (name segment : String) (found : Found) : Except Guest.Exception Found := do
  match ← findName (← namesOf space found) segment with
  | some known => (attributeOf space known found).map found.ofAttribute
  | none => throw (.undefinedName name)

def followed (name : String) (found : Found) : List String → Except Guest.Exception Found
  | [] => .ok found
  | segment :: rest => do followed name (← stepped space name segment found) rest

def builtinNamed (name : String) : Except Guest.Exception Found := do
  match (← findName Guest.Space.builtinNames name).bind space.builtin? with
  | some handle => return .object handle
  | none => throw (.undefinedName name)

def resolved (module : Handle) (name : String) : Except Guest.Exception Found := do
  if name.isEmpty then throw .emptyName
  let segments := Text.segments name
  match ← longestGlobal (← namesOf space (.object module)) segments segments.length with
  | some (global, count) =>
    let start ← (attributeOf space global (.object module)).map (Found.object module).ofAttribute
    followed space name start (segments.drop count)
  | none =>
    let start ← builtinNamed space ((segments.head?).getD "")
    followed space name start (segments.drop 1)

theorem resolved_global {module value : Handle} {contents : Guest.ModuleObject} {name spelling : String}
    (found : space.object module = .ok (.moduleObject contents)) (bound : contents.globals.get? name = some value)
    (identifier : Text.isIdentifier name = true)
    (alone : ∀ other ∈ contents.globals.names, Text.lowercase other = Text.lowercase name → other = name)
    (alike : Text.lowercase spelling = Text.lowercase name) : resolved space module spelling = .ok (.object value) := by
  have nonempty : spelling ≠ "" := by
    rintro rfl
    obtain rfl : name = "" := Text.lowercase_eq_empty.mp alike.symm
    simp [Text.isIdentifier] at identifier
  have whole : Text.segments spelling = [spelling] := by
    refine Text.segments_of_not_mem fun point => ?_
    rw [← Text.point_mem_lowercase, alike, Text.point_mem_lowercase] at point
    exact Text.point_not_mem_of_isIdentifier identifier point
  have spelled := findName_spelling contents.globals.nodup_names (Bindings.mem_names.mpr ⟨value, bound⟩) alone alike
  have listed : namesOf space (.object module) = .ok contents.globals.names := Guest.Space.dir_module found
  have longest : longestGlobal contents.globals.names [spelling] 1 = .ok (some (name, 1)) := by
    have joined : Text.dotted [spelling] = spelling := by rw [← whole, Text.dotted_segments]
    simp [longestGlobal, joined, spelled, bind, Except.bind, pure, Except.pure]
  have leads : attributeOf space name (.object module) = .ok (.plain value) :=
    Guest.Space.findAttribute_global found bound
  unfold resolved
  rw [if_neg (by simpa using nonempty)]
  simp [whole, listed, longest, leads, followed, Found.ofAttribute, bind, Except.bind, Except.map]

end Found

def Shows (base : Space) (world : World) (id : SpaceId) (ref : Ref) : Found → Prop
  | .object handle => ref = { space := id, handle } ∧ base.Has handle
  | .method found function => ref.space = id ∧ base.heap.get? ref.handle = none ∧ ∃ receiver,
      world.get? ref = some (.boundMethod receiver function) ∧
        Shows base world id { space := id, handle := receiver } found

def Finds (base : Space) (id : SpaceId) (ran : Except Guest.Exception Ref × World) :
    Except Guest.Exception Found → Prop
  | .ok found => ∃ ref, ran.1 = .ok ref ∧ Shows base ran.2 id ref found
  | .error exception => ran.1 = .error exception

theorem Shows.home {base : Space} {world : World} {id : SpaceId} {ref : Ref} {found : Found}
    (shows : Shows base world id ref found) : ref.space = id := by
  cases found with
  | object handle => exact congrArg Ref.space shows.1
  | method found function => exact shows.1

theorem Shows.of_objects {base : Space} {world after : World} {id : SpaceId} {ref : Ref} {found : Found}
    (shows : Shows base world id ref found)
    (kept : ∀ other object, world.get? other = some object → after.get? other = some object) :
    Shows base after id ref found := by
  induction found generalizing ref with
  | object handle => exact shows
  | method found function ih =>
    obtain ⟨home, new, receiver, shown, given⟩ := shows
    exact ⟨home, new, receiver, kept _ _ shown, ih given⟩

section Views

variable {base : Space} {world : World} {id : SpaceId} {ref : Ref} {found : Found} {frame : Multiset Ref}
  (closed : base.Closed) (grown : base.Extends (world.space id)) (exact : world.Exact frame)
include closed grown exact

theorem dir_of_shows (shows : Shows base world id ref found) :
    (world.space id).dir ref.handle = namesOf base found := by
  cases found with
  | object handle =>
    obtain ⟨rfl, has⟩ := shows
    exact closed.dir_eq grown.sameObjects has (has.object_eq grown)
  | method found function =>
    obtain ⟨rfl, -, receiver, shown, -⟩ := shows
    have object := exact.object_eq_ok shown
    obtain ⟨roots, started⟩ := Option.isSome_iff_exists.mp (exact.started_of_get? shown)
    have baseStarted : base.roots = some roots := grown.roots ▸ started
    have type := closed.inheritedNames_eq grown.sameTypes (closed.types roots baseStarted .boundMethod)
    simp [Guest.Space.dir, Guest.Space.typeOf, Guest.Space.rootsNow, object, started, baseStarted, namesOf,
      bind, Except.bind, pure, Except.pure, Guest.Object.kind, type]

theorem findAttribute_of_shows (shows : Shows base world id ref found) (name : String) :
    (world.space id).findAttribute ref.handle name = attributeOf base name found := by
  cases found with
  | object handle =>
    obtain ⟨rfl, has⟩ := shows
    exact closed.findAttribute_eq grown.sameObjects has (has.object_eq grown) name
  | method found function =>
    obtain ⟨rfl, -, receiver, shown, -⟩ := shows
    have object := exact.object_eq_ok shown
    obtain ⟨roots, started⟩ := Option.isSome_iff_exists.mp (exact.started_of_get? shown)
    have baseStarted : base.roots = some roots := grown.roots ▸ started
    have has := closed.types roots baseStarted .boundMethod
    rw [attributeOf_method, Guest.Space.findAttribute_eq_bind]
    simp only [Guest.Space.ownAttribute, Guest.Space.typeOf, Guest.Space.rootsNow, object, started, baseStarted, bind,
      Except.bind, pure, Except.pure, Guest.Object.kind, closed.inheritedAttribute_eq grown.sameObjects has]

omit grown exact in
theorem has_of_attributeOf {name : String} {value : Handle}
    (plain : attributeOf base name found = .ok (.plain value)) : base.Has value := by
  cases found with
  | object handle => exact closed.has_attribute plain
  | method found function =>
    rw [attributeOf_method] at plain
    rcases started : base.rootsNow with _ | roots
    · simp [started, bind, Except.bind] at plain
    · exact closed.has_inheritedAttribute (by simpa only [started, bind, Except.bind] using plain)

theorem finds_getattr (shows : Shows base world id ref found) (name : String) :
    Finds base id ((getattr id ref name).run world) ((attributeOf base name found).map found.ofAttribute) := by
  have same := findAttribute_of_shows closed grown exact shows name
  rcases known : attributeOf base name found with exception | place
  · rw [known] at same
    have ran : (Guest.Space.getattr ref.handle name).run (world.space id) = .error exception := by
      rw [Guest.Space.getattr, StateT.run_bind, Guest.Op.run_read, same]
      rfl
    rw [getattr, run_ownedBy, ran]
    rfl
  · rw [known] at same
    cases place with
    | plain value =>
      obtain ⟨object, has⟩ := has_of_attributeOf closed known
      have ran := Guest.Space.run_getattr_plain same
      have there : world.get? { space := id, handle := value } = some object := grown.objects value object has
      obtain ⟨after, acquired, -⟩ := run_acquire exact there
      rw [getattr, run_ownedBy, ran, ← run_ownedBy, acquired]
      exact ⟨_, rfl, rfl, object, has⟩
    | method function =>
      have started := (Guest.Space.object_eq_ok.mp (Guest.Space.findAttribute_live same).choose_spec).1
      have sound := ((exact.spaces id).started started).sound
      have ran := Guest.Space.run_getattr_method same
      have startedThen : (((world.space id).retain ref.handle).retain function).roots.isSome := started
      rw [Guest.Space.allocate_eq_ok.mpr ⟨startedThen, rfl, rfl⟩] at ran
      let counted := ((world.space id).retain ref.handle).retain function
      let made := counted.heap.allocate (.boundMethod ref.handle function)
      have soundThen : counted.heap.Sound := Guest.Heap.sound_acquire (Guest.Heap.sound_acquire sound _) _
      have shown : made.2.get? made.1 = some (.boundMethod ref.handle function) := by
        rw [Guest.Heap.get?_allocate soundThen, if_pos rfl]
      have home := World.known_of_started started
      rw [getattr, run_ownedBy, ran]
      have new : base.heap.get? made.1 = none := by
        by_contra known
        obtain ⟨object, found⟩ := Option.ne_none_iff_exists'.mp known
        have there : counted.heap.get? made.1 = some object := by
          simpa [counted, Guest.Space.retain, Guest.Heap.get?_acquire] using grown.objects _ object found
        rw [Guest.Heap.get?, Guest.Heap.cell?_fst_allocate soundThen] at there
        cases there
      refine ⟨_, rfl, rfl, new, ref.handle, ?_, ?_⟩
      · rwa [World.get?_setSpace home]
      · have receiver : Shows base world id { space := id, handle := ref.handle } found := shows.home ▸ shows
        refine receiver.of_objects fun other object there => ?_
        show World.get? (world.setSpace id { counted with heap := made.2 }) other = some object
        rw [World.get?, World.space_setSpace home]
        split
        · rename_i equal
          refine Guest.Heap.get?_allocate_of_get? soundThen _ ?_
          rw [World.get?, equal] at there
          simpa [counted, Guest.Space.retain, Guest.Heap.get?_acquire] using there
        · exact there

end Views

section Following

variable {base : World} {frame : Multiset Ref} {id : SpaceId}

theorem Shows.of_leads {space : Space} {world after : World} {owned owned' frame : Multiset Ref} {ref : Ref}
    {found : Found} (shows : Shows space world id ref found)
    (leads : World.Leads .temporary (world, owned) (after, owned'))
    (exact : world.Exact (owned + frame)) (held : ref ∈ frame) : Shows space after id ref found := by
  have anchored : world.Anchored frame ref := World.anchored_of_mem (Multiset.mem_add.mpr (Or.inl held))
  clear held
  induction found generalizing ref with
  | object handle => exact shows
  | method found function ih =>
    obtain ⟨rfl, new, receiver, shown, given⟩ := shows
    have anchoredReceiver := anchored.child shown (by simp [Guest.Object.children] : receiver ∈ _)
    exact ⟨rfl, new, receiver, leads.unchanged exact anchored shown, ih given anchoredReceiver⟩

theorem Finds.of_leads {space : Space} {world after : World} {owned owned' frame : Multiset Ref}
    {result : Except Guest.Exception Ref} {found : Except Guest.Exception Found}
    (finds : Finds space id (result, world) found) (leads : World.Leads .temporary (world, owned) (after, owned'))
    (exact : world.Exact (owned + frame)) (held : ∀ ref, result = .ok ref → ref ∈ frame) :
    Finds space id (result, after) found := by
  cases found with
  | error exception => exact finds
  | ok found =>
    obtain ⟨ref, answered, shows⟩ := finds
    exact ⟨ref, answered, shows.of_leads leads exact (held ref answered)⟩

def step (id : SpaceId) (name : String) (current : Ref) (segment : String) : GuestAct Ref := do
  let names ← onView id (·.dir current.handle)
  match ← liftM (findName names segment) with
  | some found => getattr id current found
  | none => throw (.undefinedName name)

theorem followAttributes_cons (id : SpaceId) (name : String) (current : Ref) (segment : String)
    (rest : List String) :
    followAttributes id name current (segment :: rest) =
      lending [current] (step id name current segment) >>= fun next => followAttributes id name next rest :=
  rfl

theorem balanced_step {extent : Extent} {borrowed : List Ref} (name : String) (current : Ref) (segment : String) :
    Balanced extent borrowed 0 (step id name current segment) ({·}) := by
  refine (Balanced.onView _).bind fun names => (Balanced.lift _).bind fun found => ?_
  cases found with
  | some found => exact balanced_getattr current found
  | none => exact .throw _

variable (exact : base.Exact frame) (closed : (base.space id).Closed)
include exact closed

theorem finds_step {world : World} {owned : Multiset Ref} {current : Ref} {found : Found}
    (leads : World.Leads .temporary (base, 0) (world, {current} + owned))
    (shows : Shows (base.space id) world id current found) (name segment : String) :
    Finds (base.space id) id ((step id name current segment).run world)
      (stepped (base.space id) name segment found) := by
  have grown := (leads.extends exact).spaces id
  have exactNow := leads.exact (by rwa [zero_add])
  have viewed : (onView id (·.dir current.handle)).run world = _ := run_onView _ world
  rw [dir_of_shows closed grown exactNow shows] at viewed
  unfold step stepped
  rcases listed : namesOf (base.space id) found with exception | names
  all_goals rw [listed] at viewed
  · rw [run_bind_error viewed]
    rfl
  rw [run_bind_ok viewed, run_bind, run_lift]
  simp only [bind, Except.bind]
  rcases findName names segment with exception | _ | known
  · rfl
  · rfl
  · exact finds_getattr closed grown exactNow shows known

theorem finds_followAttributes {world : World} {owned : Multiset Ref} {current : Ref} {found : Found}
    (leads : World.Leads .temporary (base, 0) (world, {current} + owned))
    (shows : Shows (base.space id) world id current found) (name : String) (segments : List String) :
    Finds (base.space id) id ((followAttributes id name current segments).run world)
      (followed (base.space id) name found segments) := by
  have framed : base.Exact (0 + frame) := by rwa [zero_add]
  induction segments generalizing world current found with
  | nil => exact ⟨current, rfl, shows⟩
  | cons segment rest ih =>
    have finds := finds_step exact closed leads shows name segment
    have exactNow := leads.exact framed
    have balanced : Balanced .temporary [] 0 (step id name current segment) ({·}) := balanced_step name current segment
    have settles := balanced.settles (by rwa [zero_add])
    rw [followAttributes_cons, followed, run_bind, run_lending]
    rcases ran : (step id name current segment).run world with ⟨result, between⟩
    rw [ran] at finds
    rw [Settles, ran] at settles
    rcases leading : stepped (base.space id) name segment found with exception | next
    all_goals rw [leading] at finds
    · obtain rfl : result = .error exception := finds
      rfl
    · obtain ⟨ref, rfl, shown⟩ := finds
      -- The reference to the earlier object is given back.
      have passed : World.Leads .temporary (world, {current} + owned) (between, {current} + ({ref} + owned)) := by
        have moved := World.Leads.frame settles (World.knows_add.mp (World.knows_add.mp exactNow.known).1).1
        rwa [zero_add, left_ok, add_left_comm] at moved
      have exactThen : between.Exact ({current} + ({ref} + owned + frame)) := by
        rw [← add_assoc]
        exact passed.exact exactNow
      have given : World.Leads .temporary (between, {current}) (between.releaseAll [current], 0) :=
        World.leads_release .temporary exactThen
      have known := (World.knows_add.mp (World.knows_add.mp (World.knows_add.mp exactThen.known).1).2).1
      have alone := given.frame known
      rw [zero_add] at alone
      exact ih ((leads.trans passed).trans alone) (shown.of_leads given exactThen (by simp))

omit closed in
theorem finds_builtinOf {world : World} {owned : Multiset Ref}
    (leads : World.Leads .temporary (base, 0) (world, owned)) (name : String) :
    Finds (base.space id) id ((builtinOf id name).run world) (builtinNamed (base.space id) name) := by
  have grown := (leads.extends exact).spaces id
  have exactNow := leads.exact (by rwa [zero_add])
  unfold builtinOf builtinNamed
  rw [run_bind, run_lift]
  rcases findName Guest.Space.builtinNames name with exception | found
  · rfl
  have same : (world.space id).builtin? = (base.space id).builtin? :=
    funext fun _ => by simp only [Guest.Space.builtin?, grown.roots]
  show Finds _ _ (ExceptT.run (get >>= fun now : World => match found.bind (now.space id).builtin? with
    | some handle => ownedBy id (Guest.Space.acquire handle)
    | none => throw (.undefinedName name)) world) _
  rw [run_get_bind, same]
  rcases builtin : found.bind (base.space id).builtin? with _ | handle
  · simp only [bind, Except.bind, builtin]
    rfl
  · obtain ⟨object, there⟩ : (base.space id).Has handle := by
      obtain ⟨global, -, named⟩ := Option.bind_eq_some_iff.mp builtin
      exact (exact.spaces id).has_builtin named
    have acquired := run_acquire exactNow (grown.objects handle object there)
    obtain ⟨after, acquired, -⟩ := acquired
    simp only [bind, Except.bind, builtin, acquired]
    exact ⟨_, rfl, rfl, object, there⟩

theorem finds_resolve {world : World} {owned : Multiset Ref} {module : Ref}
    (leads : World.Leads .temporary (base, 0) (world, owned)) (here : module.space = id)
    (has : (base.space id).Has module.handle) (name : String) :
    Finds (base.space id) id ((resolve id module name).run world) (resolved (base.space id) module.handle name) := by
  have framed : base.Exact (0 + frame) := by rwa [zero_add]
  have exactNow := leads.exact framed
  have grown := (leads.extends exact).spaces id
  have shows : Shows (base.space id) world id module (.object module.handle) := by
    obtain ⟨home, handle⟩ := module
    obtain rfl : home = id := here
    exact ⟨rfl, has⟩
  -- What is found first is a new reference, beside those that are held.
  have follows {act : GuestAct Ref} {found : Except Guest.Exception Found} (segments : List String)
      (balanced : Balanced .temporary [] 0 act ({·})) (finds : Finds (base.space id) id (act.run world) found) :
      Finds (base.space id) id ((act >>= fun start => followAttributes id name start segments).run world)
        (found >>= fun start => followed (base.space id) name start segments) := by
    have settles := balanced.settles (by rwa [zero_add])
    rw [run_bind]
    rcases ran : act.run world with ⟨result, between⟩
    rw [ran] at finds
    rw [Settles, ran] at settles
    rcases found with exception | start
    · obtain rfl : result = .error exception := finds
      rfl
    · obtain ⟨ref, rfl, shown⟩ := finds
      have passed := World.Leads.frame settles (World.knows_add.mp (World.knows_add.mp exactNow.known).1).1
      rw [zero_add, left_ok] at passed
      exact finds_followAttributes exact closed (leads.trans passed) shown name segments
  have viewed : (onView id (·.dir module.handle)).run world = _ := run_onView _ world
  rw [dir_of_shows closed grown exactNow shows] at viewed
  unfold resolve resolved
  split
  · rfl
  rcases listed : namesOf (base.space id) (.object module.handle) with exception | globals
  all_goals rw [listed] at viewed
  · rw [run_bind_error viewed]
    rfl
  rw [run_bind_ok viewed, run_bind, run_lift]
  simp only [bind, Except.bind]
  rcases longestGlobal globals (Text.segments name) (Text.segments name).length with exception | _ | ⟨global, count⟩
  · rfl
  · exact follows _ (balanced_builtinOf id _) (finds_builtinOf exact leads _)
  · exact follows _ (balanced_getattr module global) (finds_getattr closed grown exactNow shows global)

theorem resolve_eq_ok_type {module ref : Ref} (here : module.space = id) (has : (base.space id).Has module.handle)
    (name : String) {contents : Guest.TypeObject} (found : base.get? ref = some (.typeObject contents)) :
    ((resolve id module name).run base).1 = .ok ref ↔
      resolved (base.space id) module.handle name = .ok (.object ref.handle) ∧ ref.space = id := by
  have finds := finds_resolve exact closed (World.Leads.refl base 0) here has name
  have balanced : Balanced .temporary [] 0 (resolve id module name) ({·}) := balanced_resolve id module name
  have grown := World.Leads.extends (balanced.settles (by rwa [zero_add])) exact
  rcases leading : resolved (base.space id) module.handle name with exception | handle | ⟨found, function⟩
  all_goals rw [leading] at finds
  · have failed : _ = Except.error exception := finds
    simp [failed]
  · obtain ⟨_, answered, rfl, -⟩ := finds
    rw [answered]
    constructor
    · intro same
      obtain rfl := Except.ok.inj same
      exact ⟨rfl, rfl⟩
    · rintro ⟨same, rfl⟩
      obtain rfl : handle = ref.handle := by simpa using same
      rfl
  · -- A bound method is a new object.
    obtain ⟨made, answered, -, -, receiver, shown, -⟩ := finds
    constructor
    · intro same
      obtain rfl : made = ref := by simpa [answered] using same
      rw [grown.get? found] at shown
      cases shown
    · rintro ⟨same, -⟩
      simp at same

end Following

end Registry

end ObjectBridge

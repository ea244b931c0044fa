import ObjectBridge.Guest.Types
import ObjectBridge.Proofs.Space.Attributes

/-!
Balance of the operations that make types and modules. What they take references to is checked before
anything is made, so nothing is left over when they raise.
-/

namespace ObjectBridge.Guest

variable {β : Type}

theorem memberFault?_eq_none {seen names : List String} :
    memberFault? seen names = none ↔
      (∀ name ∈ names, Text.isIdentifier name = true ∧ name ∉ reservedNames ∧ name ∉ seen) ∧
        names.Nodup := by
  induction names generalizing seen with
  | nil => simp [memberFault?]
  | cons name rest ih =>
    by_cases identifier : Text.isIdentifier name = true
    · by_cases reserved : name ∈ reservedNames
      · simp [memberFault?, identifier, reserved]
      · by_cases repeated : name ∈ seen
        · simp [memberFault?, identifier, reserved, repeated]
        · simp only [memberFault?, identifier, reserved, repeated, List.mem_cons, List.nodup_cons]
          grind
    · simp [memberFault?, identifier]

namespace Space

open Op

theorem checkBase_eq_ok {space : Space β} {base : Handle} {result : Unit} :
    space.checkBase base = .ok result ↔
      ∃ contents, space.object base = .ok (.typeObject contents) ∧
        (contents.builtin = true → contents.name = "object") := by
  unfold checkBase
  cases found : space.object base with
  | error exception => simp [bind, Except.bind]
  | ok object =>
    cases object with
    | typeObject contents =>
      by_cases builtin : contents.builtin = true <;> by_cases named : contents.name = "object" <;>
        simp [bind, Except.bind, pure, Except.pure, throw, throwThe, MonadExceptOf.throw, builtin, named]
    | _ => simp [bind, Except.bind, throw, throwThe, MonadExceptOf.throw]

theorem run_forM_checkBase_eq_ok {space after : Space β} {bases : List Handle} {result : PUnit} :
    (forM bases fun base => (read (·.checkBase base) : Op β Unit)).run space = .ok (result, after) ↔
      (∀ base ∈ bases, space.checkBase base = .ok ⟨⟩) ∧ space = after :=
  run_forM_eq_ok (fun base space => space.checkBase base = .ok ⟨⟩) fun _ _ _ _ => run_read_eq_ok

def parents (space : Space β) : List Handle → Option (List Handle)
  | [] => space.roots.map fun roots => [roots.object]
  | bases => some bases

theorem newType_eq_ok {space after : Space β} {name : String} {bases : List Handle}
    {members : List (String × Handle)} {type : Handle} :
    (newType name bases members).run space = .ok (type, after) ↔
      Text.isIdentifier name = true ∧ memberFault? [] (members.map (·.1)) = none ∧
        ∃ parents nameHandle middle, space.parents bases = some parents ∧
          (∀ base ∈ parents, space.checkBase base = .ok ⟨⟩) ∧
          (∀ member ∈ members, ∃ object, space.object member.2 = .ok object) ∧
          (allocate (.str name)).run ((space.retainAll parents).retainAll (members.map (·.2))) =
            .ok (nameHandle, middle) ∧
          (allocate (.typeObject
            { name, bases := parents
              members := (Bindings.ofList members).insert "__name__" nameHandle
              builtin := false })).run middle = .ok (type, after) := by
  by_cases identifier : Text.isIdentifier name = true
  · cases fault : memberFault? [] (members.map (·.1)) with
    | some exception => simp only [newType, identifier, fault, Bool.not_true, Bool.false_eq_true, if_false,
        run_bind_eq_ok, run_throw_ne_ok, false_and, exists_false, and_false, reduceCtorEq]
    | none =>
      simp only [newType, identifier, fault, Bool.not_true, Bool.false_eq_true, if_false, true_and]
      cases bases with
      | nil =>
        simp only [List.isEmpty_nil, if_true, run_bind_eq_ok, run_read_eq_ok, rootsNow_eq_ok, run_pure_eq_ok,
          List.forM_eq_forM, run_forM_checkBase_eq_ok, run_forM_object_eq_ok, run_modify_eq_ok, parents]
        constructor
        · rintro ⟨roots, _, ⟨started, rfl⟩, _, _, ⟨rfl, rfl⟩, _, _, ⟨based, rfl⟩, _, _, ⟨live, rfl⟩, _, _, rfl,
            nameHandle, middle, named, made⟩
          exact ⟨_, nameHandle, middle, by simp [started], based, live, named, made⟩
        · rintro ⟨_, nameHandle, middle, rooted, based, live, named, made⟩
          obtain ⟨roots, started, rfl⟩ := Option.map_eq_some_iff.mp rooted
          exact ⟨roots, space, ⟨started, rfl⟩, _, space, ⟨rfl, rfl⟩, ⟨⟩, space, ⟨based, rfl⟩, ⟨⟩, space,
            ⟨live, rfl⟩, ⟨⟩, _, rfl, nameHandle, middle, named, made⟩
      | cons base rest =>
        simp only [List.isEmpty_cons, Bool.false_eq_true, if_false, run_bind_eq_ok, run_pure_eq_ok,
          List.forM_eq_forM, run_forM_checkBase_eq_ok, run_forM_object_eq_ok, run_modify_eq_ok, parents]
        constructor
        · rintro ⟨_, _, ⟨rfl, rfl⟩, _, _, ⟨based, rfl⟩, _, _, ⟨live, rfl⟩, _, _, rfl, nameHandle, middle,
            named, made⟩
          exact ⟨_, nameHandle, middle, rfl, based, live, named, made⟩
        · rintro ⟨_, nameHandle, middle, same, based, live, named, made⟩
          obtain rfl := Option.some.inj same
          exact ⟨_, space, ⟨rfl, rfl⟩, ⟨⟩, space, ⟨based, rfl⟩, ⟨⟩, space, ⟨live, rfl⟩, ⟨⟩, _, rfl,
            nameHandle, middle, named, made⟩
  · simp only [newType, identifier, Bool.not_false, if_true, run_bind_eq_ok, run_throw_ne_ok, false_and,
      exists_false, Bool.false_eq_true]

theorem retainAll_append (space : Space β) (first second : List Handle) :
    (space.retainAll first).retainAll second = space.retainAll (first ++ second) :=
  List.foldl_append.symm

theorem children_newType {name : String} {parents : List Handle} {members : List (String × Handle)}
    {nameHandle : Handle} (faultless : memberFault? [] (members.map (·.1)) = none) :
    ((Object.typeObject (β := β)
        { name, bases := parents, members := (Bindings.ofList members).insert "__name__" nameHandle
          builtin := false }).children : Multiset Handle) =
      nameHandle ::ₘ ((parents ++ members.map (·.2) : List Handle) : Multiset Handle) := by
  obtain ⟨admissible, once⟩ := memberFault?_eq_none.mp faultless
  have unlisted : "__name__" ∉ members.map (·.1) := fun member =>
    (admissible _ member).2.1 (by simp [reservedNames])
  rw [Object.children, ← Multiset.coe_add,
    Bindings.values_insert_of_none (Bindings.get?_ofList_of_notMem unlisted),
    Bindings.values_ofList once, Multiset.add_cons, Multiset.coe_add]

theorem run_newType {space : Space β} (sound : space.heap.Sound) {name : String} {base : Handle}
    {members : List (String × Handle)} {contents : TypeObject} (found : space.object base = .ok (.typeObject contents))
    (derivable : contents.builtin = true → contents.name = "object") (identifier : Text.isIdentifier name = true)
    (faultless : memberFault? [] (members.map (·.1)) = none)
    (live : ∀ member ∈ members, ∃ object, space.object member.2 = .ok object) :
    ∃ type label after, (newType name [base] members).run space = .ok (type, after) ∧
      space.heap.get? type = none ∧ after.heap.get? label = some (.str name) ∧
        after.heap.get? type = some (.typeObject
          { name, bases := [base], members := (Bindings.ofList members).insert "__name__" label, builtin := false }) := by
  have started := (object_eq_ok.mp found).1
  let counted := (space.retainAll [base]).retainAll (members.map (·.2))
  have soundCounted : counted.heap.Sound := sound_retainAll (sound_retainAll sound _) _
  have startedCounted : counted.roots.isSome := by rwa [roots_retainAll, roots_retainAll]
  let named := counted.heap.allocate (.str name)
  have soundNamed : named.2.Sound := Heap.sound_allocate soundCounted _
  let made := named.2.allocate (.typeObject
    { name, bases := [base], members := (Bindings.ofList members).insert "__name__" named.1, builtin := false })
  have fresh : named.2.get? made.1 = none := by
    rw [Heap.get?, Heap.cell?_fst_allocate soundNamed, Option.map_none]
  have labelled : named.2.get? named.1 = some (.str name) := by rw [Heap.get?_allocate soundCounted, if_pos rfl]
  have apart : made.1 ≠ named.1 := by
    intro same
    rw [same, labelled] at fresh
    cases fresh
  refine ⟨made.1, named.1, { counted with heap := made.2 }, newType_eq_ok.mpr ⟨identifier, faultless, [base], named.1,
    { counted with heap := named.2 }, rfl, ?_, live, ?_, ?_⟩, ?_, ?_, ?_⟩
  · simpa using checkBase_eq_ok.mpr ⟨contents, found, derivable⟩
  · exact allocate_eq_ok.mpr ⟨startedCounted, rfl, rfl⟩
  · exact allocate_eq_ok.mpr ⟨startedCounted, rfl, rfl⟩
  · rw [Heap.get?_allocate soundCounted, if_neg apart] at fresh
    rwa [get?_retainAll, get?_retainAll] at fresh
  · rw [Heap.get?_allocate soundNamed, if_neg (Ne.symm apart), labelled]
  · rw [Heap.get?_allocate soundNamed, if_pos rfl]

theorem started_of_newType {space after : Space β} {name : String} {bases : List Handle}
    {members : List (String × Handle)} {type : Handle} (made : (newType name bases members).run space = .ok (type, after)) :
    space.roots.isSome := by
  obtain ⟨-, -, parents, label, middle, -, -, -, named, -⟩ := newType_eq_ok.mp made
  simpa only [roots_retainAll] using (allocate_eq_ok.mp named).1

theorem members_of_newType {space after : Space β} (sound : space.heap.Sound) {name : String} {bases : List Handle}
    {members : List (String × Handle)} {type : Handle} (made : (newType name bases members).run space = .ok (type, after)) :
    ∃ contents, after.heap.get? type = some (.typeObject contents) ∧
      ∀ member ∈ members, contents.members.get? member.1 = some member.2 := by
  obtain ⟨-, faultless, parents, label, middle, -, -, -, named, made⟩ := newType_eq_ok.mp made
  obtain ⟨-, rfl, rfl⟩ := allocate_eq_ok.mp named
  obtain ⟨-, rfl, rfl⟩ := allocate_eq_ok.mp made
  have soundNamed := Heap.sound_allocate (sound_retainAll (sound_retainAll sound parents) (members.map (·.2))) (.str name)
  obtain ⟨admissible, once⟩ := memberFault?_eq_none.mp faultless
  refine ⟨_, (Heap.get?_allocate soundNamed _ _).trans (if_pos rfl), fun member listed => ?_⟩
  have named : member.1 ∈ members.map (·.1) := List.mem_map_of_mem listed
  have apart : member.1 ≠ "__name__" := fun same => (admissible _ named).2.1 (by simp [same, reservedNames])
  rw [Bindings.get?_insert, if_neg apart]
  exact Bindings.get?_ofList_of_mem once listed

theorem balanced_newType (extent : Extent) (name : String) (bases : List Handle)
    (members : List (String × Handle)) :
    Op.Balanced (β := β) extent 0 (newType name bases members) ({·}) := by
  intro space frame exact type after ran
  obtain ⟨-, faultless, parents, nameHandle, middle, -, based, live, named, made⟩ := newType_eq_ok.mp ran
  rw [retainAll_append] at named
  have listed : ∀ handle ∈ parents ++ members.map (·.2), ∃ cell, space.heap.cell? handle = some cell := by
    intro handle member
    rcases List.mem_append.mp member with base | value
    · obtain ⟨contents, found, -⟩ := checkBase_eq_ok.mp (based handle base)
      exact exists_cell_of_object found
    · obtain ⟨pair, paired, rfl⟩ := List.mem_map.mp value
      obtain ⟨object, found⟩ := live pair paired
      exact exists_cell_of_object found
  have counted := path_retainAll extent exact fun _ => listed
  obtain ⟨started, rfl, rfl⟩ := allocate_eq_ok.mp named
  obtain ⟨startedThen, rfl, rfl⟩ := allocate_eq_ok.mp made
  refine ⟨(counted.trans ?_).trans (path_allocate extent startedThen _ 0), Or.inr startedThen⟩
  simp only [children_newType faultless, add_zero]
  exact path_allocate extent started (.str name) ((parents ++ members.map (·.2) : List Handle))

theorem balanced_importedModule (extent : Extent) (name : String) :
    Op.Balanced (β := β) extent 0 (importedModule name) fun found => (found.toList : Multiset Handle) := by
  intro space frame exact result after ran
  simp only [importedModule, run_bind_eq_ok, run_read_eq_ok, run_get_eq_ok] at ran
  obtain ⟨roots, _, ⟨-, rfl⟩, _, _, ⟨rfl, rfl⟩, ran⟩ := ran
  cases listed : space.modules.get? name with
  | none =>
    simp only [listed, run_pure_eq_ok] at ran
    obtain ⟨rfl, rfl⟩ := ran
    exact ⟨.refl, Or.inl rfl⟩
  | some module =>
    simp only [listed, run_map_eq_ok] at ran
    obtain ⟨handle, ran, rfl⟩ := ran
    exact balanced_acquire extent module space frame exact handle after ran

theorem importedModule_eq_none {name : String} {space after : Space β}
    (ran : (importedModule name).run space = .ok (none, after)) :
    space.modules.get? name = none ∧ space = after := by
  simp only [importedModule, run_bind_eq_ok, run_read_eq_ok, run_get_eq_ok] at ran
  obtain ⟨roots, _, ⟨-, rfl⟩, _, _, ⟨rfl, rfl⟩, ran⟩ := ran
  cases listed : space.modules.get? name with
  | none =>
    simp only [listed, run_pure_eq_ok] at ran
    exact ⟨rfl, ran.2⟩
  | some module =>
    simp only [listed, run_map_eq_ok] at ran
    obtain ⟨handle, -, same⟩ := ran
    simp at same

theorem importedModule_eq_some {name : String} {space after : Space β} {module : Handle}
    (ran : (importedModule name).run space = .ok (some module, after)) :
    space.modules.get? name = some module ∧ after = space.retain module := by
  simp only [importedModule, run_bind_eq_ok, run_read_eq_ok, run_get_eq_ok] at ran
  obtain ⟨roots, _, ⟨-, rfl⟩, _, _, ⟨rfl, rfl⟩, ran⟩ := ran
  cases listed : space.modules.get? name with
  | none =>
    simp only [listed, run_pure_eq_ok] at ran
    cases ran.1
  | some other =>
    simp only [listed, run_map_eq_ok] at ran
    obtain ⟨handle, ran, same⟩ := ran
    obtain ⟨-, rfl, rfl⟩ := acquire_eq_ok.mp ran
    cases same
    exact ⟨rfl, rfl⟩

@[simp] theorem modules_retain (space : Space β) (handle : Handle) :
    (space.retain handle).modules = space.modules :=
  rfl

@[simp] theorem modules_release (space : Space β) (handle : Handle) :
    (space.release handle).modules = space.modules :=
  rfl

@[simp] theorem modules_bindGlobal (space : Space β) (module : Handle) (name : String) (value : Handle) :
    (space.bindGlobal module name value).modules = space.modules := by
  unfold bindGlobal
  split
  · split <;> rfl
  · rfl

@[simp] theorem roots_bindGlobal (space : Space β) (module : Handle) (name : String) (value : Handle) :
    (space.bindGlobal module name value).roots = space.roots := by
  unfold bindGlobal
  split
  · split <;> rfl
  · rfl

theorem path_bindGlobal {space : Space β} {held frame : Multiset Handle} {module value : Handle}
    (name : String) (exact : space.Exact (value ::ₘ held + frame))
    (isModule : ∃ object, space.heap.get? module = some object ∧ object.kind = .moduleObject) :
    Path .lasting (space, value ::ₘ held) (space.bindGlobal module name value, held) := by
  obtain ⟨object, found, kind⟩ := isModule
  cases object with
  | moduleObject contents =>
    have started := started_of_get? exact found
    have changed : Path .lasting (space, value ::ₘ held)
        (space.update module fun _ => .moduleObject { contents with globals := contents.globals.insert name value },
          ((contents.globals.get? name).toList : Multiset Handle) + held) := by
      refine path_update (.moduleObject contents) started found (.moduleObject _ _) ?_
      have bound := contents.globals.values_insert name value
      rw [Object.children, Object.children, ← add_assoc, bound, Multiset.add_cons, Multiset.cons_add]
    simp only [bindGlobal, found]
    cases earlier : contents.globals.get? name with
    | none => simpa [earlier] using changed
    | some handle =>
      rw [earlier] at changed
      exact changed.trans (path_release .lasting (Path.exact changed exact))
  | _ => simp [Object.kind] at kind

/-- The space with one more function of the module, which is bound under its name. -/
def addFunction (space : Space β) (module : Handle) (name : String) (body : β) : Space β :=
  let made := (space.retain module).heap.allocate (.function { name, bound := some module, body })
  { space.retain module with heap := made.2 }.bindGlobal module name made.1

theorem run_addFunctions_cons {functions : List (String × β)} {name : String} {body : β} {module : Handle}
    {space after : Space β} {result : PUnit} :
    (forM ((name, body) :: functions) fun (name, body) => do
      modify (·.retain module)
      let function ← allocate (.function { name, bound := some module, body })
      modify (·.bindGlobal module name function) : Op β PUnit).run space = .ok (result, after) ↔
    space.roots.isSome ∧
      (forM functions fun (name, body) => do
        modify (·.retain module)
        let function ← allocate (.function { name, bound := some module, body })
        modify (·.bindGlobal module name function) : Op β PUnit).run (space.addFunction module name body) =
        .ok (result, after) := by
  simp only [List.forM_cons, run_bind_eq_ok, run_modify_eq_ok, allocate_eq_ok]
  constructor
  · rintro ⟨_, last, ⟨_, _, rfl, handle, made, ⟨started, rfl, rfl⟩, rfl⟩, ran⟩
    exact ⟨started, ran⟩
  · rintro ⟨started, ran⟩
    exact ⟨⟨⟩, _, ⟨⟨⟩, _, rfl, _, _, ⟨started, rfl, rfl⟩, rfl⟩, ran⟩

theorem path_addFunction {module : Handle} {space : Space β} {frame : Multiset Handle} (exact : space.Exact frame)
    (outside : module ∈ frame)
    (isModule : ∃ object, space.heap.get? module = some object ∧ object.kind = .moduleObject) (name : String)
    (body : β) :
    Path .lasting (space, 0) (space.addFunction module name body, 0) ∧
      (space.addFunction module name body).modules = space.modules ∧
      ∃ object, (space.addFunction module name body).heap.get? module = some object ∧ object.kind = .moduleObject := by
  obtain ⟨object, found, kind⟩ := isModule
  obtain ⟨cell, here, -⟩ := Heap.cell_of_get? found
  have began := started_of_get? exact found
  have started : (space.retain module).roots.isSome := began
  have within : space.Exact (0 + frame) := by simpa using exact
  have counted : Path .lasting (space, 0) _ := path_retain .lasting within fun _ => ⟨cell, here⟩
  have created := counted.trans
    (path_allocate .lasting started (.function { name, bound := some module, body }) 0)
  have stillModule := Path.kept (fun _ _ changes => changes.kind_eq.trans) created within outside
    ⟨object, found, kind⟩ started
  have bound := created.trans (path_bindGlobal name (Path.exact created within) stillModule)
  have again := Path.kept (fun _ _ changes => changes.kind_eq.trans) bound within outside
    ⟨object, found, kind⟩ (by simpa using started)
  exact ⟨bound, modules_bindGlobal _ _ _ _, again⟩

theorem path_addFunctions {functions : List (String × β)} {module : Handle} {space after : Space β}
    {frame : Multiset Handle} {result : PUnit} (exact : space.Exact frame) (outside : module ∈ frame)
    (isModule : ∃ object, space.heap.get? module = some object ∧ object.kind = .moduleObject)
    (ran : (forM functions fun (name, body) => do
      modify (·.retain module)
      let function ← allocate (.function { name, bound := some module, body })
      modify (·.bindGlobal module name function) : Op β PUnit).run space = .ok (result, after)) :
    Path .lasting (space, 0) (after, 0) ∧ after.modules = space.modules ∧ after.roots.isSome := by
  induction functions generalizing space with
  | nil =>
    obtain ⟨-, rfl⟩ := run_pure_eq_ok.mp ran
    obtain ⟨object, found, -⟩ := isModule
    exact ⟨.refl, rfl, started_of_get? exact found⟩
  | cons function rest ih =>
    obtain ⟨name, body⟩ := function
    obtain ⟨-, ranRest⟩ := run_addFunctions_cons.mp ran
    obtain ⟨bound, modules, again⟩ := path_addFunction exact outside isModule name body
    have within : space.Exact (0 + frame) := by simpa using exact
    obtain ⟨others, listed, startedThen⟩ := ih (by simpa using Path.exact bound within) again ranRest
    exact ⟨bound.trans others, listed.trans modules, startedThen⟩

theorem path_newModule {space labelled created : Space β} {frame : Multiset Handle} {name : String}
    {label module : Handle} (exact : space.Exact frame)
    (ranLabel : (newText name).run space = .ok (label, labelled))
    (ranModule : (allocate (.moduleObject { name, globals := .singleton "__name__" label })).run labelled =
      .ok (module, created)) :
    Path .lasting (space, 0) (created, {module}) ∧
      created.heap.get? module = some (.moduleObject { name, globals := .singleton "__name__" label }) := by
  have within : space.Exact (0 + frame) := by simpa using exact
  have pathLabelled : Path .lasting (space, 0) (labelled, {label}) :=
    (balanced_newText .lasting name space frame within label labelled ranLabel).1
  have exactLabelled := Path.exact pathLabelled within
  have pathMade := (balanced_allocate .lasting (.moduleObject { name, globals := .singleton "__name__" label })
    labelled frame (by simpa [Object.children] using exactLabelled) module created ranModule).1
  simp only [Object.children, Bindings.values_singleton, Multiset.coe_singleton] at pathMade
  obtain ⟨started, madeEq, createdEq⟩ := allocate_eq_ok.mp ranModule
  refine ⟨pathLabelled.trans pathMade, ?_⟩
  simp [createdEq, madeEq, Heap.get?_allocate (exactLabelled.started started).sound]

theorem path_createModule {name : String} {definition : Definition β} {space after : Space β}
    {frame : Multiset Handle} {module : Handle} (exact : space.Exact frame)
    (free : space.modules.get? name = none)
    (ran : (createModule name definition).run space = .ok (module, after)) :
    Path .lasting (space, 0) (after, {module}) ∧ ((({module} : Multiset Handle) = 0) ∨ after.roots.isSome) := by
  simp only [createModule, List.forM_eq_forM, run_bind_eq_ok, run_modify_eq_ok] at ran
  obtain ⟨label, labelled, ranLabel, made, created, ranModule, _, filled, ranFunctions, _, _, rfl,
    ranAcquire⟩ := ran
  have within : space.Exact (0 + frame) := by simpa using exact
  obtain ⟨pathCreated, found⟩ := path_newModule exact ranLabel ranModule
  obtain ⟨pathFunctions, listed, startedThen⟩ := path_addFunctions (Path.exact pathCreated within)
    (Multiset.mem_add.mpr (Or.inl (Multiset.mem_singleton_self made))) ⟨_, found, rfl⟩ ranFunctions
  have pathFilled := pathCreated.trans (by simpa using Path.frame pathFunctions {made})
  have unlisted : filled.modules.get? name = none := by
    rw [listed, (allocate_eq_ok.mp ranModule).2.2, (allocate_eq_ok.mp ranLabel).2.2]
    exact free
  have enlisted : Step .lasting (filled, made ::ₘ 0)
      ({ filled with modules := filled.modules.insert name made }, 0) := .enlist startedThen unlisted
  have pathListed := pathFilled.tail enlisted
  obtain ⟨pathAcquired, answered⟩ :=
    balanced_acquire .lasting made _ frame (Path.exact pathListed within) module after ranAcquire
  exact ⟨pathListed.trans pathAcquired, answered⟩

theorem path_clearModule {space : Space β} {frame : Multiset Handle} (module : Handle)
    (exact : space.Exact frame) : Path .lasting (space, 0) (space.clearModule module, 0) := by
  unfold clearModule
  split
  · rename_i contents found
    have within : space.Exact (0 + frame) := by simpa using exact
    have changed : Path .lasting (space, 0)
        (space.update module fun _ => .moduleObject { contents with globals := .empty },
          (contents.globals.values : Multiset Handle)) :=
      path_update (.moduleObject contents) (started_of_get? exact found) found (.moduleObject _ _) (by
        simp [Object.children])
    exact changed.trans (path_releaseAll_zero .lasting (Path.exact changed within))
  · exact .refl

theorem path_forgetModule {space : Space β} {frame : Multiset Handle} (name : String)
    (exact : space.Exact frame) : Path .lasting (space, 0) (space.forgetModule name, 0) := by
  unfold forgetModule
  split
  · rename_i module listed
    have within : space.Exact (0 + frame) := by simpa using exact
    have parted : Path .lasting (space, 0) _ := .single (.delist listed)
    have kept := Path.exact parted within
    have cleared := Path.frame (path_clearModule module kept) (module ::ₘ 0)
    rw [zero_add] at cleared
    have emptied := parted.trans cleared
    exact emptied.trans (path_release .lasting (Path.exact emptied within))
  · exact .refl

end Space

end ObjectBridge.Guest

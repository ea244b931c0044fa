import ObjectBridge.Proofs.Space.Naming

/-!
How types come to be. All that can be wrong with a new type is looked for in the space as it is, and then it is made
without fail: its label and the type itself are the only new objects, and nothing else is changed but counts of
references.
-/

namespace ObjectBridge.Guest

variable {α β : Type}

def Object.Titled (root handle : Handle) : Object β → Prop
  | .typeObject contents => contents.builtin = true → (contents.name = "object" ↔ handle = root)
  | _ => True

theorem Object.titled_of_plain {root handle : Handle} {object : Object β} (plain : object.kind ≠ .typeObject) :
    object.Titled root handle := by
  cases object with
  | typeObject contents => exact absurd rfl plain
  | _ => trivial

theorem initial_titled (root : Handle) : Initial root fun handle (object : Object β) => object.Titled root handle := by
  constructor
  case plain => exact fun _ _ plain => Object.titled_of_plain plain
  case first => exact fun _ _ => ⟨fun _ => rfl, fun _ => rfl⟩
  case derived =>
    intro handle name label other listed _
    have different : name ≠ "object" := by
      rintro rfl
      simp [derivedTypeNames] at listed
    exact ⟨fun same => absurd same different, fun same => absurd same other⟩

def Trait.titled : Trait β where
  holds handle object := ∀ roots, (Space.start : Space β).roots = some roots → object.Titled roots.object handle
  plain _ _ plain _ _ := Object.titled_of_plain plain
  started := by
    obtain ⟨first, rooted, -, -, each⟩ := Space.exists_initial_start (β := β)
    intro handle object found roots same
    obtain rfl := Option.some.inj (rooted.symm.trans same)
    exact each _ (initial_titled first.object) handle object found
  made _ contents made _ _ _ builtin := absurd builtin (by simp [made])
  bound _ contents _ _ made _ _ _ builtin := absurd builtin (by simp [made])

def Object.IsBuiltin (object : Object β) (name : String) : Prop :=
  ∃ contents, object = .typeObject contents ∧ contents.builtin = true ∧ contents.name = name

theorem Object.Changes.isBuiltin {object object' : Object β} {name : String}
    (changes : Object.Changes object object') (builtin : object.IsBuiltin name) : object'.IsBuiltin name := by
  obtain ⟨contents, rfl, builtin, -⟩ := builtin
  cases changes with
  | typeObject _ _ made => simp [made] at builtin

namespace Space

open Op

variable {space : Space β} {name : String} {bases : List Handle} {members : List (String × Handle)}

theorem Path.first {extent : Extent} {held : Multiset Handle} {roots : Roots}
    (path : Path extent (start, 0) (space, held)) (rooted : space.roots = some roots) :
    ∃ contents, space.heap.get? roots.object = some (.typeObject contents) ∧ contents.builtin = true ∧
      contents.name = "object" := by
  have started : space.roots.isSome := by simp [rooted]
  obtain ⟨first, rootedFirst, based, ⟨label, found⟩, -⟩ := exists_initial_start (β := β)
  obtain rfl : first = roots := Option.some.inj (rootedFirst.symm.trans ((path.roots_eq started).symm.trans rooted))
  have exact : (start : Space β).Exact (0 + 0) := exact_start
  have root : first.object ∈ (start : Space β).rootHandles := by
    rw [rootHandles, rootedFirst, Option.map_some, Option.getD_some]
    exact List.mem_append_right _ (Bindings.mem_values.mpr ⟨_, based⟩)
  obtain ⟨object, there, contents, rfl, builtin, named⟩ :=
    path.kept_of (fun _ _ changes => changes.isBuiltin) exact (Or.inr root) ⟨_, found, _, rfl, rfl, rfl⟩ started
  exact ⟨contents, there, builtin, named⟩

theorem run_forM_read {check : α → Space β → Except Exception PUnit} (items : List α) :
    (forM items fun item => (read (check item) : Op β PUnit)).run space =
      (forM items (check · space)).map fun _ => (⟨⟩, space) := by
  induction items with
  | nil => rfl
  | cons item rest ih =>
    rw [List.forM_cons, List.forM_cons, StateT.run_bind, run_read]
    cases check item space with
    | error exception => rfl
    | ok _ => exact ih

theorem run_bind_forM_read {γ : Type} {check : α → Space β → Except Exception PUnit} (items : List α) (next : Op β γ) :
    (do forM items fun item => read (check item); next : Op β γ).run space =
      (do forM items (check · space); next.run space) := by
  rw [StateT.run_bind, run_forM_read]
  cases forM items (check · space) <;> rfl

theorem discard_read (reader : Space β → Except Exception α) :
    (discard (read reader) : Op β Unit) = read fun space => discard (reader space) := by
  funext space
  change (discard (read reader) : Op β Unit).run space = (read fun space => discard (reader space)).run space
  rw [Functor.discard, LawfulFunctor.map_const, Function.comp_apply, StateT.run_map, run_read, run_read]
  cases reader space <;> rfl

def checkType (space : Space β) (name : String) (bases : List Handle) (members : List (String × Handle)) :
    Except Exception (List Handle) := do
  if !Text.isIdentifier name then throw (.typeNameNotIdentifier name)
  match memberFault? [] (members.map (·.1)) with
  | some fault => throw fault
  | none => pure ()
  let bases ← if bases.isEmpty then pure [(← space.rootsNow).object] else pure bases
  bases.forM space.checkBase
  members.forM fun member => discard (space.object member.2)
  return bases

def addType (space : Space β) (name : String) (bases : List Handle) (members : List (String × Handle)) :
    Handle × Space β :=
  let counted := (space.retainAll bases).retainAll (members.map (·.2))
  let (label, heap) := counted.heap.allocate (.str name)
  let (type, heap) := heap.allocate (.typeObject
    { name, bases, members := (Bindings.ofList members).insert "__name__" label, builtin := false })
  (type, { counted with heap })

theorem run_addType (started : space.roots.isSome) :
    (do
      modify fun space => (space.retainAll bases).retainAll (members.map (·.2))
      let nameHandle ← allocate (.str name)
      allocate (.typeObject
        { name, bases, members := (Bindings.ofList members).insert "__name__" nameHandle, builtin := false }) :
      Op β Handle).run space = .ok (space.addType name bases members) := by
  let counted := (space.retainAll bases).retainAll (members.map (·.2))
  have startedCounted : counted.roots.isSome := by rwa [roots_retainAll, roots_retainAll]
  refine run_bind_eq_ok.mpr ⟨⟨⟩, counted, rfl, ?_⟩
  refine run_bind_eq_ok.mpr ⟨_, _, allocate_eq_ok.mpr ⟨startedCounted, rfl, rfl⟩, ?_⟩
  exact allocate_eq_ok.mpr ⟨startedCounted, rfl, rfl⟩

theorem run_newType_eq :
    (newType name bases members).run space =
      (space.checkType name bases members).map (space.addType name · members) := by
  unfold newType checkType
  by_cases identifier : Text.isIdentifier name = true
  case neg =>
    simp only [identifier]
    rfl
  simp only [identifier]
  cases memberFault? [] (members.map (·.1)) with
  | some fault => rfl
  | none =>
    have passed (parents : List Handle) (started : space.roots.isSome) :
        (do
          forM parents fun base => read (·.checkBase base)
          forM members fun member => discard (read (·.object member.2))
          modify fun space => (space.retainAll parents).retainAll (members.map (·.2))
          let nameHandle ← allocate (.str name)
          allocate (.typeObject
            { name, bases := parents, members := (Bindings.ofList members).insert "__name__" nameHandle,
              builtin := false }) : Op β Handle).run space =
        (do
          forM parents space.checkBase
          forM members fun member => discard (space.object member.2)
          return parents : Except Exception (List Handle)).map (space.addType name · members) := by
      simp only [discard_read, run_bind_forM_read]
      cases forM parents space.checkBase with
      | error exception => rfl
      | ok _ =>
        cases forM members fun member => discard (space.object member.2) with
        | error exception => rfl
        | ok _ => exact run_addType started
    -- A space that is finalized is refused with the first look at it.
    obtain ⟨heap, roots, modules, definitions⟩ := space
    cases roots with
    | none => cases bases <;> rfl
    | some roots =>
      cases bases with
      | nil => exact passed [roots.object] rfl
      | cons base rest => exact passed (base :: rest) rfl

/-- What may be asked for: a type of a name, with bases from which types may derive, and with members that are not set
aside for other uses. -/
structure Acceptable (space : Space β) (name : String) (bases : List Handle) (members : List (String × Handle)) :
    Prop where
  name : Text.isIdentifier name = true
  keys : ∀ key ∈ members.map (·.1), Text.isIdentifier key = true ∧ key ∉ reservedNames
  once : (members.map (·.1)).Nodup
  bases : ∀ base ∈ bases, ∃ contents, space.heap.get? base = some (.typeObject contents) ∧
    (space.roots.map (·.object) = some base ∨ contents.builtin = false)

theorem checkBase_iff {held : Multiset Handle} {roots : Roots} {base : Handle}
    (path : Path .lasting (start, 0) (space, held)) (titled : Trait.titled.Holds space)
    (rooted : space.roots = some roots) :
    space.checkBase base = .ok ⟨⟩ ↔ ∃ contents, space.heap.get? base = some (.typeObject contents) ∧
      (space.roots.map (·.object) = some base ∨ contents.builtin = false) := by
  have started : space.roots.isSome := by simp [rooted]
  have first := path.roots_eq started
  rw [checkBase_eq_ok]
  apply exists_congr
  intro contents
  rw [object_eq_ok, and_iff_right started]
  apply and_congr_right
  intro found
  have called : contents.builtin = true → (contents.name = "object" ↔ base = roots.object) :=
    titled base _ found roots (first.symm.trans rooted)
  rw [rooted, Option.map_some, Option.some_inj]
  cases builtin : contents.builtin with
  | true => simp [called builtin, eq_comm]
  | false => simp

theorem newType_eq_addType {type : Handle} {after : Space β} :
    (newType name bases members).run space = .ok (type, after) ↔
      Text.isIdentifier name = true ∧ memberFault? [] (members.map (·.1)) = none ∧
        ∃ parents, space.parents bases = some parents ∧ (∀ base ∈ parents, space.checkBase base = .ok ⟨⟩) ∧
          (∀ member ∈ members, ∃ object, space.object member.2 = .ok object) ∧
          space.roots.isSome ∧ (type, after) = space.addType name parents members := by
  rw [newType_eq_ok]
  refine and_congr_right fun _ => and_congr_right fun _ => ?_
  constructor
  · rintro ⟨parents, label, middle, based, checked, live, named, made⟩
    obtain ⟨started, rfl, rfl⟩ := allocate_eq_ok.mp named
    obtain ⟨-, rfl, rfl⟩ := allocate_eq_ok.mp made
    exact ⟨parents, based, checked, live, by simpa using started, rfl⟩
  · rintro ⟨parents, based, checked, live, started, same⟩
    obtain ⟨rfl, rfl⟩ := Prod.mk.inj same
    refine ⟨parents, _, _, based, checked, live, allocate_eq_ok.mpr ⟨by simpa using started, rfl, rfl⟩, ?_⟩
    exact allocate_eq_ok.mpr ⟨by simpa using started, rfl, rfl⟩

theorem parents_eq {roots : Roots} (rooted : space.roots = some roots) (bases : List Handle) :
    space.parents bases = some (if bases = [] then [roots.object] else bases) := by
  cases bases with
  | nil => simp [parents, rooted]
  | cons base rest => rfl

theorem newType_isOk_iff {held : Multiset Handle} (path : Path .lasting (start, 0) (space, held))
    (titled : Trait.titled.Holds space) (started : space.roots.isSome) (live : ∀ member ∈ members, space.Has member.2) :
    (∃ made, (newType name bases members).run space = .ok made) ↔ space.Acceptable name bases members := by
  obtain ⟨roots, rooted⟩ := Option.isSome_iff_exists.mp started
  have values : ∀ member ∈ members, ∃ object, space.object member.2 = .ok object := by
    intro member listed
    obtain ⟨object, found⟩ := live member listed
    exact ⟨object, object_eq_ok.mpr ⟨started, found⟩⟩
  constructor
  · rintro ⟨⟨type, after⟩, made⟩
    obtain ⟨identifier, faultless, parents, based, checked, -⟩ := newType_eq_addType.mp made
    obtain ⟨admissible, once⟩ := memberFault?_eq_none.mp faultless
    refine ⟨identifier, fun key listed => ⟨(admissible key listed).1, (admissible key listed).2.1⟩, once, ?_⟩
    intro base listed
    obtain rfl := Option.some.inj ((parents_eq rooted bases).symm.trans based)
    rw [if_neg (List.ne_nil_of_mem listed)] at checked
    exact (checkBase_iff path titled rooted).mp (checked base listed)
  · intro acceptable
    have faultless : memberFault? [] (members.map (·.1)) = none := by
      refine memberFault?_eq_none.mpr ⟨fun key listed => ?_, acceptable.once⟩
      obtain ⟨identifier, free⟩ := acceptable.keys key listed
      exact ⟨identifier, free, List.not_mem_nil⟩
    have checked : ∀ base ∈ if bases = [] then [roots.object] else bases, space.checkBase base = .ok ⟨⟩ := by
      intro base listed
      apply (checkBase_iff path titled rooted).mpr
      split at listed
      · obtain ⟨contents, found, -, -⟩ := path.first rooted
        obtain rfl := List.mem_singleton.mp listed
        exact ⟨contents, found, Or.inl (by simp [rooted])⟩
      · exact acceptable.bases base listed
    exact ⟨_, newType_eq_addType.mpr
      ⟨acceptable.name, faultless, _, parents_eq rooted bases, checked, values, started, rfl⟩⟩

theorem cell?_retainAll (space : Space β) (handles : List Handle) (other : Handle) :
    (space.retainAll handles).heap.cell? other =
      (space.heap.cell? other).map fun cell => { cell with count := cell.count + handles.count other } := by
  unfold retainAll
  induction handles generalizing space with
  | nil => simp
  | cons handle rest ih =>
    rw [List.foldl_cons, ih, retain, Heap.cell?_acquire]
    by_cases same : other = handle
    · subst same
      simp [Option.map_map, Function.comp_def, Nat.add_assoc, Nat.add_comm 1]
    · simp [same, Ne.symm same]

theorem live_retainAll (space : Space β) (handles : List Handle) :
    (space.retainAll handles).heap.live = space.heap.live := by
  unfold retainAll
  induction handles generalizing space with
  | nil => rfl
  | cons handle rest ih =>
    rw [List.foldl_cons, ih, retain, Heap.acquire]
    split <;> rfl

/-- A type is new in the space, with its label: each has one reference, and each of the bases and the values has as many
more as it is listed. -/
structure AddsType (space : Space β) (name : String) (bases : List Handle) (members : List (String × Handle))
    (type label : Handle) (after : Space β) : Prop where
  apart : type ≠ label
  new : space.heap.cell? type = none ∧ space.heap.cell? label = none
  made : ∃ contents, after.heap.cell? type = some { count := 1, object := .typeObject contents } ∧
    contents.name = name ∧ contents.bases = bases ∧ contents.builtin = false ∧
      ∀ key value, contents.members.get? key = some value ↔ key = "__name__" ∧ value = label ∨ (key, value) ∈ members
  labelled : after.heap.cell? label = some { count := 1, object := .str name }
  others : ∀ other, other ≠ type → other ≠ label → after.heap.cell? other = (space.heap.cell? other).map fun cell =>
    { cell with count := cell.count + (bases ++ members.map (·.2)).count other }
  live : after.heap.live = space.heap.live + 2
  roots : after.roots = space.roots
  modules : after.modules = space.modules
  definitions : after.definitions = space.definitions

theorem live_allocate (heap : Heap (Object β)) (object : Object β) :
    (heap.allocate object).2.live = heap.live + 1 := by
  unfold Heap.allocate
  split <;> rfl

theorem addsType_addType (bases : List Handle) (sound : space.heap.Sound)
    (faultless : memberFault? [] (members.map (·.1)) = none) :
    ∃ label, space.AddsType name bases members (space.addType name bases members).1 label
      (space.addType name bases members).2 := by
  obtain ⟨admissible, once⟩ := memberFault?_eq_none.mp faultless
  let counted := (space.retainAll bases).retainAll (members.map (·.2))
  have soundCounted : counted.heap.Sound := sound_retainAll (sound_retainAll sound _) _
  let named := counted.heap.allocate (.str name)
  have soundNamed : named.2.Sound := Heap.sound_allocate soundCounted _
  let contents : TypeObject :=
    { name, bases, members := (Bindings.ofList members).insert "__name__" named.1, builtin := false }
  let made := named.2.allocate (.typeObject contents)
  have labelled : named.2.cell? named.1 = some { count := 1, object := .str name } :=
    (Heap.cell?_allocate soundCounted _ _).trans (if_pos rfl)
  have free : named.2.cell? made.1 = none := Heap.cell?_fst_allocate soundNamed _
  have apart : made.1 ≠ named.1 := by
    intro same
    rw [same, labelled] at free
    cases free
  have before (other : Handle) : counted.heap.cell? other = (space.heap.cell? other).map fun cell =>
      { cell with count := cell.count + (bases ++ members.map (·.2)).count other } := by
    rw [cell?_retainAll, cell?_retainAll, Option.map_map]
    simp [Function.comp_def, Nat.add_assoc]
  have unknown {handle : Handle} (vacant : counted.heap.cell? handle = none) : space.heap.cell? handle = none := by
    rwa [before, Option.map_eq_none_iff] at vacant
  refine ⟨named.1, ?_⟩
  constructor
  case apart => exact apart
  case new =>
    rw [Heap.cell?_allocate soundCounted, if_neg apart] at free
    exact ⟨unknown free, unknown (Heap.cell?_fst_allocate soundCounted _)⟩
  case made =>
    refine ⟨contents, (Heap.cell?_allocate soundNamed _ _).trans (if_pos rfl), rfl, rfl, rfl, ?_⟩
    intro key value
    have reserved : ∀ key ∈ members.map (·.1), key ≠ "__name__" := by
      rintro key listed rfl
      exact (admissible _ listed).2.1 (by simp [reservedNames])
    rw [Bindings.get?_insert]
    split
    · rename_i same
      subst same
      have unlisted : ("__name__", value) ∉ members := fun listed => reserved _ (List.mem_map_of_mem listed) rfl
      simp [unlisted, eq_comm]
    · rename_i other
      simp [other, Bindings.get?_ofList_eq_some once]
  case labelled => exact (Heap.cell?_allocate soundNamed _ _).trans ((if_neg apart.symm).trans labelled)
  case others =>
    intro other notType notLabel
    refine (Heap.cell?_allocate soundNamed _ _).trans ((if_neg notType).trans ?_)
    exact (Heap.cell?_allocate soundCounted _ _).trans ((if_neg notLabel).trans (before other))
  case live =>
    have kept : counted.heap.live = space.heap.live := by rw [live_retainAll, live_retainAll]
    rw [← kept]
    exact (live_allocate _ _).trans (congrArg (· + 1) (live_allocate _ _))
  case roots => exact (roots_retainAll _ _).trans (roots_retainAll _ _)
  case modules => exact (modules_retainAll _ _).trans (modules_retainAll _ _)
  case definitions => exact (definitions_retainAll _ _).trans (definitions_retainAll _ _)

theorem addsType_of_newType {roots : Roots} {type : Handle} {after : Space β} (sound : space.heap.Sound)
    (rooted : space.roots = some roots) (made : (newType name bases members).run space = .ok (type, after)) :
    ∃ label, space.AddsType name (if bases = [] then [roots.object] else bases) members type label after := by
  obtain ⟨-, faultless, parents, based, -, -, -, added⟩ := newType_eq_addType.mp made
  obtain rfl := Option.some.inj ((parents_eq rooted bases).symm.trans based)
  obtain ⟨label, adds⟩ := addsType_addType _ sound faultless
  rw [← added] at adds
  exact ⟨label, adds⟩

end Space

end ObjectBridge.Guest

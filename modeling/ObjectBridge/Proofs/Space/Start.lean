import ObjectBridge.Proofs.Space.Exact

/-!
A space that is started is exact, and nothing is held from outside: each builtin type and constant has
one reference from the roots, besides those from objects.
-/

namespace ObjectBridge.Guest

variable {β : Type}

/-- If the object is a type, it is a builtin one that defines its name alone and derives from the root at most. -/
def Object.Native (root : Handle) : Object β → Prop
  | .typeObject contents =>
    contents.builtin = true ∧ (∃ label, contents.members = .singleton "__name__" label) ∧
      ∀ base ∈ contents.bases, base = root
  | _ => True

theorem Object.Changes.native {root : Handle} {object object' : Object β} (changes : Object.Changes object object')
    (native : object.Native root) : object'.Native root := by
  cases changes with
  | typeObject contents members made =>
    have builtin : contents.builtin = true := native.1
    simp [made] at builtin
  | _ => trivial

def Heap.Each (heap : Heap (Object β)) (property : Handle → Object β → Prop) : Prop :=
  ∀ handle object, heap.get? handle = some object → property handle object

def Heap.Native (heap : Heap (Object β)) (root : Handle) : Prop :=
  ∀ handle object, heap.get? handle = some object → object.Native root

/-- What holds of the objects that a space starts with: of the first type, of those that derive from it, and of all that
are no types. -/
structure Initial (root : Handle) (property : Handle → Object β → Prop) : Prop where
  plain : ∀ handle object, object.kind ≠ .typeObject → property handle object
  first : ∀ label, property root
    (.typeObject { name := "object", bases := [], members := .singleton "__name__" label, builtin := true })
  derived : ∀ handle name label, handle ≠ root → name ∈ derivedTypeNames → property handle
    (.typeObject { name, bases := [root], members := .singleton "__name__" label, builtin := true })

theorem initial_native (root : Handle) : Initial root fun _ (object : Object β) => object.Native root := by
  constructor
  case plain =>
    intro _ object other
    cases object with
    | typeObject contents => exact absurd rfl other
    | _ => trivial
  case first => exact fun label => ⟨rfl, ⟨label, rfl⟩, by simp⟩
  case derived => exact fun _ name label _ _ => ⟨rfl, ⟨label, rfl⟩, by simp⟩

namespace Heap

variable {heap : Heap (Object β)} {property : Handle → Object β → Prop} {name : String} {bases : List Handle}

theorem each_empty : (empty : Heap (Object β)).Each property := by
  intro handle object found
  simp [get?, cell?_empty] at found

theorem Each.acquire (each : heap.Each property) (handle : Handle) : (heap.acquire handle).Each property := by
  intro other object found
  rw [get?_acquire] at found
  exact each other object found

theorem Each.allocate (each : heap.Each property) (sound : heap.Sound) {object : Object β}
    (made : property (heap.allocate object).1 object) : (heap.allocate object).2.Each property := by
  intro handle other found
  rw [get?_allocate sound] at found
  split at found
  · rename_i same
    obtain rfl := Option.some.inj found
    exact same ▸ made
  · exact each handle other found

theorem sound_builtinType (sound : heap.Sound) : (Space.builtinType heap name bases).2.Sound :=
  sound_allocate (sound_allocate sound _) _

theorem get?_builtinType_of_get? (name : String) (bases : List Handle) (sound : heap.Sound) {handle : Handle}
    {object : Object β} (found : heap.get? handle = some object) :
    (Space.builtinType heap name bases).2.get? handle = some object :=
  get?_allocate_of_get? (sound_allocate sound _) _ (get?_allocate_of_get? sound _ found)

theorem get?_builtinType (name : String) (bases : List Handle) (sound : heap.Sound) :
    (Space.builtinType heap name bases).2.get? (Space.builtinType heap name bases).1 = some (.typeObject
      { name, bases, members := .singleton "__name__" (heap.allocate (.str name)).1, builtin := true }) :=
  (get?_allocate (sound_allocate sound _) _ _).trans (if_pos rfl)

theorem get?_fst_builtinType (name : String) (bases : List Handle) (sound : heap.Sound) :
    heap.get? (Space.builtinType heap name bases).1 = none := by
  by_contra live
  obtain ⟨object, found⟩ := Option.ne_none_iff_exists'.mp live
  have later := get?_allocate_of_get? sound (.str name) found
  have free : (heap.allocate (.str name)).2.get? (Space.builtinType heap name bases).1 = none := by
    rw [get?, Space.builtinType, cell?_fst_allocate (sound_allocate sound _), Option.map_none]
  simp [free] at later

theorem Each.builtinType (each : heap.Each property) (sound : heap.Sound)
    (plain : ∀ handle object, object.kind ≠ .typeObject → property handle object)
    (made : ∀ label, property (Space.builtinType heap name bases).1
      (.typeObject { name, bases, members := .singleton "__name__" label, builtin := true })) :
    (Space.builtinType heap name bases).2.Each property := by
  have named : (heap.allocate (.str name)).2.Each property := each.allocate sound (plain _ _ nofun)
  exact named.allocate (sound_allocate sound _) (made _)

end Heap

namespace Space

theorem path_builtinType (changes : Handle → Object β → Object β → Prop) (heap : Heap (Object β))
    (name : String) (bases : List Handle) (held : Multiset Handle) :
    Heap.Path Object.children changes (heap, (bases : Multiset Handle) + held)
      ((builtinType heap name bases).2, (builtinType heap name bases).1 ::ₘ held) := by
  have named : Heap.Path Object.children changes (heap, (bases : Multiset Handle) + held)
      ((heap.allocate (.str name)).2,
        (heap.allocate (.str name)).1 ::ₘ ((bases : Multiset Handle) + held)) := by
    simpa [Object.children] using
      Heap.path_allocate Object.children changes heap (.str name) ((bases : Multiset Handle) + held)
  have made := Heap.path_allocate Object.children changes (heap.allocate (.str name)).2
    (.typeObject
      { name, bases, members := .singleton "__name__" (heap.allocate (.str name)).1, builtin := true }) held
  refine named.trans ?_
  rw [← Multiset.singleton_add, add_left_comm]
  simpa [builtinType, Object.children, ← Multiset.coe_add, add_assoc] using made

theorem path_derivedTypes (changes : Handle → Object β → Object β → Prop) {object : Handle}
    {names : List String} {types : Bindings Handle} {heap : Heap (Object β)}
    (exact : heap.Exact Object.children (types.values : Multiset Handle))
    (rooted : types.get? "object" = some object) (fresh : ∀ name ∈ names, types.get? name = none)
    (once : names.Nodup) :
    ∃ types' heap',
      names.foldl (fun (types, heap) name =>
        let (type, heap) := builtinType (heap.acquire object) name [object]
        (types.insert name type, heap)) (types, heap) = (types', heap') ∧
      types'.get? "object" = some object ∧
      (∀ name, (types.get? name).isSome ∨ name ∈ names → (types'.get? name).isSome) ∧
      Heap.Path Object.children changes (heap, (types.values : Multiset Handle))
        (heap', (types'.values : Multiset Handle)) := by
  induction names generalizing types heap with
  | nil => exact ⟨types, heap, rfl, rooted, fun name listed => by simpa using listed, .refl⟩
  | cons name rest ih =>
    obtain ⟨unlisted, onceLater⟩ := List.nodup_cons.mp once
    have free := fresh name List.mem_cons_self
    obtain ⟨cell, found⟩ := exact.exists_cell_of_held (Bindings.mem_values.mpr ⟨_, rooted⟩)
    have made : Heap.Path Object.children changes (heap, (types.values : Multiset Handle))
        ((builtinType (heap.acquire object) name [object]).2,
          ((types.insert name (builtinType (heap.acquire object) name [object]).1).values :
            Multiset Handle)) := by
      rw [Bindings.values_insert_of_none free]
      have typed := path_builtinType changes (heap.acquire object) name [object] (types.values : Multiset Handle)
      rw [Multiset.coe_singleton, Multiset.singleton_add] at typed
      exact .head (.acquire found) typed
    have kept : Heap.Exact Object.children (builtinType (heap.acquire object) name [object]).2
        ((types.insert name (builtinType (heap.acquire object) name [object]).1).values : Multiset Handle) :=
      Heap.Path.exact_alone made exact
    have other : "object" ≠ name := fun same => by simp [← same, rooted] at free
    obtain ⟨types', heap', folded, rootedThen, listed, path⟩ := ih kept
      (by rwa [Bindings.get?_insert, if_neg other])
      (fun later member => by
        have different : later ≠ name := fun same => unlisted (same ▸ member)
        rw [Bindings.get?_insert, if_neg different]
        exact fresh later (List.mem_cons_of_mem _ member)) onceLater
    refine ⟨types', heap', folded, rootedThen, fun later known => listed later ?_, made.trans path⟩
    rw [Bindings.get?_insert]
    split
    · exact Or.inl rfl
    · rename_i different
      simpa [different] using known

theorem get?_derivedTypes {root handle : Handle} {object : Object β} {names : List String}
    {types types' : Bindings Handle} {heap heap' : Heap (Object β)} (sound : heap.Sound)
    (found : heap.get? handle = some object)
    (folded : names.foldl (fun (types, heap) name =>
        let (type, heap) := builtinType (heap.acquire root) name [root]
        (types.insert name type, heap)) (types, heap) = (types', heap')) : heap'.get? handle = some object := by
  induction names generalizing types heap with
  | nil =>
    cases folded
    exact found
  | cons name rest ih =>
    have counted : (heap.acquire root).Sound := Heap.sound_acquire sound root
    have here : (heap.acquire root).get? handle = some object := (Heap.get?_acquire heap root handle).trans found
    exact ih (Heap.sound_builtinType counted) (Heap.get?_builtinType_of_get? name [root] counted here) folded

theorem each_derivedTypes {root : Handle} {property : Handle → Object β → Prop} (initial : Initial root property)
    {names : List String} {types types' : Bindings Handle} {heap heap' : Heap (Object β)}
    (derived : names ⊆ derivedTypeNames) (sound : heap.Sound) (live : (heap.get? root).isSome)
    (each : heap.Each property)
    (folded : names.foldl (fun (types, heap) name =>
        let (type, heap) := builtinType (heap.acquire root) name [root]
        (types.insert name type, heap)) (types, heap) = (types', heap')) : heap'.Each property := by
  induction names generalizing types heap with
  | nil =>
    cases folded
    exact each
  | cons name rest ih =>
    obtain ⟨listed, later⟩ := List.cons_subset.mp derived
    obtain ⟨object, found⟩ := Option.isSome_iff_exists.mp live
    have counted : (heap.acquire root).Sound := Heap.sound_acquire sound root
    have here : (heap.acquire root).get? root = some object := (Heap.get?_acquire heap root root).trans found
    -- The new type is not the first one, which is still there.
    have other : (builtinType (heap.acquire root) name [root]).1 ≠ root := by
      intro same
      have free := Heap.get?_fst_builtinType name [root] counted
      rw [same, here] at free
      cases free
    have made := (each.acquire root).builtinType counted initial.plain fun label =>
      initial.derived _ name label other listed
    have kept := Heap.get?_builtinType_of_get? name [root] counted here
    exact ih later (Heap.sound_builtinType counted) (Option.isSome_iff_exists.mpr ⟨object, kept⟩) made folded

def Typed (space : Space β) : Prop :=
  ∀ roots, space.roots = some roots → ∀ kind : Kind, ∃ type, roots.types.get? kind.typeName = some type

def ofTypes (heap : Heap (Object β)) (object : Handle) (types : Bindings Handle) : Space β :=
  let (noneValue, heap) := heap.allocate .none
  let (trueValue, heap) := heap.allocate (.bool true)
  let (falseValue, heap) := heap.allocate (.bool false)
  { heap
    roots := some { noneValue, trueValue, falseValue, object, types }
    modules := .empty
    definitions := .empty }

theorem exists_start : ∃ (heap : Heap (Object β)) (object : Handle) (types : Bindings Handle),
    start = ofTypes heap object types ∧ (∀ kind : Kind, ∃ type, types.get? kind.typeName = some type) ∧
      types.get? "object" = some object ∧ heap.Sound ∧
      (∃ label, heap.get? object = some (.typeObject
        { name := "object", bases := [], members := .singleton "__name__" label, builtin := true })) ∧
      (∀ property : Handle → Object β → Prop, Initial object property → heap.Each property) ∧
      Heap.Path Object.children (fun _ _ _ => False) (.empty, 0) (heap, (types.values : Multiset Handle)) := by
  have first := path_builtinType (fun _ _ _ => False) (Heap.empty : Heap (Object β)) "object" [] 0
  have exactFirst := Heap.Path.exact_alone first (by simpa using Heap.exact_empty)
  have rooted : (Bindings.singleton "object" (builtinType (Heap.empty : Heap (Object β)) "object" []).1).get?
      "object" = some (builtinType (Heap.empty : Heap (Object β)) "object" []).1 := by
    simp [Bindings.singleton, Bindings.get?_insert]
  have fresh : ∀ name ∈ derivedTypeNames, (Bindings.singleton "object"
      (builtinType (Heap.empty : Heap (Object β)) "object" []).1).get? name = none := by
    intro name member
    have other : name ≠ "object" := fun same => by simp [same, derivedTypeNames] at member
    simp [Bindings.singleton, Bindings.get?_insert, other, Bindings.get?_empty]
  obtain ⟨types, heap, folded, rootedThen, listed, path⟩ := path_derivedTypes (fun _ _ _ => False)
    (by simpa using exactFirst) rooted fresh (by decide)
  have reached : Heap.Path Object.children (fun _ _ _ => False) ((.empty : Heap (Object β)), 0)
      (heap, (types.values : Multiset Handle)) := by
    rw [Bindings.values_singleton] at path
    exact Relation.ReflTransGen.trans (by simpa using first) path
  refine ⟨heap, (builtinType (Heap.empty : Heap (Object β)) "object" []).1, types, ?_, ?_, rootedThen,
    (Heap.Path.exact_alone reached Heap.exact_empty).sound, ?_, ?_, reached⟩
  · unfold start
    simp only [folded, ofTypes]
  · intro kind
    refine Option.isSome_iff_exists.mp (listed _ ?_)
    cases kind
    case object => simp [Kind.typeName, Bindings.singleton, Bindings.get?_insert]
    all_goals exact Or.inr (by decide)
  · have made := Heap.get?_builtinType "object" [] (Heap.sound_empty (α := Object β))
    exact ⟨_, get?_derivedTypes (Heap.sound_builtinType Heap.sound_empty) made folded⟩
  · intro property initial
    have made := Heap.each_empty.builtinType Heap.sound_empty initial.plain initial.first
    exact each_derivedTypes initial (List.Subset.refl _) (Heap.sound_builtinType Heap.sound_empty)
      (by rw [Heap.get?_builtinType "object" [] Heap.sound_empty]; rfl) made folded

theorem path_ofTypes (changes : Handle → Object β → Object β → Prop) (heap : Heap (Object β)) (object : Handle)
    (types : Bindings Handle) : Heap.Path Object.children changes (heap, (types.values : Multiset Handle))
      ((ofTypes heap object types).heap, (ofTypes heap object types).own) := by
  have noneMade := Heap.path_allocate Object.children changes heap .none (types.values : Multiset Handle)
  have trueMade := Heap.path_allocate Object.children changes (heap.allocate .none).2 (.bool true)
    ((heap.allocate .none).1 ::ₘ (types.values : Multiset Handle))
  have falseMade := Heap.path_allocate Object.children changes
    ((heap.allocate .none).2.allocate (.bool true)).2 (.bool false)
    (((heap.allocate .none).2.allocate (.bool true)).1 ::ₘ (heap.allocate .none).1 ::ₘ
      (types.values : Multiset Handle))
  have path := (noneMade.trans trueMade).trans falseMade
  have own : (ofTypes heap object types).own =
      (((heap.allocate .none).2.allocate (.bool true)).2.allocate (.bool false)).1 ::ₘ
        ((heap.allocate .none).2.allocate (.bool true)).1 ::ₘ (heap.allocate .none).1 ::ₘ
          (types.values : Multiset Handle) := by
    simp only [ofTypes, Space.own, rootHandles, Bindings.values_empty, Multiset.coe_nil, zero_add, Option.map_some,
      Option.getD_some, Roots.handles, List.cons_append, List.nil_append, ← Multiset.cons_coe]
    simp only [← Multiset.singleton_add, add_left_comm]
  exact own ▸ path

theorem exact_start_typed : (start : Space β).Exact 0 ∧ (start : Space β).Typed := by
  obtain ⟨heap, object, types, started, listed, -, -, -, -, path⟩ := exists_start (β := β)
  rw [started]
  refine ⟨⟨fun _ => ?_, fun ended => by cases ended⟩, fun roots rooted kind => ?_⟩
  · rw [zero_add]
    exact Heap.Path.exact_alone (path.trans (path_ofTypes _ heap object types)) Heap.exact_empty
  · obtain rfl := Option.some.inj rooted
    exact listed kind

theorem exact_start : (start : Space β).Exact 0 :=
  exact_start_typed.1

theorem each_ofTypes {heap : Heap (Object β)} {property : Handle → Object β → Prop} (each : heap.Each property)
    (sound : heap.Sound) (plain : ∀ handle object, object.kind ≠ .typeObject → property handle object) (object : Handle)
    (types : Bindings Handle) : (ofTypes heap object types).heap.Each property := by
  have noneMade := each.allocate sound (plain _ .none nofun)
  have soundNone := Heap.sound_allocate sound (.none : Object β)
  have trueMade := noneMade.allocate soundNone (plain _ (.bool true) nofun)
  exact trueMade.allocate (Heap.sound_allocate soundNone _) (plain _ (.bool false) nofun)

theorem get?_ofTypes {heap : Heap (Object β)} (sound : heap.Sound) {handle : Handle} {found : Object β}
    (here : heap.get? handle = some found) (object : Handle) (types : Bindings Handle) :
    (ofTypes heap object types).heap.get? handle = some found := by
  have soundNone := Heap.sound_allocate sound (.none : Object β)
  have noneMade := Heap.get?_allocate_of_get? sound (.none : Object β) here
  have trueMade := Heap.get?_allocate_of_get? soundNone (.bool true) noneMade
  exact Heap.get?_allocate_of_get? (Heap.sound_allocate soundNone _) (.bool false) trueMade

theorem exists_initial_start : ∃ roots, (start : Space β).roots = some roots ∧
    roots.types.get? "object" = some roots.object ∧
    (∃ label, (start : Space β).heap.get? roots.object = some (.typeObject
      { name := "object", bases := [], members := .singleton "__name__" label, builtin := true })) ∧
    ∀ property : Handle → Object β → Prop, Initial roots.object property → (start : Space β).heap.Each property := by
  obtain ⟨heap, object, types, started, -, rooted, sound, ⟨label, found⟩, each, -⟩ := exists_start (β := β)
  rw [started]
  refine ⟨_, rfl, rooted, ⟨label, get?_ofTypes sound found object types⟩, ?_⟩
  intro property initial
  exact each_ofTypes (each property initial) sound initial.plain object types

theorem exists_native_start : ∃ roots, (start : Space β).roots = some roots ∧
    roots.types.get? "object" = some roots.object ∧ (start : Space β).heap.Native roots.object := by
  obtain ⟨roots, rooted, based, -, each⟩ := exists_initial_start (β := β)
  exact ⟨roots, rooted, based, each _ (initial_native roots.object)⟩

theorem Path.typed {extent : Extent} {before after : Space β × Multiset Handle} (path : Path extent before after)
    (typed : before.1.Typed) : after.1.Typed := by
  induction path with
  | refl => exact typed
  | tail _ step ih =>
    cases step with
    | finalize held' => exact fun roots started => by simp [roots_finalize] at started
    | _ => exact ih

end Space

end ObjectBridge.Guest

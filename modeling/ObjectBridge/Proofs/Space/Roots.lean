import ObjectBridge.Proofs.Space.NewTypes

/-!
Roots of a space. They are there from its start until it is finalized, and there is nothing else like them: no
other constant is ever made, and no other builtin type.
-/

namespace ObjectBridge.Guest

variable {β : Type}

def Roots.Single (roots : Roots) (handle : Handle) : Object β → Prop
  | .none => handle = roots.noneValue
  | .bool value => handle = if value then roots.trueValue else roots.falseValue
  | .typeObject contents => contents.builtin = true → roots.types.get? contents.name = some handle
  | _ => True

def Object.Listed (types : Bindings Handle) (handle : Handle) : Object β → Prop
  | .none | .bool _ => False
  | .typeObject contents => types.get? contents.name = some handle
  | _ => True

theorem Object.Listed.single {roots : Roots} {handle : Handle} {object : Object β}
    (listed : object.Listed roots.types handle) : roots.Single handle object := by
  cases object with
  | none => exact listed.elim
  | bool value => exact listed.elim
  | typeObject contents => exact fun _ => listed
  | _ => trivial

theorem Object.Listed.insert {types : Bindings Handle} {handle : Handle} {object : Object β} {name : String}
    (listed : object.Listed types handle) (free : types.get? name = .none) (type : Handle) :
    object.Listed (types.insert name type) handle := by
  cases object with
  | typeObject contents =>
    have earlier : types.get? contents.name = some handle := listed
    have different : contents.name ≠ name := by
      rintro rfl
      rw [free] at earlier
      cases earlier
    exact (Bindings.get?_insert ..).trans ((if_neg different).trans earlier)
  | _ => exact listed

namespace Heap

/-- What is listed under a name is a builtin type of the name, and these types are all that is listed. -/
structure Lists (heap : Heap (Object β)) (types : Bindings Handle) : Prop where
  live : ∀ name type, types.get? name = some type → ∃ object, heap.get? type = some object ∧ object.IsBuiltin name
  single : heap.Each fun handle object => object.Listed types handle

section Lists

variable {heap : Heap (Object β)} {types : Bindings Handle} {name : String}

theorem lists_empty : (empty : Heap (Object β)).Lists .empty :=
  ⟨fun name type listed => by simp [Bindings.get?_empty] at listed, each_empty⟩

theorem Lists.acquire (lists : heap.Lists types) (handle : Handle) : (heap.acquire handle).Lists types := by
  refine ⟨fun name type listed => ?_, lists.single.acquire handle⟩
  rw [get?_acquire]
  exact lists.live name type listed

theorem Lists.builtinType (lists : heap.Lists types) (sound : heap.Sound) (free : types.get? name = none)
    (bases : List Handle) :
    (Space.builtinType heap name bases).2.Lists (types.insert name (Space.builtinType heap name bases).1) := by
  refine ⟨fun other type listed => ?_, ?_⟩
  · rw [Bindings.get?_insert] at listed
    split at listed
    · rename_i same
      obtain rfl := Option.some.inj listed
      exact ⟨_, get?_builtinType name bases sound, _, rfl, rfl, same.symm⟩
    · obtain ⟨object, found, builtin⟩ := lists.live other type listed
      exact ⟨object, get?_builtinType_of_get? name bases sound found, builtin⟩
  · have labelled : (heap.allocate (.str name)).2.Each fun handle object => object.Listed types handle :=
      lists.single.allocate sound trivial
    have kept : (heap.allocate (.str name)).2.Each fun handle object =>
        object.Listed (types.insert name (Space.builtinType heap name bases).1) handle :=
      fun handle object found => (labelled handle object found).insert free _
    exact kept.allocate (sound_allocate sound _) ((Bindings.get?_insert ..).trans (if_pos rfl))

end Lists

end Heap

namespace Space

theorem lists_derivedTypes {root : Handle} {names : List String} {types types' : Bindings Handle}
    {heap heap' : Heap (Object β)} (lists : heap.Lists types) (sound : heap.Sound)
    (fresh : ∀ name ∈ names, types.get? name = none) (once : names.Nodup)
    (folded : names.foldl (fun (types, heap) name =>
        let (type, heap) := builtinType (heap.acquire root) name [root]
        (types.insert name type, heap)) (types, heap) = (types', heap')) : heap'.Lists types' ∧ heap'.Sound := by
  induction names generalizing types heap with
  | nil =>
    cases folded
    exact ⟨lists, sound⟩
  | cons name rest ih =>
    obtain ⟨different, onceLater⟩ := List.nodup_cons.mp once
    have counted : (heap.acquire root).Sound := Heap.sound_acquire sound root
    have made := (lists.acquire root).builtinType counted (fresh name List.mem_cons_self) [root]
    refine ih made (Heap.sound_builtinType counted) (fun later member => ?_) onceLater folded
    have other : later ≠ name := fun same => different (same ▸ member)
    rw [Bindings.get?_insert, if_neg other]
    exact fresh later (List.mem_cons_of_mem _ member)

structure Rooted (space : Space β) (roots : Roots) : Prop where
  noneValue : space.heap.get? roots.noneValue = some .none
  trueValue : space.heap.get? roots.trueValue = some (.bool true)
  falseValue : space.heap.get? roots.falseValue = some (.bool false)
  types : ∀ name type, roots.types.get? name = some type →
    ∃ object, space.heap.get? type = some object ∧ object.IsBuiltin name
  object : roots.types.get? "object" = some roots.object

theorem rooted_ofTypes {heap : Heap (Object β)} {types : Bindings Handle} (lists : heap.Lists types)
    (sound : heap.Sound) {object : Handle} (first : types.get? "object" = some object) {roots : Roots}
    (started : (ofTypes heap object types).roots = some roots) :
    (ofTypes heap object types).Rooted roots ∧ (ofTypes heap object types).heap.Each roots.Single := by
  obtain rfl := Option.some.inj started
  have soundNone := Heap.sound_allocate sound (.none : Object β)
  have soundTrue := Heap.sound_allocate soundNone (.bool true : Object β)
  have made {heap : Heap (Object β)} (sound : heap.Sound) (object : Object β) :
      (heap.allocate object).2.get? (heap.allocate object).1 = some object :=
    (Heap.get?_allocate sound _ _).trans (if_pos rfl)
  refine ⟨⟨?_, ?_, made soundTrue _, fun name type listed => ?_, first⟩, ?_⟩
  · exact Heap.get?_allocate_of_get? soundTrue _ (Heap.get?_allocate_of_get? soundNone _ (made sound _))
  · exact Heap.get?_allocate_of_get? soundTrue _ (made soundNone _)
  · obtain ⟨object, found, builtin⟩ := lists.live name type listed
    exact ⟨object, get?_ofTypes sound found _ types, builtin⟩
  · refine ((Heap.Each.allocate (fun handle object found => ?_) sound rfl).allocate soundNone rfl).allocate soundTrue rfl
    exact Object.Listed.single (lists.single handle object found)

theorem exists_folded_start : ∃ types heap,
    derivedTypeNames.foldl (fun (types, heap) name =>
      let (type, heap) := builtinType (heap.acquire (builtinType (Heap.empty : Heap (Object β)) "object" []).1) name
        [(builtinType (Heap.empty : Heap (Object β)) "object" []).1]
      (types.insert name type, heap))
      (Bindings.singleton "object" (builtinType (Heap.empty : Heap (Object β)) "object" []).1,
        (builtinType (Heap.empty : Heap (Object β)) "object" []).2) = (types, heap) ∧
    start = ofTypes heap (builtinType (Heap.empty : Heap (Object β)) "object" []).1 types := by
  let first := builtinType (Heap.empty : Heap (Object β)) "object" []
  obtain ⟨types, heap, folded⟩ : ∃ types heap, derivedTypeNames.foldl (fun (types, heap) name =>
      let (type, heap) := builtinType (heap.acquire first.1) name [first.1]
      (types.insert name type, heap)) (Bindings.singleton "object" first.1, first.2) = (types, heap) :=
    ⟨_, _, rfl⟩
  refine ⟨types, heap, folded, ?_⟩
  unfold start
  simp only [first, folded, ofTypes]

theorem rooted_start {roots : Roots} (started : (start : Space β).roots = some roots) :
    (start : Space β).Rooted roots ∧ (start : Space β).heap.Each roots.Single := by
  obtain ⟨types, heap, folded, same⟩ := exists_folded_start (β := β)
  have first := Heap.lists_empty.builtinType (Heap.sound_empty (α := Object β)) (Bindings.get?_empty "object") []
  have fresh : ∀ name ∈ derivedTypeNames, (Bindings.singleton "object"
      (builtinType (Heap.empty : Heap (Object β)) "object" []).1).get? name = none := by
    intro name member
    have other : name ≠ "object" := fun same => by simp [same, derivedTypeNames] at member
    simp [Bindings.singleton, Bindings.get?_insert, other, Bindings.get?_empty]
  obtain ⟨lists, sound⟩ := lists_derivedTypes first (Heap.sound_builtinType Heap.sound_empty) fresh (by decide) folded
  obtain ⟨first, rootedFirst, based, -⟩ := exists_initial_start (β := β)
  obtain rfl : first = roots := Option.some.inj (rootedFirst.symm.trans started)
  rw [same] at started ⊢
  have listed : types.get? "object" = some (builtinType (Heap.empty : Heap (Object β)) "object" []).1 := by
    obtain rfl := Option.some.inj started
    exact based
  exact rooted_ofTypes lists sound listed started

theorem Path.rooted {extent : Extent} {space : Space β} {held : Multiset Handle} {roots : Roots}
    (path : Path extent (start, 0) (space, held)) (started : space.roots = some roots) :
    (start : Space β).roots = some roots ∧ space.Rooted roots := by
  have isSome : space.roots.isSome := by simp [started]
  have first : (start : Space β).roots = some roots := (path.roots_eq isSome).symm.trans started
  have exact : (start : Space β).Exact (0 + 0) := exact_start
  have rooted := (rooted_start first).1
  have kept {handle : Handle} {property : Object β → Prop} (listed : handle ∈ roots.handles)
      (closed : ∀ object object', Object.Changes object object' → property object → property object')
      (holds : ∃ object, (start : Space β).heap.get? handle = some object ∧ property object) :
      ∃ object, space.heap.get? handle = some object ∧ property object := by
    refine path.kept_of closed exact (Or.inr ?_) holds isSome
    rwa [rootHandles, first, Option.map_some, Option.getD_some]
  have constant {handle : Handle} {object : Object β} (listed : handle ∈ roots.handles)
      (unbound : object.kind = .none ∨ object.kind = .bool) (found : (start : Space β).heap.get? handle = some object) :
      space.heap.get? handle = some object := by
    have holds : ∃ other, (start : Space β).heap.get? handle = some other ∧ other = object := ⟨object, found, rfl⟩
    have fixed (other : Object β) : ¬Object.Changes object other := by
      intro changes
      cases changes <;> simp [Object.kind] at unbound
    obtain ⟨other, there, rfl⟩ := kept listed (fun _ _ changes same => absurd (same ▸ changes) (fixed _)) holds
    exact there
  refine ⟨first, ?_, ?_, ?_, fun name type listed => ?_, rooted.object⟩
  · exact constant (by simp [Roots.handles]) (Or.inl rfl) rooted.noneValue
  · exact constant (by simp [Roots.handles]) (Or.inr rfl) rooted.trueValue
  · exact constant (by simp [Roots.handles]) (Or.inr rfl) rooted.falseValue
  · refine kept ?_ (fun _ _ changes => changes.isBuiltin) (rooted.types name type listed)
    exact List.mem_append_right _ (Bindings.mem_values.mpr ⟨name, listed⟩)

end Space

end ObjectBridge.Guest

import ObjectBridge.Proofs.Heap.Survivors
import ObjectBridge.Proofs.Space.Modules
import ObjectBridge.Proofs.Space.Roots

/-!
Typing of a space. Handles are not typed, and a slot is used again for an object of another kind. What is
well typed is told by what never changes of objects: the type of an instance is a type, types derive from
types, a bound method has a function, modules are listed under their names, and constants and builtin types
are roots.

A space in which no object is new stays well typed as long as it is exact, since what an object refers to
goes no sooner than the object. A new object has to fit to what is there when it is made.
-/

namespace ObjectBridge.Guest

variable {β : Type}

namespace Object

def shape : Object β → Object β
  | .dict _ => .dict .empty
  | .typeObject contents => .typeObject { contents with members := .empty }
  | .object contents => .object { contents with attributes := .empty }
  | .moduleObject contents => .moduleObject { contents with globals := .empty }
  | other => other

theorem Changes.shape_eq {object object' : Object β} (changes : Object.Changes object object') :
    object'.shape = object.shape := by
  cases changes <;> rfl

def sorted : Object β → List Handle
  | .typeObject contents => contents.bases
  | .object contents => [contents.type]
  | .boundMethod _ callable => [callable]
  | _ => []

theorem sorted_subset_children (object : Object β) : object.sorted ⊆ object.children := by
  cases object with
  | typeObject contents => exact List.subset_append_left _ _
  | object contents => simp [sorted, children]
  | boundMethod receiver callable => simp [sorted, children]
  | _ => exact List.nil_subset _

/-- What the object refers to is of the kind that it has to be, where the shapes of objects are these. Types
that are not builtin derive from types that are not, and from `object`. -/
def Fits (shape? : Handle → Option (Object β)) : Object β → Prop
  | .typeObject contents => ∀ base ∈ contents.bases, ∃ parent, shape? base = some (.typeObject parent) ∧
      (contents.builtin = false → parent.builtin = true → parent.name = "object")
  | .object contents => ∃ type, shape? contents.type = some (.typeObject type)
  | .boundMethod _ callable => ∃ function, shape? callable = some (.function function)
  | _ => True

section Fits

variable {shape? shape?' : Handle → Option (Object β)} {object object' : Object β}

theorem fits_shape : object.shape.Fits shape? ↔ object.Fits shape? := by
  cases object <;> rfl

theorem Fits.of_shape_eq (fits : object.Fits shape?) (same : object'.shape = object.shape) : object'.Fits shape? := by
  rw [← fits_shape, same, fits_shape]
  exact fits

theorem Fits.mono (fits : object.Fits shape?)
    (kept : ∀ child ∈ object.sorted, ∀ other, shape? child = some other → shape?' child = some other) :
    object.Fits shape?' := by
  cases object with
  | typeObject contents =>
    intro base listed
    obtain ⟨parent, there, derivable⟩ := fits base listed
    exact ⟨parent, kept base listed _ there, derivable⟩
  | object contents =>
    obtain ⟨type, there⟩ := fits
    exact ⟨type, kept _ List.mem_cons_self _ there⟩
  | boundMethod receiver callable =>
    obtain ⟨function, there⟩ := fits
    exact ⟨function, kept _ List.mem_cons_self _ there⟩
  | _ => trivial

end Fits

end Object

theorem Roots.single_shape {roots : Roots} {handle : Handle} {object : Object β} :
    roots.Single handle object.shape ↔ roots.Single handle object := by
  cases object <;> rfl

namespace Heap

variable {heap : Heap (Object β)}

def shape? (heap : Heap (Object β)) (handle : Handle) : Option (Object β) :=
  (heap.get? handle).map Object.shape

def Fitting (heap : Heap (Object β)) : Prop :=
  ∀ handle object, heap.get? handle = some object → object.Fits heap.shape?

theorem shape?_of_get? {handle : Handle} {object : Object β} (found : heap.get? handle = some object) :
    heap.shape? handle = some object.shape := by
  rw [shape?, found, Option.map_some]

theorem shape?_congr {heap' : Heap (Object β)} {handle : Handle} (same : heap'.get? handle = heap.get? handle) :
    heap'.shape? handle = heap.shape? handle := by
  rw [shape?, shape?, same]

theorem shape?_eq_typeObject {handle : Handle} {contents : TypeObject}
    (shown : heap.shape? handle = some (.typeObject contents)) :
    ∃ members, heap.get? handle = some (.typeObject { contents with members }) := by
  obtain ⟨object, found, same⟩ := Option.map_eq_some_iff.mp shown
  cases object with
  | typeObject contents' =>
    cases same
    exact ⟨_, found⟩
  | _ => cases same

theorem shape?_eq_function {handle : Handle} {function : Function β}
    (shown : heap.shape? handle = some (.function function)) : heap.get? handle = some (.function function) := by
  obtain ⟨object, found, same⟩ := Option.map_eq_some_iff.mp shown
  cases object with
  | function _ =>
    cases same
    exact found
  | _ => cases same

theorem shape?_eq_moduleObject {handle : Handle} {contents : ModuleObject}
    (shown : heap.shape? handle = some (.moduleObject contents)) :
    ∃ globals, heap.get? handle = some (.moduleObject { contents with globals }) := by
  obtain ⟨object, found, same⟩ := Option.map_eq_some_iff.mp shown
  cases object with
  | moduleObject contents' =>
    cases same
    exact ⟨_, found⟩
  | _ => cases same

theorem shape?_allocate (sound : heap.Sound) {handle : Handle} {shown : Object β} (object : Object β)
    (found : heap.shape? handle = some shown) : (heap.allocate object).2.shape? handle = some shown := by
  obtain ⟨earlier, here, rfl⟩ := Option.map_eq_some_iff.mp found
  exact shape?_of_get? (get?_allocate_of_get? sound object here)

theorem fitting_empty : (empty : Heap (Object β)).Fitting := by
  intro handle object found
  simp [get?, cell?_empty] at found

theorem Fitting.of_same {heap' : Heap (Object β)} (fitting : heap.Fitting)
    (same : ∀ handle, heap'.get? handle = heap.get? handle) : heap'.Fitting := by
  intro handle object found
  rw [same] at found
  exact (fitting handle object found).mono fun child _ other shown => by rwa [shape?_congr (same child)]

theorem Fitting.allocate (fitting : heap.Fitting) (sound : heap.Sound) {object : Object β}
    (fits : object.Fits heap.shape?) : (heap.allocate object).2.Fitting := by
  intro handle other found
  suffices earlier : other.Fits heap.shape? from
    earlier.mono fun child _ shown => shape?_allocate sound object
  rw [get?_allocate sound] at found
  split at found
  · obtain rfl := Option.some.inj found
    exact fits
  · exact fitting handle other found

theorem Fitting.builtinType (fitting : heap.Fitting) (sound : heap.Sound) (name : String) {bases : List Handle}
    (based : ∀ base ∈ bases, ∃ parent, heap.shape? base = some (.typeObject parent)) :
    (Space.builtinType heap name bases).2.Fitting := by
  have named : (heap.allocate (.str name)).2.Fitting := fitting.allocate sound trivial
  refine named.allocate (sound_allocate sound _) fun base listed => ?_
  obtain ⟨parent, there⟩ := based base listed
  exact ⟨parent, shape?_allocate sound _ there, nofun⟩

theorem fitting_derivedTypes {root : Handle} {contents : TypeObject} {names : List String}
    {types types' : Bindings Handle} {heap' : Heap (Object β)} (fitting : heap.Fitting) (sound : heap.Sound)
    (found : heap.get? root = some (.typeObject contents))
    (folded : names.foldl (fun (types, heap) name =>
        let (type, heap) := Space.builtinType (heap.acquire root) name [root]
        (types.insert name type, heap)) (types, heap) = (types', heap')) : heap'.Fitting ∧ heap'.Sound := by
  induction names generalizing types heap with
  | nil =>
    cases folded
    exact ⟨fitting, sound⟩
  | cons name rest ih =>
    have counted : (heap.acquire root).Sound := sound_acquire sound root
    have here : (heap.acquire root).get? root = some (.typeObject contents) := (get?_acquire heap root root).trans found
    have counts : (heap.acquire root).Fitting := fitting.of_same (get?_acquire heap root)
    have made : (Space.builtinType (heap.acquire root) name [root]).2.Fitting := by
      refine counts.builtinType counted name fun base listed => ?_
      rw [List.mem_singleton.mp listed]
      exact ⟨_, shape?_of_get? here⟩
    exact ih made (sound_builtinType counted) (get?_builtinType_of_get? name [root] counted here) folded

end Heap

namespace Space

/-- Every object fits to those that are there, nothing else is like the roots, and modules are listed under their
names. -/
structure WellTyped (space : Space β) : Prop where
  fitting : space.heap.Fitting
  single : ∀ roots, space.roots = some roots → space.heap.Each roots.Single
  modules : ∀ name module, space.modules.get? name = some module →
    space.heap.shape? module = some (.moduleObject { name, globals := .empty })

structure OnlyLoses (before after : Space β) : Prop where
  shapes : ∀ handle object, after.heap.shape? handle = some object → before.heap.shape? handle = some object
  roots : ∀ roots, after.roots = some roots → before.roots = some roots
  modules : ∀ name module, after.modules.get? name = some module → before.modules.get? name = some module

section OnlyLoses

variable {first second third before after : Space β}

theorem OnlyLoses.refl (space : Space β) : space.OnlyLoses space :=
  ⟨fun _ _ => id, fun _ => id, fun _ _ => id⟩

theorem OnlyLoses.trans (one : first.OnlyLoses second) (two : second.OnlyLoses third) : first.OnlyLoses third :=
  ⟨fun handle object shown => one.shapes handle object (two.shapes handle object shown),
    fun roots started => one.roots roots (two.roots roots started),
    fun name module listed => one.modules name module (two.modules name module listed)⟩

theorem OnlyLoses.of_get? (objects : ∀ handle object, after.heap.get? handle = some object →
    before.heap.get? handle = some object) (roots : after.roots = before.roots)
    (modules : after.modules = before.modules) : before.OnlyLoses after := by
  refine ⟨fun handle object shown => ?_, fun _ started => by rwa [← roots], fun name module listed => by rwa [← modules]⟩
  obtain ⟨there, found, rfl⟩ := Option.map_eq_some_iff.mp shown
  exact Heap.shape?_of_get? (objects handle there found)

theorem onlyLoses_of_ended (ended : after.roots = none) (empty : after.heap = .empty)
    (unlisted : after.modules = .empty) : before.OnlyLoses after := by
  refine ⟨fun handle object shown => ?_, fun roots started => by simp [ended] at started, fun name module listed => ?_⟩
  · rw [empty, Heap.shape?, Heap.get?, Heap.cell?_empty] at shown
    cases shown
  · simp [unlisted, Bindings.get?_empty] at listed

theorem onlyLoses_retain (space : Space β) (handle : Handle) : space.OnlyLoses (space.retain handle) :=
  .of_get? (fun other _ found => (Heap.get?_acquire space.heap handle other).symm.trans found) rfl rfl

theorem onlyLoses_release (space : Space β) (handle : Handle) : space.OnlyLoses (space.release handle) :=
  .of_get? (fun _ _ found => Heap.get?_releaseAll found) rfl rfl

theorem onlyLoses_retainAll (space : Space β) (handles : List Handle) : space.OnlyLoses (space.retainAll handles) := by
  unfold retainAll
  induction handles generalizing space with
  | nil => exact .refl space
  | cons handle rest ih => exact (space.onlyLoses_retain handle).trans (ih (space.retain handle))

theorem onlyLoses_releaseAll (space : Space β) (handles : List Handle) : space.OnlyLoses (space.releaseAll handles) := by
  unfold releaseAll
  induction handles generalizing space with
  | nil => exact .refl space
  | cons handle rest ih => exact (space.onlyLoses_release handle).trans (ih (space.release handle))

theorem onlyLoses_update {space : Space β} {handle : Handle} {object : Object β} {change : Object β → Object β}
    (found : space.heap.get? handle = some object) (same : (change object).shape = object.shape) :
    space.OnlyLoses (space.update handle change) := by
  refine ⟨fun other there shown => ?_, fun _ => id, fun _ _ => id⟩
  obtain ⟨now, here, rfl⟩ := Option.map_eq_some_iff.mp shown
  rw [update, Heap.get?_update] at here
  split at here
  · rename_i target
    rw [found, Option.map_some] at here
    rw [target, ← Option.some.inj here, same]
    exact Heap.shape?_of_get? found
  · exact Heap.shape?_of_get? here

theorem onlyLoses_rebind {space : Space β} {handle : Handle} {object : Object β} {change : Object β → Object β}
    (found : space.heap.get? handle = some object) (same : (change object).shape = object.shape) (value : Handle)
    (earlier : List Handle) :
    space.OnlyLoses (((space.retain value).update handle change).releaseAll earlier) := by
  have there : (space.retain value).heap.get? handle = some object := (Heap.get?_acquire _ _ _).trans found
  exact ((space.onlyLoses_retain value).trans (onlyLoses_update there same)).trans (onlyLoses_releaseAll _ _)

theorem onlyLoses_bindGlobal (space : Space β) (module : Handle) (name : String) (value : Handle) :
    space.OnlyLoses (space.bindGlobal module name value) := by
  unfold bindGlobal
  split
  · rename_i contents found
    have bound : space.OnlyLoses (space.update module fun _ =>
        .moduleObject { contents with globals := contents.globals.insert name value }) := onlyLoses_update found rfl
    dsimp only
    split
    · exact bound.trans (onlyLoses_release _ _)
    · exact bound
  · exact .refl space

theorem onlyLoses_clearModule (space : Space β) (module : Handle) : space.OnlyLoses (space.clearModule module) := by
  unfold clearModule
  split
  · rename_i contents found
    exact OnlyLoses.trans (onlyLoses_update found rfl) (onlyLoses_releaseAll _ _)
  · exact .refl space

theorem onlyLoses_forgetModule (space : Space β) (name : String) : space.OnlyLoses (space.forgetModule name) := by
  unfold forgetModule
  split
  · have parted : space.OnlyLoses { space with modules := space.modules.erase name } := by
      refine ⟨fun _ _ => id, fun _ => id, fun other module listed => ?_⟩
      rw [Bindings.get?_erase] at listed
      split at listed
      · cases listed
      · exact listed
    exact (parted.trans (onlyLoses_clearModule _ _)).trans (onlyLoses_release _ _)
  · exact .refl space

theorem onlyLoses_finalize (space : Space β) : space.OnlyLoses space.finalize.2 := by
  unfold finalize
  split
  · exact .refl space
  · exact onlyLoses_of_ended rfl rfl rfl

end OnlyLoses

section WellTyped

variable {space before after : Space β} {held : Multiset Handle}

theorem Exact.exists_child (exact : space.Exact held) {handle child : Handle} {object : Object β}
    (found : space.heap.get? handle = some object) (listed : child ∈ object.children) :
    ∃ other, space.heap.get? child = some other := by
  obtain ⟨cell, here⟩ := (exact.started (started_of_get? exact found)).exists_cell_of_child found listed
  exact ⟨cell.object, Heap.get?_of_cell here⟩

theorem Exact.exists_module (exact : space.Exact held) {name : String} {module : Handle}
    (listed : space.modules.get? name = some module) : ∃ other, space.heap.get? module = some other := by
  have started : space.roots.isSome := by
    by_contra ended
    have empty := (exact.ended (Option.not_isSome_iff_eq_none.mp ended)).2
    simp [empty, Bindings.get?_empty] at listed
  have own : module ∈ space.own := Multiset.mem_add.mpr (Or.inl (Multiset.mem_coe.mpr (Bindings.mem_values.mpr ⟨_, listed⟩)))
  obtain ⟨cell, here⟩ := (exact.started started).exists_cell_of_held (Multiset.mem_add.mpr (Or.inr own))
  exact ⟨cell.object, Heap.get?_of_cell here⟩

theorem WellTyped.of_onlyLoses (typed : before.WellTyped) (exact : after.Exact held) (loses : before.OnlyLoses after) :
    after.WellTyped := by
  have kept {handle : Handle} {shown : Object β} (live : ∃ object, after.heap.get? handle = some object)
      (earlier : before.heap.shape? handle = some shown) : after.heap.shape? handle = some shown := by
    obtain ⟨object, found⟩ := live
    have now := Heap.shape?_of_get? found
    rwa [Option.some.inj (earlier.symm.trans (loses.shapes _ _ now))]
  refine ⟨fun handle object found => ?_, fun roots started handle object found => ?_, fun name module listed => ?_⟩
  · obtain ⟨earlier, was, same⟩ := Option.map_eq_some_iff.mp (loses.shapes _ _ (Heap.shape?_of_get? found))
    have fits : object.Fits before.heap.shape? := (typed.fitting handle earlier was).of_shape_eq same.symm
    exact fits.mono fun child listed other shown =>
      kept (exact.exists_child found (object.sorted_subset_children listed)) shown
  · obtain ⟨earlier, was, same⟩ := Option.map_eq_some_iff.mp (loses.shapes _ _ (Heap.shape?_of_get? found))
    rw [← Roots.single_shape, ← same, Roots.single_shape]
    exact typed.single roots (loses.roots roots started) handle earlier was
  · exact kept (exact.exists_module listed) (typed.modules name module (loses.modules name module listed))

theorem WellTyped.retainAll (typed : space.WellTyped) (handles : List Handle) : (space.retainAll handles).WellTyped := by
  refine ⟨typed.fitting.of_same (get?_retainAll space handles), fun roots started handle object found => ?_,
    fun name module listed => ?_⟩
  · rw [roots_retainAll] at started
    rw [get?_retainAll] at found
    exact typed.single roots started handle object found
  · rw [modules_retainAll] at listed
    rw [Heap.shape?_congr (get?_retainAll space handles module)]
    exact typed.modules name module listed

theorem WellTyped.allocate (typed : space.WellTyped) (sound : space.heap.Sound) {object : Object β}
    (fits : object.Fits space.heap.shape?) (unlike : ∀ roots handle, Roots.Single roots handle object) :
    WellTyped { space with heap := (space.heap.allocate object).2 } :=
  ⟨typed.fitting.allocate sound fits, fun roots started => (typed.single roots started).allocate sound (unlike roots _),
    fun name module listed => Heap.shape?_allocate sound object (typed.modules name module listed)⟩

theorem WellTyped.enlist (typed : space.WellTyped) {name : String} {module : Handle}
    (there : space.heap.shape? module = some (.moduleObject { name, globals := .empty })) :
    WellTyped { space with modules := space.modules.insert name module } := by
  refine ⟨typed.fitting, typed.single, fun other module' listed => ?_⟩
  rw [Bindings.get?_insert] at listed
  split at listed
  · rename_i same
    obtain rfl := Option.some.inj listed
    rw [same]
    exact there
  · exact typed.modules other module' listed

theorem wellTyped_of_ended (ended : space.heap = .empty ∧ space.modules = .empty) : space.WellTyped := by
  refine ⟨ended.1 ▸ Heap.fitting_empty, fun _ _ => ended.1 ▸ Heap.each_empty, fun name module listed => ?_⟩
  simp [ended.2, Bindings.get?_empty] at listed

theorem wellTyped_start : (start : Space β).WellTyped := by
  have single (roots : Roots) (started : (start : Space β).roots = some roots) := (rooted_start started).2
  let first := builtinType (Heap.empty : Heap (Object β)) "object" []
  have sound : first.2.Sound := Heap.sound_builtinType Heap.sound_empty
  have fitting : first.2.Fitting := Heap.fitting_empty.builtinType Heap.sound_empty "object" (by simp)
  have root := Heap.get?_builtinType "object" [] (Heap.sound_empty (α := Object β))
  obtain ⟨types, heap, folded, started⟩ := exists_folded_start (β := β)
  obtain ⟨derived, soundThen⟩ := Heap.fitting_derivedTypes fitting sound root folded
  have noneMade : (heap.allocate .none).2.Fitting := derived.allocate soundThen trivial
  have soundNone := Heap.sound_allocate soundThen (.none : Object β)
  have trueMade : ((heap.allocate .none).2.allocate (.bool true)).2.Fitting := noneMade.allocate soundNone trivial
  rw [started] at single ⊢
  refine ⟨trueMade.allocate (Heap.sound_allocate soundNone _) trivial, single, fun name module listed => ?_⟩
  simp [ofTypes, Bindings.get?_empty] at listed

end WellTyped

end Space

end ObjectBridge.Guest

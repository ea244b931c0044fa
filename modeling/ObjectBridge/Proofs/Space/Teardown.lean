import ObjectBridge.Proofs.Heap.Survivors
import ObjectBridge.Proofs.Space.Attributes
import ObjectBridge.Proofs.Space.Modules
import ObjectBridge.Proofs.Space.Start

/-!
What is left at the end of a space. The tables of a space have no order of their own, so that modules,
what they have bound and roots may be given back in any order. Whatever the order, what survives is what is
reached from a reference held outside or from a cycle, in the graph of objects in which the namespaces of
all listed modules are empty.
-/

namespace ObjectBridge.Guest

open Heap (Anchored)

variable {β : Type}

def Object.cleared : Object β → Object β
  | .moduleObject contents => .moduleObject { contents with globals := .empty }
  | other => other

theorem Object.cleared_cleared (object : Object β) : object.cleared.cleared = object.cleared := by
  cases object <;> rfl

theorem Object.children_cleared_subset (object : Object β) : object.cleared.children ⊆ object.children := by
  cases object with
  | moduleObject contents => simp [Object.cleared, Object.children]
  | _ => exact fun _ member => member

namespace Space

def RefersFinally (space : Space β) (first second : Handle) : Prop :=
  ∃ object, space.heap.get? first = some object ∧
    second ∈ (if first ∈ space.modules.values then object.cleared else object).children

/-- The object is reached from a reference held outside, or from a cycle, when the namespaces of all listed
modules are empty. -/
def Survives (space : Space β) (outside : Multiset Handle) (handle : Handle) : Prop :=
  Anchored space.RefersFinally outside handle

/-- What is held by the namespaces of listed modules, by roots, and by what is itself held in this way: nothing
outside refers to it, and following references backwards from it comes to an end. -/
inductive HeldInside (space : Space β) (outside : Multiset Handle) : Handle → Prop
  | intro {handle} (free : handle ∉ outside)
      (referred : ∀ other object, space.heap.get? other = some object → handle ∈ object.children →
        ¬(other ∈ space.modules.values ∧ object.kind = .moduleObject) → HeldInside space outside other) :
      HeldInside space outside handle

inductive Clears (module : Handle) : Space β → Space β → Prop
  | namespaced {space contents order} (found : space.heap.get? module = some (.moduleObject contents))
      (all : order.Perm contents.globals.values) :
      Clears module space ((space.update module fun _ =>
        .moduleObject { contents with globals := .empty }).releaseAll order)
  | other {space} (different : ∀ contents, space.heap.get? module ≠ some (.moduleObject contents)) :
      Clears module space space

inductive ClearsAll : List Handle → Space β → Space β → Prop
  | nil {space} : ClearsAll [] space space
  | cons {module modules space middle after} (first : Clears module space middle)
      (rest : ClearsAll modules middle after) : ClearsAll (module :: modules) space after

/-- All that the space holds on to is given back: what modules have bound, the modules and the roots, each
in any order. -/
inductive Dismantles (space : Space β) : Heap (Object β) → Prop
  | intro {modules roots emptied} (listed : modules.Perm space.modules.values)
      (rooted : roots.Perm space.rootHandles)
      (cleared : ClearsAll modules { space with modules := .empty } emptied) :
      Dismantles space ((emptied.releaseAll modules).releaseAll roots).heap

def resultOf (left : Nat) : Except TeardownError Unit :=
  if left = 0 then .ok () else .error (.leaked left)

def FinalizesTo (space : Space β) (result : Except TeardownError Unit) (final : Space β) : Prop :=
  ∃ heap, space.Dismantles heap ∧ result = resultOf heap.live ∧
    final = { heap := heap.drain.2, roots := none, modules := .empty, definitions := .empty }

theorem clears_clearModule (space : Space β) (module : Handle) :
    Clears module space (space.clearModule module) := by
  unfold clearModule
  split
  · rename_i contents found
    exact .namespaced found (.refl _)
  · rename_i different
    exact .other different

theorem clearsAll_foldl (modules : List Handle) (space : Space β) :
    ClearsAll modules space (modules.foldl clearModule space) := by
  induction modules generalizing space with
  | nil => exact .nil
  | cons module rest ih => exact .cons (clears_clearModule space module) (ih _)

theorem heap_releaseAll (space : Space β) (handles : List Handle) :
    (space.releaseAll handles).heap = handles.foldl (Heap.release Object.children) space.heap := by
  unfold releaseAll
  induction handles generalizing space with
  | nil => rfl
  | cons handle rest ih => exact ih (space.release handle)

@[simp] theorem roots_releaseAll (space : Space β) (handles : List Handle) :
    (space.releaseAll handles).roots = space.roots := by
  unfold releaseAll
  induction handles generalizing space with
  | nil => rfl
  | cons handle rest ih => exact ih (space.release handle)

theorem get?_of_releaseAll {space : Space β} {handles : List Handle} {handle : Handle} {object : Object β}
    (shown : (space.releaseAll handles).heap.get? handle = some object) : space.heap.get? handle = some object := by
  unfold releaseAll at shown
  induction handles generalizing space with
  | nil => exact shown
  | cons other rest ih => exact Heap.get?_releaseAll (ih shown)

theorem roots_of_clears {module : Handle} {space after : Space β} (clears : Clears module space after) :
    after.roots = space.roots := by
  cases clears with
  | namespaced => rw [roots_releaseAll]; rfl
  | other => rfl

theorem roots_of_clearsAll {modules : List Handle} {space after : Space β}
    (clears : ClearsAll modules space after) : after.roots = space.roots := by
  induction clears with
  | nil => rfl
  | cons first _ ih => rw [ih, roots_of_clears first]

theorem finalizesTo_finalize {space : Space β} (started : space.roots.isSome) :
    space.FinalizesTo space.finalize.1 space.finalize.2 := by
  obtain ⟨roots, here⟩ := Option.isSome_iff_exists.mp started
  have cleared := clearsAll_foldl space.modules.values { space with modules := .empty }
  have parted := roots_of_clearsAll cleared
  refine ⟨space.dismantle.heap, ?_, ?_, ?_⟩
  · have dismantles : space.Dismantles _ := .intro (.refl _) (.refl _) cleared
    have same : space.dismantle.heap =
        ((((space.modules.values).foldl clearModule { space with modules := .empty }).releaseAll
          space.modules.values).releaseAll space.rootHandles).heap := by
      unfold dismantle
      extract_lets modules emptied given
      have kept : given.roots = some roots := by
        rw [roots_releaseAll, parted, here]
      have handles : space.rootHandles = roots.handles := by simp [rootHandles, here]
      rw [kept, handles, heap_releaseAll, heap_releaseAll, heap_releaseAll, heap_releaseAll]
    rwa [same]
  · simp only [finalize, here, resultOf]
  · simp only [finalize, here]

section Survivors

variable {space : Space β} {outside : Multiset Handle}

theorem RefersFinally.exists_children {first second : Handle} (refers : space.RefersFinally first second) :
    ∃ object, space.heap.get? first = some object ∧ second ∈ object.children ∧
      ¬(first ∈ space.modules.values ∧ object.kind = .moduleObject) := by
  obtain ⟨object, here, child⟩ := refers
  split at child
  · refine ⟨object, here, object.children_cleared_subset child, fun module => ?_⟩
    cases object with
    | moduleObject contents => simp [Object.cleared, Object.children] at child
    | _ => cases module.2
  · rename_i unlisted
    exact ⟨object, here, child, fun module => unlisted module.1⟩

def Empties (space : Space β) (handle : Handle) (_ object' : Object β) : Prop :=
  handle ∈ space.modules.values ∧
    ∃ object, space.heap.get? handle = some object ∧ object' = object.cleared

def Remains (space : Space β) (emptied : List Handle) (heap : Heap (Object β)) : Prop :=
  ∀ handle object', heap.get? handle = some object' → ∃ object, space.heap.get? handle = some object ∧
    object' = if handle ∈ emptied then object.cleared else object

theorem remains_start (space : Space β) : space.Remains [] space.heap :=
  fun _ object found => ⟨object, found, rfl⟩

theorem Remains.foldl_release {emptied : List Handle} {heap : Heap (Object β)}
    (remains : space.Remains emptied heap) (handles : List Handle) :
    space.Remains emptied (handles.foldl (Heap.release Object.children) heap) := by
  induction handles generalizing heap with
  | nil => exact remains
  | cons handle rest ih => exact ih fun other object found => remains other object (Heap.get?_releaseAll found)

theorem path_foldl_release (changes : Handle → Object β → Object β → Prop) {heap : Heap (Object β)}
    {handles : List Handle} {held frame : Multiset Handle}
    (exact : heap.Exact Object.children ((handles : Multiset Handle) + held + frame)) :
    Heap.Path Object.children changes (heap, (handles : Multiset Handle) + held)
      (handles.foldl (Heap.release Object.children) heap, held) := by
  induction handles generalizing heap with
  | nil => simpa using Relation.ReflTransGen.refl
  | cons handle rest ih =>
    rw [← Multiset.cons_coe, ← Multiset.singleton_add, add_assoc {handle} (Multiset.ofList rest) held] at exact ⊢
    have first : Heap.Path Object.children changes (heap, {handle} + ((rest : Multiset Handle) + held))
        (heap.release Object.children handle, (rest : Multiset Handle) + held) :=
      Heap.path_releaseAll changes heap [handle] [] _ frame exact
    exact first.trans (ih (Heap.Path.exact first exact))

theorem path_of_clears {module : Handle} {current after : Space β} {emptied : List Handle}
    {held frame : Multiset Handle} (listed : module ∈ space.modules.values)
    (clears : Clears module current after) (remains : space.Remains emptied current.heap)
    (exact : current.heap.Exact Object.children (held + frame)) :
    Heap.Path Object.children space.Empties (current.heap, held) (after.heap, held) ∧
      space.Remains (module :: emptied) after.heap := by
  cases clears with
  | @namespaced contents order found all =>
    obtain ⟨object, here, same⟩ := remains module _ found
    have cleared : .moduleObject { contents with globals := .empty } = object.cleared := by
      have emptied : (Object.moduleObject contents).cleared = object.cleared := by
        rw [same]
        split
        · exact object.cleared_cleared
        · rfl
      exact emptied
    have bound : (order : Multiset Handle) = (contents.globals.values : Multiset Handle) :=
      Multiset.coe_eq_coe.mpr all
    have step : Heap.Step Object.children space.Empties (current.heap, held)
        ((current.heap.update module fun _ => .moduleObject { contents with globals := .empty }),
          (order : Multiset Handle) + held) :=
      .change found ⟨listed, object, here, cleared⟩ (by simp [Object.children, bound])
    have released := path_foldl_release space.Empties (step.exact exact)
    rw [heap_releaseAll]
    refine ⟨.head step released, Remains.foldl_release (fun handle object' shown => ?_) order⟩
    rw [show (current.update module _).heap = current.heap.update module _ from rfl,
      Heap.get?_update] at shown
    by_cases same : handle = module
    · subst same
      refine ⟨object, here, ?_⟩
      rw [if_pos List.mem_cons_self, ← cleared]
      simpa [found, eq_comm] using shown
    · rw [if_neg same] at shown
      simpa [same] using remains handle object' shown
  | other different =>
    refine ⟨.refl, fun handle object' shown => ?_⟩
    obtain ⟨object, here, same⟩ := remains handle object' shown
    refine ⟨object, here, ?_⟩
    by_cases first : handle = module
    · -- What is no module has no namespace to be emptied.
      subst first
      rw [if_pos List.mem_cons_self]
      have unchanged : object'.cleared = object' := by
        cases object' with
        | moduleObject contents => exact absurd shown (different contents)
        | _ => rfl
      rw [← unchanged, same]
      split
      · exact object.cleared_cleared
      · rfl
    · simpa [first] using same

theorem path_of_clearsAll {modules : List Handle} {current after : Space β} {emptied : List Handle}
    {held frame : Multiset Handle} (listed : ∀ module ∈ modules, module ∈ space.modules.values)
    (clears : ClearsAll modules current after) (remains : space.Remains emptied current.heap)
    (exact : current.heap.Exact Object.children (held + frame)) :
    Heap.Path Object.children space.Empties (current.heap, held) (after.heap, held) ∧
      space.Remains (modules.reverse ++ emptied) after.heap := by
  induction clears generalizing emptied with
  | nil => exact ⟨.refl, remains⟩
  | @cons module modules _ middle after first _ ih =>
    obtain ⟨path, remains⟩ := path_of_clears (listed module List.mem_cons_self) first remains exact
    obtain ⟨rest, remains⟩ := ih (fun other member => listed other (List.mem_cons_of_mem _ member)) remains
      (Heap.Path.exact path exact)
    exact ⟨path.trans rest, by simpa using remains⟩

theorem path_of_dismantles {heap : Heap (Object β)} (exact : space.Exact outside) (started : space.roots.isSome)
    (dismantles : space.Dismantles heap) :
    Heap.Path Object.children space.Empties (space.heap, space.own) (heap, 0) ∧
      space.Remains space.modules.values heap := by
  obtain ⟨listed, rooted, cleared⟩ := dismantles
  rename_i modules roots emptied
  have kept := exact.started started
  rw [add_comm] at kept
  obtain ⟨path, remains⟩ := path_of_clearsAll (fun module member => listed.mem_iff.mp member) cleared
    (remains_start space) kept
  have own : space.own = (modules : Multiset Handle) + ((roots : Multiset Handle) + 0) := by
    rw [Multiset.coe_eq_coe.mpr listed, Multiset.coe_eq_coe.mpr rooted, add_zero]
    rfl
  have left := Heap.Path.exact path kept
  rw [own] at left
  have given := path_foldl_release space.Empties left
  have parted := path_foldl_release space.Empties (Heap.Path.exact given left)
  rw [heap_releaseAll, heap_releaseAll]
  refine ⟨path.trans ?_, ?_⟩
  · rw [own]
    exact given.trans parted
  · have every : space.Remains space.modules.values emptied.heap := by
      intro handle object' shown
      simpa [listed.mem_iff] using remains handle object' shown
    exact (every.foldl_release modules).foldl_release roots

theorem isSome_get?_of_dismantles {heap : Heap (Object β)} (exact : space.Exact outside)
    (started : space.roots.isSome) (dismantles : space.Dismantles heap) (handle : Handle) :
    (heap.get? handle).isSome ↔ space.Survives outside handle := by
  obtain ⟨path, remains⟩ := path_of_dismantles exact started dismantles
  have kept := exact.started started
  constructor
  · intro present
    rw [add_comm] at kept
    have last := Heap.Path.exact path kept
    rw [zero_add] at last
    refine (last.anchored present).mono fun first second refers => ?_
    obtain ⟨object', found, child⟩ := refers
    obtain ⟨object, here, rfl⟩ := remains first object' found
    exact ⟨object, here, child⟩
  · intro survives
    have shown (handle : Handle) (survives : space.Survives outside handle) :
        ∃ object, space.heap.get? handle = some object ∧
          ∀ next, space.RefersFinally handle next → next ∈ object.children := by
      have live : ∃ cell, space.heap.cell? handle = some cell := by
        rcases survives.supported with held | ⟨other, -, object, here, child⟩
        · exact kept.exists_cell_of_held (Multiset.mem_add.mpr (Or.inl held))
        · refine kept.exists_cell_of_child here ?_
          split at child
          · exact object.children_cleared_subset child
          · exact child
      obtain ⟨cell, found⟩ := live
      refine ⟨cell.object, Heap.get?_of_cell found, fun next refers => ?_⟩
      obtain ⟨object, here, child, -⟩ := refers.exists_children
      obtain rfl : cell.object = object := by simpa [Heap.get?_of_cell found] using here
      exact child
    rw [add_comm] at kept
    have leaves (handle : Handle) (object object' : Object β) (allowed : space.Empties handle object object')
        (_ : ∀ next, space.RefersFinally handle next → next ∈ object.children) (next : Handle)
        (refers : space.RefersFinally handle next) : next ∈ object'.children := by
      obtain ⟨listed, object, here, rfl⟩ := allowed
      obtain ⟨other, there, child⟩ := refers
      obtain rfl : object = other := by simpa [here] using there
      rwa [if_pos listed] at child
    obtain ⟨object, found, -⟩ := Heap.Path.anchored path kept (fun _ _ holds => holds) leaves shown survives
    exact Option.isSome_iff_exists.mpr ⟨object, found⟩

/-- What is not held outside, and referred to only by listed modules and by objects that do not survive, does not
survive: an entry, say, of a registry that is not counted itself. -/
theorem not_survives {handle : Handle} (free : handle ∉ outside)
    (referred : ∀ other object, space.heap.get? other = some object → handle ∈ object.children →
      ¬(other ∈ space.modules.values ∧ object.kind = .moduleObject) → ¬space.Survives outside other) :
    ¬space.Survives outside handle := by
  intro survives
  rcases survives.supported with rooted | ⟨other, earlier, refers⟩
  · exact free rooted
  · -- The reference that is left is not one of a module that has been emptied.
    obtain ⟨object, here, child, apart⟩ := refers.exists_children
    exact referred other object here child apart earlier

theorem HeldInside.not_survives {handle : Handle} (held : space.HeldInside outside handle) :
    ¬space.Survives outside handle := by
  induction held with
  | intro free _ ih => exact Space.not_survives free ih

structure CountsSurvivors (parting : Definition β → List Handle) (space : Space β) (outside : Multiset Handle) :
    Prop where
  returned : space.teardown parting = some space.finalize
  visited : space.FinalizesTo space.finalize.1 space.finalize.2
  counted : ∀ result final, space.FinalizesTo result final →
    result = resultOf (Set.ncard {handle | space.Survives outside handle})
  clean : ∀ result final, space.FinalizesTo result final →
    (result = .ok () ↔ ∀ handle, ¬space.Survives outside handle)
  ended : ∀ result final, space.FinalizesTo result final →
    final.heap = .empty ∧ final.isInitialized = false
  uncounted : ∀ handle, space.HeldInside outside handle → ¬space.Survives outside handle
  unreached : ∀ handle, handle ∉ outside →
    (∀ other object, space.heap.get? other = some object → handle ∈ object.children →
      ¬(other ∈ space.modules.values ∧ object.kind = .moduleObject) → ¬space.Survives outside other) →
    ¬space.Survives outside handle

theorem Exact.finite_survivors (exact : space.Exact outside) (started : space.roots.isSome) :
    {handle | space.Survives outside handle}.Finite := by
  obtain ⟨heap, dismantles, -⟩ := finalizesTo_finalize started
  refine (List.finite_toSet heap.handles).subset fun handle survives => ?_
  exact (Heap.mem_handles_iff heap).mpr ((isSome_get?_of_dismantles exact started dismantles handle).mpr survives)

theorem live_of_dismantles {heap : Heap (Object β)} (exact : space.Exact outside) (started : space.roots.isSome)
    (dismantles : space.Dismantles heap) : heap.live = Set.ncard {handle | space.Survives outside handle} := by
  have kept := exact.started started
  rw [add_comm] at kept
  have last := Heap.Path.exact (path_of_dismantles exact started dismantles).1 kept
  rw [Heap.live_eq_ncard last.sound]
  congr 1
  ext handle
  exact isSome_get?_of_dismantles exact started dismantles handle

theorem teardown_eq (parting : Definition β → List Handle) (started : space.roots.isSome) :
    space.teardown parting =
      if ∀ definition ∈ space.definitions.values, parting definition = [] then some space.finalize else none := by
  obtain ⟨roots, here⟩ := Option.isSome_iff_exists.mp started
  have parted : (∀ definition ∈ space.definitions.values, parting definition = []) ↔
      space.definitions.values.flatMap parting = [] := List.flatMap_eq_nil_iff.symm
  simp only [teardown, here, parted]
  cases space.definitions.values.flatMap parting with
  | nil => rfl
  | cons handle rest => rfl

/-- The teardown of a space that has come from its start returns if no definition takes a reference along. It ends,
whatever the order in which the tables are visited, with the number of the objects that survive, and the space
keeps no object. -/
theorem teardown_counts_survivors {parting : Definition β → List Handle}
    (path : Path .lasting (.start, 0) (space, outside)) (started : space.roots.isSome)
    (unowned : ∀ definition ∈ space.definitions.values, parting definition = []) :
    space.CountsSurvivors parting outside := by
  have exact : space.Exact outside := by
    have kept := Path.exact path (by simpa using exact_start)
    rwa [add_zero] at kept
  have returned : space.teardown parting = some space.finalize := by
    rw [teardown_eq parting started, if_pos unowned]
  refine ⟨returned, finalizesTo_finalize started, ?_, ?_, ?_, fun _ held => held.not_survives,
    fun _ => not_survives⟩
  · rintro result final ⟨heap, dismantles, rfl, rfl⟩
    rw [live_of_dismantles exact started dismantles]
  · rintro result final ⟨heap, dismantles, rfl, rfl⟩
    have none : resultOf heap.live = .ok () ↔ heap.live = 0 := by
      unfold resultOf
      split <;> simp_all
    rw [none, live_of_dismantles exact started dismantles,
      Set.ncard_eq_zero (exact.finite_survivors started), Set.eq_empty_iff_forall_notMem]
    rfl
  · rintro result final ⟨heap, dismantles, rfl, rfl⟩
    exact ⟨rfl, rfl⟩

end Survivors

def captured (definition : Definition (List Handle)) : List Handle :=
  definition.initializers.flatMap fun initializer =>
    match initializer with
    | .run owned => owned
    | .registry => []

/-- A space with a string that is held outside, and with a definition whose initializer owns nothing. -/
theorem teardown_counts_kept_string :
    let start : Space (List Handle) := .start
    let (handle, heap) := start.heap.allocate (.str "kept")
    let definition := (Definition.ofName "m").addInitializer (.run [])
    ({ start with heap }.addDefinition definition).CountsSurvivors captured {handle} :=
  teardown_counts_survivors (.tail (path_allocate .lasting (by rfl) (.str "kept") 0) (.define _)) (by rfl)
    fun definition member => by
      obtain rfl := List.mem_singleton.mp (Bindings.values_singleton "m" _ ▸ member)
      rfl

def keepRegistry : Op Unit (Handle × Handle) := do
  let module ← createModule "m" (.ofName "m")
  let registry ← allocate (.dict .empty)
  setattr module "registry" registry
  let stored ← newText "x"
  dictSet registry "0" stored
  modify (·.releaseAll [stored, module])
  return (registry, stored)

section

open Op

theorem path_keepRegistry {registry stored : Handle} {space : Space Unit}
    (ran : keepRegistry.run .start = .ok ((registry, stored), space)) :
    Path .lasting (.start, 0) (space, {registry}) := by
  simp only [keepRegistry, run_bind_eq_ok, run_modify_eq_ok, run_pure_eq_ok, Prod.mk.injEq] at ran
  obtain ⟨module, imported, ranModule, dict, made, ranDict, _, bound, ranBound, text, named, ranText, _, entered,
    ranEntered, _, _, rfl, ⟨rfl, rfl⟩, rfl⟩ := ran
  have exact : (Space.start : Space Unit).Exact 0 := exact_start
  have modulePath : Path .lasting (.start, 0) (imported, 0 + {module}) :=
    (path_createModule exact (by rfl) ranModule).1
  have dictPath := (balanced_allocate .lasting _).extends_path modulePath exact ranDict
  have boundPath := (balanced_setattr module "registry" registry).extends_path (by simpa using dictPath) exact ranBound
  have textPath := (balanced_newText .lasting "x").extends_path boundPath exact ranText
  have enteredPath := (balanced_dictSet registry "0" stored).extends_path (by simpa using textPath) exact ranEntered
  have held : (0 + registry ::ₘ stored ::ₘ {module} : Multiset Handle) =
      (([stored, module] : List Handle) : Multiset Handle) + {registry} := by
    rw [zero_add, Multiset.cons_swap, ← Multiset.insert_eq_cons registry, Multiset.pair_comm]
    rfl
  rw [held] at enteredPath
  have kept : entered.Exact (([stored, module] : List Handle) + {registry} + 0) :=
    Path.exact enteredPath (by simpa using exact)
  exact enteredPath.trans (path_releaseAll .lasting kept)

theorem counts_entry_of_kept_registry :
    ∃ registry stored space, keepRegistry.run .start = .ok ((registry, stored), space) ∧
      Path .lasting (.start, 0) (space, {registry}) ∧
      (∃ module ∈ space.modules.values, space.ownAttribute module "registry" = .ok (some registry)) ∧
      (∀ other object, space.heap.get? other = some object → stored ∈ object.children → other = registry) ∧
      space.text? stored = some "x" ∧ stored ≠ registry ∧ space.Survives {registry} stored ∧
      space.finalize.1 = .error (.leaked 2) := by
  have shown : (keepRegistry.run .start).toOption.any (fun ((registry, stored), space) =>
      (∃ module ∈ space.modules.values, space.ownAttribute module "registry" = .ok (some registry)) ∧
      (∀ other ∈ space.heap.handles, stored ∈ ((space.heap.get? other).map Object.children).getD [] →
        other = registry) ∧
      space.text? stored = some "x" ∧ stored ≠ registry ∧
      stored ∈ ((space.heap.get? registry).map Object.children).getD [] ∧ registry ∉ space.modules.values ∧
      space.finalize.1 = .error (.leaked 2)) = true := by
    decide +kernel
  cases ran : keepRegistry.run .start with
  | error exception =>
    rw [ran] at shown
    cases shown
  | ok result =>
    obtain ⟨⟨registry, stored⟩, space⟩ := result
    rw [ran] at shown
    obtain ⟨listed, referrers, text, different, entered, unlisted, leaked⟩ := of_decide_eq_true shown
    refine ⟨registry, stored, space, rfl, path_keepRegistry ran, listed, fun other object here child => ?_, text,
      different, ?_, leaked⟩
    · exact referrers other ((Heap.mem_handles_iff _).mpr (by simp [here])) (by simpa [here] using child)
    · obtain ⟨object, here⟩ : ∃ object, space.heap.get? registry = some object := by
        refine Option.ne_none_iff_exists'.mp fun gone => ?_
        simp [gone] at entered
      have refers : space.RefersFinally registry stored := ⟨object, here, by simpa [here, unlisted] using entered⟩
      exact ⟨registry, .inl (Multiset.mem_singleton_self _), .single refers⟩

/-- A reference that a definition owns keeps the teardown from returning; and what only the registry of a module
refers to is counted, where the registry itself is held outside. -/
theorem teardown_may_stall_or_count_stored :
    (let (kept, heap) := (start : Space (List Handle)).heap.allocate (.str "kept")
      let owner : Definition (List Handle) := (Definition.ofName "m").addInitializer (.run [kept])
      let space := { start with heap }.addDefinition owner
      Path .lasting (.start, 0) (space, {kept}) ∧ space.roots.isSome ∧ space.teardown captured = none) ∧
    ∃ registry stored space, keepRegistry.run .start = .ok ((registry, stored), space) ∧
      Path .lasting (.start, 0) (space, {registry}) ∧
      (∃ module ∈ space.modules.values, space.ownAttribute module "registry" = .ok (some registry)) ∧
      (∀ other object, space.heap.get? other = some object → stored ∈ object.children → other = registry) ∧
      space.text? stored = some "x" ∧ stored ≠ registry ∧ space.Survives {registry} stored ∧
      space.finalize.1 = .error (.leaked 2) :=
  ⟨⟨.tail (path_allocate .lasting (by rfl) (.str "kept") 0) (.define _), by rfl, by rfl⟩,
    counts_entry_of_kept_registry⟩

end

end Space

end ObjectBridge.Guest

import Mathlib.Algebra.BigOperators.Group.Finset.Basic
import Mathlib.Algebra.BigOperators.Group.Finset.Piecewise
import ObjectBridge.Proofs.Heap.Restored
import ObjectBridge.Proofs.Space.Tables
import ObjectBridge.Proofs.Space.Teardown

/-!
A module that is withdrawn: taken out of the list, emptied and given back. What only the module and its functions
refer to goes with it, and all else is counted as before, less what the namespace and the objects that go have held.
-/

namespace ObjectBridge.Guest

namespace Heap

variable {α : Type} {children : α → List Handle} {heap heap' : Heap α} {handle other emptied : Handle} {object : α}

def weight (children : α → List Handle) (heap : Heap α) (other handle : Handle) : Nat :=
  (((heap.get? handle).map children).getD []).count other

theorem weight_of_get? (found : heap.get? handle = some object) :
    heap.weight children other handle = (children object).count other := by
  rw [weight, found]
  rfl

theorem weight_of_none (missing : heap.get? handle = none) : heap.weight children other handle = 0 := by
  rw [weight, missing]
  rfl

theorem count_references {handles : Finset Handle} (covers : ∀ handle, (heap.get? handle).isSome → handle ∈ handles)
    (other : Handle) : (heap.references children).count other = ∑ handle ∈ handles, heap.weight children other handle := by
  have live : heap.handles.toFinset ⊆ handles := by
    intro handle member
    exact covers handle ((mem_handles_iff _).mp (List.mem_toFinset.mp member))
  have zero : ∀ handle ∈ handles, handle ∉ heap.handles.toFinset → heap.weight children other handle = 0 := by
    intro handle _ unlisted
    apply weight_of_none
    rw [List.mem_toFinset, mem_handles_iff] at unlisted
    simpa using unlisted
  rw [references_eq_flatMap, List.count_flatMap, ← Finset.sum_subset live zero, List.sum_toFinset _ heap.nodup_handles]
  rfl

def withdrawn (heap heap' : Heap α) (emptied : Handle) : Finset Handle :=
  heap.handles.toFinset.filter fun handle => handle ≠ emptied ∧ heap'.get? handle = none

theorem count_references_withdrawn (found : heap.get? emptied = some object)
    (kept : ∀ handle there, heap'.get? handle = some there → handle ≠ emptied → heap.get? handle = some there)
    (empty : ∀ there, heap'.get? emptied = some there → children there = []) (other : Handle) :
    (heap.references children).count other = (heap'.references children).count other + (children object).count other +
      ∑ handle ∈ heap.withdrawn heap' emptied, heap.weight children other handle := by
  have covers (handle : Handle) (live : (heap.get? handle).isSome) : handle ∈ heap.handles.toFinset :=
    List.mem_toFinset.mpr ((mem_handles_iff _).mpr live)
  have coversThen (handle : Handle) (live : (heap'.get? handle).isSome) : handle ∈ heap.handles.toFinset := by
    obtain ⟨there, shown⟩ := Option.isSome_iff_exists.mp live
    by_cases same : handle = emptied
    · exact covers handle (by simp [same, found])
    · exact covers handle (by simp [kept handle there shown same])
  rw [count_references covers, count_references coversThen]
  have parts : ∀ handle ∈ heap.handles.toFinset, heap.weight children other handle =
      heap'.weight children other handle + (if handle = emptied then (children object).count other else 0) +
        if handle ≠ emptied ∧ heap'.get? handle = none then heap.weight children other handle else 0 := by
    intro handle _
    by_cases same : handle = emptied
    · have none : heap'.weight children other handle = 0 := by
        cases shown : heap'.get? handle with
        | none => exact weight_of_none shown
        | some there => rw [weight_of_get? shown, empty there (same ▸ shown), List.count_nil]
      rw [none, if_pos same, if_neg (by simp [same]), weight_of_get? (same ▸ found), zero_add, add_zero]
    · rw [if_neg same, add_zero]
      cases shown : heap'.get? handle with
      | none => rw [weight_of_none shown, if_pos ⟨same, rfl⟩, zero_add]
      | some there =>
        rw [weight_of_get? shown, weight_of_get? (kept handle there shown same), if_neg (by simp), add_zero]
  rw [Finset.sum_congr rfl parts, Finset.sum_add_distrib, Finset.sum_add_distrib, withdrawn, Finset.sum_filter,
    Finset.sum_ite_eq', if_pos (covers emptied (by simp [found]))]

end Heap

namespace Space

variable {β : Type} {space after : Space β} {module handle other : Handle} {contents : ModuleObject} {name : String}
  {object : Object β} {outside : Multiset Handle}

theorem modules_forgetModule (listed : space.modules.get? name = some module) :
    (space.forgetModule name).modules = space.modules.erase name := by
  unfold forgetModule
  rw [listed]
  exact (sameTables_clearModule _ _).modules

theorem get?_of_withdraw (listed : space.modules.get? name = some module)
    (found : space.heap.get? module = some (.moduleObject contents))
    (shown : ((space.forgetModule name).release module).heap.get? handle = some object) :
    if handle = module then object = .moduleObject { contents with globals := .empty }
    else space.heap.get? handle = some object := by
  have forgotten : (space.forgetModule name).heap.get? handle = some object := Heap.get?_releaseAll shown
  simp only [forgetModule, listed] at forgotten
  have cleared : (({ space with modules := space.modules.erase name } : Space β).clearModule module).heap.get? handle =
      some object := Heap.get?_releaseAll forgotten
  have unlisted : ({ space with modules := space.modules.erase name } : Space β).heap.get? module =
      some (.moduleObject contents) := found
  simp only [clearModule, unlisted] at cleared
  have updated := get?_of_releaseAll cleared
  rw [update, Heap.get?_update] at updated
  split at updated
  · rename_i same
    rw [if_pos same]
    rw [unlisted] at updated
    exact (Option.some.inj updated).symm
  · rename_i apart
    rwa [if_neg apart]

def Belongs (space : Space β) (module handle : Handle) : Prop :=
  handle = module ∨ ∃ callable, space.heap.get? handle = some (.function callable) ∧ callable.bound = some module

structure Confined (space : Space β) (outside : Multiset Handle) (module handle : Handle) : Prop where
  free : handle ∉ outside + space.own
  objects : ∀ holder object, space.heap.get? holder = some object → handle ∈ object.children → space.Belongs module holder

section Confined

variable (exact : space.Exact outside)
  (empty : ∀ object, space.heap.get? module = some object → object = .moduleObject { contents with globals := .empty })
include exact empty

theorem Confined.exists_function (confined : space.Confined outside module handle)
    (live : space.heap.get? handle = some object) :
    handle = module ∧ ∃ holder callable, space.heap.get? holder = some (.function callable) ∧
      callable.bound = some module := by
  obtain ⟨cell, here, -⟩ := Heap.cell_of_get? live
  have kept := exact.started (started_of_get? exact live)
  rcases kept.referred_of_cell here with free | ⟨holder, found, shown, child⟩
  · exact absurd free confined.free
  · rcases confined.objects holder found shown child with rfl | ⟨callable, function, bound⟩
    · rw [empty found shown] at child
      simp [Object.children] at child
    · rw [shown] at function
      obtain rfl := Option.some.inj function
      simp only [Object.children, bound, Option.toList_some, List.mem_singleton] at child
      exact ⟨child, holder, callable, shown, bound⟩

theorem Exact.gone (all : ∀ other, space.Belongs module other → space.Confined outside module other)
    (inside : space.Belongs module handle ∨ space.Confined outside module handle) : space.heap.get? handle = none := by
  cases live : space.heap.get? handle with
  | none => rfl
  | some object =>
    exfalso
    have confined : space.Confined outside module handle := inside.elim (all handle) id
    obtain ⟨-, holder, callable, shown, bound⟩ := confined.exists_function exact empty live
    -- The function would be referred to as well, but functions refer to the module only.
    have own : space.Confined outside module holder := all holder (Or.inr ⟨callable, shown, bound⟩)
    obtain ⟨same, -⟩ := own.exists_function exact empty shown
    cases empty _ (same ▸ shown)

end Confined

section Gone

variable (exact : space.Exact outside) (started : space.roots.isSome)
include exact started

theorem Exact.confined_of_missing (missing : space.heap.get? handle = none) :
    space.Confined outside module handle := by
  have kept := exact.started started
  refine ⟨fun held => ?_, fun holder object shown child => ?_⟩
  · obtain ⟨cell, here⟩ := kept.exists_cell_of_held held
    rw [Heap.get?_of_cell here] at missing
    cases missing
  · obtain ⟨cell, here⟩ := kept.exists_cell_of_child shown child
    rw [Heap.get?_of_cell here] at missing
    cases missing

theorem Exact.confined_of_gone (gone : space.heap.get? module = none) (belongs : space.Belongs module handle) :
    space.Confined outside module handle := by
  rcases belongs with rfl | ⟨callable, shown, bound⟩
  · exact exact.confined_of_missing started gone
  · have refers : module ∈ (Object.function callable : Object β).children := by simp [Object.children, bound]
    obtain ⟨cell, here⟩ := (exact.started started).exists_cell_of_child shown refers
    rw [Heap.get?_of_cell here] at gone
    cases gone

end Gone

theorem exact_withdraw (exact : space.Exact (module ::ₘ outside)) (name : String) :
    ((space.forgetModule name).release module).Exact outside := by
  have within : space.Exact (0 + (module ::ₘ outside)) := by rwa [zero_add]
  have forgotten := Path.exact (path_forgetModule name exact) within
  rw [zero_add, ← Multiset.singleton_add] at forgotten
  have released : Path .lasting (space.forgetModule name, module ::ₘ 0) ((space.forgetModule name).release module, 0) :=
    path_release .lasting (by simpa using forgotten)
  have exactAfter := Path.exact released (by simpa using forgotten)
  rwa [zero_add] at exactAfter

theorem own_withdraw (listed : space.modules.get? name = some module) :
    space.own = module ::ₘ ((space.forgetModule name).release module).own := by
  have modules : ((space.forgetModule name).release module).modules = space.modules.erase name :=
    modules_forgetModule listed
  have roots : ((space.forgetModule name).release module).roots = space.roots := space.roots_forgetModule name
  rw [own, own, rootHandles, rootHandles, roots, modules, Bindings.values_erase listed, Multiset.cons_add]

/-- What is left of a space when a module with these contents is withdrawn that was held besides `outside`. -/
structure Withdrawn (before after : Space β) (outside : Multiset Handle) (module : Handle) (contents : ModuleObject) :
    Prop where
  exact : after.Exact outside
  empty : ∀ object, after.heap.get? module = some object → object = .moduleObject { contents with globals := .empty }
  kept : ∀ handle object, handle ≠ module → after.heap.get? handle = some object →
    before.heap.get? handle = some object
  counted : ∀ handle count, handle ≠ module → after.heap.count? handle = some count →
    before.heap.count? handle = some (count + contents.globals.values.count handle +
      ∑ other ∈ before.heap.withdrawn after.heap module, before.heap.weight Object.children handle other)
  gone : (∀ other, after.Belongs module other → after.Confined outside module other) →
    ∀ handle, after.Belongs module handle ∨ after.Confined outside module handle → after.heap.get? handle = none

theorem withdrawn_withdraw (exact : space.Exact (module ::ₘ outside)) (listed : space.modules.get? name = some module)
    (found : space.heap.get? module = some (.moduleObject contents)) :
    space.Withdrawn ((space.forgetModule name).release module) outside module contents := by
  let after := (space.forgetModule name).release module
  have exactAfter : after.Exact outside := exact_withdraw exact name
  have kept (other : Handle) (there : Object β) (different : other ≠ module) (now : after.heap.get? other = some there) :
      space.heap.get? other = some there := by
    have unchanged := get?_of_withdraw listed found now
    rwa [if_neg different] at unchanged
  have empty (there : Object β) (now : after.heap.get? module = some there) :
      there = .moduleObject { contents with globals := .empty } := by
    have same := get?_of_withdraw listed found now
    rwa [if_pos rfl] at same
  refine ⟨exactAfter, empty, kept, ?_, fun all handle inside => exactAfter.gone empty all inside⟩
  intro handle count apart counted
  show space.heap.count? handle = some (count + contents.globals.values.count handle +
    ∑ other ∈ space.heap.withdrawn after.heap module, space.heap.weight Object.children handle other)
  have started := started_of_get? exact found
  have before := exact.started started
  have later := exactAfter.started ((space.roots_forgetModule name).symm ▸ started)
  obtain ⟨cell', here', rfl⟩ := Option.map_eq_some_iff.mp counted
  obtain ⟨cell, here, -⟩ := Heap.cell_of_get? (kept handle cell'.object apart (Heap.get?_of_cell here'))
  have emptied (there : Object β) (now : after.heap.get? module = some there) : there.children = [] := by
    rw [empty there now]
    rfl
  have fewer := Heap.count_references_withdrawn found (fun other there now different => kept other there different now)
    emptied handle
  have own : space.own = module ::ₘ after.own := own_withdraw listed
  have values : (Object.moduleObject contents : Object β).children = contents.globals.values := rfl
  have count := before.count_eq here
  have countAfter := later.count_eq here'
  rw [fewer, values, own, Multiset.count_add, Multiset.count_cons_of_ne apart, Multiset.count_cons_of_ne apart] at count
  rw [Multiset.count_add] at countAfter
  rw [Heap.count?, here, Option.map_some, Option.some.injEq]
  omega

end Space

end ObjectBridge.Guest

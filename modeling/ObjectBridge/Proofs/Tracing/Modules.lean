import ObjectBridge.Proofs.Space.Creation
import ObjectBridge.Proofs.Space.Ended
import ObjectBridge.Proofs.Tracing.Operations

/-!
Modules of spaces that differ in a switch. They are created, forgotten and brought down alike: a module that is
emptied has no switch any more, so what is left of the spaces at their end is the same.
-/

namespace ObjectBridge.Guest.Space

open Op

variable {β : Type} {switch : Switch β} {first second : Space β} {held : Multiset Handle}

section Creation

variable {module value : Handle} {name : String}

theorem bindGlobal_eq {space : Space β} {contents : ModuleObject}
    (found : space.heap.get? module = some (.moduleObject contents)) :
    space.bindGlobal module name value =
      (space.update module (withSettable (contents.globals.insert name value))).releaseAll
        (contents.globals.get? name).toList := by
  have same : space.update module (withSettable (contents.globals.insert name value)) =
      space.update module fun _ => .moduleObject { contents with globals := contents.globals.insert name value } :=
    congrArg (fun heap => { space with heap }) (Heap.update_eq_update_const found _)
  rw [same]
  simp only [bindGlobal, found]
  cases contents.globals.get? name <;> rfl

theorem exact_bind {space : Space β} (exact : space.Exact (value ::ₘ held)) {contents : ModuleObject}
    (found : space.heap.get? module = some (.moduleObject contents)) :
    (space.update module (withSettable (contents.globals.insert name value))).Exact
      (((contents.globals.get? name).toList : Multiset Handle) + held) := by
  have path : Path .lasting (space, value ::ₘ held)
      (space.update module (withSettable (contents.globals.insert name value)),
        ((contents.globals.get? name).toList : Multiset Handle) + held) := by
    refine path_update (.moduleObject contents) (started_of_get? exact found) found (.moduleObject _ _) ?_
    have bound := contents.globals.values_insert name value
    rw [withSettable, Object.children, Object.children, ← add_assoc, bound, Multiset.add_cons, Multiset.cons_add]
  simpa using Path.exact path (by simpa using exact : space.Exact (value ::ₘ held + 0))

theorem Like.bindGlobal (like : first.Like switch second) (exact : first.Exact (value ::ₘ held))
    (exact' : second.Exact (value ::ₘ held)) {contents : ModuleObject}
    (found : first.heap.get? module = some (.moduleObject contents))
    (apart : ∀ fixture ∈ switch.fixture, module ≠ switch.module) :
    (first.bindGlobal module name value).Like switch (second.bindGlobal module name value) := by
  obtain ⟨object', found', related⟩ : ∃ object', second.heap.get? module = some object' ∧
      switch.Objects module (.moduleObject contents) object' := by
    have related := like.heap.get? module
    rw [found] at related
    generalize second.heap.get? module = other at related ⊢
    cases related with
    | some related => exact ⟨_, rfl, related⟩
  obtain ⟨contents', rfl⟩ : ∃ contents', object' = .moduleObject contents' := by
    cases related <;> exact ⟨_, rfl⟩
  obtain ⟨changed, earlier⟩ := related.bind rfl rfl name value
  rw [bindGlobal_eq found, bindGlobal_eq found']
  have altered : (first.update module (withSettable (contents.globals.insert name value))).Like switch
      (second.update module (withSettable (contents'.globals.insert name value))) := by
    refine { like.toNear.update (fun object object' _ shown shown' => ?_) fun object shown shown' => ?_ with
      modules := like.modules, fixes := like.fixes.update found (fun fixture fixed _ same => ?_) nofun }
    · obtain rfl := Option.some.inj (found.symm.trans shown)
      obtain rfl := Option.some.inj (found'.symm.trans shown')
      exact changed
    · obtain rfl := Option.some.inj (found.symm.trans shown)
      cases Option.some.inj (found'.symm.trans shown')
      rfl
    · exact absurd same (apart fixture fixed)
  exact altered.releaseAll (exact_bind exact found) (exact_bind exact' found') earlier

def HasModule (space : Space β) (module : Handle) : Prop :=
  ∃ object, space.heap.get? module = some object ∧ object.kind = .moduleObject

theorem HasModule.exists_contents {space : Space β} (has : space.HasModule module) :
    ∃ contents, space.heap.get? module = some (.moduleObject contents) := by
  obtain ⟨object, found, kind⟩ := has
  cases object with
  | moduleObject contents => exact ⟨contents, found⟩
  | _ => cases kind

/-- The space with one more function for the module, which is not bound yet, and the handle of it. -/
def makeFunction (space : Space β) (module : Handle) (name : String) (body : β) : Handle × Space β :=
  let made := (space.retain module).heap.allocate (.function { name, bound := some module, body })
  (made.1, { space.retain module with heap := made.2 })

theorem exact_makeFunction {space : Space β} (exact : space.Exact held) (has : space.HasModule module) (name : String)
    (body : β) : (space.makeFunction module name body).2.Exact ((space.makeFunction module name body).1 ::ₘ held) := by
  obtain ⟨contents, found⟩ := has.exists_contents
  obtain ⟨cell, here, -⟩ := Heap.cell_of_get? found
  have began : space.roots.isSome := started_of_get? exact found
  have within : space.Exact (0 + held) := by rwa [zero_add]
  have counted : Path .lasting (space, 0) _ := path_retain .lasting within fun _ => ⟨cell, here⟩
  have created := counted.trans
    (path_allocate .lasting (show (space.retain module).roots.isSome from began)
      (.function { name, bound := some module, body }) 0)
  have counted := Path.exact created within
  rwa [Multiset.cons_add, zero_add] at counted

theorem Like.addFunction (like : first.Like switch second) (exact : first.Exact held) (exact' : second.Exact held)
    (has : first.HasModule module) (has' : second.HasModule module)
    (apart : ∀ fixture ∈ switch.fixture, module ≠ switch.module) (name : String) (body : β) :
    (first.addFunction module name body).Like switch (second.addFunction module name body) := by
  have retained := like.of_near (like.toNear.retain module) (keeps_retain first module) rfl
  obtain ⟨same, near⟩ := retained.toNear.allocate (.function { name, bound := some module, body })
  have keeps := keeps_allocate retained.sound.1 (.function { name, bound := some module, body })
  have made : (first.makeFunction module name body).2.Like switch (second.makeFunction module name body).2 :=
    retained.of_near near keeps rfl
  obtain ⟨contents, found⟩ := has.exists_contents
  have still := keeps.objects _ _ ((keeps_retain first module).objects _ _ found)
  have counted := exact_makeFunction exact has name body
  have counted' := exact_makeFunction exact' has' name body
  have equal : (second.makeFunction module name body).1 = (first.makeFunction module name body).1 := same
  rw [equal] at counted'
  change Like switch (Space.bindGlobal _ module name _) (Space.bindGlobal _ module name _)
  rw [same]
  exact made.bindGlobal counted counted' still apart

theorem HasModule.addFunction {space : Space β} (has : space.HasModule module) (exact : space.Exact held)
    (outside : module ∈ held) (name : String) (body : β) :
    (space.addFunction module name body).Exact held ∧ (space.addFunction module name body).HasModule module ∧
      (space.addFunction module name body).modules = space.modules := by
  obtain ⟨path, modules, still⟩ := path_addFunction exact outside has name body
  exact ⟨by simpa using Path.exact path (by rwa [zero_add] : space.Exact (0 + held)), still, modules⟩

theorem Like.addFunctions (like : first.Like switch second) (exact : first.Exact held) (exact' : second.Exact held)
    (outside : module ∈ held) (has : first.HasModule module) (has' : second.HasModule module)
    (apart : ∀ fixture ∈ switch.fixture, module ≠ switch.module) (functions : List (String × β)) :
    let fill (space : Space β) := functions.foldl (fun space (name, body) => space.addFunction module name body) space
    (fill first).Like switch (fill second) ∧ ((fill first).Exact held ∧ (fill second).Exact held) ∧
      ((fill first).HasModule module ∧ (fill second).HasModule module) ∧ (fill first).modules = first.modules := by
  induction functions generalizing first second with
  | nil => exact ⟨like, ⟨exact, exact'⟩, ⟨has, has'⟩, rfl⟩
  | cons function rest ih =>
    obtain ⟨name, body⟩ := function
    obtain ⟨counted, still, modules⟩ := has.addFunction exact outside name body
    obtain ⟨counted', still', -⟩ := has'.addFunction exact' outside name body
    obtain ⟨later, exacts, modulesThen, unchanged⟩ :=
      ih (like.addFunction exact exact' has has' apart name body) counted counted' still still'
    exact ⟨later, exacts, modulesThen, unchanged.trans modules⟩

theorem run_addFunctions {space : Space β} (exact : space.Exact held) (outside : module ∈ held)
    (has : space.HasModule module) (functions : List (String × β)) :
    (forM functions fun (name, body) => do
      modify (·.retain module)
      let function ← allocate (.function { name, bound := some module, body })
      modify (·.bindGlobal module name function) : Op β PUnit).run space =
      .ok (⟨⟩, functions.foldl (fun space (name, body) => space.addFunction module name body) space) := by
  induction functions generalizing space with
  | nil => rfl
  | cons function rest ih =>
    obtain ⟨name, body⟩ := function
    obtain ⟨counted, still, -⟩ := has.addFunction exact outside name body
    obtain ⟨contents, found⟩ := has.exists_contents
    have began : space.roots.isSome := started_of_get? exact found
    have allocated : (allocate (.function { name, bound := some module, body })).run (space.retain module) =
        .ok (space.makeFunction module name body) :=
      allocate_eq_ok.mpr ⟨began, rfl, rfl⟩
    have first : (do
        modify (·.retain module)
        let function ← allocate (.function { name, bound := some module, body })
        modify (·.bindGlobal module name function) : Op β PUnit).run space =
        .ok (⟨⟩, space.addFunction module name body) := by
      rw [run_bind_eq_ok]
      refine ⟨⟨⟩, _, rfl, run_bind_eq_ok.mpr ⟨_, _, allocated, rfl⟩⟩
    rw [List.forM_cons, StateT.run_bind, first]
    exact ih counted still

theorem Like.enlist (like : first.Like switch second) (free : first.modules.get? name = none)
    (apart : ∀ fixture ∈ switch.fixture, module ≠ switch.module) :
    Like switch { first with modules := first.modules.insert name module }
      { second with modules := second.modules.insert name module } where
  roots := like.roots
  definitions := like.definitions
  heap := like.heap
  sound := like.sound
  held := like.held
  differ handle different := by
    have listed : handle ∈ (first.modules.values : Multiset Handle) := like.differ handle different
    have inserted := Bindings.values_insert_of_none free module
    exact Multiset.mem_coe.mp (inserted ▸ Multiset.mem_cons_of_mem listed)
  modules := by rw [like.modules]
  fixes fixture fixed started := by
    obtain ⟨listed, bound, function⟩ := like.fixes fixture fixed started
    refine ⟨fun other => ?_, bound, function⟩
    simp only [Bindings.get?_insert]
    split
    · rename_i here
      refine ⟨fun same => absurd (Option.some.inj same) (apart fixture fixed), fun same => ?_⟩
      have bound := (listed other).mpr same
      rw [here, free] at bound
      cases bound
    · exact listed other

theorem agrees_createModule {name : String} (definition : Definition β) (exact : first.Exact held)
    (exact' : second.Exact held) (like : first.Like switch second) (free : first.modules.get? name = none) :
    Outcomes switch ((createModule name definition).run first) ((createModule name definition).run second) := by
  unfold createModule
  refine (follows_allocate (.str name) first second like).bind
    fun label labelled labelled' ranLabel ranLabel' likeLabelled => ?_
  refine (follows_allocate _ labelled labelled' likeLabelled).bind
    fun module created created' ranModule ranModule' likeCreated => ?_
  obtain ⟨path, found⟩ := path_newModule exact ranLabel ranModule
  obtain ⟨path', found'⟩ := path_newModule exact' ranLabel' ranModule'
  have counted : created.Exact ({module} + held) := Path.exact path (by rwa [zero_add])
  have counted' : created'.Exact ({module} + held) := Path.exact path' (by rwa [zero_add])
  have outside : module ∈ {module} + held := Multiset.mem_add.mpr (Or.inl (Multiset.mem_singleton_self module))
  have has : created.HasModule module := ⟨_, found, rfl⟩
  have has' : created'.HasModule module := ⟨_, found', rfl⟩
  obtain ⟨started, -, rfl⟩ := allocate_eq_ok.mp ranLabel
  obtain ⟨-, fresh, rfl⟩ := allocate_eq_ok.mp ranModule
  have apart : ∀ fixture ∈ switch.fixture, module ≠ switch.module := by
    intro fixture fixed same
    obtain ⟨-, ⟨_, there, -⟩, -⟩ := likeLabelled.fixes fixture fixed started
    rw [← same, fresh, Heap.get?, Heap.cell?_fst_allocate likeLabelled.sound.1, Option.map_none] at there
    cases there
  obtain ⟨likeFilled, ⟨exactFilled, exactFilled'⟩, ⟨still, still'⟩, unchanged⟩ :=
    likeCreated.addFunctions counted counted' outside has has' apart definition.functions
  have filled := run_addFunctions counted outside has definition.functions
  have filled' := run_addFunctions counted' outside has' definition.functions
  simp only [List.forM_eq_forM, StateT.run_bind, StateT.run_modify, filled, filled']
  exact follows_acquire module _ _ (likeFilled.enlist ((congrArg (·.get? name) unchanged).trans free) apart)

end Creation

section Removal

variable {apart : List Handle} {module : Handle}

theorem exact_clear {space : Space β} (exact : space.Exact held) {contents : ModuleObject}
    (found : space.heap.get? module = some (.moduleObject contents)) :
    (space.update module fun _ => .moduleObject { contents with globals := .empty }).Exact
      ((contents.globals.values : Multiset Handle) + held) := by
  have path : Path .lasting (space, 0) (space.update module fun _ => .moduleObject { contents with globals := .empty },
      (contents.globals.values : Multiset Handle)) :=
    path_update (.moduleObject contents) (started_of_get? exact found) found (.moduleObject _ _) (by
      simp [Object.children])
  exact Path.exact path (by rwa [zero_add])

theorem Near.empty (near : first.Near switch apart second) {contents contents' : ModuleObject}
    (found : first.heap.get? module = some (.moduleObject contents))
    (found' : second.heap.get? module = some (.moduleObject contents')) (same : contents'.name = contents.name) :
    (first.update module fun _ => .moduleObject { contents with globals := .empty }).Near switch
      (apart.filter (· ≠ module))
        (second.update module fun _ => .moduleObject { contents' with globals := .empty }) := by
  have equal : ({ contents' with globals := .empty } : ModuleObject) =
      { contents with globals := .empty } := by rw [same]
  rw [equal]
  refine { near.update (fun _ _ _ _ _ => .same _ _) fun _ _ _ => rfl with differ := fun handle different => ?_ }
  rw [Space.update, Space.update, Heap.get?_update, Heap.get?_update] at different
  by_cases here : handle = module
  · subst here
    simp [found, found'] at different
  · rw [if_neg here, if_neg here] at different
    exact List.mem_filter.mpr ⟨near.differ handle different, by simpa using here⟩

theorem Near.part (near : first.Near switch apart second) (same : second.heap.get? module = first.heap.get? module) :
    first.Near switch (apart.filter (· ≠ module)) second := by
  refine { near with differ := fun handle different => List.mem_filter.mpr ⟨near.differ handle different, ?_⟩ }
  simpa using fun here : handle = module => different (here ▸ same)

theorem Near.clearModule (near : first.Near switch apart second) (exact : first.Exact held) (exact' : second.Exact held)
    (module : Handle) :
    (first.clearModule module).Near switch (apart.filter (· ≠ module)) (second.clearModule module) := by
  rcases near.get?_cases module with same | ⟨name, globals, value, value', listed, listed', found, found'⟩
  · cases found : first.heap.get? module with
    | some object =>
      cases object with
      | moduleObject contents =>
        have found' := same.trans found
        simp only [Space.clearModule, found, found']
        exact (near.empty found found' rfl).releaseAll (exact_clear exact found) (exact_clear exact' found')
          (switch.likeness.handles_refl _)
      | _ =>
        simp only [Space.clearModule, same, found]
        exact near.part same
    | none =>
      simp only [Space.clearModule, same, found]
      exact near.part same
  · simp only [Space.clearModule, found, found']
    refine (near.empty found found' rfl).releaseAll (exact_clear exact found) (exact_clear exact' found') ?_
    have refl (value : Handle) : switch.likeness.Handles value value := Or.inl rfl
    have pairs := Bindings.forall₂_entries_insert refl globals switch.name (Switch.handles_of_mem listed listed')
    exact List.forall₂_map_left_iff.mpr (List.forall₂_map_right_iff.mpr (pairs.imp fun _ _ same => same.2))

theorem exact_clearModule {space : Space β} (exact : space.Exact held) (module : Handle) :
    (space.clearModule module).Exact held := by
  simpa using Path.exact (path_clearModule module exact) (by rwa [zero_add] : space.Exact (0 + held))

theorem modules_clearModule (space : Space β) (module : Handle) :
    (space.clearModule module).modules = space.modules := by
  unfold Space.clearModule
  split
  · exact modules_releaseAll _ _
  · rfl

theorem Fixes.clearModule {space : Space β} (fixes : space.Fixes switch) (exact : space.Exact held)
    (other : ∀ fixture ∈ switch.fixture, space.roots.isSome → module ≠ switch.module) :
    (space.clearModule module).Fixes switch := by
  unfold Space.clearModule
  split
  · rename_i contents found
    have emptied : (space.update module fun _ => .moduleObject { contents with globals := .empty }).Fixes switch :=
      fixes.update found (fun fixture fixed started same => absurd same (other fixture fixed started)) nofun
    exact emptied.of_release (exact_clear exact found).releaseAll (roots_releaseAll _ _) (modules_releaseAll _ _)
      fun _ _ => get?_of_releaseAll
  · exact fixes

theorem Like.forgetModule (like : first.Like switch second) (exact : first.Exact held) (exact' : second.Exact held)
    {name : String} (other : ∀ fixture ∈ switch.fixture, fixture.moduleName ≠ name) :
    (first.forgetModule name).Like switch (second.forgetModule name) := by
  unfold Space.forgetModule
  rw [like.modules]
  split
  · rename_i module listed
    have parted {space : Space β} (exact : space.Exact held) (listed : space.modules.get? name = some module) :
        Exact { space with modules := space.modules.erase name } (module ::ₘ held) := by
      have step : Step .lasting (space, 0) ({ space with modules := space.modules.erase name }, module ::ₘ 0) :=
        .delist listed
      simpa using step.exact (by rwa [zero_add] : space.Exact (0 + held))
    have counted := parted exact listed
    have counted' := parted exact' (like.modules ▸ listed)
    rw [like.modules] at counted'
    have near : Near switch first.modules.values { first with modules := first.modules.erase name }
        { second with modules := first.modules.erase name } := { like.toNear with }
    have fixes : Fixes { first with modules := first.modules.erase name } switch := by
      intro fixture fixed started
      obtain ⟨all, bound, function⟩ := like.fixes fixture fixed started
      refine ⟨fun key => ?_, bound, function⟩
      rw [Bindings.get?_erase]
      split
      · rename_i here
        constructor
        · intro erased
          cases erased
        · intro same
          exact absurd (same.symm.trans here) (other fixture fixed)
      · exact all key
    -- The module with what is fixed has another name, so it is not the one that is cleared.
    have apart : ∀ fixture ∈ switch.fixture, first.roots.isSome → module ≠ switch.module := by
      rintro fixture fixed started rfl
      exact other fixture fixed (((like.fixes fixture fixed started).listed name).mp listed).symm
    have cleared := near.clearModule counted counted' module
    have exactCleared := exact_clearModule counted module
    have exactCleared' := exact_clearModule counted' module
    have released := cleared.release exactCleared exactCleared' (Or.inl rfl)
    have unchanged := modules_clearModule { first with modules := first.modules.erase name } module
    refine { released with differ := fun handle different => ?_, modules := ?_, fixes := ?_ }
    · obtain ⟨there, elsewhere⟩ := List.mem_filter.mp (released.differ handle different)
      obtain ⟨key, bound⟩ := Bindings.mem_values.mp there
      rw [modules_release, unchanged]
      refine Bindings.mem_values.mpr ⟨key, ?_⟩
      rw [Bindings.get?_erase, if_neg, bound]
      rintro rfl
      simp [Option.some.inj (bound.symm.trans listed)] at elsewhere
    · rw [modules_release, modules_release, modules_clearModule, unchanged]
    · exact (fixes.clearModule counted apart).of_release exactCleared.release rfl rfl fun _ _ => Heap.get?_releaseAll
  · exact like

end Removal

theorem Like.refersFinally (like : first.Like switch second) : second.RefersFinally = first.RefersFinally := by
  funext handle child
  unfold RefersFinally
  rw [like.modules]
  by_cases same : second.heap.get? handle = first.heap.get? handle
  · rw [same]
  · simp only [if_pos (like.differ handle same)]
    rcases like.get?_cases handle with equal | ⟨name, globals, value, value', -, -, found, found'⟩
    · exact absurd equal same
    · simp [found, found', Object.cleared]

theorem Like.finalize (like : first.Like switch second) (exact : first.Exact held) (exact' : second.Exact held) :
    second.finalize.1 = first.finalize.1 ∧ first.finalize.2.Like switch second.finalize.2 := by
  cases started : first.roots with
  | none =>
    rw [finalize_of_ended started, finalize_of_ended (like.roots.trans started)]
    exact ⟨rfl, like⟩
  | some roots =>
    have began : first.roots.isSome := by simp [started]
    have began' : second.roots.isSome := like.roots ▸ began
    obtain ⟨heap, dismantles, result, final⟩ := finalizesTo_finalize began
    obtain ⟨heap', dismantles', result', final'⟩ := finalizesTo_finalize began'
    have survivors : {handle | second.Survives held handle} = {handle | first.Survives held handle} := by
      simp only [Survives, like.refersFinally]
    refine ⟨?_, ?_⟩
    · rw [result, result', live_of_dismantles exact began dismantles, live_of_dismantles exact' began' dismantles',
        survivors]
    · rw [final, final']
      exact .refl Heap.sound_empty nofun nofun

end ObjectBridge.Guest.Space

import ObjectBridge.Proofs.Heap.Survivors
import ObjectBridge.Proofs.Space.Modules

/-!
A module as it is created. Its functions are made one after the other and bound under their names, a later one in
place of an earlier one of the same name. What is bound then is kept, since the module refers to it.
-/

namespace ObjectBridge.Guest.Space

open Op

variable {β : Type} {space : Space β} {frame : Multiset Handle} {module : Handle} {name : String}

/-- The module has bound the functions of the list, the last one of each name. -/
def Offers (space : Space β) (module : Handle) (name : String) (functions : List (String × β)) : Prop :=
  ∃ contents, space.heap.get? module = some (.moduleObject contents) ∧ contents.name = name ∧
    ∀ functionName body, functions.reverse.lookup functionName = some body →
      ∃ function, contents.globals.get? functionName = some function ∧
        space.heap.get? function = some (.function { name := functionName, bound := some module, body })

theorem get?_bindGlobal {contents : ModuleObject} (found : space.heap.get? module = some (.moduleObject contents))
    {global : String} {value other : Handle} {object : Object β}
    (shown : (space.bindGlobal module global value).heap.get? other = some object) :
    if other = module then object = .moduleObject { contents with globals := contents.globals.insert global value }
    else space.heap.get? other = some object := by
  have updated (shown : (space.update module fun _ => .moduleObject
      { contents with globals := contents.globals.insert global value }).heap.get? other = some object) :
      if other = module then object = .moduleObject { contents with globals := contents.globals.insert global value }
      else space.heap.get? other = some object := by
    rw [update, Heap.get?_update] at shown
    split at shown
    · rename_i same
      rw [found] at shown
      rw [if_pos same]
      exact (Option.some.inj shown).symm
    · rename_i apart
      rwa [if_neg apart]
  simp only [bindGlobal, found] at shown
  split at shown
  · exact updated (Heap.get?_releaseAll shown)
  · exact updated shown

theorem Offers.addFunction {functions : List (String × β)} (offers : space.Offers module name functions)
    (exact : space.Exact frame) (outside : module ∈ frame) (functionName : String) (body : β) :
    (space.addFunction module functionName body).Offers module name (functions ++ [(functionName, body)]) := by
  obtain ⟨contents, found, named, bound⟩ := offers
  let counted := space.retain module
  let object : Object β := .function { name := functionName, bound := some module, body }
  let made := counted.heap.allocate object
  let between : Space β := { counted with heap := made.2 }
  have started := started_of_get? exact found
  have sound : counted.heap.Sound := Heap.sound_acquire (exact.started started).sound module
  have same (other : Handle) : counted.heap.get? other = space.heap.get? other := Heap.get?_acquire _ _ _
  have fresh : space.heap.get? made.1 = none := by
    rw [← same, Heap.get?, Heap.cell?_fst_allocate sound, Option.map_none]
  have old {other : Handle} {object : Object β} (shown : space.heap.get? other = some object) :
      other ≠ made.1 ∧ between.heap.get? other = some object := by
    have apart : other ≠ made.1 := by
      rintro rfl
      rw [fresh] at shown
      cases shown
    exact ⟨apart, by rw [Heap.get?_allocate sound, if_neg apart, same, shown]⟩
  have new : between.heap.get? made.1 = some object := by rw [Heap.get?_allocate sound, if_pos rfl]
  obtain ⟨path, -, last, here, kind⟩ := path_addFunction exact outside ⟨_, found, rfl⟩ functionName body
  have exactAfter := Path.exact path (show space.Exact (0 + frame) by rwa [zero_add])
  have foundBetween := (old found).2
  -- The module has the new globals, and what is bound there is as it was before they were set.
  obtain rfl : last = .moduleObject { contents with globals := contents.globals.insert functionName made.1 } := by
    have shown := get?_bindGlobal foundBetween here
    rwa [if_pos rfl] at shown
  have startedAfter := started_of_get? exactAfter here
  have kept {key : String} {value : Handle} {object : Object β}
      (listed : (contents.globals.insert functionName made.1).get? key = some value)
      (shown : between.heap.get? value = some object) (apart : value ≠ module) :
      (space.addFunction module functionName body).heap.get? value = some object := by
    obtain ⟨cell, there⟩ := (exactAfter.started startedAfter).exists_cell_of_child here
      (Bindings.mem_values.mpr ⟨key, listed⟩)
    have now := get?_bindGlobal foundBetween (Heap.get?_of_cell there)
    rw [if_neg apart] at now
    rw [shown] at now
    exact (Heap.get?_of_cell there).trans now.symm
  refine ⟨_, here, named, fun key code given => ?_⟩
  rw [List.reverse_append, List.reverse_singleton, List.singleton_append, List.lookup_cons] at given
  split at given
  · rename_i equal
    obtain rfl := Option.some.inj given
    obtain rfl : key = functionName := beq_iff_eq.mp equal
    have listed : (contents.globals.insert key made.1).get? key = some made.1 := by
      rw [Bindings.get?_insert, if_pos rfl]
    exact ⟨made.1, listed, kept listed new (Ne.symm (old found).1)⟩
  · rename_i other
    obtain ⟨function, listed, shown⟩ := bound key code given
    have different : key ≠ functionName := by
      rintro rfl
      simp at other
    have listedNow : (contents.globals.insert functionName made.1).get? key = some function := by
      rw [Bindings.get?_insert, if_neg different, listed]
    refine ⟨function, listedNow, kept listedNow (old shown).2 ?_⟩
    rintro rfl
    cases found.symm.trans shown

theorem offers_of_addFunctions {functions done : List (String × β)} {after : Space β} {result : PUnit}
    (exact : space.Exact frame) (outside : module ∈ frame) (offers : space.Offers module name done)
    (ran : (forM functions fun (name, body) => do
      modify (·.retain module)
      let function ← allocate (.function { name, bound := some module, body })
      modify (·.bindGlobal module name function) : Op β PUnit).run space = .ok (result, after)) :
    after.Offers module name (done ++ functions) := by
  induction functions generalizing space done with
  | nil =>
    obtain ⟨-, rfl⟩ := run_pure_eq_ok.mp ran
    rwa [List.append_nil]
  | cons function rest ih =>
    obtain ⟨functionName, body⟩ := function
    obtain ⟨-, ranRest⟩ := run_addFunctions_cons.mp ran
    have ⟨contents, found, _⟩ := offers
    obtain ⟨path, -⟩ := path_addFunction exact outside ⟨_, found, rfl⟩ functionName body
    have exactAfter := Path.exact path (show space.Exact (0 + frame) by rwa [zero_add])
    rw [zero_add] at exactAfter
    have later := ih exactAfter (offers.addFunction exact outside functionName body) ranRest
    rwa [List.append_assoc, List.singleton_append] at later

theorem exists_addFunctions (functions : List (String × β)) (exact : space.Exact frame) (outside : module ∈ frame)
    (isModule : ∃ object, space.heap.get? module = some object ∧ object.kind = .moduleObject) :
    ∃ after, (forM functions fun (name, body) => do
      modify (·.retain module)
      let function ← allocate (.function { name, bound := some module, body })
      modify (·.bindGlobal module name function) : Op β PUnit).run space = .ok (⟨⟩, after) ∧
        ∃ object, after.heap.get? module = some object ∧ object.kind = .moduleObject := by
  induction functions generalizing space with
  | nil => exact ⟨space, rfl, isModule⟩
  | cons function rest ih =>
    obtain ⟨name, body⟩ := function
    obtain ⟨path, -, again⟩ := path_addFunction exact outside isModule name body
    have exactThen := Path.exact path (show space.Exact (0 + frame) by rwa [zero_add])
    rw [zero_add] at exactThen
    obtain ⟨after, ran, last⟩ := ih exactThen again
    obtain ⟨object, found, -⟩ := isModule
    exact ⟨after, run_addFunctions_cons.mpr ⟨started_of_get? exact found, ran⟩, last⟩

theorem exists_createModule (exact : space.Exact frame) (started : space.roots.isSome) (name : String)
    (definition : Definition β) : ∃ module after, (createModule name definition).run space = .ok (module, after) := by
  let label := (space.heap.allocate (.str name)).1
  let labelled : Space β := { space with heap := (space.heap.allocate (.str name)).2 }
  have ranLabel : (newText name).run space = .ok (label, labelled) := allocate_eq_ok.mpr ⟨started, rfl, rfl⟩
  let contents : ModuleObject := { name, globals := .singleton "__name__" label }
  let module := (labelled.heap.allocate (.moduleObject contents)).1
  let created : Space β := { labelled with heap := (labelled.heap.allocate (.moduleObject contents)).2 }
  have ranModule : (allocate (.moduleObject contents)).run labelled = .ok (module, created) :=
    allocate_eq_ok.mpr ⟨started, rfl, rfl⟩
  obtain ⟨path, found⟩ := path_newModule exact ranLabel ranModule
  have exactCreated : created.Exact ({module} + frame) := Path.exact path (show space.Exact (0 + frame) by rwa [zero_add])
  have held : module ∈ {module} + frame := Multiset.mem_add.mpr (Or.inl (Multiset.mem_singleton_self module))
  obtain ⟨filled, ranFunctions, object, there, -⟩ :=
    exists_addFunctions definition.functions exactCreated held ⟨_, found, rfl⟩
  have startedFilled := (path_addFunctions exactCreated held ⟨_, found, rfl⟩ ranFunctions).2.2
  let listed : Space β := { filled with modules := filled.modules.insert name module }
  have shown : listed.object module = .ok object := object_eq_ok.mpr ⟨startedFilled, there⟩
  refine ⟨module, listed.retain module, ?_⟩
  simp only [createModule, List.forM_eq_forM, run_bind_eq_ok, run_modify_eq_ok]
  exact ⟨label, labelled, ranLabel, module, created, ranModule, ⟨⟩, filled, ranFunctions, ⟨⟩, listed, rfl,
    acquire_eq_ok.mpr ⟨⟨object, shown⟩, rfl, rfl⟩⟩

theorem exists_importedModule (exact : space.Exact frame) (started : space.roots.isSome) (name : String) :
    ∃ found after, (importedModule name).run space = .ok (found, after) := by
  obtain ⟨roots, rooted⟩ := Option.isSome_iff_exists.mp started
  simp only [importedModule, run_bind_eq_ok, run_read_eq_ok, run_get_eq_ok, rootsNow_eq_ok]
  cases listed : space.modules.get? name with
  | none =>
    refine ⟨none, space, roots, space, ⟨rooted, rfl⟩, space, space, ⟨rfl, rfl⟩, ?_⟩
    rw [listed]
    rfl
  | some module =>
    have own : module ∈ frame + space.own :=
      Multiset.mem_add.mpr (Or.inr (Multiset.mem_add.mpr (Or.inl (Bindings.mem_values.mpr ⟨name, listed⟩))))
    obtain ⟨cell, here⟩ := (exact.started started).exists_cell_of_held own
    have shown := object_eq_ok.mpr ⟨started, Heap.get?_of_cell here⟩
    have answered : (acquire module).run space = .ok (module, space.retain module) :=
      acquire_eq_ok.mpr ⟨⟨_, shown⟩, rfl, rfl⟩
    refine ⟨some module, space.retain module, roots, space, ⟨rooted, rfl⟩, space, space, ⟨rfl, rfl⟩, ?_⟩
    rw [listed]
    exact run_map_eq_ok.mpr ⟨module, answered, rfl⟩

theorem offers_of_createModule {definition : Definition β} {after : Space β} (exact : space.Exact frame)
    (made : (createModule name definition).run space = .ok (module, after)) :
    after.Offers module name definition.functions := by
  simp only [createModule, List.forM_eq_forM, run_bind_eq_ok, run_modify_eq_ok] at made
  obtain ⟨label, labelled, ranLabel, made, created, ranModule, _, filled, ranFunctions, _, _, rfl, acquired⟩ := made
  obtain ⟨-, rfl, rfl⟩ := acquire_eq_ok.mp acquired
  obtain ⟨path, found⟩ := path_newModule exact ranLabel ranModule
  have exactCreated := Path.exact path (show space.Exact (0 + frame) by rwa [zero_add])
  have offers : created.Offers module name [] := by
    refine ⟨_, found, rfl, ?_⟩
    intro functionName body given
    cases given
  have filledOffers := offers_of_addFunctions exactCreated
    (Multiset.mem_add.mpr (Or.inl (Multiset.mem_singleton_self module))) offers ranFunctions
  obtain ⟨contents, here, named, bound⟩ := filledOffers
  have same (other : Handle) : ({ filled with modules := filled.modules.insert name module }.retain module).heap.get?
      other = filled.heap.get? other := Heap.get?_acquire _ _ _
  refine ⟨contents, (same _).trans here, named, fun functionName body given => ?_⟩
  obtain ⟨function, listed, shown⟩ := bound functionName body given
  exact ⟨function, listed, (same _).trans shown⟩

theorem get?_addFunction (exact : space.Exact frame) (outside : module ∈ frame)
    (isModule : ∃ object, space.heap.get? module = some object ∧ object.kind = .moduleObject) (functionName : String)
    (body : β) {other : Handle} {object : Object β} (held : other ∈ frame) (apart : other ≠ module)
    (found : space.heap.get? other = some object) :
    (space.addFunction module functionName body).heap.get? other = some object := by
  obtain ⟨path, -, last, there, -⟩ := path_addFunction exact outside isModule functionName body
  have exactAfter : (space.addFunction module functionName body).Exact (0 + frame) :=
    Path.exact path (by rwa [zero_add])
  have started := started_of_get? exact found
  have sound : (space.retain module).heap.Sound := Heap.sound_acquire (exact.started started).sound module
  let made := (space.retain module).heap.allocate (.function { name := functionName, bound := some module, body })
  have between {handle : Handle} {object : Object β} (found : space.heap.get? handle = some object) :
      made.2.get? handle = some object :=
    Heap.get?_allocate_of_get? sound _ ((Heap.get?_acquire _ _ _).trans found)
  obtain ⟨contents, isModule⟩ : ∃ contents, space.heap.get? module = some (.moduleObject contents) := by
    obtain ⟨object, found, kind⟩ := isModule
    cases object with
    | moduleObject contents => exact ⟨contents, found⟩
    | _ => cases kind
  -- It is still held, so that it is there, and only the module can have changed.
  obtain ⟨cell, here⟩ := exists_cell_of_held exactAfter (started_of_get? exactAfter there)
    (Multiset.mem_add.mpr (Or.inr held))
  have shown := get?_bindGlobal (between isModule) (Heap.get?_of_cell here)
  rw [if_neg apart] at shown
  exact (Heap.get?_of_cell here).trans (shown.symm.trans (between found))

theorem get?_addFunctions {functions : List (String × β)} {after : Space β} {result : PUnit} (exact : space.Exact frame)
    (outside : module ∈ frame)
    (isModule : ∃ object, space.heap.get? module = some object ∧ object.kind = .moduleObject) {other : Handle}
    {object : Object β} (held : other ∈ frame) (apart : other ≠ module) (found : space.heap.get? other = some object)
    (ran : (forM functions fun (name, body) => do
      modify (·.retain module)
      let function ← allocate (.function { name, bound := some module, body })
      modify (·.bindGlobal module name function) : Op β PUnit).run space = .ok (result, after)) :
    after.heap.get? other = some object := by
  induction functions generalizing space with
  | nil =>
    obtain ⟨-, rfl⟩ := run_pure_eq_ok.mp ran
    exact found
  | cons function rest ih =>
    obtain ⟨name, body⟩ := function
    obtain ⟨-, ranRest⟩ := run_addFunctions_cons.mp ran
    obtain ⟨path, -, again⟩ := path_addFunction exact outside isModule name body
    have exactAfter := Path.exact path (show space.Exact (0 + frame) by rwa [zero_add])
    rw [zero_add] at exactAfter
    exact ih exactAfter again (get?_addFunction exact outside isModule name body held apart found) ranRest

theorem get?_of_run_allocate {object made : Object β} {handle other : Handle} {after : Space β}
    (sound : space.heap.Sound) (ran : (allocate made).run space = .ok (handle, after))
    (found : space.heap.get? other = some object) :
    after.heap.Sound ∧ other ≠ handle ∧ after.heap.get? other = some object := by
  obtain ⟨-, rfl, rfl⟩ := allocate_eq_ok.mp ran
  refine ⟨Heap.sound_allocate sound made, ?_, Heap.get?_allocate_of_get? sound made found⟩
  rintro rfl
  rw [Heap.get?, Heap.cell?_fst_allocate sound, Option.map_none] at found
  cases found

theorem get?_createModule {definition : Definition β} {after : Space β} (exact : space.Exact frame)
    (made : (createModule name definition).run space = .ok (module, after)) {other : Handle} {object : Object β}
    (held : other ∈ frame) (found : space.heap.get? other = some object) :
    other ≠ module ∧ after.heap.get? other = some object := by
  simp only [createModule, List.forM_eq_forM, run_bind_eq_ok, run_modify_eq_ok] at made
  obtain ⟨label, labelled, ranLabel, made, created, ranModule, _, filled, ranFunctions, _, _, rfl, acquired⟩ := made
  obtain ⟨-, rfl, rfl⟩ := acquire_eq_ok.mp acquired
  obtain ⟨path, fresh⟩ := path_newModule exact ranLabel ranModule
  have exactCreated := Path.exact path (show space.Exact (0 + frame) by rwa [zero_add])
  obtain ⟨sound, -, foundLabelled⟩ :=
    get?_of_run_allocate (exact.started (started_of_get? exact found)).sound ranLabel found
  obtain ⟨-, apart, foundCreated⟩ := get?_of_run_allocate sound ranModule foundLabelled
  have kept := get?_addFunctions exactCreated (Multiset.mem_add.mpr (Or.inl (Multiset.mem_singleton_self _)))
    ⟨_, fresh, rfl⟩ (Multiset.mem_add.mpr (Or.inr held)) apart foundCreated ranFunctions
  exact ⟨apart, (Heap.get?_acquire _ _ _).trans kept⟩

end ObjectBridge.Guest.Space

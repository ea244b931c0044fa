import ObjectBridge.Proofs.Space.Typing

/-!
Operations that keep a space well typed. Most of them make nothing that has to fit to anything. The type of a
new type's instances, the bases of a new type and the function of a new method are looked at before they are
made.
-/

namespace ObjectBridge.Guest

variable {α β γ : Type}

/-- A space that is exact and well typed is well typed after the operation. -/
class Op.KeepsTyping (operation : Op β α) : Prop where
  wellTyped : ∀ (space : Space β) (held : Multiset Handle), space.Exact held → space.WellTyped →
    ∀ result after, operation.run space = .ok (result, after) → after.WellTyped

namespace Op

open Space

theorem KeepsTyping.of_onlyLoses {extent : Extent} {operation : Op β α} {answer : α → Multiset Handle}
    (balanced : Op.Balanced extent 0 operation answer)
    (loses : ∀ space result after, operation.run space = .ok (result, after) → space.OnlyLoses after) :
    operation.KeepsTyping where
  wellTyped space held exact typed result after ran := by
    have within : space.Exact (0 + held) := by rwa [zero_add]
    have path := (balanced space held within result after ran).1
    exact typed.of_onlyLoses (Path.exact path within) (loses space result after ran)

instance {reader : Space β → Except Exception α} {next : α → Op β γ} [rest : ∀ value, (next value).KeepsTyping] :
    (read reader >>= next).KeepsTyping where
  wellTyped space held exact typed result after ran := by
    obtain ⟨value, _, seen, ran⟩ := run_bind_eq_ok.mp ran
    obtain ⟨-, rfl⟩ := run_read_eq_ok.mp seen
    exact (rest value).wellTyped space held exact typed result after ran

instance (handle : Handle) : (acquire handle : Op β Handle).KeepsTyping :=
  .of_onlyLoses (balanced_acquire .temporary handle) fun space result after ran => by
    obtain ⟨-, -, rfl⟩ := acquire_eq_ok.mp ran
    exact space.onlyLoses_retain handle

end Op

namespace Space

open Op

section Making

variable {space after : Space β} {held : Multiset Handle} {object : Object β} {handle : Handle}

theorem wellTyped_of_allocate (exact : space.Exact held) (typed : space.WellTyped) (handles : List Handle)
    (ran : (allocate object).run (space.retainAll handles) = .ok (handle, after))
    (fits : object.Fits space.heap.shape?) (unlike : ∀ roots handle, Roots.Single roots handle object) :
    after.WellTyped := by
  obtain ⟨started, -, rfl⟩ := allocate_eq_ok.mp ran
  rw [roots_retainAll] at started
  refine (typed.retainAll handles).allocate (sound_retainAll (exact.started started).sound handles) ?_ unlike
  refine fits.mono fun child _ other shown => ?_
  rwa [Heap.shape?_congr (get?_retainAll space handles child)]

theorem keepsTyping_allocate (plain : ∀ space : Space β, object.Fits space.heap.shape?)
    (unlike : ∀ roots handle, Roots.Single roots handle object) : (allocate object).KeepsTyping where
  wellTyped space _ exact typed _ _ ran := wellTyped_of_allocate exact typed [] ran (plain space) unlike

end Making

instance : (noneValue : Op β Handle).KeepsTyping :=
  inferInstanceAs (Op.KeepsTyping (read (·.rootsNow) >>= fun roots => acquire roots.noneValue))

instance (value : Bool) : (boolValue value : Op β Handle).KeepsTyping :=
  inferInstanceAs (Op.KeepsTyping (read (·.rootsNow) >>= fun roots =>
    acquire (if value then roots.trueValue else roots.falseValue)))

instance (value : Int64) : (newInt value : Op β Handle).KeepsTyping :=
  keepsTyping_allocate (fun _ => trivial) fun _ _ => trivial

instance (text : String) : (newText text : Op β Handle).KeepsTyping :=
  keepsTyping_allocate (fun _ => trivial) fun _ _ => trivial

instance (entries : Bindings Handle) : (allocate (.dict entries) : Op β Handle).KeepsTyping :=
  keepsTyping_allocate (fun _ => trivial) fun _ _ => trivial

instance (items : List Handle) : (newTuple items : Op β Handle).KeepsTyping where
  wellTyped _ _ exact typed _ _ ran :=
    wellTyped_of_allocate exact typed items (newTuple_eq_ok.mp ran).2 trivial fun _ _ => trivial

instance (name : String) (bound : Option Handle) (body : β) : (newFunction name bound body).KeepsTyping where
  wellTyped _ _ exact typed _ _ ran :=
    wellTyped_of_allocate exact typed bound.toList (newFunction_eq_ok.mp ran).2 trivial fun _ _ => trivial

instance (name : String) (bases : List Handle) (members : List (String × Handle)) :
    (newType name bases members : Op β Handle).KeepsTyping where
  wellTyped space held exact typed type after ran := by
    obtain ⟨-, -, parents, label, middle, -, based, -, named, made⟩ := newType_eq_ok.mp ran
    rw [retainAll_append] at named
    have typedMiddle := wellTyped_of_allocate exact typed _ named trivial fun _ _ => trivial
    obtain ⟨started, -, rfl⟩ := allocate_eq_ok.mp named
    rw [roots_retainAll] at started
    have sound := sound_retainAll (exact.started started).sound (parents ++ members.map (·.2))
    obtain ⟨-, -, rfl⟩ := allocate_eq_ok.mp made
    refine typedMiddle.allocate (Heap.sound_allocate sound _) (fun base listed => ?_) fun _ _ => nofun
    obtain ⟨contents, found, derivable⟩ := checkBase_eq_ok.mp (based base listed)
    have there := Heap.shape?_of_get? (object_eq_ok.mp found).2
    rw [← Heap.shape?_congr (get?_retainAll space (parents ++ members.map (·.2)) base)] at there
    exact ⟨_, Heap.shape?_allocate sound _ there, fun _ builtin => derivable builtin⟩

instance (handle : Handle) (name : String) : (getattr handle name : Op β Handle).KeepsTyping where
  wellTyped space held exact typed result after ran := by
    obtain ⟨place, _, seen, -⟩ := run_bind_eq_ok.mp ran
    obtain ⟨found, rfl⟩ := run_read_eq_ok.mp seen
    cases place with
    | plain value =>
      rw [run_getattr_plain found] at ran
      exact KeepsTyping.wellTyped space held exact typed result after ran
    | method function =>
      rw [run_getattr_method found] at ran
      obtain ⟨callable, there⟩ := function_of_findAttribute found
      have fits : (Object.boundMethod handle function).Fits space.heap.shape? :=
        ⟨callable, Heap.shape?_of_get? (object_eq_ok.mp there).2⟩
      exact wellTyped_of_allocate exact typed [handle, function] ran fits fun _ _ => trivial

theorem wellTyped_newInstance {space after : Space β} {held : Multiset Handle} {type result : Handle}
    (exact : space.Exact held) (typed : space.WellTyped) {contents : TypeObject}
    (there : space.heap.get? type = some (.typeObject contents))
    (ran : (do
      let type ← acquire type
      allocate (.object { type, attributes := .empty }) : Op β Handle).run space = .ok (result, after)) :
    after.WellTyped := by
  obtain ⟨_, _, counted, made⟩ := run_bind_eq_ok.mp ran
  obtain ⟨-, rfl, rfl⟩ := acquire_eq_ok.mp counted
  exact wellTyped_of_allocate exact typed [_] made ⟨_, Heap.shape?_of_get? there⟩ fun _ _ => trivial

instance (target : Handle) (name : String) (value : Handle) : (setattr target name value : Op β Unit).KeepsTyping :=
  .of_onlyLoses (balanced_setattr target name value) fun space result after ran => by
    obtain ⟨-, -, object, attributes, found, place, rfl⟩ := setattr_eq_ok.mp ran
    exact onlyLoses_rebind (object_eq_ok.mp found).2 (changes_withSettable place _).shape_eq value _

instance (dict : Handle) (key : String) (value : Handle) : (dictSet dict key value : Op β Unit).KeepsTyping :=
  .of_onlyLoses (balanced_dictSet dict key value) fun space result after ran => by
    obtain ⟨-, entries, found, rfl⟩ := dictSet_eq_ok.mp ran
    exact onlyLoses_rebind (object_eq_ok.mp found).2 rfl value _

instance (dict : Handle) (key : String) : (dictGet dict key : Op β (Option Handle)).KeepsTyping :=
  .of_onlyLoses (balanced_dictGet .temporary dict key) fun space result after ran => by
    simp only [dictGet, run_bind_eq_ok, run_read_eq_ok] at ran
    obtain ⟨entries, _, ⟨-, rfl⟩, ran⟩ := ran
    cases bound : entries.get? key with
    | none =>
      simp only [bound, run_pure_eq_ok] at ran
      exact ran.2 ▸ .refl space
    | some value =>
      simp only [bound, run_map_eq_ok] at ran
      obtain ⟨handle, ran, -⟩ := ran
      obtain ⟨-, -, rfl⟩ := acquire_eq_ok.mp ran
      exact space.onlyLoses_retain value

instance (dict : Handle) (key : String) : (dictRemove dict key : Op β Bool).KeepsTyping :=
  .of_onlyLoses (balanced_dictRemove dict key) fun space result after ran => by
    simp only [dictRemove, run_bind_eq_ok, run_read_eq_ok] at ran
    obtain ⟨entries, _, ⟨found, rfl⟩, ran⟩ := ran
    cases bound : entries.get? key with
    | none =>
      simp only [bound, run_pure_eq_ok] at ran
      exact ran.2 ▸ .refl space
    | some earlier =>
      simp only [bound, run_bind_eq_ok, run_modify_eq_ok, run_pure_eq_ok] at ran
      obtain ⟨_, _, rfl, _, _, rfl, -, rfl⟩ := ran
      exact OnlyLoses.trans (onlyLoses_update (object_eq_ok.mp (entries_eq_ok.mp found)).2 rfl) (onlyLoses_release _ _)

instance (dict : Handle) : (dictItems dict : Op β (List (String × Handle))).KeepsTyping :=
  .of_onlyLoses (balanced_dictItems .temporary dict) fun space result after ran => by
    simp only [dictItems, run_bind_eq_ok, run_read_eq_ok, run_modify_eq_ok, run_pure_eq_ok] at ran
    obtain ⟨entries, _, ⟨-, rfl⟩, _, _, rfl, -, rfl⟩ := ran
    exact space.onlyLoses_retainAll _

instance (name : String) : (importedModule name : Op β (Option Handle)).KeepsTyping :=
  .of_onlyLoses (balanced_importedModule .temporary name) fun space result after ran => by
    cases result with
    | none =>
      obtain ⟨-, rfl⟩ := importedModule_eq_none ran
      exact .refl space
    | some module =>
      obtain ⟨-, rfl⟩ := importedModule_eq_some ran
      exact space.onlyLoses_retain module

section Modules

variable {space after : Space β} {frame : Multiset Handle} {module : Handle}

theorem wellTyped_addFunction (exact : space.Exact frame) (typed : space.WellTyped) (outside : module ∈ frame)
    (isModule : ∃ object, space.heap.get? module = some object ∧ object.kind = .moduleObject) (name : String)
    (body : β) : (space.addFunction module name body).WellTyped := by
  obtain ⟨path, -, -⟩ := path_addFunction exact outside isModule name body
  have within : space.Exact (0 + frame) := by rwa [zero_add]
  obtain ⟨object, found, -⟩ := isModule
  have sound := (exact.started (started_of_get? exact found)).sound
  have made : WellTyped { space.retain module with
      heap := ((space.retain module).heap.allocate (.function { name, bound := some module, body })).2 } :=
    WellTyped.allocate (typed.retainAll [module]) (Heap.sound_acquire sound module) trivial fun _ _ => trivial
  exact made.of_onlyLoses (Path.exact path within) (onlyLoses_bindGlobal _ _ _ _)

theorem wellTyped_addFunctions {functions : List (String × β)} {result : PUnit} (exact : space.Exact frame)
    (typed : space.WellTyped) (outside : module ∈ frame)
    (isModule : ∃ object, space.heap.get? module = some object ∧ object.kind = .moduleObject)
    (ran : (forM functions fun (name, body) => do
      modify (·.retain module)
      let function ← allocate (.function { name, bound := some module, body })
      modify (·.bindGlobal module name function) : Op β PUnit).run space = .ok (result, after)) :
    after.WellTyped := by
  induction functions generalizing space with
  | nil =>
    obtain ⟨-, rfl⟩ := run_pure_eq_ok.mp ran
    exact typed
  | cons function rest ih =>
    obtain ⟨name, body⟩ := function
    obtain ⟨-, ranRest⟩ := run_addFunctions_cons.mp ran
    obtain ⟨path, -, again⟩ := path_addFunction exact outside isModule name body
    have within : space.Exact (0 + frame) := by rwa [zero_add]
    have exactThen : (space.addFunction module name body).Exact frame := by simpa using Path.exact path within
    exact ih exactThen (wellTyped_addFunction exact typed outside isModule name body) again ranRest

theorem wellTyped_createModule {name : String} {definition : Definition β} (exact : space.Exact frame)
    (typed : space.WellTyped) (ran : (createModule name definition).run space = .ok (module, after)) :
    after.WellTyped := by
  simp only [createModule, List.forM_eq_forM, run_bind_eq_ok, run_modify_eq_ok] at ran
  obtain ⟨label, labelled, ranLabel, made, created, ranModule, _, filled, ranFunctions, _, _, rfl, ranAcquire⟩ := ran
  have within : space.Exact (0 + frame) := by rwa [zero_add]
  obtain ⟨pathCreated, found⟩ := path_newModule exact ranLabel ranModule
  have exactCreated := Path.exact pathCreated within
  have outside : made ∈ {made} + frame := Multiset.mem_add.mpr (Or.inl (Multiset.mem_singleton_self made))
  have typedLabelled := wellTyped_of_allocate exact typed [] ranLabel trivial fun _ _ => trivial
  have exactLabelled := Path.exact (balanced_newText .lasting name space frame within label labelled ranLabel).1 within
  have typedCreated : created.WellTyped := wellTyped_of_allocate exactLabelled typedLabelled [] ranModule trivial
    fun _ _ => trivial
  have typedFilled := wellTyped_addFunctions exactCreated typedCreated outside ⟨_, found, rfl⟩ ranFunctions
  -- The functions are bound in the module, which stays what it is but for its globals.
  obtain ⟨pathFunctions, -, started⟩ := path_addFunctions exactCreated outside ⟨_, found, rfl⟩ ranFunctions
  have exactAlone : created.Exact (0 + ({made} + frame)) := by rwa [zero_add]
  have closed (object object' : Object β) (changes : Object.Changes object object')
      (same : object.shape = .moduleObject { name, globals := .empty }) :
      object'.shape = .moduleObject { name, globals := .empty } := changes.shape_eq.trans same
  obtain ⟨object, there, same⟩ := Path.kept closed pathFunctions exactAlone outside ⟨_, found, rfl⟩ started
  have listed := typedFilled.enlist ((Heap.shape?_of_get? there).trans (congrArg some same))
  obtain ⟨-, -, rfl⟩ := acquire_eq_ok.mp ranAcquire
  exact listed.retainAll [made]

end Modules

end Space

end ObjectBridge.Guest

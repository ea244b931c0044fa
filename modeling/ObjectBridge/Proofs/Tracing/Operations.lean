import ObjectBridge.Proofs.Space.Modules
import ObjectBridge.Proofs.Space.Teardown
import ObjectBridge.Proofs.Tracing.Space

/-!
Operations on spaces that differ in a switch. What does not ask for the switch comes to the same in both, and
leaves them the same but for the switch. Where references are given back, this needs the spaces to be exact:
the values of the switch are then never freed.
-/

namespace ObjectBridge.Guest

variable {α β γ : Type}

namespace Switch

variable {switch : Switch β} {target : Handle} {object object' : Object β} {attributes attributes' : Bindings Handle}

theorem Objects.bind (related : switch.Objects target object object') (place : Space.settable object = some attributes)
    (place' : Space.settable object' = some attributes') (name : String) (value : Handle) :
    switch.Objects target (Space.withSettable (attributes.insert name value) object)
        (Space.withSettable (attributes'.insert name value) object') ∧
      List.Forall₂ switch.likeness.Handles (attributes.get? name).toList (attributes'.get? name).toList := by
  cases related with
  | same =>
    obtain rfl : attributes = attributes' := Option.some.inj (place.symm.trans place')
    exact ⟨.same _ _, Heap.Likeness.handles_refl _ _⟩
  | @switched moduleName globals set set' listed listed' =>
    obtain rfl : globals.insert switch.name set = attributes := Option.some.inj place
    obtain rfl : globals.insert switch.name set' = attributes' := Option.some.inj place'
    by_cases here : name = switch.name
    · subst here
      simp only [Space.withSettable, Bindings.insert_insert, Bindings.get?_insert, if_true, Option.toList_some]
      exact ⟨.same _ _, .cons (handles_of_mem listed listed') .nil⟩
    · simp only [Space.withSettable, Bindings.insert_comm _ here, Bindings.get?_insert, if_neg here]
      exact ⟨.switched moduleName (globals.insert name value) listed listed', Heap.Likeness.handles_refl _ _⟩

theorem Objects.settable (related : switch.Objects target object object') :
    (Space.settable object').isSome = (Space.settable object).isSome := by
  cases related <;> rfl

end Switch

namespace Space

variable {switch : Switch β} {apart : List Handle} {first second : Space β}

theorem Near.with_heaps (near : first.Near switch apart second) {heap heap' : Heap (Object β)}
    (heaps : heap.Like switch.likeness heap') (sound : heap.Sound ∧ heap'.Sound)
    (kept : ∀ handle, heap'.get? handle = heap.get? handle ∨ second.heap.get? handle ≠ first.heap.get? handle) :
    Near switch apart { first with heap } { second with heap := heap' } where
  roots := near.roots
  definitions := near.definitions
  heap := heaps
  sound := sound
  held := near.held
  differ handle different := near.differ handle ((kept handle).resolve_left different)

theorem Near.retain (near : first.Near switch apart second) (handle : Handle) :
    (first.retain handle).Near switch apart (second.retain handle) := by
  refine near.with_heaps (near.heap.acquire handle)
    ⟨Heap.sound_acquire near.sound.1 handle, Heap.sound_acquire near.sound.2 handle⟩ fun other => ?_
  rw [Heap.get?_acquire, Heap.get?_acquire]
  exact em _

theorem Near.retainAll (near : first.Near switch apart second) (handles : List Handle) :
    (first.retainAll handles).Near switch apart (second.retainAll handles) := by
  unfold Space.retainAll
  induction handles generalizing first second with
  | nil => exact near
  | cons handle rest ih => exact ih (near.retain handle)

theorem Near.allocate (near : first.Near switch apart second) (object : Object β) :
    (second.heap.allocate object).1 = (first.heap.allocate object).1 ∧
      Near switch apart { first with heap := (first.heap.allocate object).2 }
        { second with heap := (second.heap.allocate object).2 } := by
  obtain ⟨same, heaps⟩ := near.heap.allocate object
  refine ⟨same, near.with_heaps heaps
    ⟨Heap.sound_allocate near.sound.1 object, Heap.sound_allocate near.sound.2 object⟩ fun handle => ?_⟩
  rw [Heap.get?_allocate near.sound.1, Heap.get?_allocate near.sound.2, same]
  split
  · exact Or.inl rfl
  · exact em _

theorem Near.update (near : first.Near switch apart second) {handle : Handle} {change change' : Object β → Object β}
    (changed : ∀ object object', switch.Objects handle object object' → first.heap.get? handle = some object →
      second.heap.get? handle = some object' → switch.Objects handle (change object) (change' object'))
    (same : ∀ object, first.heap.get? handle = some object → second.heap.get? handle = some object →
      change object = change' object) :
    (first.update handle change).Near switch apart (second.update handle change') := by
  refine near.with_heaps (near.heap.update changed)
    ⟨Heap.sound_update near.sound.1 handle change, Heap.sound_update near.sound.2 handle change'⟩ fun other => ?_
  rw [Heap.get?_update, Heap.get?_update]
  by_cases here : other = handle
  · subst here
    rw [if_pos rfl, if_pos rfl]
    by_cases equal : second.heap.get? other = first.heap.get? other
    · refine Or.inl ?_
      rw [equal]
      cases found : first.heap.get? other with
      | none => rfl
      | some object =>
        rw [Option.map_some, Option.map_some, same object found (equal.trans found)]
    · exact Or.inr equal
  · rw [if_neg here, if_neg here]
    exact em _

section Release

variable {held held' : Multiset Handle}

theorem Near.of_release (near : first.Near switch apart second) {heap heap' : Heap (Object β)}
    (heaps : heap.Like switch.likeness heap') (sound : heap.Sound ∧ heap'.Sound)
    (remains : ∀ handle object, heap.get? handle = some object → first.heap.get? handle = some object)
    (remains' : ∀ handle object, heap'.get? handle = some object → second.heap.get? handle = some object) :
    Near switch apart { first with heap } { second with heap := heap' } := by
  refine near.with_heaps heaps sound fun handle => ?_
  have related := heaps.get? handle
  rcases found : heap.get? handle with _ | object <;> rcases found' : heap'.get? handle with _ | object'
  · exact Or.inl rfl
  · simp [found, found'] at related
  · simp [found, found'] at related
  · rw [remains handle object found, remains' handle object' found']
    exact em _

theorem Exact.release {space : Space β} {handle : Handle} (exact : space.Exact (handle ::ₘ held)) :
    (space.release handle).Exact held := by
  have framed : space.Exact (handle ::ₘ held + 0) := by rwa [add_zero]
  simpa only [add_zero] using Path.exact (path_release .lasting framed) framed

theorem Exact.releaseAll {space : Space β} {handles : List Handle}
    (exact : space.Exact ((handles : Multiset Handle) + held)) : (space.releaseAll handles).Exact held := by
  have framed : space.Exact ((handles : Multiset Handle) + held + 0) := by rwa [add_zero]
  simpa only [add_zero] using Path.exact (path_releaseAll .lasting framed) framed

theorem Near.release (near : first.Near switch apart second) {handle handle' : Handle}
    (exact : first.Exact (handle ::ₘ held)) (exact' : second.Exact (handle' ::ₘ held'))
    (same : switch.likeness.Handles handle handle') :
    (first.release handle).Near switch apart (second.release handle') := by
  cases roots : first.roots with
  | none =>
    rw [release_of_ended exact roots, release_of_ended exact' (near.roots.trans roots)]
    exact near
  | some _ =>
    have started : first.roots.isSome := by simp [roots]
    have counted := exact.started started
    have counted' := exact'.started (near.roots ▸ started)
    have values (value : Handle) (free : value ∈ switch.values) : value ∈ first.rootHandles :=
      near.held started value free
    rw [Multiset.cons_add] at counted counted'
    refine near.of_release (near.heap.release counted counted' same fun value free => ⟨?_, ?_⟩)
      ⟨exact.release.sound, exact'.release.sound⟩ (fun _ _ found => Heap.get?_releaseAll found)
        (fun _ _ found => Heap.get?_releaseAll found)
    · exact Multiset.mem_add.mpr (Or.inr (Multiset.mem_add.mpr (Or.inr (values value free))))
    · refine Multiset.mem_add.mpr (Or.inr (Multiset.mem_add.mpr (Or.inr ?_)))
      rw [rootHandles, near.roots]
      exact values value free

theorem Near.releaseAll (near : first.Near switch apart second) {handles handles' : List Handle}
    (exact : first.Exact ((handles : Multiset Handle) + held))
    (exact' : second.Exact ((handles' : Multiset Handle) + held'))
    (pairs : List.Forall₂ switch.likeness.Handles handles handles') :
    (first.releaseAll handles).Near switch apart (second.releaseAll handles') := by
  unfold Space.releaseAll
  induction pairs generalizing first second with
  | nil => exact near
  | @cons handle handle' rest rest' same _ ih =>
    rw [← Multiset.cons_coe, Multiset.cons_add] at exact exact'
    exact ih (near.release exact exact' same) exact.release exact'.release

end Release

end Space

inductive Outcomes (switch : Switch β) : Except Exception (α × Space β) → Except Exception (α × Space β) → Prop
  | error (exception : Exception) : Outcomes switch (.error exception) (.error exception)
  | ok (value : α) {first second : Space β} (like : first.Like switch second) :
      Outcomes switch (.ok (value, first)) (.ok (value, second))

section Outcomes

open Op

variable {switch : Switch β} {first second : Space β}

theorem Outcomes.bind {operation : Op β α} {next : α → Op β γ}
    (outcome : Outcomes switch (operation.run first) (operation.run second))
    (rest : ∀ value after after', operation.run first = .ok (value, after) →
      operation.run second = .ok (value, after') →
      after.Like switch after' → Outcomes switch ((next value).run after) ((next value).run after')) :
    Outcomes switch ((operation >>= next).run first) ((operation >>= next).run second) := by
  rw [StateT.run_bind, StateT.run_bind]
  rcases ran : operation.run first with exception | ⟨value, after⟩ <;>
    rcases ran' : operation.run second with exception' | ⟨value', after'⟩ <;> rw [ran, ran'] at outcome <;>
      cases outcome
  · exact .error exception
  · exact rest value after after' ran ran' ‹_›

theorem Outcomes.read_bind {reader : Space β → Except Exception α} {next : α → Op β γ}
    (same : reader second = reader first)
    (rest : ∀ value, reader first = .ok value → Outcomes switch ((next value).run first) ((next value).run second)) :
    Outcomes switch ((Space.read reader >>= next).run first) ((Space.read reader >>= next).run second) := by
  rw [StateT.run_bind, StateT.run_bind, run_read, run_read, same]
  cases found : reader first with
  | error exception => exact .error exception
  | ok value => exact rest value found

theorem Outcomes.object_bind (like : first.Like switch second) {handle : Handle} {next : Object β → Op β γ}
    (rest : ∀ object object', switch.Objects handle object object' → first.object handle = .ok object →
      second.object handle = .ok object' → Outcomes switch ((next object).run first) ((next object').run second)) :
    Outcomes switch ((Space.read (·.object handle) >>= next).run first)
      ((Space.read (·.object handle) >>= next).run second) := by
  rw [StateT.run_bind, StateT.run_bind, run_read, run_read]
  cases found : first.object handle with
  | error exception =>
    rcases like.object_cases handle with same | ⟨_, _, _, _, _, _, here, _⟩
    · rw [same, found]
      exact .error exception
    · rw [found] at here
      cases here
  | ok object =>
    obtain ⟨object', found', related⟩ := like.exists_object found
    rw [found']
    exact rest object object' related found found'

end Outcomes

namespace Op

def Follows (switch : Switch β) (operation : Op β α) : Prop :=
  ∀ first second, first.Like switch second → Outcomes switch (operation.run first) (operation.run second)

def Agrees (switch : Switch β) (operation : Op β α) : Prop :=
  ∀ first second held, first.Exact held → second.Exact held → first.Like switch second →
    Outcomes switch (operation.run first) (operation.run second)

variable {switch : Switch β}

theorem Follows.agrees {operation : Op β α} (follows : Follows switch operation) : Agrees switch operation :=
  fun first second _ _ _ like => follows first second like

theorem Follows.pure (value : α) : Follows switch (pure value : Op β α) :=
  fun _ _ like => .ok value like

theorem Follows.throw (exception : Exception) : Follows switch (throw exception : Op β α) :=
  fun _ _ _ => .error exception

theorem Follows.modify {change : Space β → Space β}
    (changed : ∀ first second : Space β, first.Like switch second → (change first).Like switch (change second)) :
    Follows switch (modify change : Op β PUnit) :=
  fun first second like => .ok PUnit.unit (changed first second like)

theorem Follows.read {reader : Space β → Except Exception α}
    (same : ∀ first second : Space β, first.Like switch second → reader second = reader first) :
    Follows switch (Space.read reader) := by
  intro first second like
  rw [run_read, run_read, same first second like]
  cases reader first with
  | error exception => exact .error exception
  | ok value => exact .ok value like

theorem Follows.bind {operation : Op β α} {next : α → Op β γ} (follows : Follows switch operation)
    (rest : ∀ value, Follows switch (next value)) : Follows switch (operation >>= next) :=
  fun first second like => (follows first second like).bind fun value _ _ _ _ like => rest value _ _ like

theorem Follows.object_bind (handle : Handle) {next : Object β → Op β γ} (rest : ∀ object, Follows switch (next object))
    (alike : ∀ contents contents', next (.moduleObject contents) = next (.moduleObject contents')) :
    Follows switch (Space.read (·.object handle) >>= next) := by
  intro first second like
  refine .object_bind like fun object object' related _ _ => ?_
  cases related with
  | same => exact rest object first second like
  | switched name globals listed listed' =>
    rw [alike _ { name, globals }]
    rw [alike { name, globals := globals.insert switch.name _ } { name, globals }]
    exact rest _ first second like

theorem Follows.get_bind {next : Space β → Op β α}
    (rest : ∀ first second : Space β, first.Like switch second →
      Outcomes switch ((next first).run first) ((next second).run second)) :
    Follows switch (get >>= next) :=
  rest

theorem Follows.map {operation : Op β α} (follows : Follows switch operation) (change : α → γ) :
    Follows switch (change <$> operation) := by
  rw [map_eq_pure_bind]
  exact follows.bind fun value => .pure _

theorem Follows.forM {check : α → Op β PUnit} (each : ∀ item, Follows switch (check item)) (items : List α) :
    Follows switch (forM items check) := by
  induction items with
  | nil => exact .pure _
  | cons item rest ih =>
    rw [List.forM_cons]
    exact (each item).bind fun _ => ih

end Op

namespace Space

open Op

variable {switch : Switch β}

theorem follows_check (handle : Handle) : Follows switch (discard (read (·.object handle)) : Op β PUnit) := by
  rw [Functor.discard, LawfulFunctor.map_const, Function.comp_apply, map_eq_pure_bind]
  exact .object_bind handle (fun _ => .pure _) fun _ _ => rfl

theorem modules_releaseAll (space : Space β) (handles : List Handle) :
    (space.releaseAll handles).modules = space.modules := by
  unfold releaseAll
  induction handles generalizing space with
  | nil => rfl
  | cons handle rest ih => exact ih (space.release handle)

/-- The space still holds on to the same and lists the same modules, and what was there is there unchanged. -/
structure Keeps (before after : Space β) : Prop where
  roots : after.roots = before.roots
  modules : after.modules = before.modules
  objects : ∀ handle object, before.heap.get? handle = some object → after.heap.get? handle = some object

theorem Keeps.trans {first second third : Space β} (one : first.Keeps second) (two : second.Keeps third) :
    first.Keeps third where
  roots := two.roots.trans one.roots
  modules := two.modules.trans one.modules
  objects handle object found := two.objects handle object (one.objects handle object found)

theorem keeps_retain (space : Space β) (handle : Handle) : space.Keeps (space.retain handle) where
  roots := rfl
  modules := rfl
  objects other object found := by rwa [Space.retain, Heap.get?_acquire]

theorem keeps_retainAll (space : Space β) (handles : List Handle) : space.Keeps (space.retainAll handles) := by
  unfold Space.retainAll
  induction handles generalizing space with
  | nil => exact ⟨rfl, rfl, fun _ _ => id⟩
  | cons handle rest ih => exact (keeps_retain space handle).trans (ih (space.retain handle))

theorem keeps_allocate {space : Space β} (sound : space.heap.Sound) (object : Object β) :
    space.Keeps { space with heap := (space.heap.allocate object).2 } where
  roots := rfl
  modules := rfl
  objects _ _ found := Heap.get?_allocate_of_get? sound object found

theorem Fixes.of_keeps {before after : Space β} (fixes : before.Fixes switch) (keeps : before.Keeps after) :
    after.Fixes switch := by
  intro fixture listed started
  obtain ⟨listed, ⟨contents, module, bound⟩, function⟩ := fixes fixture listed (keeps.roots ▸ started)
  exact ⟨keeps.modules ▸ listed, ⟨contents, keeps.objects _ _ module, bound⟩, keeps.objects _ _ function⟩

theorem Fixes.of_release {before after : Space β} {held : Multiset Handle} (fixes : before.Fixes switch)
    (exact : after.Exact held) (roots : after.roots = before.roots) (modules : after.modules = before.modules)
    (remains : ∀ handle object, after.heap.get? handle = some object → before.heap.get? handle = some object) :
    after.Fixes switch := by
  intro fixture fixed started
  have counted := exact.started started
  obtain ⟨listed, ⟨contents, module, bound⟩, function⟩ := fixes fixture fixed (roots ▸ started)
  have there {handle : Handle} {object : Object β} (found : before.heap.get? handle = some object)
      (referred : ∃ cell, after.heap.cell? handle = some cell) : after.heap.get? handle = some object := by
    obtain ⟨cell, here⟩ := referred
    have shown := Heap.get?_of_cell here
    rw [shown, ← found]
    exact (remains handle cell.object shown).symm
  have owned : switch.module ∈ after.own := by
    rw [own, modules]
    exact Multiset.mem_add.mpr (Or.inl (Multiset.mem_coe.mpr (Bindings.mem_values.mpr ⟨_, (listed _).mpr rfl⟩)))
  have module := there module (counted.exists_cell_of_held (Multiset.mem_add.mpr (Or.inr owned)))
  refine ⟨modules ▸ listed, ⟨contents, module, bound⟩, there function ?_⟩
  exact counted.exists_cell_of_child module (Bindings.mem_values.mpr ⟨_, bound⟩)

theorem Like.of_near {first second after after' : Space β} (like : first.Like switch second)
    (near : after.Near switch first.modules.values after') (keeps : first.Keeps after)
    (modules' : after'.modules = second.modules) : after.Like switch after' where
  toNear := keeps.modules ▸ near
  modules := modules'.trans (like.modules.trans keeps.modules.symm)
  fixes := like.fixes.of_keeps keeps

theorem Like.releaseAll {first second : Space β} (like : first.Like switch second) {handles handles' : List Handle}
    {held held' : Multiset Handle} (exact : first.Exact ((handles : Multiset Handle) + held))
    (exact' : second.Exact ((handles' : Multiset Handle) + held'))
    (pairs : List.Forall₂ switch.likeness.Handles handles handles') :
    (first.releaseAll handles).Like switch (second.releaseAll handles') where
  toNear := (modules_releaseAll first handles).symm ▸ like.toNear.releaseAll exact exact' pairs
  modules := by rw [modules_releaseAll, modules_releaseAll, like.modules]
  fixes := like.fixes.of_release exact.releaseAll (roots_releaseAll first handles) (modules_releaseAll first handles)
    fun _ _ => get?_of_releaseAll

theorem Like.release {first second : Space β} (like : first.Like switch second) {handle : Handle}
    {held held' : Multiset Handle} (exact : first.Exact (handle ::ₘ held)) (exact' : second.Exact (handle ::ₘ held')) :
    (first.release handle).Like switch (second.release handle) := by
  have alike : (first.releaseAll [handle]).Like switch (second.releaseAll [handle]) :=
    like.releaseAll (by simpa using exact) (by simpa using exact') (switch.likeness.handles_refl _)
  exact alike

theorem follows_retain (handle : Handle) : Follows switch (modify (·.retain handle) : Op β PUnit) :=
  .modify fun first _ like => like.of_near (like.toNear.retain handle) (keeps_retain first handle) rfl

theorem follows_retainAll (handles : List Handle) : Follows switch (modify (·.retainAll handles) : Op β PUnit) :=
  .modify fun _ _ like =>
    like.of_near (like.toNear.retainAll handles) (keeps_retainAll _ handles) (modules_retainAll _ handles)

theorem follows_acquire (handle : Handle) : Follows switch (acquire handle : Op β Handle) :=
  .object_bind handle (fun _ => (follows_retain handle).bind fun _ => .pure _) fun _ _ => rfl

theorem follows_allocate (object : Object β) : Follows switch (allocate object) := by
  refine (Follows.read fun _ _ like => like.rootsNow).bind fun roots => .get_bind fun first second like => ?_
  obtain ⟨same, allocated⟩ := like.toNear.allocate object
  change Outcomes switch (.ok ((first.heap.allocate object).1, { first with heap := (first.heap.allocate object).2 }))
    (.ok ((second.heap.allocate object).1, { second with heap := (second.heap.allocate object).2 }))
  rw [same]
  exact .ok _ (like.of_near allocated (keeps_allocate like.sound.1 object) rfl)

theorem follows_noneValue : Follows switch (noneValue : Op β Handle) :=
  (Follows.read fun _ _ like => like.rootsNow).bind fun _ => follows_acquire _

theorem follows_boolValue (value : Bool) : Follows switch (boolValue value : Op β Handle) :=
  (Follows.read fun _ _ like => like.rootsNow).bind fun _ => follows_acquire _

theorem follows_newTuple (items : List Handle) : Follows switch (newTuple items : Op β Handle) :=
  (Follows.forM follows_check items).bind fun _ =>
    (follows_retainAll items).bind fun _ => follows_allocate _

theorem follows_newFunction (name : String) (bound : Option Handle) (body : β) :
    Follows switch (newFunction name bound body) := by
  cases bound with
  | none => exact follows_allocate _
  | some state =>
    refine Follows.bind ?_ fun _ => follows_allocate _
    rw [Option.forM_eq_forM, Option.forM_some, Functor.discard, LawfulFunctor.map_const, Function.comp_apply]
    exact (follows_acquire state).map _

theorem follows_getattr (handle : Handle) {name : String} (other : name ≠ switch.name) :
    Follows switch (getattr handle name : Op β Handle) := by
  refine (Follows.read fun _ _ like => like.findAttribute handle other).bind fun place => ?_
  cases place with
  | plain value => exact follows_acquire value
  | method function =>
    have counted : Follows switch (modify fun space => (space.retain handle).retain function : Op β PUnit) :=
      .modify fun first _ like => like.of_near ((like.toNear.retain handle).retain function)
        ((keeps_retain first handle).trans (keeps_retain _ function)) rfl
    exact counted.bind fun _ => follows_allocate _

theorem follows_dictGet (dict : Handle) (key : String) : Follows switch (dictGet dict key : Op β (Option Handle)) := by
  refine (Follows.read fun _ _ like => like.entries dict).bind fun entries => ?_
  cases entries.get? key with
  | none => exact .pure none
  | some value => exact (follows_acquire value).map _

theorem follows_dictItems (dict : Handle) : Follows switch (dictItems dict : Op β (List (String × Handle))) :=
  (Follows.read fun _ _ like => like.entries dict).bind fun _ => (follows_retainAll _).bind fun _ => .pure _

theorem follows_newType (name : String) (bases : List Handle) (members : List (String × Handle)) :
    Follows switch (newType name bases members : Op β Handle) := by
  unfold newType
  extract_lets make checked proceed
  have made (bases : List Handle) : Follows switch (make bases) := by
    refine (Follows.forM (fun base => .read fun _ _ like => like.checkBase base) bases).bind fun _ => ?_
    refine (Follows.forM (fun member => follows_check _) members).bind fun _ => ?_
    have counted : Follows switch (modify fun space =>
        (space.retainAll bases).retainAll (members.map (·.2)) : Op β PUnit) := .modify fun _ _ like => by
      simp only [retainAll_append]
      exact like.of_near (like.toNear.retainAll _) (keeps_retainAll _ _) (modules_retainAll _ _)
    exact counted.bind fun _ => (follows_allocate _).bind fun _ => follows_allocate _
  have begun : Follows switch (checked ()) := by
    simp only [checked]
    split
    · exact (Follows.read fun _ _ like => like.rootsNow).bind fun _ => made _
    · exact made bases
  have proceeds : Follows switch (proceed ()) := by
    simp only [proceed]
    split
    · exact (Follows.throw _).bind fun _ => begun
    · exact begun
  split
  · exact (Follows.throw _).bind fun _ => proceeds
  · exact proceeds

theorem follows_importedModule (name : String) : Follows switch (importedModule name : Op β (Option Handle)) := by
  refine (Follows.read fun _ _ like => like.rootsNow).bind fun roots => .get_bind fun first second like => ?_
  rw [like.modules]
  cases first.modules.get? name with
  | none => exact .ok none like
  | some module => exact (follows_acquire module).map _ first second like

theorem run_forM_release (earlier : Option Handle) (space : Space β) :
    (earlier.forM fun handle => (modify (·.release handle) : Op β PUnit)).run space =
      .ok (⟨⟩, space.releaseAll earlier.toList) := by
  cases earlier <;> rfl

theorem Fixes.update {space : Space β} (fixes : space.Fixes switch) {target : Handle} {object : Object β}
    {change : Object β → Object β} (found : space.heap.get? target = some object)
    (module : ∀ fixture ∈ switch.fixture, space.roots.isSome → target = switch.module → ∀ contents,
      object = .moduleObject contents → ∃ globals, change object = .moduleObject { contents with globals } ∧
        globals.get? fixture.name = contents.globals.get? fixture.name)
    (function : ∀ callable, object ≠ .function callable) : (space.update target change).Fixes switch := by
  intro fixture listed started
  obtain ⟨fixed, ⟨contents, here, bound⟩, callable⟩ := fixes fixture listed started
  refine ⟨fixed, ?_, ?_⟩
  · by_cases same : switch.module = target
    · rw [same, found] at here
      obtain ⟨globals, changed, kept⟩ := module fixture listed started same.symm contents (Option.some.inj here)
      refine ⟨{ contents with globals }, ?_, kept.trans bound⟩
      rw [Space.update, Heap.get?_update, if_pos same, found, Option.map_some, changed]
    · exact ⟨contents, by rwa [Space.update, Heap.get?_update, if_neg same], bound⟩
  · rw [Space.update, Heap.get?_update, if_neg, callable]
    rintro rfl
    exact function _ (Option.some.inj (found.symm.trans callable))

theorem Fixes.bind {space : Space β} (fixes : space.Fixes switch) {target : Handle} {object : Object β}
    {attributes : Bindings Handle} (found : space.heap.get? target = some object)
    (place : settable object = some attributes) {name : String}
    (free : ∀ fixture ∈ switch.fixture, fixture.name ≠ name) (value : Handle) :
    (space.update target (withSettable (attributes.insert name value))).Fixes switch := by
  refine fixes.update found ?_ ?_
  · rintro fixture fixed - - contents rfl
    obtain rfl : contents.globals = attributes := Option.some.inj place
    exact ⟨_, rfl, by rw [Bindings.get?_insert, if_neg (free fixture fixed)]⟩
  · rintro callable rfl
    cases place

theorem Like.bind {first second : Space β} (like : first.Like switch second) {held : Multiset Handle}
    (exact : first.Exact held) (exact' : second.Exact held) {target value : Handle} {object object' : Object β}
    {attributes attributes' : Bindings Handle} (related : switch.Objects target object object')
    (found : first.object target = .ok object) (found' : second.object target = .ok object')
    (place : settable object = some attributes) (place' : settable object' = some attributes') {name : String}
    (free : ∀ fixture ∈ switch.fixture, fixture.name ≠ name)
    (live : ∃ bound, first.object value = .ok bound) (live' : ∃ bound, second.object value = .ok bound) :
    (((first.retain value).update target (withSettable (attributes.insert name value))).releaseAll
        (attributes.get? name).toList).Like switch
      (((second.retain value).update target (withSettable (attributes'.insert name value))).releaseAll
        (attributes'.get? name).toList) := by
  obtain ⟨-, here⟩ := object_eq_ok.mp found
  obtain ⟨-, here'⟩ := object_eq_ok.mp found'
  obtain ⟨changed, earlier⟩ := related.bind place place' name value
  have retained (space : Space β) : (space.retain value).heap.get? target = space.heap.get? target := by
    rw [retain, Heap.get?_acquire]
  have altered : ((first.retain value).update target (withSettable (attributes.insert name value))).Near switch
      first.modules.values ((second.retain value).update target (withSettable (attributes'.insert name value))) := by
    refine (like.toNear.retain value).update (fun other other' _ shown shown' => ?_) fun other shown shown' => ?_
    · obtain rfl : object = other := Option.some.inj (here.symm.trans ((retained _).symm.trans shown))
      obtain rfl : object' = other' := Option.some.inj (here'.symm.trans ((retained _).symm.trans shown'))
      exact changed
    · obtain rfl : object = other := Option.some.inj (here.symm.trans ((retained _).symm.trans shown))
      obtain rfl : object' = object := Option.some.inj (here'.symm.trans ((retained _).symm.trans shown'))
      rw [Option.some.inj (place.symm.trans place')]
  have bound := Path.exact (path_setattr (by rwa [zero_add]) name live found place) (by rwa [zero_add])
  have bound' := Path.exact (path_setattr (by rwa [zero_add]) name live' found' place') (by rwa [zero_add])
  have fixes := (like.fixes.of_keeps (keeps_retain first value)).bind ((retained first).trans here) place free value
  have like : Like switch _ _ := { altered with modules := like.modules, fixes }
  exact like.releaseAll bound bound' earlier

theorem agrees_setattr (target : Handle) {name : String} (free : ∀ fixture ∈ switch.fixture, fixture.name ≠ name)
    (value : Handle) : Agrees switch (setattr target name value : Op β Unit) := by
  intro first second held exact exact' like
  refine .object_bind like fun bound bound' _ live live' => ?_
  refine .read_bind (like.typeNameOf target) fun typeName _ => ?_
  refine .object_bind like fun object object' related found found' => ?_
  have settled := related.settable
  cases place : settable object with
  | none =>
    rw [place, Option.isSome_none, Option.isSome_eq_false_iff, Option.isNone_iff_eq_none] at settled
    rw [settled]
    exact .error _
  | some attributes =>
    rw [place] at settled
    obtain ⟨attributes', place'⟩ := Option.isSome_iff_exists.mp settled
    simp only [place']
    simp only [StateT.run_bind, StateT.run_modify, run_forM_release]
    exact .ok _ (like.bind exact exact' related found found' place place' free ⟨_, live⟩ ⟨_, live'⟩)

theorem Like.putEntries {first second : Space β} (like : first.Like switch second) {dict : Handle}
    {entries : Bindings Handle} (found : first.object dict = .ok (.dict entries)) (entries' : Bindings Handle) :
    (first.update dict fun _ => .dict entries').Like switch (second.update dict fun _ => .dict entries') where
  toNear := like.toNear.update (fun _ _ _ _ _ => .same _ _) fun _ _ _ => rfl
  modules := like.modules
  fixes := like.fixes.update (object_eq_ok.mp found).2 nofun nofun

theorem agrees_dictSet (dict : Handle) (key : String) (value : Handle) :
    Agrees switch (dictSet dict key value : Op β Unit) := by
  intro first second held exact exact' like
  refine .object_bind like fun bound bound' _ live live' => ?_
  refine .read_bind (like.entries dict) fun entries found => ?_
  have here := entries_eq_ok.mp found
  have here' := entries_eq_ok.mp ((like.entries dict).trans found)
  simp only [StateT.run_bind, StateT.run_modify, run_forM_release]
  have bound := Path.exact (path_dictSet (by rwa [zero_add]) key ⟨_, live⟩ here) (by rwa [zero_add])
  have bound' := Path.exact (path_dictSet (by rwa [zero_add]) key ⟨_, live'⟩ here') (by rwa [zero_add])
  have retained : (first.retain value).Like switch (second.retain value) :=
    like.of_near (like.toNear.retain value) (keeps_retain first value) rfl
  have there : (first.retain value).object dict = .ok (.dict entries) := by
    obtain ⟨started, found⟩ := object_eq_ok.mp here
    exact object_eq_ok.mpr ⟨started, (keeps_retain first value).objects _ _ found⟩
  exact .ok _ ((retained.putEntries there _).releaseAll bound bound' (switch.likeness.handles_refl _))

theorem exact_erase {space : Space β} {held : Multiset Handle} (exact : space.Exact held) {dict : Handle}
    {entries : Bindings Handle} (found : space.object dict = .ok (.dict entries)) {key : String} {earlier : Handle}
    (bound : entries.get? key = some earlier) :
    (space.update dict fun _ => .dict (entries.erase key)).Exact (earlier ::ₘ held) := by
  obtain ⟨started, here⟩ := object_eq_ok.mp found
  have path : Path .lasting (space, 0) (space.update dict fun _ => .dict (entries.erase key), earlier ::ₘ 0) := by
    refine path_update (.dict entries) started here (.dict _ _) ?_
    rw [Object.children, Object.children, Bindings.values_erase bound, Multiset.add_cons, add_zero, add_zero]
  simpa using Path.exact path (by rwa [zero_add])

theorem agrees_dictRemove (dict : Handle) (key : String) : Agrees switch (dictRemove dict key : Op β Bool) := by
  intro first second held exact exact' like
  refine .read_bind (like.entries dict) fun entries found => ?_
  have here := entries_eq_ok.mp found
  have here' := entries_eq_ok.mp ((like.entries dict).trans found)
  cases bound : entries.get? key with
  | none => exact .ok false like
  | some earlier =>
    have erased := exact_erase exact here bound
    exact .ok true ((like.putEntries here _).release erased (exact_erase exact' here' bound))

end Space

end ObjectBridge.Guest

import ObjectBridge.Proofs.Space.Operations

/-!
Balance of the operations that bind and remove names: attributes and entries of dicts. The reference to
a new value is counted before the object is changed, and the one to an earlier value is given back
after that.
-/

namespace ObjectBridge.Guest

variable {β : Type}

namespace Heap

variable {α : Type}

theorem update_eq_update_const {heap : Heap α} {handle : Handle} {object : α}
    (found : heap.get? handle = some object) (change : α → α) :
    heap.update handle change = heap.update handle fun _ => change object := by
  obtain ⟨cell, here, rfl⟩ := Option.map_eq_some_iff.mp found
  simp [update, here]

end Heap

namespace Space

open Op

theorem path_update {space : Space β} {held held' : Multiset Handle} {handle : Handle}
    (object : Object β) {change : Object β → Object β} (started : space.roots.isSome)
    (found : space.heap.get? handle = some object) (allowed : Object.Changes object (change object))
    (balance : ((change object).children : Multiset Handle) + held' =
      (object.children : Multiset Handle) + held) :
    Path .lasting (space, held) (space.update handle change, held') := by
  rw [update, Heap.update_eq_update_const found]
  exact .single (.heap started (.change found allowed balance))

theorem run_forM_release_eq_ok {space after : Space β} {earlier : Option Handle} {result : PUnit} :
    (earlier.forM fun handle => (modify (·.release handle) : Op β PUnit)).run space =
        .ok (result, after) ↔
      after = space.releaseAll earlier.toList := by
  cases earlier with
  | none =>
    rw [Option.forM_eq_forM, Option.forM_none, run_pure_eq_ok]
    simp [releaseAll, eq_comm]
  | some handle =>
    rw [Option.forM_eq_forM, Option.forM_some, run_modify_eq_ok]
    simp [releaseAll]

section Attributes

variable {object : Object β} {attributes : Bindings Handle}

theorem changes_withSettable (place : settable object = some attributes)
    (attributes' : Bindings Handle) : Object.Changes object (withSettable attributes' object) := by
  cases object with
  | object contents => exact .object contents attributes'
  | moduleObject contents => exact .moduleObject contents attributes'
  | typeObject contents =>
    by_cases builtin : contents.builtin = true
    · simp [settable, builtin] at place
    · exact .typeObject contents attributes' (by simpa using builtin)
  | _ => simp [settable] at place

theorem children_withSettable (place : settable object = some attributes)
    (attributes' : Bindings Handle) :
    ((withSettable attributes' object).children : Multiset Handle) + (attributes.values : Multiset Handle) =
      (object.children : Multiset Handle) + (attributes'.values : Multiset Handle) := by
  cases object with
  | object contents =>
    obtain rfl : contents.attributes = attributes := by simpa [settable] using place
    simp only [withSettable, Object.children, ← Multiset.cons_coe, Multiset.cons_add]
    rw [add_comm]
  | moduleObject contents =>
    obtain rfl : contents.globals = attributes := by simpa [settable] using place
    exact add_comm _ _
  | typeObject contents =>
    by_cases builtin : contents.builtin = true
    · simp [settable, builtin] at place
    · obtain rfl : contents.members = attributes := by simpa [settable, builtin] using place
      simp only [withSettable, Object.children, ← Multiset.coe_add]
      exact add_right_comm _ _ _
  | _ => simp [settable] at place

end Attributes

theorem findAttribute_live {space : Space β} {handle : Handle} {name : String} {place : Attribute}
    (found : space.findAttribute handle name = .ok place) :
    ∃ object, space.object handle = .ok object := by
  unfold findAttribute ownAttribute at found
  cases here : space.object handle with
  | ok object => exact ⟨object, rfl⟩
  | error exception => simp [here, bind, Except.bind] at found

theorem function_of_findAttribute {space : Space β} {handle : Handle} {name : String} {function : Handle}
    (found : space.findAttribute handle name = .ok (.method function)) :
    ∃ callable, space.object function = .ok (.function callable) := by
  unfold findAttribute at found
  cases own : space.ownAttribute handle name with
  | error exception => simp [own, bind, Except.bind] at found
  | ok own? =>
    cases own? with
    | some value => simp [own, bind, Except.bind, pure, Except.pure] at found
    | none =>
      cases typed : space.typeOf handle with
      | error exception => simp [own, typed, bind, Except.bind] at found
      | ok type =>
        cases inherited : space.lookup type name with
        | none =>
          cases named : space.typeName type <;>
            simp [own, typed, inherited, named, bind, Except.bind, throw, throwThe,
              MonadExceptOf.throw] at found
        | some value =>
          cases here : space.object value with
          | error exception => simp [own, typed, inherited, here, bind, Except.bind] at found
          | ok object =>
            cases object with
            | function callable =>
              obtain rfl : value = function := by
                simpa [own, typed, inherited, here, bind, Except.bind, pure, Except.pure] using found
              exact ⟨callable, here⟩
            | _ =>
              simp [own, typed, inherited, here, bind, Except.bind, pure, Except.pure] at found

section Getattr

variable {space : Space β} {handle value : Handle} {name : String}

theorem run_getattr_plain (found : space.findAttribute handle name = .ok (.plain value)) :
    (getattr handle name).run space = (acquire value).run space := by
  have looked : (read (·.findAttribute handle name)).run space = .ok (.plain value, space) :=
    Op.run_read_eq_ok.mpr ⟨found, rfl⟩
  rw [getattr, StateT.run_bind, looked]
  rfl

theorem run_getattr_method {function : Handle} (found : space.findAttribute handle name = .ok (.method function)) :
    (getattr handle name).run space =
      (allocate (.boundMethod handle function)).run ((space.retain handle).retain function) := by
  have looked : (read (·.findAttribute handle name)).run space = .ok (.method function, space) :=
    Op.run_read_eq_ok.mpr ⟨found, rfl⟩
  rw [getattr, StateT.run_bind, looked]
  rfl

theorem run_getattr_error {exception : Exception} (failed : space.findAttribute handle name = .error exception) :
    (getattr handle name).run space = .error exception := by
  have looked : (read (·.findAttribute handle name)).run space = .error exception := by
    rw [Op.run_read, failed]
    rfl
  rw [getattr, StateT.run_bind, looked]
  rfl

end Getattr

theorem balanced_getattr (extent : Extent) (handle : Handle) (name : String) :
    Op.Balanced (β := β) extent 0 (getattr handle name) ({·}) := by
  intro space frame exact result after ran
  obtain ⟨place, _, lookedUp, ran⟩ := run_bind_eq_ok.mp ran
  obtain ⟨found, rfl⟩ := run_read_eq_ok.mp lookedUp
  cases place with
  | plain value => exact balanced_acquire extent value space frame exact result after ran
  | method function =>
    obtain ⟨_, between, modified, ran⟩ := run_bind_eq_ok.mp ran
    obtain rfl := run_modify_eq_ok.mp modified
    have live : ∀ other ∈ [handle, function], ∃ cell, space.heap.cell? other = some cell := by
      intro other member
      rcases List.mem_pair.mp member with rfl | rfl
      · exact exists_cell_of_object (findAttribute_live found).choose_spec
      · exact exists_cell_of_object (function_of_findAttribute found).choose_spec
    have counted := path_retainAll extent exact fun _ => live
    rw [add_zero] at counted
    obtain ⟨path, answered⟩ := balanced_allocate extent (.boundMethod handle function) _ frame
      (Path.exact counted exact) _ _ ran
    exact ⟨counted.trans path, answered⟩

theorem setattr_eq_ok {space after : Space β} {target value : Handle} {name : String} {result : Unit} :
    (setattr target name value).run space = .ok (result, after) ↔
      (∃ bound, space.object value = .ok bound) ∧ (∃ typeName, space.typeNameOf target = .ok typeName) ∧
        ∃ object attributes, space.object target = .ok object ∧ settable object = some attributes ∧
          after = ((space.retain value).update target (withSettable (attributes.insert name value))).releaseAll
            (attributes.get? name).toList := by
  simp only [setattr, run_bind_eq_ok, run_read_eq_ok]
  constructor
  · rintro ⟨bound, _, ⟨live, rfl⟩, typeName, _, ⟨named, rfl⟩, object, _, ⟨found, rfl⟩, ran⟩
    cases place : settable object with
    | none =>
      simp only [place] at ran
      exact (run_throw_ne_ok.mp ran).elim
    | some attributes =>
      simp only [place, run_bind_eq_ok, run_modify_eq_ok, run_forM_release_eq_ok] at ran
      obtain ⟨_, _, rfl, _, _, rfl, rfl⟩ := ran
      exact ⟨⟨bound, live⟩, ⟨typeName, named⟩, object, attributes, found, place, rfl⟩
  · rintro ⟨⟨bound, live⟩, ⟨typeName, named⟩, object, attributes, found, place, rfl⟩
    refine ⟨bound, space, ⟨live, rfl⟩, typeName, space, ⟨named, rfl⟩, object, space, ⟨found, rfl⟩, ?_⟩
    simp only [place, run_bind_eq_ok, run_modify_eq_ok, run_forM_release_eq_ok]
    exact ⟨⟨⟩, _, rfl, ⟨⟩, _, rfl, rfl⟩

theorem path_bind {space : Space β} {frame : Multiset Handle} (exact : space.Exact (0 + frame))
    {target value : Handle} {name : String} {object : Object β} {change : Object β → Object β}
    {bindings : Bindings Handle} (live : ∃ bound, space.object value = .ok bound)
    (found : space.object target = .ok object) (allowed : Object.Changes object (change object))
    (children : ((change object).children : Multiset Handle) + (bindings.values : Multiset Handle) =
      (object.children : Multiset Handle) + ((bindings.insert name value).values : Multiset Handle)) :
    Path .lasting (space, 0)
      ((space.retain value).update target change, ((bindings.get? name).toList : Multiset Handle)) := by
  obtain ⟨bound, valueFound⟩ := live
  obtain ⟨started, here⟩ := object_eq_ok.mp found
  have counted := path_retain .lasting exact fun _ => exists_cell_of_object valueFound
  have changed : Path .lasting (space.retain value, value ::ₘ 0)
      ((space.retain value).update target change, ((bindings.get? name).toList : Multiset Handle)) := by
    refine path_update object started (by simpa [retain, Heap.get?_acquire] using here) allowed ?_
    refine (add_left_inj (bindings.values : Multiset Handle)).mp ?_
    rw [add_right_comm, children, add_assoc, bindings.values_insert name value, Multiset.add_cons,
      Multiset.add_cons, Multiset.cons_add, add_zero]
  exact counted.trans changed

theorem path_setattr {space : Space β} {frame : Multiset Handle} (exact : space.Exact (0 + frame))
    {target value : Handle} {object : Object β} {attributes : Bindings Handle} (name : String)
    (live : ∃ bound, space.object value = .ok bound) (found : space.object target = .ok object)
    (place : settable object = some attributes) :
    Path .lasting (space, 0) ((space.retain value).update target (withSettable (attributes.insert name value)),
      ((attributes.get? name).toList : Multiset Handle)) :=
  path_bind exact live found (changes_withSettable place _) (children_withSettable place _)

theorem balanced_setattr (target : Handle) (name : String) (value : Handle) :
    Op.Balanced (β := β) .lasting 0 (setattr target name value) fun _ => 0 := by
  intro space frame exact result after ran
  obtain ⟨live, -, object, attributes, found, place, rfl⟩ := setattr_eq_ok.mp ran
  have path := path_setattr exact name live found place
  exact ⟨path.trans (path_releaseAll_zero .lasting (Path.exact path exact)), Or.inl rfl⟩

theorem entries_eq_ok {space : Space β} {dict : Handle} {entries : Bindings Handle} :
    space.entries dict = .ok entries ↔ space.object dict = .ok (.dict entries) := by
  unfold Space.entries
  cases found : space.object dict with
  | error exception => simp [bind, Except.bind]
  | ok object =>
    cases object <;>
      simp [bind, Except.bind, pure, Except.pure, throw, throwThe, MonadExceptOf.throw]

theorem balanced_dictGet (extent : Extent) (dict : Handle) (key : String) :
    Op.Balanced (β := β) extent 0 (dictGet dict key) fun found => (found.toList : Multiset Handle) := by
  intro space frame exact result after ran
  simp only [dictGet, run_bind_eq_ok, run_read_eq_ok] at ran
  obtain ⟨entries, _, ⟨-, rfl⟩, ran⟩ := ran
  cases bound : entries.get? key with
  | none =>
    simp only [bound, run_pure_eq_ok] at ran
    obtain ⟨rfl, rfl⟩ := ran
    exact ⟨.refl, Or.inl rfl⟩
  | some value =>
    simp only [bound, run_map_eq_ok] at ran
    obtain ⟨handle, ran, rfl⟩ := ran
    exact balanced_acquire extent value space frame exact handle after ran

theorem dictSet_eq_ok {space after : Space β} {dict value : Handle} {key : String} {result : Unit} :
    (dictSet dict key value).run space = .ok (result, after) ↔
      (∃ bound, space.object value = .ok bound) ∧ ∃ entries, space.object dict = .ok (.dict entries) ∧
        after = ((space.retain value).update dict fun _ => .dict (entries.insert key value)).releaseAll
          (entries.get? key).toList := by
  simp only [dictSet, run_bind_eq_ok, run_read_eq_ok, run_modify_eq_ok, run_forM_release_eq_ok, entries_eq_ok]
  constructor
  · rintro ⟨bound, _, ⟨live, rfl⟩, entries, _, ⟨found, rfl⟩, _, _, rfl, _, _, rfl, rfl⟩
    exact ⟨⟨bound, live⟩, entries, found, rfl⟩
  · rintro ⟨⟨bound, live⟩, entries, found, rfl⟩
    exact ⟨bound, space, ⟨live, rfl⟩, entries, space, ⟨found, rfl⟩, ⟨⟩, _, rfl, ⟨⟩, _, rfl, rfl⟩

theorem path_dictSet {space : Space β} {frame : Multiset Handle} (exact : space.Exact (0 + frame))
    {dict value : Handle} {entries : Bindings Handle} (key : String) (live : ∃ bound, space.object value = .ok bound)
    (found : space.object dict = .ok (.dict entries)) :
    Path .lasting (space, 0) ((space.retain value).update dict fun _ => .dict (entries.insert key value),
      ((entries.get? key).toList : Multiset Handle)) :=
  path_bind exact live found (.dict _ _) (add_comm _ _)

theorem balanced_dictSet (dict : Handle) (key : String) (value : Handle) :
    Op.Balanced (β := β) .lasting 0 (dictSet dict key value) fun _ => 0 := by
  intro space frame exact result after ran
  obtain ⟨live, entries, found, rfl⟩ := dictSet_eq_ok.mp ran
  have path := path_dictSet exact key live found
  exact ⟨path.trans (path_releaseAll_zero .lasting (Path.exact path exact)), Or.inl rfl⟩

theorem balanced_dictRemove (dict : Handle) (key : String) :
    Op.Balanced (β := β) .lasting 0 (dictRemove dict key) fun _ => 0 := by
  intro space frame exact result after ran
  simp only [dictRemove, run_bind_eq_ok, run_read_eq_ok] at ran
  obtain ⟨entries, _, ⟨found, rfl⟩, ran⟩ := ran
  obtain ⟨started, here⟩ := object_eq_ok.mp (entries_eq_ok.mp found)
  cases bound : entries.get? key with
  | none =>
    simp only [bound, run_pure_eq_ok] at ran
    obtain ⟨-, rfl⟩ := ran
    exact ⟨.refl, Or.inl rfl⟩
  | some earlier =>
    simp only [bound, run_bind_eq_ok, run_modify_eq_ok, run_pure_eq_ok] at ran
    obtain ⟨_, _, rfl, _, _, rfl, -, rfl⟩ := ran
    have changed : Path .lasting (space, 0)
        (space.update dict fun _ => .dict (entries.erase key), earlier ::ₘ 0) := by
      refine path_update (.dict entries) started here (.dict _ _) ?_
      rw [Object.children, Object.children, Bindings.values_erase bound, Multiset.add_cons, add_zero,
        add_zero]
    exact ⟨changed.trans (path_release .lasting (Path.exact changed exact)), Or.inl rfl⟩

theorem balanced_dictItems (extent : Extent) (dict : Handle) :
    Op.Balanced (β := β) extent 0 (dictItems dict)
      fun items => ((items.map (·.2) : List Handle) : Multiset Handle) := by
  intro space frame exact result after ran
  simp only [dictItems, run_bind_eq_ok, run_read_eq_ok, run_modify_eq_ok, run_pure_eq_ok] at ran
  obtain ⟨entries, _, ⟨found, rfl⟩, _, _, rfl, rfl, rfl⟩ := ran
  obtain ⟨started, here⟩ := object_eq_ok.mp (entries_eq_ok.mp found)
  have counted := path_retainAll extent exact fun started handle (member : handle ∈ entries.values) =>
    (exact.started started).exists_cell_of_child here member
  refine ⟨?_, Or.inr (by rwa [roots_retainAll])⟩
  simpa [Bindings.values] using counted

end Space

end ObjectBridge.Guest

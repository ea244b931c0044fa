import ObjectBridge.Guest.Attributes
import ObjectBridge.Proofs.Heap.Restored
import ObjectBridge.Proofs.Space.Operations
import ObjectBridge.Proofs.Space.Start

/-!
Extensions of a space. Temporary steps leave a space with all the objects it had, and perhaps more. What
can be seen of an object that was there, its type and its attributes, is the same as before, since all that
is looked at on the way was there as well. That modules have other globals is seen of the modules only.
-/

namespace ObjectBridge.Guest.Space

variable {β : Type}

structure Extends (before after : Space β) : Prop where
  objects : ∀ handle object, before.heap.get? handle = some object → after.heap.get? handle = some object
  roots : after.roots = before.roots
  modules : after.modules = before.modules
  definitions : after.definitions = before.definitions

theorem Extends.refl (space : Space β) : Extends space space :=
  ⟨fun _ _ found => found, rfl, rfl, rfl⟩

theorem Extends.trans {first second third : Space β} (one : Extends first second) (two : Extends second third) :
    Extends first third :=
  ⟨fun handle object found => two.objects handle object (one.objects handle object found),
    two.roots.trans one.roots, two.modules.trans one.modules, two.definitions.trans one.definitions⟩

def Has (space : Space β) (handle : Handle) : Prop :=
  ∃ object, space.heap.get? handle = some object

structure Closed (space : Space β) : Prop where
  children : ∀ handle object, space.heap.get? handle = some object → ∀ child ∈ object.children, space.Has child
  types : ∀ roots, space.roots = some roots → ∀ kind, space.Has (roots.typeFor kind)

theorem Exact.has_root {space : Space β} {held : Multiset Handle} (exact : space.Exact held) {handle : Handle}
    (listed : handle ∈ space.rootHandles) : space.Has handle := by
  have started : space.roots.isSome := by
    cases roots : space.roots with
    | some _ => rfl
    | none => simp [rootHandles, roots] at listed
  obtain ⟨cell, here⟩ := (exact.started started).exists_cell_of_held
    (Multiset.mem_add.mpr (Or.inr (Multiset.mem_add.mpr (Or.inr (Multiset.mem_coe.mpr listed)))))
  exact ⟨cell.object, Heap.get?_of_cell here⟩

theorem Exact.closed {space : Space β} {held : Multiset Handle} (exact : space.Exact held) (typed : space.Typed) :
    space.Closed where
  children handle object found child member := by
    have kept := exact.started (started_of_get? exact found)
    obtain ⟨cell, here⟩ := kept.exists_cell_of_child found member
    exact ⟨cell.object, Heap.get?_of_cell here⟩
  types roots started kind := by
    obtain ⟨type, listed⟩ := typed roots started kind
    rw [Roots.typeFor, listed, Option.getD_some]
    refine exact.has_root ?_
    rw [rootHandles, started, Option.map_some, Option.getD_some]
    exact List.mem_append_right _ (Bindings.mem_values.mpr ⟨_, listed⟩)

theorem Exact.has_builtin {space : Space β} {held : Multiset Handle} (exact : space.Exact held) {name : String}
    {handle : Handle} (builtin : space.builtin? name = some handle) : space.Has handle := by
  obtain ⟨roots, started, named⟩ := Option.bind_eq_some_iff.mp builtin
  refine exact.has_root ?_
  rw [rootHandles, started, Option.map_some, Option.getD_some, Roots.handles]
  split at named
  · simp_all
  · simp_all
  · simp_all
  · exact List.mem_append_right _ (Bindings.mem_values.mpr ⟨_, named⟩)

section Temporary

variable {before after : Space β × Multiset Handle}

theorem Path.tables (path : Path .temporary before after) :
    after.1.roots = before.1.roots ∧ after.1.modules = before.1.modules ∧
      after.1.definitions = before.1.definitions := by
  induction path with
  | refl => exact ⟨rfl, rfl, rfl⟩
  | tail _ step ih => cases step <;> exact ih

theorem Path.heap (path : Path .temporary before after) (started : before.1.roots.isSome) :
    Heap.Path Object.children (fun _ _ _ => False) (before.1.heap, before.2) (after.1.heap, after.2) := by
  induction path with
  | refl => exact .refl
  | tail path step ih =>
    cases step with
    | heap _ step => exact ih.tail step
    | ended held' ended =>
      rw [← (Path.tables path).1, ended] at started
      simp at started

theorem Path.heap_of_ended (path : Path .temporary before after) (ended : before.1.roots = none) :
    after.1.heap = before.1.heap := by
  induction path with
  | refl => rfl
  | tail path step ih =>
    cases step with
    | heap started step =>
      rw [(Path.tables path).1, ended] at started
      simp at started
    | ended held' ended => exact ih

theorem Path.unchanged {held : Multiset Handle} (path : Path .temporary before after)
    (exact : before.1.Exact (before.2 + held)) {handle : Handle} {object : Object β}
    (anchored : Heap.Anchored (before.1.heap.Refers Object.children) (held + before.1.own) handle)
    (found : before.1.heap.get? handle = some object) : after.1.heap.get? handle = some object := by
  have started := started_of_get? exact found
  have kept := exact.started started
  rw [add_assoc] at kept
  exact Heap.Path.unchanged (Path.heap path started) (fun _ _ _ => not_false) kept anchored found

theorem Path.extends {space space' : Space β} {held held' : Multiset Handle}
    (path : Path .temporary (space, 0) (space', held')) (exact : space.Exact held) : space.Extends space' := by
  obtain ⟨roots, modules, definitions⟩ := Path.tables path
  refine ⟨fun handle object found => ?_, roots, modules, definitions⟩
  have kept := exact.started (started_of_get? exact found)
  exact Path.unchanged path (by rwa [zero_add]) (kept.anchored (by rw [found]; rfl)) found

theorem Path.cell?_of_old {space space' : Space β} {held owned : Multiset Handle}
    (path : Path .temporary (space, 0) (space', owned)) (exact : space.Exact held)
    (old : ∀ handle ∈ owned, space.Has handle) (handle : Handle) :
    space'.heap.cell? handle =
      (space.heap.cell? handle).map fun cell => { cell with count := cell.count + owned.count handle } := by
  rcases started : space.roots with _ | roots
  · rw [show space'.heap = space.heap from Path.heap_of_ended path started, (exact.ended started).1, Heap.cell?_empty]
    rfl
  · have started : space.roots.isSome := by rw [started]; rfl
    exact Heap.Path.cell?_of_old (Path.heap path started) (fun _ _ _ => not_false) (exact.started started)
      (fun handle member => Option.isSome_iff_exists.mpr (old handle member)) handle

theorem Path.restored {space space' : Space β} {held : Multiset Handle}
    (path : Path .temporary (space, 0) (space', 0)) (exact : space.Exact held) (handle : Handle) :
    space'.heap.cell? handle = space.heap.cell? handle := by
  rw [path.cell?_of_old exact (by simp)]
  cases space.heap.cell? handle <;> rfl

theorem Path.cell?_of_new {space space' : Space β} {held : Multiset Handle} {ref : Handle} {object : Object β}
    (path : Path .temporary (space, 0) (space', {ref})) (exact : space.Exact held) (new : space.heap.get? ref = none)
    (shown : space'.heap.get? ref = some object) (old : ∀ child ∈ object.children, space.Has child) :
    space'.heap.cell? ref = some { count := 1, object } ∧ ∀ other, other ≠ ref →
      space'.heap.cell? other = (space.heap.cell? other).map fun cell =>
        { cell with count := cell.count + object.children.count other } := by
  rcases started : space.roots with _ | roots
  · rw [Path.heap_of_ended path started, new] at shown
    cases shown
  · have started : space.roots.isSome := by rw [started]; rfl
    exact Heap.Path.cell?_of_new (Path.heap path started) (fun _ _ _ => not_false) (exact.started started) new shown
      fun child member => Option.isSome_iff_exists.mpr (old child member)

end Temporary

section Views

theorem findSome?_congr {α γ : Type} {items : List α} {pick pick' : α → Option γ}
    (same : ∀ item ∈ items, pick item = pick' item) : items.findSome? pick = items.findSome? pick' := by
  induction items with
  | nil => rfl
  | cons item rest ih =>
    rw [List.findSome?_cons, List.findSome?_cons, same item List.mem_cons_self,
      ih fun other member => same other (List.mem_cons_of_mem _ member)]

variable {base space : Space β}

theorem Has.get?_eq {handle : Handle} (has : base.Has handle) (grown : base.Extends space) :
    space.heap.get? handle = base.heap.get? handle := by
  obtain ⟨object, found⟩ := has
  rw [found, grown.objects handle object found]

theorem Has.object_eq {handle : Handle} (has : base.Has handle) (grown : base.Extends space) :
    space.object handle = base.object handle := by
  simp only [object, rootsNow, grown.roots, has.get?_eq grown]

theorem Has.bases_eq {type : Handle} (has : base.Has type) (grown : base.Extends space) :
    space.bases type = base.bases type := by
  simp only [bases, has.get?_eq grown]

theorem Has.members_eq {type : Handle} (has : base.Has type) (grown : base.Extends space) :
    space.members type = base.members type := by
  simp only [members, has.get?_eq grown]

structure SameTypes (base space : Space β) : Prop where
  bases : ∀ type, base.Has type → space.bases type = base.bases type
  members : ∀ type, base.Has type → space.members type = base.members type

theorem Extends.sameTypes (grown : base.Extends space) : base.SameTypes space :=
  ⟨fun _ has => has.bases_eq grown, fun _ has => has.members_eq grown⟩

/-- What is in the earlier space looks as it did, save that modules may have other globals. -/
structure SameObjects (base space : Space β) : Prop where
  roots : space.roots = base.roots
  types : base.SameTypes space
  objects : ∀ handle, base.Has handle → space.object handle = base.object handle ∨
    ∃ contents contents', base.object handle = .ok (.moduleObject contents) ∧
      space.object handle = .ok (.moduleObject contents')

theorem Extends.sameObjects (grown : base.Extends space) : base.SameObjects space :=
  ⟨grown.roots, grown.sameTypes, fun _ has => Or.inl (has.object_eq grown)⟩

theorem SameObjects.typeOf_eq (same : base.SameObjects space) {handle : Handle} (has : base.Has handle) :
    space.typeOf handle = base.typeOf handle := by
  unfold typeOf rootsNow
  rw [same.roots]
  rcases same.objects handle has with unchanged | ⟨_, _, earlier, later⟩
  · rw [unchanged]
  · rw [earlier, later]
    rfl

theorem SameObjects.typeName_eq (same : base.SameObjects space) {handle : Handle} (has : base.Has handle) :
    space.typeName handle = base.typeName handle := by
  unfold typeName
  rcases same.objects handle has with unchanged | ⟨_, _, earlier, later⟩
  · rw [unchanged]
  · rw [earlier, later]
    rfl

def inheritedAttribute (space : Space β) (type : Handle) (name : String) : Except Exception Attribute := do
  match space.lookup type name with
  | none => throw (.noAttribute (← space.typeName type) name)
  | some value =>
    match ← space.object value with
    | .function _ => return .method value
    | _ => return .plain value

theorem findAttribute_eq_bind (space : Space β) (handle : Handle) (name : String) :
    space.findAttribute handle name = (do
      match ← space.ownAttribute handle name with
      | some value => return .plain value
      | none => space.inheritedAttribute (← space.typeOf handle) name) :=
  rfl

variable (closed : base.Closed)
include closed

theorem Closed.has_bases {type other : Handle} (listed : other ∈ base.bases type) : base.Has other := by
  unfold bases at listed
  split at listed
  · rename_i contents found
    exact closed.children type _ found other (List.mem_append_left _ listed)
  · simp at listed

theorem Closed.has_member {type value : Handle} {name : String}
    (defined : (base.members type).get? name = some value) : base.Has value := by
  unfold members at defined
  split at defined
  · rename_i contents found
    exact closed.children type _ found value
      (List.mem_append_right _ (Bindings.mem_values.mpr ⟨name, defined⟩))
  · simp [Bindings.get?_empty] at defined

theorem Closed.has_typeOf {handle type : Handle} (typed : base.typeOf handle = .ok type) : base.Has type := by
  unfold typeOf at typed
  rcases started : base.rootsNow with _ | roots
  · simp [started, bind, Except.bind] at typed
  rcases shown : base.object handle with _ | object
  · simp [started, shown, bind, Except.bind] at typed
  · simp only [started, shown, bind, Except.bind] at typed
    have found := (object_eq_ok.mp shown).2
    cases object with
    | object contents =>
      obtain rfl : contents.type = type := Except.ok.inj typed
      exact closed.children handle _ found _ List.mem_cons_self
    | _ => exact Except.ok.inj typed ▸ closed.types roots (rootsNow_eq_ok.mp started) _

theorem Closed.exists_typeNameOf {handle : Handle} (has : base.Has handle) (started : base.roots.isSome) :
    ∃ name, base.typeNameOf handle = .ok name := by
  obtain ⟨object, found⟩ := has
  obtain ⟨roots, rooted⟩ := Option.isSome_iff_exists.mp started
  have shown : base.object handle = .ok object := object_eq_ok.mpr ⟨started, found⟩
  obtain ⟨type, typed⟩ : ∃ type, base.typeOf handle = .ok type := by
    cases object <;> exact ⟨_, by simp only [typeOf, rootsNow, rooted, shown, bind, Except.bind]; rfl⟩
  obtain ⟨other, there⟩ := closed.has_typeOf typed
  have shownType : base.object type = .ok other := object_eq_ok.mpr ⟨started, there⟩
  cases other <;> exact ⟨_, by simp only [typeNameOf, typeName, typed, shownType, bind, Except.bind]; rfl⟩

omit closed in
theorem forall_mem_linearizeFrom {property : Handle → Prop} {order pending : List Handle}
    (passed : ∀ type, property type → ∀ other ∈ base.bases type, property other)
    (ordered : ∀ type ∈ order, property type) (awaited : ∀ type ∈ pending, property type) :
    ∀ type ∈ base.linearizeFrom order pending, property type := by
  fun_induction linearizeFrom base order pending with
  | case1 order => exact ordered
  | case2 order type pending listed ih =>
    exact ih ordered fun other member => awaited other (List.mem_cons_of_mem _ member)
  | case3 order type pending fresh ih =>
    refine ih (fun other member => ?_) fun other member => ?_
    · rcases List.mem_append.mp member with earlier | last
      · exact ordered other earlier
      · exact List.mem_singleton.mp last ▸ awaited type List.mem_cons_self
    · rcases List.mem_append.mp member with first | later
      · exact passed type (awaited type List.mem_cons_self) other first
      · exact awaited other (List.mem_cons_of_mem _ later)

omit closed in
/-- Where the same bases are listed for types and for all that they derive from, these are gone through in the same
order. -/
theorem linearizeFrom_congr {property : Handle → Prop} {order pending : List Handle}
    (passed : ∀ type, property type → ∀ other ∈ base.bases type, property other)
    (same : ∀ type, property type → space.bases type = base.bases type) (awaited : ∀ type ∈ pending, property type) :
    space.linearizeFrom order pending = base.linearizeFrom order pending := by
  fun_induction linearizeFrom base order pending with
  | case1 order => rw [linearizeFrom]
  | case2 order type pending listed ih =>
    rw [linearizeFrom, if_pos listed]
    exact ih fun other member => awaited other (List.mem_cons_of_mem _ member)
  | case3 order type pending fresh ih =>
    have has := awaited type List.mem_cons_self
    rw [linearizeFrom, if_neg fresh, same type has]
    refine ih fun other member => ?_
    rcases List.mem_append.mp member with first | later
    · exact passed type has other first
    · exact awaited other (List.mem_cons_of_mem _ later)

theorem Closed.has_linearizeFrom {order pending : List Handle} (ordered : ∀ type ∈ order, base.Has type)
    (awaited : ∀ type ∈ pending, base.Has type) : ∀ type ∈ base.linearizeFrom order pending, base.Has type :=
  forall_mem_linearizeFrom (fun _ _ _ listed => closed.has_bases listed) ordered awaited

theorem Closed.has_linearization {type other : Handle} (has : base.Has type)
    (listed : other ∈ base.linearization type) : base.Has other :=
  closed.has_linearizeFrom (by simp) (by simpa using has) other listed

theorem Closed.has_lookup {type value : Handle} {name : String} (defined : base.lookup type name = some value) :
    base.Has value := by
  obtain ⟨holder, -, member⟩ := List.exists_of_findSome?_eq_some defined
  exact closed.has_member member

theorem Closed.has_ownAttribute {handle value : Handle} {name : String}
    (own : base.ownAttribute handle name = .ok (some value)) : base.Has value := by
  unfold ownAttribute at own
  rcases shown : base.object handle with _ | object
  · simp [shown, bind, Except.bind] at own
  have found := (object_eq_ok.mp shown).2
  simp only [shown, bind, Except.bind] at own
  cases object with
  | object contents =>
    have bound : contents.attributes.get? name = some value := Except.ok.inj own
    exact closed.children handle _ found value (List.mem_cons_of_mem _ (Bindings.mem_values.mpr ⟨name, bound⟩))
  | moduleObject contents =>
    rcases bound : contents.globals.get? name with _ | other
    · simp [bound, throw, throwThe, MonadExceptOf.throw] at own
    · obtain rfl : other = value := by simpa [bound, pure, Except.pure] using own
      exact closed.children handle _ found other (Bindings.mem_values.mpr ⟨name, bound⟩)
  | typeObject contents => exact closed.has_lookup (Except.ok.inj own)
  | _ => simp [pure, Except.pure] at own

theorem Closed.has_inheritedAttribute {type value : Handle} {name : String}
    (found : base.inheritedAttribute type name = .ok (.plain value)) : base.Has value := by
  unfold inheritedAttribute at found
  rcases defined : base.lookup type name with _ | other
  · rcases named : base.typeName type <;>
      simp [defined, named, bind, Except.bind, throw, throwThe, MonadExceptOf.throw] at found
  rcases shown : base.object other with _ | object
  · simp [defined, shown, bind, Except.bind] at found
  have same : other = value := by
    cases object <;> simp_all [bind, Except.bind, pure, Except.pure]
  exact same ▸ closed.has_lookup defined

theorem Closed.has_attribute {handle value : Handle} {name : String}
    (found : base.findAttribute handle name = .ok (.plain value)) : base.Has value := by
  rw [findAttribute_eq_bind] at found
  rcases own : base.ownAttribute handle name with _ | _ | own?
  · simp [own, bind, Except.bind] at found
  · rcases typed : base.typeOf handle with _ | type
    · simp [own, typed, bind, Except.bind] at found
    · exact closed.has_inheritedAttribute (by simpa only [own, typed, bind, Except.bind] using found)
  · obtain rfl : own? = value := by simpa [own, bind, Except.bind, pure, Except.pure] using found
    exact closed.has_ownAttribute own

section SameTypes

variable (same : base.SameTypes space)
include same

theorem Closed.linearizeFrom_eq {order pending : List Handle} (awaited : ∀ type ∈ pending, base.Has type) :
    space.linearizeFrom order pending = base.linearizeFrom order pending :=
  linearizeFrom_congr (fun _ _ _ listed => closed.has_bases listed) same.bases awaited

theorem Closed.linearization_eq {type : Handle} (has : base.Has type) :
    space.linearization type = base.linearization type :=
  closed.linearizeFrom_eq same (by simpa using has)

theorem Closed.lookup_eq {type : Handle} (has : base.Has type) (name : String) :
    space.lookup type name = base.lookup type name := by
  unfold lookup
  rw [closed.linearization_eq same has]
  refine findSome?_congr fun other listed => ?_
  rw [same.members other (closed.has_linearization has listed)]

theorem Closed.inheritedNames_eq {type : Handle} (has : base.Has type) :
    space.inheritedNames type = base.inheritedNames type := by
  unfold inheritedNames
  rw [closed.linearization_eq same has]
  refine List.flatMap_congr fun other listed => ?_
  rw [same.members other (closed.has_linearization has listed)]

end SameTypes

section SameObjects

variable (same : base.SameObjects space)
include same

theorem Closed.inheritedAttribute_eq {type : Handle} (has : base.Has type) (name : String) :
    space.inheritedAttribute type name = base.inheritedAttribute type name := by
  unfold inheritedAttribute
  rw [closed.lookup_eq same.types has, same.typeName_eq has]
  rcases defined : base.lookup type name with _ | value
  · rfl
  · -- A module is no function, whatever its globals.
    rcases same.objects value (closed.has_lookup defined) with unchanged | ⟨_, _, earlier, later⟩
    · simp only [unchanged]
    · simp only [earlier, later]
      rfl

variable {handle : Handle} (has : base.Has handle) (kept : space.object handle = base.object handle)
include has kept

theorem Closed.ownAttribute_eq (name : String) : space.ownAttribute handle name = base.ownAttribute handle name := by
  simp only [ownAttribute, kept, closed.lookup_eq same.types has]

theorem Closed.findAttribute_eq (name : String) : space.findAttribute handle name = base.findAttribute handle name := by
  rw [findAttribute_eq_bind, findAttribute_eq_bind, closed.ownAttribute_eq same has kept, same.typeOf_eq has]
  rcases base.ownAttribute handle name with _ | _ | own
  · rfl
  · rcases typed : base.typeOf handle with _ | type
    · rfl
    · exact closed.inheritedAttribute_eq same (closed.has_typeOf typed) name
  · rfl

theorem Closed.dir_eq : space.dir handle = base.dir handle := by
  unfold dir
  rw [kept, closed.inheritedNames_eq same.types has, same.typeOf_eq has]
  rcases shown : base.object handle with _ | object
  · rfl
  · have found := (object_eq_ok.mp shown).2
    cases object with
    | object contents =>
      have hasType := closed.children handle _ found contents.type List.mem_cons_self
      simp only [bind, Except.bind, closed.inheritedNames_eq same.types hasType]
    | typeObject contents => rfl
    | moduleObject contents => rfl
    | _ =>
      rcases typed : base.typeOf handle with _ | type
      · rfl
      · simp only [bind, Except.bind, closed.inheritedNames_eq same.types (closed.has_typeOf typed)]

end SameObjects

end Views

end ObjectBridge.Guest.Space

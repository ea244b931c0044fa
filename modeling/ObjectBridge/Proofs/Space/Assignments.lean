import ObjectBridge.Proofs.Space.Constituents
import ObjectBridge.Proofs.Space.Linearization

/-!
Attributes that are set. An attribute that was set is the one that is found under its name, before any that is
inherited. It is listed from then on, and so is all that was listed before.
-/

namespace ObjectBridge.Guest.Space

variable {β : Type} {space space' : Space β} {handle type value : Handle} {object : Object β} {name : String}
  {attributes : Bindings Handle}

theorem Endures.bases_eq (endures : space.Endures space' type) : space'.bases type = space.bases type := by
  obtain ⟨object, object', found, found', becomes⟩ := endures.exists_object
  have kind := becomes.kind_eq
  have listed := becomes.constituents_eq
  unfold bases
  rw [found, found']
  cases object <;> cases object' <;> first | exact listed | rfl | cases kind

theorem Endures.base (endures : space.Endures space' type) {base : Handle} (listed : base ∈ space.bases type) :
    space.Endures space' base := by
  obtain ⟨object, _, found, -⟩ := endures.exists_object
  unfold bases at listed
  rw [found] at listed
  cases object with
  | typeObject contents => exact endures.constituent found listed
  | _ => cases listed

theorem Endures.linearization_eq (endures : space.Endures space' type) :
    space'.linearization type = space.linearization type :=
  linearizeFrom_congr (fun _ endures _ listed => Endures.base endures listed) (fun _ endures => endures.bases_eq)
    (by simpa using endures)

theorem Endures.of_mem_linearization (endures : space.Endures space' type) {base : Handle}
    (listed : base ∈ space.linearization type) : space.Endures space' base :=
  forall_mem_linearizeFrom (fun _ endures _ listed => Endures.base endures listed) (List.forall_mem_nil _)
    (by simpa using endures) base listed

/-- The object has one attribute more, or another value of it, and no type besides has other members. -/
structure Assigned (space space' : Space β) (handle : Handle) (object : Object β) (attributes : Bindings Handle)
    (name : String) (value : Handle) : Prop where
  place : settable object = some attributes
  before : space.heap.get? handle = some object
  after : space'.heap.get? handle = some (withSettable (attributes.insert name value) object)
  endures : space.Endures space' handle
  others : ∀ type, type ≠ handle → ∀ contents, space'.heap.get? type = some (.typeObject contents) →
    space.heap.get? type = some (.typeObject contents)

section Assigned

variable (assigned : space.Assigned space' handle object attributes name value)
include assigned

theorem Assigned.members_of_ne (endures : space.Endures space' type) (other : type ≠ handle) :
    space'.members type = space.members type := by
  obtain ⟨earlier, later, found, found', becomes⟩ := endures.exists_object
  have kind := becomes.kind_eq
  unfold members
  rw [found, found']
  cases later with
  | typeObject contents =>
    rw [assigned.others type other contents found', Option.some.injEq] at found
    subst found
    rfl
  | _ => cases earlier <;> first | rfl | cases kind

theorem Assigned.members_of_not_type (endures : space.Endures space' type) (kind : object.kind ≠ .typeObject) :
    space'.members type = space.members type := by
  by_cases same : type = handle
  · subst same
    unfold members
    rw [assigned.before, assigned.after]
    cases object with
    | typeObject contents => exact absurd rfl kind
    | _ => rfl
  · exact assigned.members_of_ne endures same

theorem Assigned.mem_names_members {contents : TypeObject} (kind : object = .typeObject contents)
    (endures : space.Endures space' type) (other : String) :
    other ∈ (space'.members type).names ↔ type = handle ∧ other = name ∨ other ∈ (space.members type).names := by
  by_cases same : type = handle
  · subst same kind
    have place := assigned.place
    unfold members
    rw [assigned.before, assigned.after]
    simp only [settable] at place
    split at place
    · cases place
    · obtain rfl := Option.some.inj place
      simp only [withSettable, true_and, Bindings.mem_names_insert]
  · rw [assigned.members_of_ne endures same]
    simp [same]

theorem Assigned.findAttribute_eq (started' : space'.roots.isSome) :
    space'.findAttribute handle name = .ok (.plain value) := by
  have shown := object_eq_ok.mpr ⟨started', assigned.after⟩
  have place := assigned.place
  have bound : (attributes.insert name value).get? name = some value := by rw [Bindings.get?_insert, if_pos rfl]
  rw [findAttribute_eq_bind, ownAttribute, shown]
  cases object with
  | object contents => simp [withSettable, bound, bind, Except.bind, pure, Except.pure]
  | moduleObject contents => simp [withSettable, bound, bind, Except.bind, pure, Except.pure]
  | typeObject contents =>
    have own : (space'.members handle).get? name = some value := by
      rw [members, assigned.after]
      exact bound
    obtain ⟨rest, order⟩ := List.head?_eq_some_iff.mp (space'.head?_linearization handle)
    have found : space'.lookup handle name = some value := by rw [lookup, order, List.findSome?_cons, own]
    simp [withSettable, found, bind, Except.bind, pure, Except.pure]
  | _ => cases place

theorem Assigned.mem_dir (started : space.roots.isSome) (started' : space'.roots.isSome) :
    ∃ names names', space.dir handle = .ok names ∧ space'.dir handle = .ok names' ∧ names.Pairwise (· < ·) ∧
      names'.Pairwise (· < ·) ∧ ∀ other, other ∈ names' ↔ other = name ∨ other ∈ names := by
  have shown := object_eq_ok.mpr ⟨started, assigned.before⟩
  have shown' := object_eq_ok.mpr ⟨started', assigned.after⟩
  have lists (names names' : List String) (dir : space.dir handle = .ok (names.foldr insertName []))
      (dir' : space'.dir handle = .ok (names'.foldr insertName []))
      (same : ∀ other, other ∈ names' ↔ other = name ∨ other ∈ names) :
      ∃ names names', space.dir handle = .ok names ∧ space'.dir handle = .ok names' ∧ names.Pairwise (· < ·) ∧
        names'.Pairwise (· < ·) ∧ ∀ other, other ∈ names' ↔ other = name ∨ other ∈ names := by
    refine ⟨_, _, dir, dir', pairwise_foldr_insertName _, pairwise_foldr_insertName _, fun other => ?_⟩
    rw [mem_foldr_insertName, mem_foldr_insertName, same]
  have place := assigned.place
  cases object with
  | moduleObject contents =>
    obtain rfl := Option.some.inj place
    exact lists contents.globals.names (contents.globals.insert name value).names (by rw [dir, shown]; rfl)
      (by rw [dir, shown']; rfl) fun other => Bindings.mem_names_insert
  | object contents =>
    obtain rfl := Option.some.inj place
    have endures : space.Endures space' contents.type :=
      assigned.endures.constituent assigned.before List.mem_cons_self
    have inherited : space'.inheritedNames contents.type = space.inheritedNames contents.type := by
      unfold inheritedNames
      rw [endures.linearization_eq]
      refine List.flatMap_congr fun type listed => ?_
      rw [assigned.members_of_not_type (endures.of_mem_linearization listed) (by simp [Object.kind])]
    refine lists (contents.attributes.names ++ space.inheritedNames contents.type)
      ((contents.attributes.insert name value).names ++ space.inheritedNames contents.type) (by rw [dir, shown]; rfl)
      (by rw [dir, shown', ← inherited]; rfl) fun other => ?_
    rw [List.mem_append, Bindings.mem_names_insert, List.mem_append, or_assoc]
  | typeObject contents =>
    refine lists (space.inheritedNames handle) (space'.inheritedNames handle) (by rw [dir, shown]; rfl)
      (by rw [dir, shown']; rfl) fun other => ?_
    unfold inheritedNames
    rw [assigned.endures.linearization_eq, List.mem_flatMap, List.mem_flatMap]
    have each (type : Handle) (listed : type ∈ space.linearization handle) :=
      assigned.mem_names_members rfl (assigned.endures.of_mem_linearization listed) other
    constructor
    · rintro ⟨type, listed, member⟩
      rcases (each type listed).mp member with ⟨-, same⟩ | earlier
      · exact Or.inl same
      · exact Or.inr ⟨type, listed, earlier⟩
    · rintro (same | ⟨type, listed, member⟩)
      · have own := space.mem_linearization_self handle
        exact ⟨handle, own, (each handle own).mpr (Or.inl ⟨rfl, same⟩)⟩
      · exact ⟨type, listed, (each type listed).mpr (Or.inr member)⟩
  | _ => cases place

end Assigned

end ObjectBridge.Guest.Space

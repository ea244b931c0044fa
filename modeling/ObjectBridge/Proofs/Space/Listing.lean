import ObjectBridge.Proofs.Names
import ObjectBridge.Proofs.Space.Inheritance
import ObjectBridge.Proofs.Space.Naming

/-!
The attributes that are listed and those that can be asked for. Both come to one relation: where in the object, or in
which type of a linearization, a name leads to something.
-/

namespace ObjectBridge.Guest

section Names

variable {name other : String} {names : List String}

theorem mem_insertName : other ∈ insertName name names ↔ other = name ∨ other ∈ names := by
  induction names with
  | nil => simp [insertName]
  | cons head rest ih =>
    rw [insertName]
    split
    · simp
    · split
      · rename_i same
        simp [same]
      · rw [List.mem_cons, ih, List.mem_cons]
        tauto

theorem pairwise_insertName (ascending : names.Pairwise (· < ·)) : (insertName name names).Pairwise (· < ·) := by
  induction names with
  | nil => simp [insertName]
  | cons head rest ih =>
    obtain ⟨below, tail⟩ := List.pairwise_cons.mp ascending
    rw [insertName]
    split
    · rename_i before
      apply List.pairwise_cons.mpr
      refine ⟨?_, ascending⟩
      intro later member
      rcases List.mem_cons.mp member with rfl | member
      · exact before
      · exact String.lt_trans before (below later member)
    · rename_i notBefore
      split
      · exact ascending
      · rename_i different
        apply List.pairwise_cons.mpr
        refine ⟨?_, ih tail⟩
        intro later member
        rcases mem_insertName.mp member with rfl | member
        · grind
        · exact below later member

theorem mem_foldr_insertName : other ∈ names.foldr insertName [] ↔ other ∈ names := by
  induction names with
  | nil => simp
  | cons head rest ih => rw [List.foldr_cons, mem_insertName, ih, List.mem_cons]

theorem pairwise_foldr_insertName (names : List String) : (names.foldr insertName []).Pairwise (· < ·) := by
  induction names with
  | nil => exact .nil
  | cons head rest ih => exact pairwise_insertName ih

end Names

variable {β : Type}

def Object.entries : Object β → Bindings Handle
  | .object contents => contents.attributes
  | .moduleObject contents => contents.globals
  | _ => .empty

def Roots.typeOf (roots : Roots) : Object β → Handle
  | .object contents => contents.type
  | other => roots.typeFor other.kind

namespace Space

variable {space : Space β} {handle type value : Handle} {object : Object β} {name : String}

def FirstDefines (space : Space β) (order : List Handle) (name : String) (value : Handle) : Prop :=
  ∃ earlier type later, order = earlier ++ type :: later ∧ (space.members type).get? name = some value ∧
    ∀ other ∈ earlier, (space.members other).get? name = none

theorem lookup_eq_some : space.lookup type name = some value ↔
    space.FirstDefines (space.linearization type) name value :=
  List.findSome?_eq_some_iff

/-- What a name leads to from an object. What the object binds itself goes first, and for a module there is nothing
else. A type has what it and its bases define; any other object gets what its type has, and functions bound to it. -/
inductive Provides (space : Space β) (handle : Handle) (object : Object β) (name : String) : Attribute → Prop
  | own {value : Handle} (bound : object.entries.get? name = some value) : Provides space handle object name (.plain value)
  | type {value : Handle} (kind : object.kind = .typeObject)
      (first : space.FirstDefines (space.linearization handle) name value) :
      Provides space handle object name (.plain value)
  | inherited {type value : Handle} {found : Object β} (free : object.entries.get? name = none)
      (kind : object.kind ≠ .typeObject ∧ object.kind ≠ .moduleObject) (typed : space.typeOf handle = .ok type)
      (first : space.FirstDefines (space.linearization type) name value)
      (shown : space.heap.get? value = some found) :
      Provides space handle object name (if found.kind = .function then .method value else .plain value)

theorem mem_inheritedNames : name ∈ space.inheritedNames type ↔
    ∃ value, space.FirstDefines (space.linearization type) name value := by
  simp only [← lookup_eq_some, inheritedNames, lookup, List.mem_flatMap, Bindings.mem_names]
  rw [← Option.isSome_iff_exists, List.findSome?_isSome_iff]
  simp only [Option.isSome_iff_exists]

theorem typeOf_of_started (started : space.roots.isSome) (live : space.heap.get? handle = some object) :
    ∃ roots, space.roots = some roots ∧ space.typeOf handle = .ok (roots.typeOf object) := by
  obtain ⟨roots, rooted⟩ := Option.isSome_iff_exists.mp started
  refine ⟨roots, rooted, ?_⟩
  rw [typeOf, rootsNow_eq_ok.mpr rooted, object_eq_ok.mpr ⟨started, live⟩]
  cases object <;> rfl

/-- The space is not finalized, types have their names, and the type of types defines nothing else. -/
structure Searchable (space : Space β) : Prop extends space.Closed where
  started : space.roots.isSome
  named : space.Named
  metatype : ∀ roots, space.roots = some roots → ∀ name value,
    space.lookup (roots.typeFor .typeObject) name = some value → name = "__name__"

/-- Whatever was done to a space, the type of a kind is a builtin one, and so are those that it derives from: all that
they define is their names. -/
theorem Path.lookup_typeFor {held : Multiset Handle} {roots : Roots} {kind : Kind}
    (path : Path .lasting (start, 0) (space, held)) (rooted : space.roots = some roots)
    (defined : space.lookup (roots.typeFor kind) name = some value) :
    name = "__name__" ∧ ∃ type ∈ roots.types.values, (space.members type).get? "__name__" = some value := by
  obtain ⟨based, native⟩ := path.native rooted
  obtain ⟨type, listed⟩ := path.typed exact_start_typed.2 roots rooted kind
  have derived : ∀ other ∈ space.linearization (roots.typeFor kind), other ∈ roots.types.values := by
    refine forall_mem_linearizeFrom (fun other member base above => ?_) (by simp) ?_
    · obtain ⟨object, found, isNative⟩ := native other member
      unfold bases at above
      split at above
      · rename_i contents shown
        obtain rfl := Option.some.inj (found.symm.trans shown)
        rw [isNative.2.2 base above]
        exact Bindings.mem_values.mpr ⟨_, based⟩
      · simp at above
    · intro other member
      rw [List.mem_singleton.mp member, Roots.typeFor, listed, Option.getD_some]
      exact Bindings.mem_values.mpr ⟨_, listed⟩
  obtain ⟨earlier, other, later, order, found, -⟩ := lookup_eq_some.mp defined
  have root : other ∈ roots.types.values := derived other (by simp [order])
  obtain ⟨object, shown, isNative⟩ := native other root
  have named : name = "__name__" := by
    unfold members at found
    split at found
    · rename_i contents here
      obtain rfl := Option.some.inj (shown.symm.trans here)
      obtain ⟨-, ⟨label, alone⟩, -⟩ := isNative
      by_contra different
      simp [alone, Bindings.singleton, Bindings.get?_insert, different, Bindings.get?_empty] at found
    · simp [Bindings.get?_empty] at found
  exact ⟨named, other, root, named ▸ found⟩

theorem searchable_of_path {held : Multiset Handle} (path : Path .lasting (start, 0) (space, held))
    (started : space.roots.isSome) (named : space.Named) : space.Searchable where
  toClosed := by
    have exact : (start : Space β).Exact (0 + 0) := exact_start
    exact (Path.exact path exact).closed (path.typed exact_start_typed.2)
  started := started
  named := named
  metatype _ rooted _ _ defined := (path.lookup_typeFor rooted defined).1

theorem mem_linearization_self (space : Space β) (type : Handle) : type ∈ space.linearization type := by
  rw [linearization, linearizeFrom, if_neg (by simp)]
  exact (space.prefix_linearizeFrom _ _).subset (by simp)

theorem Named.lookup_isSome {contents : TypeObject} (named : space.Named)
    (live : space.heap.get? handle = some (.typeObject contents)) : (space.lookup handle "__name__").isSome := by
  refine List.findSome?_isSome_iff.mpr ⟨handle, space.mem_linearization_self handle, ?_⟩
  rw [members, live]
  exact named handle _ live

theorem inheritedAttribute_of_none (started : space.roots.isSome) (has : space.Has type)
    (none : space.lookup type name = none) :
    ∃ label, space.inheritedAttribute type name = .error (.noAttribute label name) := by
  obtain ⟨object, shown⟩ := has
  rw [inheritedAttribute, none, typeName, object_eq_ok.mpr ⟨started, shown⟩]
  cases object <;> exact ⟨_, rfl⟩

section Searchable

variable (searchable : space.Searchable)
include searchable

theorem Searchable.inheritedAttribute_of_first (first : space.FirstDefines (space.linearization type) name value) :
    ∃ found, space.heap.get? value = some found ∧ space.inheritedAttribute type name =
      .ok (if found.kind = .function then .method value else .plain value) := by
  have defined := lookup_eq_some.mpr first
  obtain ⟨found, shown⟩ := searchable.toClosed.has_lookup defined
  refine ⟨found, shown, ?_⟩
  rw [inheritedAttribute, defined]
  simp only [object_eq_ok.mpr ⟨searchable.started, shown⟩]
  cases found <;> rfl

variable (live : space.heap.get? handle = some object)
include live

theorem Searchable.findAttribute_of_provides {place : Attribute}
    (provides : space.Provides handle object name place) : space.findAttribute handle name = .ok place := by
  have shown := object_eq_ok.mpr ⟨searchable.started, live⟩
  rw [findAttribute_eq_bind, ownAttribute, shown]
  cases provides with
  | own bound =>
    cases object with
    | object contents =>
      have bound : contents.attributes.get? name = some _ := bound
      simp [bound, bind, Except.bind, pure, Except.pure]
    | moduleObject contents =>
      have bound : contents.globals.get? name = some _ := bound
      simp [bound, bind, Except.bind, pure, Except.pure]
    | _ => simp [Object.entries, Bindings.get?_empty] at bound
  | type kind first =>
    cases object with
    | typeObject contents => simp [lookup_eq_some.mpr first, bind, Except.bind, pure, Except.pure]
    | _ => cases kind
  | inherited free kind typed first found =>
    obtain ⟨other, there, inherited⟩ := searchable.inheritedAttribute_of_first first
    obtain rfl := Option.some.inj (there.symm.trans found)
    cases object with
    | object contents =>
      have free : contents.attributes.get? name = none := free
      simp [free, typed, inherited, bind, Except.bind, pure, Except.pure]
    | moduleObject contents => exact absurd rfl kind.2
    | typeObject contents => exact absurd rfl kind.1
    | _ => simp [typed, inherited, bind, Except.bind, pure, Except.pure]

theorem Searchable.findAttribute_of_none (nothing : ∀ place, ¬space.Provides handle object name place) :
    ∃ exception, space.findAttribute handle name = .error exception ∧ exception.kind = "AttributeError" := by
  have started := searchable.started
  have shown := object_eq_ok.mpr ⟨started, live⟩
  obtain ⟨roots, rooted, typed⟩ := typeOf_of_started started live
  have lacking {type : Handle} (typed : space.typeOf handle = .ok type) (none : space.lookup type name = none) :
      ∃ label, space.inheritedAttribute type name = .error (.noAttribute label name) :=
    inheritedAttribute_of_none started (searchable.toClosed.has_typeOf typed) none
  have notInherited {type : Handle} (free : object.entries.get? name = none)
      (kind : object.kind ≠ .typeObject ∧ object.kind ≠ .moduleObject) (typed : space.typeOf handle = .ok type) :
      space.lookup type name = none := by
    apply Option.eq_none_iff_forall_ne_some.mpr
    intro value defined
    obtain ⟨found, there⟩ := searchable.toClosed.has_lookup defined
    exact nothing _ (.inherited free kind typed (lookup_eq_some.mp defined) there)
  have free : object.entries.get? name = none :=
    Option.eq_none_iff_forall_ne_some.mpr fun value bound => nothing _ (.own bound)
  rw [findAttribute_eq_bind, ownAttribute, shown]
  cases object with
  | object contents =>
    obtain ⟨label, failed⟩ := lacking typed (notInherited free (by simp [Object.kind]) typed)
    have free : contents.attributes.get? name = none := free
    refine ⟨.noAttribute label name, ?_, rfl⟩
    simp [free, typed, failed, bind, Except.bind, pure, Except.pure]
  | moduleObject contents =>
    have free : contents.globals.get? name = none := free
    refine ⟨.noGlobal contents.name name, ?_, rfl⟩
    simp [free, bind, Except.bind, throw, throwThe, MonadExceptOf.throw]
  | typeObject contents =>
    have undefined : space.lookup handle name = none :=
      Option.eq_none_iff_forall_ne_some.mpr fun value defined => nothing _ (.type rfl (lookup_eq_some.mp defined))
    -- The type of types has a name, but so has the type itself.
    have unknown : space.lookup (roots.typeFor .typeObject) name = none := by
      apply Option.eq_none_iff_forall_ne_some.mpr
      intro value defined
      obtain rfl := searchable.metatype roots rooted name value defined
      have titled := searchable.named.lookup_isSome live
      simp [undefined] at titled
    obtain ⟨label, failed⟩ := lacking typed unknown
    refine ⟨.noAttribute label name, ?_, rfl⟩
    simp [undefined, typed, failed, bind, Except.bind, pure, Except.pure]
  | _ =>
    obtain ⟨label, failed⟩ := lacking typed (notInherited free (by simp [Object.kind]) typed)
    refine ⟨.noAttribute label name, ?_, rfl⟩
    simp [typed, failed, bind, Except.bind, pure, Except.pure]

theorem Searchable.exists_dir : ∃ names, space.dir handle = .ok names ∧ names.Pairwise (· < ·) ∧
    ∀ name, name ∈ names ↔ ∃ place, space.Provides handle object name place := by
  have started := searchable.started
  have shown := object_eq_ok.mpr ⟨started, live⟩
  obtain ⟨roots, rooted, typed⟩ := typeOf_of_started started live
  have listed (names : List String) (same : ∀ name, name ∈ names ↔ ∃ place, space.Provides handle object name place)
      (answered : space.dir handle = .ok (names.foldr insertName [])) : ∃ names, space.dir handle = .ok names ∧
        names.Pairwise (· < ·) ∧ ∀ name, name ∈ names ↔ ∃ place, space.Provides handle object name place :=
    ⟨_, answered, pairwise_foldr_insertName names, fun name => mem_foldr_insertName.trans (same name)⟩
  have inherits {type : Handle} (kind : object.kind ≠ .typeObject ∧ object.kind ≠ .moduleObject)
      (typed : space.typeOf handle = .ok type) (name : String) :
      name ∈ object.entries.names ++ space.inheritedNames type ↔ ∃ place, space.Provides handle object name place := by
    rw [List.mem_append, Bindings.mem_names, mem_inheritedNames]
    constructor
    · intro given
      cases bound : object.entries.get? name with
      | some value => exact ⟨_, .own bound⟩
      | none =>
        obtain ⟨value, own⟩ | ⟨value, first⟩ := given
        · simp [bound] at own
        · obtain ⟨found, there⟩ := searchable.toClosed.has_lookup (lookup_eq_some.mpr first)
          exact ⟨_, .inherited bound kind typed first there⟩
    · rintro ⟨place, provides⟩
      cases provides with
      | own bound => exact Or.inl ⟨_, bound⟩
      | type same => exact absurd same kind.1
      | inherited free _ typedAs first =>
        obtain rfl := Except.ok.inj (typed.symm.trans typedAs)
        exact Or.inr ⟨_, first⟩
  cases object with
  | moduleObject contents =>
    refine listed contents.globals.names (fun name => ?_) ?_
    · rw [Bindings.mem_names]
      constructor
      · rintro ⟨value, bound⟩
        exact ⟨_, .own bound⟩
      · rintro ⟨place, provides⟩
        cases provides with
        | own bound => exact ⟨_, bound⟩
        | type kind => cases kind
        | inherited _ kind => exact absurd rfl kind.2
    · rw [dir, shown]
      rfl
  | typeObject contents =>
    refine listed (space.inheritedNames handle) (fun name => ?_) ?_
    · rw [mem_inheritedNames]
      constructor
      · rintro ⟨value, first⟩
        exact ⟨_, .type rfl first⟩
      · rintro ⟨place, provides⟩
        cases provides with
        | own bound => simp [Object.entries, Bindings.get?_empty] at bound
        | type _ first => exact ⟨_, first⟩
        | inherited _ kind => exact absurd rfl kind.1
    · rw [dir, shown]
      rfl
  | object contents =>
    refine listed _ (inherits (by simp [Object.kind]) typed) ?_
    rw [dir, shown]
    rfl
  | _ =>
    refine listed _ (inherits (by simp [Object.kind]) typed) ?_
    rw [dir, shown]
    simp only [bind, Except.bind, typed]
    rfl

end Searchable

end Space

end ObjectBridge.Guest

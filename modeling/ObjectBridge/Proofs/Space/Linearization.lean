import ObjectBridge.Proofs.Space.Inheritance
import ObjectBridge.Proofs.Space.Listing
import ObjectBridge.Proofs.Space.Nesting

/-!
The order of look-up. Bases are there before the types that derive from them and never change, so no type derives
from itself, and all ways from a type up to its bases can be gone through one after the other. The order of look-up
lists what is met on the way, each type where it is met first.
-/

namespace ObjectBridge.Guest

variable {β : Type}

def Object.bases : Object β → List Handle
  | .typeObject contents => contents.bases
  | _ => []

theorem Object.bases_subset_children (object : Object β) : object.bases ⊆ object.children := by
  cases object with
  | typeObject contents => exact List.subset_append_left _ _
  | _ => exact List.nil_subset _

theorem Object.Changes.bases_eq {object object' : Object β} (changes : Object.Changes object object') :
    object'.bases = object.bases := by
  cases changes <;> rfl

namespace Space

variable {space : Space β} {type base other : Handle} {order pending : List Handle}

def Grounded (space : Space β) : Prop :=
  WellFounded fun base type => base ∈ space.bases type

def Derives (space : Space β) : Handle → Handle → Prop :=
  Relation.ReflTransGen fun type base => base ∈ space.bases type

theorem refers_bases_iff : space.heap.Refers Object.bases type base ↔ base ∈ space.bases type := by
  unfold Heap.Refers bases
  cases space.heap.get? type with
  | none => simp
  | some object => cases object <;> simp [Object.bases]

theorem Path.grounded {held : Multiset Handle} (path : Path .lasting (start, 0) (space, held)) : space.Grounded := by
  have exact : (start : Space β).Exact (0 + 0) := exact_start
  have nested : space.heap.Nested Object.bases :=
    path.nested Object.bases_subset_children (fun _ _ changes => changes.bases_eq) exact
      (nested_start Object.bases_subset_children)
  exact Subrelation.wf (fun {base type} listed => refers_bases_iff.mpr listed) nested

def preorder (space : Space β) (grounded : space.Grounded) (type : Handle) : List Handle :=
  type :: (space.bases type).attach.flatMap fun base => space.preorder grounded base.1
termination_by grounded.wrap type
decreasing_by exact base.2

section Grounded

variable (grounded : space.Grounded)

theorem preorder_eq (type : Handle) :
    space.preorder grounded type = type :: (space.bases type).flatMap (space.preorder grounded) := by
  conv_rhs => rw [← List.attach_map_subtype_val (space.bases type), List.flatMap_map]
  rw [preorder]

theorem mem_preorder_iff : base ∈ space.preorder grounded type ↔ space.Derives type base := by
  induction type using grounded.induction with
  | _ type ih =>
    rw [preorder_eq, List.mem_cons, List.mem_flatMap, Derives, Relation.ReflTransGen.cases_head_iff, eq_comm]
    apply or_congr_right
    constructor
    · rintro ⟨next, listed, member⟩
      exact ⟨next, listed, (ih next listed).mp member⟩
    · rintro ⟨next, listed, derives⟩
      exact ⟨next, listed, (ih next listed).mpr derives⟩

include grounded in
theorem Grounded.not_derives (listed : base ∈ space.bases type) : ¬space.Derives base type := by
  intro derives
  have cycle : Relation.TransGen (fun type base => base ∈ space.bases type) type type := .head' listed derives
  exact grounded.transGen.irrefl.irrefl type (Relation.transGen_swap.mpr cycle)

/-- Where a type is listed that is still to be met in what is pending, all that comes after it there is listed by then:
it is listed now, or met before. -/
def Settled (space : Space β) (grounded : space.Grounded) (order pending : List Handle) : Prop :=
  ∀ before type after, pending = before ++ type :: after → ∀ other ∈ order, other ∈ space.preorder grounded type →
    space.preorder grounded other ⊆ order ++ before.flatMap (space.preorder grounded)

variable {grounded}

theorem Settled.skip (settled : space.Settled grounded order (type :: pending)) (listed : type ∈ order) :
    space.preorder grounded type ⊆ order ∧ space.Settled grounded order pending := by
  have whole : space.preorder grounded type ⊆ order := by
    have here := settled [] type pending rfl type listed (by rw [preorder_eq]; exact List.mem_cons_self)
    simpa using here
  constructor
  · exact whole
  · rintro before later after rfl other member met
    have there := settled (type :: before) later after rfl other member met
    rw [List.flatMap_cons] at there
    intro last met
    have reached := there met
    simp only [List.mem_append] at reached ⊢
    rcases reached with inside | first | later
    · exact Or.inl inside
    · exact Or.inl (whole first)
    · exact Or.inr later

theorem Settled.enter (settled : space.Settled grounded order (type :: pending)) :
    space.Settled grounded (order ++ [type]) (space.bases type ++ pending) := by
  intro before next after split other member met
  -- The next type is one of the bases, or was pending already.
  have place : next ∈ space.bases type ∨
      ∃ rest, before = space.bases type ++ rest ∧ pending = rest ++ next :: after := by
    rcases List.append_eq_append_iff.mp split with ⟨rest, rfl, same⟩ | ⟨rest, same, split⟩
    · exact Or.inr ⟨rest, rfl, same⟩
    · cases rest with
      | nil => exact Or.inr ⟨[], by simpa using same.symm, by simpa using split.symm⟩
      | cons first rest =>
        obtain ⟨rfl, -⟩ := List.cons_eq_cons.mp split
        exact Or.inl (by simp [same])
  have own : space.preorder grounded type =
      type :: (space.bases type).flatMap (space.preorder grounded) := preorder_eq grounded type
  rw [List.mem_append, List.mem_singleton] at member
  intro last inside
  rcases place with listed | ⟨rest, rfl, rfl⟩
  · rcases member with earlier | rfl
    · have under : other ∈ space.preorder grounded type := by
        rw [own]
        exact List.mem_cons_of_mem _ (List.mem_flatMap.mpr ⟨next, listed, met⟩)
      have there := settled [] type pending rfl other earlier under inside
      simp only [List.flatMap_nil, List.append_nil] at there
      exact List.mem_append_left _ (List.mem_append_left _ there)
    · exact absurd ((mem_preorder_iff grounded).mp met) (grounded.not_derives listed)
  · rcases member with earlier | rfl
    · have there := settled (type :: rest) next after rfl other earlier met inside
      rw [List.flatMap_cons, own] at there
      simp only [List.mem_append, List.mem_cons, List.flatMap_append, List.not_mem_nil, or_false] at there ⊢
      tauto
    · rw [own] at inside
      simp only [List.mem_append, List.mem_cons, List.flatMap_append, List.not_mem_nil, or_false] at inside ⊢
      tauto

theorem linearizeFrom_eq (settled : space.Settled grounded order pending) :
    space.linearizeFrom order pending =
      order ++ ((pending.flatMap (space.preorder grounded)).filter (· ∉ order)).eraseDups := by
  fun_induction linearizeFrom space order pending with
  | case1 order => simp
  | case2 order type pending listed ih =>
    obtain ⟨whole, later⟩ := settled.skip listed
    have nothing : (space.preorder grounded type).filter (· ∉ order) = [] := by
      apply List.filter_eq_nil_iff.mpr
      intro other met
      simpa using whole met
    rw [ih later, List.flatMap_cons, List.filter_append, nothing, List.nil_append]
  | case3 order type pending fresh ih =>
    rw [ih settled.enter, List.flatMap_append, List.flatMap_cons, preorder_eq grounded type, List.cons_append,
      List.filter_cons_of_pos (by simpa using fresh), List.eraseDups_cons, List.filter_filter, List.append_assoc,
      List.singleton_append]
    congr 3
    apply List.filter_congr
    intro other _
    rw [Bool.eq_iff_iff]
    simp [and_comm]

end Grounded

theorem linearization_eq (grounded : space.Grounded) (type : Handle) :
    space.linearization type = (space.preorder grounded type).eraseDups := by
  have settled : space.Settled grounded [] [type] := by simp [Settled]
  rw [linearization, linearizeFrom_eq settled]
  simp

theorem nodup_linearizeFrom (once : order.Nodup) : (space.linearizeFrom order pending).Nodup := by
  fun_induction linearizeFrom space order pending with
  | case1 order => exact once
  | case2 order type pending listed ih => exact ih once
  | case3 order type pending fresh ih =>
    apply ih
    rw [List.nodup_append]
    simp only [List.mem_singleton]
    refine ⟨once, List.nodup_singleton type, ?_⟩
    rintro other listed _ rfl rfl
    exact fresh listed

theorem mem_linearization_iff (grounded : space.Grounded) :
    base ∈ space.linearization type ↔ space.Derives type base := by
  rw [linearization_eq grounded, List.mem_eraseDups, mem_preorder_iff]

section Attributes

variable {handle : Handle} {name : String} {roots : Roots} {contents parent : TypeObject}

theorem isInstance_eq_ok {family : Handle} {answer : Bool} :
    space.isInstance handle family = .ok answer ↔
      ∃ own, space.typeOf handle = .ok own ∧ answer = decide (family ∈ space.linearization own) := by
  unfold isInstance
  cases space.typeOf handle with
  | error exception => simp [bind, Except.bind]
  | ok own => simp [bind, Except.bind, pure, Except.pure, eq_comm]

variable (closed : space.Closed)
include closed

theorem Closed.exists_getattr (started : space.roots.isSome) :
    (∃ result, (getattr handle name).run space = .ok result) ↔ ∃ place, space.findAttribute handle name = .ok place := by
  constructor
  · rintro ⟨⟨value, after⟩, ran⟩
    obtain ⟨place, _, looked, -⟩ := Op.run_bind_eq_ok.mp ran
    exact ⟨place, (Op.run_read_eq_ok.mp looked).1⟩
  · rintro ⟨place, found⟩
    cases place with
    | plain value =>
      obtain ⟨object, live⟩ := closed.has_attribute found
      rw [run_getattr_plain found]
      exact ⟨_, acquire_eq_ok.mpr ⟨⟨object, object_eq_ok.mpr ⟨started, live⟩⟩, rfl, rfl⟩⟩
    | method function =>
      rw [run_getattr_method found]
      exact ⟨_, allocate_eq_ok.mpr ⟨started, rfl, rfl⟩⟩

theorem Closed.exists_findAttribute_type (rooted : space.roots = some roots)
    (live : space.heap.get? type = some (.typeObject contents)) :
    (∃ place, space.findAttribute type name = .ok place) ↔
      (space.lookup type name).isSome ∨ (space.lookup (roots.typeFor .typeObject) name).isSome := by
  have started : space.roots.isSome := by simp [rooted]
  have shown := object_eq_ok.mpr ⟨started, live⟩
  have typed : space.typeOf type = .ok (roots.typeFor .typeObject) := by
    rw [typeOf, rootsNow_eq_ok.mpr rooted, shown]
    rfl
  rw [findAttribute_eq_bind, ownAttribute, shown]
  cases own : space.lookup type name with
  | some value => simp [bind, Except.bind, pure, Except.pure]
  | none =>
    cases given : space.lookup (roots.typeFor .typeObject) name with
    | some value =>
      obtain ⟨object, there⟩ := closed.has_lookup given
      have found := object_eq_ok.mpr ⟨started, there⟩
      cases object <;>
        simp [typed, inheritedAttribute, given, found, bind, Except.bind, pure, Except.pure]
    | none =>
      obtain ⟨label, failed⟩ := inheritedAttribute_of_none started (closed.has_typeOf typed) given
      simp [typed, failed, bind, Except.bind, pure, Except.pure]

omit closed in
theorem dir_type (started : space.roots.isSome) (live : space.heap.get? type = some (.typeObject contents)) :
    space.dir type = .ok ((space.inheritedNames type).foldr insertName []) := by
  rw [dir, object_eq_ok.mpr ⟨started, live⟩]
  rfl

omit closed in
theorem lookup_isSome_of_subset (included : space.linearization base ⊆ space.linearization type)
    (defined : (space.lookup base name).isSome) : (space.lookup type name).isSome := by
  obtain ⟨other, listed, own⟩ := List.findSome?_isSome_iff.mp defined
  exact List.findSome?_isSome_iff.mpr ⟨other, included listed, own⟩

end Attributes

/-- How a type is gone through in a look-up, and what it has in common with those that it derives from: its instances
are instances of all that theirs are, and their attributes are attributes of it. -/
structure Ordered (space : Space β) (grounded : space.Grounded) (type : Handle) : Prop where
  order : space.linearization type = (space.preorder grounded type).eraseDups
  first : (space.linearization type).head? = some type
  once : (space.linearization type).Nodup
  derives : ∀ base, base ∈ space.linearization type ↔ space.Derives type base
  closed : ∀ base ∈ space.linearization type, space.linearization base ⊆ space.linearization type
  instances : ∀ base ∈ space.linearization type, ∀ handle other family, space.typeOf handle = .ok type →
    space.typeOf other = .ok base → space.isInstance other family = .ok true →
    space.isInstance handle family = .ok true
  listed : ∀ base ∈ space.linearization type, ∀ contents parent, space.heap.get? type = some (.typeObject contents) →
    space.heap.get? base = some (.typeObject parent) →
    ∃ names above, space.dir type = .ok names ∧ space.dir base = .ok above ∧ above ⊆ names
  taken : ∀ base ∈ space.linearization type, ∀ contents parent, space.heap.get? type = some (.typeObject contents) →
    space.heap.get? base = some (.typeObject parent) →
    ∀ name, (∃ result, (getattr base name).run space = .ok result) → ∃ result, (getattr type name).run space = .ok result

theorem head?_linearization (space : Space β) (type : Handle) : (space.linearization type).head? = some type := by
  obtain ⟨rest, same⟩ := space.prefix_linearizeFrom ([] ++ [type]) (space.bases type ++ [])
  rw [linearization, linearizeFrom, if_neg List.not_mem_nil, ← same]
  rfl

/-- Whatever was done to a space that is not finalized, all its types are gone through in order. -/
theorem linearization_is_first_visits {held : Multiset Handle} (path : Path .lasting (start, 0) (space, held))
    (started : space.roots.isSome) : ∃ grounded : space.Grounded, ∀ type, space.Ordered grounded type := by
  have exact : (start : Space β).Exact (0 + 0) := exact_start
  have closed := (Path.exact path exact).closed (path.typed exact_start_typed.2)
  obtain ⟨roots, rooted⟩ := Option.isSome_iff_exists.mp started
  have grounded := path.grounded
  refine ⟨grounded, fun type => ?_⟩
  have included : ∀ base ∈ space.linearization type, space.linearization base ⊆ space.linearization type := by
    intro base listed other member
    rw [mem_linearization_iff grounded] at listed member ⊢
    exact listed.trans member
  constructor
  case order => exact linearization_eq grounded type
  case first => exact head?_linearization space type
  case once => exact nodup_linearizeFrom List.nodup_nil
  case derives => exact fun base => mem_linearization_iff grounded
  case closed => exact included
  case instances =>
    intro base listed handle other family typed typedOther above
    obtain ⟨own, same, member⟩ := isInstance_eq_ok.mp above
    obtain rfl : base = own := Except.ok.inj (typedOther.symm.trans same)
    apply isInstance_eq_ok.mpr
    exact ⟨type, typed, by simpa using included base listed (by simpa using member)⟩
  case listed =>
    intro base listed contents parent live above
    refine ⟨_, _, dir_type started live, dir_type started above, ?_⟩
    intro name member
    rw [mem_foldr_insertName, inheritedNames, List.mem_flatMap] at member ⊢
    obtain ⟨other, member, named⟩ := member
    exact ⟨other, included base listed member, named⟩
  case taken =>
    intro base listed contents parent live above name
    rw [closed.exists_getattr started, closed.exists_getattr started, closed.exists_findAttribute_type rooted live,
      closed.exists_findAttribute_type rooted above]
    exact Or.imp_left (lookup_isSome_of_subset (included base listed))

def diamond : Op β Handle := do
  let top ← newType "Top" [] []
  let left ← newType "Left" [top] []
  let right ← newType "Right" [top] []
  newType "Bottom" [left, right] []

theorem Path.after {α : Type} {operation : Op β α} {answer : α → Multiset Handle} {held : Multiset Handle} {result : α}
    {after : Space β} (path : Path .lasting (start, 0) (space, held)) (balanced : Op.Balanced .lasting 0 operation answer)
    (ran : operation.run space = .ok (result, after)) :
    ∃ held, Path .lasting (start, 0) (after, held) := by
  have exact : (start : Space β).Exact (0 + 0) := exact_start
  have before : space.Exact (0 + held) := by simpa [add_comm] using Path.exact path exact
  obtain ⟨later, -⟩ := balanced space held before result after ran
  have framed := later.frame held
  rw [zero_add] at framed
  exact ⟨_, path.trans framed⟩

theorem linearization_is_first_visits_diamond :
    ∃ bottom after, (diamond : Op Unit Handle).run start = .ok (bottom, after) ∧
      (after.linearization bottom).map (fun type => (after.typeName type).toOption) =
        [some "Bottom", some "Left", some "Top", some "object", some "Right"] ∧
      ∃ grounded : after.Grounded, ∀ type, after.Ordered grounded type := by
  have made : ((diamond : Op Unit Handle).run start).toOption.map (fun (bottom, after) =>
      ((after.linearization bottom).map fun type => (after.typeName type).toOption, after.roots.isSome)) =
      some ([some "Bottom", some "Left", some "Top", some "object", some "Right"], true) := by
    decide +kernel
  cases ran : (diamond : Op Unit Handle).run start with
  | error exception => simp [ran, Except.toOption] at made
  | ok result =>
    obtain ⟨bottom, after⟩ := result
    rw [ran] at made
    obtain ⟨names, started⟩ := Prod.mk.inj (Option.some.inj made)
    obtain ⟨top, first, ranTop, rest⟩ := Op.run_bind_eq_ok.mp ran
    obtain ⟨left, second, ranLeft, rest⟩ := Op.run_bind_eq_ok.mp rest
    obtain ⟨right, third, ranRight, ranBottom⟩ := Op.run_bind_eq_ok.mp rest
    obtain ⟨_, path⟩ := Path.after .refl (balanced_newType .lasting _ _ _) ranTop
    obtain ⟨_, path⟩ := path.after (balanced_newType .lasting _ _ _) ranLeft
    obtain ⟨_, path⟩ := path.after (balanced_newType .lasting _ _ _) ranRight
    obtain ⟨_, path⟩ := path.after (balanced_newType .lasting _ _ _) ranBottom
    exact ⟨bottom, after, rfl, names, linearization_is_first_visits path started⟩

end Space

end ObjectBridge.Guest

import ObjectBridge.Guest.Callee
import ObjectBridge.Guest.Printing
import ObjectBridge.Proofs.Space.Linearization
import ObjectBridge.Proofs.Space.Typing

/-!
Kinds of objects. Whatever was done to a space, what objects refer to is of the kind that is looked for there. So
nothing that is there for another case is ever come to, and what goes on from one object to another comes to an end.
-/

namespace ObjectBridge.Guest.Space

variable {β : Type} {space : Space β} {roots : Roots}

/-- Instances have types, types derive from types, bound methods have functions, and modules are listed under their
names. The roots are those of the start, they are there, and there is nothing else like them. No tuple is inside
itself, and no type derives from itself. -/
structure Kinded (space : Space β) (roots : Roots) : Prop where
  types : ∀ handle contents, space.heap.get? handle = some (.object contents) →
    ∃ type, space.heap.get? contents.type = some (.typeObject type)
  bases : ∀ type contents, space.heap.get? type = some (.typeObject contents) → ∀ base ∈ contents.bases,
    ∃ parent, space.heap.get? base = some (.typeObject parent) ∧
      (contents.builtin = false → base = roots.object ∨ parent.builtin = false)
  functions : ∀ handle receiver callable, space.heap.get? handle = some (.boundMethod receiver callable) →
    ∃ function, space.heap.get? callable = some (.function function)
  modules : ∀ name module, space.modules.get? name = some module →
    ∃ globals, space.heap.get? module = some (.moduleObject { name, globals })
  started : (start : Space β).roots = some roots
  rooted : space.Rooted roots
  complete : ∀ kind : Kind, ∃ type, roots.types.get? kind.typeName = some type
  single : space.heap.Each roots.Single
  tuples : WellFounded fun item tuple => ∃ items, space.heap.get? tuple = some (.tuple items) ∧ item ∈ items
  ancestors : WellFounded fun base type => ∃ contents, space.heap.get? type = some (.typeObject contents) ∧
    base ∈ contents.bases

/-- What there is for other cases is not come to. Objects have types, and types have names of their own; a bound method
calls a function that runs a body, and is shown by the name of that function; what is called as a type is one; and
the order of look-up has only types in it, and goes through all ways up to them. -/
structure Definite (space : Space β) (roots : Roots) : Prop where
  kinds : ∀ kind : Kind, roots.types.get? kind.typeName = some (roots.typeFor kind)
  typeNames : ∀ handle object, space.heap.get? handle = some object →
    ∃ type contents, space.typeOf handle = .ok type ∧ space.heap.get? type = some (.typeObject contents) ∧
      space.typeName type = .ok contents.name ∧ space.typeNameOf handle = .ok contents.name
  methods : ∀ handle receiver callable, space.heap.get? handle = some (.boundMethod receiver callable) →
    ∃ function, space.heap.get? callable = some (.function function) ∧
      space.callee handle = .ok (.method receiver callable) ∧
      space.callee callable = .ok (.native function.body function.bound) ∧
      ∀ quote levels, space.format quote (levels + 1) handle =
        (space.format true levels receiver).map fun shown => s!"<bound method {function.name} of {shown}>"
  constructions : ∀ type, space.callee type = .ok .typeObject →
    ∃ contents, space.heap.get? type = some (.typeObject contents) ∧ space.typeName type = .ok contents.name ∧
      space.construction type ≠ .error .notType
  orders : ∃ grounded : space.Grounded, ∀ type contents, space.heap.get? type = some (.typeObject contents) →
    space.linearization type = (space.preorder grounded type).eraseDups ∧
      ∀ base ∈ space.linearization type, ∃ parent, space.heap.get? base = some (.typeObject parent)

section WellTyped

variable (typed : space.WellTyped)
include typed

theorem WellTyped.exists_type {handle : Handle} {contents : InstanceObject}
    (found : space.heap.get? handle = some (.object contents)) :
    ∃ type, space.heap.get? contents.type = some (.typeObject type) := by
  obtain ⟨type, shown⟩ := typed.fitting handle _ found
  obtain ⟨members, there⟩ := Heap.shape?_eq_typeObject shown
  exact ⟨_, there⟩

theorem WellTyped.exists_parent (rooted : space.roots = some roots) (first : roots.types.get? "object" = some roots.object)
    {type base : Handle} {contents : TypeObject} (found : space.heap.get? type = some (.typeObject contents))
    (listed : base ∈ contents.bases) : ∃ parent, space.heap.get? base = some (.typeObject parent) ∧
      (contents.builtin = false → base = roots.object ∨ parent.builtin = false) := by
  obtain ⟨parent, shown, derivable⟩ := typed.fitting type _ found base listed
  obtain ⟨members, there⟩ := Heap.shape?_eq_typeObject shown
  refine ⟨_, there, fun made => ?_⟩
  cases builtin : parent.builtin with
  | false => exact Or.inr rfl
  | true =>
    have single : roots.types.get? parent.name = some base := typed.single roots rooted base _ there builtin
    rw [derivable made builtin, first] at single
    exact Or.inl (Option.some.inj single).symm

theorem WellTyped.exists_function {handle receiver callable : Handle}
    (found : space.heap.get? handle = some (.boundMethod receiver callable)) :
    ∃ function, space.heap.get? callable = some (.function function) := by
  obtain ⟨function, shown⟩ := typed.fitting handle _ found
  exact ⟨function, Heap.shape?_eq_function shown⟩

theorem WellTyped.exists_moduleObject {name : String} {module : Handle}
    (listed : space.modules.get? name = some module) :
    ∃ globals, space.heap.get? module = some (.moduleObject { name, globals }) :=
  Heap.shape?_eq_moduleObject (typed.modules name module listed)

end WellTyped

theorem Path.kinded {held : Multiset Handle} (path : Path .lasting (start, 0) (space, held))
    (rooted : space.roots = some roots) (typed : space.WellTyped) : space.Kinded roots := by
  have exact : (start : Space β).Exact (0 + 0) := exact_start
  obtain ⟨started, there⟩ := path.rooted rooted
  have founded := path.founded exact founded_start
  constructor
  case types => exact fun handle contents found => typed.exists_type found
  case bases => exact fun type contents found base listed => typed.exists_parent rooted there.object found listed
  case functions => exact fun handle receiver callable found => typed.exists_function found
  case modules => exact fun name module listed => typed.exists_moduleObject listed
  case started => exact started
  case rooted => exact there
  case complete => exact path.typed exact_start_typed.2 roots rooted
  case single => exact typed.single roots rooted
  case tuples =>
    refine Subrelation.wf (fun {item tuple} inside => ?_) founded.nested
    obtain ⟨items, found, listed⟩ := inside
    exact ⟨_, found, listed⟩
  case ancestors =>
    refine Subrelation.wf (fun {base type} above => ?_) path.grounded
    obtain ⟨contents, found, listed⟩ := above
    rwa [Space.bases, found]

theorem object_eq_of_rooted (rooted : space.roots = some roots) {handle : Handle} {object : Object β}
    (found : space.heap.get? handle = some object) : space.object handle = .ok object :=
  object_eq_ok.mpr ⟨by simp [rooted], found⟩

theorem typeName_eq_of_rooted (rooted : space.roots = some roots) {type : Handle} {contents : TypeObject}
    (found : space.heap.get? type = some (.typeObject contents)) : space.typeName type = .ok contents.name := by
  rw [typeName, object_eq_of_rooted rooted found]
  rfl

theorem format_boundMethod (rooted : space.roots = some roots) {handle receiver callable : Handle} {function : Function β}
    (found : space.heap.get? handle = some (.boundMethod receiver callable))
    (runs : space.heap.get? callable = some (.function function)) (quote : Bool) (levels : Nat) :
    space.format quote (levels + 1) handle =
      (space.format true levels receiver).map fun shown => s!"<bound method {function.name} of {shown}>" := by
  rw [format, object_eq_of_rooted rooted found]
  dsimp only [bind, Except.bind]
  rw [object_eq_of_rooted rooted runs]
  cases space.format true levels receiver <;> rfl

theorem typeObject_of_callee {type : Handle} (called : space.callee type = .ok .typeObject) :
    ∃ contents, space.object type = .ok (.typeObject contents) := by
  cases shown : space.object type with
  | error exception =>
    rw [callee, shown] at called
    cases called
  | ok object =>
    rw [callee, shown] at called
    cases object with
    | typeObject contents => exact ⟨contents, rfl⟩
    | function callable => cases called
    | boundMethod receiver callable => cases called
    | _ =>
      dsimp only [bind, Except.bind] at called
      split at called <;> cases called

section Kinded

variable (kinded : space.Kinded roots) (rooted : space.roots = some roots)
include kinded

theorem Kinded.typeFor (kind : Kind) : roots.types.get? kind.typeName = some (roots.typeFor kind) := by
  obtain ⟨type, listed⟩ := kinded.complete kind
  rw [Roots.typeFor, listed, Option.getD_some]

theorem Kinded.grounded : space.Grounded := by
  refine Subrelation.wf (fun {base type} above => ?_) kinded.ancestors
  unfold Space.bases at above
  split at above
  · rename_i contents found
    exact ⟨contents, found, above⟩
  · cases above

theorem Kinded.exists_ancestor {type base : Handle} {contents : TypeObject}
    (found : space.heap.get? type = some (.typeObject contents)) (derives : space.Derives type base) :
    ∃ parent, space.heap.get? base = some (.typeObject parent) := by
  induction derives with
  | refl => exact ⟨contents, found⟩
  | tail _ above ih =>
    obtain ⟨child, there⟩ := ih
    rw [Space.bases, there] at above
    obtain ⟨parent, here, -⟩ := kinded.bases _ child there _ above
    exact ⟨parent, here⟩

include rooted

theorem Kinded.exists_typeOf {handle : Handle} {object : Object β} (found : space.heap.get? handle = some object) :
    ∃ type contents, space.typeOf handle = .ok type ∧ space.heap.get? type = some (.typeObject contents) := by
  obtain ⟨other, same, known⟩ := typeOf_of_started (by simp [rooted]) found
  obtain rfl : roots = other := Option.some.inj (rooted.symm.trans same)
  have builtin (kind : Kind) : ∃ contents, space.heap.get? (roots.typeFor kind) = some (.typeObject contents) := by
    obtain ⟨_, there, contents, rfl, -, -⟩ := kinded.rooted.types _ _ (kinded.typeFor kind)
    exact ⟨contents, there⟩
  cases object with
  | object contents =>
    obtain ⟨type, there⟩ := kinded.types handle contents found
    exact ⟨_, type, known, there⟩
  | _ =>
    obtain ⟨contents, there⟩ := builtin _
    exact ⟨_, contents, known, there⟩

theorem Kinded.definite : space.Definite roots := by
  have grounded := kinded.grounded
  constructor
  case kinds => exact kinded.typeFor
  case typeNames =>
    intro handle object found
    obtain ⟨type, contents, known, there⟩ := kinded.exists_typeOf rooted found
    have named := typeName_eq_of_rooted rooted there
    refine ⟨type, contents, known, there, named, ?_⟩
    rw [typeNameOf, known]
    exact named
  case methods =>
    intro handle receiver callable found
    obtain ⟨function, runs⟩ := kinded.functions handle receiver callable found
    refine ⟨function, runs, ?_, ?_, format_boundMethod rooted found runs⟩
    · rw [callee, object_eq_of_rooted rooted found]
      rfl
    · rw [callee, object_eq_of_rooted rooted runs]
      rfl
  case constructions =>
    intro type called
    obtain ⟨contents, shown⟩ := typeObject_of_callee called
    have found := (object_eq_ok.mp shown).2
    refine ⟨contents, found, typeName_eq_of_rooted rooted found, ?_⟩
    rw [construction, shown]
    dsimp only [bind, Except.bind]
    split_ifs <;> intro refused <;> cases refused
  case orders =>
    refine ⟨grounded, fun type contents found => ⟨linearization_eq grounded type, fun base listed => ?_⟩⟩
    exact kinded.exists_ancestor found ((mem_linearization_iff grounded).mp listed)

end Kinded

end ObjectBridge.Guest.Space

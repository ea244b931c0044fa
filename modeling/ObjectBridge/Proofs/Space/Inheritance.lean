import Mathlib.Data.List.Infix
import ObjectBridge.Guest.Attributes
import ObjectBridge.Proofs.Space.Exact

/-!
Inheritance. A type that has one base defines what the base does, but for the names that it defines itself.
What is defined under a name is an attribute of the type, and a method of its instances if it is a function.
-/

namespace ObjectBridge.Guest.Space

variable {β : Type} {space : Space β} {name : String} {value : Handle}

/-- The value is what is defined under the name so many steps up from the type: by the type itself, or by its
one base if the type does not define the name. -/
inductive Inherits (space : Space β) (name : String) (value : Handle) : Nat → Handle → Prop
  | own {type} (defined : (space.members type).get? name = some value) : Inherits space name value 0 type
  | derived {steps type base} (plain : (space.members type).get? name = none) (bases : space.bases type = [base])
      (inherits : Inherits space name value steps base) : Inherits space name value (steps + 1) type

theorem Inherits.steps_unique {steps steps' : Nat} {type : Handle} (inherits : space.Inherits name value steps type)
    (inherits' : space.Inherits name value steps' type) : steps = steps' := by
  induction inherits generalizing steps' with
  | own defined =>
    cases inherits' with
    | own => rfl
    | derived plain => simp [plain] at defined
  | derived plain bases _ ih =>
    cases inherits' with
    | own defined => simp [plain] at defined
    | derived _ bases' inherits' =>
      obtain rfl : _ = _ := List.singleton_inj.mp (bases.symm.trans bases')
      rw [ih inherits']

theorem prefix_linearizeFrom (space : Space β) (order pending : List Handle) :
    order <+: space.linearizeFrom order pending := by
  fun_induction linearizeFrom space order pending with
  | case1 order => exact List.prefix_rfl
  | case2 order type pending listed ih => exact ih
  | case3 order type pending fresh ih => exact (List.prefix_append order [type]).trans ih

theorem Inherits.findSome?_linearizeFrom {steps : Nat} {type : Handle} (inherits : space.Inherits name value steps type)
    {order : List Handle} (plain : ∀ other ∈ order, (space.members other).get? name = none)
    (above : ∀ other ∈ order, ∀ steps', space.Inherits name value steps' other → steps < steps')
    (pending : List Handle) :
    (space.linearizeFrom order (type :: pending)).findSome? (fun type => (space.members type).get? name) = some value := by
  induction inherits generalizing order pending with
  | @own type defined =>
    have fresh : type ∉ order := fun listed => absurd (above type listed 0 (.own defined)) (by omega)
    obtain ⟨rest, same⟩ := space.prefix_linearizeFrom (order ++ [type]) (space.bases type ++ pending)
    have none : order.findSome? (fun type => (space.members type).get? name) = none :=
      List.findSome?_eq_none_iff.mpr plain
    rw [linearizeFrom, if_neg fresh, ← same, List.append_assoc, List.findSome?_append, none, Option.none_or,
      List.singleton_append, List.findSome?_cons, defined]
  | @derived steps type base lacks bases inherits ih =>
    have own := Inherits.derived lacks bases inherits
    have fresh : type ∉ order := fun listed => absurd (above type listed _ own) (by omega)
    rw [linearizeFrom, if_neg fresh, bases, List.singleton_append]
    -- The base is fewer steps away than all that come before it.
    refine ih (fun other listed => ?_) (fun other listed steps' inherits' => ?_) pending
    · rcases List.mem_append.mp listed with earlier | last
      · exact plain other earlier
      · rw [List.mem_singleton.mp last, lacks]
    · rcases List.mem_append.mp listed with earlier | last
      · exact Nat.lt_of_succ_lt (above other earlier steps' inherits')
      · obtain rfl := List.mem_singleton.mp last
        rw [← own.steps_unique inherits']
        exact Nat.lt_succ_self steps

theorem Inherits.lookup_eq {steps : Nat} {type : Handle} (inherits : space.Inherits name value steps type) :
    space.lookup type name = some value :=
  inherits.findSome?_linearizeFrom (by simp) (by simp) []

theorem findAttribute_type {steps : Nat} {type : Handle} {contents : TypeObject}
    (found : space.object type = .ok (.typeObject contents)) (inherits : space.Inherits name value steps type) :
    space.findAttribute type name = .ok (.plain value) := by
  simp [findAttribute, ownAttribute, found, inherits.lookup_eq, bind, Except.bind, pure, Except.pure]

end ObjectBridge.Guest.Space

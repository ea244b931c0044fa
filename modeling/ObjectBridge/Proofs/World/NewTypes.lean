import ObjectBridge.Proofs.Space.NewTypes
import ObjectBridge.Proofs.World.Listing

/-!
New types in worlds that are come to. A type that may be asked for is made, and any other request changes nothing.
-/

namespace ObjectBridge

open Act
open Guest (Handle Trait)

namespace World

/-- The world is come to from the empty one, and its types are what they were made. -/
structure Attained (world : World) (held : Multiset Ref) : Prop extends Reached world held where
  holds : ∀ trait : Trait Code, world.Holds trait

variable {world : World} {held : Multiset Ref}

theorem Attained.run {ε α : Type} {act : Act ε α} {borrowed : List Ref} {owned frame : Multiset Ref}
    {answer : α → Multiset Ref} (attained : world.Attained (owned + frame))
    (balanced : Act.Balanced .lasting borrowed owned act answer)
    (keeps : ∀ trait : Trait Code, Act.Respects (KeepsTrait trait) act) (lent : ∀ ref ∈ borrowed, ref ∈ frame) :
    (act.run world).2.Attained (left answer (act.run world).1 + frame) where
  toReached := attained.toReached.run balanced (keeps .named) lent
  holds trait := keeps trait world (attained.holds trait)

end World

namespace Console

theorem attained_after (depth : Nat) (commands : List Command) :
    (after (.ofDepth depth) commands .empty).Attained 0 where
  toReached := reached_after depth commands
  holds trait := by
    have keeps : (Engine.ofDepth depth).Respects (World.KeepsTrait trait) := Engine.respects_ofDepth depth
    exact covers_after keeps commands .empty World.holds_empty

end Console

namespace World

variable {world : World} {held : Multiset Ref} {id : SpaceId} {roots : Guest.Roots}

/-- All that can be wrong with a new type is found before anything is changed, and then nothing is. A type of values
that are there, as all are that are referred to, is made if it may be asked for, and only then: the label and the type
are new, each base and each value has as many more references as it is listed, and all else is as it was. -/
theorem newType_all_or_nothing (attained : world.Attained held) (rooted : (world.space id).roots = some roots)
    (name : String) (bases : List Handle) (members : List (String × Handle))
    (live : ∀ member ∈ members, (world.space id).Has member.2) :
    let space := world.space id
    let ran := (ownedBy id (Guest.Space.newType name bases members)).run world
    let parents := if bases = [] then [roots.object] else bases
    (ran = match space.checkType name bases members with
      | .ok parents =>
        let (type, after) := space.addType name parents members
        (.ok { space := id, handle := type }, world.setSpace id after)
      | .error exception => (.error exception, world)) ∧
    ((∃ ref, ran.1 = .ok ref) ↔ space.Acceptable name bases members) ∧
    (∀ exception, ran.1 = .error exception → ran.2 = world) ∧
    ∀ ref, ran.1 = .ok ref → ref.space = id ∧ ∃ label after, ran.2 = world.setSpace id after ∧
      space.AddsType name parents members ref.handle label after := by
  intro space ran parents
  have started : space.roots.isSome := by simp [space, rooted]
  have phases : ran = match space.checkType name bases members with
      | .ok parents =>
        let (type, after) := space.addType name parents members
        (.ok { space := id, handle := type }, world.setSpace id after)
      | .error exception => (.error exception, world) := by
    unfold ran
    rw [run_ownedBy, Guest.Space.run_newType_eq]
    cases (world.space id).checkType name bases members <;> rfl
  have made (ref : Ref) (answered : ran.1 = .ok ref) : ∃ after, ref.space = id ∧ ran.2 = world.setSpace id after ∧
      (Guest.Space.newType name bases members).run space = .ok (ref.handle, after) := by
    obtain ⟨after, done, home, same⟩ := run_ownedBy_eq_ok.mp (Prod.ext answered rfl : ran = (.ok ref, ran.2))
    exact ⟨after, home, same, done⟩
  refine ⟨phases, ?_, ?_, ?_⟩
  · rw [← Guest.Space.newType_isOk_iff (attained.path started) (attained.holds .titled id) started live]
    constructor
    · rintro ⟨ref, answered⟩
      obtain ⟨after, -, -, done⟩ := made ref answered
      exact ⟨_, done⟩
    · rintro ⟨⟨type, after⟩, done⟩
      have answered : ran = (.ok { space := id, handle := type }, world.setSpace id after) :=
        run_ownedBy_eq_ok.mpr ⟨after, done, rfl, rfl⟩
      exact ⟨{ space := id, handle := type }, by rw [answered]⟩
  · intro exception failed
    rw [phases] at failed ⊢
    cases checked : space.checkType name bases members with
    | ok parents => simp [checked] at failed
    | error other => rfl
  · intro ref answered
    obtain ⟨after, home, same, done⟩ := made ref answered
    have sound := ((attained.exact.spaces id).started started).sound
    obtain ⟨label, adds⟩ := Guest.Space.addsType_of_newType sound rooted done
    exact ⟨home, label, after, same, adds⟩

/-- A type that derives from `object` twice and has one value under two names. -/
theorem newType_all_or_nothing_point :
    let start : Console.Command := { action := .guest .start, place := none, host := "", result := none, keyed := false }
    let world := Console.after (.ofDepth 1) [start] .empty
    let id : SpaceId := { index := 0 }
    ∃ roots ref label after, (world.space id).roots = some roots ∧
      (ownedBy id (Guest.Space.newType "Point" [roots.object, roots.object]
        [("x", roots.noneValue), ("y", roots.noneValue)])).run world = (.ok ref, world.setSpace id after) ∧
      (world.space id).AddsType "Point" [roots.object, roots.object] [("x", roots.noneValue), ("y", roots.noneValue)]
        ref.handle label after := by
  intro start world id
  have attained : world.Attained 0 := Console.attained_after 1 [start]
  have started : (world.space id).roots.any fun roots => ((world.space id).heap.get? roots.noneValue).isSome := by
    decide +kernel
  have identifiers : ∀ name ∈ ["Point", "x", "y"], Text.isIdentifier name = true ∧ name ∉ Guest.reservedNames := by
    decide +kernel
  clear_value world
  cases rooted : (world.space id).roots with
  | none => simp [rooted] at started
  | some roots =>
    have live : ((world.space id).heap.get? roots.noneValue).isSome := by simpa [rooted] using started
    have has : ∀ member ∈ [("x", roots.noneValue), ("y", roots.noneValue)], (world.space id).Has member.2 := by
      simpa [Guest.Space.Has] using Option.isSome_iff_exists.mp live
    obtain ⟨-, accepts, -, adds⟩ :=
      newType_all_or_nothing attained rooted "Point" [roots.object, roots.object] _ has
    obtain ⟨contents, found, -, -⟩ := (attained.path (by simp [rooted])).first rooted
    have acceptable : (world.space id).Acceptable "Point" [roots.object, roots.object]
        [("x", roots.noneValue), ("y", roots.noneValue)] := by
      constructor
      case name => exact (identifiers "Point" (by simp)).1
      case keys => exact fun key listed => identifiers key (by simp at listed ⊢; tauto)
      case once => simp
      case bases =>
        intro base listed
        obtain rfl : base = roots.object := by simpa using listed
        exact ⟨contents, found, Or.inl (by simp [rooted])⟩
    obtain ⟨ref, answered⟩ := accepts.mpr acceptable
    obtain ⟨-, label, after, same, added⟩ := adds ref answered
    exact ⟨roots, ref, label, after, rfl, Prod.ext answered same, added⟩

end World

end ObjectBridge

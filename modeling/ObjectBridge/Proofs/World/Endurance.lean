import ObjectBridge.Proofs.Space.Constituents
import ObjectBridge.Proofs.Tracing.Opening
import ObjectBridge.Proofs.World.RoundTrip

/-!
What lasts in a world. What is held is made up of the same objects whatever is done meanwhile, and so is what is left
when references are given back. If such an object is plain it has the same form all the time, and if it is the Guest
form of a value it remains that.
-/

namespace ObjectBridge

open Guest (Handle)

namespace World

variable {world before after last : World} {owned owned' frame : Multiset Ref} {ref : Ref}

def Endures (before after : World) (ref : Ref) : Prop :=
  (before.space ref.space).Endures (after.space ref.space) ref.handle

theorem Endures.trans (one : before.Endures after ref) (two : after.Endures last ref) : before.Endures last ref :=
  Guest.Space.Endures.trans one two

theorem Endures.child {object : Guest.Object Code} {child : Handle} (endures : before.Endures after ref)
    (found : before.get? ref = some object) (listed : child ∈ object.constituents) :
    before.Endures after { ref with handle := child } :=
  Guest.Space.Endures.constituent endures found listed

theorem Leads.endures (leads : Leads .lasting (before, owned) (after, owned')) (exact : before.Exact (owned + frame))
    (held : ref ∈ frame) (started : (after.space ref.space).roots.isSome) : before.Endures after ref := by
  have known : before.Knows frame := (knows_add.mp (knows_add.mp exact.known).1).2
  have here := known ref held
  have path := leads.paths ref.space (here.trans_le leads.size)
  rw [origin, if_pos here] at path
  have whole := exact.spaces ref.space
  rw [add_right_comm, heldIn_add] at whole
  exact Guest.Space.Path.endures path whole (mem_heldIn held) started

theorem Exact.endures_releaseAll {refs : List Ref} {object : Guest.Object Code}
    (exact : world.Exact ((refs : Multiset Ref) + frame)) (typed : (world.space ref.space).Typed)
    (found : (world.releaseAll refs).get? ref = some object) : world.Endures (world.releaseAll refs) ref := by
  have framed : world.Exact ((refs : Multiset Ref) + 0 + frame) := by rwa [add_zero]
  have given := leads_releaseAll .temporary framed
  have closed := ((given.exact framed).spaces ref.space).closed (given.typed typed)
  have fewer (handle : Handle) (object : Guest.Object Code)
      (found : (world.releaseAll refs).get? { ref with handle } = some object) :
        world.get? { ref with handle } = some object :=
    get?_of_releaseAll found
  exact closed.endures_of_fewer fewer ⟨object, found⟩

end World

namespace Bridge

open World

theorem mirrors_iff_of_endures {space space' : Space} {handle : Handle} {value : HostValue}
    (endures : space.Endures space' handle) : Mirrors space' handle value ↔ Mirrors space handle value := by
  constructor
  · intro mirrors
    induction mirrors with
    | nil found => exact .nil (endures.get?_of_fixed found nofun)
    | text found => exact .text (endures.get?_of_fixed found nofun)
    | array found length _ ih =>
      have earlier := endures.get?_of_fixed found nofun
      refine .array earlier length fun index item handle here there => ?_
      exact ih index item handle here there (endures.constituent earlier (List.mem_of_getElem? there))
  · intro mirrors
    induction mirrors with
    | nil found => exact .nil (endures.get?_eq nofun found)
    | text found => exact .text (endures.get?_eq nofun found)
    | array found length _ ih =>
      refine .array (endures.get?_eq nofun found) length fun index item handle here there => ?_
      exact ih index item handle here there (endures.constituent found (List.mem_of_getElem? there))

theorem Denotes.of_endures {before after : World} {session : Session} {handle : Handle} {value : HostValue}
    (denotes : Denotes before session value handle)
    (endures : before.Endures after { space := session.space, handle })
    (roots : (after.space session.space).roots = (before.space session.space).roots)
    (alive : ∀ id, after.aliveSession? id = before.aliveSession? id) : Denotes after session value handle := by
  induction denotes with
  | nil constant => exact .nil (by rwa [Guest.Space.builtin?, roots])
  | text found => exact .text (Guest.Space.Endures.get?_eq endures (Guest.Object.fixed_str _) found)
  | array found length _ ih =>
    refine .array (Guest.Space.Endures.get?_eq endures (Guest.Object.fixed_tuple _) found) length fun index item child here there => ?_
    exact ih index item child here there (endures.child found (List.mem_of_getElem? there))
  | proxy carried owner live =>
    obtain ⟨_, object, -, found, -⟩ := Guest.Space.Endures.exists_object endures
    exact .proxy carried (by rwa [alive]) found

end Bridge

end ObjectBridge

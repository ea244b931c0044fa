import ObjectBridge.Proofs.Space.TypedOperations
import ObjectBridge.Proofs.World.References

/-!
Passages and what they keep. Whatever is put together from passages is a passage, and what each of them keeps
is kept by the whole. All that is shown of passages by way of their parts is shown for any such notion of them:
that references are counted is the least that is asked, and that spaces stay well typed comes on top of it.
-/

namespace ObjectBridge

open Guest (Extent)

namespace World

def WellTyped (world : World) : Prop :=
  ∀ id, (world.space id).WellTyped

theorem wellTyped_setSpace {world : World} {id : SpaceId} (typed : world.WellTyped) {space : Space}
    (made : space.WellTyped) : (world.setSpace id space).WellTyped := by
  intro other
  by_cases known : id.index < world.spaces.size
  · rw [space_setSpace known]
    split
    · exact made
    · exact typed other
  · rw [setSpace_of_unknown known]
    exact typed other

def KeepsTyping (before after : World × Multiset Ref) : Prop :=
  ∀ frame, before.1.Exact (before.2 + frame) → after.1.Exact (after.2 + frame) → before.1.WellTyped →
    after.1.WellTyped

/-- What is shown of passages. They count references; what else they do has to be so of two passages one after the
other, and has nothing to do with references that they do not touch. -/
class Passing where
  Passes : Extent → World × Multiset Ref → World × Multiset Ref → Prop
  leads {extent : Extent} {before after : World × Multiset Ref} : Passes extent before after → Leads extent before after
  of_leads {extent : Extent} {before after : World × Multiset Ref} : Leads extent before after →
    KeepsTyping before after → Passes extent before after
  trans {extent : Extent} {first second third : World × Multiset Ref} : Passes extent first second →
    Passes extent second third → Passes extent first third
  frame {extent : Extent} {before after : World × Multiset Ref} {frame : Multiset Ref} : Passes extent before after →
    before.1.Knows frame → Passes extent (before.1, before.2 + frame) (after.1, after.2 + frame)
  lasting {extent : Extent} {before after : World × Multiset Ref} : Passes extent before after →
    before.1.Knows before.1.outside → Passes .lasting before after

instance Passing.counting : Passing where
  Passes := Leads
  leads := id
  of_leads leads _ := leads
  trans := .trans
  frame leads known := leads.frame known
  lasting leads known := leads.lasting known

abbrev Passing.typing : Passing where
  Passes extent before after := Leads extent before after ∧ KeepsTyping before after
  leads passes := passes.1
  of_leads leads keeps := ⟨leads, keeps⟩
  trans one two := by
    refine ⟨one.1.trans two.1, fun frame exact exactThen typed => ?_⟩
    have between := one.1.exact exact
    exact two.2 frame between exactThen (one.2 frame exact between typed)
  frame passes known := by
    refine ⟨passes.1.frame known, fun frame exact exactThen => ?_⟩
    rw [add_assoc] at exact exactThen
    exact passes.2 _ exact exactThen
  lasting passes known := ⟨passes.1.lasting known, passes.2⟩

def OnlyLoses (before after : World) : Prop :=
  ∀ id, (before.space id).OnlyLoses (after.space id)

section OnlyLoses

variable {first second third before after world : World} {id : SpaceId}

theorem OnlyLoses.refl (world : World) : world.OnlyLoses world :=
  fun _ => .refl _

theorem OnlyLoses.trans (one : first.OnlyLoses second) (two : second.OnlyLoses third) : first.OnlyLoses third :=
  fun id => (one id).trans (two id)

theorem OnlyLoses.of_spaces (same : after.spaces = before.spaces) : before.OnlyLoses after := by
  intro id
  rw [space, space, same]
  exact .refl _

theorem onlyLoses_setSpace {space : Space} (loses : (world.space id).OnlyLoses space) :
    world.OnlyLoses (world.setSpace id space) := by
  intro other
  by_cases known : id.index < world.spaces.size
  · rw [space_setSpace known]
    split
    · rename_i same
      exact same ▸ loses
    · exact .refl _
  · rw [setSpace_of_unknown known]
    exact .refl _

theorem onlyLoses_updateSpace {change : Space → Space} (loses : ∀ space : Space, space.OnlyLoses (change space)) :
    world.OnlyLoses (world.updateSpace id change) := by
  rw [updateSpace_eq_setSpace]
  exact onlyLoses_setSpace (loses _)

theorem onlyLoses_retain (world : World) (ref : Ref) : world.OnlyLoses (world.retain ref) :=
  onlyLoses_updateSpace fun space => space.onlyLoses_retain ref.handle

theorem onlyLoses_release (world : World) (ref : Ref) : world.OnlyLoses (world.release ref) :=
  onlyLoses_updateSpace fun space => space.onlyLoses_release ref.handle

theorem onlyLoses_retainAll (world : World) (refs : List Ref) : world.OnlyLoses (world.retainAll refs) := by
  unfold retainAll
  induction refs generalizing world with
  | nil => exact .refl world
  | cons ref rest ih => exact (world.onlyLoses_retain ref).trans (ih (world.retain ref))

theorem onlyLoses_releaseAll (world : World) (refs : List Ref) : world.OnlyLoses (world.releaseAll refs) := by
  unfold releaseAll
  induction refs generalizing world with
  | nil => exact .refl world
  | cons ref rest ih => exact (world.onlyLoses_release ref).trans (ih (world.release ref))

end OnlyLoses

section Passes

variable [Passing] {extent : Extent} {world before after : World} {loose loose' frame : Multiset Ref} {id : SpaceId}

open Passing (Passes)

theorem Leads.passes (leads : Leads extent (before, loose) (after, loose')) (loses : before.OnlyLoses after) :
    Passes extent (before, loose) (after, loose') :=
  Passing.of_leads leads fun _ _ exact typed id => (typed id).of_onlyLoses (exact.spaces id) (loses id)

theorem passes_refl (world : World) (loose : Multiset Ref) : Passes extent (world, loose) (world, loose) :=
  (Leads.refl world loose).passes (.refl world)

theorem passes_trace (world : World) (loose : Multiset Ref) (trace : Array String) :
    Passes extent (world, loose) ({ world with trace }, loose) :=
  (leads_trace world loose trace).passes (.of_spaces rfl)

theorem passes_retain (extent : Extent) {ref : Ref} (exact : world.Exact (loose + frame)) (live : world.Live ref) :
    Passes extent (world, loose) (world.retain ref, ref ::ₘ loose) :=
  (leads_retain extent exact live).passes (world.onlyLoses_retain ref)

theorem passes_release (extent : Extent) {ref : Ref} (exact : world.Exact (ref ::ₘ loose + frame)) :
    Passes extent (world, ref ::ₘ loose) (world.release ref, loose) :=
  (leads_release extent exact).passes (world.onlyLoses_release ref)

theorem passes_retainAll (extent : Extent) {refs : List Ref} (exact : world.Exact (loose + frame))
    (live : ∀ ref ∈ refs, world.Live ref) :
    Passes extent (world, loose) (world.retainAll refs, (refs : Multiset Ref) + loose) :=
  (leads_retainAll extent exact live).passes (world.onlyLoses_retainAll refs)

theorem passes_releaseAll (extent : Extent) {refs : List Ref} (exact : world.Exact ((refs : Multiset Ref) + loose + frame)) :
    Passes extent (world, (refs : Multiset Ref) + loose) (world.releaseAll refs, loose) :=
  (leads_releaseAll extent exact).passes (world.onlyLoses_releaseAll refs)

end Passes

end World

end ObjectBridge

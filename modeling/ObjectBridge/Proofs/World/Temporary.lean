import ObjectBridge.Proofs.Space.Extension
import ObjectBridge.Proofs.World.Acts

/-!
Temporary passages. They leave every object that someone else can still reach as it is; if nothing is
loose before or after them, they leave the world as it was.
-/

namespace ObjectBridge

open Guest (Extent Handle)

namespace World

def get? (world : World) (ref : Ref) : Option (Guest.Object Code) :=
  (world.space ref.space).heap.get? ref.handle

def cell? (world : World) (ref : Ref) : Option (Guest.Cell (Guest.Object Code)) :=
  (world.space ref.space).heap.cell? ref.handle

/-- The later world differs from the earlier one by more objects, and by what is written to the trace. -/
structure Extends (before after : World) : Prop where
  spaces : ∀ id, (before.space id).Extends (after.space id)
  rest : ∃ spaces trace, after = { before with spaces, trace }

theorem Extends.refl (world : World) : Extends world world :=
  ⟨fun _ => .refl _, world.spaces, world.trace, rfl⟩

theorem Extends.trans {first second third : World} (one : Extends first second) (two : Extends second third) :
    Extends first third := by
  obtain ⟨_, _, same⟩ := one.rest
  obtain ⟨spaces, trace, same'⟩ := two.rest
  exact ⟨fun id => (one.spaces id).trans (two.spaces id), spaces, trace, by rw [same', same]⟩

theorem Extends.get? {before after : World} (grown : Extends before after) {ref : Ref} {object : Guest.Object Code}
    (found : before.get? ref = some object) : after.get? ref = some object :=
  (grown.spaces ref.space).objects ref.handle object found

theorem Extends.get?_eq_none {before after : World} (grown : Extends before after) {ref : Ref}
    (unknown : after.get? ref = none) : before.get? ref = none := by
  cases known : before.get? ref with
  | none => rfl
  | some object => exact (grown.get? known).symm.trans unknown

theorem Extends.sessions {before after : World} (grown : Extends before after) :
    after.sessions = before.sessions := by
  obtain ⟨_, _, same⟩ := grown.rest
  rw [same]

theorem Extends.hosts {before after : World} (grown : Extends before after) : after.hosts = before.hosts := by
  obtain ⟨_, _, same⟩ := grown.rest
  rw [same]

def SameObjects (before after : World) : Prop :=
  ∀ id handle, (after.space id).heap.cell? handle = (before.space id).heap.cell? handle

def Anchored (world : World) (frame : Multiset Ref) (ref : Ref) : Prop :=
  Guest.Heap.Anchored ((world.space ref.space).heap.Refers Guest.Object.children)
    (heldIn ref.space (frame + world.outside) + (world.space ref.space).own) ref.handle

section Anchored

variable {world : World} {frame : Multiset Ref} {ref : Ref}

theorem anchored_of_mem (listed : ref ∈ frame + world.outside) : world.Anchored frame ref :=
  ⟨ref.handle, Or.inl (Multiset.mem_add.mpr (Or.inl (mem_heldIn listed))), .refl⟩

theorem Anchored.child {object : Guest.Object Code} {child : Handle} (anchored : world.Anchored frame ref)
    (found : world.get? ref = some object) (member : child ∈ object.children) :
    world.Anchored frame { ref with handle := child } :=
  Guest.Heap.Anchored.tail anchored ⟨object, found, member⟩

end Anchored

section Leads

variable {before after : World} {owned owned' frame : Multiset Ref}

theorem Leads.path_of_known (leads : Leads .temporary (before, owned) (after, owned')) {id : SpaceId}
    (known : id.index < before.spaces.size) :
    Guest.Space.Path .temporary (before.space id, heldIn id owned) (after.space id, heldIn id owned') := by
  have path := leads.paths id (known.trans_le leads.size)
  simpa only [origin, if_pos known, carried, add_zero] using path

theorem Leads.space_of_unknown (leads : Leads .temporary (before, owned) (after, owned')) {id : SpaceId}
    (unknown : ¬id.index < before.spaces.size) : after.space id = before.space id := by
  rw [World.space_of_unknown unknown, World.space_of_unknown ((leads.rest rfl).1 ▸ unknown)]

theorem Leads.rest_eq (leads : Leads .temporary (before, owned) (after, owned')) :
    ∃ spaces trace, after = { before with spaces, trace } :=
  ⟨after.spaces, after.trace, (leads.rest rfl).2⟩

theorem Leads.tables (leads : Leads .temporary (before, owned) (after, owned')) (id : SpaceId) :
    (after.space id).roots = (before.space id).roots ∧ (after.space id).modules = (before.space id).modules ∧
      (after.space id).definitions = (before.space id).definitions := by
  by_cases known : id.index < before.spaces.size
  · exact Guest.Space.Path.tables (leads.path_of_known known)
  · rw [leads.space_of_unknown known]
    exact ⟨rfl, rfl, rfl⟩

theorem Leads.roots_eq (leads : Leads .temporary (before, owned) (after, owned')) (id : SpaceId) :
    (after.space id).roots = (before.space id).roots :=
  (leads.tables id).1

theorem Leads.unchanged (leads : Leads .temporary (before, owned) (after, owned'))
    (exact : before.Exact (owned + frame)) {ref : Ref} {object : Guest.Object Code}
    (anchored : before.Anchored frame ref) (found : before.get? ref = some object) :
    after.get? ref = some object := by
  by_cases known : ref.space.index < before.spaces.size
  · have here := exact.spaces ref.space
    rw [add_assoc, heldIn_add] at here
    exact Guest.Space.Path.unchanged (leads.path_of_known known) here anchored found
  · unfold get? at found ⊢
    rwa [leads.space_of_unknown known]

theorem Leads.extends (leads : Leads .temporary (before, 0) (after, owned')) (exact : before.Exact frame) :
    before.Extends after := by
  refine ⟨fun id => ?_, leads.rest_eq⟩
  by_cases known : id.index < before.spaces.size
  · exact Guest.Space.Path.extends (leads.path_of_known known) (exact.spaces id)
  · rw [leads.space_of_unknown known]
    exact .refl _

theorem Leads.restored (leads : Leads .temporary (before, 0) (after, 0)) (exact : before.Exact frame) :
    before.SameObjects after := by
  intro id handle
  by_cases known : id.index < before.spaces.size
  · exact Guest.Space.Path.restored (leads.path_of_known known) (exact.spaces id) handle
  · rw [leads.space_of_unknown known]

theorem Leads.cell?_of_old (leads : Leads .temporary (before, 0) (after, owned)) (exact : before.Exact frame)
    (old : ∀ ref ∈ owned, (before.get? ref).isSome) (ref : Ref) :
    after.cell? ref = (before.cell? ref).map fun cell => { cell with count := cell.count + owned.count ref } := by
  unfold cell?
  by_cases known : ref.space.index < before.spaces.size
  · rw [Guest.Space.Path.cell?_of_old (leads.path_of_known known) (exact.spaces ref.space) ?_ ref.handle, count_heldIn]
    intro handle member
    exact Option.isSome_iff_exists.mp (old _ (mem_of_mem_heldIn ref.space member))
  · rw [leads.space_of_unknown known, World.space_of_unknown known]
    rfl

theorem Leads.cell?_of_new {ref : Ref} {object : Guest.Object Code}
    (leads : Leads .temporary (before, 0) (after, {ref})) (exact : before.Exact frame)
    (new : before.get? ref = none) (shown : after.get? ref = some object)
    (old : ∀ child ∈ object.children, (before.get? { ref with handle := child }).isSome) :
    after.cell? ref = some { count := 1, object } ∧ ∀ other, other ≠ ref →
      after.cell? other = (before.cell? other).map fun cell => { cell with
        count := cell.count + (object.children.map fun handle => { ref with handle }).count other } := by
  have known : ref.space.index < before.spaces.size := by
    by_contra unknown
    rw [get?, leads.space_of_unknown unknown] at shown
    exact absurd (new.symm.trans shown) (by simp)
  have path := leads.path_of_known known
  rw [← Multiset.cons_zero, heldIn_cons, if_pos rfl, heldIn_zero, Multiset.cons_zero] at path
  obtain ⟨made, others⟩ := path.cell?_of_new (exact.spaces ref.space) new shown fun child member =>
    Option.isSome_iff_exists.mp (old child member)
  refine ⟨made, fun other different => ?_⟩
  unfold cell?
  by_cases here : other.space = ref.space
  · obtain ⟨id, handle⟩ := other
    obtain rfl : id = ref.space := here
    have apart : handle ≠ ref.handle := by
      rintro rfl
      exact different rfl
    have counted : (object.children.map fun handle => { ref with handle }).count { space := ref.space, handle } =
        object.children.count handle :=
      List.count_map_of_injective _ (fun handle => ({ ref with handle } : Ref))
        (fun _ _ same => congrArg Ref.handle same) handle
    rw [counted]
    exact others handle apart
  · have elsewhere : other ∉ object.children.map fun handle => { ref with handle } := by
      intro listed
      obtain ⟨handle, -, rfl⟩ := List.mem_map.mp listed
      exact here rfl
    rw [List.count_eq_zero.mpr elsewhere]
    have same : (after.space other.space).heap.cell? other.handle = (before.space other.space).heap.cell? other.handle := by
      by_cases known : other.space.index < before.spaces.size
      · have path := leads.path_of_known known
        rw [← Multiset.cons_zero, heldIn_cons, if_neg (Ne.symm here), heldIn_zero] at path
        exact path.restored (exact.spaces other.space) other.handle
      · rw [leads.space_of_unknown known]
    rw [same]
    cases (before.space other.space).heap.cell? other.handle <;> rfl

theorem Leads.beside {extent : Extent} {held : Multiset Ref} (leads : Leads extent (before, owned) (after, owned'))
    (exact : before.Exact (owned + (held + frame))) :
    Leads extent (before, owned + held) (after, owned' + held) :=
  leads.frame (knows_add.mp (knows_add.mp (knows_add.mp exact.known).1).2).1

theorem Leads.follow {extent : Extent} {between : World} {more : Multiset Ref}
    (leads : Leads extent (before, 0) (between, owned)) (exact : before.Exact frame)
    (later : Leads extent (between, 0) (after, more)) : Leads extent (before, 0) (after, more + owned) := by
  have exactThen : between.Exact (owned + frame) := leads.exact (by rwa [zero_add])
  have framed := later.frame (World.knows_add.mp (World.knows_add.mp exactThen.known).1).1
  rw [zero_add] at framed
  exact leads.trans framed

theorem Leads.giveBack {extent : Extent} {between : World} (refs : List Ref)
    (leads : Leads extent (before, 0) (between, (refs : Multiset Ref) + owned)) (exact : before.Exact frame) :
    Leads extent (before, 0) (between.releaseAll refs, owned) := by
  have exactThen : between.Exact ((refs : Multiset Ref) + owned + frame) := leads.exact (by rwa [zero_add])
  exact leads.trans (leads_releaseAll extent exactThen)

end Leads

end World

end ObjectBridge

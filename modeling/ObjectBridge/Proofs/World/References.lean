import ObjectBridge.Proofs.Space.Start
import ObjectBridge.Proofs.World.Lineage

/-!
Reference accounting of the world. References to objects of a space are held by registers and by
sessions, some have been forgotten, and others are loose: they are in the hands of what runs at the
moment. A world is exact if every space is, with all of these as what is held from outside.

What a piece of code does is seen as a passage from one world with loose references to another. A
temporary passage touches nothing but the counts of objects, and the objects that it makes itself.
-/

namespace ObjectBridge

open Guest (Extent Handle)

def Register.ref? : Register → Option Ref
  | .value ref => some ref
  | _ => none

def SessionState.ref? (state : SessionState) : Option Ref :=
  state.module?.map fun handle => { space := state.session.space, handle }

def heldIn (id : SpaceId) (refs : Multiset Ref) : Multiset Handle :=
  (refs.filter (·.space = id)).map (·.handle)

section HeldIn

variable (id : SpaceId)

@[simp] theorem heldIn_zero : heldIn id 0 = 0 :=
  rfl

@[simp] theorem heldIn_add (first second : Multiset Ref) :
    heldIn id (first + second) = heldIn id first + heldIn id second := by
  simp [heldIn]

theorem heldIn_cons (ref : Ref) (refs : Multiset Ref) :
    heldIn id (ref ::ₘ refs) = if ref.space = id then ref.handle ::ₘ heldIn id refs else heldIn id refs := by
  by_cases here : ref.space = id <;> simp [heldIn, here]

theorem heldIn_map (handles : Multiset Handle) : heldIn id (handles.map (Ref.mk id)) = handles := by
  simp [heldIn, Multiset.filter_map]

theorem heldIn_map_of_ne {id other : SpaceId} (different : id ≠ other) (handles : Multiset Handle) :
    heldIn other (handles.map (Ref.mk id)) = 0 := by
  simp [heldIn, Multiset.filter_map, different]

theorem count_heldIn (refs : Multiset Ref) (handle : Handle) :
    (heldIn id refs).count handle = refs.count { space := id, handle } := by
  induction refs using Multiset.induction with
  | empty => simp
  | cons ref refs ih =>
    rw [heldIn_cons, Multiset.count_cons, ← ih]
    by_cases here : ref.space = id
    · subst here
      rw [if_pos rfl, Multiset.count_cons]
      have same : ({ space := ref.space, handle } : Ref) = ref ↔ handle = ref.handle := by
        constructor
        · intro equal
          exact congrArg Ref.handle equal
        · rintro rfl
          rfl
      simp only [same]
    · have different : ({ space := id, handle } : Ref) ≠ ref := by
        rintro rfl
        exact here rfl
      rw [if_neg here, if_neg different, add_zero]

theorem mem_of_mem_heldIn {refs : Multiset Ref} {handle : Handle} (member : handle ∈ heldIn id refs) :
    { space := id, handle } ∈ refs := by
  obtain ⟨ref, filtered, rfl⟩ := Multiset.mem_map.mp member
  obtain ⟨listed, rfl⟩ := Multiset.mem_filter.mp filtered
  exact listed

theorem mem_heldIn {ref : Ref} {refs : Multiset Ref} (member : ref ∈ refs) :
    ref.handle ∈ heldIn ref.space refs :=
  Multiset.mem_map.mpr ⟨ref, Multiset.mem_filter.mpr ⟨member, rfl⟩, rfl⟩

end HeldIn

namespace World

/-- The references that no code has in its hands: those of registers and sessions, and the forgotten
ones. -/
def outside (world : World) : Multiset Ref :=
  (world.registers.values.filterMap Register.ref? : Multiset Ref) +
    (world.sessions.toList.filterMap SessionState.ref? : Multiset Ref) + (world.forgotten : Multiset Ref)

def Knows (world : World) (refs : Multiset Ref) : Prop :=
  ∀ ref ∈ refs, ref.space.index < world.spaces.size

/-- Every space is exact, and references are to spaces that are there. -/
structure Exact (world : World) (loose : Multiset Ref) : Prop where
  spaces : ∀ id, (world.space id).Exact (heldIn id (loose + world.outside))
  known : world.Knows (loose + world.outside)
  prepared : world.Prepared

def carried (extent : Extent) (world : World) : Multiset Ref :=
  match extent with
  | .temporary => 0
  | .lasting => world.outside

def uncarried (extent : Extent) (world : World) : Multiset Ref :=
  match extent with
  | .temporary => world.outside
  | .lasting => 0

/-- Where the space comes from: from what it is in the world, or from a start that is still to come. -/
def origin (extent : Extent) (world : World) (loose : Multiset Ref) (id : SpaceId) :
    Space × Multiset Handle :=
  if id.index < world.spaces.size then (world.space id, heldIn id (loose + world.carried extent))
  else (.start, 0)

/-- The one world with its loose references comes from the other. -/
structure Leads (extent : Extent) (before after : World × Multiset Ref) : Prop where
  size : before.1.spaces.size ≤ after.1.spaces.size
  known : before.1.Knows (before.2 + before.1.carried extent) → after.1.Knows (after.2 + after.1.carried extent)
  paths : ∀ id : SpaceId, id.index < after.1.spaces.size →
    Guest.Space.Path extent (before.1.origin extent before.2 id)
      (after.1.space id, heldIn id (after.2 + after.1.carried extent))
  steady : Steady before.1 after.1
  rest : extent = .temporary → after.1.spaces.size = before.1.spaces.size ∧
    after.1 = { before.1 with spaces := after.1.spaces, trace := after.1.trace }

variable {extent : Extent}

theorem carried_add_uncarried (extent : Extent) (world : World) :
    world.carried extent + world.uncarried extent = world.outside := by
  cases extent <;> simp [carried, uncarried]

theorem knows_add {world : World} {first second : Multiset Ref} :
    world.Knows (first + second) ↔ world.Knows first ∧ world.Knows second := by
  simp [Knows, or_imp, forall_and]

theorem heldIn_of_unknown {world : World} {refs : Multiset Ref} (known : world.Knows refs) {id : SpaceId}
    (unknown : ¬id.index < world.spaces.size) : heldIn id refs = 0 := by
  simp only [heldIn, Multiset.map_eq_zero, Multiset.filter_eq_nil]
  intro ref member same
  exact unknown (same ▸ known ref member)

theorem space_of_unknown {world : World} {id : SpaceId} (unknown : ¬id.index < world.spaces.size) :
    world.space id = default := by
  simp [space, Array.getElem?_eq_none (Nat.not_lt.mp unknown)]

theorem known_of_started {world : World} {id : SpaceId} (started : (world.space id).roots.isSome) :
    id.index < world.spaces.size := by
  by_contra unknown
  rw [space_of_unknown unknown] at started
  cases started

theorem known_of_get? {world : World} {id : SpaceId} {handle : Handle} {object : Guest.Object Code}
    (found : (world.space id).heap.get? handle = some object) : id.index < world.spaces.size := by
  by_contra unknown
  rw [space_of_unknown unknown] at found
  simp [default, Guest.Heap.get?, Guest.Heap.cell?_empty] at found

theorem exact_default (held : Multiset Handle) : (default : Space).Exact held :=
  ⟨fun started => by simp [default] at started, fun _ => ⟨rfl, rfl⟩⟩

theorem exact_empty : empty.Exact 0 := by
  refine ⟨fun id => ?_, fun ref member => ?_, prepared_empty⟩
  · rw [space_of_unknown (by simp [empty])]
    exact exact_default _
  · simp [outside, empty] at member

theorem Leads.refl (world : World) (loose : Multiset Ref) : Leads extent (world, loose) (world, loose) :=
  { size := Nat.le_refl _
    known := id
    paths := fun id here => by simpa only [origin, if_pos here] using Relation.ReflTransGen.refl
    steady := .refl world
    rest := fun _ => ⟨rfl, rfl⟩ }

theorem Leads.trans {first second third : World × Multiset Ref} (one : Leads extent first second)
    (two : Leads extent second third) : Leads extent first third where
  size := one.size.trans two.size
  known := two.known ∘ one.known
  paths := by
    intro id here
    have later := two.paths id here
    by_cases there : id.index < second.1.spaces.size
    · rw [origin, if_pos there] at later
      exact (one.paths id there).trans later
    · have earlier : ¬id.index < first.1.spaces.size := fun known => there (known.trans_le one.size)
      rw [origin, if_neg there] at later
      rwa [origin, if_neg earlier]
  steady := one.steady.trans two.steady
  rest := by
    intro temporary
    obtain ⟨sizeOne, restOne⟩ := one.rest temporary
    obtain ⟨sizeTwo, restTwo⟩ := two.rest temporary
    refine ⟨sizeTwo.trans sizeOne, ?_⟩
    rw [restTwo, restOne]

theorem Leads.frame {before after : World × Multiset Ref} (leads : Leads extent before after)
    {frame : Multiset Ref} (known : before.1.Knows frame) :
    Leads extent (before.1, before.2 + frame) (after.1, after.2 + frame) := by
  have knownAfter : after.1.Knows frame := fun ref member =>
    Nat.lt_of_lt_of_le (known ref member) leads.size
  refine ⟨leads.size, fun earlier => ?_, fun id here => ?_, leads.steady, leads.rest⟩
  · rw [add_right_comm, knows_add] at earlier ⊢
    exact ⟨leads.known earlier.1, knownAfter⟩
  · have path := leads.paths id here
    unfold origin at path ⊢
    by_cases there : id.index < before.1.spaces.size
    · simp only [if_pos there] at path ⊢
      simpa only [heldIn_add, add_right_comm] using Guest.Space.Path.frame path (heldIn id frame)
    · simp only [if_neg there] at path ⊢
      simpa only [heldIn_add, heldIn_of_unknown known there, add_zero] using path

theorem Leads.uncarried_eq {before after : World × Multiset Ref} (leads : Leads extent before after) :
    after.1.uncarried extent = before.1.uncarried extent := by
  cases extent with
  | temporary =>
    obtain ⟨-, rest⟩ := leads.rest rfl
    rw [rest]
    rfl
  | lasting => rfl

theorem Leads.exact {before after : World × Multiset Ref} (leads : Leads extent before after)
    {frame : Multiset Ref} (exact : before.1.Exact (before.2 + frame)) : after.1.Exact (after.2 + frame) := by
  -- What takes no part in the passage: the frame, and registers and sessions if it is temporary.
  have split : ∀ (world : World) (loose : Multiset Ref), world.uncarried extent = before.1.uncarried extent →
      loose + frame + world.outside =
        loose + world.carried extent + (frame + before.1.uncarried extent) := by
    intro world loose same
    rw [← carried_add_uncarried extent world, same]
    exact add_add_add_comm _ _ _ _
  have splitBefore := split before.1 before.2 rfl
  have splitAfter := split after.1 after.2 leads.uncarried_eq
  have known := exact.known
  rw [splitBefore, knows_add] at known
  refine ⟨fun id => ?_, ?_, leads.steady.prepared exact.prepared⟩
  · rw [splitAfter, heldIn_add]
    by_cases here : id.index < after.1.spaces.size
    · have path := leads.paths id here
      unfold origin at path
      by_cases there : id.index < before.1.spaces.size
      · rw [if_pos there] at path
        have exactBefore := exact.spaces id
        rw [splitBefore, heldIn_add] at exactBefore
        exact Guest.Space.Path.exact path exactBefore
      · rw [if_neg there] at path
        have exactAfter := Guest.Space.Path.exact path (by simpa using Guest.Space.exact_start)
        rwa [heldIn_of_unknown known.2 there]
    · rw [space_of_unknown here]
      exact exact_default _
  · rw [splitAfter, knows_add]
    exact ⟨leads.known known.1, fun ref member => Nat.lt_of_lt_of_le (known.2 ref member) leads.size⟩

theorem Leads.exact_alone {before after : World × Multiset Ref} (leads : Leads extent before after)
    (exact : before.1.Exact before.2) : after.1.Exact after.2 := by
  have framed : before.1.Exact (before.2 + 0) := by rwa [add_zero]
  have led := leads.exact framed
  rwa [add_zero] at led

theorem Leads.typed {before after : World × Multiset Ref} (leads : Leads extent before after) {id : SpaceId}
    (typed : (before.1.space id).Typed) : (after.1.space id).Typed := by
  by_cases known : id.index < after.1.spaces.size
  · have path := leads.paths id known
    unfold origin at path
    split at path
    · exact Guest.Space.Path.typed path typed
    · exact Guest.Space.Path.typed path Guest.Space.exact_start_typed.2
  · rw [space_of_unknown known]
    exact fun roots started => by simp [default] at started

theorem Leads.lasting {before after : World × Multiset Ref} (leads : Leads extent before after)
    (known : before.1.Knows before.1.outside) : Leads .lasting before after := by
  cases extent with
  | lasting => exact leads
  | temporary =>
    have framed := leads.frame known
    have same : after.1.outside = before.1.outside := leads.uncarried_eq
    refine ⟨leads.size, fun earlier => ?_, fun id here => ?_, leads.steady, nofun⟩
    · simpa [carried, same] using framed.known (by simpa [carried] using earlier)
    · have path := Guest.Space.Path.lasting (framed.paths id here)
      simpa [origin, carried, same] using path

@[simp] theorem size_setSpace (world : World) (id : SpaceId) (space : Space) :
    (world.setSpace id space).spaces.size = world.spaces.size := by
  simp [setSpace]

@[simp] theorem outside_setSpace (world : World) (id : SpaceId) (space : Space) :
    (world.setSpace id space).outside = world.outside :=
  rfl

theorem space_setSpace {world : World} {id : SpaceId} (known : id.index < world.spaces.size)
    (space : Space) (other : SpaceId) :
    (world.setSpace id space).space other = if other = id then space else world.space other := by
  by_cases same : other = id
  · subst same
    simp [World.space, setSpace, known]
  · have apart : id.index ≠ other.index := fun equal => same (by cases id; cases other; simp_all)
    simp [World.space, setSpace, same, apart]

theorem setSpace_of_unknown {world : World} {id : SpaceId} (unknown : ¬id.index < world.spaces.size)
    (space : Space) : world.setSpace id space = world := by
  simp [setSpace, Array.setIfInBounds, unknown]

theorem setSpace_setSpace (world : World) (id : SpaceId) (first second : Space) :
    (world.setSpace id first).setSpace id second = world.setSpace id second := by
  unfold setSpace
  congr 1
  refine Array.ext_getElem? fun index => ?_
  simp only [Array.getElem?_setIfInBounds, Array.size_setIfInBounds]
  split <;> rfl

theorem setSpace_self (world : World) (id : SpaceId) : world.setSpace id (world.space id) = world := by
  by_cases known : id.index < world.spaces.size
  · unfold setSpace
    congr 1
    refine Array.ext_getElem? fun index => ?_
    rw [Array.getElem?_setIfInBounds]
    split
    · rename_i same
      subst same
      simp [space, known]
    · rfl
  · exact setSpace_of_unknown known _

theorem leads_setSpace {world : World} {loose loose' : Multiset Ref} {id : SpaceId} {space : Space}
    (known : id.index < world.spaces.size)
    (path : Guest.Space.Path extent (world.space id, heldIn id loose) (space, heldIn id loose'))
    (elsewhere : ∀ other, other ≠ id → heldIn other loose' = heldIn other loose) :
    Leads extent (world, loose) (world.setSpace id space, loose') := by
  have carries : (world.setSpace id space).carried extent = world.carried extent := by
    cases extent <;> rfl
  refine ⟨by simp, fun earlier ref member => ?_, fun other here => ?_, .of_same rfl rfl rfl,
    fun _ => ⟨by simp, rfl⟩⟩
  · rw [carries] at member
    rw [size_setSpace]
    rcases Multiset.mem_add.mp member with loosely | carried
    · by_cases same : ref.space = id
      · rwa [same]
      · have listed := mem_heldIn loosely
        rw [elsewhere _ same] at listed
        exact earlier ref (Multiset.mem_add.mpr (Or.inl (mem_of_mem_heldIn _ listed)))
    · exact earlier ref (Multiset.mem_add.mpr (Or.inr carried))
  · rw [size_setSpace] at here
    rw [carries, space_setSpace known, origin, if_pos here, heldIn_add, heldIn_add]
    by_cases same : other = id
    · subst same
      rw [if_pos rfl]
      exact Guest.Space.Path.frame path _
    · rw [if_neg same, elsewhere other same]

theorem updateSpace_eq_setSpace (world : World) (id : SpaceId) (change : Space → Space) :
    world.updateSpace id change = world.setSpace id (change (world.space id)) := by
  unfold updateSpace setSpace space
  congr 1
  refine Array.ext_getElem? fun index => ?_
  rw [Array.getElem?_modify, Array.getElem?_setIfInBounds]
  by_cases same : id.index = index
  · subst same
    by_cases here : id.index < world.spaces.size
    · simp [here]
    · simp [here]
  · simp [same]

theorem leads_trace (world : World) (loose : Multiset Ref) (trace : Array String) :
    Leads extent (world, loose) ({ world with trace }, loose) := by
  have same : Leads extent (world, loose) (world, loose) := .refl world loose
  cases extent with
  | temporary => exact ⟨same.size, same.known, same.paths, .of_same rfl rfl rfl, fun _ => ⟨rfl, rfl⟩⟩
  | lasting => exact ⟨same.size, same.known, same.paths, .of_same rfl rfl rfl, nofun⟩

theorem Exact.with_trace {world : World} {loose : Multiset Ref} (exact : world.Exact loose) (trace : Array String) :
    World.Exact { world with trace } loose := by
  have leads : Leads .temporary (world, 0) ({ world with trace }, 0) := leads_trace world 0 trace
  have carried : World.Exact { world with trace } (0 + loose) := leads.exact (by rwa [zero_add])
  rwa [zero_add] at carried

theorem leads_updateSpace {world : World} {id : SpaceId} {change : Space → Space}
    (path : Guest.Space.Path extent (world.space id, 0) (change (world.space id), 0)) :
    Leads extent (world, 0) (world.updateSpace id change, 0) := by
  rw [updateSpace_eq_setSpace]
  by_cases known : id.index < world.spaces.size
  · exact leads_setSpace known (by simpa using path) fun other different => rfl
  · rw [setSpace_of_unknown known]
    exact .refl world 0

def Live (world : World) (ref : Ref) : Prop :=
  ref.space.index < world.spaces.size ∧ ((world.space ref.space).roots.isSome →
    ∃ cell, (world.space ref.space).heap.cell? ref.handle = some cell)

theorem Exact.live {world : World} {loose : Multiset Ref} {ref : Ref} (exact : world.Exact loose)
    (listed : ref ∈ loose + world.outside) : world.Live ref :=
  ⟨exact.known ref listed, fun started =>
    Guest.Space.exists_cell_of_held (exact.spaces ref.space) started (mem_heldIn listed)⟩

theorem Exact.live_of_child {world : World} {loose : Multiset Ref} {id : SpaceId} {handle child : Handle}
    {object : Guest.Object Code} (exact : world.Exact loose)
    (found : (world.space id).heap.get? handle = some object) (held : child ∈ object.children) :
    world.Live { space := id, handle := child } := by
  exact ⟨known_of_get? found, fun started => ((exact.spaces id).started started).exists_cell_of_child found held⟩

theorem leads_retain (extent : Extent) {world : World} {loose frame : Multiset Ref} {ref : Ref}
    (exact : world.Exact (loose + frame)) (live : world.Live ref) :
    Leads extent (world, loose) (world.retain ref, ref ::ₘ loose) := by
  rw [retain, updateSpace_eq_setSpace]
  refine leads_setSpace live.1 ?_ fun other different => ?_
  · rw [heldIn_cons, if_pos rfl]
    have here := exact.spaces ref.space
    rw [add_assoc, heldIn_add] at here
    exact Guest.Space.path_retain extent here live.2
  · rw [heldIn_cons, if_neg different.symm]

theorem Live.retain {world : World} {ref other : Ref} (live : world.Live other) :
    (world.retain ref).Live other := by
  rw [World.retain, updateSpace_eq_setSpace]
  refine ⟨by simpa using live.1, fun started => ?_⟩
  by_cases known : ref.space.index < world.spaces.size
  · rw [space_setSpace known] at started ⊢
    by_cases same : other.space = ref.space
    · rw [if_pos same] at started ⊢
      have there := live.2
      rw [same] at there
      exact Guest.Space.exists_cell_retain (there started)
    · rw [if_neg same] at started ⊢
      exact live.2 started
  · rw [setSpace_of_unknown known] at started ⊢
    exact live.2 started

theorem leads_release (extent : Extent) {world : World} {loose frame : Multiset Ref} {ref : Ref}
    (exact : world.Exact (ref ::ₘ loose + frame)) :
    Leads extent (world, ref ::ₘ loose) (world.release ref, loose) := by
  rw [release, updateSpace_eq_setSpace]
  refine leads_setSpace (exact.known ref (by simp)) ?_ fun other different => ?_
  · have here := exact.spaces ref.space
    rw [add_assoc, heldIn_add] at here
    rw [heldIn_cons, if_pos rfl] at here ⊢
    exact Guest.Space.path_release extent here
  · rw [heldIn_cons, if_neg different.symm]

theorem leads_retainAll (extent : Extent) {world : World} {loose frame : Multiset Ref} {refs : List Ref}
    (exact : world.Exact (loose + frame)) (live : ∀ ref ∈ refs, world.Live ref) :
    Leads extent (world, loose) (world.retainAll refs, (refs : Multiset Ref) + loose) := by
  induction refs generalizing world loose with
  | nil => simpa [retainAll] using Leads.refl world loose
  | cons ref rest ih =>
    have first := leads_retain extent exact (live ref List.mem_cons_self)
    have later := ih (first.exact exact) fun other member =>
      (live other (List.mem_cons_of_mem _ member)).retain
    rw [← Multiset.cons_coe, Multiset.cons_add, ← Multiset.add_cons]
    exact first.trans later

theorem leads_releaseAll (extent : Extent) {world : World} {loose frame : Multiset Ref} {refs : List Ref}
    (exact : world.Exact ((refs : Multiset Ref) + loose + frame)) :
    Leads extent (world, (refs : Multiset Ref) + loose) (world.releaseAll refs, loose) := by
  induction refs generalizing world with
  | nil => simpa [releaseAll] using Leads.refl world loose
  | cons ref rest ih =>
    rw [← Multiset.cons_coe, Multiset.cons_add] at exact ⊢
    have first := leads_release extent exact
    exact first.trans (ih (first.exact exact))

end World

end ObjectBridge

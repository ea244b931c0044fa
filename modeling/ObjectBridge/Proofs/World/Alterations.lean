import ObjectBridge.Proofs.World.Results

/-!
Changes in place. When a name is bound in an object, that object has other contents from then on, and all
others are what they were; only then is the reference to an earlier value given back.
-/

namespace ObjectBridge

open Guest (Extent Handle)

namespace World

/-- The later world differs from the earlier one by the contents of one object, by counts and by what is
written to the trace. -/
structure Alters (before after : World) (target : Ref) (object : Guest.Object Code) : Prop where
  changed : after.get? target = some object
  others : ∀ ref, ref ≠ target → after.get? ref = before.get? ref
  tables : ∀ id, (after.space id).roots = (before.space id).roots ∧ (after.space id).modules = (before.space id).modules
  rest : ∃ spaces trace, after = { before with spaces, trace }

section Alters

variable {world : World} {id : SpaceId}

theorem Alters.of_same {before middle after : World} {target : Ref} {object : Guest.Object Code}
    (alters : middle.Alters after target object) (objects : ∀ ref, middle.get? ref = before.get? ref)
    (tables : ∀ id, (middle.space id).roots = (before.space id).roots ∧
      (middle.space id).modules = (before.space id).modules)
    (rest : ∃ spaces trace, middle = { before with spaces, trace }) : before.Alters after target object := by
  obtain ⟨_, _, same⟩ := rest
  obtain ⟨spaces, trace, same'⟩ := alters.rest
  refine ⟨alters.changed, fun ref other => (alters.others ref other).trans (objects ref), fun id => ?_, spaces, trace,
    by rw [same', same]⟩
  exact ⟨(alters.tables id).1.trans (tables id).1, (alters.tables id).2.trans (tables id).2⟩

theorem Alters.unchanged {before after : World} {target ref : Ref} {object kept earlier : Guest.Object Code}
    (alters : before.Alters after target object) (found : before.get? ref = some kept)
    (there : before.get? target = some earlier) (apart : kept ≠ earlier) : after.get? ref = some kept := by
  rw [alters.others ref, found]
  rintro rfl
  exact apart (Option.some.inj (found.symm.trans there))

theorem releaseAll_setSpace (known : id.index < world.spaces.size) (space : Space) (handles : List Handle) :
    (world.setSpace id space).releaseAll (handles.map (Ref.mk id)) = world.setSpace id (space.releaseAll handles) := by
  induction handles generalizing space with
  | nil => rfl
  | cons handle rest ih =>
    have released : (world.setSpace id space).release { space := id, handle } = world.setSpace id (space.release handle) := by
      rw [release, updateSpace_eq_setSpace, setSpace_setSpace, space_setSpace known, if_pos rfl]
    rw [List.map_cons, releaseAll, List.foldl_cons, released]
    exact ih (space.release handle)

theorem alters_setSpace (known : id.index < world.spaces.size) {target : Handle} {object : Guest.Object Code}
    (value : Handle) (change : Guest.Object Code → Guest.Object Code)
    (found : world.get? { space := id, handle := target } = some object) :
    world.Alters (world.setSpace id (((world.space id).retain value).update target change))
      { space := id, handle := target } (change object) := by
  have here : (world.space id).heap.get? target = some object := found
  refine ⟨?_, fun ref other => ?_, fun other => ?_, _, world.trace, rfl⟩
  · rw [get?_setSpace known]
    simp [Guest.Space.update, Guest.Space.retain, Guest.Heap.get?_update, Guest.Heap.get?_acquire, here]
  · rw [get?, get?, space_setSpace known]
    split
    · rename_i same
      have apart : ref.handle ≠ target := fun equal => other (by rw [← equal, ← same])
      simp [Guest.Space.update, Guest.Space.retain, Guest.Heap.get?_update, Guest.Heap.get?_acquire, apart, same]
    · rfl
  · rw [space_setSpace known]
    split
    · rename_i same
      subst same
      exact ⟨rfl, rfl⟩
    · exact ⟨rfl, rfl⟩

end Alters

/-- The one world with its loose references comes from the other, and on the way one object gets other contents and
none is changed besides. -/
def Modifies (target : Ref) (object : Guest.Object Code) (before after : World × Multiset Ref) : Prop :=
  ∃ now taken bound kept, Leads .temporary before (now, taken) ∧ now.Alters bound target object ∧
    Leads .lasting (now, taken) (bound, kept) ∧ Leads .temporary (bound, kept) after

section Modifies

variable {target : Ref} {object : Guest.Object Code} {first before after last : World × Multiset Ref}
  {world later : World} {frame held owned owned' : Multiset Ref}

theorem Modifies.of_leads (modifies : Modifies target object before after) (leads : Leads .temporary first before) :
    Modifies target object first after := by
  obtain ⟨now, taken, bound, kept, earlier, rest⟩ := modifies
  exact ⟨now, taken, bound, kept, leads.trans earlier, rest⟩

theorem Modifies.trans_leads (modifies : Modifies target object before after) (leads : Leads .temporary after last) :
    Modifies target object before last := by
  obtain ⟨now, taken, bound, kept, earlier, alters, binds, settles⟩ := modifies
  exact ⟨now, taken, bound, kept, earlier, alters, binds, settles.trans leads⟩

theorem Modifies.beside (modifies : Modifies target object (world, owned) (later, owned'))
    (exact : world.Exact (owned + (held + frame))) :
    Modifies target object (world, owned + held) (later, owned' + held) := by
  obtain ⟨now, taken, bound, kept, earlier, alters, binds, settles⟩ := modifies
  have exactNow : now.Exact (taken + (held + frame)) := earlier.exact exact
  have exactBound : bound.Exact (kept + (held + frame)) := binds.exact exactNow
  exact ⟨now, taken + held, bound, kept + held, earlier.beside exact, alters, binds.beside exactNow,
    settles.beside exactBound⟩

theorem Modifies.leads (modifies : Modifies target object before after) (exact : before.1.Exact (before.2 + frame)) :
    Leads .lasting before after := by
  obtain ⟨now, taken, bound, kept, earlier, -, binds, settles⟩ := modifies
  have exactNow := earlier.exact exact
  have exactBound := binds.exact exactNow
  exact ((earlier.lasting (knows_add.mp exact.known).2).trans binds).trans
    (settles.lasting (knows_add.mp exactBound.known).2)

theorem Modifies.roots_eq (modifies : Modifies target object before after) (id : SpaceId) :
    (after.1.space id).roots = (before.1.space id).roots := by
  obtain ⟨now, taken, bound, kept, earlier, alters, -, settles⟩ := modifies
  exact (settles.roots_eq id).trans ((alters.tables id).1.trans (earlier.roots_eq id))

theorem Modifies.spares {earlier : Guest.Object Code} (modifies : Modifies target object (world, 0) (later, 0))
    (exact : world.Exact frame) (was : world.get? target = some earlier) (more : earlier.children ⊆ object.children)
    {ref : Ref} {kept : Guest.Object Code} (other : ref ≠ target) (found : world.get? ref = some kept) :
    later.get? ref = some kept := by
  obtain ⟨now, taken, bound, given, leads, alters, binds, settles⟩ := modifies
  have grown := leads.extends exact
  have exactBound : bound.Exact (given + frame) := binds.exact (leads.exact (by rwa [zero_add]))
  have unchanged {other : Ref} {object : Guest.Object Code} (apart : other ≠ target)
      (found : world.get? other = some object) : bound.get? other = some object := by
    rw [alters.others other apart]
    exact grown.get? found
  have anchored : bound.Anchored frame ref := by
    have live : ((world.space ref.space).heap.get? ref.handle).isSome := Option.isSome_iff_exists.mpr ⟨kept, found⟩
    have here := ((exact.spaces ref.space).started (exact.started_of_get? found)).anchored live
    have outside : bound.outside = world.outside := by
      obtain ⟨_, _, same⟩ := alters.rest
      obtain ⟨_, _, same'⟩ := grown.rest
      rw [same, same']
      rfl
    have own : (bound.space ref.space).own = (world.space ref.space).own := by
      unfold Guest.Space.own Guest.Space.rootHandles
      rw [(alters.tables _).1, (alters.tables _).2, (grown.spaces _).roots, (grown.spaces _).modules]
    unfold Anchored
    rw [outside, own]
    refine here.mono fun first second ⟨holder, held, child⟩ => ?_
    by_cases same : ({ space := ref.space, handle := first } : Ref) = target
    · have held' : world.get? target = some holder := same ▸ held
      obtain rfl : earlier = holder := Option.some.inj (was.symm.trans held')
      have changed := alters.changed
      rw [← same] at changed
      exact ⟨object, changed, more child⟩
    · exact ⟨holder, unchanged same held, child⟩
  exact settles.unchanged exactBound anchored (unchanged other found)

end Modifies

end World

namespace Act

variable {world : World} {id : SpaceId} {frame : Multiset Ref} {target value : Handle} {object bound : Guest.Object Code}

theorem run_setattr (exact : world.Exact frame) {attributes : Bindings Handle}
    (place : Guest.Space.settable object = some attributes)
    (found : world.get? { space := id, handle := target } = some object)
    (typed : ∃ typeName, (world.space id).typeNameOf target = .ok typeName)
    (live : world.get? { space := id, handle := value } = some bound) (name : String) :
    ∃ altered, (setattr id { space := id, handle := target } name { space := id, handle := value }).run world =
        (.ok (), altered.releaseAll ((attributes.get? name).toList.map (Ref.mk id))) ∧
      world.Alters altered { space := id, handle := target } (Guest.Space.withSettable (attributes.insert name value) object) ∧
      World.Leads .lasting (world, 0) (altered, ((attributes.get? name).toList.map (Ref.mk id) : List Ref)) := by
  have shown := exact.object_eq_ok found
  have shownValue := exact.object_eq_ok live
  have known := World.known_of_started (exact.started_of_get? found)
  have ran : (Guest.Space.setattr target name value).run (world.space id) = .ok ((), _) :=
    Guest.Space.setattr_eq_ok.mpr ⟨⟨bound, shownValue⟩, typed, object, attributes, shown, place, rfl⟩
  refine ⟨_, ?_, World.alters_setSpace known value _ found, ?_⟩
  · rw [setattr, run_onSpace, ran, World.releaseAll_setSpace known]
  · have here : (world.space id).Exact (0 + heldIn id (frame + world.outside)) := by
      rw [zero_add]
      exact exact.spaces id
    have path := Guest.Space.path_setattr here name ⟨bound, shownValue⟩ shown place
    refine World.leads_setSpace known ?_ fun other different => ?_
    · rw [heldIn_zero, ← Multiset.map_coe, heldIn_map]
      exact path
    · rw [← Multiset.map_coe, heldIn_map_of_ne different.symm, heldIn_zero]

theorem run_setattr_held {target value : Ref} (exact : world.Exact frame) {attributes : Bindings Handle}
    (place : Guest.Space.settable object = some attributes) (found : world.get? target = some object)
    (typed : ∃ typeName, (world.space target.space).typeNameOf target.handle = .ok typeName)
    (live : world.get? value = some bound) (here : value.space = target.space) (held : target ∈ frame) (name : String) :
    let changed := Guest.Space.withSettable (attributes.insert name value.handle) object
    ∃ after, (setattr target.space target name value).run world = (.ok (), after) ∧
      World.Modifies target changed (world, 0) (after, 0) ∧ after.get? target = some changed := by
  intro changed
  obtain ⟨id, targetHandle⟩ := target
  obtain ⟨valueSpace, valueHandle⟩ := value
  obtain rfl : valueSpace = id := here
  obtain ⟨altered, ran, alters, leads⟩ := run_setattr exact place found typed live name
  generalize (attributes.get? name).toList.map (Ref.mk valueSpace) = earlier at ran leads
  have exactAltered : altered.Exact ((earlier : Multiset Ref) + 0 + frame) := by
    rw [add_zero]
    exact leads.exact (by rwa [zero_add])
  have given : World.Leads .temporary (altered, (earlier : Multiset Ref) + 0) (altered.releaseAll earlier, 0) :=
    World.leads_releaseAll .temporary exactAltered
  refine ⟨altered.releaseAll earlier, ran, ⟨world, 0, altered, earlier, .refl world 0, alters, leads, ?_⟩, ?_⟩
  · rwa [add_zero] at given
  · exact given.unchanged exactAltered (World.anchored_of_mem (Multiset.mem_add.mpr (Or.inl held))) alters.changed

theorem run_dictSet (exact : world.Exact frame) {entries : Bindings Handle}
    (found : world.get? { space := id, handle := target } = some (.dict entries))
    (live : world.get? { space := id, handle := value } = some bound) (key : String) :
    ∃ altered, (onSpace id (Guest.Space.dictSet target key value)).run world =
        (.ok (), altered.releaseAll ((entries.get? key).toList.map (Ref.mk id))) ∧
      world.Alters altered { space := id, handle := target } (.dict (entries.insert key value)) ∧
      World.Leads .lasting (world, 0) (altered, ((entries.get? key).toList.map (Ref.mk id) : List Ref)) := by
  have shown := exact.object_eq_ok found
  have shownValue := exact.object_eq_ok live
  have known := World.known_of_started (exact.started_of_get? found)
  have ran : (Guest.Space.dictSet target key value).run (world.space id) = .ok ((), _) :=
    Guest.Space.dictSet_eq_ok.mpr ⟨⟨bound, shownValue⟩, entries, shown, rfl⟩
  refine ⟨_, ?_, World.alters_setSpace known value (fun _ => .dict (entries.insert key value)) found, ?_⟩
  · rw [run_onSpace, ran, World.releaseAll_setSpace known]
  · have here : (world.space id).Exact (0 + heldIn id (frame + world.outside)) := by
      rw [zero_add]
      exact exact.spaces id
    have path := Guest.Space.path_dictSet here key ⟨bound, shownValue⟩ shown
    refine World.leads_setSpace known ?_ fun other different => ?_
    · rw [heldIn_zero, ← Multiset.map_coe, heldIn_map]
      exact path
    · rw [← Multiset.map_coe, heldIn_map_of_ne different.symm, heldIn_zero]

end Act

end ObjectBridge

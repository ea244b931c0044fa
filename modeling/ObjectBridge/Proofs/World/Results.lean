import ObjectBridge.Proofs.World.Calls
import ObjectBridge.Proofs.World.Temporary

/-!
What acts answer. In a world in which the objects are there that an act looks at, it is told what it
answers and what is in the world then.
-/

namespace ObjectBridge

open Guest (Extent Handle)

namespace Act

variable {ε ε' α γ : Type} {world after : World}

theorem run_bind_ok {act : Act ε α} {value : α} (ran : act.run world = (.ok value, after)) (next : α → Act ε γ) :
    (act >>= next).run world = (next value).run after := by
  rw [run_bind, ran]

theorem run_bind_error {act : Act ε α} {error : ε} (ran : act.run world = (.error error, after))
    (next : α → Act ε γ) : (act >>= next).run world = (.error error, after) := by
  rw [run_bind, ran]

theorem run_bind_congr {act act' : Act ε α} {next next' : α → Act ε γ} (same : act.run world = act'.run world)
    (later : ∀ value after, act.run world = (.ok value, after) → (next value).run after = (next' value).run after) :
    (act >>= next).run world = (act' >>= next').run world := by
  rw [run_bind, run_bind, ← same]
  rcases ran : act.run world with ⟨error | value, after⟩
  · rfl
  · exact later value after ran

theorem run_bind_eq_ok {act : Act ε α} {next : α → Act ε γ} {value : γ} :
    (act >>= next).run world = (.ok value, after) ↔
      ∃ middle between, act.run world = (.ok middle, between) ∧ (next middle).run between = (.ok value, after) := by
  rw [run_bind]
  rcases act.run world with ⟨error | middle, between⟩
  · constructor
    · nofun
    · rintro ⟨_, _, ran, -⟩
      cases ran
  · constructor
    · intro ran
      exact ⟨middle, between, rfl, ran⟩
    · rintro ⟨_, _, ran, later⟩
      cases ran
      exact later

theorem run_lending (refs : List Ref) (act : Act ε α) :
    (lending refs act).run world = ((act.run world).1, (act.run world).2.releaseAll refs) :=
  rfl

theorem run_lending_of {act : Act ε α} {outcome : Except ε α} (ran : act.run world = (outcome, after))
    (refs : List Ref) : (lending refs act).run world = (outcome, after.releaseAll refs) := by
  rw [run_lending, ran]

theorem run_lending_eq_ok {refs : List Ref} {act : Act ε α} {value : α} :
    (lending refs act).run world = (.ok value, after) ↔
      ∃ between, act.run world = (.ok value, between) ∧ after = between.releaseAll refs := by
  rw [run_lending]
  rcases act.run world with ⟨answer, between⟩
  constructor
  · rintro ⟨⟩
    exact ⟨between, rfl, rfl⟩
  · rintro ⟨_, ran, rfl⟩
    cases ran
    rfl

theorem run_holding (session : Session) (act : Act ε α) :
    (holding session act).run world = ((act.run (world.holdSession session)).1,
      (act.run (world.holdSession session)).2.dropSession session) :=
  rfl

theorem run_adapt_ok {act : Act ε α} {value : α} (restate : ε → ε') (ran : act.run world = (.ok value, after)) :
    (act.adapt restate).run world = (.ok value, after) := by
  rw [run_adapt, ran]
  rfl

theorem run_adapt_error {act : Act ε α} {error : ε} (restate : ε → ε')
    (ran : act.run world = (.error error, after)) :
    (act.adapt restate).run world = (.error (restate error), after) := by
  rw [run_adapt, ran]
  rfl

theorem run_onFailure_ok {act : Act ε α} {value : α} (update : World → World)
    (ran : act.run world = (.ok value, after)) : (act.onFailure update).run world = (.ok value, after) := by
  rw [run_onFailure, ran]

theorem run_onFailure_error {act : Act ε α} {error : ε} (update : World → World)
    (ran : act.run world = (.error error, after)) : (act.onFailure update).run world = (.error error, update after) := by
  rw [run_onFailure, ran]

theorem run_onFailure_eq_ok {act : Act ε α} {update : World → World} {value : α} :
    (act.onFailure update).run world = (.ok value, after) ↔ act.run world = (.ok value, after) := by
  rw [run_onFailure]
  rcases act.run world with ⟨error | answer, between⟩
  · exact ⟨nofun, nofun⟩
  · rfl

theorem run_adapt_eq_ok {act : Act ε α} {restate : ε → ε'} {value : α} :
    (act.adapt restate).run world = (.ok value, after) ↔ act.run world = (.ok value, after) := by
  rw [run_adapt]
  rcases act.run world with ⟨error | answer, between⟩
  · exact ⟨nofun, nofun⟩
  · constructor <;> (intro ran; cases ran; rfl)

theorem run_ownedBy_eq_ok {id : SpaceId} {operation : Guest.Op Code Handle} {ref : Ref} :
    (ownedBy id operation).run world = (.ok ref, after) ↔
      ∃ space, operation.run (world.space id) = .ok (ref.handle, space) ∧ ref.space = id ∧
        after = world.setSpace id space := by
  rw [run_ownedBy]
  rcases operation.run (world.space id) with exception | ⟨handle, space⟩
  · exact ⟨nofun, fun ⟨_, ran, _⟩ => nomatch ran⟩
  · constructor
    · rintro ⟨⟩
      exact ⟨space, rfl, rfl, rfl⟩
    · rintro ⟨_, ⟨⟩, rfl, rfl⟩
      rfl

theorem Balanced.leads_ok_of_lent {extent : Extent} {borrowed : List Ref} {owned frame : Multiset Ref} {act : Act ε α}
    {answer : α → Multiset Ref} {value : α} (balanced : Balanced extent borrowed owned act answer)
    (exact : world.Exact (owned + frame)) (lent : ∀ ref ∈ borrowed, ref ∈ frame)
    (ran : act.run world = (.ok value, after)) :
    World.Leads extent (world, owned) (after, answer value) := by
  have settles := balanced world frame exact lent
  rwa [Settles, ran] at settles

theorem Balanced.leads_ok {extent : Extent} {owned frame : Multiset Ref} {act : Act ε α} {answer : α → Multiset Ref}
    {value : α} (balanced : Balanced extent [] owned act answer) (exact : world.Exact (owned + frame))
    (ran : act.run world = (.ok value, after)) : World.Leads extent (world, owned) (after, answer value) :=
  balanced.leads_ok_of_lent exact (List.forall_mem_nil _) ran

theorem Balanced.leads_error {extent : Extent} {owned frame : Multiset Ref} {act : Act ε α} {answer : α → Multiset Ref}
    {error : ε} (balanced : Balanced extent [] owned act answer) (exact : world.Exact (owned + frame))
    (ran : act.run world = (.error error, after)) : World.Leads extent (world, owned) (after, 0) := by
  have settles := balanced.settles exact
  rwa [Settles, ran] at settles

end Act

namespace World

section Objects

variable {world : World} {id : SpaceId}

theorem Exact.started_of_get? {held : Multiset Ref} (exact : world.Exact held) {ref : Ref}
    {object : Guest.Object Code} (found : world.get? ref = some object) : (world.space ref.space).roots.isSome :=
  Guest.Space.started_of_get? (exact.spaces ref.space) found

theorem Exact.object_eq_ok {world : World} {frame : Multiset Ref} (exact : world.Exact frame) {ref : Ref}
    {object : Guest.Object Code} (found : world.get? ref = some object) :
    (world.space ref.space).object ref.handle = .ok object :=
  Guest.Space.object_eq_ok.mpr ⟨exact.started_of_get? found, found⟩

theorem live_of_get? {ref : Ref} {object : Guest.Object Code} (found : world.get? ref = some object) :
    world.Live ref := by
  obtain ⟨cell, here, -⟩ := Guest.Heap.cell_of_get? found
  exact ⟨known_of_get? found, fun _ => ⟨cell, here⟩⟩

theorem get?_setSpace (known : id.index < world.spaces.size) (space : Space) (handle : Handle) :
    (world.setSpace id space).get? { space := id, handle } = space.heap.get? handle := by
  rw [get?, space_setSpace known, if_pos rfl]

@[simp] theorem get?_retain (world : World) (ref other : Ref) : (world.retain ref).get? other = world.get? other := by
  rw [retain, updateSpace_eq_setSpace]
  by_cases known : ref.space.index < world.spaces.size
  · rw [get?, space_setSpace known]
    split
    · rename_i same
      rw [get?, same]
      exact Guest.Heap.get?_acquire _ _ _
    · rfl
  · rw [setSpace_of_unknown known]

@[simp] theorem get?_retainAll (world : World) (refs : List Ref) (other : Ref) :
    (world.retainAll refs).get? other = world.get? other := by
  unfold retainAll
  induction refs generalizing world with
  | nil => rfl
  | cons ref rest ih => rw [List.foldl_cons, ih, get?_retain]

theorem textOf_eq {ε : Type} {ref : Ref} {text : String} (found : world.get? ref = some (.str text)) :
    (Act.textOf ref : Act ε (Option String)).run world = (.ok (some text), world) := by
  have shown : (world.space ref.space).text? ref.handle = some text := by
    unfold get? at found
    simp [Guest.Space.text?, found]
  rw [← shown]
  rfl

end Objects

end World

namespace Act

variable {world : World} {id : SpaceId} {frame : Multiset Ref}

theorem run_ownedBy_allocate {operation : Guest.Op Code Handle} {object : Guest.Object Code} {handles : List Handle}
    (exact : world.Exact frame) (started : (world.space id).roots.isSome)
    (allocates : operation.run (world.space id) =
      (Guest.Space.allocate object).run ((world.space id).retainAll handles)) :
    ∃ ref after, (ownedBy id operation).run world = (.ok ref, after) ∧ ref.space = id ∧
      world.get? ref = none ∧ after.get? ref = some object := by
  let counted := (world.space id).retainAll handles
  have sound : counted.heap.Sound := Guest.Space.sound_retainAll ((exact.spaces id).started started).sound handles
  have ran : (Guest.Space.allocate object).run counted = .ok ((counted.heap.allocate object).1, _) :=
    Guest.Space.allocate_eq_ok.mpr ⟨by rwa [Guest.Space.roots_retainAll], rfl, rfl⟩
  have owned : (ownedBy id operation).run world =
      (.ok { space := id, handle := (counted.heap.allocate object).1 }, world.setSpace id
        { counted with heap := (counted.heap.allocate object).2 }) := by
    rw [run_ownedBy, allocates, ran]
  refine ⟨_, _, owned, rfl, ?_, ?_⟩
  · rw [World.get?, ← Guest.Space.get?_retainAll, Guest.Heap.get?, Guest.Heap.cell?_fst_allocate sound,
      Option.map_none]
  · rw [World.get?_setSpace (World.known_of_started started), Guest.Heap.get?_allocate sound, if_pos rfl]

theorem run_newText (exact : world.Exact frame) (started : (world.space id).roots.isSome) (text : String) :
    ∃ ref after, (ownedBy id (Guest.Space.newText text)).run world = (.ok ref, after) ∧ ref.space = id ∧
      World.Leads .temporary (world, 0) (after, {ref}) ∧ world.get? ref = none ∧
        after.get? ref = some (.str text) := by
  have allocates : (Guest.Space.newText text).run (world.space id) =
      (Guest.Space.allocate (.str text)).run ((world.space id).retainAll []) := rfl
  obtain ⟨ref, after, ran, here, fresh, made⟩ := run_ownedBy_allocate exact started allocates
  have balanced : Balanced .temporary [] 0 (ownedBy id (Guest.Space.newText text)) ({·}) :=
    .ownedBy (Guest.Space.balanced_newText .temporary text)
  exact ⟨ref, after, ran, here, balanced.leads_ok (by rwa [zero_add]) ran, fresh, made⟩

theorem run_acquire {handle : Handle} {object : Guest.Object Code} (exact : world.Exact frame)
    (found : world.get? { space := id, handle } = some object) :
    ∃ after, (ownedBy id (Guest.Space.acquire handle)).run world = (.ok { space := id, handle }, after) ∧
      World.Leads .temporary (world, 0) (after, {{ space := id, handle }}) := by
  have shown : (world.space id).object handle = .ok object :=
    Guest.Space.object_eq_ok.mpr ⟨exact.started_of_get? found, found⟩
  have ran := Guest.Space.acquire_eq_ok.mpr ⟨⟨object, shown⟩, rfl, rfl⟩
  have balanced : Balanced .temporary [] 0 (ownedBy id (Guest.Space.acquire handle)) ({·}) :=
    .ownedBy (Guest.Space.balanced_acquire .temporary handle)
  have owned : (ownedBy id (Guest.Space.acquire handle)).run world =
      (.ok { space := id, handle }, world.setSpace id ((world.space id).retain handle)) := by
    rw [run_ownedBy, ran]
  exact ⟨_, owned, balanced.leads_ok (by rwa [zero_add]) owned⟩

theorem run_noneValue (exact : world.Exact frame) (started : (world.space id).roots.isSome) :
    ∃ none after, (ownedBy id Guest.Space.noneValue).run world = (.ok none, after) ∧ none.space = id ∧
      (world.space id).builtin? "None" = some none.handle ∧ World.Leads .temporary (world, 0) (after, {none}) := by
  obtain ⟨roots, rooted⟩ := Option.isSome_iff_exists.mp started
  have builtin : (world.space id).builtin? "None" = some roots.noneValue := by
    simp [Guest.Space.builtin?, rooted]
  obtain ⟨object, there⟩ := (exact.spaces id).has_builtin builtin
  have same : (Guest.Space.noneValue : Guest.Op Code Handle).run (world.space id) =
      (Guest.Space.acquire roots.noneValue).run (world.space id) := by
    have looked : (Guest.Space.read (·.rootsNow) : Guest.Op Code _).run (world.space id) = .ok (roots, world.space id) :=
      Guest.Op.run_read_eq_ok.mpr ⟨Guest.Space.rootsNow_eq_ok.mpr rooted, rfl⟩
    rw [Guest.Space.noneValue, StateT.run_bind, looked]
    rfl
  obtain ⟨after, ran, leads⟩ := run_acquire exact there
  rw [run_ownedBy, ← same, ← run_ownedBy] at ran
  exact ⟨_, after, ran, rfl, builtin, leads⟩

theorem run_noneValue_finalized (ended : (world.space id).roots = none) :
    (ownedBy id Guest.Space.noneValue).run world = (.error .finalized, world) := by
  have raised : (Guest.Space.noneValue : Guest.Op Code Handle).run (world.space id) = .error .finalized := by
    rw [Guest.Space.noneValue, StateT.run_bind, Guest.Op.run_read, Guest.Space.rootsNow, ended]
    rfl
  rw [run_ownedBy, raised]

end Act

end ObjectBridge

import ObjectBridge.Proofs.Space.Course
import ObjectBridge.Proofs.World.Proxies
import ObjectBridge.Proofs.World.Results

/-!
Conversions to the Guest. What a Host value stands for is said apart from how it is converted; a conversion
succeeds if there is something that the value stands for, and answers that.
-/

namespace ObjectBridge

open Guest (Extent Handle)

namespace Guest.Heap

variable {α : Type} {children : α → List Handle} {heap : Heap α} {handle : Handle} {cell : Cell α}

theorem release_of_several (found : heap.cell? handle = some cell) (several : 1 < cell.count) :
    heap.release children handle = heap.occupy handle.index { cell with count := cell.count - 1 } := by
  unfold release releaseAll
  split
  · simp_all
  · rename_i other here
    obtain rfl : cell = other := Option.some.inj (found.symm.trans here)
    rw [if_neg (by omega), releaseAll]

end Guest.Heap

namespace Guest.Space

variable {β : Type}

theorem keepsSlots_retainAll (space : Space β) (handles : List Handle) :
    Heap.KeepsSlots space.heap (space.retainAll handles).heap := by
  induction handles generalizing space with
  | nil => exact .refl _
  | cons handle rest ih =>
    have first : Heap.KeepsSlots space.heap (space.retain handle).heap := fun index generation known =>
      (Heap.generation?_acquire _ _ index).trans known
    exact first.trans (ih (space.retain handle))

theorem keepsSlots_allocate {space : Space β} (handles : List Handle) (object : Object β) :
    Heap.KeepsSlots space.heap ((space.retainAll handles).heap.allocate object).2 :=
  (keepsSlots_retainAll space handles).trans fun _ _ known => Heap.generation?_allocate known object

end Guest.Space

namespace World

def KeepsSlots (before after : World) : Prop :=
  ∀ id, Guest.Heap.KeepsSlots (before.space id).heap (after.space id).heap

section KeepsSlots

variable {world first second third : World} {frame : Multiset Ref}

theorem KeepsSlots.refl (world : World) : KeepsSlots world world :=
  fun _ => .refl _

theorem KeepsSlots.trans (one : KeepsSlots first second) (two : KeepsSlots second third) : KeepsSlots first third :=
  fun id => (one id).trans (two id)

theorem keepsSlots_setSpace {id : SpaceId} {space : Space}
    (keeps : Guest.Heap.KeepsSlots (world.space id).heap space.heap) : KeepsSlots world (world.setSpace id space) := by
  by_cases known : id.index < world.spaces.size
  · intro other
    rw [space_setSpace known]
    split
    · rename_i same
      exact same ▸ keeps
    · exact .refl _
  · rw [setSpace_of_unknown known]
    exact .refl world

theorem Exact.several_of_item {tuple ref : Ref} {handles : List Handle} (exact : world.Exact (ref ::ₘ frame))
    (found : world.get? tuple = some (.tuple handles)) (here : ref.space = tuple.space) (listed : ref.handle ∈ handles) :
    ∃ cell, (world.space ref.space).heap.cell? ref.handle = some cell ∧ 1 < cell.count := by
  have kept := (exact.spaces ref.space).started (here ▸ exact.started_of_get? found)
  have held : ref.handle ∈ heldIn ref.space (ref ::ₘ frame + world.outside) + (world.space ref.space).own :=
    Multiset.mem_add.mpr (Or.inl (mem_heldIn (by simp)))
  obtain ⟨cell, shown⟩ := kept.exists_cell_of_held held
  refine ⟨cell, shown, ?_⟩
  -- The tuple holds another reference besides this one.
  have outside := Multiset.count_pos.mpr held
  have shownTuple : (world.space ref.space).heap.get? tuple.handle = some (.tuple handles) := by
    rw [here]
    exact found
  have references : ref.handle ∈ (world.space ref.space).heap.references Guest.Object.children :=
    Guest.Heap.mem_references shownTuple listed
  have inner := List.count_pos_iff.mpr references
  rw [kept.count_eq shown]
  omega

theorem release_of_several {ref : Ref} {cell : Guest.Cell (Guest.Object Code)}
    (shown : (world.space ref.space).heap.cell? ref.handle = some cell) (several : 1 < cell.count) :
    world.release ref = world.setSpace ref.space { world.space ref.space with
      heap := (world.space ref.space).heap.occupy ref.handle.index { cell with count := cell.count - 1 } } := by
  rw [release, updateSpace_eq_setSpace, Guest.Space.release, Guest.Heap.release_of_several shown several]

theorem keepsSlots_releaseAll {tuple : Ref} {handles : List Handle} {refs : List Ref}
    (exact : world.Exact ((refs : Multiset Ref) + frame)) (found : world.get? tuple = some (.tuple handles))
    (inside : ∀ ref ∈ refs, ref.space = tuple.space ∧ ref.handle ∈ handles) :
    KeepsSlots world (world.releaseAll refs) := by
  induction refs generalizing world with
  | nil => exact .refl world
  | cons ref rest ih =>
    rw [← Multiset.cons_coe, Multiset.cons_add] at exact
    obtain ⟨here, listed⟩ := inside ref List.mem_cons_self
    obtain ⟨cell, shown, several⟩ := exact.several_of_item found here listed
    have released := release_of_several shown several
    have keeps : KeepsSlots world (world.release ref) := by
      rw [released]
      exact keepsSlots_setSpace fun index generation known =>
        (Guest.Heap.generation?_occupy _ _ _ index).trans known
    have foundThen : (world.release ref).get? tuple = some (.tuple handles) := by
      rw [released, get?, space_setSpace (exact.known ref (by simp))]
      split
      · rename_i same
        rw [Guest.Heap.get?_occupy shown]
        split
        · rename_i equal
          rw [get?, same, equal, Guest.Heap.get?_of_cell shown] at found
          exact found
        · rwa [get?, same] at found
      · exact found
    have framed : world.Exact (ref ::ₘ (rest : Multiset Ref) + frame) := by rwa [Multiset.cons_add]
    have exactThen : (world.release ref).Exact ((rest : Multiset Ref) + frame) :=
      (leads_release .temporary framed).exact framed
    exact keeps.trans (ih exactThen foundThen fun other member => inside other (List.mem_cons_of_mem _ member))

end KeepsSlots

end World

namespace Bridge

open Act

/-- The value has a Guest form: it is nil, a string, an array of such values, or a proxy of the session for an
object that is there. -/
inductive Convertible (world : World) (session : Session) : HostValue → Prop
  | nil : Convertible world session .nil
  | text (content : String) : Convertible world session (.text content)
  | array {items : List HostValue} (each : ∀ item ∈ items, Convertible world session item) :
      Convertible world session (.array items)
  | proxy {content : Host.Object Method Payload} {reference : OpaqueReference} {object : Guest.Object Code}
      (carried : opaqueReference? (.object content) = some reference)
      (family : (world.host session.host).isInstanceOfNamed (Host.Value.object content) session.proxyClass.name)
      (owner : (world.aliveSession? reference.session).map (·.id) = some session.id)
      (live : world.get? { space := session.space, handle := reference.target } = some object) :
      Convertible world session (.object content)

/-- The object is the Guest form of the value: the constant for nil, a string, a tuple of the forms of the items,
or the very object that a proxy leads to. -/
inductive Denotes (world : World) (session : Session) : HostValue → Handle → Prop
  | nil {handle : Handle} (constant : (world.space session.space).builtin? "None" = some handle) :
      Denotes world session .nil handle
  | text {content : String} {handle : Handle}
      (found : world.get? { space := session.space, handle } = some (.str content)) :
      Denotes world session (.text content) handle
  | array {items : List HostValue} {handle : Handle} {handles : List Handle}
      (found : world.get? { space := session.space, handle } = some (.tuple handles))
      (length : items.length = handles.length)
      (each : ∀ (index : Nat) item handle, items[index]? = some item → handles[index]? = some handle →
        Denotes world session item handle) :
      Denotes world session (.array items) handle
  | proxy {content : Host.Object Method Payload} {reference : OpaqueReference} {object : Guest.Object Code}
      (carried : opaqueReference? (.object content) = some reference)
      (owner : (world.aliveSession? reference.session).map (·.id) = some session.id)
      (live : world.get? { space := session.space, handle := reference.target } = some object) :
      Denotes world session (.object content) reference.target

section Relations

variable {world after : World} {session : Session} {value : HostValue} {handle : Handle}

theorem Convertible.of_extends (convertible : Convertible world session value) (grown : world.Extends after) :
    Convertible after session value := by
  obtain ⟨_, _, rest⟩ := grown.rest
  induction convertible with
  | nil => exact .nil
  | text content => exact .text content
  | array _ ih => exact .array ih
  | proxy carried family owner live =>
    refine .proxy carried ?_ ?_ (grown.get? live)
    · rw [rest]
      exact family
    · rw [rest]
      exact owner

theorem Denotes.of_leads {owned owned' frame : Multiset Ref} (denotes : Denotes world session value handle)
    (leads : World.Leads .temporary (world, owned) (after, owned')) (exact : world.Exact (owned + frame))
    (anchored : world.Anchored frame { space := session.space, handle }) : Denotes after session value handle := by
  obtain ⟨_, _, rest⟩ := leads.rest_eq
  induction denotes with
  | nil constant => exact .nil (by rwa [Guest.Space.builtin?, leads.roots_eq])
  | text found => exact .text (leads.unchanged exact anchored found)
  | array found length _ ih =>
    refine .array (leads.unchanged exact anchored found) length fun index item child here there => ?_
    exact ih index item child here there (anchored.child found (List.mem_of_getElem? there))
  | proxy carried owner live =>
    refine .proxy carried ?_ (leads.unchanged exact anchored live)
    rw [rest]
    exact owner

end Relations

section Runs

variable {world after : World} {session : Session} {frame : Multiset Ref}

theorem run_itemsToGuest_eq_ok {depth : Nat} {done : Array Ref} {items : List HostValue} {refs : List Ref} :
    (itemsToGuest session depth done items).run world = (.ok refs, after) ↔
      ∃ converted, refs = done.toList ++ converted ∧
        (itemsToGuest session depth #[] items).run world = (.ok converted, after) := by
  induction items generalizing done refs world with
  | nil =>
    unfold itemsToGuest
    simp only [run_pure]
    constructor
    · intro ran
      cases ran
      exact ⟨[], by simp, rfl⟩
    · rintro ⟨converted, rfl, ran⟩
      cases ran
      simp
  | cons item rest ih =>
    unfold itemsToGuest
    simp only [run_bind_eq_ok, run_onFailure_eq_ok]
    constructor
    · rintro ⟨ref, between, ran, later⟩
      obtain ⟨converted, rfl, ranRest⟩ := ih.mp later
      exact ⟨ref :: converted, by simp, ref, between, ran, ih.mpr ⟨converted, by simp, ranRest⟩⟩
    · rintro ⟨_, rfl, ref, between, ran, later⟩
      obtain ⟨converted, rfl, ranRest⟩ := ih.mp later
      exact ⟨ref, between, ran, ih.mpr ⟨converted, by simp, ranRest⟩⟩

theorem acquired_of_run {id : SpaceId} {handle : Handle} {ref : Ref}
    (ran : (ownedBy id (Guest.Space.acquire handle)).run world = (.ok ref, after)) :
    ref = { space := id, handle } ∧ after = world.retain ref ∧ ∃ object, world.get? ref = some object := by
  obtain ⟨home, target⟩ := ref
  obtain ⟨space, ranSpace, rfl, rfl⟩ := run_ownedBy_eq_ok.mp ran
  obtain ⟨⟨object, found⟩, rfl, rfl⟩ := Guest.Space.acquire_eq_ok.mp ranSpace
  rw [World.retain, World.updateSpace_eq_setSpace]
  exact ⟨rfl, rfl, object, (Guest.Space.object_eq_ok.mp found).2⟩

theorem keepsSlots_retain (world : World) (ref : Ref) : world.KeepsSlots (world.retain ref) := by
  rw [World.retain, World.updateSpace_eq_setSpace]
  exact World.keepsSlots_setSpace fun index generation known => (Guest.Heap.generation?_acquire _ _ index).trans known

theorem roots_retain (world : World) (ref : Ref) (id : SpaceId) :
    ((world.retain ref).space id).roots = (world.space id).roots := by
  rw [World.retain, World.updateSpace_eq_setSpace]
  by_cases known : ref.space.index < world.spaces.size
  · rw [World.space_setSpace known]
    split
    · rename_i same
      rw [same]
      rfl
    · rfl
  · rw [World.setSpace_of_unknown known]

theorem constant_of_run {id : SpaceId} {ref : Ref}
    (ran : (ownedBy id Guest.Space.noneValue).run world = (.ok ref, after)) :
    ref.space = id ∧ after = world.retain ref ∧ (after.space id).builtin? "None" = some ref.handle := by
  obtain ⟨space, ranSpace, here, same⟩ := run_ownedBy_eq_ok.mp ran
  obtain ⟨roots, _, ranRoots, ranAcquire⟩ := Guest.Op.run_bind_eq_ok.mp ranSpace
  obtain ⟨rooted, rfl⟩ := Guest.Op.run_read_eq_ok.mp ranRoots
  have rooted := Guest.Space.rootsNow_eq_ok.mp rooted
  have taken : (ownedBy id (Guest.Space.acquire roots.noneValue)).run world = (.ok ref, after) :=
    run_ownedBy_eq_ok.mpr ⟨space, ranAcquire, here, same⟩
  obtain ⟨rfl, rfl, -⟩ := acquired_of_run taken
  refine ⟨rfl, rfl, ?_⟩
  rw [Guest.Space.builtin?, roots_retain, rooted]
  rfl

theorem made_of_run {id : SpaceId} {operation : Guest.Op Code Handle} {object : Guest.Object Code}
    {handles : List Handle} {ref : Ref} (exact : world.Exact frame)
    (allocates : operation.run (world.space id) =
      (Guest.Space.allocate object).run ((world.space id).retainAll handles))
    (ran : (ownedBy id operation).run world = (.ok ref, after)) :
    ref.space = id ∧ after.get? ref = some object ∧ world.KeepsSlots after := by
  obtain ⟨started, same⟩ : (world.space id).roots.isSome ∧ after = world.setSpace id
      { (world.space id).retainAll handles with
        heap := (((world.space id).retainAll handles).heap.allocate object).2 } := by
    rw [run_ownedBy, allocates] at ran
    split at ran
    · rename_i handle space made
      obtain ⟨started, -, rfl⟩ := Guest.Space.allocate_eq_ok.mp made
      cases ran
      exact ⟨by rwa [Guest.Space.roots_retainAll] at started, rfl⟩
    · cases ran
  obtain ⟨ref', after', ran', here, -, found⟩ := run_ownedBy_allocate exact started allocates
  obtain ⟨⟨⟩, rfl⟩ : Except.ok ref = Except.ok ref' ∧ after = after' := Prod.mk.inj (ran.symm.trans ran')
  exact ⟨here, found, same ▸ World.keepsSlots_setSpace (Guest.Space.keepsSlots_allocate handles object)⟩

theorem run_dereference_eq_ok {reference : OpaqueReference} {ref : Ref} :
    (dereference session reference).run world = (.ok ref, after) ↔
      (world.aliveSession? reference.session).map (·.id) = some session.id ∧
        (ownedBy session.space (Guest.Space.acquire reference.target)).run world = (.ok ref, after) := by
  unfold dereference
  rw [run_get_bind]
  extract_lets owner
  by_cases own : owner.map (·.id) = some session.id
  · rw [if_pos own, asBridge, run_adapt_eq_ok]
    exact ⟨fun ran => ⟨own, ran⟩, (·.2)⟩
  · rw [if_neg own]
    refine ⟨fun ran => ?_, fun ran => absurd ran.1 own⟩
    obtain ⟨_, _, -, later⟩ := run_bind_eq_ok.mp ran
    cases later

theorem run_lending_newTuple {refs : List Ref} {tuple : Ref} (exact : world.Exact ((refs : Multiset Ref) + frame))
    (here : ∀ ref ∈ refs, ref.space = session.space)
    (ran : (lending refs (asBridge (ownedBy session.space (Guest.Space.newTuple (refs.map (·.handle)))))).run world =
      (.ok tuple, after)) :
    tuple.space = session.space ∧ after.get? tuple = some (.tuple (refs.map (·.handle))) ∧ world.KeepsSlots after ∧
      ∀ ref ∈ refs, ∀ value, Denotes world session value ref.handle → Denotes after session value ref.handle := by
  obtain ⟨made, ranMade, rfl⟩ := run_lending_eq_ok.mp ran
  rw [asBridge, run_adapt_eq_ok] at ranMade
  have allocates : (Guest.Space.newTuple (refs.map (·.handle)) : Guest.Op Code Handle).run (world.space session.space) =
      (Guest.Space.allocate (.tuple (refs.map (·.handle)))).run
        ((world.space session.space).retainAll (refs.map (·.handle))) := by
    rw [run_ownedBy] at ranMade
    split at ranMade
    · rename_i handle space ranTuple
      rw [ranTuple, (Guest.Space.newTuple_eq_ok.mp ranTuple).2]
    · cases ranMade
  obtain ⟨space, found, keeps⟩ := made_of_run exact allocates ranMade
  have balanced : Balanced .temporary [] 0 (ownedBy session.space (Guest.Space.newTuple (refs.map (·.handle))))
      ({·}) :=
    .ownedBy (Guest.Space.balanced_newTuple .temporary _)
  have leads := balanced.leads_ok (by rwa [zero_add]) ranMade
  have exactMade : made.Exact ({tuple} + ((refs : Multiset Ref) + frame)) := leads.exact (by rwa [zero_add])
  rw [add_left_comm] at exactMade
  have exactAll : made.Exact ((refs : Multiset Ref) + 0 + ({tuple} + frame)) := by rwa [add_zero]
  have inside : ∀ ref ∈ refs, ref.space = tuple.space ∧ ref.handle ∈ refs.map (·.handle) := fun ref member =>
    ⟨(here ref member).trans space.symm, List.mem_map_of_mem member⟩
  have released := World.leads_releaseAll .temporary exactAll
  have anchored : made.Anchored ({tuple} + frame) tuple := World.anchored_of_mem (by simp)
  refine ⟨space, released.unchanged exactAll anchored found,
    keeps.trans (World.keepsSlots_releaseAll exactMade found inside), fun ref member value denotes => ?_⟩
  -- The items are held one by one until the tuple holds them.
  have denotesMade : Denotes made session value ref.handle :=
    denotes.of_leads leads (by rwa [zero_add]) (World.anchored_of_mem (by simp [← here ref member, member]))
  exact denotesMade.of_leads released exactAll (space ▸ anchored.child found (List.mem_map_of_mem member))

theorem located_of_each {items : List HostValue} {refs : List Ref}
    (each : List.Forall₂ (fun item ref => ref.space = session.space ∧ Denotes world session item ref.handle) items refs) :
    ∀ ref ∈ refs, ref.space = session.space := by
  intro ref member
  obtain ⟨index, below, rfl⟩ := List.getElem_of_mem member
  obtain ⟨lengths, each⟩ := List.forall₂_iff_get.mp each
  exact (each index (lengths ▸ below) below).1

mutual

theorem denotes_of_run {depth : Nat} (value : HostValue) {world after : World} {frame : Multiset Ref} {ref : Ref}
    (exact : world.Exact frame) (ran : (toGuestAt session depth value).run world = (.ok ref, after)) :
    (ref.space = session.space ∧ Denotes after session value ref.handle) ∧ world.KeepsSlots after := by
  unfold toGuestAt at ran
  obtain ⟨trace, ranTrace⟩ := run_traceLine (ε := Error) session.config depth s!"to_guest {value.className}" world
  rw [run_bind_ok ranTrace] at ran
  have exactTrace := exact.with_trace trace
  cases value with
  | nil =>
    obtain ⟨here, rfl, constant⟩ := constant_of_run (run_adapt_eq_ok.mp ran)
    exact ⟨⟨here, .nil constant⟩, keepsSlots_retain _ ref⟩
  | text content =>
    have same : (Guest.Space.newText content).run (world.space session.space) =
        (Guest.Space.allocate (.str content)).run ((world.space session.space).retainAll []) := rfl
    obtain ⟨here, found, keeps⟩ := made_of_run exactTrace same (run_adapt_eq_ok.mp ran)
    exact ⟨⟨here, .text (here ▸ found)⟩, keeps⟩
  | array items =>
    obtain ⟨converted, between, ranItems, ranTuple⟩ := run_bind_eq_ok.mp ran
    obtain ⟨each, keepsItems⟩ := denotes_of_run_items items exactTrace ranItems
    have balanced : Balanced .temporary [] 0 (itemsToGuest session (depth + 1) #[] items) fun refs => refs :=
      balanced_itemsToGuest session (depth + 1) #[] items []
    have exactItems : between.Exact ((converted : Multiset Ref) + frame) :=
      (balanced.leads_ok (by rwa [zero_add]) ranItems).exact (by rwa [zero_add])
    obtain ⟨here, found, keeps, stay⟩ := run_lending_newTuple exactItems (located_of_each each) ranTuple
    obtain ⟨lengths, each⟩ := List.forall₂_iff_get.mp each
    have foundHere : after.get? { space := session.space, handle := ref.handle } =
        some (.tuple (converted.map (·.handle))) := here ▸ found
    have denotes : Denotes after session (.array items) ref.handle := by
      refine .array foundHere (by rw [List.length_map, lengths]) fun index item handle there shown => ?_
      obtain ⟨first, rfl⟩ := List.getElem?_eq_some_iff.mp there
      rw [List.getElem?_map, Option.map_eq_some_iff] at shown
      obtain ⟨_, listed, rfl⟩ := shown
      obtain ⟨second, rfl⟩ := List.getElem?_eq_some_iff.mp listed
      exact stay _ (List.getElem_mem second) _ (each index first second).2
    exact ⟨⟨here, denotes⟩, keepsItems.trans keeps⟩
  | object content =>
    rw [run_get_bind] at ran
    extract_lets host at ran
    split at ran
    · rename_i reference carried
      split at ran
      · rename_i family
        obtain ⟨owner, ranTarget⟩ := run_dereference_eq_ok.mp ran
        obtain ⟨rfl, rfl, object, live⟩ := acquired_of_run ranTarget
        exact ⟨⟨rfl, .proxy carried owner ((World.get?_retain _ _ _).trans live)⟩, keepsSlots_retain _ _⟩
      · cases ran
    · cases ran

theorem denotes_of_run_items {depth : Nat} (items : List HostValue) {world after : World} {frame : Multiset Ref}
    {refs : List Ref} (exact : world.Exact frame)
    (ran : (itemsToGuest session depth #[] items).run world = (.ok refs, after)) :
    List.Forall₂ (fun item ref => ref.space = session.space ∧ Denotes after session item ref.handle) items refs ∧
      world.KeepsSlots after := by
  cases items with
  | nil =>
    unfold itemsToGuest at ran
    cases ran
    exact ⟨.nil, .refl world⟩
  | cons item rest =>
    unfold itemsToGuest at ran
    obtain ⟨ref, between, ranFirst, ranAll⟩ := run_bind_eq_ok.mp ran
    obtain ⟨converted, rfl, ranRest⟩ := run_itemsToGuest_eq_ok.mp ranAll
    have ranItem := run_onFailure_eq_ok.mp ranFirst
    obtain ⟨⟨here, denotes⟩, keeps⟩ := denotes_of_run item exact ranItem
    have balanced : Balanced .temporary [] 0 (toGuestAt session depth item) ({·}) :=
      balanced_toGuestAt session depth item []
    have exactBetween : between.Exact ({ref} + frame) :=
      (balanced.leads_ok (by rwa [zero_add]) ranItem).exact (by rwa [zero_add])
    obtain ⟨each, keepsRest⟩ := denotes_of_run_items rest exactBetween ranRest
    have balancedRest : Balanced .temporary [] 0 (itemsToGuest session depth #[] rest) fun refs => refs :=
      balanced_itemsToGuest session depth #[] rest []
    have leads := balancedRest.leads_ok (by rwa [zero_add]) ranRest
    have anchored : between.Anchored ({ref} + frame) { space := session.space, handle := ref.handle } :=
      World.anchored_of_mem (by simp [← here])
    exact ⟨.cons ⟨here, denotes.of_leads leads (by rwa [zero_add]) anchored⟩ each, keeps.trans keepsRest⟩

end

theorem exists_run_lending_newTuple {refs : List Ref} (exact : world.Exact ((refs : Multiset Ref) + frame))
    (started : (world.space session.space).roots.isSome) (here : ∀ ref ∈ refs, ref.space = session.space) :
    ∃ tuple after, (lending refs (asBridge (ownedBy session.space
      (Guest.Space.newTuple (refs.map (·.handle)))))).run world = (.ok tuple, after) := by
  have live : ∀ handle ∈ refs.map (·.handle), ∃ object, (world.space session.space).object handle = .ok object := by
    intro handle member
    obtain ⟨ref, listed, rfl⟩ := List.mem_map.mp member
    have live : world.Live ref := exact.live (by simp [listed])
    have found := live.2
    rw [here ref listed] at found
    obtain ⟨cell, shown⟩ := found started
    exact ⟨_, Guest.Space.object_eq_ok.mpr ⟨started, Guest.Heap.get?_of_cell shown⟩⟩
  obtain ⟨handle, space, made⟩ : ∃ handle space, (Guest.Space.newTuple (refs.map (·.handle)) : Guest.Op Code _).run
      (world.space session.space) = .ok (handle, space) :=
    ⟨_, _, Guest.Space.newTuple_eq_ok.mpr ⟨live, Guest.Space.allocate_eq_ok.mpr
      ⟨by rwa [Guest.Space.roots_retainAll], rfl, rfl⟩⟩⟩
  have ran : (ownedBy session.space (Guest.Space.newTuple (refs.map (·.handle)))).run world =
      (.ok { space := session.space, handle }, world.setSpace session.space space) := by
    rw [run_ownedBy, made]
  exact ⟨_, _, run_lending_eq_ok.mpr ⟨_, run_adapt_eq_ok.mpr ran, rfl⟩⟩

mutual

theorem exists_run_toGuestAt (depth : Nat) (value : HostValue) {world : World} {frame : Multiset Ref}
    (exact : world.Exact frame) (started : (world.space session.space).roots.isSome)
    (convertible : Convertible world session value) :
    ∃ ref after, (toGuestAt session depth value).run world = (.ok ref, after) := by
  unfold toGuestAt
  obtain ⟨trace, ranTrace⟩ := run_traceLine (ε := Error) session.config depth s!"to_guest {value.className}" world
  rw [run_bind_ok ranTrace]
  have exactTrace := exact.with_trace trace
  cases value with
  | nil =>
    obtain ⟨none, after, ran, -⟩ := run_noneValue exactTrace started
    exact ⟨none, after, run_adapt_eq_ok.mpr ran⟩
  | text content =>
    obtain ⟨text, after, ran, -⟩ := run_newText exactTrace started content
    exact ⟨text, after, run_adapt_eq_ok.mpr ran⟩
  | array items =>
    have each : ∀ item ∈ items, Convertible world session item := by
      cases convertible
      assumption
    have grown : world.Extends { world with trace } := ⟨fun _ => .refl _, world.spaces, trace, rfl⟩
    obtain ⟨refs, between, ranItems⟩ := exists_run_itemsToGuest (depth + 1) items exactTrace started
      fun item member => (each item member).of_extends grown
    have balanced : Balanced .temporary [] 0 (itemsToGuest session (depth + 1) #[] items) fun refs => refs :=
      balanced_itemsToGuest session (depth + 1) #[] items []
    have leads := balanced.leads_ok (by rwa [zero_add]) ranItems
    obtain ⟨tuple, after, ranTuple⟩ := exists_run_lending_newTuple (leads.exact (by rwa [zero_add]))
      (by rwa [leads.roots_eq]) (located_of_each (denotes_of_run_items items exactTrace ranItems).1)
    exact ⟨tuple, after, run_bind_eq_ok.mpr ⟨refs, between, ranItems, ranTuple⟩⟩
  | object content =>
    obtain ⟨reference, object, carried, family, owner, live⟩ : ∃ reference object,
        opaqueReference? (.object content) = some reference ∧
          (world.host session.host).isInstanceOfNamed (Host.Value.object content) session.proxyClass.name ∧
          (world.aliveSession? reference.session).map (·.id) = some session.id ∧
          world.get? { space := session.space, handle := reference.target } = some object := by
      cases convertible
      exact ⟨_, _, ‹_›, ‹_›, ‹_›, ‹_›⟩
    obtain ⟨after, ran, -⟩ := run_acquire exactTrace live
    refine ⟨{ space := session.space, handle := reference.target }, after, ?_⟩
    rw [run_get_bind]
    extract_lets host
    have sameFamily : host.isInstanceOfNamed (Host.Value.object content) session.proxyClass.name = true := family
    simp only [carried, sameFamily, if_true]
    exact run_dereference_eq_ok.mpr ⟨owner, ran⟩

theorem exists_run_itemsToGuest (depth : Nat) (items : List HostValue) {world : World} {frame : Multiset Ref}
    (exact : world.Exact frame) (started : (world.space session.space).roots.isSome)
    (each : ∀ item ∈ items, Convertible world session item) :
    ∃ refs after, (itemsToGuest session depth #[] items).run world = (.ok refs, after) := by
  cases items with
  | nil =>
    unfold itemsToGuest
    exact ⟨[], world, rfl⟩
  | cons item rest =>
    unfold itemsToGuest
    obtain ⟨ref, between, ran⟩ := exists_run_toGuestAt depth item exact started (each item List.mem_cons_self)
    have balanced : Balanced .temporary [] 0 (toGuestAt session depth item) ({·}) :=
      balanced_toGuestAt session depth item []
    have leads := balanced.leads_ok (by rwa [zero_add]) ran
    have exactBetween : between.Exact ({ref} + frame) := leads.exact (by rwa [zero_add])
    obtain ⟨refs, after, ranRest⟩ := exists_run_itemsToGuest depth rest exactBetween
      (by rwa [leads.roots_eq]) fun other member =>
        (each other (List.mem_cons_of_mem _ member)).of_extends (leads.extends exact)
    exact ⟨_, after, run_bind_eq_ok.mpr ⟨ref, between, run_onFailure_eq_ok.mpr ran,
      run_itemsToGuest_eq_ok.mpr ⟨refs, rfl, ranRest⟩⟩⟩

end

end Runs

end Bridge

end ObjectBridge

import ObjectBridge.Guest.Teardown
import ObjectBridge.Proofs.Bindings
import ObjectBridge.Proofs.Heap.Kept

/-!
Reference accounting of an object space. Besides what is held from outside, the space itself holds its
modules and its roots. A step of a space is a step of its heap, a change of its tables, or its end. The
steps that change nothing that is there before are told apart from the others.
-/

namespace ObjectBridge.Guest

variable {β : Type}

inductive Object.Changes : Object β → Object β → Prop
  | dict (entries entries' : Bindings Handle) : Changes (.dict entries) (.dict entries')
  | typeObject (contents : TypeObject) (members : Bindings Handle) (made : contents.builtin = false) :
      Changes (.typeObject contents) (.typeObject { contents with members })
  | object (contents : InstanceObject) (attributes : Bindings Handle) :
      Changes (.object contents) (.object { contents with attributes })
  | moduleObject (contents : ModuleObject) (globals : Bindings Handle) :
      Changes (.moduleObject contents) (.moduleObject { contents with globals })

theorem Object.Changes.kind_eq {object object' : Object β} (changes : Object.Changes object object') :
    object'.kind = object.kind := by
  cases changes <;> rfl

/-- How far steps go. Temporary ones only count references, make objects and free them; lasting ones
are all there are. -/
inductive Extent where
  | temporary
  | lasting
deriving DecidableEq

def Extent.changes : Extent → Handle → Object β → Object β → Prop
  | .temporary => fun _ _ _ => False
  | .lasting => fun _ => Object.Changes

namespace Space

def rootHandles (space : Space β) : List Handle :=
  (space.roots.map (·.handles)).getD []

def own (space : Space β) : Multiset Handle :=
  (space.modules.values : Multiset Handle) + (space.rootHandles : Multiset Handle)

/-- While the space is not finalized its heap is exact; after that it is empty. -/
structure Exact (space : Space β) (held : Multiset Handle) : Prop where
  started : space.roots.isSome → space.heap.Exact Object.children (held + space.own)
  ended : space.roots = none → space.heap = .empty ∧ space.modules = .empty

inductive Step : Extent → Space β × Multiset Handle → Space β × Multiset Handle → Prop
  | heap {extent space heap held held'} (started : space.roots.isSome)
      (step : Heap.Step Object.children extent.changes (space.heap, held) (heap, held')) :
      Step extent (space, held) ({ space with heap }, held')
  | ended {extent space held} (held' : Multiset Handle) (ended : space.roots = none) :
      Step extent (space, held) (space, held')
  | enlist {space held name module} (started : space.roots.isSome)
      (free : space.modules.get? name = none) :
      Step .lasting (space, module ::ₘ held)
        ({ space with modules := space.modules.insert name module }, held)
  | delist {space held name module} (listed : space.modules.get? name = some module) :
      Step .lasting (space, held)
        ({ space with modules := space.modules.erase name }, module ::ₘ held)
  | define {space held} (definitions : Bindings (Definition β)) :
      Step .lasting (space, held) ({ space with definitions }, held)
  | finalize {space held} (held' : Multiset Handle) :
      Step .lasting (space, held) (space.finalize.2, held')

abbrev Path (extent : Extent) : Space β × Multiset Handle → Space β × Multiset Handle → Prop :=
  Relation.ReflTransGen (Step extent)

theorem roots_finalize (space : Space β) : space.finalize.2.roots = none := by
  unfold finalize
  split
  · assumption
  · rfl

theorem exact_finalize {space : Space β} {held held' : Multiset Handle} (exact : space.Exact held) :
    space.finalize.2.Exact held' := by
  refine ⟨fun started => by simp [roots_finalize] at started, fun _ => ?_⟩
  unfold finalize
  split
  · rename_i ended
    exact exact.ended ended
  · exact ⟨rfl, rfl⟩

theorem Step.exact {extent : Extent} {before after : Space β × Multiset Handle}
    {frame : Multiset Handle} (step : Step extent before after)
    (exact : before.1.Exact (before.2 + frame)) : after.1.Exact (after.2 + frame) := by
  cases step with
  | @heap _ space heap held held' started step =>
    refine ⟨fun _ => ?_, fun ended => by simp_all⟩
    have kept := exact.started started
    rw [add_assoc] at kept ⊢
    exact step.exact kept
  | ended held' ended =>
    exact ⟨fun started => by simp_all, exact.ended⟩
  | @enlist space held name module started free =>
    refine ⟨fun _ => ?_, fun ended => by simp_all⟩
    have kept := exact.started started
    simp only [own, rootHandles, Bindings.values_insert_of_none free] at kept ⊢
    simpa only [Multiset.cons_add, Multiset.add_cons] using kept
  | @delist space held name module listed =>
    refine ⟨fun started => ?_, fun ended => ?_⟩
    · have kept := exact.started started
      simp only [own, rootHandles, Bindings.values_erase listed] at kept ⊢
      simpa only [Multiset.cons_add, Multiset.add_cons] using kept
    · have empty := (exact.ended ended).2
      simp only at empty listed
      simp [empty, Bindings.get?_empty] at listed
  | define definitions => exact ⟨exact.started, exact.ended⟩
  | finalize held' => exact exact_finalize exact

theorem Path.exact {extent : Extent} {before after : Space β × Multiset Handle}
    {frame : Multiset Handle} (path : Path extent before after)
    (exact : before.1.Exact (before.2 + frame)) : after.1.Exact (after.2 + frame) := by
  induction path with
  | refl => exact exact
  | tail _ step ih => exact step.exact ih

theorem Step.frame {extent : Extent} {before after : Space β × Multiset Handle}
    (step : Step extent before after) (frame : Multiset Handle) :
    Step extent (before.1, before.2 + frame) (after.1, after.2 + frame) := by
  cases step with
  | heap started step => exact .heap started (step.frame frame)
  | ended held' ended => exact .ended _ ended
  | enlist started free =>
    rw [Multiset.cons_add]
    exact .enlist started free
  | delist listed =>
    rw [Multiset.cons_add]
    exact .delist listed
  | define definitions => exact .define definitions
  | finalize held' => exact .finalize _

theorem Path.frame {extent : Extent} {before after : Space β × Multiset Handle}
    (path : Path extent before after) (frame : Multiset Handle) :
    Path extent (before.1, before.2 + frame) (after.1, after.2 + frame) := by
  induction path with
  | refl => exact .refl
  | tail _ step ih => exact ih.tail (step.frame frame)

theorem Step.lasting {extent : Extent} {before after : Space β × Multiset Handle}
    (step : Step extent before after) : Step .lasting before after := by
  cases step with
  | @heap _ space heap held held' started step =>
    refine .heap started ?_
    cases step with
    | acquire found => exact .acquire found
    | lower found several => exact .lower found several
    | free found last => exact .free found last
    | allocate object => exact .allocate object
    | change found allowed balance =>
      cases extent with
      | temporary => exact absurd allowed not_false
      | lasting => exact .change found allowed balance
  | ended held' ended => exact .ended held' ended
  | enlist started free => exact .enlist started free
  | delist listed => exact .delist listed
  | define definitions => exact .define definitions
  | finalize held' => exact .finalize held'

theorem Path.lasting {extent : Extent} {before after : Space β × Multiset Handle}
    (path : Path extent before after) : Path .lasting before after := by
  induction path with
  | refl => exact .refl
  | tail _ step ih => exact ih.tail step.lasting

theorem Step.roots_eq_none {extent : Extent} {before after : Space β × Multiset Handle}
    (step : Step extent before after) (ended : before.1.roots = none) : after.1.roots = none := by
  cases step with
  | finalize held' => exact roots_finalize _
  | _ => assumption

theorem Path.roots_eq_none {extent : Extent} {before after : Space β × Multiset Handle}
    (path : Path extent before after) (ended : before.1.roots = none) : after.1.roots = none := by
  induction path with
  | refl => exact ended
  | tail _ step ih => exact step.roots_eq_none ih

theorem Step.roots_eq {extent : Extent} {before after : Space β × Multiset Handle} (step : Step extent before after)
    (started : after.1.roots.isSome) : after.1.roots = before.1.roots := by
  cases step with
  | finalize held' => simp [roots_finalize] at started
  | _ => rfl

theorem Path.roots_eq {extent : Extent} {before after : Space β × Multiset Handle} (path : Path extent before after)
    (started : after.1.roots.isSome) : after.1.roots = before.1.roots := by
  induction path with
  | refl => rfl
  | tail _ step ih =>
    have same := step.roots_eq started
    exact same.trans (ih (same ▸ started))

/-- A property of an object that no change in place takes from it stays with the object as long as
someone else holds on to it, or the space itself as one of its roots, and the space is not finalized. -/
theorem Path.kept_of {extent : Extent} {before after : Space β × Multiset Handle} {frame : Multiset Handle}
    {handle : Handle} {property : Object β → Prop}
    (closed : ∀ object object', Object.Changes object object' → property object → property object')
    (path : Path extent before after) (exact : before.1.Exact (before.2 + frame))
    (outside : handle ∈ frame ∨ handle ∈ before.1.rootHandles)
    (holds : ∃ object, before.1.heap.get? handle = some object ∧ property object)
    (started : after.1.roots.isSome) :
    ∃ object, after.1.heap.get? handle = some object ∧ property object := by
  induction path with
  | refl => exact holds
  | @tail middle last path step ih =>
    have kept := Path.exact path exact
    have referred (earlier : middle.1.roots.isSome) : handle ∈ frame + middle.1.own := by
      refine Multiset.mem_add.mpr (outside.imp_right fun root => ?_)
      refine Multiset.mem_add.mpr (Or.inr (Multiset.mem_coe.mpr ?_))
      rwa [rootHandles, Path.roots_eq path earlier]
    cases step with
    | heap earlier step =>
      obtain ⟨object, found, here⟩ := ih earlier
      rcases step.kept (add_assoc _ frame _ ▸ kept.started earlier)
        (Or.inl (referred earlier)) with same | ⟨old, new, was, allowed, now⟩
      · exact ⟨object, same.trans found, here⟩
      · obtain rfl : old = object := by simpa [found, eq_comm] using was
        cases extent with
        | temporary => exact absurd allowed not_false
        | lasting => exact ⟨new, now, closed old new allowed here⟩
    | finalize held' => simp [roots_finalize] at started
    | _ => exact ih started

theorem Path.kept {extent : Extent} {before after : Space β × Multiset Handle} {frame : Multiset Handle}
    {handle : Handle} {property : Object β → Prop}
    (closed : ∀ object object', Object.Changes object object' → property object → property object')
    (path : Path extent before after) (exact : before.1.Exact (before.2 + frame)) (outside : handle ∈ frame)
    (holds : ∃ object, before.1.heap.get? handle = some object ∧ property object) (started : after.1.roots.isSome) :
    ∃ object, after.1.heap.get? handle = some object ∧ property object :=
  path.kept_of closed exact (Or.inl outside) holds started

theorem path_of_heap {extent : Extent} {space : Space β} {heap : Heap (Object β)}
    {held held' : Multiset Handle} (started : space.roots.isSome)
    (path : Heap.Path Object.children extent.changes (space.heap, held) (heap, held')) :
    Path extent (space, held) ({ space with heap }, held') := by
  suffices general : ∀ after : Heap (Object β) × Multiset Handle,
      Heap.Path Object.children extent.changes (space.heap, held) after →
        Path extent (space, held) ({ space with heap := after.1 }, after.2) from general (heap, held') path
  intro after path
  induction path with
  | refl => exact .refl
  | tail _ step ih => exact ih.tail (.heap started step)

@[simp] theorem roots_retainAll (space : Space β) (handles : List Handle) :
    (space.retainAll handles).roots = space.roots := by
  unfold retainAll
  induction handles generalizing space with
  | nil => rfl
  | cons handle rest ih => exact ih (space.retain handle)

theorem modules_retainAll (space : Space β) (handles : List Handle) :
    (space.retainAll handles).modules = space.modules := by
  unfold retainAll
  induction handles generalizing space with
  | nil => rfl
  | cons handle rest ih => exact ih (space.retain handle)

theorem definitions_retainAll (space : Space β) (handles : List Handle) :
    (space.retainAll handles).definitions = space.definitions := by
  unfold retainAll
  induction handles generalizing space with
  | nil => rfl
  | cons handle rest ih => exact ih (space.retain handle)

theorem sound_retainAll {space : Space β} (sound : space.heap.Sound) (handles : List Handle) :
    (space.retainAll handles).heap.Sound := by
  unfold retainAll
  induction handles generalizing space with
  | nil => exact sound
  | cons handle rest ih => exact ih (Heap.sound_acquire sound handle)

theorem get?_retainAll (space : Space β) (handles : List Handle) (other : Handle) :
    (space.retainAll handles).heap.get? other = space.heap.get? other := by
  unfold retainAll
  induction handles generalizing space with
  | nil => rfl
  | cons handle rest ih =>
    rw [List.foldl_cons, ih]
    exact Heap.get?_acquire _ _ _

section Counting

variable (extent : Extent) {space : Space β} {held frame : Multiset Handle}

theorem started_of_get? (exact : space.Exact held) {handle : Handle} {object : Object β}
    (found : space.heap.get? handle = some object) : space.roots.isSome := by
  cases started : space.roots with
  | some roots => rfl
  | none => simp [(exact.ended started).1, Heap.get?, Heap.cell?_empty] at found

theorem exists_cell_of_held (exact : space.Exact held) (started : space.roots.isSome)
    {handle : Handle} (member : handle ∈ held) : ∃ cell, space.heap.cell? handle = some cell :=
  (exact.started started).exists_cell_of_held (Multiset.mem_add.mpr (Or.inl member))

theorem cell?_of_ended (exact : space.Exact held) (ended : space.roots = none) (handle : Handle) :
    space.heap.cell? handle = none := by
  rw [(exact.ended ended).1]
  exact Heap.cell?_empty handle

theorem retain_of_ended (exact : space.Exact held) (ended : space.roots = none) (handle : Handle) :
    space.retain handle = space := by
  simp [retain, Heap.acquire, cell?_of_ended exact ended handle]

theorem release_of_ended (exact : space.Exact held) (ended : space.roots = none) (handle : Handle) :
    space.release handle = space := by
  simp [release, Heap.release_of_stale (cell?_of_ended exact ended handle)]

theorem path_retain (exact : space.Exact (held + frame)) {handle : Handle}
    (live : space.roots.isSome → ∃ cell, space.heap.cell? handle = some cell) :
    Path extent (space, held) (space.retain handle, handle ::ₘ held) := by
  cases started : space.roots with
  | some roots =>
    obtain ⟨cell, found⟩ := live (by simp [started])
    exact .single (.heap (by simp [started]) (.acquire found))
  | none =>
    rw [retain_of_ended exact started]
    exact .single (.ended _ started)

theorem exists_cell_retain {handle other : Handle}
    (live : ∃ cell, space.heap.cell? other = some cell) :
    ∃ cell, (space.retain handle).heap.cell? other = some cell := by
  obtain ⟨cell, found⟩ := live
  by_cases same : other = handle
  · subst same
    simp [retain, Heap.cell?_acquire, found]
  · simp [retain, Heap.cell?_acquire, same, found]

theorem path_retainAll (exact : space.Exact (held + frame)) {handles : List Handle}
    (live : space.roots.isSome → ∀ handle ∈ handles, ∃ cell, space.heap.cell? handle = some cell) :
    Path extent (space, held) (space.retainAll handles, (handles : Multiset Handle) + held) := by
  induction handles generalizing space held with
  | nil => simpa [retainAll] using Relation.ReflTransGen.refl
  | cons handle rest ih =>
    have first := path_retain extent exact fun started =>
      live started handle List.mem_cons_self
    have later := ih (first.exact exact) fun started other member =>
      exists_cell_retain (live started other (List.mem_cons_of_mem _ member))
    rw [← Multiset.cons_coe, Multiset.cons_add, ← Multiset.add_cons]
    exact first.trans later

theorem path_release {handle : Handle} (exact : space.Exact (handle ::ₘ held + frame)) :
    Path extent (space, handle ::ₘ held) (space.release handle, held) := by
  cases started : space.roots with
  | some roots =>
    have kept := exact.started (by simp [started])
    refine path_of_heap (by simp [started]) ?_
    have path := Heap.path_releaseAll extent.changes space.heap [handle] [] held
      (frame + space.own) (by simpa [add_assoc] using kept)
    simpa [Heap.release] using path
  | none =>
    rw [release_of_ended exact started]
    exact .single (.ended _ started)

theorem path_releaseAll {handles : List Handle}
    (exact : space.Exact ((handles : Multiset Handle) + held + frame)) :
    Path extent (space, (handles : Multiset Handle) + held) (space.releaseAll handles, held) := by
  induction handles generalizing space with
  | nil => simpa [releaseAll] using Relation.ReflTransGen.refl
  | cons handle rest ih =>
    rw [← Multiset.cons_coe, Multiset.cons_add] at exact ⊢
    have first := path_release extent exact
    exact first.trans (ih (first.exact exact))

theorem path_releaseAll_zero {handles : List Handle}
    (exact : space.Exact ((handles : Multiset Handle) + frame)) :
    Path extent (space, (handles : Multiset Handle)) (space.releaseAll handles, 0) := by
  have path : Path extent (space, (handles : Multiset Handle) + 0) (space.releaseAll handles, 0) :=
    path_releaseAll extent (by simpa using exact)
  simpa using path

end Counting

end Space

end ObjectBridge.Guest

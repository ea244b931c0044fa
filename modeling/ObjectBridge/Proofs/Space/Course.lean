import ObjectBridge.Proofs.Heap.Generations
import ObjectBridge.Proofs.Space.Exact

/-!
Courses: what a space goes through, with a count of how often one of its slots is vacated. The generations
of a slot come round after 2^32 of them. In a course that is shorter than that, a handle that names an object
before and after names the same object all the time.
-/

namespace ObjectBridge.Guest

def Object.Fixed {β : Type} (object : Object β) : Prop :=
  ∀ object', ¬Object.Changes object object'

theorem Object.fixed_of_kind {β : Type} {object : Object β}
    (unbound : object.kind ∉ [.dict, .typeObject, .object, .moduleObject]) : object.Fixed := by
  intro object' changes
  cases changes <;> simp [Object.kind] at unbound

theorem Object.fixed_str {β : Type} (text : String) : Fixed (.str text : Object β) :=
  fixed_of_kind (by simp [Object.kind])

theorem Object.fixed_tuple {β : Type} (items : List Handle) : Fixed (.tuple items : Object β) :=
  fixed_of_kind (by simp [Object.kind])

theorem Object.fixed_function {β : Type} (callable : Function β) : Fixed (.function callable) :=
  fixed_of_kind (by simp [Object.kind])

namespace Space

variable {β : Type}

/-- How often the slot is vacated in a step from one state to the other: once, if its generation changes. -/
def vacations (slot : Nat) (before after : Space β) : Nat :=
  match before.heap.generation? slot with
  | none => 0
  | some generation => if after.heap.generation? slot = some generation then 0 else 1

inductive Course (slot : Nat) : Nat → Space β × Multiset Handle → Space β × Multiset Handle → Prop
  | refl (state) : Course slot 0 state state
  | tail {times first second third} (course : Course slot times first second)
      (step : Step .lasting second third) : Course slot (times + vacations slot second.1 third.1) first third

section Course

variable {slot times : Nat} {before after : Space β × Multiset Handle}

theorem Course.path (course : Course slot times before after) : Path .lasting before after := by
  induction course with
  | refl => exact .refl
  | tail _ step ih => exact ih.tail step

theorem Step.started {extent : Extent} {before after : Space β × Multiset Handle} (step : Step extent before after)
    (started : after.1.roots.isSome) : before.1.roots.isSome := by
  by_contra ended
  rw [step.roots_eq_none (Option.not_isSome_iff_eq_none.mp ended)] at started
  cases started

theorem Step.generation (step : Step .lasting before after) (started : after.1.roots.isSome) {generation : UInt32}
    (known : before.1.heap.generation? slot = some generation) :
    after.1.heap.generation? slot = some (generation + UInt32.ofNat (vacations slot before.1 after.1)) := by
  have unmoved (same : after.1.heap.generation? slot = some generation) :
      after.1.heap.generation? slot = some (generation + UInt32.ofNat (vacations slot before.1 after.1)) := by
    simp [vacations, known, same]
  cases step with
  | heap _ step =>
    rcases step.generation known with same | moved
    · exact unmoved same
    · simp only [vacations, known]
      rw [moved, if_neg (by simp)]
      rfl
  | finalize held' => simp [roots_finalize] at started
  | _ => exact unmoved known

theorem vacations_of_cell {before after : Space β} {handle : Handle}
    (earlier : ∃ cell, before.heap.cell? handle = some cell) (later : ∃ cell, after.heap.cell? handle = some cell) :
    vacations handle.index before after = 0 := by
  obtain ⟨_, earlier⟩ := earlier
  obtain ⟨_, later⟩ := later
  simp [vacations, Heap.generation?_of_cell earlier, Heap.generation?_of_cell later]

theorem Path.course_of_held {frame : Multiset Handle} {handle : Handle} (path : Path .lasting before after)
    (exact : before.1.Exact (before.2 + frame)) (held : handle ∈ frame) (started : after.1.roots.isSome) :
    Course handle.index 0 (before.1, before.2 + frame) (after.1, after.2 + frame) := by
  induction path with
  | refl => exact .refl _
  | @tail second third path step ih =>
    have startedThen := step.started started
    have there (state : Space β × Multiset Handle) (reached : Path .lasting before state)
        (running : state.1.roots.isSome) : ∃ cell, state.1.heap.cell? handle = some cell :=
      exists_cell_of_held (Path.exact reached exact) running (Multiset.mem_add.mpr (Or.inr held))
    have later := (ih startedThen).tail (step.frame frame)
    rwa [vacations_of_cell (there second path startedThen) (there third (path.tail step) started)] at later

theorem Course.generation (course : Course slot times before after) (started : after.1.roots.isSome)
    {generation : UInt32} (known : before.1.heap.generation? slot = some generation) :
    after.1.heap.generation? slot = some (generation + UInt32.ofNat times) := by
  induction course with
  | refl => simpa using known
  | tail _ step ih =>
    rw [step.generation started (ih (step.started started) known), UInt32.ofNat_add, UInt32.add_assoc]

theorem eq_zero_of_generation {generation : UInt32} (few : times < 2 ^ 32)
    (same : generation + UInt32.ofNat times = generation) : times = 0 := by
  have code := congrArg UInt32.toNat same
  have below := generation.toNat_lt
  rw [UInt32.toNat_add, UInt32.toNat_ofNat_of_lt' few] at code
  omega

theorem Step.stays (step : Step .lasting before after) {held : Multiset Handle} (exact : before.1.Exact held)
    (started : after.1.roots.isSome) {handle : Handle} {object : Object β}
    (found : before.1.heap.get? handle = some object)
    (same : after.1.heap.generation? handle.index = some handle.generation) :
    ∃ object', after.1.heap.get? handle = some object' ∧ (object' = object ∨ Object.Changes object object') := by
  cases step with
  | heap startedThen step => exact step.stays (exact.started startedThen).sound found same
  | finalize held' => simp [roots_finalize] at started
  | _ => exact ⟨object, found, Or.inl rfl⟩

theorem Course.stays {property : Object β → Prop}
    (closed : ∀ object object', Object.Changes object object' → property object → property object')
    {frame : Multiset Handle} {handle : Handle} (course : Course handle.index 0 before after)
    (exact : before.1.Exact (before.2 + frame)) (started : after.1.roots.isSome)
    (holds : ∃ object, before.1.heap.get? handle = some object ∧ property object) :
    ∃ object, after.1.heap.get? handle = some object ∧ property object := by
  generalize unvacated : 0 = times at course
  induction course with
  | refl => exact holds
  | @tail times first second third course step ih =>
    obtain ⟨none, still⟩ : times = 0 ∧ vacations handle.index second.1 third.1 = 0 := by omega
    obtain ⟨object, found, here⟩ := ih exact (step.started started) holds none.symm
    have generation := step.generation started (Heap.generation?_of_get? found)
    rw [still] at generation
    obtain ⟨object', found', changed⟩ :=
      step.stays (Path.exact course.path exact) started found (by simpa using generation)
    refine ⟨object', found', ?_⟩
    rcases changed with rfl | changes
    · exact here
    · exact closed object object' changes here

theorem Course.unchanged {frame : Multiset Handle} {handle : Handle} {object : Object β}
    (course : Course handle.index 0 before after) (exact : before.1.Exact (before.2 + frame))
    (started : after.1.roots.isSome) (fixed : object.Fixed) (found : before.1.heap.get? handle = some object) :
    after.1.heap.get? handle = some object := by
  obtain ⟨_, found', rfl⟩ : ∃ object', after.1.heap.get? handle = some object' ∧ object' = object :=
    course.stays (fun _ _ changes same => absurd (same ▸ changes) (fixed _)) exact started ⟨object, found, rfl⟩
  exact found'

theorem Course.child {frame : Multiset Handle} {handle child : Handle} {object : Object β}
    (course : Course handle.index 0 before after) (exact : before.1.Exact (before.2 + frame))
    (started : after.1.roots.isSome) (fixed : object.Fixed) (found : before.1.heap.get? handle = some object)
    (listed : child ∈ object.children) : Course child.index 0 before after := by
  generalize unvacated : 0 = times at course
  induction course with
  | refl => exact .refl _
  | @tail times first second third course step ih =>
    obtain ⟨rfl, still⟩ : times = 0 ∧ vacations handle.index second.1 third.1 = 0 := by omega
    have whole : Course handle.index 0 first third := by simpa [still] using course.tail step
    have held (state : Space β × Multiset Handle) (reached : Course handle.index 0 first state)
        (running : state.1.roots.isSome) : ∃ cell, state.1.heap.cell? child = some cell :=
      ((Path.exact reached.path exact).started running).exists_cell_of_child
        (reached.unchanged exact running fixed found) listed
    have later := (ih exact (step.started started) found rfl).tail step
    rw [vacations_of_cell (held second course (step.started started)) (held third whole started)] at later
    rwa [still]

end Course

end Space

end ObjectBridge.Guest

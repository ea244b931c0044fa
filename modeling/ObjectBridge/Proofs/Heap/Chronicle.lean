import ObjectBridge.Proofs.Heap.Generations

/-!
Chronicles: what has happened in a heap since it was empty, object by object. The generation of a slot is
the number of times it was freed, as far as 32 bits can tell. So a handle is answered as long as its slot
was not freed since, and it takes 2^32 frees of the slot before another object answers to it.
-/

namespace ObjectBridge.Guest.Heap

variable {α : Type}

inductive Request (α : Type) where
  | allocate (object : α)
  | acquire (handle : Handle)
  | release (handle : Handle)

inductive Event (α : Type) where
  | issued (handle : Handle) (object : α)
  | freed (handle : Handle)
  deriving DecidableEq

namespace Event

def handle? : Event α → Option Handle
  | .issued handle _ => some handle
  | .freed _ => none

def frees (slot : Nat) : Event α → Bool
  | .issued .. => false
  | .freed handle => handle.index == slot

end Event

def frees (slot : Nat) (events : List (Event α)) : Nat :=
  events.countP (Event.frees slot)

def issued (events : List (Event α)) : List Handle :=
  events.filterMap Event.handle?

/-- The handles of the objects that are freed when the references in `pending` are given back, in the order
in which they go. -/
def vacated (children : α → List Handle) (heap : Heap α) (pending : List Handle) : List Handle :=
  match pending with
  | [] => []
  | handle :: pending =>
    match _found : heap.cell? handle with
    | none => vacated children heap pending
    | some cell =>
      if cell.count ≤ 1 then
        handle :: vacated children (heap.vacate handle.index) ((children cell.object).reverse ++ pending)
      else vacated children (heap.occupy handle.index { cell with count := cell.count - 1 }) pending
termination_by pending.length + heap.referenceCount children
decreasing_by
  · simp
  · have fewer := referenceCount_vacate children _found
    simp only [List.length_append, List.length_reverse, List.length_cons]
    omega
  · rw [referenceCount_occupy children _found]
    simp

def Request.perform (children : α → List Handle) (heap : Heap α) : Request α → Heap α × List (Event α)
  | .allocate object => ((heap.allocate object).2, [.issued (heap.allocate object).1 object])
  | .acquire handle => (heap.acquire handle, [])
  | .release handle => (heap.release children handle, (heap.vacated children [handle]).map .freed)

def chronicle (children : α → List Handle) (requests : List (Request α)) : Heap α × List (Event α) :=
  requests.foldl (fun (heap, events) request =>
    let (heap, more) := request.perform children heap
    (heap, events ++ more)) (empty, [])

def Occupied (heap : Heap α) (slot : Nat) : Prop :=
  ∃ content, heap.slots.get? slot = some content ∧ content.cell.isSome

@[simp] theorem frees_nil (slot : Nat) : frees slot ([] : List (Event α)) = 0 :=
  rfl

@[simp] theorem frees_append (slot : Nat) (first second : List (Event α)) :
    frees slot (first ++ second) = frees slot first + frees slot second :=
  List.countP_append

@[simp] theorem frees_issued (slot : Nat) (handle : Handle) (object : α) (events : List (Event α)) :
    frees slot (.issued handle object :: events) = frees slot events := by
  simp [frees, Event.frees]

theorem frees_freed (slot : Nat) (handle : Handle) :
    frees slot ([.freed handle] : List (Event α)) = if slot = handle.index then 1 else 0 := by
  by_cases same : slot = handle.index
  · simp [frees, Event.frees, same]
  · simp [frees, Event.frees, same, Ne.symm same]

theorem issued_append (first second : List (Event α)) : issued (first ++ second) = issued first ++ issued second :=
  List.filterMap_append

theorem mem_issued {events : List (Event α)} {handle : Handle} :
    handle ∈ issued events ↔ ∃ earlier object later, events = earlier ++ .issued handle object :: later := by
  constructor
  · intro member
    obtain ⟨event, listed, shown⟩ := List.mem_filterMap.mp member
    obtain ⟨earlier, later, rfl⟩ := List.append_of_mem listed
    cases event with
    | issued other object =>
      obtain rfl : other = handle := Option.some.inj shown
      exact ⟨earlier, object, later, rfl⟩
    | freed other => cases shown
  · rintro ⟨earlier, object, later, rfl⟩
    exact List.mem_filterMap.mpr ⟨.issued handle object, by simp, rfl⟩

section Vacated

variable {children : α → List Handle} {heap : Heap α} {handle : Handle} {pending : List Handle} {cell : Cell α}

theorem vacated_nil : heap.vacated children [] = [] := by
  rw [vacated]

theorem vacated_stale (stale : heap.cell? handle = none) :
    heap.vacated children (handle :: pending) = heap.vacated children pending := by
  rw [vacated]
  split <;> simp_all

theorem vacated_last (found : heap.cell? handle = some cell) (last : cell.count ≤ 1) :
    heap.vacated children (handle :: pending) =
      handle :: (heap.vacate handle.index).vacated children ((children cell.object).reverse ++ pending) := by
  rw [vacated]
  split <;> simp_all

theorem vacated_several (found : heap.cell? handle = some cell) (several : ¬cell.count ≤ 1) :
    heap.vacated children (handle :: pending) =
      (heap.occupy handle.index { cell with count := cell.count - 1 }).vacated children pending := by
  rw [vacated]
  split <;> simp_all

end Vacated

theorem exists_of_mem_vacated {children : α → List Handle} {heap : Heap α} {pending : List Handle} {other : Handle}
    (member : other ∈ heap.vacated children pending) : ∃ object, heap.get? other = some object := by
  fun_induction vacated children heap pending with
  | case1 => simp at member
  | case2 heap handle pending stale ih => exact ih member
  | case3 heap handle pending cell found last ih =>
    rcases List.mem_cons.mp member with rfl | later
    · exact ⟨cell.object, get?_of_cell found⟩
    · obtain ⟨object, shown⟩ := ih later
      exact ⟨object, get?_of_vacate found shown⟩
  | case4 heap handle pending cell found several ih =>
    obtain ⟨object, shown⟩ := ih member
    exact ⟨object, (get?_occupy_count found _ other).symm.trans shown⟩

theorem get?_of_mem_vacated {children : α → List Handle} {heap : Heap α} {handle other : Handle} {cell : Cell α}
    {pending : List Handle} (found : heap.cell? handle = some cell)
    (member : other ∈ (heap.vacate handle.index).vacated children pending) :
    (heap.vacate handle.index).get? other = heap.get? other := by
  obtain ⟨object, shown⟩ := exists_of_mem_vacated member
  rw [shown, get?_of_vacate found shown]

structure Recorded (heap : Heap α) (events : List (Event α)) : Prop where
  sound : heap.Sound
  generation : ∀ slot generation, heap.generation? slot = some generation →
    generation = UInt32.ofNat (frees slot events)
  unused : ∀ slot, heap.generation? slot = none → frees slot events = 0
  stamped : ∀ earlier handle object later, events = earlier ++ .issued handle object :: later →
    handle.generation = UInt32.ofNat (frees handle.index earlier) ∧ (heap.generation? handle.index).isSome
  present : ∀ earlier handle object later, events = earlier ++ .issued handle object :: later →
    frees handle.index later = 0 → heap.get? handle = some object
  distinct : (∀ slot, frees slot events < 2 ^ 32) → (issued events).Nodup

theorem recorded_empty : (empty : Heap α).Recorded [] where
  sound := sound_empty
  generation slot generation known := by
    rw [generation?, show (empty : Heap α).slots.get? slot = none from
      (Sequence.get?_eq_none_iff _ _).mpr (Nat.zero_le _)] at known
    cases known
  unused _ _ := rfl
  stamped earlier handle object later same := by simp at same
  present earlier handle object later same := by simp at same
  distinct _ := List.nodup_nil

theorem ofNat_eq_add_iff (times more : Nat) :
    UInt32.ofNat times = UInt32.ofNat (times + more) ↔ 2 ^ 32 ∣ more := by
  rw [← UInt32.toNat_inj, UInt32.toNat_ofNat', UInt32.toNat_ofNat']
  omega

theorem append_singleton_eq {events earlier later : List (Event α)} {last event : Event α}
    (same : events ++ [last] = earlier ++ event :: later) :
    events = earlier ∧ last = event ∧ later = [] ∨
      ∃ between, later = between ++ [last] ∧ events = earlier ++ event :: between := by
  rcases List.eq_nil_or_concat later with rfl | ⟨between, final, rfl⟩
  · obtain ⟨same, one⟩ := List.append_inj' same rfl
    exact Or.inl ⟨same, by simpa using one, rfl⟩
  · rw [List.concat_eq_append, ← List.cons_append, ← List.append_assoc] at same
    obtain ⟨same, one⟩ := List.append_inj' same rfl
    exact Or.inr ⟨between, by simpa using one.symm, same⟩

theorem generation?_of_allocate {heap : Heap α} (sound : heap.Sound) {object : α} {slot : Nat} {generation : UInt32}
    (known : (heap.allocate object).2.generation? slot = some generation) :
    heap.generation? slot = some generation ∨ heap.generation? slot = none ∧ generation = 0 := by
  cases before : heap.generation? slot with
  | some earlier =>
    rw [generation?_allocate before] at known
    exact Or.inl known
  | none =>
    refine Or.inr ⟨rfl, ?_⟩
    rcases allocate_cases sound object with ⟨index, free, content, -, -, -, made⟩ | ⟨-, made⟩
    · have same : (heap.occupy index { count := 1, object }).generation? slot = some generation := by
        rwa [made] at known
      rw [generation?_occupy, before] at same
      cases same
    · simp only [made, generation?, Sequence.get?_push] at known
      split at known
      · simpa using known.symm
      · rw [generation?] at before
        rw [before] at known
        cases known

namespace Recorded

variable {heap : Heap α} {events : List (Event α)} (recorded : heap.Recorded events)
include recorded

theorem of_same {heap' : Heap α} (sound : heap'.Sound) (generations : heap'.generation? = heap.generation?)
    (objects : heap'.get? = heap.get?) : heap'.Recorded events where
  sound := sound
  generation := generations ▸ recorded.generation
  unused := generations ▸ recorded.unused
  stamped := generations ▸ recorded.stamped
  present := objects ▸ recorded.present
  distinct := recorded.distinct

theorem occupy {handle : Handle} {cell : Cell α} (found : heap.cell? handle = some cell) (count : Nat) :
    (heap.occupy handle.index { cell with count }).Recorded events :=
  recorded.of_same (sound_occupy found recorded.sound _) (funext fun _ => generation?_occupy _ _ _ _)
    (funext fun _ => get?_occupy_count found _ _)

theorem acquire (handle : Handle) : (heap.acquire handle).Recorded events :=
  recorded.of_same (sound_acquire recorded.sound handle) (funext fun _ => generation?_acquire _ _ _)
    (funext fun _ => get?_acquire _ _ _)

theorem vacate {handle : Handle} {cell : Cell α} (found : heap.cell? handle = some cell) :
    (heap.vacate handle.index).Recorded (events ++ [.freed handle]) where
  sound := sound_vacate found recorded.sound
  generation slot generation known := by
    rw [generation?_vacate] at known
    rw [frees_append, frees_freed]
    split at known
    · rename_i same
      rw [generation?_of_cell found, Option.map_some, Option.some.injEq] at known
      rw [if_pos same, same, UInt32.ofNat_add, ← recorded.generation _ _ (generation?_of_cell found)]
      exact known.symm
    · rename_i different
      rw [if_neg different, Nat.add_zero]
      exact recorded.generation slot generation known
  unused slot unknown := by
    rw [generation?_vacate] at unknown
    split at unknown
    · rw [generation?_of_cell found] at unknown
      cases unknown
    · rename_i different
      rw [frees_append, frees_freed, if_neg different, Nat.add_zero]
      exact recorded.unused slot unknown
  stamped earlier other object later same := by
    rcases append_singleton_eq same with ⟨-, wrong, -⟩ | ⟨between, rfl, before⟩
    · cases wrong
    · obtain ⟨stamp, known⟩ := recorded.stamped earlier other object between before
      refine ⟨stamp, ?_⟩
      rw [generation?_vacate]
      split
      · rw [generation?_of_cell found]
        rfl
      · exact known
  present earlier other object later same unfreed := by
    rcases append_singleton_eq same with ⟨-, wrong, -⟩ | ⟨between, rfl, before⟩
    · cases wrong
    · rw [frees_append, frees_freed] at unfreed
      have apart : other ≠ handle := by
        rintro rfl
        simp at unfreed
      rw [get?_vacate found, if_neg apart]
      exact recorded.present earlier other object between before (by omega)
  distinct few := by
    have before := recorded.distinct fun slot => by
      have := few slot
      rw [frees_append] at this
      omega
    rw [issued_append]
    exact (List.append_nil _).symm ▸ before

theorem generation_allocate (object : α) {slot : Nat} {generation : UInt32}
    (known : (heap.allocate object).2.generation? slot = some generation) :
    generation = UInt32.ofNat (frees slot events) := by
  rcases generation?_of_allocate recorded.sound known with before | ⟨unknown, rfl⟩
  · exact recorded.generation slot generation before
  · rw [recorded.unused slot unknown]
    rfl

theorem allocate (object : α) :
    (heap.allocate object).2.Recorded (events ++ [.issued (heap.allocate object).1 object]) := by
  have sound := recorded.sound
  have made : (heap.allocate object).2.get? (heap.allocate object).1 = some object := by
    rw [get?_allocate sound, if_pos rfl]
  have stamp := recorded.generation_allocate object (generation?_of_get? made)
  refine ⟨sound_allocate sound object, fun slot generation known => ?_, fun slot unknown => ?_,
    fun earlier handle other later same => ?_, fun earlier handle other later same unfreed => ?_, fun few => ?_⟩
  · simpa using recorded.generation_allocate object known
  · cases before : heap.generation? slot with
    | some generation =>
      rw [generation?_allocate before] at unknown
      cases unknown
    | none => simpa using recorded.unused slot before
  · rcases append_singleton_eq same with ⟨rfl, one, -⟩ | ⟨between, rfl, before⟩
    · cases one
      exact ⟨stamp, by rw [generation?_of_get? made]; rfl⟩
    · obtain ⟨stamped, known⟩ := recorded.stamped earlier handle other between before
      obtain ⟨generation, known⟩ := Option.isSome_iff_exists.mp known
      exact ⟨stamped, by rw [generation?_allocate known]; rfl⟩
  · rcases append_singleton_eq same with ⟨rfl, one, -⟩ | ⟨between, rfl, before⟩
    · cases one
      exact made
    · rw [frees_append] at unfreed
      exact get?_allocate_of_get? sound object (recorded.present earlier handle other between before (by omega))
  · have fewer : ∀ slot, frees slot events < 2 ^ 32 := fun slot => by simpa using few slot
    have fresh : (heap.allocate object).1 ∉ issued events := by
      intro listed
      obtain ⟨earlier, other, later, before⟩ := mem_issued.mp listed
      obtain ⟨stamped, -⟩ := recorded.stamped earlier _ other later before
      have total := fewer (heap.allocate object).1.index
      rw [stamped, before, frees_append, frees_issued] at stamp
      rw [before, frees_append, frees_issued] at total
      have none := Nat.eq_zero_of_dvd_of_lt ((ofNat_eq_add_iff _ _).mp stamp) (by omega)
      have there := recorded.present earlier _ other later before none
      rw [get?, cell?_fst_allocate sound] at there
      cases there
    rw [issued_append]
    exact List.nodup_append.mpr ⟨recorded.distinct fewer, List.nodup_singleton _, fun handle member other one =>
      fun same => fresh (List.mem_singleton.mp one ▸ same ▸ member)⟩

theorem releaseAll (children : α → List Handle) (pending : List Handle) (freed : List α) :
    (heap.releaseAll children pending freed).1.Recorded (events ++ (heap.vacated children pending).map .freed) := by
  fun_induction Heap.releaseAll children heap pending freed generalizing events with
  | case1 heap freed => simpa [vacated_nil] using recorded
  | case2 heap freed handle pending stale ih =>
    rw [vacated_stale stale]
    exact ih recorded
  | case3 heap freed handle pending cell found last ih =>
    rw [vacated_last found last, List.map_cons, List.append_cons]
    exact ih (recorded.vacate found)
  | case4 heap freed handle pending cell found several ih =>
    rw [vacated_several found several]
    exact ih (recorded.occupy found _)

theorem perform (children : α → List Handle) (request : Request α) :
    (request.perform children heap).1.Recorded (events ++ (request.perform children heap).2) := by
  cases request with
  | allocate object => exact recorded.allocate object
  | acquire handle => simpa [Request.perform] using recorded.acquire handle
  | release handle => exact recorded.releaseAll children [handle] []

end Recorded

theorem recorded_chronicle (children : α → List Handle) (requests : List (Request α)) :
    (chronicle children requests).1.Recorded (chronicle children requests).2 := by
  suffices later : ∀ (heap : Heap α) events, heap.Recorded events →
      let reached := requests.foldl (fun (heap, events) request =>
        ((request.perform children heap).1, events ++ (request.perform children heap).2)) (heap, events)
      reached.1.Recorded reached.2 from later empty [] recorded_empty
  induction requests with
  | nil => exact fun _ _ recorded => recorded
  | cons request rest ih => exact fun _ _ recorded => ih _ _ (recorded.perform children request)

namespace Recorded

variable {heap : Heap α} {events earlier later : List (Event α)} {handle : Handle} {object : α}

theorem isSome_get?_iff (recorded : heap.Recorded events) (came : events = earlier ++ .issued handle object :: later) :
    (heap.get? handle).isSome ↔ heap.Occupied handle.index ∧ 2 ^ 32 ∣ frees handle.index later := by
  obtain ⟨stamp, known⟩ := recorded.stamped earlier handle object later came
  obtain ⟨generation, known⟩ := Option.isSome_iff_exists.mp known
  obtain ⟨content, here, rfl⟩ := Option.map_eq_some_iff.mp known
  have current := recorded.generation handle.index content.generation known
  rw [came, frees_append, frees_issued] at current
  have cell : heap.cell? handle = if content.generation = handle.generation then content.cell else none :=
    cell?_of_slot handle here
  have matching : content.generation = handle.generation ↔ 2 ^ 32 ∣ frees handle.index later := by
    rw [current, stamp, eq_comm]
    exact ofNat_eq_add_iff _ _
  have occupied : heap.Occupied handle.index ↔ content.cell.isSome := by
    simp [Occupied, here]
  rw [get?, cell, occupied, ← matching]
  by_cases same : content.generation = handle.generation <;> simp [same]

theorem get?_of_few (recorded : heap.Recorded events) (came : events = earlier ++ .issued handle object :: later)
    (few : frees handle.index events < 2 ^ 32) :
    heap.get? handle = if frees handle.index later = 0 then some object else none := by
  split
  · rename_i unfreed
    exact recorded.present earlier handle object later came unfreed
  · rename_i freed
    rw [came, frees_append, frees_issued] at few
    refine Option.not_isSome_iff_eq_none.mp fun answered => freed ?_
    exact Nat.eq_zero_of_dvd_of_lt ((recorded.isSome_get?_iff came).mp answered).2 (by omega)

theorem nodup_ids (recorded : heap.Recorded events) (small : heap.slots.size < 2 ^ 32)
    (few : ∀ slot, frees slot events < 2 ^ 32) : ((issued events).map Handle.id).Nodup := by
  have below : ∀ handle ∈ issued events, handle.index < UInt32.size := by
    intro handle member
    obtain ⟨earlier, object, later, came⟩ := mem_issued.mp member
    obtain ⟨-, known⟩ := recorded.stamped earlier handle object later came
    rw [generation?, Option.isSome_map, Sequence.isSome_get?_iff] at known
    exact known.trans small
  refine List.Nodup.map_on (fun first here second there same => ?_) (recorded.distinct few)
  have one := below first here
  have two := below second there
  obtain ⟨index, generation⟩ := first
  obtain ⟨index', generation'⟩ := second
  simp only [Handle.id, UInt32.size] at same one two
  have generations : generation = generation' := UInt32.toNat_inj.mp (by omega)
  subst generations
  simpa using same

end Recorded

/-- Whatever was taken in, referred to and given back: a handle that was given out is answered, and counts one
more reference, exactly when its slot is occupied and was freed a multiple of 2^32 times since; one that is not
answered changes nothing. As long as no slot was freed 2^32 times, it is answered with the object that it was
given out for, until that object is freed, and no two objects have ever had the same number. -/
theorem handles_resolve (children : α → List Handle) (requests : List (Request α))
    (small : (chronicle children requests).1.slots.size < 2 ^ 32) :
    let heap := (chronicle children requests).1
    let events := (chronicle children requests).2
    (∀ earlier handle object later, events = earlier ++ .issued handle object :: later →
      let answered := heap.Occupied handle.index ∧ 2 ^ 32 ∣ frees handle.index later
      ((heap.get? handle).isSome ↔ answered) ∧ ((heap.count? handle).isSome ↔ answered) ∧
        ((∃ count, heap.count? handle = some count ∧ (heap.acquire handle).count? handle = some (count + 1)) ↔
          answered)) ∧
      (∀ handle, heap.get? handle = none → heap.acquire handle = heap ∧ heap.release children handle = heap) ∧
      ((∀ slot, frees slot events < 2 ^ 32) →
        (∀ earlier handle object later, events = earlier ++ .issued handle object :: later →
          heap.get? handle = if frees handle.index later = 0 then some object else none) ∧
        ((issued events).map Handle.id).Nodup) := by
  intro heap events
  have recorded : heap.Recorded events := recorded_chronicle children requests
  refine ⟨fun earlier handle object later came => ?_, fun handle stale => ?_, fun few => ⟨?_, ?_⟩⟩
  · have answered := recorded.isSome_get?_iff came
    have counted : (heap.count? handle).isSome = (heap.get? handle).isSome := by simp [count?, get?]
    refine ⟨answered, counted ▸ answered, ?_⟩
    rw [← answered, ← counted, count?_acquire, if_pos rfl, Option.isSome_iff_exists]
    constructor
    · rintro ⟨count, found, -⟩
      exact ⟨count, found⟩
    · rintro ⟨count, found⟩
      exact ⟨count, found, by rw [found]; rfl⟩
  · have unknown : heap.cell? handle = none := Option.map_eq_none_iff.mp stale
    exact ⟨by simp [acquire, unknown], release_of_stale unknown⟩
  · exact fun earlier handle object later came => recorded.get?_of_few came (few handle.index)
  · exact recorded.nodup_ids small few

/-- A slot that was freed once and taken again. -/
theorem handles_resolve_reused :
    let requests : List (Request Nat) := [.allocate 1, .release ⟨0, 0⟩, .allocate 2]
    let heap := (chronicle (fun _ => []) requests).1
    heap.slots.size < 2 ^ 32 ∧ heap.get? ⟨0, 0⟩ = none ∧ heap.acquire ⟨0, 0⟩ = heap ∧ heap.get? ⟨0, 1⟩ = some 2 := by
  intro requests heap
  have small : heap.slots.size < 2 ^ 32 := by decide +kernel
  have happened : (chronicle (fun _ : Nat => []) requests).2 =
      [.issued ⟨0, 0⟩ 1, .freed ⟨0, 0⟩, .issued ⟨0, 1⟩ 2] := by decide +kernel
  obtain ⟨-, stale, resolved⟩ := handles_resolve (fun _ : Nat => []) requests small
  obtain ⟨objects, -⟩ := resolved fun slot => by
    rw [happened]
    exact (List.countP_le_length).trans_lt (by decide)
  have first := objects [] ⟨0, 0⟩ 1 [.freed ⟨0, 0⟩, .issued ⟨0, 1⟩ 2] happened
  have second := objects [.issued ⟨0, 0⟩ 1, .freed ⟨0, 0⟩] ⟨0, 1⟩ 2 [] happened
  exact ⟨small, first, (stale _ first).1, second⟩

end ObjectBridge.Guest.Heap

import Mathlib.Data.List.Induction
import ObjectBridge.Proofs.Heap.Chronicle
import ObjectBridge.Proofs.Heap.Survivors

/-!
The books of a heap. The slots, the list of the vacant ones and the number of the occupied ones are kept
separately, and a release changes all three many times while references are still to be given back. They
agree whatever is asked of the heap, with handles that are long stale as well, and what comes into the heap
is there or goes out of it again, once.
-/

namespace ObjectBridge.Guest.Heap

variable {α : Type}

def Vacant (heap : Heap α) (slot : Nat) : Prop :=
  ∃ content, heap.slots.get? slot = some content ∧ content.cell = none

def residents (heap : Heap α) : List (Handle × α) :=
  heap.slots.toList.zipIdx.filterMap fun (slot, index) =>
    slot.cell.map fun cell => ({ index, generation := slot.generation }, cell.object)

def departures (children : α → List Handle) (heap : Heap α) (pending : List Handle) : List (Handle × α) :=
  (heap.vacated children pending).filterMap fun handle => (heap.get? handle).map fun object => (handle, object)

/-- As `releaseAll`, with every count checked before one is taken from it: there is no result if the
references to an object, or the objects in the heap, are counted as none already. -/
def releaseChecked (children : α → List Handle) (heap : Heap α) (pending : List Handle) (freed : List α) :
    Option (Heap α × List α) :=
  match pending with
  | [] => some (heap, freed)
  | handle :: pending =>
    match _found : heap.cell? handle with
    | none => releaseChecked children heap pending freed
    | some cell =>
      if cell.count = 0 then none
      else if 0 < cell.count - 1 then
        releaseChecked children (heap.occupy handle.index { cell with count := cell.count - 1 }) pending freed
      else if heap.live = 0 then none
      else
        releaseChecked children (heap.vacate handle.index) ((children cell.object).reverse ++ pending)
          (cell.object :: freed)
termination_by pending.length + heap.referenceCount children
decreasing_by
  · simp
  · rw [referenceCount_occupy children _found]
    simp
  · have fewer := referenceCount_vacate children _found
    simp only [List.length_append, List.length_reverse, List.length_cons]
    omega

inductive Operation (α : Type) where
  | meet (request : Request α)
  | drain

def Operation.allocates : Operation α → Bool
  | .meet (.allocate _) => true
  | _ => false

structure Ledger (α : Type) where
  heap : Heap α
  taken : List (Handle × α)
  gone : List (Handle × α)
  delivered : List α

def Operation.perform (children : α → List Handle) (ledger : Ledger α) : Operation α → Ledger α
  | .meet (.allocate object) =>
    { ledger with
      heap := (ledger.heap.allocate object).2
      taken := ((ledger.heap.allocate object).1, object) :: ledger.taken }
  | .meet (.acquire handle) => { ledger with heap := ledger.heap.acquire handle }
  | .meet (.release handle) =>
    { ledger with
      heap := (ledger.heap.releaseAll children [handle] ledger.delivered).1
      gone := (ledger.heap.departures children [handle]).reverse ++ ledger.gone
      delivered := (ledger.heap.releaseAll children [handle] ledger.delivered).2 }
  | .drain =>
    { ledger with
      heap := ledger.heap.drain.2
      gone := ledger.heap.residents ++ ledger.gone
      delivered := ledger.heap.drain.1 ++ ledger.delivered }

def ledger (children : α → List Handle) (operations : List (Operation α)) : Ledger α :=
  operations.foldl (Operation.perform children) ⟨empty, [], [], []⟩

section Residents

variable {heap heap' : Heap α}

theorem mem_residents_iff {handle : Handle} {object : α} :
    (handle, object) ∈ heap.residents ↔ heap.get? handle = some object := by
  constructor
  · intro listed
    obtain ⟨⟨slot, index⟩, inSlots, shown⟩ := List.mem_filterMap.mp listed
    obtain ⟨cell, occupied, same⟩ := Option.map_eq_some_iff.mp shown
    obtain ⟨rfl, rfl⟩ := Prod.mk.inj same
    have here : heap.slots.get? index = some slot := by
      simpa using List.mk_mem_zipIdx_iff_getElem?.mp inSlots
    have occupied : slot.cell = some cell := occupied
    simp [get?, cell?_of_slot { index, generation := slot.generation } here, occupied]
  · intro found
    obtain ⟨cell, here, rfl⟩ := cell_of_get? found
    refine List.mem_filterMap.mpr ⟨_, List.mk_mem_zipIdx_iff_getElem?.mpr (slot_of_cell here), rfl⟩

theorem map_fst_residents (heap : Heap α) : heap.residents.map Prod.fst = heap.handles := by
  simp [residents, handles, List.map_filterMap, Function.comp_def]

theorem map_snd_residents (heap : Heap α) : heap.residents.map Prod.snd = heap.objects := by
  unfold residents objects
  rw [List.map_filterMap, ← List.zipIdx_map_fst 0 heap.slots.toList, List.filterMap_map, List.zipIdx_map_fst]
  simp [Function.comp_def]

theorem nodup_residents (heap : Heap α) : heap.residents.Nodup :=
  List.Nodup.of_map Prod.fst (map_fst_residents heap ▸ heap.nodup_handles)

theorem length_residents (heap : Heap α) : heap.residents.length = heap.occupied := by
  rw [← length_handles, ← map_fst_residents, List.length_map]

theorem residents_perm (same : heap'.get? = heap.get?) : heap'.residents.Perm heap.residents :=
  (List.perm_ext_iff_of_nodup heap'.nodup_residents heap.nodup_residents).mpr fun entry => by
    rw [mem_residents_iff, mem_residents_iff, same]

theorem residents_perm_cons {handle : Handle} {object : α} (new : heap.get? handle = none)
    (shown : ∀ other, heap'.get? other = if other = handle then some object else heap.get? other) :
    heap'.residents.Perm ((handle, object) :: heap.residents) := by
  have unlisted : (handle, object) ∉ heap.residents := fun listed => by
    rw [mem_residents_iff, new] at listed
    cases listed
  refine (List.perm_ext_iff_of_nodup heap'.nodup_residents
    (List.nodup_cons.mpr ⟨unlisted, heap.nodup_residents⟩)).mpr fun (other, object') => ?_
  rw [List.mem_cons, mem_residents_iff, mem_residents_iff, shown, Prod.mk.injEq]
  by_cases same : other = handle
  · simp [same, new, eq_comm]
  · simp [same]

end Residents

section Departures

variable {children : α → List Handle} {heap : Heap α} {handle : Handle} {pending : List Handle} {cell : Cell α}

theorem departures_nil : heap.departures children [] = [] := by
  simp [departures, vacated_nil]

theorem departures_stale (stale : heap.cell? handle = none) :
    heap.departures children (handle :: pending) = heap.departures children pending := by
  rw [departures, vacated_stale stale, departures]

theorem departures_last (found : heap.cell? handle = some cell) (last : cell.count ≤ 1) :
    heap.departures children (handle :: pending) = (handle, cell.object) ::
      (heap.vacate handle.index).departures children ((children cell.object).reverse ++ pending) := by
  rw [departures, vacated_last found last,
    List.filterMap_cons_some (by rw [get?_of_cell found, Option.map_some]), departures]
  exact congrArg _ (List.filterMap_congr fun other member => by rw [get?_of_mem_vacated found member])

theorem departures_several (found : heap.cell? handle = some cell) (several : ¬cell.count ≤ 1) :
    heap.departures children (handle :: pending) =
      (heap.occupy handle.index { cell with count := cell.count - 1 }).departures children pending := by
  have same : (heap.occupy handle.index { cell with count := cell.count - 1 }).get? = heap.get? :=
    funext fun other => get?_occupy_count found _ other
  rw [departures, vacated_several found several, departures, same]

end Departures

section Checked

variable {children : α → List Handle} {heap : Heap α} {handle : Handle} {pending : List Handle} {freed : List α}

theorem releaseChecked_stale (stale : heap.cell? handle = none) :
    heap.releaseChecked children (handle :: pending) freed = heap.releaseChecked children pending freed := by
  rw [releaseChecked]
  split <;> simp_all

theorem releaseChecked_of_cell {cell : Cell α} (found : heap.cell? handle = some cell) :
    heap.releaseChecked children (handle :: pending) freed =
      if cell.count = 0 then none
      else if 0 < cell.count - 1 then
        (heap.occupy handle.index { cell with count := cell.count - 1 }).releaseChecked children pending freed
      else if heap.live = 0 then none
      else
        (heap.vacate handle.index).releaseChecked children ((children cell.object).reverse ++ pending)
          (cell.object :: freed) := by
  rw [releaseChecked]
  split <;> simp_all

end Checked

structure Orderly (heap : Heap α) : Prop where
  sound : heap.Sound
  positive : ∀ handle count, heap.count? handle = some count → 0 < count

theorem orderly_empty : (empty : Heap α).Orderly where
  sound := sound_empty
  positive handle count found := by simp [count?, cell?_empty] at found

namespace Orderly

variable {heap : Heap α} (orderly : heap.Orderly)
include orderly

theorem allocate (object : α) : (heap.allocate object).2.Orderly where
  sound := sound_allocate orderly.sound object
  positive handle count found := by
    rw [count?_allocate orderly.sound] at found
    split at found
    · obtain rfl := Option.some.inj found
      exact Nat.one_pos
    · exact orderly.positive handle count found

theorem occupy {handle : Handle} {cell : Cell α} (found : heap.cell? handle = some cell) {count : Nat}
    (positive : 0 < count) : (heap.occupy handle.index { cell with count }).Orderly where
  sound := sound_occupy found orderly.sound _
  positive other count' shown := by
    rw [count?_occupy found] at shown
    split at shown
    · obtain rfl := Option.some.inj shown
      exact positive
    · exact orderly.positive other count' shown

theorem acquire (handle : Handle) : (heap.acquire handle).Orderly := by
  unfold Heap.acquire
  split
  · rename_i cell found
    exact orderly.occupy found (Nat.succ_pos _)
  · exact orderly

theorem vacate {handle : Handle} {cell : Cell α} (found : heap.cell? handle = some cell) :
    (heap.vacate handle.index).Orderly where
  sound := sound_vacate found orderly.sound
  positive other count shown := by
    rw [count?_vacate found] at shown
    split at shown
    · cases shown
    · exact orderly.positive other count shown

theorem count_pos {handle : Handle} {cell : Cell α} (found : heap.cell? handle = some cell) : 0 < cell.count :=
  orderly.positive handle cell.count (by simp [count?, found])

theorem live_pos {handle : Handle} {cell : Cell α} (found : heap.cell? handle = some cell) : 0 < heap.live := by
  rw [orderly.sound.counted, ← length_residents]
  exact List.length_pos_of_mem (mem_residents_iff.mpr (get?_of_cell found))

theorem releaseChecked_eq (children : α → List Handle) (pending : List Handle) (freed : List α) :
    heap.releaseChecked children pending freed = some (heap.releaseAll children pending freed) := by
  fun_induction Heap.releaseAll children heap pending freed with
  | case1 heap freed => rw [releaseChecked]
  | case2 heap freed handle pending stale ih =>
    rw [releaseChecked_stale stale]
    exact ih orderly
  | case3 heap freed handle pending cell found last ih =>
    have counted := orderly.count_pos found
    have live := orderly.live_pos found
    rw [releaseChecked_of_cell found, if_neg (by omega), if_neg (by omega), if_neg (by omega)]
    exact ih (orderly.vacate found)
  | case4 heap freed handle pending cell found several ih =>
    rw [releaseChecked_of_cell found, if_neg (by omega), if_pos (by omega)]
    exact ih (orderly.occupy found (by omega))

end Orderly

/-- The slots in `free` were left by objects that are gone, the first of them by the one that went last, and
each is in the generation that follows that of its last object. The other slots that objects have left are
in use again, or there are no such slots any more. -/
inductive Stacked (generation? : Nat → Option UInt32) : List Nat → List (Handle × α) → Prop
  | nil : Stacked generation? [] []
  | reused {free gone handle object} (below : Stacked generation? free gone) (apart : handle.index ∉ free) :
      Stacked generation? free ((handle, object) :: gone)
  | vacant {free gone handle object} (below : Stacked generation? free gone) (apart : handle.index ∉ free)
      (current : generation? handle.index = some (handle.generation + 1)) :
      Stacked generation? (handle.index :: free) ((handle, object) :: gone)

namespace Stacked

variable {generation? generation?' : Nat → Option UInt32} {slot : Nat} {free : List Nat} {gone : List (Handle × α)}

theorem of_generations (stacked : Stacked generation? free gone)
    (same : ∀ slot ∈ free, generation?' slot = generation? slot) : Stacked generation?' free gone := by
  induction stacked with
  | nil => exact .nil
  | reused below apart ih => exact .reused (ih same) apart
  | vacant below apart current ih =>
    exact .vacant (ih fun slot listed => same slot (List.mem_cons_of_mem _ listed)) apart
      ((same _ List.mem_cons_self).trans current)

theorem tail (stacked : Stacked generation? (slot :: free) gone) : Stacked generation? free gone := by
  generalize listed : slot :: free = slots at stacked
  induction stacked with
  | nil => cases listed
  | reused below apart ih =>
    subst listed
    exact .reused (ih rfl) fun member => apart (List.mem_cons_of_mem _ member)
  | vacant below apart current ih =>
    cases listed
    exact .reused below apart

theorem drained (gone : List (Handle × α)) : Stacked generation? [] gone := by
  induction gone with
  | nil => exact .nil
  | cons entry gone ih => exact .reused ih List.not_mem_nil

theorem last (stacked : Stacked generation? (slot :: free) gone) :
    ∃ later handle object earlier, gone = later ++ (handle, object) :: earlier ∧ handle.index = slot ∧
      generation? slot = some (handle.generation + 1) ∧ ∀ entry ∈ later, entry.1.index ∉ slot :: free := by
  generalize listed : slot :: free = slots at stacked
  induction stacked with
  | nil => cases listed
  | @reused free' gone handle object below apart ih =>
    obtain ⟨later, last, object', earlier, rfl, same, current, others⟩ := ih listed
    refine ⟨(handle, object) :: later, last, object', earlier, rfl, same, current, fun entry member => ?_⟩
    rcases List.mem_cons.mp member with rfl | member
    · exact apart
    · exact others entry member
  | @vacant free' gone handle object below apart current ih =>
    cases listed
    exact ⟨[], handle, object, gone, rfl, rfl, current, nofun⟩

end Stacked

namespace Ledger

structure Balanced (ledger : Ledger α) : Prop where
  orderly : ledger.heap.Orderly
  stacked : Stacked ledger.heap.generation? ledger.heap.free ledger.gone
  conserved : ledger.taken.Perm (ledger.heap.residents ++ ledger.gone)
  delivered : ledger.gone.map Prod.snd = ledger.delivered

theorem balanced_empty : Balanced (⟨empty, [], [], []⟩ : Ledger α) where
  orderly := orderly_empty
  stacked := .nil
  conserved := List.Perm.refl _
  delivered := rfl

namespace Balanced

variable {heap : Heap α} {taken gone : List (Handle × α)} {delivered : List α}
  (balanced : Balanced ⟨heap, taken, gone, delivered⟩)
include balanced

theorem allocate (object : α) :
    Balanced ⟨(heap.allocate object).2, ((heap.allocate object).1, object) :: taken, gone, delivered⟩ where
  orderly := balanced.orderly.allocate object
  stacked := by
    -- No slot moves on to another generation, so the stack is what it was but for the slot on top.
    have same : ∀ slot ∈ heap.free, (heap.allocate object).2.generation? slot = heap.generation? slot := by
      intro slot listed
      obtain ⟨content, here, -⟩ := (balanced.orderly.sound.vacant slot).mp listed
      have known : heap.generation? slot = some content.generation := by rw [generation?, here, Option.map_some]
      rw [generation?_allocate known, known]
    have kept := balanced.stacked.of_generations same
    rcases allocate_cases balanced.orderly.sound object with
      ⟨index, free, content, listed, -, -, made⟩ | ⟨listed, made⟩
    · have left : (heap.allocate object).2.free = free := by rw [made]
      rw [left]
      exact (listed ▸ kept).tail
    · have left : (heap.allocate object).2.free = heap.free := by rw [made]
      rw [left]
      exact kept
  conserved := by
    have new : heap.get? (heap.allocate object).1 = none := by
      rw [get?, cell?_fst_allocate balanced.orderly.sound, Option.map_none]
    have more := residents_perm_cons new (get?_allocate balanced.orderly.sound object)
    exact (balanced.conserved.cons _).trans (more.symm.append_right gone)
  delivered := balanced.delivered

theorem of_same {heap' : Heap α} (orderly : heap'.Orderly) (generations : heap'.generation? = heap.generation?)
    (free : heap'.free = heap.free) (objects : heap'.get? = heap.get?) :
    Balanced ⟨heap', taken, gone, delivered⟩ where
  orderly := orderly
  stacked := generations ▸ free ▸ balanced.stacked
  conserved := balanced.conserved.trans ((residents_perm objects).symm.append_right gone)
  delivered := balanced.delivered

theorem occupy {handle : Handle} {cell : Cell α} (found : heap.cell? handle = some cell) {count : Nat}
    (positive : 0 < count) :
    Balanced ⟨heap.occupy handle.index { cell with count }, taken, gone, delivered⟩ :=
  balanced.of_same (balanced.orderly.occupy found positive) (funext fun _ => generation?_occupy _ _ _ _) rfl
    (funext fun _ => get?_occupy_count found _ _)

theorem acquire (handle : Handle) : Balanced ⟨heap.acquire handle, taken, gone, delivered⟩ := by
  cases found : heap.cell? handle with
  | none => simpa [Heap.acquire, found] using balanced
  | some cell => simpa [Heap.acquire, found] using balanced.occupy found (Nat.succ_pos cell.count)

theorem vacate {handle : Handle} {cell : Cell α} (found : heap.cell? handle = some cell) :
    Balanced ⟨heap.vacate handle.index, taken, (handle, cell.object) :: gone, cell.object :: delivered⟩ where
  orderly := balanced.orderly.vacate found
  stacked := by
    -- The slot that becomes vacant was none of those below it on the stack.
    have occupied : handle.index ∉ heap.free := by
      intro listed
      obtain ⟨content, here, vacant⟩ := (balanced.orderly.sound.vacant _).mp listed
      rw [slots_of_cell found] at here
      cases here
      cases vacant
    refine .vacant (balanced.stacked.of_generations fun slot listed => ?_) occupied ?_
    · rw [generation?_vacate, if_neg]
      rintro rfl
      exact occupied listed
    · rw [generation?_vacate, if_pos rfl, generation?_of_cell found, Option.map_some]
  conserved := by
    have fewer : heap.residents.Perm ((handle, cell.object) :: (heap.vacate handle.index).residents) := by
      refine residents_perm_cons (by rw [get?_vacate found, if_pos rfl]) fun other => ?_
      rw [get?_vacate found]
      split
      · rename_i same
        rw [same, get?_of_cell found]
      · rfl
    refine balanced.conserved.trans ((fewer.append_right gone).trans ?_)
    exact List.perm_middle.symm
  delivered := congrArg (cell.object :: ·) balanced.delivered

theorem drain : Balanced ⟨empty, taken, heap.residents ++ gone, heap.objects ++ delivered⟩ where
  orderly := orderly_empty
  stacked := .drained _
  conserved := balanced.conserved
  delivered := by
    rw [List.map_append, map_snd_residents, balanced.delivered]

theorem releaseAll (children : α → List Handle) (pending : List Handle) :
    Balanced ⟨(heap.releaseAll children pending delivered).1, taken,
      (heap.departures children pending).reverse ++ gone, (heap.releaseAll children pending delivered).2⟩ := by
  fun_induction Heap.releaseAll children heap pending delivered generalizing gone with
  | case1 heap freed => simpa [departures_nil] using balanced
  | case2 heap freed handle pending stale ih =>
    rw [departures_stale stale]
    exact ih balanced
  | case3 heap freed handle pending cell found last ih =>
    rw [departures_last found last, List.reverse_cons, List.append_assoc]
    exact ih (balanced.vacate found)
  | case4 heap freed handle pending cell found several ih =>
    rw [departures_several found several]
    exact ih (balanced.occupy found (by omega))

end Balanced

theorem Balanced.perform (children : α → List Handle) {ledger : Ledger α} (balanced : ledger.Balanced)
    (operation : Operation α) : (operation.perform children ledger).Balanced := by
  cases operation with
  | meet request =>
    cases request with
    | allocate object => exact balanced.allocate object
    | acquire handle => exact balanced.acquire handle
    | release handle => exact balanced.releaseAll children [handle]
  | drain => exact balanced.drain

end Ledger

theorem balanced_ledger (children : α → List Handle) (operations : List (Operation α)) :
    (ledger children operations).Balanced := by
  induction operations using List.reverseRecOn with
  | nil => exact Ledger.balanced_empty
  | append_singleton operations operation ih =>
    rw [ledger, List.foldl_append]
    exact ih.perform children operation

theorem length_taken (children : α → List Handle) (operations : List (Operation α)) :
    (ledger children operations).taken.length = operations.countP Operation.allocates := by
  induction operations using List.reverseRecOn with
  | nil => rfl
  | append_singleton operations operation ih =>
    rw [ledger] at ih
    rw [ledger, List.foldl_append, List.countP_append, ← ih]
    rcases operation with (_ | _ | _) | _ <;> rfl

theorem slots_allocate {heap : Heap α} (sound : heap.Sound) (object : α) :
    ¬heap.Occupied (heap.allocate object).1.index ∧ ∀ slot,
      (heap.allocate object).2.slots.get? slot =
        if slot = (heap.allocate object).1.index then
          some { generation := (heap.allocate object).1.generation, cell := some { count := 1, object } }
        else heap.slots.get? slot := by
  rcases allocate_cases sound object with ⟨index, free, content, -, here, vacant, made⟩ | ⟨-, made⟩
  · rw [made]
    refine ⟨?_, fun slot => ?_⟩
    · rintro ⟨other, shown, occupied⟩
      rw [here] at shown
      cases shown
      rw [vacant] at occupied
      cases occupied
    · simp only [occupy, Sequence.get?_modify]
      split
      · rw [here, Option.map_some]
      · rfl
  · have outside : heap.slots.get? heap.slots.size = none :=
      (Sequence.get?_eq_none_iff _ _).mpr (Nat.le_refl _)
    rw [made]
    refine ⟨?_, fun slot => Sequence.get?_push _ _ _⟩
    rintro ⟨other, shown, -⟩
    rw [outside] at shown
    cases shown

theorem Ledger.Balanced.allocate_takes_last {ledger : Ledger α} (balanced : ledger.Balanced) (object : α) :
    ((∀ slot, ¬ledger.heap.Vacant slot) ∧
        (ledger.heap.allocate object).1 = { index := ledger.heap.slots.size, generation := 0 }) ∨
      ∃ later handle left earlier, ledger.gone = later ++ (handle, left) :: earlier ∧
        ledger.heap.Vacant handle.index ∧ (∀ entry ∈ later, ¬ledger.heap.Vacant entry.1.index) ∧
          (ledger.heap.allocate object).1 = { handle with generation := handle.generation + 1 } := by
  have sound := balanced.orderly.sound
  rcases allocate_cases sound object with ⟨index, free, content, listed, here, vacant, made⟩ | ⟨listed, made⟩
  · have stacked := balanced.stacked
    rw [listed] at stacked
    obtain ⟨later, handle, left, earlier, split, rfl, current, others⟩ := stacked.last
    refine Or.inr ⟨later, handle, left, earlier, split, ⟨content, here, vacant⟩, fun entry member again => ?_, ?_⟩
    · exact others entry member (listed ▸ (sound.vacant _).mpr again)
    · rw [generation?, here, Option.map_some, Option.some.injEq] at current
      rw [made, ← current]
  · refine Or.inl ⟨fun slot vacant => ?_, by rw [made]⟩
    have member := (sound.vacant slot).mpr vacant
    rw [listed] at member
    cases member

structure Ledger.Accounts (children : α → List Handle) (operations : List (Operation α)) (books : Ledger α) : Prop where
  once : books.heap.free.Nodup
  vacant : ∀ slot, slot ∈ books.heap.free ↔ books.heap.Vacant slot
  occupied : books.heap.live = books.heap.occupied
  counted : ∀ slot content cell, books.heap.slots.get? slot = some content → content.cell = some cell → 1 ≤ cell.count
  released : ∀ handle freed,
    books.heap.releaseChecked children [handle] freed = some (books.heap.releaseAll children [handle] freed)
  unoccupied : ∀ object, ¬books.heap.Occupied (books.heap.allocate object).1.index
  untouched : ∀ object slot, (books.heap.allocate object).2.slots.get? slot =
    if slot = (books.heap.allocate object).1.index then
      some { generation := (books.heap.allocate object).1.generation, cell := some { count := 1, object } }
    else books.heap.slots.get? slot
  /-- An object that is taken in comes to the slot that became vacant last, or to a new one. -/
  last : ∀ object,
    (∀ slot, ¬books.heap.Vacant slot) ∧
        (books.heap.allocate object).1 = { index := books.heap.slots.size, generation := 0 } ∨
      ∃ later last left earlier, books.gone = later ++ (last, left) :: earlier ∧
        books.heap.Vacant last.index ∧ (∀ entry ∈ later, ¬books.heap.Vacant entry.1.index) ∧
          (books.heap.allocate object).1 = { last with generation := last.generation + 1 }
  number : operations.countP Operation.allocates = books.heap.live + books.delivered.length
  /-- Those that were taken in are, under the handles that they were given, those that are there and those that
  were handed over, each once. -/
  conserved : books.taken.Perm (books.heap.residents ++ books.gone)
  delivered : books.gone.map Prod.snd = books.delivered

/-- Objects are taken in, references are taken and given back to whatever handles, stale ones too, and all is
taken out at once at any time; there may be any number of slots. -/
theorem ledger_balances (children : α → List Handle) (operations : List (Operation α)) :
    (ledger children operations).Accounts children operations := by
  let books := ledger children operations
  have balanced : books.Balanced := balanced_ledger children operations
  have orderly : books.heap.Orderly := balanced.orderly
  have sound : books.heap.Sound := orderly.sound
  have number : operations.countP Operation.allocates = books.heap.live + books.delivered.length :=
    calc operations.countP Operation.allocates
      _ = books.taken.length := (length_taken children operations).symm
      _ = books.heap.residents.length + books.gone.length := by
        rw [balanced.conserved.length_eq, List.length_append]
      _ = books.heap.live + books.delivered.length := by
        rw [length_residents, ← sound.counted, ← balanced.delivered, List.length_map]
  refine {
    once := sound.once
    vacant := sound.vacant
    occupied := sound.counted
    counted := fun slot content cell here occupied => ?_
    released := fun handle freed => orderly.releaseChecked_eq children [handle] freed
    unoccupied := fun object => (slots_allocate sound object).1
    untouched := fun object => (slots_allocate sound object).2
    last := balanced.allocate_takes_last
    number
    conserved := balanced.conserved
    delivered := balanced.delivered }
  have found : books.heap.cell? { index := slot, generation := content.generation } = some cell := by
    rw [cell?_of_slot _ here, if_pos rfl, occupied]
  exact orderly.count_pos found

example :
    let books := ledger id [.meet (.allocate []), .meet (.allocate []), .meet (.allocate [⟨0, 0⟩, ⟨1, 0⟩]),
      .meet (.release ⟨2, 0⟩), .meet (.release ⟨2, 0⟩), .meet (.allocate []), .drain]
    books.gone = [(⟨0, 1⟩, []), (⟨0, 0⟩, []), (⟨1, 0⟩, []), (⟨2, 0⟩, [⟨0, 0⟩, ⟨1, 0⟩])] ∧ books.heap.live = 0 := by
  decide +kernel

end ObjectBridge.Guest.Heap

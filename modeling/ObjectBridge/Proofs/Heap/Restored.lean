import ObjectBridge.Proofs.Heap.Survivors

/-!
Steps that change no object in place. They can make objects and free them, but an object that is made
refers only to what was there before it, so no cycle arises. What is left in the end is what was there, and
what hangs on new objects that are held.
-/

namespace ObjectBridge.Guest.Heap

variable {α : Type} {children : α → List Handle} {changes : Handle → α → α → Prop}

theorem Step.cycle {before after : Heap α × Multiset Handle} {held : Multiset Handle}
    (step : Step children changes before after) (fixed : ∀ handle object object', ¬changes handle object object')
    (exact : before.1.Exact children (before.2 + held)) {handle : Handle}
    (cycle : Relation.TransGen (after.1.Refers children) handle handle) :
    Relation.TransGen (before.1.Refers children) handle handle := by
  have narrower (same : ∀ other object, after.1.get? other = some object → before.1.get? other = some object) :
      Relation.TransGen (before.1.Refers children) handle handle :=
    Relation.TransGen.mono (fun first second refers => by
      obtain ⟨object, found, child⟩ := refers
      exact ⟨object, same first object found, child⟩) handle handle cycle
  cases step with
  | @acquire heap held other cell found =>
    exact narrower fun handle object shown => by rwa [get?_acquire] at shown
  | @lower heap held other cell found several =>
    exact narrower fun handle object shown => by rwa [get?_occupy_count found] at shown
  | @free heap held other cell found last => exact narrower fun handle object shown => get?_of_vacate found shown
  | @allocate heap held object =>
    -- Nothing refers to the new object, so no cycle passes through it.
    have fresh := exact
    rw [add_assoc] at fresh
    have lifts {first second : Handle} (different : first ≠ (heap.allocate object).1)
        (path : Relation.TransGen ((heap.allocate object).2.Refers children) first second) :
        Relation.TransGen (heap.Refers children) first second ∧ second ≠ (heap.allocate object).1 := by
      induction path with
      | single refers => exact ⟨.single (refers.of_allocate exact.sound different), fresh.ne_allocated refers⟩
      | tail _ refers ih => exact ⟨ih.1.tail (refers.of_allocate exact.sound ih.2), fresh.ne_allocated refers⟩
    obtain ⟨other, -, refers⟩ := Relation.TransGen.tail'_iff.mp cycle
    exact (lifts (fresh.ne_allocated refers) cycle).1
  | change found allowed balance => exact absurd allowed (fixed _ _ _)

section Unchanged

variable {before after : Heap α × Multiset Handle} {held : Multiset Handle}

theorem Path.cycle (path : Path children changes before after)
    (fixed : ∀ handle object object', ¬changes handle object object')
    (exact : before.1.Exact children (before.2 + held)) {handle : Handle}
    (cycle : Relation.TransGen (after.1.Refers children) handle handle) :
    Relation.TransGen (before.1.Refers children) handle handle := by
  induction path with
  | refl => exact cycle
  | tail path step ih => exact ih (step.cycle fixed (Path.exact path exact) cycle)

theorem Path.unchanged (path : Path children changes before after)
    (fixed : ∀ handle object object', ¬changes handle object object')
    (exact : before.1.Exact children (before.2 + held)) {handle : Handle} {object : α}
    (anchored : Anchored (before.1.Refers children) held handle) (found : before.1.get? handle = some object) :
    after.1.get? handle = some object := by
  have every (other : Handle) (anchored : Anchored (before.1.Refers children) held other) :
      ∃ object, before.1.get? other = some object ∧ before.1.get? other = some object := by
    have referred : other ∈ before.2 + held ∨ other ∈ before.1.references children := by
      refine anchored.supported.imp (fun outside => Multiset.mem_add.mpr (Or.inr outside)) ?_
      rintro ⟨holder, -, object, here, child⟩
      exact mem_references here child
    obtain ⟨cell, here⟩ := exact.exists_cell referred
    exact ⟨cell.object, get?_of_cell here, get?_of_cell here⟩
  obtain ⟨object', now, was⟩ := Path.anchored path exact
    (fun handle object (shown : before.1.get? handle = some object) next refers => by
      obtain ⟨holder, here, child⟩ := refers
      obtain rfl : object = holder := by simpa [shown] using here
      exact child)
    (fun handle object object' allowed => absurd allowed (fixed _ _ _)) every anchored
  obtain rfl : object = object' := by simpa [found] using was
  exact now

end Unchanged

section Restored

variable {heap heap' : Heap α} {held : Multiset Handle}

def RefersToNew (children : α → List Handle) (heap heap' : Heap α) (first second : Handle) : Prop :=
  heap'.Refers children first second ∧ heap.get? second = none

theorem Path.reached_of_new {owned : Multiset Handle} (path : Path children changes (heap, 0) (heap', owned))
    (fixed : ∀ handle object object', ¬changes handle object object') (exact : heap.Exact children held)
    {handle : Handle} (new : heap.get? handle = none) (present : (heap'.get? handle).isSome) :
    ∃ root ∈ owned, heap.get? root = none ∧
      Relation.ReflTransGen (RefersToNew children heap heap') root handle := by
  have framed : heap.Exact children (0 + held) := by rwa [zero_add]
  have exact' : heap'.Exact children (owned + held) := Path.exact path framed
  have stays {other : Handle} {object : α} (found : heap.get? other = some object) :
      heap'.get? other = some object :=
    Path.unchanged path fixed framed (exact.anchored (by rw [found]; rfl)) found
  obtain ⟨root, rooted, reached⟩ := exact'.anchored present
  have start : (heap.get? root).isSome ∨ root ∈ owned ∧ heap.get? root = none := by
    cases known : heap.get? root with
    | some object => exact Or.inl rfl
    | none =>
      refine Or.inr ⟨?_, rfl⟩
      rcases rooted with outside | cycle
      · refine (Multiset.mem_add.mp outside).resolve_right fun old => ?_
        obtain ⟨cell, found⟩ := exact.exists_cell_of_held old
        simp [get?_of_cell found] at known
      · obtain ⟨other, -, object, found, child⟩ :=
          Relation.TransGen.tail'_iff.mp (Path.cycle path fixed framed cycle)
        obtain ⟨cell, found⟩ := exact.exists_cell_of_child found child
        simp [get?_of_cell found] at known
  have along (last : Handle) (reached : Relation.ReflTransGen (heap'.Refers children) root last) :
      (heap.get? last).isSome ∨ ∃ root ∈ owned, heap.get? root = none ∧
        Relation.ReflTransGen (RefersToNew children heap heap') root last := by
    induction reached with
    | refl => exact start.imp_right fun ⟨member, fresh⟩ => ⟨root, member, fresh, .refl⟩
    | @tail middle last _ refers ih =>
      cases known : heap.get? last with
      | some object => exact Or.inl rfl
      | none =>
        rcases ih with old | ⟨root, member, fresh, chain⟩
        · -- An object that was there before refers to what was there.
          obtain ⟨before, found⟩ := Option.isSome_iff_exists.mp old
          obtain ⟨object, here, child⟩ := refers
          obtain rfl : before = object := Option.some.inj ((stays found).symm.trans here)
          obtain ⟨cell, found⟩ := exact.exists_cell_of_child found child
          simp [get?_of_cell found] at known
        · exact Or.inr ⟨root, member, fresh, chain.tail ⟨refers, known⟩⟩
  refine (along handle reached).resolve_left ?_
  rw [new]
  exact Bool.false_ne_true

theorem Path.get?_of_old {owned : Multiset Handle} (path : Path children changes (heap, 0) (heap', owned))
    (fixed : ∀ handle object object', ¬changes handle object object') (exact : heap.Exact children held)
    (old : ∀ handle ∈ owned, (heap.get? handle).isSome) (handle : Handle) : heap'.get? handle = heap.get? handle := by
  have framed : heap.Exact children (0 + held) := by rwa [zero_add]
  cases shown : heap.get? handle with
  | some object => exact Path.unchanged path fixed framed (exact.anchored (by rw [shown]; rfl)) shown
  | none =>
    by_contra present
    obtain ⟨root, member, fresh, -⟩ := path.reached_of_new fixed exact shown (Option.isSome_iff_ne_none.mpr present)
    simpa [fresh] using old root member

theorem references_eq_flatMap (children : α → List Handle) (heap : Heap α) :
    heap.references children = heap.handles.flatMap fun handle => ((heap.get? handle).map children).getD [] := by
  unfold references objects handles
  rw [List.filterMap_eq_flatMap_toList, List.filterMap_eq_flatMap_toList, List.flatMap_assoc, List.flatMap_assoc,
    ← List.zipIdx_map_fst 0 heap.slots.toList, List.flatMap_map, List.zipIdx_map_fst]
  refine List.flatMap_congr fun item listed => ?_
  obtain ⟨slot, index⟩ := item
  have here : heap.slots.get? index = some slot := by
    simpa using List.mk_mem_zipIdx_iff_getElem?.mp listed
  cases occupied : slot.cell with
  | none => simp [occupied]
  | some cell => simp [get?, cell?_of_slot { index, generation := slot.generation } here, occupied]

theorem Exact.cell?_of_count {held' : Multiset Handle} {handle : Handle} {more : Nat} (exact : heap.Exact children held)
    (exact' : heap'.Exact children held') (object : heap'.get? handle = heap.get? handle)
    (referred : held'.count handle + (heap'.references children).count handle =
      held.count handle + (heap.references children).count handle + more) :
    heap'.cell? handle = (heap.cell? handle).map fun cell => { cell with count := cell.count + more } := by
  cases found : heap.cell? handle with
  | none =>
    rw [get?, get?, found, Option.map_none, Option.map_eq_none_iff] at object
    exact object
  | some cell =>
    rw [get?_of_cell found] at object
    obtain ⟨cell', found', alike⟩ := cell_of_get? object
    have count := exact'.count_eq found'
    rw [referred, ← exact.count_eq found] at count
    rw [found', Option.map_some, Option.some.injEq]
    cases cell'
    simp_all

theorem Exact.cell?_of_same {more : Multiset Handle} (exact : heap.Exact children held)
    (exact' : heap'.Exact children (more + held)) (same : heap'.get? = heap.get?) (handle : Handle) :
    heap'.cell? handle = (heap.cell? handle).map fun cell => { cell with count := cell.count + more.count handle } := by
  have listed : heap'.handles.Perm heap.handles := by
    refine (List.perm_ext_iff_of_nodup heap'.nodup_handles heap.nodup_handles).mpr fun other => ?_
    rw [mem_handles_iff, mem_handles_iff, same]
  have references : (heap'.references children).count handle = (heap.references children).count handle := by
    rw [references_eq_flatMap, references_eq_flatMap, same]
    exact (listed.flatMap_right _).count_eq handle
  refine exact.cell?_of_count exact' (congrFun same handle) ?_
  rw [references, Multiset.count_add]
  omega

theorem Exact.cell?_eq (exact : heap.Exact children held) (exact' : heap'.Exact children held)
    (same : heap'.get? = heap.get?) (handle : Handle) : heap'.cell? handle = heap.cell? handle := by
  rw [exact.cell?_of_same (by rwa [zero_add]) same handle]
  cases heap.cell? handle <;> rfl

theorem Exact.cell?_of_new {ref : Handle} {object : α} (exact : heap.Exact children held)
    (exact' : heap'.Exact children (ref ::ₘ held)) (new : heap.get? ref = none) (shown : heap'.get? ref = some object)
    (apart : ref ∉ children object) (same : ∀ other, other ≠ ref → heap'.get? other = heap.get? other) :
    heap'.cell? ref = some { count := 1, object } ∧ ∀ other, other ≠ ref →
      heap'.cell? other = (heap.cell? other).map fun cell =>
        { cell with count := cell.count + (children object).count other } := by
  have unlisted : ref ∉ heap.handles := by
    rw [mem_handles_iff, new]
    exact Bool.false_ne_true
  have listed : heap'.handles.Perm (ref :: heap.handles) := by
    refine (List.perm_ext_iff_of_nodup heap'.nodup_handles (List.nodup_cons.mpr ⟨unlisted, heap.nodup_handles⟩)).mpr
      fun other => ?_
    rw [List.mem_cons, mem_handles_iff, mem_handles_iff]
    by_cases equal : other = ref
    · simp [equal, shown]
    · simp [equal, same other equal]
  have references : (heap'.references children).Perm (children object ++ heap.references children) := by
    rw [references_eq_flatMap, references_eq_flatMap]
    refine (listed.flatMap_right _).trans ?_
    rw [List.flatMap_cons, shown, Option.map_some, Option.getD_some]
    refine List.Perm.append_left _ (List.Perm.of_eq (List.flatMap_congr fun other member => ?_))
    rw [same other (fun equal => unlisted (equal ▸ member))]
  have unreferred : (heap.references children).count ref = 0 ∧ held.count ref = 0 := by
    constructor
    · refine List.count_eq_zero.mpr fun child => ?_
      obtain ⟨cell, found⟩ := exact.exists_cell (Or.inr child)
      simp [get?_of_cell found] at new
    · refine Multiset.count_eq_zero.mpr fun outside => ?_
      obtain ⟨cell, found⟩ := exact.exists_cell_of_held outside
      simp [get?_of_cell found] at new
  constructor
  · obtain ⟨⟨count, _⟩, found, rfl⟩ := cell_of_get? shown
    have counted := exact'.count_eq found
    rw [references.count_eq, List.count_append, unreferred.1, Multiset.count_cons_self, unreferred.2,
      List.count_eq_zero.mpr apart] at counted
    simp_all
  · intro other different
    refine exact.cell?_of_count exact' (same other different) ?_
    rw [references.count_eq, List.count_append, Multiset.count_cons_of_ne different]
    omega

theorem Path.cell?_of_old {owned : Multiset Handle} (path : Path children changes (heap, 0) (heap', owned))
    (fixed : ∀ handle object object', ¬changes handle object object') (exact : heap.Exact children held)
    (old : ∀ handle ∈ owned, (heap.get? handle).isSome) (handle : Handle) :
    heap'.cell? handle = (heap.cell? handle).map fun cell => { cell with count := cell.count + owned.count handle } :=
  exact.cell?_of_same (Path.exact path (by rwa [zero_add])) (funext (path.get?_of_old fixed exact old)) handle

theorem Path.cell?_of_new {ref : Handle} {object : α} (path : Path children changes (heap, 0) (heap', {ref}))
    (fixed : ∀ handle object object', ¬changes handle object object') (exact : heap.Exact children held)
    (new : heap.get? ref = none) (shown : heap'.get? ref = some object)
    (old : ∀ child ∈ children object, (heap.get? child).isSome) :
    heap'.cell? ref = some { count := 1, object } ∧ ∀ other, other ≠ ref →
      heap'.cell? other = (heap.cell? other).map fun cell =>
        { cell with count := cell.count + (children object).count other } := by
  have framed : heap.Exact children (0 + held) := by rwa [zero_add]
  have exact' : heap'.Exact children (ref ::ₘ held) := by
    have after := Path.exact path framed
    rwa [Multiset.singleton_add] at after
  have apart : ref ∉ children object := fun child => by simpa [new] using old ref child
  refine exact.cell?_of_new exact' new shown apart fun other different => ?_
  cases known : heap.get? other with
  | some before => exact Path.unchanged path fixed framed (exact.anchored (by rw [known]; rfl)) known
  | none =>
    by_contra present
    obtain ⟨root, member, -, reached⟩ := path.reached_of_new fixed exact known (Option.isSome_iff_ne_none.mpr present)
    obtain rfl := Multiset.mem_singleton.mp member
    rcases Relation.ReflTransGen.cases_head reached with same | ⟨child, ⟨⟨holder, here, listed⟩, fresh⟩, -⟩
    · exact different same.symm
    · obtain rfl := Option.some.inj (shown.symm.trans here)
      simpa [fresh] using old child listed

end Restored

end ObjectBridge.Guest.Heap

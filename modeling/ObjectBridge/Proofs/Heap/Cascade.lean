import Mathlib.Order.Bounds.Basic
import ObjectBridge.Guest.Object
import ObjectBridge.Proofs.Heap.Restored

/-!
What a release frees. To give back a last reference frees an object, and the references that it held are given
back in turn, in whatever order they are listed. What goes is the garbage and nothing else: the least set that
has in it all to which only what is in the set refers, and that hangs on the reference given back.
-/

namespace ObjectBridge.Guest.Heap

variable {α : Type} {children : α → List Handle}

structure Cascade (α : Type) where
  heap : Heap α
  pending : List Handle
  freed : List α

namespace Cascade

inductive Step (children : α → List Handle) : Cascade α → Cascade α → Prop
  | stale {heap handle pending freed} (missing : heap.cell? handle = none) :
      Step children ⟨heap, handle :: pending, freed⟩ ⟨heap, pending, freed⟩
  | lower {heap handle pending freed cell} (found : heap.cell? handle = some cell) (several : 1 < cell.count) :
      Step children ⟨heap, handle :: pending, freed⟩
        ⟨heap.occupy handle.index { cell with count := cell.count - 1 }, pending, freed⟩
  | free {heap handle pending freed cell} (found : heap.cell? handle = some cell) (last : cell.count ≤ 1)
      (order : List Handle) (listed : order.Perm (children cell.object)) :
      Step children ⟨heap, handle :: pending, freed⟩
        ⟨heap.vacate handle.index, order ++ pending, cell.object :: freed⟩

abbrev Course (children : α → List Handle) : Cascade α → Cascade α → Prop :=
  Relation.ReflTransGen (Step children)

def size (children : α → List Handle) (cascade : Cascade α) : Nat :=
  cascade.pending.length + cascade.heap.referenceCount children

variable {cascade next : Cascade α}

theorem Step.size_lt (step : Step children cascade next) : next.size children < cascade.size children := by
  cases step with
  | stale missing =>
    simp only [size, List.length_cons]
    omega
  | lower found several =>
    simp only [size, referenceCount_occupy children found, List.length_cons]
    omega
  | free found last order listed =>
    have fewer := referenceCount_vacate children found
    simp only [size, List.length_append, listed.length_eq, List.length_cons]
    omega

theorem wellFounded_step (children : α → List Handle) :
    WellFounded fun next cascade : Cascade α => Step children cascade next :=
  Subrelation.wf Step.size_lt (InvImage.wf (size children) Nat.lt_wfRel.wf)

theorem exists_step (heap : Heap α) (handle : Handle) (pending : List Handle) (freed : List α) :
    ∃ next, Step children ⟨heap, handle :: pending, freed⟩ next := by
  cases found : heap.cell? handle with
  | none => exact ⟨_, .stale found⟩
  | some cell =>
    by_cases last : cell.count ≤ 1
    · exact ⟨_, .free found last (children cell.object) (List.Perm.refl _)⟩
    · exact ⟨_, .lower found (by omega)⟩

theorem course_releaseAll (children : α → List Handle) (heap : Heap α) (pending : List Handle) (freed : List α) :
    Course children ⟨heap, pending, freed⟩
      ⟨(heap.releaseAll children pending freed).1, [], (heap.releaseAll children pending freed).2⟩ := by
  fun_induction releaseAll children heap pending freed with
  | case1 heap freed => exact .refl
  | case2 heap freed handle pending missing ih => exact .head (.stale missing) ih
  | case3 heap freed handle pending cell found last ih =>
    exact .head (.free found last _ (List.reverse_perm _)) ih
  | case4 heap freed handle pending cell found several ih => exact .head (.lower found (by omega)) ih

end Cascade

/-- The set has in it every object that has no reference from outside, to which only objects of the set refer,
and that is the given one or is referred to by an object of the set. -/
def Absorbs (children : α → List Handle) (heap : Heap α) (outside : Multiset Handle) (handle : Handle)
    (garbage : Set Handle) : Prop :=
  ∀ other, (heap.get? other).isSome → other ∉ outside →
    (∀ holder, heap.Refers children holder other → holder ∈ garbage) →
      (other = handle ∨ ∃ holder ∈ garbage, heap.Refers children holder other) → other ∈ garbage

structure Frees (children : α → List Handle) (heap heap' : Heap α) (outside : Multiset Handle) (garbage : Set Handle)
    (freed : List α) : Prop where
  /-- Each object is freed once: `order` lists the handles of those that are. -/
  once : ∃ order : List Handle, order.Nodup ∧ (∀ other, other ∈ order ↔ other ∈ garbage) ∧
    order.map heap.get? = freed.map some
  missing : ∀ other ∈ garbage, heap'.get? other = none
  kept : ∀ other, other ∉ garbage → heap'.get? other = heap.get? other
  unreached : ∀ root ∈ outside, ∀ other, Relation.ReflTransGen (heap.Refers children) root other → other ∉ garbage
  exact : heap'.Exact children outside

/-- What a release has done so far to a heap in which `outside` is held besides the reference that is given back;
`gone` are the handles of the objects that were freed. -/
structure Cascade.Follows (children : α → List Handle) (heap : Heap α) (outside : Multiset Handle) (handle : Handle)
    (earlier : List α) (cascade : Cascade α) (gone : List Handle) : Prop where
  once : gone.Nodup
  freed : ∃ fresh, cascade.freed = fresh ++ earlier ∧ gone.map heap.get? = fresh.map some
  missing : ∀ other ∈ gone, cascade.heap.get? other = none
  kept : ∀ other, other ∉ gone → cascade.heap.get? other = heap.get? other
  exact : cascade.heap.Exact children ((cascade.pending : Multiset Handle) + outside)
  reached : ∀ other ∈ cascade.pending, other = handle ∨ ∃ holder ∈ gone, heap.Refers children holder other
  least : ∀ garbage, heap.Absorbs children outside handle garbage → ∀ other ∈ gone, other ∈ garbage

namespace Cascade

variable {heap : Heap α} {outside : Multiset Handle} {handle : Handle} {earlier : List α} {cascade next : Cascade α}
  {gone : List Handle}

theorem follows_start (exact : heap.Exact children (handle ::ₘ outside)) :
    Follows children heap outside handle earlier ⟨heap, [handle], earlier⟩ [] where
  once := List.nodup_nil
  freed := ⟨[], rfl, rfl⟩
  missing := nofun
  kept _ _ := rfl
  exact := by simpa using exact
  reached other listed := Or.inl (List.mem_singleton.mp listed)
  least := nofun

theorem Follows.get?_eq (follows : Follows children heap outside handle earlier cascade gone) {other : Handle}
    {object : α} (found : cascade.heap.get? other = some object) : other ∉ gone ∧ heap.get? other = some object := by
  have present : other ∉ gone := fun listed => by simp [follows.missing other listed] at found
  exact ⟨present, (follows.kept other present).symm.trans found⟩

theorem Follows.holders_gone (follows : Follows children heap outside handle earlier cascade gone) {other : Handle}
    (unreferred : (cascade.heap.references children).count other = 0) {holder : Handle}
    (refers : heap.Refers children holder other) : holder ∈ gone := by
  by_contra present
  obtain ⟨object, found, child⟩ := refers
  rw [← follows.kept holder present] at found
  exact List.count_eq_zero.mp unreferred (mem_references found child)

theorem Follows.step (follows : Follows children heap outside handle earlier cascade gone)
    (step : Step children cascade next) : ∃ gone, Follows children heap outside handle earlier next gone := by
  have counts := follows.exact
  have reached := follows.reached
  cases step with
  | @stale between other pending freed missing =>
    obtain ⟨cell, found⟩ : ∃ cell, between.cell? other = some cell := counts.exists_cell_of_held (by simp)
    simp [found] at missing
  | @lower between other pending freed cell found several =>
    refine ⟨gone, follows.once, follows.freed, fun old listed => ?_, fun old apart => ?_, ?_, ?_, follows.least⟩
    · rw [get?_occupy_count found]
      exact follows.missing old listed
    · rw [get?_occupy_count found]
      exact follows.kept old apart
    · have step : Heap.Step children (fun _ _ _ => False) (between, ((other :: pending : List Handle) : Multiset Handle))
          (between.occupy other.index { cell with count := cell.count - 1 }, (pending : Multiset Handle)) := by
        rw [← Multiset.cons_coe]
        exact .lower found several
      exact step.exact counts
    · exact fun old listed => reached old (List.mem_cons_of_mem _ listed)
  | @free between other pending freed cell found last order listed =>
    obtain ⟨present, was⟩ := follows.get?_eq (get?_of_cell found)
    -- The one reference that is left is the one that is given back.
    have positive := counts.positive other cell.count (by simp [count?, found])
    have count := counts.count_eq found
    simp only [← Multiset.cons_coe, Multiset.cons_add, Multiset.count_cons_self, Multiset.count_add] at count
    have unheld : other ∉ outside := Multiset.count_eq_zero.mp (by omega)
    have unreferred : (between.references children).count other = 0 := by omega
    have holders (holder : Handle) (refers : heap.Refers children holder other) : holder ∈ gone :=
      follows.holders_gone unreferred refers
    refine ⟨other :: gone, List.nodup_cons.mpr ⟨present, follows.once⟩, ?_, fun old member => ?_, fun old apart => ?_, ?_,
      fun old member => ?_, fun garbage absorbs old member => ?_⟩
    · obtain ⟨fresh, split, matched⟩ := follows.freed
      refine ⟨cell.object :: fresh, congrArg (cell.object :: ·) split, ?_⟩
      rw [List.map_cons, List.map_cons, was, matched]
    · rw [get?_vacate found]
      split
      · rfl
      · rename_i different
        exact follows.missing old ((List.mem_cons.mp member).resolve_left different)
    · obtain ⟨different, old⟩ := not_or.mp (mt List.mem_cons.mpr apart)
      rw [get?_vacate found, if_neg different, follows.kept _ old]
    · have step : Heap.Step children (fun _ _ _ => False) (between, ((other :: pending : List Handle) : Multiset Handle))
          (between.vacate other.index, ((order ++ pending : List Handle) : Multiset Handle)) := by
        rw [← Multiset.cons_coe, ← Multiset.coe_add, Multiset.coe_eq_coe.mpr listed]
        exact .free found (by omega)
      exact step.exact counts
    · rcases List.mem_append.mp member with child | later
      · exact Or.inr ⟨other, List.mem_cons_self, cell.object, was, listed.mem_iff.mp child⟩
      · refine (reached old (List.mem_cons_of_mem _ later)).imp_right ?_
        rintro ⟨holder, earlier, refers⟩
        exact ⟨holder, List.mem_cons_of_mem _ earlier, refers⟩
    · rcases List.mem_cons.mp member with rfl | earlier
      · refine absorbs old (by simp [was]) unheld (fun holder refers => ?_) ?_
        · exact follows.least garbage absorbs holder (holders holder refers)
        · refine (reached old List.mem_cons_self).imp_right ?_
          rintro ⟨holder, earlier, refers⟩
          exact ⟨holder, follows.least garbage absorbs holder earlier, refers⟩
      · exact follows.least garbage absorbs old earlier

theorem Follows.course (follows : Follows children heap outside handle earlier cascade gone)
    (course : Course children cascade next) : ∃ gone, Follows children heap outside handle earlier next gone := by
  induction course with
  | refl => exact ⟨gone, follows⟩
  | tail _ step ih =>
    obtain ⟨between, follows⟩ := ih
    exact follows.step step

section Ended

variable {heap' : Heap α} {freed : List α}
  (follows : Follows children heap outside handle earlier ⟨heap', [], freed⟩ gone)
include follows

theorem Follows.exact_ended : heap'.Exact children outside := by
  simpa using follows.exact

theorem Follows.absorbs : heap.Absorbs children outside handle {other | other ∈ gone} := by
  intro other live unheld holders _
  by_contra present
  have still := follows.kept other present
  obtain ⟨object, found⟩ := Option.isSome_iff_exists.mp live
  obtain ⟨cell, here, -⟩ := cell_of_get? (still.trans found)
  rcases follows.exact_ended.referred_of_cell here with held | ⟨holder, object, shown, child⟩
  · exact unheld held
  · obtain ⟨stays, was⟩ := follows.get?_eq shown
    exact stays (holders holder ⟨object, was, child⟩)

theorem Follows.isLeast : IsLeast {garbage | heap.Absorbs children outside handle garbage} {other | other ∈ gone} :=
  ⟨follows.absorbs, fun garbage absorbs other listed => follows.least garbage absorbs other listed⟩

theorem Follows.notMem_of_reached {root other : Handle} (held : root ∈ outside)
    (path : Relation.ReflTransGen (heap.Refers children) root other) : other ∉ gone := by
  have live {kept : Handle} (referred : kept ∈ outside ∨ kept ∈ heap'.references children) : kept ∉ gone := by
    obtain ⟨cell, found⟩ := follows.exact_ended.exists_cell referred
    exact (follows.get?_eq (get?_of_cell found)).1
  induction path with
  | refl => exact live (Or.inl held)
  | @tail holder last _ refers ih =>
    obtain ⟨object, found, child⟩ := refers
    rw [← follows.kept holder ih] at found
    exact live (Or.inr (mem_references found child))

theorem Follows.frees {garbage : Set Handle}
    (least : IsLeast {garbage | heap.Absorbs children outside handle garbage} garbage) :
    ∃ fresh, freed = fresh ++ earlier ∧ heap.Frees children heap' outside garbage fresh := by
  obtain rfl := least.unique follows.isLeast
  obtain ⟨fresh, split, matched⟩ := follows.freed
  exact ⟨fresh, split, ⟨gone, follows.once, fun _ => Iff.rfl, matched⟩, follows.missing, follows.kept,
    fun root held other path => follows.notMem_of_reached held path, follows.exact_ended⟩

end Ended

end Cascade

theorem Frees.cell?_eq {heap heap' heap'' : Heap α} {outside : Multiset Handle} {garbage : Set Handle}
    {freed freed' : List α} (frees : heap.Frees children heap' outside garbage freed)
    (frees' : heap.Frees children heap'' outside garbage freed') (other : Handle) :
    heap''.cell? other = heap'.cell? other := by
  refine frees.exact.cell?_eq frees'.exact (funext fun kept => ?_) other
  by_cases gone : kept ∈ garbage
  · rw [frees.missing kept gone, frees'.missing kept gone]
  · rw [frees.kept kept gone, frees'.kept kept gone]

/-- To give back a reference to an object ends, in whatever order the references are listed that freed objects
held, and frees the garbage: the least set that has in it what only its own objects refer to, apart from the
reference given back, and that is the object itself or is referred to by an object of the set. All else is as it
was, and is counted as often as it is still referred to. So neither what goes nor the counts of what stays depend
on the order. -/
theorem release_frees_garbage {heap : Heap α} {outside : Multiset Handle} {handle : Handle}
    (exact : heap.Exact children (handle ::ₘ outside)) :
    (WellFounded fun next cascade : Cascade α => Cascade.Step children cascade next) ∧
      ∃ garbage, IsLeast {garbage | heap.Absorbs children outside handle garbage} garbage ∧
        ∀ earlier,
          let released := heap.releaseAll children [handle] earlier
          Cascade.Course children ⟨heap, [handle], earlier⟩ ⟨released.1, [], released.2⟩ ∧
            ∀ last, Cascade.Course children ⟨heap, [handle], earlier⟩ last → (∀ next, ¬Cascade.Step children last next) →
              last.pending = [] ∧
                (∃ freed, last.freed = freed ++ earlier ∧ heap.Frees children last.heap outside garbage freed) ∧
                  ∀ other, last.heap.cell? other = released.1.cell? other := by
  have follows (earlier : List α) {last : Cascade α} (course : Cascade.Course children ⟨heap, [handle], earlier⟩ last) :
      ∃ gone, Cascade.Follows children heap outside handle earlier last gone :=
    (Cascade.follows_start exact).course course
  obtain ⟨garbage, least⟩ : ∃ garbage, IsLeast {garbage | heap.Absorbs children outside handle garbage} garbage := by
    obtain ⟨gone, ended⟩ := follows [] (Cascade.course_releaseAll children heap [handle] [])
    exact ⟨_, ended.isLeast⟩
  refine ⟨Cascade.wellFounded_step children, garbage, least, fun earlier => ?_⟩
  intro released
  have own : Cascade.Course children ⟨heap, [handle], earlier⟩ ⟨released.1, [], released.2⟩ :=
    Cascade.course_releaseAll children heap [handle] earlier
  refine ⟨own, fun last course stuck => ?_⟩
  obtain ⟨heap', pending, freed⟩ := last
  obtain rfl : pending = [] := by
    cases pending with
    | nil => rfl
    | cons other pending =>
      obtain ⟨next, step⟩ : ∃ next, Cascade.Step children ⟨heap', other :: pending, freed⟩ next :=
        Cascade.exists_step heap' other pending freed
      exact absurd step (stuck next)
  obtain ⟨gone, ended⟩ := follows earlier course
  obtain ⟨goneOwn, endedOwn⟩ := follows earlier own
  obtain ⟨fresh, split, frees⟩ := ended.frees least
  obtain ⟨freshOwn, -, freesOwn⟩ := endedOwn.frees least
  exact ⟨rfl, ⟨fresh, split, frees⟩, freesOwn.cell?_eq frees⟩

/-- The last reference to a tuple that has the same string in it twice is given back: both go. -/
theorem release_frees_garbage_pair :
    let item := (empty : Heap (Object Unit)).allocate (.str "item")
    let pair := (item.2.acquire item.1).allocate (.tuple [item.1, item.1])
    pair.2.Exact Object.children (pair.1 ::ₘ 0) ∧ ∃ garbage,
      IsLeast {garbage | pair.2.Absorbs Object.children 0 pair.1 garbage} garbage ∧
        pair.1 ∈ garbage ∧ item.1 ∈ garbage := by
  intro item pair
  have made : item.2.Exact Object.children (item.1 ::ₘ 0) :=
    exact_allocate (Object.str "item") rfl exact_empty
  have taken : Path Object.children (fun _ _ _ => False) (item.2, item.1 ::ₘ 0)
      (item.2.acquire item.1, item.1 ::ₘ item.1 ::ₘ 0) := by
    obtain ⟨cell, found⟩ := made.exists_cell_of_held (Multiset.mem_cons_self item.1 0)
    exact .single (.acquire found)
  have counted := Path.exact_alone taken made
  have exact : pair.2.Exact Object.children (pair.1 ::ₘ 0) :=
    Path.exact_alone (path_allocate Object.children (fun _ _ _ => False) (item.2.acquire item.1)
      (.tuple [item.1, item.1]) 0) counted
  have shown (other : Handle) : pair.2.get? other = if other = pair.1 then some (.tuple [item.1, item.1])
      else if other = item.1 then some (.str "item") else none := by
    rw [get?_allocate counted.sound, get?_acquire, get?_allocate sound_empty]
    simp [get?, cell?_empty]
    rfl
  have only {holder other : Handle} (refers : pair.2.Refers Object.children holder other) :
      holder = pair.1 ∧ other = item.1 := by
    obtain ⟨object, found, child⟩ := refers
    rw [shown] at found
    split at found
    · obtain rfl := Option.some.inj found
      exact ⟨‹_›, by simpa [Object.children] using child⟩
    · split at found
      · obtain rfl := Option.some.inj found
        simp [Object.children] at child
      · cases found
  have apart : item.1 ≠ pair.1 := by decide
  obtain ⟨-, garbage, least, -⟩ := release_frees_garbage exact
  have first : pair.1 ∈ garbage :=
    least.1 pair.1 (by simp [shown]) (Multiset.notMem_zero _) (fun holder refers => absurd (only refers).2.symm apart)
      (Or.inl rfl)
  refine ⟨exact, garbage, least, first, ?_⟩
  refine least.1 item.1 (by simp [shown, apart]) (Multiset.notMem_zero _) (fun holder refers => ?_) (Or.inr ?_)
  · exact (only refers).1 ▸ first
  · exact ⟨pair.1, first, .tuple [item.1, item.1], by simp [shown], by simp [Object.children]⟩

end ObjectBridge.Guest.Heap

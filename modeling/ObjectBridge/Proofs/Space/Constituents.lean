import ObjectBridge.Proofs.Space.Extension
import ObjectBridge.Proofs.Space.Plain

/-!
Constituents. Some references of an object are its own for as long as it is there: the items of a tuple, the bases of a
type, the type of an instance. What an object leads to along these is there as long as the object is, and of each of
these objects only the bindings can be others then.
-/

namespace ObjectBridge.Guest

variable {β : Type}

def Object.constituents : Object β → List Handle
  | .tuple items => items
  | .typeObject contents => contents.bases
  | .object contents => [contents.type]
  | _ => []

theorem Object.constituents_subset_children (object : Object β) : object.constituents ⊆ object.children := by
  cases object with
  | tuple items => exact List.Subset.refl _
  | typeObject contents => exact List.subset_append_left _ _
  | object contents => simp [constituents, children]
  | _ => exact List.nil_subset _

abbrev Object.Becomes : Object β → Object β → Prop :=
  Relation.ReflTransGen Object.Changes

section Becomes

variable {object object' : Object β}

theorem Object.Becomes.kind_eq (becomes : object.Becomes object') : object'.kind = object.kind := by
  induction becomes with
  | refl => rfl
  | tail _ changes ih => exact changes.kind_eq.trans ih

theorem Object.Becomes.constituents_eq (becomes : object.Becomes object') :
    object'.constituents = object.constituents := by
  induction becomes with
  | refl => rfl
  | tail _ changes ih =>
    rw [← ih]
    cases changes <;> rfl

theorem Object.Becomes.eq_of_fixed (becomes : object.Becomes object') (fixed : ∀ other, ¬object.Changes other) :
    object' = object := by
  cases Relation.ReflTransGen.cases_head becomes with
  | inl same => exact same.symm
  | inr changed =>
    obtain ⟨other, changes, -⟩ := changed
    exact absurd changes (fixed other)

end Becomes

namespace Space

variable {space space' space'' : Space β} {root handle next : Handle} {object object' : Object β}

def Involves (space : Space β) : Handle → Handle → Prop :=
  Relation.ReflTransGen (space.heap.Refers Object.constituents)

/-- All that the root is made up of in the one space is there in the other, with other bindings at most. -/
def Endures (space space' : Space β) (root : Handle) : Prop :=
  ∀ handle, space.Involves root handle → ∃ object object', space.heap.get? handle = some object ∧
    space'.heap.get? handle = some object' ∧ object.Becomes object'

theorem Endures.exists_object (endures : space.Endures space' root) :
    ∃ object object', space.heap.get? root = some object ∧ space'.heap.get? root = some object' ∧
      object.Becomes object' :=
  endures root .refl

theorem Endures.becomes (endures : space.Endures space' root) (found : space.heap.get? root = some object)
    (found' : space'.heap.get? root = some object') : object.Becomes object' := by
  obtain ⟨earlier, later, shown, shown', becomes⟩ := endures.exists_object
  obtain rfl := Option.some.inj (found.symm.trans shown)
  obtain rfl := Option.some.inj (found'.symm.trans shown')
  exact becomes

theorem Endures.constituent (endures : space.Endures space' root) (found : space.heap.get? root = some object)
    (listed : next ∈ object.constituents) : space.Endures space' next :=
  fun handle involves => endures handle (.head ⟨object, found, listed⟩ involves)

theorem Endures.involves (endures : space.Endures space' root) (involves : space.Involves root handle) :
    space'.Involves root handle := by
  induction involves with
  | refl => exact .refl
  | tail earlier refers ih =>
    obtain ⟨object, found, listed⟩ := refers
    obtain ⟨_, object', shown, found', becomes⟩ := endures _ earlier
    obtain rfl := Option.some.inj (found.symm.trans shown)
    exact ih.tail ⟨object', found', becomes.constituents_eq ▸ listed⟩

theorem Endures.trans (one : space.Endures space' root) (two : space'.Endures space'' root) :
    space.Endures space'' root := by
  intro handle involves
  obtain ⟨object, middle, found, between, becomes⟩ := one handle involves
  obtain ⟨_, object', shown, found', later⟩ := two handle (one.involves involves)
  obtain rfl := Option.some.inj (between.symm.trans shown)
  exact ⟨object, object', found, found', becomes.trans later⟩

theorem Endures.get?_eq (endures : space.Endures space' root) (fixed : ∀ other, ¬object.Changes other)
    (found : space.heap.get? root = some object) : space'.heap.get? root = some object := by
  obtain ⟨earlier, later, shown, shown', becomes⟩ := endures.exists_object
  obtain rfl := Option.some.inj (found.symm.trans shown)
  rw [shown', becomes.eq_of_fixed fixed]

theorem Endures.get?_of_fixed (endures : space.Endures space' root) (found : space'.heap.get? root = some object)
    (fixed : ∀ other, ¬Object.Changes other object) : space.heap.get? root = some object := by
  obtain ⟨earlier, later, shown, shown', becomes⟩ := endures.exists_object
  obtain rfl := Option.some.inj (found.symm.trans shown')
  cases becomes with
  | refl => exact shown
  | tail _ changes => exact absurd changes (fixed _)

theorem Endures.plain_iff (endures : space.Endures space' handle) : space'.Plain handle ↔ space.Plain handle := by
  constructor
  · intro plain
    induction plain with
    | none found => exact .none (endures.get?_of_fixed found nofun)
    | text found => exact .text (endures.get?_of_fixed found nofun)
    | tuple found _ ih =>
      have earlier := endures.get?_of_fixed found nofun
      exact .tuple earlier fun item listed => ih item listed (endures.constituent earlier listed)
  · intro plain
    induction plain with
    | none found => exact .none (endures.get?_eq nofun found)
    | text found => exact .text (endures.get?_eq nofun found)
    | tuple found _ ih =>
      exact .tuple (endures.get?_eq nofun found) fun item listed => ih item listed (endures.constituent found listed)

theorem Closed.endures_extends (closed : space.Closed) (grown : space.Extends space') (has : space.Has root) :
    space.Endures space' root := by
  intro handle involves
  suffices there : space.Has handle by
    obtain ⟨object, found⟩ := there
    exact ⟨object, object, found, grown.objects handle object found, .refl⟩
  induction involves with
  | refl => exact has
  | tail _ refers ih =>
    obtain ⟨object, found, listed⟩ := refers
    exact closed.children _ object found _ (object.constituents_subset_children listed)

theorem Closed.endures_of_fewer (closed : space'.Closed)
    (fewer : ∀ handle object, space'.heap.get? handle = some object → space.heap.get? handle = some object)
    (has : space'.Has root) : space.Endures space' root := by
  intro handle involves
  suffices there : space'.Has handle by
    obtain ⟨object, found⟩ := there
    exact ⟨object, object, fewer handle object found, found, .refl⟩
  induction involves with
  | refl => exact has
  | tail _ refers ih =>
    obtain ⟨object, found⟩ := ih
    obtain ⟨other, shown, listed⟩ := refers
    obtain rfl := Option.some.inj ((fewer _ object found).symm.trans shown)
    exact closed.children _ object found _ (object.constituents_subset_children listed)

theorem Path.endures {extent : Extent} {before after : Space β × Multiset Handle} {frame : Multiset Handle}
    (path : Path extent before after) (exact : before.1.Exact (before.2 + frame)) (held : root ∈ frame)
    (started : after.1.roots.isSome) : before.1.Endures after.1 root := by
  induction path with
  | refl =>
    intro handle involves
    suffices there : ∃ cell, before.1.heap.cell? handle = some cell by
      obtain ⟨cell, here⟩ := there
      exact ⟨cell.object, cell.object, Heap.get?_of_cell here, Heap.get?_of_cell here, .refl⟩
    induction involves with
    | refl => exact exists_cell_of_held exact started (Multiset.mem_add.mpr (Or.inr held))
    | tail _ refers _ =>
      obtain ⟨object, found, listed⟩ := refers
      exact (exact.started started).exists_cell_of_child found (object.constituents_subset_children listed)
  | @tail middle last path step ih =>
    have kept := Path.exact path exact
    have referred {handle : Handle} (endures : before.1.Endures middle.1 root) (involves : before.1.Involves root handle) :
        handle ∈ frame + middle.1.own ∨ handle ∈ middle.1.heap.references Object.children := by
      -- It is held, or it is a constituent of another that is there.
      rcases Relation.ReflTransGen.cases_tail (endures.involves involves) with rfl | ⟨_, -, other, here, listed⟩
      · exact Or.inl (Multiset.mem_add.mpr (Or.inl held))
      · exact Or.inr (Heap.mem_references here (other.constituents_subset_children listed))
    cases step with
    | heap earlier step =>
      have endures := ih earlier
      intro handle involves
      obtain ⟨object, between, found, shown, becomes⟩ := endures handle involves
      rcases step.kept (add_assoc _ frame _ ▸ kept.started earlier) (referred endures involves) with
        same | ⟨old, new, was, allowed, now⟩
      · exact ⟨object, between, found, same.trans shown, becomes⟩
      · obtain rfl := Option.some.inj (was.symm.trans shown)
        cases extent with
        | temporary => exact absurd allowed not_false
        | lasting => exact ⟨object, new, found, now, becomes.tail allowed⟩
    | finalize held' => simp [roots_finalize] at started
    | _ => exact ih started

end Space

end ObjectBridge.Guest

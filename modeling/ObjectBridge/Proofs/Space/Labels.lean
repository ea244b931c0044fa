import ObjectBridge.Proofs.Space.Listing

/-!
Labels of the builtin types. A builtin type stays as it is made, and with it the string that is its name.
-/

namespace ObjectBridge.Guest.Space

variable {β : Type} {space : Space β}

/-- The type is a builtin one, and all that it defines is its name, a string. -/
def Labelled (space : Space β) (type : Handle) : Prop :=
  ∃ contents label text, space.heap.get? type = some (.typeObject contents) ∧ contents.builtin = true ∧
    contents.members = .singleton "__name__" label ∧ space.heap.get? label = some (.str text)

theorem text?_eq_some {handle : Handle} {text : String} :
    space.text? handle = some text ↔ space.heap.get? handle = some (.str text) := by
  unfold text?
  split
  · rename_i found
    simp [found]
  · rename_i other
    exact ⟨nofun, fun found => absurd found (other text)⟩

theorem Path.labelled {extent : Extent} {before after : Space β × Multiset Handle} {frame : Multiset Handle}
    {type : Handle} (path : Path extent before after) (exact : before.1.Exact (before.2 + frame))
    (root : type ∈ before.1.rootHandles) (labelled : before.1.Labelled type) (started : after.1.roots.isSome) :
    after.1.Labelled type := by
  induction path with
  | refl => exact labelled
  | @tail middle last path step ih =>
    have kept := Path.exact path exact
    have referred (earlier : middle.1.roots.isSome) : type ∈ frame + middle.1.own := by
      refine Multiset.mem_add.mpr (Or.inr (Multiset.mem_add.mpr (Or.inr (Multiset.mem_coe.mpr ?_))))
      rwa [rootHandles, Path.roots_eq path earlier]
    cases step with
    | heap earlier step =>
      obtain ⟨contents, label, text, found, builtin, members, written⟩ := ih earlier
      have exactNow := add_assoc _ frame _ ▸ kept.started earlier
      have child : label ∈ (Object.typeObject (β := β) contents).children := by
        refine List.mem_append_right _ (Bindings.mem_values.mpr ⟨"__name__", ?_⟩)
        rw [members, Bindings.singleton, Bindings.get?_insert, if_pos rfl]
      have fixed {object object' : Object β} {handle : Handle} (allowed : extent.changes handle object object') :
          Object.Changes object object' := by
        cases extent with
        | temporary => exact absurd allowed not_false
        | lasting => exact allowed
      refine ⟨contents, label, text, ?_, builtin, members, ?_⟩
      · rcases step.kept exactNow (Or.inl (referred earlier)) with same | ⟨old, new, was, allowed, -⟩
        · exact same.trans found
        · obtain rfl := Option.some.inj (found.symm.trans was)
          cases fixed allowed with
          | typeObject _ _ made => simp [made] at builtin
      · rcases step.kept exactNow (Or.inr (Heap.mem_references found child)) with same | ⟨old, new, was, allowed, -⟩
        · exact same.trans written
        · obtain rfl := Option.some.inj (written.symm.trans was)
          cases fixed allowed
    | finalize held' => simp [roots_finalize] at started
    | _ => exact ih started

end ObjectBridge.Guest.Space

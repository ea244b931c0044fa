import ObjectBridge.Proofs.Space.Extension

/-!
Other globals. When a module gets other globals, nothing else shows it: all other objects are what they were, so
they have the attributes that they had, even if these lead to the module.
-/

namespace ObjectBridge.Guest.Space

variable {β : Type} {base space : Space β} {module handle : Handle}

/-- The later space has all that the earlier one has, but for the globals of one module. -/
structure Rebinds (base space : Space β) (module : Handle) : Prop where
  objects : ∀ handle object, handle ≠ module → base.heap.get? handle = some object →
    space.heap.get? handle = some object
  earlier : ∃ contents, base.heap.get? module = some (.moduleObject contents)
  later : ∃ contents, space.heap.get? module = some (.moduleObject contents)
  roots : space.roots = base.roots

section Views

variable (rebinds : base.Rebinds space module)
include rebinds

theorem Rebinds.sameTypes : base.SameTypes space := by
  obtain ⟨_, earlier⟩ := rebinds.earlier
  obtain ⟨_, later⟩ := rebinds.later
  constructor
  all_goals
    intro type ⟨object, found⟩
    by_cases same : type = module
    · simp [bases, members, same, earlier, later]
    · simp [bases, members, found, rebinds.objects type object same found]

theorem Rebinds.object_cases (has : base.Has handle) : space.object handle = base.object handle ∨
    handle = module ∧ ∃ contents contents', base.object handle = .ok (.moduleObject contents) ∧
      space.object handle = .ok (.moduleObject contents') := by
  obtain ⟨object, found⟩ := has
  by_cases same : handle = module
  · subst same
    obtain ⟨contents, earlier⟩ := rebinds.earlier
    obtain ⟨contents', later⟩ := rebinds.later
    rcases started : base.roots with _ | roots
    · exact Or.inl (by simp [Space.object, rootsNow, rebinds.roots, started, bind, Except.bind])
    · refine Or.inr ⟨rfl, contents, contents', object_eq_ok.mpr ⟨?_, earlier⟩, object_eq_ok.mpr ⟨?_, later⟩⟩
      · rw [started]
        rfl
      · rw [rebinds.roots, started]
        rfl
  · left
    simp [Space.object, rootsNow, rebinds.roots, found, rebinds.objects handle object same found]

theorem Rebinds.object_eq (has : base.Has handle) (other : handle ≠ module) :
    space.object handle = base.object handle :=
  (rebinds.object_cases has).resolve_right fun same => other same.1

theorem Rebinds.sameObjects : base.SameObjects space :=
  ⟨rebinds.roots, rebinds.sameTypes, fun _ has => (rebinds.object_cases has).imp_right (·.2)⟩

end Views

end ObjectBridge.Guest.Space

import ObjectBridge.Guest.Attributes
import ObjectBridge.Guest.Callee
import ObjectBridge.Guest.Dictionary
import ObjectBridge.Guest.Printing
import ObjectBridge.Guest.Types
import ObjectBridge.Proofs.Space.Exact
import ObjectBridge.Proofs.Tracing.Heap

/-!
Spaces that differ in what one global of one module is bound to. Each of them may have it bound to another of
some values that a space holds on to, and may count its references to these as it pleases; all else is the
same. Nothing else that can be read in such spaces differs. Another global of the module may be fixed: it stays
bound to a function.
-/

namespace ObjectBridge

namespace Bindings

variable {α : Type}

theorem forall₂_insertEntry {related : α → α → Prop} (refl : ∀ value, related value value) (name : String)
    {value value' : α} (values : related value value') (entries : List (String × α)) :
    List.Forall₂ (fun first second => first.1 = second.1 ∧ related first.2 second.2)
      (insertEntry name value entries) (insertEntry name value' entries) := by
  have same (entries : List (String × α)) :
      List.Forall₂ (fun first second => first.1 = second.1 ∧ related first.2 second.2) entries entries :=
    List.forall₂_same.mpr fun entry _ => ⟨rfl, refl entry.2⟩
  induction entries with
  | nil => exact .cons ⟨rfl, values⟩ .nil
  | cons entry rest ih =>
    simp only [insertEntry]
    split
    · exact .cons ⟨rfl, values⟩ (same _)
    · split
      · exact .cons ⟨rfl, values⟩ (same _)
      · exact .cons ⟨rfl, refl entry.2⟩ ih

theorem forall₂_entries_insert {related : α → α → Prop} (refl : ∀ value, related value value) (bindings : Bindings α)
    (name : String) {value value' : α} (values : related value value') :
    List.Forall₂ (fun first second => first.1 = second.1 ∧ related first.2 second.2)
      (bindings.insert name value).entries (bindings.insert name value').entries := by
  rw [entries_insert, entries_insert]
  exact forall₂_insertEntry refl name values bindings.entries

theorem names_insert_eq (bindings : Bindings α) (name : String) (value value' : α) :
    (bindings.insert name value).names = (bindings.insert name value').names := by
  let Values (first second : α) : Prop := first = second ∨ first = value ∧ second = value'
  have refl (other : α) : Values other other := Or.inl rfl
  have set : Values value value' := Or.inr ⟨rfl, rfl⟩
  have pairs := forall₂_entries_insert refl bindings name set
  have same : List.Forall₂ (· = ·) (bindings.insert name value).names (bindings.insert name value').names :=
    List.forall₂_map_left_iff.mpr (List.forall₂_map_right_iff.mpr (pairs.imp fun _ _ both => both.1))
  rwa [List.forall₂_eq_eq_eq] at same

theorem insert_insert (bindings : Bindings α) (name : String) (value value' : α) :
    (bindings.insert name value).insert name value' = bindings.insert name value' :=
  ext_get? fun other => by
    rw [get?_insert, get?_insert, get?_insert]
    split <;> rfl

theorem insert_comm (bindings : Bindings α) {name other : String} (apart : other ≠ name) (value value' : α) :
    (bindings.insert name value).insert other value' = (bindings.insert other value').insert name value :=
  ext_get? fun key => by
    simp only [get?_insert]
    grind

end Bindings

namespace Guest

variable {β : Type}

structure Fixture (β : Type) where
  moduleName : String
  name : String
  function : Handle
  callable : Function β

/-- A global of a module, and the values it may be bound to; and perhaps another one that stays as it is. -/
structure Switch (β : Type) where
  module : Handle
  name : String
  values : List Handle
  fixture : Option (Fixture β)

namespace Switch

inductive Objects (switch : Switch β) : Handle → Object β → Object β → Prop
  | same (handle : Handle) (object : Object β) : switch.Objects handle object object
  | switched (name : String) (globals : Bindings Handle) {value value' : Handle} (listed : value ∈ switch.values)
      (listed' : value' ∈ switch.values) :
      switch.Objects switch.module (.moduleObject { name, globals := globals.insert switch.name value })
        (.moduleObject { name, globals := globals.insert switch.name value' })

def likeness (switch : Switch β) : Heap.Likeness (Object.children (β := β)) where
  free handle := handle ∈ switch.values
  objects := switch.Objects
  refl := .same
  children := by
    rintro handle object object' related
    cases related with
    | same => exact List.forall₂_same.mpr fun _ _ => Or.inl rfl
    | switched name globals listed listed' =>
      let Values (first second : Handle) : Prop := first = second ∨ first ∈ switch.values ∧ second ∈ switch.values
      have refl (value : Handle) : Values value value := Or.inl rfl
      have set : Values _ _ := Or.inr ⟨listed, listed'⟩
      have pairs := Bindings.forall₂_entries_insert refl globals switch.name set
      exact List.forall₂_map_left_iff.mpr (List.forall₂_map_right_iff.mpr (pairs.imp fun _ _ same => same.2))

theorem handles_of_mem {switch : Switch β} {first second : Handle} (listed : first ∈ switch.values)
    (listed' : second ∈ switch.values) : switch.likeness.Handles first second :=
  Or.inr ⟨listed, listed'⟩

end Switch

namespace Space

/-- The spaces hold on to the same and have the same objects, but for what the switch is set to and how often
its values are counted. The values are among the roots, and objects that differ are listed as `apart`. -/
structure Near (switch : Switch β) (apart : List Handle) (first second : Space β) : Prop where
  roots : second.roots = first.roots
  definitions : second.definitions = first.definitions
  heap : first.heap.Like switch.likeness second.heap
  sound : first.heap.Sound ∧ second.heap.Sound
  held : first.roots.isSome → ∀ value ∈ switch.values, value ∈ first.rootHandles
  differ : ∀ handle, second.heap.get? handle ≠ first.heap.get? handle → handle ∈ apart

structure Fixed (space : Space β) (module : Handle) (fixture : Fixture β) : Prop where
  listed : ∀ name, space.modules.get? name = some module ↔ name = fixture.moduleName
  bound : ∃ contents, space.heap.get? module = some (.moduleObject contents) ∧
    contents.globals.get? fixture.name = some fixture.function
  function : space.heap.get? fixture.function = some (.function fixture.callable)

def Fixes (space : Space β) (switch : Switch β) : Prop :=
  ∀ fixture ∈ switch.fixture, space.roots.isSome → space.Fixed switch.module fixture

structure Like (switch : Switch β) (first second : Space β) : Prop extends
    Near switch first.modules.values first second where
  modules : second.modules = first.modules
  fixes : first.Fixes switch

theorem Exact.sound {space : Space β} {held : Multiset Handle} (exact : space.Exact held) : space.heap.Sound := by
  cases roots : space.roots with
  | some _ => exact (exact.started (by simp [roots])).sound
  | none => exact (exact.ended roots).1 ▸ Heap.sound_empty

theorem Like.refl {switch : Switch β} {space : Space β} (sound : space.heap.Sound)
    (held : space.roots.isSome → ∀ value ∈ switch.values, value ∈ space.rootHandles) (fixes : space.Fixes switch) :
    space.Like switch space where
  roots := rfl
  modules := rfl
  definitions := rfl
  heap := .refl _
  sound := ⟨sound, sound⟩
  held := held
  differ _ different := absurd rfl different
  fixes := fixes

section Views

variable {switch : Switch β} {first second : Space β} {apart : List Handle} (near : first.Near switch apart second)
include near

theorem Near.get?_cases (handle : Handle) :
    second.heap.get? handle = first.heap.get? handle ∨
      ∃ (name : String) (globals : Bindings Handle) (value value' : Handle), value ∈ switch.values ∧
        value' ∈ switch.values ∧
        first.heap.get? handle = some (.moduleObject { name, globals := globals.insert switch.name value }) ∧
        second.heap.get? handle = some (.moduleObject { name, globals := globals.insert switch.name value' }) := by
  have related := near.heap.get? handle
  generalize first.heap.get? handle = shown at related ⊢
  generalize second.heap.get? handle = shown' at related ⊢
  cases related with
  | none => exact Or.inl rfl
  | some related =>
    cases related with
    | same => exact Or.inl rfl
    | switched name globals listed listed' => exact Or.inr ⟨name, globals, _, _, listed, listed', rfl, rfl⟩

theorem Near.rootsNow : second.rootsNow = first.rootsNow := by
  simp only [Space.rootsNow, near.roots]

theorem Near.object_cases (handle : Handle) :
    second.object handle = first.object handle ∨
      ∃ (name : String) (globals : Bindings Handle) (value value' : Handle), value ∈ switch.values ∧
        value' ∈ switch.values ∧
        first.object handle = .ok (.moduleObject { name, globals := globals.insert switch.name value }) ∧
        second.object handle = .ok (.moduleObject { name, globals := globals.insert switch.name value' }) := by
  unfold Space.object
  rw [near.rootsNow]
  rcases near.get?_cases handle with same | ⟨name, globals, value, value', listed, listed', here, there⟩
  · exact Or.inl (by rw [same])
  · rw [here, there]
    cases first.rootsNow with
    | error exception => exact Or.inl rfl
    | ok roots => exact Or.inr ⟨name, globals, value, value', listed, listed', rfl, rfl⟩

theorem Near.exists_object {handle : Handle} {object : Object β} (found : first.object handle = .ok object) :
    ∃ object', second.object handle = .ok object' ∧ switch.Objects handle object object' := by
  have related := near.heap.get? handle
  unfold Space.object at found ⊢
  rw [near.rootsNow]
  generalize first.heap.get? handle = shown at related found
  generalize second.heap.get? handle = shown' at related ⊢
  cases rooted : first.rootsNow with
  | error exception => simp [rooted, bind, Except.bind] at found
  | ok roots =>
    cases related with
    | none => simp [rooted, bind, Except.bind] at found
    | @some shown shown' related =>
      obtain rfl : shown = object := by simpa [rooted, bind, Except.bind] using found
      exact ⟨shown', rfl, related⟩

theorem Near.kind? (handle : Handle) : second.kind? handle = first.kind? handle := by
  unfold Space.kind?
  rcases near.get?_cases handle with same | ⟨_, _, _, _, _, _, here, there⟩
  · rw [same]
  · rw [here, there]
    rfl

theorem Near.text? (handle : Handle) : second.text? handle = first.text? handle := by
  unfold Space.text?
  rcases near.get?_cases handle with same | ⟨_, _, _, _, _, _, here, there⟩
  · rw [same]
  · rw [here, there]

theorem Near.bool? (handle : Handle) : second.bool? handle = first.bool? handle := by
  unfold Space.bool?
  rcases near.get?_cases handle with same | ⟨_, _, _, _, _, _, here, there⟩
  · rw [same]
  · rw [here, there]

theorem Near.tuple? (handle : Handle) : second.tuple? handle = first.tuple? handle := by
  unfold Space.tuple?
  rcases near.get?_cases handle with same | ⟨_, _, _, _, _, _, here, there⟩
  · rw [same]
  · rw [here, there]

theorem Near.builtin? (name : String) : second.builtin? name = first.builtin? name := by
  simp only [Space.builtin?, near.roots]

theorem Near.typeOf (handle : Handle) : second.typeOf handle = first.typeOf handle := by
  unfold Space.typeOf
  rw [near.rootsNow]
  rcases near.object_cases handle with same | ⟨_, _, _, _, _, _, here, there⟩
  · rw [same]
  · rw [here, there]
    rfl

theorem Near.typeName (type : Handle) : second.typeName type = first.typeName type := by
  unfold Space.typeName
  rcases near.object_cases type with same | ⟨_, _, _, _, _, _, here, there⟩
  · rw [same]
  · rw [here, there]
    rfl

theorem Near.typeNameOf (handle : Handle) : second.typeNameOf handle = first.typeNameOf handle := by
  simp only [Space.typeNameOf, near.typeOf, near.typeName]

theorem Near.bases (type : Handle) : second.bases type = first.bases type := by
  unfold Space.bases
  rcases near.get?_cases type with same | ⟨_, _, _, _, _, _, here, there⟩
  · rw [same]
  · rw [here, there]

theorem Near.members (type : Handle) : second.members type = first.members type := by
  unfold Space.members
  rcases near.get?_cases type with same | ⟨_, _, _, _, _, _, here, there⟩
  · rw [same]
  · rw [here, there]

theorem Near.linearizeFrom (order pending : List Handle) :
    second.linearizeFrom order pending = first.linearizeFrom order pending := by
  fun_induction Space.linearizeFrom first order pending with
  | case1 order => rw [Space.linearizeFrom]
  | case2 order type pending listed ih => rw [Space.linearizeFrom, if_pos listed, ih]
  | case3 order type pending fresh ih => rw [Space.linearizeFrom, if_neg fresh, near.bases, ih]

theorem Near.linearization (type : Handle) : second.linearization type = first.linearization type :=
  near.linearizeFrom [] [type]

theorem Near.lookup (type : Handle) (name : String) : second.lookup type name = first.lookup type name := by
  simp only [Space.lookup, near.linearization, near.members]

theorem Near.ownAttribute (handle : Handle) {name : String} (other : name ≠ switch.name) :
    second.ownAttribute handle name = first.ownAttribute handle name := by
  unfold Space.ownAttribute
  rcases near.object_cases handle with same | ⟨_, globals, _, _, _, _, here, there⟩
  · rw [same]
    simp only [near.lookup]
  · rw [here, there]
    simp only [bind, Except.bind, Bindings.get?_insert, if_neg other]

theorem Near.findAttribute (handle : Handle) {name : String} (other : name ≠ switch.name) :
    second.findAttribute handle name = first.findAttribute handle name := by
  unfold Space.findAttribute
  simp only [near.ownAttribute handle other, near.typeOf, near.lookup, near.typeName]
  refine congrArg (bind _) (funext fun own => ?_)
  cases own with
  | some value => rfl
  | none =>
    refine congrArg (bind _) (funext fun type => ?_)
    cases first.lookup type name with
    | none => rfl
    | some value =>
      rcases near.object_cases value with same | ⟨_, _, _, _, _, _, here, there⟩
      · simp only [same]
      · simp only [here, there]
        rfl

theorem Near.inheritedNames (type : Handle) : second.inheritedNames type = first.inheritedNames type := by
  simp only [Space.inheritedNames, near.linearization, near.members]

theorem Near.dir (handle : Handle) : second.dir handle = first.dir handle := by
  unfold Space.dir
  simp only [near.inheritedNames, near.typeOf]
  rcases near.object_cases handle with same | ⟨_, globals, _, _, _, _, here, there⟩
  · rw [same]
  · rw [here, there]
    simp only [bind, Except.bind, pure, Except.pure]
    rw [globals.names_insert_eq]

theorem Near.callee (handle : Handle) : second.callee handle = first.callee handle := by
  unfold Space.callee
  simp only [near.typeNameOf]
  rcases near.object_cases handle with same | ⟨_, _, _, _, _, _, here, there⟩
  · rw [same]
  · rw [here, there]
    rfl

theorem Near.construction (type : Handle) : second.construction type = first.construction type := by
  unfold Space.construction
  rcases near.object_cases type with same | ⟨_, _, _, _, _, _, here, there⟩
  · rw [same]
  · rw [here, there]
    rfl

theorem Near.checkBase (base : Handle) : second.checkBase base = first.checkBase base := by
  unfold Space.checkBase
  rcases near.object_cases base with same | ⟨_, _, _, _, _, _, here, there⟩
  · rw [same]
  · rw [here, there]
    rfl

theorem Near.entries (dict : Handle) : second.entries dict = first.entries dict := by
  unfold Space.entries
  rcases near.object_cases dict with same | ⟨_, _, _, _, _, _, here, there⟩
  · rw [same]
  · rw [here, there]
    rfl

theorem Near.depthBound : second.depthBound = first.depthBound := by
  simp only [Space.depthBound, near.heap.size]

theorem Near.format (quote : Bool) (levels : Nat) (handle : Handle) :
    second.format quote levels handle = first.format quote levels handle := by
  induction levels generalizing quote handle with
  | zero => rfl
  | succ levels ih =>
    have inner : second.format true levels = first.format true levels := funext fun handle => ih true handle
    unfold Space.format
    rw [inner]
    simp only [near.typeNameOf]
    rcases near.object_cases handle with same | ⟨_, _, _, _, _, _, here, there⟩
    · rw [same]
      refine congrArg (bind _) (funext fun object => ?_)
      cases object with
      | boundMethod receiver callable =>
        rcases near.object_cases callable with same' | ⟨_, _, _, _, _, _, here, there⟩
        · simp only [same']
        · simp only [here, there]
          rfl
      | _ => rfl
    · rw [here, there]
      rfl

theorem Near.plainText (handle : Handle) : second.plainText handle = first.plainText handle := by
  simp only [Space.plainText, near.format, near.depthBound]

end Views

end Space

end Guest

end ObjectBridge

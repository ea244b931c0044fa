import ObjectBridge.Proofs.Heap.Nesting
import ObjectBridge.Proofs.Space.Creation
import ObjectBridge.Proofs.Space.Datum

/-!
The printed form of plain data. An object that holds plain data is shown by the text of the data, however deep it is.
So objects that print alike hold the same data, where no key of a dict has a single quote in it. A key is not escaped as
a string is: with a single quote in it, it may look like several entries.
-/

namespace ObjectBridge.Guest

variable {β : Type}

theorem mapM_eq_ok {ε α γ : Type} {convert : α → Except ε γ} {items : List α} {results : List γ}
    (each : List.Forall₂ (fun item result => convert item = .ok result) items results) :
    items.mapM convert = .ok results := by
  induction each with
  | nil => rfl
  | cons one _ ih =>
    rw [List.mapM_cons, one, ih]
    rfl

def Object.contained : Object β → List Handle
  | .tuple items => items
  | .dict entries => entries.values
  | _ => []

namespace Space

variable {space : Space β} {handle other : Handle} {datum datum' : Datum}

inductive Holds (space : Space β) : Handle → Datum → Prop
  | none {handle : Handle} (found : space.heap.get? handle = some .none) : Holds space handle .none
  | bool {handle : Handle} {value : Bool} (found : space.heap.get? handle = some (.bool value)) :
      Holds space handle (.bool value)
  | int {handle : Handle} {value : Int64} (found : space.heap.get? handle = some (.int value)) :
      Holds space handle (.int value)
  | text {handle : Handle} {content : String} (found : space.heap.get? handle = some (.str content)) :
      Holds space handle (.text content)
  | tuple {handle : Handle} {items : List Handle} {data : List Datum}
      (found : space.heap.get? handle = some (.tuple items)) (length : items.length = data.length)
      (each : ∀ (index : Nat) item datum, items[index]? = some item → data[index]? = some datum →
        Holds space item datum) :
      Holds space handle (.tuple data)
  | dict {handle : Handle} {entries : Bindings Handle} {data : List (String × Datum)}
      (found : space.heap.get? handle = some (.dict entries)) (keys : data.map (·.1) = entries.names)
      (each : ∀ (index : Nat) value datum, entries.values[index]? = some value → (data.map (·.2))[index]? = some datum →
        Holds space value datum) :
      Holds space handle (.dict data)

theorem Holds.acc (holds : space.Holds handle datum) :
    Acc (fun part whole => space.heap.Refers Object.contained whole part) handle := by
  induction holds with
  | @tuple handle items data found length each ih =>
    refine ⟨_, fun part refers => ?_⟩
    obtain ⟨object, found', listed⟩ := refers
    obtain rfl := Option.some.inj (found.symm.trans found')
    obtain ⟨index, here⟩ := List.mem_iff_getElem?.mp listed
    obtain ⟨inside, -⟩ := List.getElem?_eq_some_iff.mp here
    exact ih index part _ here (List.getElem?_eq_getElem (length ▸ inside))
  | @dict handle entries data found keys each ih =>
    refine ⟨_, fun part refers => ?_⟩
    obtain ⟨object, found', listed⟩ := refers
    obtain rfl := Option.some.inj (found.symm.trans found')
    obtain ⟨index, here⟩ := List.mem_iff_getElem?.mp listed
    obtain ⟨inside, -⟩ := List.getElem?_eq_some_iff.mp here
    have lengths : (data.map (·.2)).length = entries.values.length := by
      simpa [Bindings.names, Bindings.values] using congrArg List.length keys
    exact ih index part _ here (List.getElem?_eq_getElem (lengths ▸ inside))
  | _ found =>
    refine ⟨_, fun part refers => ?_⟩
    obtain ⟨object, found', listed⟩ := refers
    obtain rfl := Option.some.inj (found.symm.trans found')
    cases listed

def formatEntry (space : Space β) (levels : Nat) (entry : String × Handle) : Except Exception String := do
  let shown ← space.format true levels entry.2
  return s!"'{entry.1}': {shown}"

theorem Holds.format_eq (started : space.roots.isSome) (holds : space.Holds handle datum) {levels : Nat}
    (enough : space.heap.slots.size < levels) : space.format true levels handle = .ok datum.shown := by
  refine Heap.descend_of_acc (fun levels handle => ∀ datum, space.Holds handle datum →
    space.format true levels handle = .ok datum.shown) ?_ holds.acc enough datum holds
  intro levels handle ih datum holds
  have shows (object : Object β) (found : space.heap.get? handle = some object) : space.object handle = .ok object :=
    object_eq_ok.mpr ⟨started, found⟩
  cases holds with
  | none found => simp [format, shows _ found, Datum.shown, bind, Except.bind, pure, Except.pure]
  | bool found => simp [format, shows _ found, Datum.shown, bind, Except.bind, pure, Except.pure]
  | int found => simp [format, shows _ found, Datum.shown, bind, Except.bind, pure, Except.pure]
  | text found => simp [format, shows _ found, Datum.shown, bind, Except.bind, pure, Except.pure]
  | @tuple _ items data found length each =>
    have texts : items.mapM (space.format true levels) = .ok (data.map Datum.shown) := by
      refine mapM_eq_ok (List.forall₂_iff_get.mpr ⟨by simp [length], fun index inside inside' => ?_⟩)
      simp only [List.get_eq_getElem, List.getElem_map]
      have inside' : index < data.length := by simpa using inside'
      refine ih _ ⟨_, found, List.getElem_mem inside⟩ _ ?_
      exact each index _ _ (List.getElem?_eq_getElem inside) (List.getElem?_eq_getElem inside')
    simp [format, shows _ found, texts, Datum.shown, bind, Except.bind, pure, Except.pure]
  | @dict _ entries data found keys each =>
    have each : ∀ (index : Nat) (inside : index < entries.entries.length) (inside' : index < data.length),
        space.format true levels entries.entries[index].2 = .ok data[index].2.shown := by
      intro index inside inside'
      have listed : entries.values[index]? = some entries.entries[index].2 := by simp [Bindings.values, inside]
      have here : (data.map (·.2))[index]? = some data[index].2 := by simp [inside']
      exact ih _ ⟨_, found, List.mem_of_getElem? listed⟩ _ (each index _ _ listed here)
    have same : ∀ (index : Nat) (inside : index < entries.entries.length) (inside' : index < data.length),
        entries.entries[index].1 = data[index].1 := by
      intro index inside inside'
      have here := congrArg (·[index]?) keys
      simpa [Bindings.names, inside, inside', eq_comm] using here
    have texts : entries.entries.mapM (space.formatEntry levels) =
        .ok (data.map fun entry => s!"'{entry.1}': {entry.2.shown}") := by
      have lengths : data.length = entries.entries.length := by
        simpa [Bindings.names] using congrArg List.length keys
      refine mapM_eq_ok (List.forall₂_iff_get.mpr ⟨by simp [lengths], fun index inside inside' => ?_⟩)
      have inside' : index < data.length := by simpa using inside'
      simp only [formatEntry, List.get_eq_getElem, List.getElem_map, each index inside inside', same index inside inside']
      rfl
    have step : space.format true (levels + 1) handle =
        entries.entries.mapM (space.formatEntry levels) >>= fun texts =>
          return "\x7b" ++ ", ".intercalate texts ++ "\x7d" := by
      rw [format, shows _ found]
      rfl
    rw [step, texts, Datum.shown]
    rfl

theorem Holds.repr_eq (started : space.roots.isSome) (holds : space.Holds handle datum) :
    space.repr handle = .ok datum.shown :=
  holds.format_eq started (Nat.lt_succ_self _)

theorem repr_eq_iff (started : space.roots.isSome) (holds : space.Holds handle datum) (holds' : space.Holds other datum')
    (clear : datum.Clear) (clear' : datum'.Clear) : space.repr handle = space.repr other ↔ datum = datum' := by
  rw [holds.repr_eq started, holds'.repr_eq started, Except.ok.injEq]
  exact ⟨Datum.shown_inj clear clear', congrArg Datum.shown⟩

def shape? (space : Space β) (handle : Handle) : Option (List String × List (Option Kind)) :=
  match space.heap.get? handle with
  | some (.dict entries) => some (entries.names, entries.values.map space.kind?)
  | _ => none

theorem holds_of_shape {names : List String}
    (shape : space.shape? handle = some (names, names.map fun _ => some .none)) :
    space.Holds handle (.dict (names.map fun name => (name, .none))) := by
  unfold shape? at shape
  split at shape
  · rename_i entries found
    obtain ⟨rfl, kinds⟩ := Prod.mk.inj (Option.some.inj shape)
    refine .dict found (by rw [List.map_map]; exact List.map_id _) fun index value datum here there => ?_
    have nothing : datum = .none := by
      have member := List.mem_of_getElem? there
      simp only [List.map_map, List.mem_map, Function.comp_apply] at member
      obtain ⟨name, -, same⟩ := member
      exact same.symm
    have kind := congrArg (·[index]?) kinds
    simp only [List.getElem?_map, here, Option.map_some] at kind
    obtain ⟨_, -, kind⟩ := Option.map_eq_some_iff.mp kind.symm
    obtain ⟨object, present, constant⟩ := Option.map_eq_some_iff.mp kind.symm
    cases object <;> cases constant
    exact nothing ▸ .none present
  · cases shape

def quotedKeys : Op β (Handle × Handle) := do
  let value ← noneValue
  let single ← allocate (.dict .empty)
  dictSet single "a': None, 'b" value
  let double ← allocate (.dict .empty)
  dictSet double "a" value
  dictSet double "b" value
  return (single, double)

theorem repr_of_quotedKeys :
    ∃ (space : Space Unit) (single double : Handle), quotedKeys.run .start = .ok ((single, double), space) ∧
      space.Holds single (.dict [("a': None, 'b", .none)]) ∧
        space.Holds double (.dict [("a", .none), ("b", .none)]) ∧ space.repr single = space.repr double := by
  have facts : ((quotedKeys.run (.start : Space Unit)).toOption.any fun ((single, double), space) =>
      space.roots.isSome && space.shape? single = some (["a': None, 'b"], [some .none]) &&
        space.shape? double = some (["a", "b"], [some .none, some .none])) = true := by
    decide +kernel
  rcases ran : quotedKeys.run (.start : Space Unit) with error | ⟨⟨single, double⟩, space⟩
  all_goals rw [ran] at facts
  · cases facts
  · simp only [Except.toOption, Option.any_some, Bool.and_eq_true, decide_eq_true_eq] at facts
    obtain ⟨⟨started, shape⟩, shape'⟩ := facts
    have holds := holds_of_shape shape
    have holds' := holds_of_shape shape'
    refine ⟨space, single, double, rfl, holds, holds', ?_⟩
    rw [holds.repr_eq started, holds'.repr_eq started]
    simp only [Datum.shown, List.map_cons, List.map_nil]
    decide

end Space

end ObjectBridge.Guest

import Mathlib.Algebra.Order.Group.Multiset
import Mathlib.Data.List.Induction
import ObjectBridge.Bindings

/-!
The values of a table as a collection without order, and what becomes of it when a name is bound or
removed.
-/

namespace ObjectBridge.Bindings

variable {α : Type}

theorem nodup_entries (bindings : Bindings α) : bindings.entries.Nodup := by
  refine bindings.entries_ascending.imp fun {first second} below same => ?_
  exact String.lt_irrefl _ (same ▸ below)

theorem entries_insert_perm (bindings : Bindings α) (name : String) (value : α) :
    (bindings.insert name value).entries.Perm ((name, value) :: (bindings.erase name).entries) := by
  have fresh : (name, value) ∉ (bindings.erase name).entries := by simp [mem_entries, get?_erase]
  refine (List.perm_ext_iff_of_nodup (nodup_entries _)
    (List.nodup_cons.mpr ⟨fresh, nodup_entries _⟩)).mpr fun (key, old) => ?_
  rw [List.mem_cons, mem_entries, mem_entries, get?_insert, get?_erase]
  by_cases same : key = name
  · simp [same, eq_comm]
  · simp [same]

theorem entries_erase_perm {bindings : Bindings α} {name : String} {value : α}
    (bound : bindings.get? name = some value) :
    bindings.entries.Perm ((name, value) :: (bindings.erase name).entries) := by
  have again : bindings.insert name value = bindings := by
    refine ext_get? fun other => ?_
    rw [get?_insert]
    split
    · rename_i same
      rw [same, bound]
    · rfl
  simpa [again] using entries_insert_perm bindings name value

theorem erase_of_none {bindings : Bindings α} {name : String} (free : bindings.get? name = none) :
    bindings.erase name = bindings := by
  refine ext_get? fun other => ?_
  rw [get?_erase]
  split
  · rename_i same
    rw [same, free]
  · rfl

@[simp] theorem values_empty : (empty : Bindings α).values = [] :=
  rfl

theorem values_erase {bindings : Bindings α} {name : String} {value : α}
    (bound : bindings.get? name = some value) :
    (bindings.values : Multiset α) = value ::ₘ ((bindings.erase name).values : Multiset α) := by
  have perm := (entries_erase_perm bound).map (·.2)
  exact Multiset.coe_eq_coe.mpr perm

theorem values_insert (bindings : Bindings α) (name : String) (value : α) :
    ((bindings.insert name value).values : Multiset α) + ((bindings.get? name).toList : Multiset α) =
      value ::ₘ (bindings.values : Multiset α) := by
  have perm := (entries_insert_perm bindings name value).map (·.2)
  have inserted : ((bindings.insert name value).values : Multiset α) =
      value ::ₘ ((bindings.erase name).values : Multiset α) := Multiset.coe_eq_coe.mpr perm
  cases bound : bindings.get? name with
  | none => simp [inserted, erase_of_none bound]
  | some old =>
    rw [inserted, values_erase bound, Multiset.cons_swap]
    exact add_comm _ _

theorem values_insert_of_none {bindings : Bindings α} {name : String}
    (free : bindings.get? name = none) (value : α) :
    ((bindings.insert name value).values : Multiset α) =
      value ::ₘ (bindings.values : Multiset α) := by
  simpa [free] using values_insert bindings name value

@[simp] theorem values_singleton (name : String) (value : α) : (singleton name value).values = [value] := by
  simp [singleton, values, entries_insert, insertEntry]

theorem mem_values {bindings : Bindings α} {value : α} :
    value ∈ bindings.values ↔ ∃ name, bindings.get? name = some value := by
  simp [values, mem_entries]

theorem get?_foldl_insert_of_notMem {pairs : List (String × α)} {bindings : Bindings α}
    {name : String} (unlisted : name ∉ pairs.map (·.1)) :
    (pairs.foldl (fun bindings pair => bindings.insert pair.1 pair.2) bindings).get? name =
      bindings.get? name := by
  induction pairs generalizing bindings with
  | nil => rfl
  | cons pair rest ih =>
    simp only [List.map_cons, List.mem_cons, not_or] at unlisted
    rw [List.foldl_cons, ih unlisted.2, get?_insert, if_neg unlisted.1]

theorem get?_foldl_insert_of_mem {pairs : List (String × α)} (bindings : Bindings α) {name : String}
    (listed : name ∈ pairs.map (·.1)) :
    ∃ value, (name, value) ∈ pairs ∧
      (pairs.foldl (fun bindings pair => bindings.insert pair.1 pair.2) bindings).get? name = some value := by
  induction pairs generalizing bindings with
  | nil => cases listed
  | cons pair rest ih =>
    rw [List.foldl_cons]
    by_cases later : name ∈ rest.map (·.1)
    · obtain ⟨value, member, bound⟩ := ih _ later
      exact ⟨value, List.mem_cons_of_mem _ member, bound⟩
    · obtain rfl : name = pair.1 := (List.mem_cons.mp listed).resolve_right later
      exact ⟨pair.2, List.mem_cons_self, by rw [get?_foldl_insert_of_notMem later, get?_insert, if_pos rfl]⟩

theorem values_ofList {pairs : List (String × α)} (once : (pairs.map (·.1)).Nodup) :
    ((ofList pairs).values : Multiset α) = (pairs.map (·.2) : List α) := by
  suffices general : ∀ bindings : Bindings α, (∀ name ∈ pairs.map (·.1), bindings.get? name = none) →
      ((pairs.foldl (fun bindings pair => bindings.insert pair.1 pair.2) bindings).values : Multiset α) =
        (pairs.map (·.2) : List α) + (bindings.values : Multiset α) by
    simpa [ofList, get?_empty] using general empty fun name _ => get?_empty name
  intro bindings free
  induction pairs generalizing bindings with
  | nil => simp
  | cons pair rest ih =>
    rw [List.map_cons, List.nodup_cons] at once
    have unbound := free pair.1 (by simp)
    have later : ∀ name ∈ rest.map (·.1), (bindings.insert pair.1 pair.2).get? name = none := by
      intro name member
      have other : name ≠ pair.1 := fun same => once.1 (same ▸ member)
      rw [get?_insert, if_neg other]
      exact free name (by simp only [List.map_cons, List.mem_cons]; exact Or.inr member)
    rw [List.foldl_cons, ih once.2 _ later, values_insert_of_none unbound, List.map_cons,
      ← Multiset.cons_coe, Multiset.add_cons, Multiset.cons_add]

theorem get?_ofList_of_mem {pairs : List (String × α)} (once : (pairs.map (·.1)).Nodup) {name : String} {value : α}
    (listed : (name, value) ∈ pairs) : (ofList pairs).get? name = some value := by
  suffices general : ∀ bindings : Bindings α,
      (pairs.foldl (fun bindings pair => bindings.insert pair.1 pair.2) bindings).get? name = some value from
    general empty
  intro bindings
  induction pairs generalizing bindings with
  | nil => cases listed
  | cons pair rest ih =>
    rw [List.map_cons, List.nodup_cons] at once
    rw [List.foldl_cons]
    rcases List.mem_cons.mp listed with rfl | later
    · rw [get?_foldl_insert_of_notMem once.1, get?_insert, if_pos rfl]
    · exact ih once.2 later _

theorem get?_ofList_of_notMem {pairs : List (String × α)} {name : String}
    (unlisted : name ∉ pairs.map (·.1)) : (ofList pairs).get? name = none :=
  (get?_foldl_insert_of_notMem unlisted).trans (get?_empty name)

theorem get?_ofList_eq_some {pairs : List (String × α)} (once : (pairs.map (·.1)).Nodup) {name : String} {value : α} :
    (ofList pairs).get? name = some value ↔ (name, value) ∈ pairs := by
  constructor
  · intro bound
    by_cases listed : name ∈ pairs.map (·.1)
    · obtain ⟨⟨_, other⟩, member, rfl⟩ := List.mem_map.mp listed
      obtain rfl : other = value := Option.some.inj ((get?_ofList_of_mem once member).symm.trans bound)
      exact member
    · rw [get?_ofList_of_notMem listed] at bound
      cases bound
  · exact get?_ofList_of_mem once

theorem get?_ofList_eq_some_iff_last {pairs : List (String × α)} {name : String} {value : α} :
    (ofList pairs).get? name = some value ↔
      ∃ earlier later, pairs = earlier ++ (name, value) :: later ∧ name ∉ later.map (·.1) := by
  constructor
  · intro bound
    induction pairs using List.reverseRecOn with
    | nil => cases bound
    | append_singleton pairs last ih =>
      rw [ofList, List.foldl_append, List.foldl_cons, List.foldl_nil, get?_insert] at bound
      split at bound
      · rename_i same
        obtain rfl := Option.some.inj bound
        exact ⟨pairs, [], by rw [same], List.not_mem_nil⟩
      · rename_i other
        obtain ⟨earlier, later, rfl, unlisted⟩ := ih bound
        refine ⟨earlier, later ++ [last], by simp, ?_⟩
        simpa [other] using unlisted
  · rintro ⟨earlier, later, rfl, unlisted⟩
    rw [ofList, List.foldl_append, List.foldl_cons, get?_foldl_insert_of_notMem unlisted, get?_insert, if_pos rfl]

theorem get?_ofList_zip {names : List String} {values : List α} {related : String → α → Prop} (once : names.Nodup)
    (pairs : List.Forall₂ related names values) {name : String} (listed : name ∈ names) :
    ∃ value, (ofList (names.zip values)).get? name = some value ∧ related name value := by
  have firsts : (names.zip values).map (·.1) = names := List.map_fst_zip pairs.length_eq.le
  rw [← firsts] at listed
  obtain ⟨⟨_, value⟩, member, rfl⟩ := List.mem_map.mp listed
  exact ⟨value, get?_ofList_of_mem (by rwa [firsts]) member, (List.forall₂_iff_zip.mp pairs).2 member⟩

end ObjectBridge.Bindings

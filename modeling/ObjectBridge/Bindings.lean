import Std.Data.ExtTreeMap

/-!
Tables from names to values, listed in ascending order of name. Attributes, module globals,
dictionaries and tables of modules are all of this form. Two tables with the same contents are the
same table, and listing one needs no sorting.

A table is seen through `get?`: `get?_empty`, `get?_insert` and `get?_erase` say all there is to know
about it. What its list of entries goes through meanwhile is stated by `entries_empty`,
`entries_insert` and `entries_erase`.
-/

namespace ObjectBridge

structure Bindings (α : Type) where
  table : Std.ExtTreeMap String α

namespace Bindings

variable {α : Type}

def empty : Bindings α :=
  ⟨∅⟩

instance : EmptyCollection (Bindings α) := ⟨empty⟩

instance : Inhabited (Bindings α) := ⟨empty⟩

def get? (bindings : Bindings α) (name : String) : Option α :=
  bindings.table[name]?

def contains (bindings : Bindings α) (name : String) : Bool :=
  (bindings.get? name).isSome

def insert (bindings : Bindings α) (name : String) (value : α) : Bindings α :=
  ⟨bindings.table.insert name value⟩

def erase (bindings : Bindings α) (name : String) : Bindings α :=
  ⟨bindings.table.erase name⟩

def singleton (name : String) (value : α) : Bindings α :=
  empty.insert name value

/-- A later pair of the list replaces an earlier one of the same name. -/
def ofList (pairs : List (String × α)) : Bindings α :=
  pairs.foldl (fun bindings pair => bindings.insert pair.1 pair.2) empty

def entries (bindings : Bindings α) : List (String × α) :=
  bindings.table.toList

def names (bindings : Bindings α) : List String :=
  bindings.entries.map (·.1)

def values (bindings : Bindings α) : List α :=
  bindings.entries.map (·.2)

def size (bindings : Bindings α) : Nat :=
  bindings.table.size

theorem get?_empty (name : String) : (empty : Bindings α).get? name = none :=
  rfl

theorem get?_insert (bindings : Bindings α) (name other : String) (value : α) :
    (bindings.insert name value).get? other =
      if other = name then some value else bindings.get? other := by
  simp only [get?, insert, Std.ExtTreeMap.getElem?_insert, Std.LawfulEqOrd.compare_eq_iff_eq,
    eq_comm (a := name)]

theorem get?_erase (bindings : Bindings α) (name other : String) :
    (bindings.erase name).get? other = if other = name then none else bindings.get? other := by
  simp only [get?, erase, Std.ExtTreeMap.getElem?_erase, Std.LawfulEqOrd.compare_eq_iff_eq,
    eq_comm (a := name)]

theorem ext_get? {first second : Bindings α} (alike : ∀ name, first.get? name = second.get? name) :
    first = second := by
  obtain ⟨first⟩ := first
  obtain ⟨second⟩ := second
  exact congrArg mk (Std.ExtTreeMap.ext_getElem? alike)

theorem entries_ascending (bindings : Bindings α) :
    bindings.entries.Pairwise (fun a b => a.1 < b.1) :=
  List.Pairwise.imp (fun below => compareOfLessAndEq_eq_lt.mp below)
    (Std.ExtTreeMap.ordered_keys_toList (t := bindings.table))

theorem mem_entries (bindings : Bindings α) (name : String) (value : α) :
    (name, value) ∈ bindings.entries ↔ bindings.get? name = some value :=
  Std.ExtTreeMap.mem_toList_iff_getElem?_eq_some

def insertEntry (name : String) (value : α) : List (String × α) → List (String × α)
  | [] => [(name, value)]
  | entry :: rest =>
    if name < entry.1 then (name, value) :: entry :: rest
    else if name = entry.1 then (name, value) :: rest
    else entry :: insertEntry name value rest

theorem mem_insertEntry (name : String) (value : α) {entries : List (String × α)}
    (ascending : entries.Pairwise (fun a b => a.1 < b.1)) (entry : String × α) :
    entry ∈ insertEntry name value entries ↔
      entry = (name, value) ∨ entry ∈ entries ∧ entry.1 ≠ name := by
  induction entries with
  | nil => simp [insertEntry]
  | cons head rest ih =>
    obtain ⟨below, tail⟩ := List.pairwise_cons.mp ascending
    have apart : ∀ later ∈ rest, later.1 ≠ head.1 := fun later member same =>
      String.lt_irrefl _ (same ▸ below later member)
    simp only [insertEntry]
    split
    · rename_i before
      have beyond : ∀ later ∈ head :: rest, later.1 ≠ name := by
        intro later member same
        rcases List.mem_cons.mp member with rfl | member
        · exact String.lt_irrefl _ (same ▸ before)
        · exact String.lt_irrefl _ (String.lt_trans before (same ▸ below later member))
      grind
    · split
      · grind
      · grind [ih tail]

theorem ascending_insertEntry (name : String) (value : α) {entries : List (String × α)}
    (ascending : entries.Pairwise (fun a b => a.1 < b.1)) :
    (insertEntry name value entries).Pairwise (fun a b => a.1 < b.1) := by
  induction entries with
  | nil => simp [insertEntry]
  | cons head rest ih =>
    obtain ⟨below, tail⟩ := List.pairwise_cons.mp ascending
    simp only [insertEntry]
    split
    · rename_i before
      refine List.pairwise_cons.mpr ⟨fun entry member => ?_, ascending⟩
      rcases List.mem_cons.mp member with rfl | later
      · exact before
      · exact String.lt_trans before (below entry later)
    · rename_i notBefore
      split
      · rename_i same
        exact List.pairwise_cons.mpr ⟨fun entry member => same ▸ below entry member, tail⟩
      · rename_i different
        refine List.pairwise_cons.mpr ⟨fun entry member => ?_, ih tail⟩
        rcases (mem_insertEntry name value tail entry).mp member with rfl | later
        · grind
        · exact below entry later.1

theorem eq_of_ascending {first second : List (String × α)}
    (ascendingFirst : first.Pairwise (fun a b => a.1 < b.1))
    (ascendingSecond : second.Pairwise (fun a b => a.1 < b.1))
    (alike : ∀ entry, entry ∈ first ↔ entry ∈ second) : first = second := by
  induction first generalizing second with
  | nil => exact (List.eq_nil_iff_forall_not_mem.mpr fun entry => by simp [← alike entry]).symm
  | cons head rest ih =>
    cases second with
    | nil => simpa using alike head
    | cons other others =>
      obtain ⟨below, tail⟩ := List.pairwise_cons.mp ascendingFirst
      obtain ⟨belowOther, tailOther⟩ := List.pairwise_cons.mp ascendingSecond
      have irreflexive := fun name : String => String.lt_irrefl name
      have asymmetric := fun (a b : String) (less : a < b) (more : b < a) =>
        String.lt_irrefl _ (String.lt_trans less more)
      have same : head = other := by
        have here := (alike head).mp List.mem_cons_self
        have there := (alike other).mpr List.mem_cons_self
        rcases List.mem_cons.mp here with same | later
        · exact same
        · rcases List.mem_cons.mp there with same | later'
          · exact same.symm
          · exact absurd (belowOther head later) (asymmetric _ _ (below other later'))
      subst same
      refine congrArg _ (ih tail tailOther fun entry => ?_)
      have alike := alike entry
      simp only [List.mem_cons] at alike
      constructor
      · intro member
        rcases alike.mp (Or.inr member) with rfl | later
        · exact absurd (below entry member) (irreflexive _)
        · exact later
      · intro member
        rcases alike.mpr (Or.inr member) with rfl | later
        · exact absurd (belowOther entry member) (irreflexive _)
        · exact later

@[simp] theorem entries_empty : (empty : Bindings α).entries = [] :=
  rfl

theorem entries_insert (bindings : Bindings α) (name : String) (value : α) :
    (bindings.insert name value).entries = insertEntry name value bindings.entries := by
  refine eq_of_ascending (entries_ascending _)
    (ascending_insertEntry name value bindings.entries_ascending) fun (key, old) => ?_
  rw [mem_insertEntry name value bindings.entries_ascending, mem_entries, mem_entries, get?_insert]
  grind

theorem entries_erase (bindings : Bindings α) (name : String) :
    (bindings.erase name).entries = bindings.entries.filter (·.1 ≠ name) := by
  refine eq_of_ascending (entries_ascending _) (bindings.entries_ascending.filter _)
    fun (key, old) => ?_
  rw [List.mem_filter, mem_entries, mem_entries, get?_erase]
  grind

end Bindings

end ObjectBridge

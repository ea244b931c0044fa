/-!
Sequences of which every version stays in use: a change makes another sequence, which shares all but
one path of a tree with the first. Neither takes longer than a walk along that path.

A sequence is seen through `toList`: each operation is stated there as the operation on lists of the
same name.
-/

namespace ObjectBridge

/-- Items by index. The item of index 0 stands at the root, one branch holds those of the odd indices
and the other those of the even ones after 0, both numbered anew from 0. -/
inductive Branching (α : Type) where
  | bare
  | fork (item : Option α) (odd even : Branching α)

namespace Branching

variable {α : Type}

def first : Branching α → Option α
  | .bare => none
  | .fork item _ _ => item

def odd : Branching α → Branching α
  | .bare => .bare
  | .fork _ odd _ => odd

def even : Branching α → Branching α
  | .bare => .bare
  | .fork _ _ even => even

def get? : Branching α → Nat → Option α
  | .bare, _ => none
  | .fork item _ _, 0 => item
  | .fork _ odd even, index + 1 =>
    if index % 2 = 0 then odd.get? (index / 2) else even.get? (index / 2)

theorem get?_zero (items : Branching α) : items.get? 0 = items.first := by
  cases items <;> rfl

theorem get?_succ (items : Branching α) (index : Nat) :
    items.get? (index + 1) =
      if index % 2 = 0 then items.odd.get? (index / 2) else items.even.get? (index / 2) := by
  cases items <;> simp [get?, odd, even]

def put (item : α) : (levels : Nat) → (index : Nat) → Branching α → Branching α
  | 0, _, items => items
  | _ + 1, 0, .bare => .fork (some item) .bare .bare
  | _ + 1, 0, .fork _ odd even => .fork (some item) odd even
  | levels + 1, index + 1, .bare =>
    if index % 2 = 0 then .fork none (put item levels (index / 2) .bare) .bare
    else .fork none .bare (put item levels (index / 2) .bare)
  | levels + 1, index + 1, .fork first odd even =>
    if index % 2 = 0 then .fork first (put item levels (index / 2) odd) even
    else .fork first odd (put item levels (index / 2) even)

theorem put_zero (item : α) (levels : Nat) (items : Branching α) :
    put item (levels + 1) 0 items = .fork (some item) items.odd items.even := by
  cases items <;> rfl

theorem put_succ (item : α) (levels index : Nat) (items : Branching α) :
    put item (levels + 1) (index + 1) items =
      if index % 2 = 0 then .fork items.first (put item levels (index / 2) items.odd) items.even
      else .fork items.first items.odd (put item levels (index / 2) items.even) := by
  cases items <;> rfl

theorem get?_put (item : α) {levels index : Nat} (reached : index < levels) (items : Branching α)
    (other : Nat) :
    (put item levels index items).get? other =
      if other = index then some item else items.get? other := by
  induction levels generalizing index items other with
  | zero => omega
  | succ levels ih =>
    match index, other with
    | 0, 0 => simp [put_zero, get?_zero, first]
    | 0, other + 1 => simp [put_zero, get?_succ, odd, even]
    | index + 1, 0 =>
      simp only [put_succ, get?_zero]
      split <;> simp [first]
    | index + 1, other + 1 =>
      have deeper : index / 2 < levels := by omega
      simp only [put_succ, get?_succ]
      by_cases evenIndex : index % 2 = 0 <;> by_cases evenOther : other % 2 = 0 <;>
        simp only [evenIndex, evenOther, if_true, if_false, odd, even, ih deeper]
      all_goals grind

theorem put_put (item earlier : α) (levels index : Nat) (items : Branching α) :
    put item levels index (put earlier levels index items) = put item levels index items := by
  induction levels generalizing index items with
  | zero => rfl
  | succ levels ih =>
    cases index with
    | zero => simp only [put_zero, odd, even]
    | succ index =>
      simp only [put_succ]
      split <;> simp only [first, odd, even, ih]

theorem put_self {item : α} {levels index : Nat} {items : Branching α} (here : items.get? index = some item) :
    put item levels index items = items := by
  induction levels generalizing index items with
  | zero => rfl
  | succ levels ih =>
    cases items with
    | bare => cases here
    | fork first odd even =>
      cases index with
      | zero =>
        obtain rfl : first = some item := here
        rfl
      | succ index =>
        simp only [get?] at here
        simp only [put]
        split at here <;> rename_i half
        · rw [if_pos half, ih here]
        · rw [if_neg half, ih here]

theorem put_comm (item item' : α) {levels levels' index index' : Nat} (different : index ≠ index')
    (items : Branching α) :
    put item levels index (put item' levels' index' items) = put item' levels' index' (put item levels index items) := by
  induction levels generalizing levels' index index' items with
  | zero => rfl
  | succ levels ih =>
    cases levels' with
    | zero => rfl
    | succ levels' =>
      match index, index' with
      | 0, 0 => exact absurd rfl different
      | 0, index' + 1 =>
        simp only [put_zero, put_succ]
        split <;> simp only [odd, even, first]
      | index + 1, 0 =>
        simp only [put_zero, put_succ]
        split <;> simp only [odd, even, first]
      | index + 1, index' + 1 =>
        have halves (same : index % 2 = index' % 2) : index / 2 ≠ index' / 2 := by omega
        simp only [put_succ]
        by_cases half : index % 2 = 0 <;> by_cases half' : index' % 2 = 0 <;>
          simp only [half, half', if_true, if_false, first, odd, even]
        · rw [ih (halves (half.trans half'.symm))]
        · rw [ih (halves (by omega))]

end Branching

structure Sequence (α : Type) where
  items : Branching α
  size : Nat
  filled : ∀ index, (items.get? index).isSome = true ↔ index < size

namespace Sequence

variable {α : Type}

def empty : Sequence α :=
  { items := .bare, size := 0, filled := by simp [Branching.get?] }

def get? (sequence : Sequence α) (index : Nat) : Option α :=
  sequence.items.get? index

def push (sequence : Sequence α) (item : α) : Sequence α :=
  { items := sequence.items.put item (sequence.size + 1) sequence.size
    size := sequence.size + 1
    filled := fun index => by
      rw [Branching.get?_put item (Nat.lt_succ_self _)]
      have filled := sequence.filled index
      grind }

def modify (sequence : Sequence α) (index : Nat) (change : α → α) : Sequence α :=
  match found : sequence.get? index with
  | some item =>
    { items := sequence.items.put (change item) (index + 1) index
      size := sequence.size
      filled := fun other => by
        rw [Branching.get?_put (change item) (Nat.lt_succ_self _)]
        have filled := sequence.filled other
        simp only [get?] at found
        grind }
  | none => sequence

def toList (sequence : Sequence α) : List α :=
  (List.range sequence.size).filterMap sequence.get?

theorem get?_push (sequence : Sequence α) (item : α) (index : Nat) :
    (sequence.push item).get? index =
      if index = sequence.size then some item else sequence.get? index :=
  Branching.get?_put item (Nat.lt_succ_self _) sequence.items index

theorem get?_modify (sequence : Sequence α) (index other : Nat) (change : α → α) :
    (sequence.modify index change).get? other =
      if other = index then (sequence.get? index).map change else sequence.get? other := by
  unfold modify
  split
  · rename_i item found
    simp only [found, Option.map_some]
    exact Branching.get?_put (change item) (Nat.lt_succ_self _) sequence.items other
  · rename_i missing
    by_cases same : other = index <;> simp [same, missing]

theorem items_modify {sequence : Sequence α} {index : Nat} {item : α} (here : sequence.get? index = some item)
    (change : α → α) :
    (sequence.modify index change).items = sequence.items.put (change item) (index + 1) index ∧
      (sequence.modify index change).size = sequence.size := by
  unfold modify
  split
  · rename_i other found
    obtain rfl : item = other := Option.some.inj (here.symm.trans found)
    exact ⟨rfl, rfl⟩
  · rename_i missing
    simp [here] at missing

theorem eq_of_items {first second : Sequence α} (items : first.items = second.items) (size : first.size = second.size) :
    first = second := by
  cases first
  cases second
  simp_all

theorem modify_modify_of_eq {sequence : Sequence α} {index : Nat} {item : α} {change restore : α → α}
    (here : sequence.get? index = some item) (restores : restore (change item) = item) :
    (sequence.modify index change).modify index restore = sequence := by
  have changed : (sequence.modify index change).get? index = some (change item) := by
    rw [get?_modify, if_pos rfl, here, Option.map_some]
  obtain ⟨first, firstSize⟩ := items_modify here change
  obtain ⟨second, secondSize⟩ := items_modify changed restore
  have same : sequence.items.put item (index + 1) index = sequence.items := Branching.put_self here
  rw [first, restores, Branching.put_put, same] at second
  exact eq_of_items second (secondSize.trans firstSize)

theorem modify_of_none {sequence : Sequence α} {index : Nat} (missing : sequence.get? index = none) (change : α → α) :
    sequence.modify index change = sequence := by
  unfold modify
  split
  · simp_all
  · rfl

theorem modify_comm (sequence : Sequence α) {index index' : Nat} (different : index ≠ index') (change change' : α → α) :
    (sequence.modify index change).modify index' change' = (sequence.modify index' change').modify index change := by
  have first : (sequence.modify index' change').get? index = sequence.get? index := by rw [get?_modify, if_neg different]
  have second : (sequence.modify index change).get? index' = sequence.get? index' := by
    rw [get?_modify, if_neg different.symm]
  cases here : sequence.get? index with
  | none => rw [modify_of_none here, modify_of_none (first.trans here)]
  | some item =>
    cases here' : sequence.get? index' with
    | none => rw [modify_of_none here', modify_of_none (second.trans here')]
    | some item' =>
      obtain ⟨one, sizeOne⟩ := items_modify here change
      obtain ⟨two, sizeTwo⟩ := items_modify here' change'
      obtain ⟨both, size⟩ := items_modify (second.trans here') change'
      obtain ⟨both', size'⟩ := items_modify (first.trans here) change
      refine eq_of_items ?_ (by rw [size, size', sizeOne, sizeTwo])
      rw [both, both', one, two, Branching.put_comm _ _ different.symm]

theorem isSome_get?_iff (sequence : Sequence α) (index : Nat) :
    (sequence.get? index).isSome = true ↔ index < sequence.size :=
  sequence.filled index

theorem get?_eq_none_iff (sequence : Sequence α) (index : Nat) :
    sequence.get? index = none ↔ sequence.size ≤ index := by
  rw [← Option.not_isSome_iff_eq_none, isSome_get?_iff]
  omega

theorem getElem?_filterMap_range (sequence : Sequence α) {count : Nat} (within : count ≤ sequence.size) :
    ((List.range count).filterMap sequence.get?).length = count ∧
      ∀ index, ((List.range count).filterMap sequence.get?)[index]? =
        if index < count then sequence.get? index else none := by
  induction count with
  | zero => simp
  | succ count ih =>
    obtain ⟨length, items⟩ := ih (Nat.le_of_succ_le within)
    obtain ⟨item, found⟩ := Option.isSome_iff_exists.mp ((sequence.isSome_get?_iff count).mpr within)
    simp only [List.range_succ, List.filterMap_append, List.filterMap_cons, found,
      List.filterMap_nil]
    refine ⟨by simp [length], fun index => ?_⟩
    rw [List.getElem?_append, length]
    by_cases before : index < count
    · simp [before, items index, Nat.lt_succ_of_lt before]
    · by_cases last : index = count
      · simp [last, found]
      · have beyond : ¬ index < count + 1 := by omega
        simp [before, beyond, show index - count ≠ 0 by omega]

@[simp] theorem length_toList (sequence : Sequence α) : sequence.toList.length = sequence.size :=
  (sequence.getElem?_filterMap_range (Nat.le_refl _)).1

@[simp] theorem getElem?_toList (sequence : Sequence α) (index : Nat) :
    sequence.toList[index]? = sequence.get? index := by
  rw [toList, (sequence.getElem?_filterMap_range (Nat.le_refl _)).2 index]
  split
  · rfl
  · rename_i beyond
    exact ((sequence.get?_eq_none_iff index).mpr (by omega)).symm

@[simp] theorem toList_empty : (empty : Sequence α).toList = [] :=
  rfl

@[simp] theorem toList_push (sequence : Sequence α) (item : α) :
    (sequence.push item).toList = sequence.toList ++ [item] := by
  refine List.ext_getElem? fun index => ?_
  have beyond := sequence.get?_eq_none_iff index
  rw [getElem?_toList, get?_push, List.getElem?_append, length_toList, getElem?_toList]
  grind

@[simp] theorem toList_modify (sequence : Sequence α) (index : Nat) (change : α → α) :
    (sequence.modify index change).toList = sequence.toList.modify index change := by
  refine List.ext_getElem? fun other => ?_
  rw [getElem?_toList, get?_modify, List.getElem?_modify, getElem?_toList]
  by_cases same : other = index
  · simp [same]
  · simp [same, Ne.symm same]

end Sequence

end ObjectBridge

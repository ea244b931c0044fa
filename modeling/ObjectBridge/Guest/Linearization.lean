import ObjectBridge.Guest.Space

/-!
Linearization of types: a type and those it derives from, in the order in which attributes are looked
up. The bases are visited depth first, from left to right, and each type is listed where it is met
first.
-/

namespace ObjectBridge.Guest

namespace Heap

variable {α : Type}

theorem mem_handles {heap : Heap α} {handle : Handle} {cell : Cell α}
    (found : heap.cell? handle = some cell) : handle ∈ heap.handles := by
  refine List.mem_filterMap.mpr ⟨({ generation := handle.generation, cell := some cell }, handle.index), ?_, ?_⟩
  · exact List.mk_mem_zipIdx_iff_getElem?.mpr (slot_of_cell found)
  · rfl

end Heap

namespace Space

variable {β : Type}

def bases (space : Space β) (type : Handle) : List Handle :=
  match space.heap.get? type with
  | some (.typeObject contents) => contents.bases
  | _ => []

def members (space : Space β) (type : Handle) : Bindings Handle :=
  match space.heap.get? type with
  | some (.typeObject contents) => contents.members
  | _ => .empty

theorem mem_handles_of_bases {space : Space β} {type : Handle} (some_base : space.bases type ≠ []) :
    type ∈ space.heap.handles := by
  cases found : space.heap.cell? type with
  | none => simp [bases, Heap.get?, found] at some_base
  | some cell => exact Heap.mem_handles found

def unlisted (space : Space β) (order : List Handle) : List Handle :=
  space.heap.handles.filter (· ∉ order)

def basesAhead (space : Space β) (order : List Handle) : Nat :=
  ((space.unlisted order).flatMap space.bases).length

theorem length_flatMap_filter_le (held : Handle → List Handle) (handles : List Handle) (type : Handle) :
    ((handles.filter (· ∉ [type])).flatMap held).length + (if type ∈ handles then (held type).length else 0) ≤
      (handles.flatMap held).length := by
  induction handles with
  | nil => simp
  | cons head rest ih =>
    by_cases same : head = type
    · subst same
      simp only [List.mem_cons, true_or, if_true, List.flatMap_cons, List.length_append] at ih ⊢
      rw [List.filter_cons_of_neg (by simp)]
      split at ih <;> omega
    · simp only [List.mem_cons, List.flatMap_cons, List.length_append, Ne.symm same, false_or] at ih ⊢
      rw [List.filter_cons_of_pos (by simp [same]), List.flatMap_cons, List.length_append]
      omega

theorem basesAhead_append_le (space : Space β) {order : List Handle} {type : Handle} (fresh : type ∉ order) :
    space.basesAhead (order ++ [type]) + (space.bases type).length ≤ space.basesAhead order := by
  have narrower : space.unlisted (order ++ [type]) = (space.unlisted order).filter (· ∉ [type]) := by
    simp [unlisted, List.filter_filter, and_comm]
  have fewer := length_flatMap_filter_le space.bases (space.unlisted order) type
  unfold basesAhead
  rw [narrower]
  by_cases based : space.bases type = []
  · simp only [based, List.length_nil] at fewer ⊢
    split at fewer <;> omega
  · have listed : type ∈ space.unlisted order := by simp [unlisted, mem_handles_of_bases based, fresh]
    rwa [if_pos listed] at fewer

/-- Continues the order by the types in `pending` and what they derive from, first to last. -/
def linearizeFrom (space : Space β) (order pending : List Handle) : List Handle :=
  match pending with
  | [] => order
  | type :: pending =>
    if type ∈ order then linearizeFrom space order pending
    else linearizeFrom space (order ++ [type]) (space.bases type ++ pending)
termination_by pending.length + space.basesAhead order
decreasing_by
  · simp
  · rename_i fresh
    have fewer := basesAhead_append_le space fresh
    simp only [List.length_append, List.length_cons]
    omega

def linearization (space : Space β) (type : Handle) : List Handle :=
  space.linearizeFrom [] [type]

def lookup (space : Space β) (type : Handle) (name : String) : Option Handle :=
  (space.linearization type).findSome? fun type => (space.members type).get? name

def isInstance (space : Space β) (handle type : Handle) : Except Exception Bool := do
  let own ← space.typeOf handle
  return space.linearization own |>.contains type

end Space

end ObjectBridge.Guest

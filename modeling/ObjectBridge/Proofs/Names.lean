import Mathlib.Data.List.Nodup
import ObjectBridge.Bridge.ClassDefinition
import ObjectBridge.Proofs.Space.Modules
import ObjectBridge.Registry.Name

/-!
Names without regard to case. A name without points is a single segment in every spelling, and it is found
in every spelling if no other name of the list differs from it in case only.
-/

namespace ObjectBridge

namespace Text

theorem target_lowercaseRuns : ∀ run ∈ lowercaseRuns, 0x2F ≤ run.target := by
  decide +kernel

theorem toLower_eq_point {c : Char} (lowered : c.toLower = '.') : c = '.' := by
  unfold Char.toLower at lowered
  split at lowered
  · rename_i capital
    have code := congrArg Char.val lowered
    simp only [UInt32.le_iff_toNat_le, ← UInt32.toNat_inj, UInt32.toNat_add] at capital code
    have upper : c.val.toNat ≤ 90 := capital.2
    have lower : 65 ≤ c.val.toNat := capital.1
    have sum : (c.val.toNat + 32) % 2 ^ 32 = 46 := code
    omega
  · exact lowered

theorem apply_lowercaseRuns_ne {c : Char} (beyond : 0x80 ≤ c.toNat) : CaseRun.apply lowercaseRuns c ≠ '.' := by
  unfold CaseRun.apply
  split
  · rename_i run found
    intro same
    have far := target_lowercaseRuns run (List.mem_of_find?_eq_some found)
    rw [Char.ofNat] at same
    by_cases valid : (run.target + (c.toNat - run.first)).isValidChar
    · rw [dif_pos valid] at same
      have code : run.target + (c.toNat - run.first) = 0x2E := congrArg Char.toNat same
      omega
    · rw [dif_neg valid] at same
      exact absurd same (by decide)
  · rintro rfl
    revert beyond
    decide

theorem point_mem_lowercaseChar {c : Char} : '.' ∈ lowercaseChar c ↔ c = '.' := by
  constructor
  · intro member
    unfold lowercaseChar at member
    split at member
    · exact toLower_eq_point (List.mem_singleton.mp member).symm
    · rename_i beyond
      split at member
      · exact absurd member (by decide)
      · exact absurd (List.mem_singleton.mp member).symm (apply_lowercaseRuns_ne (Nat.not_lt.mp beyond))
  · rintro rfl
    decide

theorem point_mem_lowercaseFrom {before text : List Char} : '.' ∈ lowercaseFrom before text ↔ '.' ∈ text := by
  induction text generalizing before with
  | nil => simp [lowercaseFrom]
  | cons c rest ih =>
    simp only [lowercaseFrom, List.mem_append, ih, List.mem_cons]
    refine or_congr_left ?_
    split
    · rename_i sigma
      subst sigma
      split <;> decide
    · rw [point_mem_lowercaseChar, eq_comm]

theorem point_mem_lowercase {name : String} : '.' ∈ (lowercase name).toList ↔ '.' ∈ name.toList := by
  simp [lowercase, point_mem_lowercaseFrom]

theorem lowercaseChar_ne_nil (c : Char) : lowercaseChar c ≠ [] := by
  unfold lowercaseChar
  split
  · simp
  · split <;> simp

theorem lowercaseFrom_eq_nil {before text : List Char} : lowercaseFrom before text = [] ↔ text = [] := by
  cases text with
  | nil => simp [lowercaseFrom]
  | cons c rest =>
    simp only [lowercaseFrom, List.append_eq_nil_iff, reduceCtorEq, iff_false, not_and]
    intro empty
    split at empty
    · simp at empty
    · exact absurd empty (lowercaseChar_ne_nil c)

theorem lowercase_eq_empty {name : String} : lowercase name = "" ↔ name = "" := by
  simp [lowercase, lowercaseFrom_eq_nil]

theorem splitAtPoints_of_not_mem {text : List Char} (whole : '.' ∉ text) : splitAtPoints text = (text, []) := by
  fun_induction splitAtPoints text with
  | case1 => rfl
  | case2 rest first others split ih => simp at whole
  | case3 char rest notPoint first others split ih =>
    have same := ih fun member => whole (List.mem_cons_of_mem _ member)
    rw [split] at same
    simp_all

theorem segments_of_not_mem {name : String} (whole : '.' ∉ name.toList) : segments name = [name] := by
  simp [segments, splitAtPoints_of_not_mem whole]

theorem point_not_mem_of_isIdentifier {name : String} (identifier : isIdentifier name = true) :
    '.' ∉ name.toList := by
  unfold isIdentifier at identifier
  split at identifier
  · simp_all
  · rename_i c rest listed
    simp only [Bool.and_eq_true, List.all_eq_true] at identifier
    rw [listed]
    intro member
    rcases List.mem_cons.mp member with rfl | later
    · exact absurd identifier.1 (by decide +kernel)
    · exact absurd (identifier.2 '.' later) (by decide +kernel)

end Text

namespace Registry

theorem findName_spelling {names : List String} {name spelling : String} (once : names.Nodup) (listed : name ∈ names)
    (alone : ∀ other ∈ names, Text.lowercase other = Text.lowercase name → other = name)
    (alike : Text.lowercase spelling = Text.lowercase name) : findName names spelling = .ok (some name) := by
  unfold findName
  split
  · rename_i spelled
    rw [alone spelling spelled alike]
  · have single : (names.filter fun other => Text.lowercase other == Text.lowercase spelling) = [name] := by
      have same : (names.filter fun other => Text.lowercase other == Text.lowercase spelling) =
          names.filter (· == name) := by
        refine List.filter_congr fun other member => ?_
        rw [alike, Bool.eq_iff_iff, beq_iff_eq, beq_iff_eq]
        exact ⟨alone other member, fun same => by rw [same]⟩
      rw [same, List.filter_beq, List.count_eq_one_of_mem once listed, List.replicate_one]
    simp only [single]

end Registry

namespace Bridge

open Guest (reservedNames)

theorem methodFault?_eq_none {seen names : List String} :
    methodFault? seen names = none ↔ Guest.memberFault? seen names = none := by
  induction names generalizing seen with
  | nil => simp [methodFault?, Guest.memberFault?]
  | cons name rest ih =>
    unfold methodFault? Guest.memberFault?
    split
    · simp
    · split
      · simp
      · split
        · simp
        · exact ih

theorem nameFault?_eq_none {className : String} {methods : List String} :
    nameFault? className methods = none ↔ Text.isIdentifier className = true ∧
      (∀ name ∈ methods, Text.isIdentifier name = true ∧ name ∉ reservedNames) ∧ methods.Nodup := by
  unfold nameFault?
  by_cases identifier : Text.isIdentifier className = true
  · simp [identifier, methodFault?_eq_none, Guest.memberFault?_eq_none]
  · simp [identifier]

end Bridge

namespace Guest

theorem foldr_insertName {names : List String} (ascending : names.Pairwise (· < ·)) :
    names.foldr insertName [] = names := by
  induction names with
  | nil => rfl
  | cons name rest ih =>
    obtain ⟨below, tail⟩ := List.pairwise_cons.mp ascending
    rw [List.foldr_cons, ih tail]
    cases rest with
    | nil => rfl
    | cons other later => rw [insertName, if_pos (below other List.mem_cons_self)]

end Guest

namespace Bindings

variable {α : Type}

theorem names_ascending (bindings : Bindings α) : bindings.names.Pairwise (· < ·) :=
  List.pairwise_map.mpr bindings.entries_ascending

theorem nodup_names (bindings : Bindings α) : bindings.names.Nodup :=
  bindings.names_ascending.imp fun below same => by
    rw [same] at below
    exact String.lt_irrefl _ below

theorem mem_names {bindings : Bindings α} {name : String} :
    name ∈ bindings.names ↔ ∃ value, bindings.get? name = some value := by
  simp [names, mem_entries]

theorem mem_names_insert {bindings : Bindings α} {name other : String} {value : α} :
    other ∈ (bindings.insert name value).names ↔ other = name ∨ other ∈ bindings.names := by
  rw [mem_names, mem_names, get?_insert]
  by_cases same : other = name <;> simp [same]

end Bindings

end ObjectBridge

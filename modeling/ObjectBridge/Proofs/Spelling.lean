import ObjectBridge.Bridge.Invoke
import ObjectBridge.Proofs.Matching

/-!
Spellings in messages. A message takes letters for the same only if they are among the letters A to Z, the registry
takes all letters for the same that differ in case. So what a message finds is what the registry finds, but a message
does not find every spelling.
-/

namespace ObjectBridge

namespace Text

theorem eq_of_toUpper {α : Type} (reading : Char → α)
    (letters : ∀ place < 26, reading (Char.ofNat (97 + place)).toUpper = reading (Char.ofNat (97 + place))) (c : Char) :
    reading c.toUpper = reading c := by
  by_cases small : 97 ≤ c.toNat ∧ c.toNat ≤ 122
  · have same := letters (c.toNat - 97) (by omega)
    rwa [Nat.add_sub_cancel' small.1, Char.ofNat_toNat] at same
  · have kept : c.toUpper = c := dif_neg small
    rw [kept]

theorem isCased_toUpper (c : Char) : isCased c.toUpper = isCased c :=
  eq_of_toUpper isCased (by decide +kernel) c

theorem isCaseIgnorable_toUpper (c : Char) : isCaseIgnorable c.toUpper = isCaseIgnorable c :=
  eq_of_toUpper isCaseIgnorable (by decide +kernel) c

theorem lowercaseChar_toUpper (c : Char) : lowercaseChar c.toUpper = lowercaseChar c :=
  eq_of_toUpper lowercaseChar (by decide +kernel) c

theorem toUpper_eq_sigma (c : Char) : (c.toUpper = 'Σ') = (c = 'Σ') := by
  have same : decide (c.toUpper = 'Σ') = decide (c = 'Σ') :=
    eq_of_toUpper (fun letter => decide (letter = 'Σ')) (by decide) c
  simpa using same

theorem nextIsCased_toUpper (cs : List Char) : nextIsCased (cs.map Char.toUpper) = nextIsCased cs := by
  have same : isCaseIgnorable ∘ Char.toUpper = isCaseIgnorable := funext isCaseIgnorable_toUpper
  rw [nextIsCased, List.dropWhile_map, same, nextIsCased]
  cases cs.dropWhile isCaseIgnorable with
  | nil => rfl
  | cons c rest => exact isCased_toUpper c

theorem lowercaseFrom_toUpper (before text : List Char) :
    lowercaseFrom (before.map Char.toUpper) (text.map Char.toUpper) = lowercaseFrom before text := by
  induction text generalizing before with
  | nil => rfl
  | cons c rest ih =>
    have earlier := ih (c :: before)
    rw [List.map_cons] at earlier
    simp only [List.map_cons, lowercaseFrom, earlier, toUpper_eq_sigma, nextIsCased_toUpper, lowercaseChar_toUpper]

theorem lowercase_asciiUppercase (name : String) : lowercase (asciiUppercase name) = lowercase name := by
  have same := lowercaseFrom_toUpper [] name.toList
  rw [List.map_nil] at same
  rw [lowercase, asciiUppercase, String.toList_ofList, same, lowercase]

end Text

open Registry

theorem Registry.alike_of_equalIgnoringAsciiCase {name wanted : String}
    (equal : Text.equalIgnoringAsciiCase name wanted = true) : Alike name wanted := by
  have same : Text.asciiUppercase name = Text.asciiUppercase wanted := eq_of_beq equal
  rw [Alike, ← Text.lowercase_asciiUppercase name, same, Text.lowercase_asciiUppercase]

namespace Bridge

variable {names names' : List String} {wanted found spelling : String}

theorem findAttribute_cases (names : List String) (wanted : String) :
    (∃ found ∈ names, findAttribute names wanted = some found ∧ Alike found wanted) ∨
      findAttribute names wanted = none ∧ ∀ name ∈ names, Text.equalIgnoringAsciiCase name wanted = false := by
  by_cases listed : wanted ∈ names
  · exact Or.inl ⟨wanted, listed, if_pos listed, rfl⟩
  have searched : findAttribute names wanted = _ := if_neg listed
  cases first : names.find? fun name => Text.equalIgnoringAsciiCase name wanted with
  | some found =>
    have equal := List.find?_some (p := fun name => Text.equalIgnoringAsciiCase name wanted) first
    exact Or.inl ⟨found, List.mem_of_find?_eq_some first, searched.trans first, alike_of_equalIgnoringAsciiCase equal⟩
  | none =>
    refine Or.inr ⟨searched.trans first, ?_⟩
    intro name member
    simpa using List.find?_eq_none.mp first name member

theorem findAttribute_of_unlike (unlike : Unlike names wanted) : findAttribute names wanted = none := by
  rcases findAttribute_cases names wanted with ⟨found, listed, -, alike⟩ | ⟨none, -⟩
  · exact absurd alike (unlike found listed)
  · exact none

theorem findAttribute_of_means (means : Means names wanted found) :
    findAttribute names wanted = if Text.equalIgnoringAsciiCase found wanted then some found else none := by
  cases means with
  | exact listed =>
    have equal : Text.equalIgnoringAsciiCase wanted wanted = true := beq_self_eq_true _
    rw [findAttribute, if_pos listed, if_pos equal]
  | alike unlisted listed alike alone =>
    rcases findAttribute_cases names wanted with ⟨other, member, searched, same⟩ | ⟨none, apart⟩
    · obtain rfl : other = found := alone other member same
      rw [searched, if_pos]
      rw [findAttribute, if_neg unlisted] at searched
      exact List.find?_some (p := fun name => Text.equalIgnoringAsciiCase name wanted) searched
    · rw [none, if_neg]
      simp [apart found listed]

theorem assignedName?_append_equals (name : String) : assignedName? (name ++ "=") = some name := by
  simp [assignedName?]

theorem assignedName?_eq_none {name : String} (plain : name.toList.getLast? ≠ some '=') : assignedName? name = none := by
  unfold assignedName?
  split
  · rename_i rest reversed
    rw [← List.head?_reverse, reversed] at plain
    exact absurd rfl plain
  · rfl

/-- The spelling in which an attribute is set: the name as it is if it is listed or nothing like it is, or else that of
an attribute whose name differs in the case of the letters A to Z, if there is one. -/
structure Spells (names : List String) (wanted spelling : String) : Prop where
  exact : wanted ∈ names → spelling = wanted
  known : ∀ name ∈ names, Text.equalIgnoringAsciiCase name wanted → spelling ∈ names
  fresh : Unlike names wanted → spelling = wanted
  alike : Alike spelling wanted

theorem spells_findAttribute (names : List String) (wanted : String) :
    Spells names wanted ((findAttribute names wanted).getD wanted) := by
  rcases findAttribute_cases names wanted with ⟨found, listed, searched, alike⟩ | ⟨none, apart⟩
  · rw [searched, Option.getD_some]
    refine ⟨fun exact => ?_, fun _ _ _ => listed, fun unlike => absurd alike (unlike found listed), alike⟩
    rw [findAttribute, if_pos exact] at searched
    exact (Option.some.inj searched).symm
  · rw [none, Option.getD_none]
    refine ⟨fun _ => rfl, fun name listed equal => ?_, fun _ => rfl, rfl⟩
    rw [apart name listed] at equal
    cases equal

theorem findAttribute_of_set (ascending : names.Pairwise (· < ·)) (ascending' : names'.Pairwise (· < ·))
    (set : spelling = (findAttribute names wanted).getD wanted)
    (more : ∀ other, other ∈ names' ↔ other = spelling ∨ other ∈ names) :
    findAttribute names' wanted = some spelling := by
  rcases findAttribute_cases names wanted with ⟨found, listed, searched, -⟩ | ⟨none, -⟩
  · rw [searched, Option.getD_some] at set
    subst set
    have same : names' = names := by
      have once {list : List String} (ascending : list.Pairwise (· < ·)) : list.Nodup :=
        ascending.imp fun less => by rintro rfl; exact String.lt_irrefl _ less
      have perm : names'.Perm names := by
        rw [List.perm_ext_iff_of_nodup (once ascending') (once ascending)]
        intro other
        rw [more other]
        exact ⟨fun either => either.elim (· ▸ listed) id, Or.inr⟩
      refine perm.eq_of_pairwise ?_ ascending' ascending
      intro first second _ _ less greater
      exact absurd (String.lt_trans less greater) (String.lt_irrefl _)
    rwa [same]
  · rw [none, Option.getD_none] at set
    subst set
    exact if_pos ((more _).mpr (Or.inl rfl))

end Bridge

end ObjectBridge

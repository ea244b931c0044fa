import Mathlib.Data.List.Nodup
import ObjectBridge.Registry.Name

/-!
Which name is meant. A name that is listed is meant by itself, and any other spelling means the one name that it is a
spelling of. A search either finds what is meant, or says that nothing is spelled so, or that too much is.
-/

namespace ObjectBridge.Registry

section Answers

variable {α γ : Type} {meaning other : α → Prop} {later : γ → Prop} {result : Except Guest.Exception α}

def Answers (meaning : α → Prop) : Except Guest.Exception α → Prop
  | .ok value => meaning value
  | .error exception => exception.kind = "NameError" ∧ ∀ value, ¬meaning value

theorem Answers.congr (answers : Answers meaning result) (same : ∀ value, meaning value ↔ other value) :
    Answers other result := by
  obtain rfl : meaning = other := funext fun value => propext (same value)
  exact answers

theorem Answers.bind {next : α → Except Guest.Exception γ} (answers : Answers meaning result)
    (rest : ∀ value, meaning value → Answers later (next value))
    (through : ∀ last, later last → ∃ value, meaning value) : Answers later (result >>= next) := by
  cases result with
  | ok value => exact rest value answers
  | error exception =>
    obtain ⟨kind, nothing⟩ := answers
    refine ⟨kind, ?_⟩
    intro last means
    obtain ⟨value, meant⟩ := through last means
    exact nothing value meant

end Answers

def Alike (name wanted : String) : Prop :=
  Text.lowercase name = Text.lowercase wanted

/-- What is wanted is the name itself, or a spelling of it and of no other that is listed. -/
inductive Means (names : List String) (wanted : String) : String → Prop
  | exact (listed : wanted ∈ names) : Means names wanted wanted
  | alike {found : String} (unlisted : wanted ∉ names) (listed : found ∈ names) (alike : Alike found wanted)
      (alone : ∀ other ∈ names, Alike other wanted → other = found) : Means names wanted found

def Unlike (names : List String) (wanted : String) : Prop :=
  ∀ other ∈ names, ¬Alike other wanted

def Meant (names : List String) (wanted : String) : Option String → Prop
  | some found => Means names wanted found
  | none => Unlike names wanted

variable {names : List String} {wanted found : String}

theorem Means.listed (means : Means names wanted found) : found ∈ names := by
  cases means with
  | exact listed => exact listed
  | alike unlisted listed => exact listed

theorem Means.not_unlike (means : Means names wanted found) : ¬Unlike names wanted := by
  intro unlike
  cases means with
  | exact listed => exact unlike wanted listed rfl
  | alike unlisted listed alike => exact unlike found listed alike

theorem Means.unique {other : String} (means : Means names wanted found) (meansOther : Means names wanted other) :
    found = other := by
  cases means with
  | exact listed =>
    cases meansOther with
    | exact => rfl
    | alike unlisted => exact absurd listed unlisted
  | alike unlisted listed alike alone =>
    cases meansOther with
    | exact listed => exact absurd listed unlisted
    | alike _ memberOther alikeOther _ => exact (alone other memberOther alikeOther).symm

theorem mem_filter_alike (names : List String) (wanted other : String) :
    other ∈ names.filter (fun name => Text.lowercase name == Text.lowercase wanted) ↔
      other ∈ names ∧ Alike other wanted := by
  simp [Alike]

theorem findName_answers (once : names.Nodup) (wanted : String) :
    Answers (Meant names wanted) (findName names wanted) := by
  by_cases listed : wanted ∈ names
  · rw [findName, if_pos listed]
    exact Means.exact listed
  have searched : findName names wanted = _ := if_neg listed
  have onceAlike := once.filter fun name => Text.lowercase name == Text.lowercase wanted
  have alike := mem_filter_alike names wanted
  cases matched : names.filter fun name => Text.lowercase name == Text.lowercase wanted with
  | nil =>
    simp only [matched] at searched alike
    rw [searched]
    intro other member same
    exact List.not_mem_nil ((alike other).mpr ⟨member, same⟩)
  | cons first rest =>
    rw [matched] at onceAlike alike
    obtain ⟨member, same⟩ := (alike first).mp List.mem_cons_self
    cases rest with
    | nil =>
      simp only [matched] at searched
      rw [searched]
      refine Means.alike listed member same ?_
      intro other memberOther sameOther
      exact List.mem_singleton.mp ((alike other).mpr ⟨memberOther, sameOther⟩)
    | cons second rest =>
      obtain ⟨memberToo, sameToo⟩ := (alike second).mp (List.mem_cons_of_mem _ List.mem_cons_self)
      simp only [matched] at searched
      rw [searched]
      refine ⟨rfl, ?_⟩
      intro found? meant
      cases found? with
      | none => exact meant first member same
      | some found =>
        cases meant with
        | exact unlisted => exact listed unlisted
        | alike _ _ _ alone =>
          have equal := (alone first member same).trans (alone second memberToo sameToo).symm
          simp [equal] at onceAlike

structure Longest (globals segments : List String) (count : Nat) (found : String) (taken : Nat) : Prop where
  positive : 0 < taken
  within : taken ≤ count
  means : Means globals (Text.dotted (segments.take taken)) found
  longer : ∀ more, taken < more → more ≤ count → Unlike globals (Text.dotted (segments.take more))

def NoGlobal (globals segments : List String) (count : Nat) : Prop :=
  ∀ taken, 0 < taken → taken ≤ count → Unlike globals (Text.dotted (segments.take taken))

def Leading (globals segments : List String) (count : Nat) : Option (String × Nat) → Prop
  | some (found, taken) => Longest globals segments count found taken
  | none => NoGlobal globals segments count

section Longest

variable {globals segments : List String} {count taken : Nat}

theorem Longest.unlike_or_eq (longest : Longest globals segments count found taken) {more : Nat} (within : more ≤ count)
    (atLeast : taken ≤ more) : more = taken ∨ Unlike globals (Text.dotted (segments.take more)) := by
  rcases Nat.eq_or_lt_of_le atLeast with same | longer
  · exact Or.inl same.symm
  · exact Or.inr (longest.longer more longer within)

theorem Longest.unique {other : String} {takenOther : Nat} (longest : Longest globals segments count found taken)
    (longestOther : Longest globals segments count other takenOther) : found = other ∧ taken = takenOther := by
  have same : taken = takenOther := by
    rcases Nat.le_total taken takenOther with less | less
    · rcases longest.unlike_or_eq longestOther.within less with same | unlike
      · exact same.symm
      · exact absurd unlike longestOther.means.not_unlike
    · rcases longestOther.unlike_or_eq longest.within less with same | unlike
      · exact same
      · exact absurd unlike longest.means.not_unlike
  subst same
  exact ⟨longest.means.unique longestOther.means, rfl⟩

theorem Longest.not_noGlobal (longest : Longest globals segments count found taken) :
    ¬NoGlobal globals segments count := by
  intro none
  exact longest.means.not_unlike (none taken longest.positive longest.within)

theorem longest_succ_iff (unlike : Unlike globals (Text.dotted (segments.take (count + 1)))) :
    Longest globals segments (count + 1) found taken ↔ Longest globals segments count found taken := by
  constructor
  · intro longest
    have fewer : taken ≠ count + 1 := by
      rintro rfl
      exact longest.means.not_unlike unlike
    have within := longest.within
    exact ⟨longest.positive, by omega, longest.means, fun more above below => longest.longer more above (by omega)⟩
  · intro longest
    refine ⟨longest.positive, Nat.le_succ_of_le longest.within, longest.means, ?_⟩
    intro more above below
    by_cases last : more = count + 1
    · exact last ▸ unlike
    · exact longest.longer more above (by omega)

theorem noGlobal_succ_iff (unlike : Unlike globals (Text.dotted (segments.take (count + 1)))) :
    NoGlobal globals segments (count + 1) ↔ NoGlobal globals segments count := by
  constructor
  · intro none taken above below
    exact none taken above (Nat.le_succ_of_le below)
  · intro none taken above below
    by_cases last : taken = count + 1
    · exact last ▸ unlike
    · exact none taken above (by omega)

theorem leading_succ_iff (unlike : Unlike globals (Text.dotted (segments.take (count + 1))))
    (found? : Option (String × Nat)) :
    Leading globals segments (count + 1) found? ↔ Leading globals segments count found? := by
  cases found? with
  | some found => exact longest_succ_iff unlike
  | none => exact noGlobal_succ_iff unlike

theorem Leading.exists_meant {found? : Option (String × Nat)} (leading : Leading globals segments (count + 1) found?) :
    ∃ whole, Meant globals (Text.dotted (segments.take (count + 1))) whole := by
  cases found? with
  | some found =>
    have longest : Longest globals segments (count + 1) found.1 found.2 := leading
    rcases longest.unlike_or_eq (Nat.le_refl _) longest.within with last | unlike
    · have means := longest.means
      rw [← last] at means
      exact ⟨some found.1, means⟩
    · exact ⟨none, unlike⟩
  | none => exact ⟨none, leading (count + 1) (Nat.succ_pos count) (Nat.le_refl _)⟩

theorem longestGlobal_answers (once : globals.Nodup) (segments : List String) (count : Nat) :
    Answers (Leading globals segments count) (longestGlobal globals segments count) := by
  induction count with
  | zero =>
    intro taken above below
    omega
  | succ count ih =>
    refine (findName_answers once (Text.dotted (segments.take (count + 1)))).bind ?_ fun _ => Leading.exists_meant
    intro found? meant
    cases found? with
    | some found => exact ⟨Nat.succ_pos count, Nat.le_refl _, meant, fun more above below => by omega⟩
    | none => exact ih.congr fun other => (leading_succ_iff meant other).symm

end Longest

end ObjectBridge.Registry

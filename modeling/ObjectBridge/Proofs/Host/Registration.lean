import ObjectBridge.Proofs.World.Lineage

/-!
The history of an interpreter. Classes are registered, also in place of others of the name, and objects are made. A
name that is known stays known, and every value keeps its class: which class is registered under the name of that
class makes no difference.
-/

namespace ObjectBridge.Host.Interpreter

variable {μ ν : Type} {before host later : Interpreter μ} {families more : List (Class μ)}

/-- The interpreter has come out of the earlier one, and meanwhile the classes were registered, the latest first. -/
inductive History (before : Interpreter μ) : List (Class μ) → Interpreter μ → Prop
  | start : History before [] before
  | register {families : List (Class μ)} {host : Interpreter μ} (history : History before families host)
      (family : Class μ) : History before (family :: families) (host.register family)
  | newObject {families : List (Class μ)} {host : Interpreter μ} (history : History before families host) {ν : Type}
      (family : Class μ) (payload : Option ν) : History before families (host.newObject family payload).2

theorem History.trans (one : History before families host) (two : History host more later) :
    History before (more ++ families) later := by
  induction two with
  | start => exact one
  | register _ family ih => exact ih.register family
  | newObject _ family payload ih => exact ih.newObject family payload

theorem History.named (history : History before families host) (named : before.Named) : host.Named := by
  induction history with
  | start => exact named
  | register _ family ih => exact ih.register family
  | newObject _ family payload ih => exact ih

theorem History.of_classes {other : Interpreter μ} (history : History before families host)
    (same : other.classes = before.classes) : ∃ last, History other families last ∧ last.classes = host.classes := by
  induction history with
  | start => exact ⟨other, .start, same⟩
  | register _ family ih =>
    obtain ⟨last, history, same⟩ := ih
    exact ⟨_, history.register family, by rw [Interpreter.register, Interpreter.register, same]⟩
  | newObject _ family payload ih => exact ih

theorem History.classOf_eq (history : History before families host) (value : Value μ ν) :
    host.classOf value = before.classOf value := by
  induction history with
  | start => rfl
  | register _ family ih =>
    rw [← ih]
    cases value <;> rfl
  | newObject _ family payload ih =>
    rw [← ih]
    cases value <;> rfl

theorem findClass_register_isSome (host : Interpreter μ) (family : Class μ) (name : String) :
    ((host.register family).findClass name).isSome ↔
      Text.equalIgnoringAsciiCase family.name name ∨ (host.findClass name).isSome := by
  simp only [findClass, register, Bindings.get?_insert, Text.equalIgnoringAsciiCase, beq_iff_eq]
  split
  · rename_i same
    simp [same]
  · rename_i other
    simp [Ne.symm other]

theorem History.findClass_isSome (history : History before families host) (name : String) :
    (host.findClass name).isSome ↔
      (∃ family ∈ families, Text.equalIgnoringAsciiCase family.name name) ∨ (before.findClass name).isSome := by
  induction history with
  | start => simp
  | register _ family ih => simp [findClass_register_isSome, ih, or_assoc]
  | newObject _ family payload ih => exact ih

def builtinNames : List String :=
  ["NilObject", "Array", "String", "Object"]

theorem findClass_start_isSome (id : HostId) (first : Nat) (name : String) :
    ((start id first : Interpreter μ).findClass name).isSome ↔
      ∃ builtin ∈ builtinNames, Text.equalIgnoringAsciiCase builtin name := by
  simp only [start, List.foldl_cons, List.foldl_nil, findClass_register_isSome]
  simp [builtinNames, findClass, Bindings.get?_empty, Class.name, Class.build]

theorem exists_history_start (id other : HostId) (first second : Nat) :
    ∃ families later, History (start id first : Interpreter μ) families later ∧
      later.classes = (start other second : Interpreter μ).classes := by
  let again : Interpreter μ := start other second
  refine ⟨_, _, (((History.start.register again.objectClass).register again.stringClass).register
    again.arrayClass).register again.nilClass, Bindings.ext_get? fun name => ?_⟩
  simp only [again, start, register, List.foldl_cons, List.foldl_nil, Bindings.get?_insert, Class.name, Class.build]
  split_ifs <;> rfl

theorem Named.isInstanceOfNamed_iff (named : host.Named) (value : Value μ ν) (name : String) :
    host.isInstanceOfNamed value name = true ↔
      (host.findClass name).isSome ∧
        ∃ level ∈ (host.classOf value).chain, Text.equalIgnoringAsciiCase level.name name := by
  unfold isInstanceOfNamed
  rcases found : host.findClass name with _ | family
  · simp
  · have same : Text.asciiUppercase family.name = Text.asciiUppercase name := named _ family found
    simp [isInstanceOf, Class.isSubclassOf, Text.equalIgnoringAsciiCase, same]

end ObjectBridge.Host.Interpreter

import ObjectBridge.Machine
import ObjectBridge.Proofs.Host.Registration
import ObjectBridge.Proofs.World.Acts

/-!
Dispatch. A message runs the method of the nearest class that has one for it, and only if no class of the chain has
one, the nearest method for all other messages. Which one that is depends on nothing but what the class of the receiver
was built from.
-/

namespace ObjectBridge

namespace Host

variable {μ ν : Type}

structure Draft (μ : Type) where
  name : String
  methods : List (String × μ)

/-- The class was built from the first of the drafts, and those that it derives from, in turn, from the others. -/
inductive Class.Built : Class μ → List (Draft μ) → Prop
  | root (number : Nat) (draft : Draft μ) : Built (build number draft.name none draft.methods) [draft]
  | derived {parent : Class μ} {drafts : List (Draft μ)} (built : Built parent drafts) (number : Nat)
      (draft : Draft μ) : Built (build number draft.name (some parent) draft.methods) (draft :: drafts)

namespace Draft

def Gives (draft : Draft μ) (message : String) (body : μ) : Prop :=
  ∃ earlier own later, draft.methods = earlier ++ (own, body) :: later ∧ Text.equalIgnoringAsciiCase message own ∧
    ∀ method ∈ later, ¬Text.equalIgnoringAsciiCase message method.1

def Silent (draft : Draft μ) (message : String) : Prop :=
  ∀ method ∈ draft.methods, ¬Text.equalIgnoringAsciiCase message method.1

def level (draft : Draft μ) : Level μ :=
  (Class.build 0 draft.name none draft.methods).own

variable {draft : Draft μ} {message : String} {body : μ}

theorem get?_level_eq_some : draft.level.methods.get? (Text.asciiUppercase message) = some body ↔
    draft.Gives message body := by
  simp only [level, Class.build, Bindings.get?_ofList_eq_some_iff_last, Gives, List.map_eq_append_iff,
    List.map_eq_cons_iff, Text.equalIgnoringAsciiCase, beq_iff_eq]
  constructor
  · rintro ⟨_, _, ⟨earlier, _, split, rfl, ⟨own, given⟩, later, rfl, same, rfl⟩, unlisted⟩
    obtain ⟨key, rfl⟩ := Prod.mk.inj same
    refine ⟨earlier, own, later, split, key.symm, fun method member equal => unlisted ?_⟩
    simp only [List.map_map, List.mem_map]
    exact ⟨method, member, equal.symm⟩
  · rintro ⟨earlier, own, later, split, same, last⟩
    refine ⟨_, _, ⟨earlier, _, split, rfl, (own, body), later, rfl, by rw [same], rfl⟩, fun listed => ?_⟩
    simp only [List.map_map, List.mem_map] at listed
    obtain ⟨method, member, equal⟩ := listed
    exact last method member equal.symm

theorem get?_level_eq_none : draft.level.methods.get? (Text.asciiUppercase message) = none ↔ draft.Silent message := by
  have listed : Text.asciiUppercase message ∈
      (draft.methods.map fun method => (Text.asciiUppercase method.1, method.2)).map (·.1) ↔ ¬draft.Silent message := by
    simp only [Silent, Text.equalIgnoringAsciiCase, beq_iff_eq, not_forall, not_not, List.map_map, List.mem_map,
      Function.comp_apply, exists_prop]
    exact exists_congr fun method => and_congr_right fun _ => eq_comm
  constructor
  · intro none
    by_contra heard
    obtain ⟨body, -, bound⟩ := Bindings.get?_foldl_insert_of_mem .empty (listed.mpr heard)
    cases none.symm.trans bound
  · intro silent
    exact Bindings.get?_ofList_of_notMem fun member => listed.mp member silent

theorem Silent.not_gives (silent : draft.Silent message) : ¬draft.Gives message body := by
  intro gives
  cases (get?_level_eq_none.mpr silent).symm.trans (get?_level_eq_some.mpr gives)

theorem Gives.unique {other : μ} (one : draft.Gives message body) (two : draft.Gives message other) : body = other :=
  Option.some.inj ((get?_level_eq_some.mpr one).symm.trans (get?_level_eq_some.mpr two))

end Draft

inductive Nearest : List (Draft μ) → String → μ → Prop
  | here {draft : Draft μ} {message : String} {body : μ} (gives : draft.Gives message body) (rest : List (Draft μ)) :
      Nearest (draft :: rest) message body
  | beyond {draft : Draft μ} {message : String} {body : μ} {rest : List (Draft μ)} (silent : draft.Silent message)
      (nearest : Nearest rest message body) : Nearest (draft :: rest) message body

inductive Dispatch (drafts : List (Draft μ)) (message : String) (arguments : List (Value μ ν)) :
    Except Error (μ × List (Value μ ν)) → Prop
  | understood {body : μ} (nearest : Nearest drafts message body) :
      Dispatch drafts message arguments (.ok (body, arguments))
  | unknown {body : μ} (silent : ∀ draft ∈ drafts, draft.Silent message)
      (nearest : Nearest drafts unknownMessage body) :
      Dispatch drafts message arguments (.ok (body, [.text message, .array arguments]))
  | refused {name : String} (own : drafts.head?.map (·.name) = some name)
      (silent : ∀ draft ∈ drafts, draft.Silent message) (mute : ∀ draft ∈ drafts, draft.Silent unknownMessage) :
      Dispatch drafts message arguments (.error (.noSuchMethod name message))

namespace Class

variable {family : Class μ} {drafts : List (Draft μ)} {message : String} {body : μ}

theorem Built.chain_eq (built : family.Built drafts) : family.chain = drafts.map Draft.level := by
  induction built with
  | root number draft => rfl
  | derived built number draft ih =>
    rw [List.map_cons, ← ih]
    rfl

theorem Built.head?_name (built : family.Built drafts) : drafts.head?.map (·.name) = some family.name := by
  cases built <;> rfl

theorem Built.findMethod_eq_some (built : family.Built drafts) :
    family.findMethod message = some body ↔ Nearest drafts message body := by
  rw [findMethod, built.chain_eq]
  clear built
  induction drafts with
  | nil =>
    simp only [List.map_nil, List.findSome?_nil, reduceCtorEq, false_iff]
    intro nearest
    cases nearest
  | cons draft rest ih =>
    rw [List.map_cons, List.findSome?_cons]
    rcases own : draft.level.methods.get? (Text.asciiUppercase message) with _ | other
    · have silent := Draft.get?_level_eq_none.mp own
      simp only [ih]
      constructor
      · exact .beyond silent
      · rintro (⟨gives⟩ | ⟨-, nearest⟩)
        · exact absurd gives silent.not_gives
        · exact nearest
    · have gives := Draft.get?_level_eq_some.mp own
      simp only [Option.some.injEq]
      constructor
      · rintro rfl
        exact .here gives rest
      · rintro (⟨gives'⟩ | ⟨silent, -⟩)
        · exact gives.unique gives'
        · exact absurd gives silent.not_gives

theorem Built.findMethod_eq_none (built : family.Built drafts) :
    family.findMethod message = none ↔ ∀ draft ∈ drafts, draft.Silent message := by
  simp [findMethod, built.chain_eq, Draft.get?_level_eq_none]

end Class

namespace Interpreter

variable {drafts : List (Draft μ)} {host : Interpreter μ} {receiver : Value μ ν}

theorem dispatch_answering (built : (host.classOf receiver).Built drafts) (message : String)
    (arguments : List (Value μ ν)) :
    Dispatch drafts message arguments (host.answering receiver message arguments) := by
  unfold answering
  extract_lets family
  rcases found : family.findMethod message with _ | body
  · have silent := built.findMethod_eq_none.mp found
    rcases forwarded : family.findMethod unknownMessage with _ | body
    · exact .refused built.head?_name silent (built.findMethod_eq_none.mp forwarded)
    · exact .unknown silent (built.findMethod_eq_some.mp forwarded)
  · exact .understood (built.findMethod_eq_some.mp found)

theorem answering_eq_of_dispatch (built : (host.classOf receiver).Built drafts) {message : String}
    {arguments : List (Value μ ν)} {outcome : Except Error (μ × List (Value μ ν))}
    (dispatch : Dispatch drafts message arguments outcome) : host.answering receiver message arguments = outcome := by
  cases dispatch with
  | understood nearest => simp only [answering, built.findMethod_eq_some.mpr nearest]
  | unknown silent nearest =>
    simp only [answering, built.findMethod_eq_none.mpr silent, built.findMethod_eq_some.mpr nearest]
  | refused own silent mute =>
    obtain rfl := Option.some.inj (own.symm.trans built.head?_name)
    simp only [answering, built.findMethod_eq_none.mpr silent, built.findMethod_eq_none.mpr mute]

theorem built_classOf_start (id : HostId) (first : Nat) (plain : receiver.object? = none) :
    ∃ drafts, ((start id first).classOf receiver).Built drafts := by
  have root : Class.Built (Class.build first "Object" none []) [{ name := "Object", methods := ([] : List (String × μ)) }] :=
    .root first { name := "Object", methods := [] }
  cases receiver with
  | nil => exact ⟨_, root.derived (first + 3) { name := "NilObject", methods := [] }⟩
  | text content => exact ⟨_, root.derived (first + 1) { name := "String", methods := [] }⟩
  | array items => exact ⟨_, root.derived (first + 2) { name := "Array", methods := [] }⟩
  | object content => cases plain

end Interpreter

end Host

namespace Engine

open Host (Dispatch Draft HostId Nearest unknownMessage)

theorem run_deliver (engine : Engine) (id : HostId) (receiver : HostValue) (message : String)
    (arguments : List HostValue) {world : World} :
    (engine.deliver id receiver message arguments).run world =
      match (world.host id).answering receiver message arguments with
      | .ok (method, given) => (engine.runMethod id receiver method given).run world
      | .error error => (.error error, world) := by
  unfold deliver
  rw [Act.run_get_bind]
  rcases (world.host id).answering receiver message arguments with error | ⟨method, given⟩ <;> rfl

/-- A message runs the body that it comes to by what the class of the receiver was built from, or none. So it comes to
the same whatever classes are registered when the receiver is there. -/
theorem send_runs_nearest (engine : Engine) {maker : HostId} {first : Nat} {families : List HostClass}
    {host : Host.Interpreter Method} (history : (Host.Interpreter.start maker first).History families host)
    {receiver : HostValue}
    (built : ∀ content, receiver.object? = some content → ∃ drafts, content.family.Built drafts) :
    (∃ drafts, (host.classOf receiver).Built drafts) ∧
      ∀ drafts, (host.classOf receiver).Built drafts → ∀ message arguments,
        (∃! outcome, Dispatch drafts message arguments outcome) ∧
        ∀ outcome, Dispatch drafts message arguments outcome →
          ∀ (later : List HostClass) (id : HostId) (world : World), host.History later (world.host id) →
            (engine.next.send id receiver message arguments).run world =
              match outcome with
              | .ok (body, given) => (engine.runMethod id receiver body given).run world
              | .error error => (.error error, world) := by
  refine ⟨?_, fun drafts whole message arguments => ⟨⟨_, Host.Interpreter.dispatch_answering whole message arguments,
    fun other dispatch => (Host.Interpreter.answering_eq_of_dispatch whole dispatch).symm⟩,
    fun outcome dispatch later id world since => ?_⟩⟩
  · rcases carried : receiver.object? with _ | content
    · rw [history.classOf_eq]
      exact Host.Interpreter.built_classOf_start maker first carried
    · cases receiver <;> cases carried
      exact built content rfl
  · have same : ((world.host id).classOf receiver).Built drafts := by rwa [since.classOf_eq]
    have sent : (engine.next.send id receiver message arguments).run world = _ :=
      run_deliver engine id receiver message arguments
    rw [sent, Host.Interpreter.answering_eq_of_dispatch same dispatch]

/-- A method that is inherited comes before the method for all other messages, of its definitions the last one counts,
and a class that takes the name of the inherited one later has no say. -/
theorem send_runs_nearest_inherited :
    let base : Draft Method := { name := "Base", methods := [("greet", .identity), ("GREET", .text)] }
    let own : Draft Method := { name := "Derived", methods := [("Unknown", .forward)] }
    let parent := Host.Class.build 4 base.name none base.methods
    let family := Host.Class.build 5 own.name (some parent) own.methods
    let host := ((Host.Interpreter.start { index := 0 } 0).register parent).register family
    let receiver : HostValue := .object { maker := { index := 0 }, number := 1, family, payload := none }
    let replaced := host.register (.build 6 "BASE" none [("GREET", .forward)])
    let world : World := { World.empty with hosts := #[replaced] }
    (exhausted.next.send { index := 0 } receiver "Greet" [.nil]).run world =
        (exhausted.runMethod { index := 0 } receiver .text [.nil]).run world ∧
      (exhausted.next.send { index := 0 } receiver "Other" [.nil]).run world =
        (exhausted.runMethod { index := 0 } receiver .forward [.text "Other", .array [.nil]]).run world := by
  intro base own parent family host receiver replaced world
  have built : family.Built [own, base] := (Host.Class.Built.root 4 base).derived 5 own
  have history : (Host.Interpreter.start { index := 0 } 0).History [family, parent] host :=
    (Host.Interpreter.History.start.register parent).register family
  have since : host.History [.build 6 "BASE" none [("GREET", .forward)]] (world.host { index := 0 }) :=
    .register .start _
  have made : ∀ content, receiver.object? = some content → ∃ drafts, content.family.Built drafts := by
    intro content carried
    obtain rfl := Option.some.inj carried
    exact ⟨_, built⟩
  have runs := (send_runs_nearest exhausted history made).2 [own, base] built
  have nearest : Nearest [own, base] "Greet" .text :=
    .beyond (by unfold Draft.Silent; decide) (.here ⟨[("greet", .identity)], "GREET", [], rfl, by decide, by simp⟩ [])
  have forwarded : Nearest [own, base] unknownMessage .forward := .here ⟨[], "Unknown", [], rfl, by decide, by simp⟩ [base]
  have silent : ∀ draft ∈ [own, base], draft.Silent "Other" := by
    unfold Draft.Silent
    decide
  exact ⟨(runs "Greet" [.nil]).2 _ (.understood nearest) _ _ world since,
    (runs "Other" [.nil]).2 _ (.unknown silent forwarded) _ _ world since⟩

end Engine

end ObjectBridge

import ObjectBridge.Proofs.World.Callbacks
import ObjectBridge.Proofs.World.Listing
import ObjectBridge.Proofs.World.Returns
import ObjectBridge.Proofs.World.Services

/-!
Keyword arguments by convention. A last argument that is a dict with the marker stands for keyword arguments. Whatever
is called, the one body that is run for it gets every argument once.
-/

namespace ObjectBridge

open Act
open Guest (Exception Handle)

namespace Guest.Space

theorem construction_eq_object {β : Type} {space : Space β} {type : Handle} {contents : TypeObject}
    (shown : space.object type = .ok (.typeObject contents))
    (makes : contents.builtin = false ∨ contents.name = "object") : space.construction type = .ok .object := by
  unfold construction
  rw [shown]
  have condition : (!contents.builtin || decide (contents.name = "object")) = true := by simpa using makes
  simp only [bind, Except.bind, condition, if_true]
  rfl

end Guest.Space

namespace Act

variable {world : World} {frame : Multiset Ref} {dict : Ref} {entries : Bindings Handle} {key : String}

theorem run_dictGet_none (exact : world.Exact frame) (found : world.get? dict = some (.dict entries))
    (free : entries.get? key = none) : (dictGet dict.space dict key).run world = (.ok none, world) := by
  have read := Guest.Space.entries_eq_ok.mpr (exact.object_eq_ok found)
  have looked : (Guest.Space.dictGet dict.handle key : Guest.Op Code _).run (world.space dict.space) =
      .ok (none, world.space dict.space) :=
    Guest.Op.run_bind_eq_ok.mpr ⟨entries, _, Guest.Op.run_read_eq_ok.mpr ⟨read, rfl⟩, by rw [free]; rfl⟩
  unfold dictGet
  have ran : (onSpace dict.space (Guest.Space.dictGet dict.handle key)).run world = (.ok none, world) := by
    simp only [run_onSpace, looked, World.setSpace_self]
  rw [run_bind_ok ran]
  rfl

theorem run_dictGet_some {value : Handle} (exact : world.Exact frame) (found : world.get? dict = some (.dict entries))
    (bound : entries.get? key = some value) :
    (dictGet dict.space dict key).run world =
      (.ok (some { dict with handle := value }), world.retain { dict with handle := value }) := by
  have read := Guest.Space.entries_eq_ok.mpr (exact.object_eq_ok found)
  have started := exact.started_of_get? found
  have member : value ∈ Guest.Object.children (.dict entries : Guest.Object Code) :=
    Bindings.mem_values.mpr ⟨key, bound⟩
  obtain ⟨cell, live⟩ := ((exact.spaces dict.space).started started).exists_cell_of_child found member
  have acquired : (Guest.Space.acquire value).run (world.space dict.space) =
      .ok (value, (world.space dict.space).retain value) :=
    Guest.Space.acquire_eq_ok.mpr
      ⟨⟨cell.object, Guest.Space.object_eq_ok.mpr ⟨started, Guest.Heap.get?_of_cell live⟩⟩, rfl, rfl⟩
  have looked : (Guest.Space.dictGet dict.handle key : Guest.Op Code _).run (world.space dict.space) =
      .ok (some value, (world.space dict.space).retain value) :=
    Guest.Op.run_bind_eq_ok.mpr ⟨entries, _, Guest.Op.run_read_eq_ok.mpr ⟨read, rfl⟩, by simp [bound, acquired]⟩
  have ran : (onSpace dict.space (Guest.Space.dictGet dict.handle key)).run world =
      (.ok (some value), world.retain { dict with handle := value }) := by
    rw [run_onSpace, looked, World.retain, World.updateSpace_eq_setSpace]
  unfold dictGet
  rw [run_bind_ok ran]
  rfl

theorem run_dictItems (exact : world.Exact frame) (found : world.get? dict = some (.dict entries)) :
    (onSpace dict.space (Guest.Space.dictItems dict.handle)).run world = (.ok entries.entries,
      world.setSpace dict.space ((world.space dict.space).retainAll entries.values)) := by
  have read := Guest.Space.entries_eq_ok.mpr (exact.object_eq_ok found)
  have listed : (Guest.Space.dictItems dict.handle : Guest.Op Code _).run (world.space dict.space) =
      .ok (entries.entries, (world.space dict.space).retainAll entries.values) :=
    Guest.Op.run_bind_eq_ok.mpr ⟨entries, _, Guest.Op.run_read_eq_ok.mpr ⟨read, rfl⟩, rfl⟩
  rw [run_onSpace, listed]

end Act

namespace Registry

/-- What a list of arguments stands for: a last argument that is a dict with the marker stands for its other entries
as keyword arguments, in ascending order of key, and everything else is positional. -/
inductive Delivers (world : World) (space : SpaceId) : List Ref → List Ref → List (String × Ref) → Prop
  | marked {positionals : List Ref} {dict : Ref} {entries : Bindings Handle} {keywords : List (String × Ref)}
      (found : world.get? dict = some (.dict entries)) (marker : (entries.get? keywordMarker).isSome)
      (ascending : keywords.Pairwise fun first second => first.1 < second.1)
      (others : ∀ key value, (key, value) ∈ keywords ↔
        key ≠ keywordMarker ∧ value.space = space ∧ entries.get? key = some value.handle) :
      Delivers world space (positionals ++ [dict]) positionals keywords
  | plain {arguments : List Ref}
      (unmarked : ∀ dict ∈ arguments.getLast?, ∀ entries, world.get? dict = some (.dict entries) →
        entries.get? keywordMarker = none) :
      Delivers world space arguments arguments []

def isMarked (space : SpaceId) (last : Ref) : GuestAct Bool := do
  if (← kindOf last) = some .dict then
    match ← dictGet space last keywordMarker with
    | some marker =>
      change (·.release marker)
      pure true
    | none => pure false
  else pure false

def keywordsOf (space : SpaceId) (dict : Ref) : GuestAct (List (String × Ref)) := do
  let entries ← onSpace space (Guest.Space.dictItems dict.handle)
  let pairs := entries.map fun (key, handle) => (key, { space, handle : Ref })
  let (markers, keywords) := pairs.partition (·.1 = keywordMarker)
  change (·.releaseAll (markers.map (·.2)))
  return keywords

theorem callWithArguments_append (engine : Engine) (space : SpaceId) (callable : Ref) (positionals : List Ref) (last : Ref) :
    callWithArguments engine space callable (positionals ++ [last]) = (do
      if ← isMarked space last then
        let keywords ← keywordsOf space last
        lending (keywords.map (·.2)) (engine.call space callable positionals keywords)
      else engine.call space callable (positionals ++ [last]) []) := by
  unfold callWithArguments keywordsOf isMarked
  rw [List.getLast?_append]
  simp only [List.getLast?_singleton, Option.some_or, List.dropLast_concat, bind_assoc, pure_bind]
  refine bind_congr fun kind => ?_
  split
  · rw [bind_assoc]
    refine bind_congr fun marker => ?_
    cases marker <;> rfl
  · rfl

variable {world : World} {held : Multiset Ref} {dict callable : Ref} {entries : Bindings Handle} {arguments : List Ref}

theorem run_isMarked_true {marker : Handle} (exact : world.Exact held) (found : world.get? dict = some (.dict entries))
    (bound : entries.get? keywordMarker = some marker) :
    ∃ after, (isMarked dict.space dict).run world = (.ok true, after) ∧ World.Leads .temporary (world, 0) (after, 0) := by
  let value : Ref := { dict with handle := marker }
  have framed : world.Exact (0 + held) := by rwa [zero_add]
  have live : world.Live value := exact.live_of_child found (Bindings.mem_values.mpr ⟨_, bound⟩)
  have taken := World.leads_retain .temporary framed live
  refine ⟨(world.retain value).release value, ?_, taken.trans (World.leads_release .temporary (taken.exact framed))⟩
  have kind : (kindOf dict : GuestAct _).run world = (.ok (some .dict), world) := by
    rw [run_kindOf, found]
    rfl
  unfold isMarked
  rw [run_bind_ok kind, if_pos rfl, run_bind_ok (run_dictGet_some exact found bound)]
  rfl

theorem run_isMarked_false {last : Ref} (exact : world.Exact held)
    (unmarked : ∀ entries, world.get? last = some (.dict entries) → entries.get? keywordMarker = none) :
    (isMarked last.space last).run world = (.ok false, world) := by
  unfold isMarked
  rw [run_bind_ok (run_kindOf last)]
  split
  · rename_i dict
    obtain ⟨object, found, kind⟩ := Option.map_eq_some_iff.mp dict
    cases object with
    | dict entries =>
      rw [run_bind_ok (run_dictGet_none exact found (unmarked entries found))]
      rfl
    | _ => cases kind
  · rfl

/-- The keywords are all entries but the one under the marker, and the references to their values are all that is
taken. -/
theorem run_keywordsOf (exact : world.Exact held) (found : world.get? dict = some (.dict entries)) :
    ∃ keywords after, (keywordsOf dict.space dict).run world = (.ok keywords, after) ∧
      World.Leads .temporary (world, 0) (after, ((keywords.map (·.2) : List Ref) : Multiset Ref)) ∧
      keywords.Pairwise (fun first second => first.1 < second.1) ∧
      ∀ key value, (key, value) ∈ keywords ↔
        key ≠ keywordMarker ∧ value.space = dict.space ∧ entries.get? key = some value.handle := by
  let pairs : List (String × Ref) := entries.entries.map fun (key, handle) => (key, { dict with handle })
  let marked (pair : String × Ref) : Bool := pair.1 = keywordMarker
  have framed : world.Exact (0 + held) := by rwa [zero_add]
  have items : Balanced .temporary [] 0 (onSpace dict.space (Guest.Space.dictItems dict.handle)) _ :=
    .onSpace (Guest.Space.balanced_dictItems .temporary dict.handle)
  have listed := run_dictItems exact found
  have leads := items.leads_ok framed listed
  have all : Multiset.map (Ref.mk dict.space) ((entries.entries.map (·.2) : List Handle) : Multiset Handle) =
      (((pairs.partition marked).1.map (·.2) : List Ref) : Multiset Ref) +
        (((pairs.partition marked).2.map (·.2) : List Ref) : Multiset Ref) := by
    rw [← references_partition]
    simp [pairs, Function.comp_def]
  rw [all] at leads
  refine ⟨(pairs.partition marked).2, _, run_bind_ok listed _, leads.giveBack _ exact, ?_, ?_⟩
  · rw [List.partition_eq_filter_filter]
    refine List.Pairwise.filter _ ?_
    exact List.pairwise_map.mpr entries.entries_ascending
  · rintro key ⟨_, value⟩
    simp only [List.partition_eq_filter_filter, List.mem_filter, pairs, List.mem_map, Prod.exists, Bindings.mem_entries]
    constructor
    · rintro ⟨⟨_, _, listed, ⟨⟩⟩, other⟩
      exact ⟨by simpa [marked] using other, rfl, listed⟩
    · rintro ⟨other, rfl, listed⟩
      exact ⟨⟨key, value, listed, rfl⟩, by simpa [marked] using other⟩

def Hands (world : World) (held : Multiset Ref) (callable : Ref) (arguments positionals : List Ref)
    (keywords : List (String × Ref)) : Prop :=
  ∃ between, World.Leads .temporary (world, 0) (between, ((keywords.map (·.2) : List Ref) : Multiset Ref)) ∧
    (∀ ref, between.get? ref = world.get? ref) ∧ (∀ ref ∈ positionals, ref ∈ held) ∧ ∀ engine : Engine,
      (callWithArguments engine callable.space callable arguments).run world =
        (lending (keywords.map (·.2)) (engine.call callable.space callable positionals keywords)).run between

theorem exists_hands (exact : world.Exact held) (given : ∀ ref ∈ arguments, ref ∈ held ∧ ref.space = callable.space) :
    ∃ positionals keywords, Delivers world callable.space arguments positionals keywords ∧
      Hands world held callable arguments positionals keywords := by
  have unkeyed (unmarked : ∀ dict ∈ arguments.getLast?, ∀ entries, world.get? dict = some (.dict entries) →
      entries.get? keywordMarker = none)
      (ran : ∀ engine : Engine, (callWithArguments engine callable.space callable arguments).run world =
        (engine.call callable.space callable arguments []).run world) :
      ∃ positionals keywords, Delivers world callable.space arguments positionals keywords ∧
        Hands world held callable arguments positionals keywords :=
    ⟨arguments, [], .plain unmarked, world, .refl world 0, fun _ => rfl, fun ref member => (given ref member).1, ran⟩
  rcases List.eq_nil_or_concat' arguments with rfl | ⟨positionals, last, rfl⟩
  · exact unkeyed (by simp) fun _ => rfl
  have here : last.space = callable.space := (given last (by simp)).2
  by_cases marked : ∃ entries marker, world.get? last = some (.dict entries) ∧ entries.get? keywordMarker = some marker
  · obtain ⟨entries, marker, found, bound⟩ := marked
    obtain ⟨checked, ranMarked, leadsChecked⟩ := run_isMarked_true exact found bound
    have framed : world.Exact (0 + held) := by rwa [zero_add]
    have exactChecked : checked.Exact held := by simpa using leadsChecked.exact framed
    obtain ⟨keywords, between, ranKeywords, leadsKeywords, ascending, others⟩ :=
      run_keywordsOf exactChecked ((leadsChecked.extends exact).get? found)
    have leads := leadsChecked.trans leadsKeywords
    rw [here] at ranMarked ranKeywords others
    refine ⟨positionals, keywords, .marked found (by rw [bound]; rfl) ascending others, between, leads,
      leads.get?_of_old exact fun ref member => ?_, fun ref member => (given ref (by simp [member])).1, fun engine => ?_⟩
    · obtain ⟨⟨key, _, value⟩, listed, rfl⟩ := List.mem_map.mp (Multiset.mem_coe.mp member)
      obtain ⟨-, rfl, bound⟩ := (others key _).mp listed
      obtain ⟨cell, live⟩ := ((exact.spaces last.space).started (exact.started_of_get? found)).exists_cell_of_child found
        (Bindings.mem_values.mpr ⟨key, bound⟩)
      have there : world.get? { last with handle := value } = some cell.object := Guest.Heap.get?_of_cell live
      rw [← here, there]
      rfl
    · rw [callWithArguments_append, run_bind_ok ranMarked, if_pos rfl, run_bind_ok ranKeywords]
  · have unmarked (entries : Bindings Handle) (found : world.get? last = some (.dict entries)) :
        entries.get? keywordMarker = none :=
      Option.eq_none_iff_forall_ne_some.mpr fun marker bound => marked ⟨entries, marker, found, bound⟩
    refine unkeyed (fun dict member => ?_) fun engine => ?_
    · obtain rfl : last = dict := by simpa using member
      exact unmarked
    · have ranMarked := run_isMarked_false exact unmarked
      rw [here] at ranMarked
      rw [callWithArguments_append, run_bind_ok ranMarked]
      rfl

end Registry

namespace Engine

/-- The call is one run of a body. Before it references are taken, those to all that the body gets among them, and
after it references are given back, whatever engine all of this is carried out by. -/
def OneRun (world before : World) (held : Multiset Ref) (call : Engine → GuestAct Ref) (code : Code)
    (invocation : Invocation) (answer : Ref → Ref) : Prop :=
  ∃ (taken : Multiset Ref) (returned : Except Exception Ref → List Ref),
    World.Leads .temporary (world, 0) (before, taken) ∧ (∀ ref ∈ Script.lends invocation, ref ∈ taken + held) ∧
    (∀ outcome, left ({·}) outcome + taken = (returned outcome : Multiset Ref) + left ({·}) (outcome.map answer)) ∧
    ∀ engine : Engine, (call engine).run world =
      (((engine.runCode code invocation).run before).1.map answer,
        ((engine.runCode code invocation).run before).2.releaseAll
          (returned ((engine.runCode code invocation).run before).1))

variable {world before between : World} {held : Multiset Ref} {call call' : Engine → GuestAct Ref} {code : Code}
  {invocation : Invocation} {answer : Ref → Ref}

theorem OneRun.of_lending {lent : List Ref} (exact : world.Exact held)
    (leads : World.Leads .temporary (world, 0) (between, (lent : Multiset Ref)))
    (once : OneRun between before ((lent : Multiset Ref) + held) call' code invocation answer)
    (ran : ∀ engine : Engine, (call engine).run world = (lending lent (call' engine)).run between) :
    OneRun world before held call code invocation answer := by
  obtain ⟨taken, returned, later, given, accounts, ranLater⟩ := once
  refine ⟨taken + (lent : Multiset Ref), fun outcome => returned outcome ++ lent, leads.follow exact later, ?_,
    fun outcome => ?_, fun engine => ?_⟩
  · rwa [add_assoc]
  · rw [← add_assoc, accounts, ← Multiset.coe_add, add_right_comm]
  · rw [ran, run_lending, ranLater, World.releaseAll_append]

theorem OneRun.keeps (exact : world.Exact held) (once : OneRun world before held call code invocation answer)
    {engine : Engine} (balanced : engine.Balanced) {ref : Ref} (listed : ref ∈ held) :
    ((call engine).run world).2.get? ref = ((engine.runCode code invocation).run before).2.get? ref := by
  obtain ⟨taken, returned, leads, given, accounts, ran⟩ := once
  have framed : world.Exact (0 + held) := by rwa [zero_add]
  have exactBefore : before.Exact (0 + (taken + held)) := by
    rw [zero_add]
    exact leads.exact framed
  have body : Act.Balanced .lasting (Script.lends invocation) 0 (engine.runCode code invocation) ({·}) :=
    balanced_runCode balanced code invocation fun ref member => member
  have exactLast := Settles.exact (body before (taken + held) exactBefore (by simpa using given)) exactBefore
  rw [← add_assoc, accounts, add_assoc] at exactLast
  rw [ran]
  exact exactLast.get?_releaseAll_of_mem (by simp [listed])

theorem exists_oneRun_function {function : Ref} {callable : Guest.Function Code} {arguments : List Ref}
    {keywords : List (String × Ref)} (exact : world.Exact held)
    (found : world.get? function = some (.function callable))
    (given : ∀ ref ∈ arguments ++ keywords.map (·.2), ref ∈ held) :
    ∃ before, (∀ ref, before.get? ref = world.get? ref) ∧
      OneRun world before held (fun engine => engine.next.call function.space function arguments keywords)
        callable.body { space := function.space, bound? := callable.bound.map fun handle => { function with handle }
                        arguments, keywords } id := by
  let invocation : Invocation :=
    { space := function.space, bound? := callable.bound.map fun handle => { function with handle }, arguments, keywords }
  let lent := Script.lends invocation
  have live : ∀ ref ∈ lent, world.Live ref := by
    intro ref member
    rw [show lent = _ from List.append_assoc .., List.mem_append] at member
    rcases member with state | listed
    · obtain ⟨handle, bound, rfl⟩ := Option.map_eq_some_iff.mp (Option.mem_toList.mp state)
      refine exact.live_of_child found ?_
      simpa [Guest.Object.children] using bound
    · exact exact.live (Multiset.mem_add.mpr (Or.inl (given ref listed)))
  have framed : world.Exact (0 + held) := by rwa [zero_add]
  have taken := World.leads_retainAll .temporary framed live
  rw [add_zero] at taken
  refine ⟨world.retainAll lent, world.get?_retainAll lent, lent, fun _ => lent, taken,
    fun ref member => Multiset.mem_add.mpr (Or.inl member), fun outcome => ?_, fun engine => ?_⟩
  · cases outcome <;> simp [left, add_comm, Except.map]
  · rw [run_call_function engine exact found arguments keywords rfl rfl, run_lending, Except.map_id]
    rfl

theorem exists_oneRun_method {callable : Ref} {receiver function : Handle} {body : Guest.Function Code}
    {arguments : List Ref} {keywords : List (String × Ref)} (exact : world.Exact held)
    (found : world.get? callable = some (.boundMethod receiver function))
    (made : world.get? { callable with handle := function } = some (.function body))
    (given : ∀ ref ∈ arguments ++ keywords.map (·.2), ref ∈ held) :
    ∃ before, (∀ ref, before.get? ref = world.get? ref) ∧
      OneRun world before held (fun engine => engine.next.next.call callable.space callable arguments keywords) body.body
        { space := callable.space, bound? := body.bound.map fun handle => { callable with handle }
          arguments := { callable with handle := receiver } :: arguments, keywords } id := by
  let lent : List Ref := { callable with handle := receiver } :: arguments ++ [{ callable with handle := function }]
  have live : ∀ ref ∈ lent, world.Live ref := by
    intro ref member
    simp only [lent, List.cons_append, List.mem_cons, List.mem_append, List.not_mem_nil, or_false] at member
    rcases member with rfl | argument | rfl
    · exact exact.live_of_child found (by simp [Guest.Object.children])
    · exact exact.live (Multiset.mem_add.mpr (Or.inl (given ref (List.mem_append_left _ argument))))
    · exact exact.live_of_child found (by simp [Guest.Object.children])
  have framed : world.Exact (0 + held) := by rwa [zero_add]
  have taken := World.leads_retainAll .temporary framed live
  rw [add_zero] at taken
  have madeTaken : (world.retainAll lent).get? { callable with handle := function } = some (.function body) :=
    (world.get?_retainAll lent _).trans made
  have givenTaken : ∀ ref ∈ { callable with handle := receiver } :: arguments ++ keywords.map (·.2),
      ref ∈ (lent : Multiset Ref) + held := by
    intro ref member
    rcases List.mem_cons.mp member with rfl | listed
    · exact Multiset.mem_add.mpr (Or.inl List.mem_cons_self)
    · exact Multiset.mem_add.mpr (Or.inr (given ref listed))
  obtain ⟨before, same, once⟩ := exists_oneRun_function (taken.exact framed) madeTaken givenTaken
  refine ⟨before, fun ref => (same ref).trans (world.get?_retainAll lent ref), once.of_lending exact taken fun engine => ?_⟩
  exact run_call_boundMethod engine.next exact found arguments keywords rfl

theorem run_newInstance {type : Ref} {contents : Guest.TypeObject} (exact : world.Exact held)
    (found : world.get? type = some (.typeObject contents)) :
    ∃ made after, (ownedBy type.space do
        let type ← Guest.Space.acquire type.handle
        Guest.Space.allocate (.object { type, attributes := .empty })).run world = (.ok made, after) ∧
      made.space = type.space ∧ World.Leads .temporary (world, 0) (after, {made}) ∧ world.get? made = none ∧
      after.get? made = some (.object { type := type.handle, attributes := .empty }) ∧
      ∀ other, other ≠ made → after.get? other = world.get? other := by
  have started := exact.started_of_get? found
  have allocates : (do
      let type ← Guest.Space.acquire type.handle
      Guest.Space.allocate (.object { type, attributes := .empty }) : Guest.Op Code Handle).run (world.space type.space) =
      (Guest.Space.allocate (.object { type := type.handle, attributes := .empty })).run
        ((world.space type.space).retainAll [type.handle]) := by
    have acquired := Guest.Space.acquire_eq_ok.mpr ⟨⟨_, exact.object_eq_ok found⟩, rfl, rfl⟩
    rw [StateT.run_bind, acquired]
    rfl
  obtain ⟨made, after, ran, here, fresh, there⟩ := run_ownedBy_allocate exact started allocates
  have balanced : Act.Balanced .temporary [] 0 (ownedBy type.space do
      let type ← Guest.Space.acquire type.handle
      Guest.Space.allocate (.object { type, attributes := .empty })) ({·}) :=
    .ownedBy_counting (balanced_newInstance type.handle)
  have leads := balanced.leads_ok (by rwa [zero_add]) ran
  refine ⟨made, after, ran, here, leads, fresh, there, fun other different => ?_⟩
  have cells := (leads.cell?_of_new exact fresh there fun child member => ?_).2 other different
  · unfold World.cell? at cells
    rw [World.get?, World.get?, Guest.Heap.get?, Guest.Heap.get?, cells, Option.map_map]
    rfl
  · obtain rfl : child = type.handle := by simpa [Guest.Object.children, Bindings.values_empty] using member
    rw [here, found]
    rfl

theorem run_lookup {type : Ref} (name : String) {function : Handle} {object : Guest.Object Code} (exact : world.Exact held)
    (defines : (world.space type.space).lookup type.handle name = some function)
    (found : world.get? { type with handle := function } = some object) :
    ∃ after, (lookup type.space type name).run world = (.ok (some { type with handle := function }), after) ∧
      World.Leads .temporary (world, 0) (after, {{ type with handle := function }}) := by
  obtain ⟨after, ran, leads⟩ := run_acquire exact found
  refine ⟨after, ?_, leads⟩
  unfold lookup
  rw [run_get_bind, defines]
  exact run_bind_ok ran _

theorem run_instantiate {type : Ref} {contents : Guest.TypeObject} {function : Handle} {object : Guest.Object Code}
    (exact : world.Exact held) (found : world.get? type = some (.typeObject contents))
    (makes : contents.builtin = false ∨ contents.name = "object")
    (defines : (world.space type.space).lookup type.handle "__init__" = some function)
    (there : world.get? { type with handle := function } = some object) {arguments : List Ref}
    (given : ∀ ref ∈ arguments, ref ∈ held) (keywords : List (String × Ref)) :
    ∃ made between, made.space = type.space ∧ world.get? made = none ∧
      between.get? made = some (.object { type := type.handle, attributes := .empty }) ∧
      (∀ other, other ≠ made → between.get? other = world.get? other) ∧
      let lent : List Ref := made :: arguments ++ [{ type with handle := function }]
      World.Leads .temporary (world, 0) (between, {made} + (lent : Multiset Ref)) ∧
      ∀ engine : Engine, (engine.instantiate type.space type arguments keywords).run world =
        (((lending lent do
          let result ← engine.call type.space { type with handle := function } (made :: arguments) keywords
          change (·.release result)).onFailure (·.release made)) >>= fun _ => pure made).run between := by
  let initializer : Ref := { type with handle := function }
  have framed : world.Exact (0 + held) := by rwa [zero_add]
  have shown := exact.object_eq_ok found
  obtain ⟨looked, ranLookup, leadsLookup⟩ := run_lookup "__init__" exact defines there
  have exactLooked : looked.Exact ({initializer} + held) := leadsLookup.exact framed
  have sameLooked := leadsLookup.get?_of_old exact fun ref member => by
    obtain rfl := Multiset.mem_singleton.mp member
    rw [there]
    rfl
  obtain ⟨made, after, ranMade, here, leadsMade, fresh, new, others⟩ :=
    run_newInstance exactLooked ((sameLooked type).trans found)
  have leadsBoth := leadsLookup.follow exact leadsMade
  have exactAfter : after.Exact ({made} + {initializer} + held) := leadsBoth.exact framed
  have live : ∀ ref ∈ made :: arguments, after.Live ref := by
    intro ref member
    rcases List.mem_cons.mp member with rfl | argument
    · exact exactAfter.live (by simp)
    · exact exactAfter.live (by simp [given ref argument])
  have taken := World.leads_retainAll .temporary exactAfter live
  refine ⟨made, after.retainAll (made :: arguments), here, (sameLooked made).symm.trans fresh,
    (after.get?_retainAll _ _).trans new, fun other different => ?_, ?_, fun engine => ?_⟩
  · exact (after.get?_retainAll _ _).trans ((others other different).trans (sameLooked other))
  · have total : ((made :: arguments : List Ref) : Multiset Ref) + ({made} + {initializer}) =
        {made} + ((made :: arguments ++ [initializer] : List Ref) : Multiset Ref) := by
      rw [← Multiset.coe_add, Multiset.coe_singleton]
      ac_rfl
    rw [← total]
    exact leadsBoth.trans taken
  · have construction : (onView type.space (·.construction type.handle)).run world = (.ok .object, world) := by
      rw [run_onView, Guest.Space.construction_eq_object shown makes]
    unfold instantiate
    rw [run_bind_ok construction]
    simp only [ne_eq, not_true_eq_false, decide_false, Bool.and_false, Bool.false_eq_true, if_false]
    rw [run_bind_ok ranLookup]
    simp only [Option.isNone_some, Bool.false_and, Bool.false_eq_true, if_false]
    rw [run_bind_ok (run_onFailure_ok _ ranMade)]
    rfl

theorem run_call_type (engine : Engine) {type : Ref} {contents : Guest.TypeObject} (exact : world.Exact held)
    (found : world.get? type = some (.typeObject contents)) (arguments : List Ref) (keywords : List (String × Ref)) :
    (engine.next.call type.space type arguments keywords).run world =
      (engine.instantiate type.space type arguments keywords).run world := by
  have viewed : (onView type.space (·.callee type.handle)).run world = (.ok .typeObject, world) := by
    rw [run_onView, Guest.Space.callee, exact.object_eq_ok found]
    rfl
  show (engine.callObject engine.runCode type.space type arguments keywords).run world = _
  rw [callObject, run_bind_ok viewed]

theorem exists_oneRun_initializer {type : Ref} {contents : Guest.TypeObject} {function : Handle}
    {body : Guest.Function Code} {arguments : List Ref} {keywords : List (String × Ref)} (exact : world.Exact held)
    (found : world.get? type = some (.typeObject contents)) (makes : contents.builtin = false ∨ contents.name = "object")
    (defines : (world.space type.space).lookup type.handle "__init__" = some function)
    (there : world.get? { type with handle := function } = some (.function body))
    (given : ∀ ref ∈ arguments ++ keywords.map (·.2), ref ∈ held) :
    ∃ made before, made.space = type.space ∧ world.get? made = none ∧
      before.get? made = some (.object { type := type.handle, attributes := .empty }) ∧
      (∀ other, other ≠ made → before.get? other = world.get? other) ∧
      OneRun world before held (fun engine => engine.next.next.call type.space type arguments keywords) body.body
        { space := type.space, bound? := body.bound.map fun handle => { type with handle }
          arguments := made :: arguments, keywords } fun _ => made := by
  obtain ⟨made, between, here, fresh, new, others, leads, ranInstance⟩ := run_instantiate exact found makes defines there
    (fun ref member => given ref (List.mem_append_left _ member)) keywords
  let initializer : Ref := { type with handle := function }
  let lent : List Ref := made :: arguments ++ [initializer]
  have exactBetween : between.Exact ({made} + (lent : Multiset Ref) + held) := leads.exact (by rwa [zero_add])
  have apart : initializer ≠ made := by
    rintro rfl
    cases fresh.symm.trans there
  have givenBetween : ∀ ref ∈ made :: arguments ++ keywords.map (·.2), ref ∈ {made} + (lent : Multiset Ref) + held := by
    intro ref member
    rcases List.mem_cons.mp member with rfl | listed
    · simp
    · simp [given ref listed]
  obtain ⟨before, same, taken, returned, later, holds, accounts, ran⟩ :=
    exists_oneRun_function exactBetween ((others _ apart).trans there) givenBetween
  refine ⟨made, before, here, fresh, (same made).trans new, fun other different => (same other).trans (others other different),
    taken + ({made} + (lent : Multiset Ref)),
    fun outcome => returned outcome ++ (outcome.toOption.map (· :: lent)).getD (lent ++ [made]),
    leads.follow exact later, ?_, fun outcome => ?_, fun engine => ?_⟩
  · rwa [add_assoc]
  · have total := accounts outcome
    rw [Except.map_id, id] at total
    cases outcome with
    | ok result =>
      have split : ((returned (.ok result) ++ result :: lent : List Ref) : Multiset Ref) =
          (returned (.ok result) : Multiset Ref) + ({result} + (lent : Multiset Ref)) := rfl
      simp only [left_ok, Except.map, Except.toOption, Option.map_some, Option.getD_some] at total ⊢
      rw [split, ← add_assoc, total]
      ac_rfl
    | error exception =>
      have split : ((returned (.error exception) ++ (lent ++ [made]) : List Ref) : Multiset Ref) =
          (returned (.error exception) : Multiset Ref) + ((lent : Multiset Ref) + {made}) := rfl
      simp only [left_error, Except.map, Except.toOption, Option.map_none, Option.getD_none] at total ⊢
      rw [split, ← add_assoc, total]
      ac_rfl
  · rw [run_call_type engine.next exact found, ranInstance]
    rcases served : (engine.runCode body.body { space := type.space, bound? := body.bound.map fun handle => { type with handle }
                                                arguments := made :: arguments, keywords }).run before
      with ⟨exception | result, last⟩
    · have called : (engine.next.call type.space initializer (made :: arguments) keywords).run between =
          (.error exception, last.releaseAll (returned (.error exception))) := by
        rw [ran, served]
        rfl
      refine (run_bind_error (run_onFailure_error _ (run_lending_of (run_bind_error called _) lent)) _).trans ?_
      simp only [Except.map, Except.toOption, Option.map_none, Option.getD_none, ← World.releaseAll_append]
      rfl
    · have called : (engine.next.call type.space initializer (made :: arguments) keywords).run between =
          (.ok result, last.releaseAll (returned (.ok result))) := by
        rw [ran, served]
        rfl
      refine (run_bind_ok (run_onFailure_ok _ (run_lending_of (run_bind_ok called _) lent)) _).trans ?_
      simp only [Except.map, Except.toOption, Option.map_some, Option.getD_some, ← World.releaseAll_append]
      rfl

end Engine

namespace Registry

inductive Underlies (world : World) (callable : Ref) : Ref → Prop
  | function : Underlies world callable callable
  | method {receiver function : Handle} (found : world.get? callable = some (.boundMethod receiver function)) :
      Underlies world callable { callable with handle := function }
  | initializer {contents : Guest.TypeObject} {function : Handle}
      (found : world.get? callable = some (.typeObject contents))
      (makes : contents.builtin = false ∨ contents.name = "object")
      (defines : (world.space callable.space).lookup callable.handle "__init__" = some function) :
      Underlies world callable { callable with handle := function }

inductive Begins (world before : World) (callable : Ref) : (Engine → Engine) → List Ref → (Ref → Ref) → Prop
  | function {code : Guest.Function Code} (found : world.get? callable = some (.function code))
      (same : ∀ ref, before.get? ref = world.get? ref) : Begins world before callable (·.next) [] id
  | method {receiver function : Handle} (found : world.get? callable = some (.boundMethod receiver function))
      (same : ∀ ref, before.get? ref = world.get? ref) :
      Begins world before callable (·.next.next) [{ callable with handle := receiver }] id
  | initializer {contents : Guest.TypeObject} {made : Ref} (found : world.get? callable = some (.typeObject contents))
      (here : made.space = callable.space) (fresh : world.get? made = none)
      (new : before.get? made = some (.object { type := callable.handle, attributes := .empty }))
      (same : ∀ ref, ref ≠ made → before.get? ref = world.get? ref) :
      Begins world before callable (·.next.next) [made] fun _ => made

def DeliversOnce (world : World) (held : Multiset Ref) (callable : Ref) (code : Guest.Function Code)
    (arguments : List Ref) : Prop :=
  ∃ positionals keywords before outer first answer,
    Delivers world callable.space arguments positionals keywords ∧ Begins world before callable outer first answer ∧
    let call (engine : Engine) := callWithArguments (outer engine) callable.space callable arguments
    let invocation : Invocation :=
      { space := callable.space, bound? := code.bound.map fun handle => { callable with handle }
        arguments := first ++ positionals, keywords }
    Engine.OneRun world before held call code.body invocation answer ∧
    ∀ engine : Engine, engine.Balanced → ∀ ref ∈ held,
      ((call engine).run world).2.get? ref = ((engine.runCode code.body invocation).run before).2.get? ref

/-- Whatever is called by the convention, the one body that is run for it gets every argument once, in every world that
is come to. -/
theorem arguments_delivered_once {world : World} {held : Multiset Ref} (reached : world.Reached held)
    {callable function : Ref} {code : Guest.Function Code} (underlies : Underlies world callable function)
    (runs : world.get? function = some (.function code)) {arguments : List Ref}
    (given : ∀ ref ∈ arguments, ref ∈ held ∧ ref.space = callable.space) :
    DeliversOnce world held callable code arguments := by
  have exact := reached.exact
  obtain ⟨positionals, keywords, delivers, between, leads, same, listed, ran⟩ := exists_hands exact given
  have exactBetween : between.Exact (((keywords.map (·.2) : List Ref) : Multiset Ref) + held) :=
    leads.exact (by rwa [zero_add])
  have givenBetween : ∀ ref ∈ positionals ++ keywords.map (·.2),
      ref ∈ ((keywords.map (·.2) : List Ref) : Multiset Ref) + held := by
    intro ref member
    rcases List.mem_append.mp member with positional | keyword
    · exact Multiset.mem_add.mpr (Or.inr (listed ref positional))
    · exact Multiset.mem_add.mpr (Or.inl keyword)
  have runsThen := (same function).trans runs
  cases underlies with
  | function =>
    obtain ⟨before, sameBefore, once⟩ := Engine.exists_oneRun_function exactBetween runsThen givenBetween
    have whole := once.of_lending exact leads fun engine => ran engine.next
    exact ⟨positionals, keywords, before, _, [], id, delivers,
      .function runs fun ref => (sameBefore ref).trans (same ref), whole, fun engine balanced ref => whole.keeps exact balanced⟩
  | method found =>
    obtain ⟨before, sameBefore, once⟩ :=
      Engine.exists_oneRun_method exactBetween ((same callable).trans found) runsThen givenBetween
    have whole := once.of_lending exact leads fun engine => ran engine.next.next
    exact ⟨positionals, keywords, before, _, _, id, delivers, .method found fun ref => (sameBefore ref).trans (same ref),
      whole, fun engine balanced ref => whole.keeps exact balanced⟩
  | initializer found makes defines =>
    have grown := (leads.extends exact).spaces callable.space
    have closed := (exact.spaces callable.space).closed (reached.leads.typed (World.typed_empty _))
    have definesThen := (closed.lookup_eq grown.sameTypes ⟨_, found⟩ "__init__").trans defines
    obtain ⟨made, before, here, fresh, new, others, once⟩ := Engine.exists_oneRun_initializer exactBetween
      ((same callable).trans found) makes definesThen runsThen givenBetween
    have whole := once.of_lending exact leads fun engine => ran engine.next.next
    exact ⟨positionals, keywords, before, _, _, _, delivers, .initializer found here ((same made).symm.trans fresh) new
      fun ref different => (others ref different).trans (same ref), whole, fun engine balanced ref => whole.keeps exact balanced⟩

/-- The initializer of a type gets the one argument before the dict, and the dict stands for keyword arguments. -/
theorem arguments_delivered_once_initializer :
    let world := Console.after (.ofDepth 1) [Console.opening "s",
      { action := .guest (.function "f" .keywords none), place := some "s", host := "", result := some "function"
        keyed := false },
      { action := .guest (.newType "T" [] [("__init__", .register "function")]), place := some "s", host := ""
        result := some "type", keyed := false },
      { action := .guest (.value (.text "x")), place := some "s", host := "", result := some "first", keyed := false },
      { action := .guest (.value (.dict [("kwargs", .none), ("k", .text "y")])), place := some "s", host := ""
        result := some "dict", keyed := false }] .empty
    ∃ type function first dict code, world.registerValue? "type" = some type ∧
      world.registerValue? "function" = some function ∧ world.registerValue? "first" = some first ∧
      world.registerValue? "dict" = some dict ∧
      let held := world.retainAll [first, dict]
      (∃ contents, held.get? type = some (.typeObject contents)) ∧ held.get? function = some (.function code) ∧
        (∃ entries, held.get? dict = some (.dict entries) ∧ (entries.get? keywordMarker).isSome) ∧
        DeliversOnce held {first, dict} type code [first, dict] := by
  intro world
  let value (register : String) : Ref := (world.registerValue? register).getD default
  let held := world.retainAll [value "first", value "dict"]
  obtain ⟨found, initialized, there, marked, live, here⟩ :
      (∀ register ∈ ["type", "function", "first", "dict"], world.registerValue? register = some (value register)) ∧
      ((held.get? (value "type")).map (·.kind) = some .typeObject ∧
        ((held.get? (value "type")).bind Guest.Space.settable).isSome ∧
        (held.space (value "type").space).lookup (value "type").handle "__init__" = some (value "function").handle) ∧
      (held.get? (value "function")).map (·.kind) = some .function ∧
      (((held.space (value "dict").space).entries (value "dict").handle).toOption.any fun entries =>
        (entries.get? keywordMarker).isSome) = true ∧
      (∀ ref ∈ [value "first", value "dict"], (world.get? ref).isSome) ∧
      ∀ register ∈ ["function", "first", "dict"], (value register).space = (value "type").space := by
    decide +kernel
  have reached : held.Reached ((([value "first", value "dict"] : List Ref) : Multiset Ref) + 0) := by
    refine World.Reached.retainAll (Console.reached_after 1 _) fun ref member => ?_
    obtain ⟨object, there⟩ := Option.isSome_iff_exists.mp (live ref member)
    exact World.live_of_get? there
  rw [add_zero] at reached
  clear_value value world
  obtain ⟨isType, custom, defines⟩ := initialized
  obtain ⟨type, shown, isType⟩ := Option.map_eq_some_iff.mp isType
  obtain ⟨code, runs, isFunction⟩ := Option.map_eq_some_iff.mp there
  cases type with
  | typeObject contents =>
    cases code with
    | function code =>
      rcases listed : (held.space (value "dict").space).entries (value "dict").handle with exception | entries
      all_goals rw [listed] at marked
      · cases marked
      have builtin : contents.builtin = false := by
        rw [shown] at custom
        simpa [Guest.Space.settable] using custom
      have underlies : Underlies held (value "type") (value "function") := by
        have same : value "function" = { space := (value "type").space, handle := (value "function").handle } := by
          rw [← here "function" (by simp)]
        rw [same]
        exact .initializer shown (Or.inl builtin) defines
      have dict := (Guest.Space.object_eq_ok.mp (Guest.Space.entries_eq_ok.mp listed)).2
      refine ⟨_, _, _, _, code, found _ (by simp), found _ (by simp), found _ (by simp), found _ (by simp),
        ⟨contents, shown⟩, runs, ⟨entries, dict, marked⟩, ?_⟩
      refine arguments_delivered_once reached underlies runs fun ref member => ⟨member, ?_⟩
      rcases List.mem_pair.mp member with rfl | rfl
      · exact here "first" (by simp)
      · exact here "dict" (by simp)
    | _ => cases isFunction
  | _ => cases isType

end Registry

end ObjectBridge

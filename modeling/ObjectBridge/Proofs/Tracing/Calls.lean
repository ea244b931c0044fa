import ObjectBridge.Proofs.Tracing.Acts
import ObjectBridge.Proofs.World.Ended

/-!
Calls and imports in twin worlds. If an engine agrees with itself whatever it calls, then so do the operations
that use it, as long as they neither read the flag nor replace the function that sets it.
-/

namespace ObjectBridge

open Guest (Handle)

/-- In twin worlds the engine comes to the same, whatever it is given to call or to send. -/
structure Engine.Agrees (flag : Flag) (engine : Engine) : Prop where
  call : ∀ {borrowed : List Ref} (space : SpaceId) (callable : Ref) (arguments : List Ref)
    (keywords : List (String × Ref)), (∀ ref ∈ arguments, ref ∈ borrowed) →
    (∀ keyword ∈ keywords, keyword.2 ∈ borrowed) →
    Act.Agrees flag borrowed 0 (engine.call space callable arguments keywords)
      (engine.call space callable arguments keywords) ({·})
  send : ∀ {borrowed : List Ref} (host : Host.HostId) (receiver : HostValue) (name : String)
    (arguments : List HostValue),
    Act.Agrees flag borrowed 0 (engine.send host receiver name arguments)
      (engine.send host receiver name arguments) fun _ => 0

namespace Act

variable {flag : Flag} {borrowed : List Ref} {space : SpaceId}

theorem agrees_getattr (target : Ref) {name : String} (other : name ≠ Registry.debugGlobal) :
    Agrees flag borrowed 0 (getattr space target name) (getattr space target name) ({·}) :=
  .ownedBy (Guest.Space.balanced_getattr .lasting target.handle name)
    (Guest.Space.follows_getattr target.handle other).agrees

theorem agrees_setattr (target : Ref) {name : String} (other : name ≠ Registry.Service.debugOn.name) (value : Ref) :
    Agrees flag borrowed 0 (setattr space target name value) (setattr space target name value) fun _ => 0 :=
  .onSpace (Guest.Space.balanced_setattr target.handle name value.handle)
    (Guest.Space.agrees_setattr target.handle
      (fun _ fixed same => other (same.symm.trans (Flag.name_of_fixture fixed))) value.handle)

theorem agrees_lookup (type : Ref) (name : String) :
    Agrees flag borrowed 0 (lookup space type name) (lookup space type name)
      fun found => (found.toList : Multiset Ref) := by
  refine .get_bind fun world world' frame twins lent => ?_
  rw [(twins.alike.spaces space).lookup]
  cases (world.space space).lookup type.handle name with
  | none => exact .pure (by simpa using twins)
  | some handle =>
    have found : Agrees flag borrowed 0 (ownedBy space (Guest.Space.acquire handle)) (ownedBy space _) ({·}) :=
      .ownedBy (Guest.Space.balanced_acquire .lasting handle) (Guest.Space.follows_acquire handle).agrees
    exact (found world world' frame twins lent).bind fun _ _ _ _ _ twins => .pure twins

theorem agrees_dictGet (dict : Ref) (key : String) :
    Agrees flag borrowed 0 (dictGet space dict key) (dictGet space dict key)
      fun found => (found.toList : Multiset Ref) :=
  (Agrees.onSpace (Guest.Space.balanced_dictGet .lasting dict.handle key)
    (Guest.Space.follows_dictGet dict.handle key).agrees).bind fun found => .pure (by cases found <;> simp)

end Act

namespace Engine

open Act

variable {flag : Flag} {engine : Engine} (agrees : engine.Agrees flag) {borrowed : List Ref} {space : SpaceId}
include agrees

theorem agrees_callMethod (target : Ref) {name : String} (other : name ≠ Registry.debugGlobal) {arguments : List Ref}
    (lent : ∀ ref ∈ arguments, ref ∈ borrowed) :
    Act.Agrees flag borrowed 0 (engine.callMethod space target name arguments)
      (engine.callMethod space target name arguments) ({·}) := by
  refine (agrees_getattr target other).bind fun method => ?_
  refine (agrees.call space method arguments [] (fun ref member => ?_) (List.forall_mem_nil _)).lending rfl
  exact List.mem_append_right _ (lent ref member)

theorem agrees_str (value : Ref) (lent : value ∈ borrowed) :
    Act.Agrees flag borrowed 0 (engine.str space value) (engine.str space value) fun _ => 0 := by
  have plain {lends : List Ref} :
      Act.Agrees flag lends 0 (onView space (·.plainText value.handle))
        (onView space (·.plainText value.handle)) fun _ => 0 :=
    .onView fun _ _ like => like.plainText value.handle
  unfold str
  refine (Agrees.kindOf value).bind fun kind => ?_
  split
  · refine (Agrees.ownedBy ?_ ?_).bind fun type => ?_
    · exact Guest.Op.Balanced.read.bind fun type => Guest.Space.balanced_acquire .lasting type
    · exact ((Guest.Op.Follows.read fun _ _ like => like.typeOf value.handle).bind fun type =>
        Guest.Space.follows_acquire type).agrees
    · refine Agrees.bind (?_ : Act.Agrees _ _ _ _ _ fun _ => 0) fun own => ?_
      · refine Agrees.lending ?_ rfl
        refine (agrees_lookup type "__str__").bind fun method => ?_
        cases method with
        | none => exact .pure rfl
        | some method =>
          refine Agrees.lending ?_ rfl
          refine (agrees.call space method [value] [] ?_ (List.forall_mem_nil _)).bind fun result => ?_
          · simpa using Or.inr (Or.inr lent)
          · refine Agrees.lending ?_ rfl
            refine (Agrees.textOf result).bind fun text => ?_
            cases text with
            | none => exact .throw _
            | some text => exact .pure rfl
      · cases own with
        | none => exact plain
        | some text => exact .pure rfl
  · exact plain

theorem agrees_callInit (made initializer : Ref) {arguments : List Ref}
    {keywords : List (String × Ref)} (lentKeywords : ∀ keyword ∈ keywords, keyword.2 ∈ borrowed) :
    let called := (lending (made :: arguments ++ [initializer]) do
        let result ← engine.call space initializer (made :: arguments) keywords
        change (·.release result)).onFailure (·.releaseAll [made])
    Act.Agrees flag borrowed ({made} + ((made :: arguments ++ [initializer] : List Ref) : Multiset Ref)) called called
      fun _ => {made} := by
  refine (Agrees.onFailureOwned (Agrees.lending ?_ rfl) rfl).congr rfl fun _ => (add_zero _).symm
  refine (agrees.call space initializer _ _ (fun ref member => ?_) fun keyword member => ?_).bind
    fun result => .release result
  · exact List.mem_append_left _ (List.mem_append_left _ member)
  · exact List.mem_append_right _ (List.mem_append_right _ (lentKeywords keyword member))

theorem agrees_initialize (made initializer : Ref) {arguments : List Ref} {keywords : List (String × Ref)}
    (lent : ∀ ref ∈ arguments, ref ∈ borrowed) (lentKeywords : ∀ keyword ∈ keywords, keyword.2 ∈ borrowed) :
    let initialized : GuestAct Ref := do
      change (·.retainAll (made :: arguments))
      (lending (made :: arguments ++ [initializer]) do
        let result ← engine.call space initializer (made :: arguments) keywords
        change (·.release result)).onFailure (·.releaseAll [made])
      return made
    Act.Agrees flag borrowed ({initializer} + {made}) initialized initialized ({·}) := by
  refine (Agrees.retainAll fun ref member => ?_).bind fun _ => ?_
  · rcases List.mem_cons.mp member with rfl | argument
    · simp
    · exact Or.inl (lent ref argument)
  · refine ((agrees_callInit agrees made initializer lentKeywords).congr ?_ fun _ => rfl).bind fun _ => .pure rfl
    rw [← Multiset.coe_add, ← add_assoc]
    exact add_comm _ _

theorem agrees_instantiate (type : Ref) {arguments : List Ref} {keywords : List (String × Ref)}
    (lent : ∀ ref ∈ arguments, ref ∈ borrowed) (lentKeywords : ∀ keyword ∈ keywords, keyword.2 ∈ borrowed) :
    Act.Agrees flag borrowed 0 (engine.instantiate space type arguments keywords)
      (engine.instantiate space type arguments keywords) ({·}) := by
  have newText (lends : List Ref) (text : String) :
      Act.Agrees flag lends 0 (ownedBy space (Guest.Space.newText text))
        (ownedBy space (Guest.Space.newText text)) ({·}) :=
    .ownedBy (Guest.Space.balanced_newText .lasting text) (Guest.Space.follows_allocate _).agrees
  have named (lends : List Ref) : Act.Agrees flag lends 0 (onView space (·.typeName type.handle))
      (onView space (·.typeName type.handle)) fun _ => 0 := .onView fun _ _ like => like.typeName type.handle
  unfold instantiate
  refine (Agrees.onView fun _ _ like => like.construction type.handle).bind fun construction => ?_
  -- Keyword arguments are refused before anything is made.
  extract_lets make
  suffices made : Act.Agrees flag borrowed 0 (make ()) (make ()) ({·}) by
    split
    · exact (named _).bind fun name => .throw_bind _ _ _
    · exact made
  cases construction with
  | str =>
    rcases arguments with _ | ⟨value, _ | ⟨other, rest⟩⟩
    · exact newText _ ""
    · exact (agrees_str agrees value (lent value (by simp))).bind fun text => newText _ text
    · exact .throw _
  | tuple =>
    rcases arguments with _ | ⟨value, _ | ⟨other, rest⟩⟩
    · exact .ownedBy (Guest.Space.balanced_newTuple .lasting []) (Guest.Space.follows_newTuple []).agrees
    · refine (Agrees.kindOf value).bind fun kind => ?_
      split
      · exact (Agrees.retain (lent value (by simp))).bind fun _ => .pure rfl
      · exact .throw _
    · exact .throw _
  | object =>
    refine (agrees_lookup type "__init__").bind fun initializer => ?_
    have made (lends : List Ref) : Act.Agrees flag lends 0 (ownedBy space do
        let type ← Guest.Space.acquire type.handle
        Guest.Space.allocate (.object { type, attributes := .empty })) (ownedBy space _) ({·}) :=
      .ownedBy (balanced_newInstance type.handle)
        ((Guest.Space.follows_acquire type.handle).bind fun type => Guest.Space.follows_allocate _).agrees
    extract_lets make
    suffices made : Act.Agrees flag borrowed (initializer.toList : Multiset Ref) (make ()) (make ()) ({·}) by
      split
      · rename_i refused
        obtain ⟨absent, -⟩ := by simpa using refused
        rw [absent]
        exact (named _).bind fun name => .throw_bind _ _ _
      · exact made
    refine (made _).onFailure.bind fun instanceRef => ?_
    cases initializer with
    | none => exact .pure (by simp)
    | some initializer => exact agrees_initialize agrees instanceRef initializer lent lentKeywords

theorem agrees_callObject {run : Code → Invocation → GuestAct Ref}
    (runs : ∀ (lends : List Ref) (code : Code) (invocation : Invocation),
      (∀ ref ∈ invocation.bound?.toList ++ invocation.arguments ++ invocation.keywords.map (·.2), ref ∈ lends) →
        Act.Agrees flag lends 0 (run code invocation) (run code invocation) ({·}))
    (callable : Ref) {arguments : List Ref} {keywords : List (String × Ref)}
    (lent : ∀ ref ∈ arguments, ref ∈ borrowed) (lentKeywords : ∀ keyword ∈ keywords, keyword.2 ∈ borrowed) :
    Act.Agrees flag borrowed 0 (engine.callObject run space callable arguments keywords)
      (engine.callObject run space callable arguments keywords) ({·}) := by
  intro world world' frame twins lentNow
  rw [zero_add] at twins
  refine .onView_bind twins ((twins.alike.spaces space).callee callable.handle) fun callee found => ?_
  have held (ref : Ref) (listed : ref ∈ arguments) : world.Live ref :=
    twins.exact.live (Multiset.mem_add.mpr (Or.inl (lentNow ref (lent ref listed))))
  have heldKeyword (ref : Ref) (listed : ref ∈ keywords.map (·.2)) : world.Live ref := by
    obtain ⟨keyword, member, rfl⟩ := List.mem_map.mp listed
    exact twins.exact.live (Multiset.mem_add.mpr (Or.inl (lentNow _ (lentKeywords keyword member))))
  cases callee with
  | native body bound =>
    obtain ⟨name, here⟩ := Guest.Space.object_of_callee found
    refine Agrees.lendingNew (runs _ body _ fun ref member => List.mem_append_left _ member) twins lentNow
      fun ref member => ?_
    rcases List.mem_append.mp member with member | keyword
    · rcases List.mem_append.mp member with state | argument
      · obtain ⟨handle, bound, rfl⟩ := Option.map_eq_some_iff.mp (Option.mem_toList.mp state)
        refine twins.exact.live_of_child (Guest.Space.object_eq_ok.mp here).2 ?_
        simpa [Guest.Object.children] using bound
      · exact held ref argument
    · exact heldKeyword ref keyword
  | method receiver function =>
    have here := (Guest.Space.object_eq_ok.mp (Guest.Space.object_of_callee found)).2
    refine Agrees.lendingNew (agrees.call _ _ _ _ ?_ ?_) twins lentNow fun ref member => ?_
    · exact fun ref member => List.mem_append_left _ (List.mem_append_left _ member)
    · exact fun keyword member => List.mem_append_right _ (lentKeywords keyword member)
    · rcases List.mem_append.mp member with first | last
      · rcases List.mem_cons.mp first with rfl | argument
        · exact twins.exact.live_of_child here (by simp [Guest.Object.children])
        · exact held ref argument
      · obtain rfl := List.mem_singleton.mp last
        exact twins.exact.live_of_child here (by simp [Guest.Object.children])
  | typeObject =>
    exact agrees_instantiate agrees callable lent lentKeywords world world' frame (by rwa [zero_add]) lentNow

theorem agrees_runInitializer (module : Ref) (initializer : Guest.Initializer Code) :
    Act.Agrees flag borrowed 0 (engine.runInitializer space module initializer)
      (engine.runInitializer space module initializer) fun _ => 0 := by
  cases initializer with
  | run body =>
    refine (Agrees.ownedBy (Guest.Space.balanced_newFunction .lasting "init" _ body)
      (Guest.Space.follows_newFunction "init" _ body).agrees).bind fun function => ?_
    refine Agrees.lending ?_ rfl
    exact (agrees.call space function [] [] (List.forall_mem_nil _) (List.forall_mem_nil _)).bind fun result =>
      .release result
  | registry =>
    refine (Agrees.ownedBy (Guest.Space.balanced_allocate .lasting (.dict .empty))
      (Guest.Space.follows_allocate _).agrees).bind fun registry => ?_
    refine Agrees.lending ?_ rfl
    refine (agrees_setattr module (by decide) registry).bind fun _ => ?_
    refine (Agrees.ownedBy (Guest.Space.balanced_boolValue .lasting false)
      (Guest.Space.follows_boolValue false).agrees).bind fun flag => ?_
    exact (agrees_setattr module (by decide) flag).lending rfl

omit agrees in
theorem twins_undoImport {name : String} {module : Ref} {world world' : World} {frame : Multiset Ref}
    (twins : world.Twins flag ({module} + frame) world')
    (other : ∀ fixture ∈ (flag.at space).fixture, fixture.moduleName ≠ name) :
    ((world.updateSpace space (·.forgetModule name)).release module).Twins flag frame
      ((world'.updateSpace space (·.forgetModule name)).release module) := by
  have forgotten {world : World} (exact : world.Exact ({module} + frame)) :
      World.Leads .lasting (world, 0) (world.updateSpace space (·.forgetModule name), 0) :=
    World.leads_updateSpace (Guest.Space.path_forgetModule name (exact.spaces space))
  obtain ⟨exact, exact'⟩ := twins.exact_space space
  have alike : (world.updateSpace space (·.forgetModule name)).Alike flag
      (world'.updateSpace space (·.forgetModule name)) :=
    twins.alike.updateSpace ((twins.alike.spaces space).forgetModule exact exact' other)
  have framed : world.Twins flag (0 + ({module} + frame)) world' := by rwa [zero_add]
  have ended := framed.of_leads (forgotten twins.exact) (forgotten twins.exact') alike
  rw [zero_add, Multiset.singleton_add] at ended
  exact ended.release

omit agrees in
theorem run_importedModule_none {name : String} {world after : World}
    (ran : (onSpace space (Guest.Space.importedModule name)).run world = (.ok none, after)) :
    (world.space space).modules.get? name = none ∧ after = world := by
  rw [run_onSpace] at ran
  split at ran
  · rename_i value heap looked
    obtain ⟨same, rfl⟩ := Prod.mk.inj ran
    obtain rfl := Except.ok.inj same
    obtain ⟨free, rfl⟩ := Guest.Space.importedModule_eq_none looked
    exact ⟨free, by simp only [World.setSpace_self]⟩
  · cases (Prod.mk.inj ran).1

theorem agrees_importModule (name : String) :
    Act.Agrees flag borrowed 0 (engine.importModule space name) (engine.importModule space name) ({·}) := by
  intro world world' frame twins lent
  have imported : Act.Agrees flag borrowed 0 (onSpace space (Guest.Space.importedModule name)) (onSpace space _) _ :=
    .onSpace (Guest.Space.balanced_importedModule .lasting name) (Guest.Space.follows_importedModule name).agrees
  refine (imported world world' frame twins lent).bind fun found after after' ran ran' looked => ?_
  cases found with
  | some handle => exact .pure (by simpa using looked)
  | none =>
    -- The lists are as they were, so the name is free.
    obtain ⟨free, rfl⟩ := run_importedModule_none ran
    obtain ⟨-, rfl⟩ := run_importedModule_none ran'
    rw [zero_add] at twins
    have like := twins.alike.spaces space
    refine .get_bind ?_
    rw [like.definitions, twins.alike.catalogue]
    cases ((after.space space).definitions.get? name).or (after.catalogue.get? name) with
    | none => exact .throw _ twins
    | some definition =>
      obtain ⟨exact, exact'⟩ := twins.exact_space space
      have settles {world : World} {held : Multiset Handle} (exact : (world.space space).Exact held)
          (free : (world.space space).modules.get? name = none) :
          Settles .lasting world 0 (onSpace space (Guest.Space.createModule name definition)) _ :=
        .onSpace (fun _ _ ran => Guest.Space.path_createModule exact free ran)
          fun _ exact typed _ _ ran => Guest.Space.wellTyped_createModule exact typed ran
      have created := Meets.onSpace twins (settles exact free) (settles exact' (like.modules ▸ free))
        (Guest.Space.agrees_createModule definition exact exact' like free)
      have owned : Meets flag frame after after' (ownedBy space (Guest.Space.createModule name definition))
          (ownedBy space (Guest.Space.createModule name definition)) ({·}) :=
        created.bind fun module _ _ _ _ twins => .pure (by simpa using twins)
      refine owned.bind fun module made made' ran ran' twins => ?_
      -- The name was free, so the module that is undone is not the one with the flag.
      have other : ∀ fixture ∈ (flag.at space).fixture, fixture.moduleName ≠ name := by
        rintro fixture fixed rfl
        rcases ended : (after.space space).roots with _ | roots
        · rw [run_ownedBy_refused (Guest.Space.refuses_createModule _ definition) ended] at ran
          cases (Prod.mk.inj ran).1
        · have listed := (like.fixes fixture fixed (by simp [ended])).listed fixture.moduleName
          rw [free] at listed
          cases listed.mpr rfl
      have initialized : Act.Agrees flag ([module] ++ borrowed) 0
          (definition.initializers.forM (engine.runInitializer space module))
          (definition.initializers.forM (engine.runInitializer space module)) fun _ => 0 :=
        .forM fun initializer _ => agrees_runInitializer agrees module initializer
      have undone := initialized.onFailureUndo (add_zero _).symm fun _ _ _ twins => twins_undoImport twins other
      exact (undone made made' frame twins lent).bind fun _ _ _ _ _ twins => .pure twins

end Engine

end ObjectBridge

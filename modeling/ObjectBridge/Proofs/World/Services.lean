import ObjectBridge.Proofs.World.Modules
import ObjectBridge.Registry.Serve

/-!
Balance of the services of a module. What a service looks up or makes on the way is given back by it; what
it keeps in the registry is referred to by the dict.
-/

namespace ObjectBridge

open Guest (Extent Handle)

namespace Invocation

theorem balanced_textArgument [World.Passing] {extent : Extent} {borrowed : List Ref} (invocation : Invocation)
    (index : Nat) : Act.Balanced extent borrowed 0 (invocation.textArgument index) fun _ => 0 := by
  refine (Act.Balanced.lift _).bind fun ref => ?_
  refine (Act.Balanced.view _).bind fun text => ?_
  cases text with
  | some text => exact .pure rfl
  | none => exact (Act.Balanced.view _).bind fun kind => .throw _

end Invocation

namespace Registry

open Act

section Names

variable [World.Passing] {extent : Extent} {borrowed : List Ref}

theorem balanced_followAttributes (space : SpaceId) (name : String) (current : Ref)
    (segments : List String) :
    Balanced extent borrowed {current} (followAttributes space name current segments) ({·}) := by
  induction segments generalizing current with
  | nil => exact .pure rfl
  | cons segment rest ih =>
    refine Balanced.bind (?_ : Balanced _ _ _ _ ({·})) fun next => ih next
    refine Balanced.lending ?_ rfl
    refine (Balanced.onView _).bind fun names => ?_
    refine (Balanced.lift _).bind fun found => ?_
    cases found with
    | some found => exact balanced_getattr current found
    | none => exact .throw _

theorem balanced_builtinOf (space : SpaceId) (name : String) :
    Balanced extent borrowed 0 (builtinOf space name) ({·}) := by
  refine (Balanced.lift _).bind fun found => .get_bind fun world frame exact lent => ?_
  cases found.bind (world.space space).builtin? with
  | some handle => exact Balanced.ownedBy (Guest.Space.balanced_acquire extent handle) world frame exact lent
  | none => exact .throw _

theorem balanced_resolve (space : SpaceId) (module : Ref) (name : String) :
    Balanced extent borrowed 0 (resolve space module name) ({·}) := by
  unfold resolve
  extract_lets segments proceed
  suffices proceeds : Balanced extent borrowed 0 (proceed ()) ({·}) by
    split
    · exact .throw_bind _ _
    · exact proceeds
  refine (Balanced.onView _).bind fun globals => ?_
  refine (Balanced.lift _).bind fun found => ?_
  cases found with
  | some found =>
    exact (balanced_getattr module found.1).bind fun start =>
      balanced_followAttributes space name start (segments.drop found.2)
  | none =>
    exact (balanced_builtinOf space _).bind fun start =>
      balanced_followAttributes space name start (segments.drop 1)

end Names

def textItem (role : String) (item : Ref) : GuestAct String := do
  match ← textOf item with
  | some text => return text
  | none => throw (.stringExpected role)

theorem references_partition (test : String × Ref → Bool) (pairs : List (String × Ref)) :
    ((pairs.map (·.2) : List Ref) : Multiset Ref) =
      (((pairs.partition test).1.map (·.2) : List Ref) : Multiset Ref) +
        (((pairs.partition test).2.map (·.2) : List Ref) : Multiset Ref) := by
  rw [List.partition_eq_filter_filter, Multiset.coe_add, ← List.map_append]
  exact Multiset.coe_eq_coe.mpr ((List.filter_append_perm test pairs).map _).symm

section Keeping

variable [World.Passing] {borrowed : List Ref}

theorem balanced_traceLine {extent : Extent} {owned : Multiset Ref} (invocation : Invocation) (line : String) :
    Balanced extent borrowed owned (traceLine invocation line) fun _ => owned := by
  refine .trace fun world => ?_
  split
  · split
    · exact ⟨_, rfl⟩
    · exact ⟨world.trace, rfl⟩
  · exact ⟨world.trace, rfl⟩

theorem balanced_registryOf (invocation : Invocation) :
    Balanced .lasting borrowed 0 (registryOf invocation) ({·}) :=
  (Balanced.lift _).bind fun module => balanced_getattr module registryGlobal

theorem balanced_keep (invocation : Invocation) (value : Ref) :
    Balanced .lasting borrowed 0 (keep invocation value) ({·}) := by
  refine (balanced_registryOf invocation).bind fun registry => ?_
  refine Balanced.bind (Balanced.lending (Balanced.onSpace (Guest.Space.balanced_dictSet _ _ _)) rfl) fun _ => ?_
  exact (balanced_traceLine invocation _).bind fun _ => .ownedBy (Guest.Space.balanced_newText .lasting _)

theorem balanced_kept (invocation : Invocation) (key : String) :
    Balanced .lasting borrowed 0 (kept invocation key) ({·}) := by
  refine (balanced_registryOf invocation).bind fun registry => ?_
  refine Balanced.bind (Balanced.lending (balanced_dictGet registry key) rfl) fun found => ?_
  cases found with
  | some value => exact .pure rfl
  | none => exact .throw _

theorem balanced_constant (space : SpaceId) (name : String) :
    Balanced .lasting borrowed 0 (constant space name) ({·}) := by
  unfold constant
  split
  · refine .get_bind fun world frame exact lent => ?_
    cases (world.space space).builtin? name with
    | some handle => exact Balanced.ownedBy (Guest.Space.balanced_acquire .lasting handle) world frame exact lent
    | none => exact .throw _
  · exact .throw _

theorem balanced_textItems {extent : Extent} (value : Ref) (role : String) :
    Balanced extent borrowed 0 (textItems value role) fun _ => 0 := by
  refine (Balanced.itemsOf value).bind fun items => ?_
  cases items with
  | none => exact .throw _
  | some items =>
    refine Balanced.lending (.mapM fun item _ => (Balanced.view _).bind fun text => ?_) (add_zero _)
    cases text with
    | some text => exact .pure rfl
    | none => exact .throw _

theorem balanced_importedValues {extent : Extent} (space : SpaceId) (moduleName : String) (module : Ref)
    (names : List String) :
    Balanced extent borrowed 0 (importedValues space moduleName module names) fun refs => refs :=
  Balanced.collect #[] fun name _ => (balanced_getattr module name).adapt _

theorem balanced_setTracing (invocation : Invocation) (enabled : Bool) :
    Balanced .lasting borrowed 0 (setTracing invocation enabled) ({·}) := by
  refine (Balanced.lift _).bind fun module => ?_
  refine (Balanced.ownedBy (Guest.Space.balanced_boolValue .lasting enabled)).bind fun flag => ?_
  refine Balanced.bind (Balanced.lending (balanced_setattr module _ flag) rfl) fun _ => ?_
  extract_lets answer
  have answered : Balanced .lasting borrowed 0 (answer ()) ({·}) :=
    .ownedBy (Guest.Space.balanced_noneValue .lasting)
  split
  · exact (balanced_traceLine invocation _).bind fun _ => answered
  · exact answered

theorem balanced_attributeSpellings (invocation : Invocation) :
    Balanced .lasting borrowed 0 (attributeSpellings invocation) ({·}) := by
  refine (invocation.balanced_textArgument 0).bind fun className => ?_
  refine (Balanced.lift _).bind fun module => ?_
  refine (balanced_resolve _ module className).bind fun type => ?_
  refine Balanced.lending ?_ rfl
  refine (Balanced.view _).bind fun kind => ?_
  extract_lets spell proceed
  have spelled (lends : List Ref) (attributes : List String) (name : Ref) :
      Balanced .lasting lends 0 (spell attributes name) ({·}) := by
    refine (Balanced.view _).bind fun text => ?_
    cases text with
    | none => exact .throw _
    | some wanted =>
      refine (Balanced.lift _).bind fun found => ?_
      cases found with
      | none => exact .throw _
      | some found => exact .ownedBy (Guest.Space.balanced_newText .lasting found)
  have proceeds : Balanced .lasting ([type] ++ borrowed) 0 (proceed ()) ({·}) := by
    refine (Balanced.lift _).bind fun listed => ?_
    refine (Balanced.itemsOf listed).bind fun names => ?_
    cases names with
    | none => exact .throw _
    | some names =>
      refine Balanced.bind (?_ : Balanced _ _ _ _ fun refs : List Ref => (refs : Multiset Ref)) fun refs => ?_
      · refine Balanced.lending ?_ (add_zero _)
        exact (Balanced.onView _).bind fun attributes =>
          Balanced.collect #[] fun name _ => spelled _ attributes name
      · exact Balanced.lending (.ownedBy (Guest.Space.balanced_newTuple .lasting _)) rfl
  split
  · exact .throw_bind _ _
  · exact proceeds

end Keeping

section Serving

variable [World.Passing] {engine : Engine} (balanced : engine.Balanced) {borrowed : List Ref}
include balanced

theorem balanced_callWithArguments (space : SpaceId) (callable : Ref) {arguments : List Ref}
    (lent : ∀ ref ∈ arguments, ref ∈ borrowed) :
    Balanced .lasting borrowed 0 (callWithArguments engine space callable arguments) ({·}) := by
  unfold callWithArguments
  split
  · exact balanced.call space callable arguments [] lent (List.forall_mem_nil _)
  · rename_i last _
    refine (Balanced.view _).bind fun kind => ?_
    extract_lets call
    suffices called : ∀ marked, Balanced .lasting borrowed 0 (call marked) ({·}) by
      split
      · refine (balanced_dictGet last keywordMarker).bind fun marker => ?_
        cases marker with
        | some marker => exact (Balanced.release marker).bind fun _ => called true
        | none => exact called false
      · exact called false
    intro marked
    cases marked with
    | false => exact balanced.call space callable arguments [] lent (List.forall_mem_nil _)
    | true =>
      refine (Balanced.onSpace (Guest.Space.balanced_dictItems .lasting last.handle)).bind fun entries => ?_
      extract_lets pairs
      have taken : Multiset.map (Ref.mk space) ((entries.map (·.2) : List Handle) : Multiset Handle) =
          ((pairs.map (·.2) : List Ref) : Multiset Ref) := by
        simp [pairs, Function.comp_def]
      rw [taken, references_partition (fun pair => decide (pair.1 = keywordMarker)) pairs]
      refine (Balanced.releaseAll _).bind fun _ => Balanced.lending (balanced.call _ _ _ _ ?_ ?_) rfl
      · exact fun ref member => List.mem_append_right _ (lent ref (List.dropLast_subset _ member))
      · exact fun keyword member => List.mem_append_left _ (List.mem_map_of_mem member)

theorem balanced_importFrom (invocation : Invocation) :
    Balanced .lasting borrowed 0 (importFrom engine invocation) ({·}) := by
  refine (invocation.balanced_textArgument 0).bind fun moduleName => ?_
  refine (Balanced.lift _).bind fun listed => ?_
  refine (balanced_textItems listed _).bind fun names => ?_
  refine (balanced_traceLine invocation _).bind fun _ => ?_
  refine (engine.balanced_importModule balanced moduleName).bind fun imported => ?_
  refine Balanced.lending ?_ rfl
  refine (balanced_importedValues _ moduleName imported names).bind fun values => ?_
  refine Balanced.lending ?_ rfl
  refine (Balanced.forM fun binding _ => ?_).bind fun _ => .ownedBy (Guest.Space.balanced_noneValue .lasting)
  exact (Balanced.lift _).bind fun module => balanced_setattr module _ _

theorem balanced_invoke (invocation : Invocation) :
    Balanced .lasting borrowed 0 (invoke engine invocation) ({·}) := by
  refine (invocation.balanced_textArgument 0).bind fun name => ?_
  extract_lets proceed
  have proceeds (arguments : List Ref) :
      Balanced .lasting borrowed (arguments : Multiset Ref) (proceed arguments) ({·}) := by
    refine Balanced.lending ?_ rfl
    refine (balanced_traceLine invocation _).bind fun _ => ?_
    refine (Balanced.lift _).bind fun module => ?_
    refine (balanced_resolve _ module name).bind fun function => ?_
    refine Balanced.lending ?_ rfl
    refine (Balanced.view _).bind fun kind => ?_
    split
    · refine (balanced_callWithArguments balanced _ function fun ref member => ?_).bind fun result => ?_
      · exact List.mem_append_right _ (List.mem_append_left _ member)
      · exact Balanced.lending (balanced_keep invocation result) rfl
    · exact balanced_keep invocation function
  cases invocation.arguments[1]? with
  | none => exact proceeds []
  | some packed =>
    refine (Balanced.itemsOf packed).bind fun items => ?_
    cases items with
    | none => exact .throw_bind _ _
    | some items => exact (proceeds items).congr (add_zero _) fun _ => rfl

theorem balanced_serve (service : Service) (invocation : Invocation) :
    Balanced .lasting borrowed 0 (serve engine service invocation) ({·}) := by
  have text (index : Nat) : Balanced .lasting borrowed 0 (invocation.textArgument index) fun _ => 0 :=
    invocation.balanced_textArgument index
  have answered : Balanced .lasting borrowed 0 (ownedBy invocation.space Guest.Space.noneValue) ({·}) :=
    .ownedBy (Guest.Space.balanced_noneValue .lasting)
  cases service with
  | storeObject => exact (Balanced.lift _).bind fun value => balanced_keep invocation value
  | lookupObject =>
    exact (text 0).bind fun key => (balanced_traceLine invocation _).bind fun _ => balanced_kept invocation key
  | releaseObject =>
    refine (text 0).bind fun key => (balanced_registryOf invocation).bind fun registry => ?_
    refine Balanced.bind (Balanced.lending (Balanced.onSpace (Guest.Space.balanced_dictRemove _ _)) rfl) fun removed => ?_
    exact (balanced_traceLine invocation _).bind fun _ =>
      .ownedBy (Guest.Space.balanced_boolValue .lasting removed)
  | resolveFunction =>
    exact (text 0).bind fun name => (balanced_traceLine invocation _).bind fun _ =>
      (Balanced.lift _).bind fun module => balanced_resolve _ module name
  | setGlobals =>
    exact (text 0).bind fun name => (balanced_traceLine invocation _).bind fun _ =>
      (Balanced.lift _).bind fun module => (Balanced.lift _).bind fun value =>
        (balanced_setattr module name value).bind fun _ => answered
  | invokeStr =>
    refine (text 0).bind fun key => (balanced_kept invocation key).bind fun value => ?_
    refine Balanced.lending ?_ rfl
    exact (engine.balanced_str balanced value (by simp)).bind fun shown =>
      (balanced_traceLine invocation _).bind fun _ => .ownedBy (Guest.Space.balanced_newText .lasting shown)
  | invokeImport =>
    refine (text 0).bind fun name => (balanced_traceLine invocation _).bind fun _ => ?_
    refine (engine.balanced_importModule balanced name).bind fun imported => Balanced.lending ?_ rfl
    exact (Balanced.lift _).bind fun module => (balanced_setattr module name imported).bind fun _ =>
      .ownedBy (Guest.Space.balanced_noneValue .lasting)
  | invokeFromImport => exact balanced_importFrom balanced invocation
  | invokeFunction => exact balanced_invoke balanced invocation
  | getBuiltinConstant => exact (text 0).bind fun name => balanced_constant _ name
  | getBuiltinConstantId =>
    exact (text 0).bind fun name => (balanced_constant _ name).bind fun value =>
      Balanced.lending (balanced_keep invocation value) rfl
  | debugOn => exact balanced_setTracing invocation true
  | debugOff => exact balanced_setTracing invocation false
  | getCorrespondingMethodnames => exact balanced_attributeSpellings invocation

end Serving

end Registry

end ObjectBridge

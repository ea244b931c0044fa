import ObjectBridge.Proofs.Tracing.Asking

/-!
Services in twin worlds. Whatever they write to the trace, services that do not ask for the globals of tracing
come to the same.
-/

namespace ObjectBridge

open Guest (Handle)

namespace Registry

section Names

variable {names segments : List String} {wanted found name : String}

theorem findName_apart (apart : spellsTracing wanted = false) (finds : findName names wanted = .ok (some found)) :
    found ∉ tracingGlobals := by
  intro listed
  have spelled : spellsTracing wanted = true :=
    List.any_eq_true.mpr ⟨found, listed, beq_iff_eq.mpr (listed_of_findName finds).2⟩
  rw [apart] at spelled
  cases spelled

theorem spellsTracing_dotted (first second : String) (rest : List String) :
    spellsTracing (Text.dotted (first :: second :: rest)) = false := by
  have pointless : ∀ global ∈ tracingGlobals, '.' ∉ global.toList := by decide
  refine Bool.eq_false_iff.mpr fun spelled => ?_
  obtain ⟨global, listed, same⟩ := List.any_eq_true.mp spelled
  refine pointless global listed (Text.point_mem_lowercase.mp ?_)
  rw [beq_iff_eq.mp same, Text.point_mem_lowercase]
  simp [Text.dotted]

theorem longestGlobal_apart (apart : segments.any spellsTracing = false) {count taken : Nat}
    (longest : longestGlobal names segments count = .ok (some (found, taken))) : found ∉ tracingGlobals := by
  induction count with
  | zero => cases longest
  | succ count ih =>
    unfold longestGlobal at longest
    rcases finds : findName names (Text.dotted (segments.take (count + 1))) with exception | _ | known
    all_goals simp only [finds, bind, Except.bind] at longest
    · cases longest
    · exact ih longest
    · cases longest
      refine findName_apart ?_ finds
      rcases segments with _ | ⟨first, _ | ⟨second, rest⟩⟩
      · rw [List.take_nil]
        decide
      · simpa [Text.dotted] using apart
      · cases count with
        | zero => simpa [Text.dotted] using (List.any_eq_false.mp apart) first List.mem_cons_self
        | succ count => exact spellsTracing_dotted first second _

theorem ne_debugGlobal (apart : name ∉ tracingGlobals) : name ≠ debugGlobal := by
  rintro rfl
  exact apart (by decide)

theorem ne_debugOn (apart : name ∉ tracingGlobals) : name ≠ Service.debugOn.name := by
  rintro rfl
  exact apart (by decide)

end Names

end Registry

namespace Invocation

variable {flag : Flag} {frame : Multiset Ref} {borrowed : List Ref}

theorem agrees_textArgument (invocation : Invocation) (index : Nat) :
    Act.Agrees flag borrowed 0 (invocation.textArgument index) (invocation.textArgument index) fun _ => 0 := by
  refine (Act.Agrees.lift _).bind fun ref => ?_
  refine (Act.Agrees.textOf ref).bind fun text => ?_
  cases text with
  | some text => exact .pure rfl
  | none => exact (Act.Agrees.kindOf ref).bind fun kind => .throw _

theorem run_textArgument_ok {invocation : Invocation} {index : Nat} {world after : World} {text : String}
    (ran : (invocation.textArgument index).run world = (.ok text, after)) :
    after = world ∧ ∃ ref, invocation.arguments[index]? = some ref ∧
      (world.space ref.space).text? ref.handle = some text := by
  unfold textArgument argument at ran
  cases listed : invocation.arguments[index]? with
  | none =>
    rw [listed] at ran
    cases (Prod.mk.inj ran).1
  | some ref =>
    have looked : (Act.textOf ref : GuestAct (Option String)).run world =
        (.ok ((world.space ref.space).text? ref.handle), world) := rfl
    rw [listed, Act.run_bind_ok (Act.run_lift _), Act.run_bind_ok looked] at ran
    cases shown : (world.space ref.space).text? ref.handle with
    | none =>
      rw [shown] at ran
      cases (Prod.mk.inj ran).1
    | some other =>
      rw [shown] at ran
      obtain ⟨same, rfl⟩ := Prod.mk.inj ran
      exact ⟨rfl, ref, rfl, shown.trans (congrArg some (Except.ok.inj same))⟩

theorem meets_textArgument_bind {γ : Type} {invocation : Invocation} {index : Nat} {next next' : String → GuestAct γ}
    {world world' : World} {answer : γ → Multiset Ref} (twins : world.Twins flag frame world')
    (rest : ∀ ref text, invocation.arguments[index]? = some ref → (world.space ref.space).text? ref.handle = some text →
      Act.Meets flag frame world world' (next text) (next' text) answer) :
    Act.Meets flag frame world world' (invocation.textArgument index >>= next) (invocation.textArgument index >>= next')
      answer := by
  have read : Act.Meets flag frame world world' (invocation.textArgument index) (invocation.textArgument index)
      fun _ => 0 :=
    agrees_textArgument invocation index world world' frame (by rwa [zero_add]) (List.forall_mem_nil _)
  refine read.bind fun text after after' ran ran' _ => ?_
  obtain ⟨rfl, ref, listed, shown⟩ := run_textArgument_ok ran
  obtain ⟨rfl, -⟩ := run_textArgument_ok ran'
  exact rest ref text listed shown

end Invocation

namespace Registry

open Act

section Texts

variable {role : String} {world after : World} {value : Ref} {names : List String}

theorem run_textItem_ok {item : Ref} {text : String} (ran : (textItem role item).run world = (.ok text, after)) :
    after = world ∧ (world.space item.space).text? item.handle = some text := by
  have looked : (textOf item : GuestAct (Option String)).run world =
      (.ok ((world.space item.space).text? item.handle), world) := rfl
  rw [textItem, run_bind_ok looked] at ran
  cases shown : (world.space item.space).text? item.handle with
  | none =>
    rw [shown] at ran
    cases (Prod.mk.inj ran).1
  | some other =>
    rw [shown] at ran
    obtain ⟨same, rfl⟩ := Prod.mk.inj ran
    exact ⟨rfl, congrArg some (Except.ok.inj same)⟩

theorem run_mapM_textItem {items : List Ref} (ran : (items.mapM (textItem role)).run world = (.ok names, after)) :
    ∀ name ∈ names, ∃ item ∈ items, (world.space item.space).text? item.handle = some name := by
  induction items generalizing names after with
  | nil =>
    obtain rfl := Except.ok.inj (Prod.mk.inj ran).1
    exact List.forall_mem_nil _
  | cons item rest ih =>
    rw [List.mapM_cons, run_bind_eq_ok] at ran
    obtain ⟨text, middle, first, ran⟩ := ran
    obtain ⟨rfl, shown⟩ := run_textItem_ok first
    obtain ⟨texts, last, later, ran⟩ := run_bind_eq_ok.mp ran
    obtain rfl := Except.ok.inj (Prod.mk.inj ran).1
    intro name member
    rcases List.mem_cons.mp member with rfl | member
    · exact ⟨item, List.mem_cons_self, shown⟩
    · obtain ⟨other, listed, shown⟩ := ih later name member
      exact ⟨other, List.mem_cons_of_mem _ listed, shown⟩

theorem run_textItems_ok (ran : (textItems value role).run world = (.ok names, after)) :
    ∀ name ∈ names, ∃ handles, (world.space value.space).tuple? value.handle = some handles ∧
      ∃ handle ∈ handles, (world.space value.space).text? handle = some name := by
  obtain ⟨found, middle, listed, ran⟩ := run_bind_eq_ok.mp ran
  rw [itemsOf, run_get_bind] at listed
  cases tuple : (world.space value.space).tuple? value.handle with
  | none =>
    rw [tuple] at listed
    obtain rfl := Except.ok.inj (Prod.mk.inj listed).1
    cases (Prod.mk.inj ran).1
  | some handles =>
    rw [tuple] at listed
    obtain ⟨same, rfl⟩ := Prod.mk.inj listed
    obtain rfl := Except.ok.inj same
    obtain ⟨last, read, -⟩ := run_lending_eq_ok.mp ran
    intro name member
    obtain ⟨item, listed, shown⟩ := run_mapM_textItem read name member
    obtain ⟨handle, inside, rfl⟩ := List.mem_map.mp listed
    refine ⟨handles, rfl, handle, inside, ?_⟩
    have kept (refs : List Ref) := World.get?_retainAll world refs { space := value.space, handle }
    simp only [World.get?] at kept
    dsimp only at shown
    rwa [Guest.Space.text?, kept] at shown

end Texts

section Resolving

variable {flag : Flag} {borrowed : List Ref}

theorem agrees_followAttributes (space : SpaceId) (name : String) (current : Ref) {segments : List String}
    (apart : segments.any spellsTracing = false) :
    Agrees flag borrowed {current} (followAttributes space name current segments)
      (followAttributes space name current segments) ({·}) := by
  induction segments generalizing current with
  | nil => exact .pure rfl
  | cons segment rest ih =>
    obtain ⟨apart, others⟩ := by simpa only [List.any_cons, Bool.or_eq_false_iff] using apart
    refine Agrees.bind (?_ : Agrees _ _ _ _ _ ({·})) fun next => ih next others
    refine Agrees.lending ?_ rfl
    refine (Agrees.onView fun _ _ like => like.dir current.handle).bind fun names => ?_
    refine .lift_bind fun found finds => ?_
    cases found with
    | some found => exact agrees_getattr current (ne_debugGlobal (findName_apart apart finds))
    | none => exact .throw _

theorem agrees_builtinOf (space : SpaceId) (name : String) :
    Agrees flag borrowed 0 (builtinOf space name) (builtinOf space name) ({·}) := by
  refine (Agrees.lift _).bind fun found => .get_bind fun world world' frame twins lent => ?_
  have same : (world'.space space).builtin? = (world.space space).builtin? :=
    funext (twins.alike.spaces space).builtin?
  rw [same]
  cases found.bind (world.space space).builtin? with
  | some handle =>
    exact Agrees.ownedBy (Guest.Space.balanced_acquire .lasting handle) (Guest.Space.follows_acquire handle).agrees
      world world' frame twins lent
  | none => exact .throw _ (by rwa [zero_add] at twins)

theorem agrees_resolve (space : SpaceId) (module : Ref) {name : String} (apart : leadsToTracing name = false) :
    Agrees flag borrowed 0 (resolve space module name) (resolve space module name) ({·}) := by
  have dropped (count : Nat) : ((Text.segments name).drop count).any spellsTracing = false :=
    List.any_eq_false.mpr fun segment member => (List.any_eq_false.mp apart) segment (List.drop_subset _ _ member)
  unfold resolve
  extract_lets segments proceed
  suffices proceeds : Agrees flag borrowed 0 (proceed ()) (proceed ()) ({·}) by
    split
    · exact .throw_bind _ _ _
    · exact proceeds
  refine (Agrees.onView fun _ _ like => like.dir module.handle).bind fun globals => ?_
  refine .lift_bind fun found longest => ?_
  cases found with
  | some found =>
    exact (agrees_getattr module (ne_debugGlobal (longestGlobal_apart apart longest))).bind fun start =>
      agrees_followAttributes space name start (dropped _)
  | none =>
    exact (agrees_builtinOf space _).bind fun start => agrees_followAttributes space name start (dropped _)

end Resolving

section Keeping

variable {flag : Flag} {borrowed : List Ref}

theorem agrees_traceLine {owned : Multiset Ref} (invocation : Invocation) (line : String) :
    Agrees flag borrowed owned (traceLine invocation line) (traceLine invocation line) fun _ => owned := by
  refine .trace ?_ ?_
  all_goals
    intro world
    split
    · split
      · exact ⟨_, rfl⟩
      · exact ⟨world.trace, rfl⟩
    · exact ⟨world.trace, rfl⟩

theorem agrees_registryOf (invocation : Invocation) :
    Agrees flag borrowed 0 (registryOf invocation) (registryOf invocation) ({·}) :=
  (Agrees.lift _).bind fun module => agrees_getattr module (by decide)

theorem agrees_newText (space : SpaceId) (text : String) :
    Agrees flag borrowed 0 (ownedBy space (Guest.Space.newText text))
      (ownedBy space (Guest.Space.newText text)) ({·}) :=
  .ownedBy (Guest.Space.balanced_newText .lasting text) (Guest.Space.follows_allocate _).agrees

theorem agrees_noneValue (space : SpaceId) :
    Agrees flag borrowed 0 (ownedBy space Guest.Space.noneValue) (ownedBy space Guest.Space.noneValue) ({·}) :=
  .ownedBy (Guest.Space.balanced_noneValue .lasting) Guest.Space.follows_noneValue.agrees

theorem agrees_keep (invocation : Invocation) (value : Ref) :
    Agrees flag borrowed 0 (keep invocation value) (keep invocation value) ({·}) := by
  refine (agrees_registryOf invocation).bind fun registry => ?_
  refine Agrees.bind (Agrees.lending (Agrees.onSpace (Guest.Space.balanced_dictSet _ _ _)
    (Guest.Space.agrees_dictSet _ _ _)) rfl) fun _ => ?_
  exact (agrees_traceLine invocation _).bind fun _ => agrees_newText _ _

theorem agrees_kept (invocation : Invocation) (key : String) :
    Agrees flag borrowed 0 (kept invocation key) (kept invocation key) ({·}) := by
  refine (agrees_registryOf invocation).bind fun registry => ?_
  refine Agrees.bind (Agrees.lending (agrees_dictGet registry key) rfl) fun found => ?_
  cases found with
  | some value => exact .pure rfl
  | none => exact .throw _

theorem agrees_constant (space : SpaceId) (name : String) :
    Agrees flag borrowed 0 (constant space name) (constant space name) ({·}) := by
  unfold constant
  split
  · refine .get_bind fun world world' frame twins lent => ?_
    rw [(twins.alike.spaces space).builtin? name]
    cases (world.space space).builtin? name with
    | some handle =>
      exact Agrees.ownedBy (Guest.Space.balanced_acquire .lasting handle) (Guest.Space.follows_acquire handle).agrees
        world world' frame twins lent
    | none => exact .throw _ (by rwa [zero_add] at twins)
  · exact .throw _

theorem agrees_textItems (value : Ref) (role : String) :
    Agrees flag borrowed 0 (textItems value role) (textItems value role) fun _ => 0 := by
  refine (Agrees.itemsOf value).bind fun items => ?_
  cases items with
  | none => exact .throw _
  | some items =>
    refine Agrees.lending (.mapM fun item _ => (Agrees.textOf item).bind fun text => ?_) (add_zero _)
    cases text with
    | some text => exact .pure rfl
    | none => exact .throw _

theorem agrees_importedValues (space : SpaceId) (moduleName : String) (module : Ref) {names : List String}
    (apart : ∀ name ∈ names, name ∉ tracingGlobals) :
    Agrees flag borrowed 0 (importedValues space moduleName module names) (importedValues space moduleName module names)
      fun refs => refs :=
  Agrees.collect #[] fun name member => (agrees_getattr module (ne_debugGlobal (apart name member))).adapt _

theorem agrees_attributeSpellings (invocation : Invocation) {world world' : World} {frame : Multiset Ref}
    (twins : world.Twins flag frame world')
    (apart : Service.asks world invocation .getCorrespondingMethodnames = false) :
    Meets flag frame world world' (attributeSpellings invocation) (attributeSpellings invocation) ({·}) := by
  refine invocation.meets_textArgument_bind twins fun ref className listed shown => ?_
  have apart : leadsToTracing className = false := by simpa [Service.asks, listed, shown] using apart
  suffices agrees : Agrees flag [] 0 _ _ ({·}) from
    agrees world world' frame (by rwa [zero_add]) (List.forall_mem_nil _)
  refine (Agrees.lift _).bind fun module => ?_
  refine (agrees_resolve _ module apart).bind fun type => ?_
  refine Agrees.lending ?_ rfl
  refine (Agrees.kindOf type).bind fun kind => ?_
  extract_lets spell proceed
  have spelled (lends : List Ref) (attributes : List String) (name : Ref) :
      Agrees flag lends 0 (spell attributes name) (spell attributes name) ({·}) := by
    refine (Agrees.textOf name).bind fun text => ?_
    cases text with
    | none => exact .throw _
    | some wanted =>
      refine (Agrees.lift _).bind fun found => ?_
      cases found with
      | none => exact .throw _
      | some found => exact agrees_newText _ _
  have proceeds : Agrees flag ([type] ++ []) 0 (proceed ()) (proceed ()) ({·}) := by
    refine (Agrees.lift _).bind fun listed => ?_
    refine (Agrees.itemsOf listed).bind fun names => ?_
    cases names with
    | none => exact .throw _
    | some names =>
      refine Agrees.bind (?_ : Agrees _ _ _ _ _ fun refs : List Ref => (refs : Multiset Ref)) fun refs => ?_
      · refine Agrees.lending ?_ (add_zero _)
        exact (Agrees.onView fun _ _ like => like.dir type.handle).bind fun attributes =>
          Agrees.collect #[] fun name _ => spelled _ attributes name
      · exact Agrees.lending (.ownedBy (Guest.Space.balanced_newTuple .lasting _)
          (Guest.Space.follows_newTuple _).agrees) rfl
  split
  · exact .throw_bind _ _ _
  · exact proceeds

end Keeping

section Serving

variable {flag : Flag} {engine : Engine} (agrees : engine.Agrees flag) {borrowed : List Ref}
include agrees

theorem agrees_callWithArguments (space : SpaceId) (callable : Ref) {arguments : List Ref}
    (lent : ∀ ref ∈ arguments, ref ∈ borrowed) :
    Agrees flag borrowed 0 (callWithArguments engine space callable arguments)
      (callWithArguments engine space callable arguments) ({·}) := by
  unfold callWithArguments
  split
  · exact agrees.call space callable arguments [] lent (List.forall_mem_nil _)
  · rename_i last _
    refine (Agrees.kindOf last).bind fun kind => ?_
    extract_lets call
    suffices called : ∀ marked, Agrees flag borrowed 0 (call marked) (call marked) ({·}) by
      split
      · refine (agrees_dictGet last keywordMarker).bind fun marker => ?_
        cases marker with
        | some marker => exact (Agrees.release marker).bind fun _ => called true
        | none => exact called false
      · exact called false
    intro marked
    cases marked with
    | false => exact agrees.call space callable arguments [] lent (List.forall_mem_nil _)
    | true =>
      refine (Agrees.onSpace (Guest.Space.balanced_dictItems .lasting last.handle)
        (Guest.Space.follows_dictItems last.handle).agrees).bind fun entries => ?_
      extract_lets pairs
      have taken : Multiset.map (Ref.mk space) ((entries.map (·.2) : List Handle) : Multiset Handle) =
          ((pairs.map (·.2) : List Ref) : Multiset Ref) := by
        simp [pairs, Function.comp_def]
      rw [taken, references_partition (fun pair => decide (pair.1 = keywordMarker)) pairs]
      refine (Agrees.releaseAll _).bind fun _ => Agrees.lending (agrees.call _ _ _ _ ?_ ?_) rfl
      · exact fun ref member => List.mem_append_right _ (lent ref (List.dropLast_subset _ member))
      · exact fun keyword member => List.mem_append_left _ (List.mem_map_of_mem member)

section Worlds

variable {world world' : World} {frame : Multiset Ref} (twins : world.Twins flag frame world')
include twins

theorem agrees_importFrom (invocation : Invocation) (apart : Service.asks world invocation .invokeFromImport = false) :
    Meets flag frame world world' (importFrom engine invocation) (importFrom engine invocation) ({·}) := by
  refine invocation.meets_textArgument_bind twins fun _ moduleName _ _ => .lift_bind twins fun packed found => ?_
  have listed : invocation.arguments[1]? = some packed := by
    unfold Invocation.argument at found
    split at found
    · rename_i listed
      rw [listed, Except.ok.inj found]
    · cases found
  have read : Meets flag frame world world' (textItems packed "import names") (textItems packed "import names")
      fun _ => 0 :=
    agrees_textItems packed _ world world' frame (by rwa [zero_add]) (List.forall_mem_nil _)
  refine read.bind fun names after after' ran _ twins => ?_
  have apart : ∀ name ∈ names, name ∉ tracingGlobals := by
    intro name member listed'
    obtain ⟨handles, tuple, handle, inside, shown⟩ := run_textItems_ok ran name member
    refine absurd apart ?_
    simp only [Service.asks, listed, Option.map_some, Option.getD_some, tuple]
    exact fun none => absurd
      (List.any_eq_false.mp none name (List.mem_filterMap.mpr ⟨handle, inside, shown⟩)) (by simpa)
  suffices agrees : Agrees flag [] 0 _ _ ({·}) from agrees after after' frame twins (List.forall_mem_nil _)
  refine (agrees_traceLine invocation _).bind fun _ => ?_
  refine (engine.agrees_importModule agrees moduleName).bind fun imported => ?_
  refine Agrees.lending ?_ rfl
  refine (agrees_importedValues _ moduleName imported apart).bind fun values => ?_
  refine Agrees.lending ?_ rfl
  refine (Agrees.forM fun binding member => ?_).bind fun _ => agrees_noneValue _
  exact (Agrees.lift _).bind fun module =>
    agrees_setattr module (ne_debugOn (apart _ (List.of_mem_zip member).1)) _

theorem agrees_invoke (invocation : Invocation) (apart : Service.asks world invocation .invokeFunction = false) :
    Meets flag frame world world' (invoke engine invocation) (invoke engine invocation) ({·}) := by
  refine invocation.meets_textArgument_bind twins fun ref name listed shown => ?_
  have apart : leadsToTracing name = false := by simpa [Service.asks, listed, shown] using apart
  suffices agrees : Agrees flag [] 0 _ _ ({·}) from
    agrees world world' frame (by rwa [zero_add]) (List.forall_mem_nil _)
  extract_lets proceed
  have proceeds (arguments : List Ref) :
      Agrees flag [] (arguments : Multiset Ref) (proceed arguments) (proceed arguments) ({·}) := by
    refine Agrees.lending ?_ rfl
    refine (agrees_traceLine invocation _).bind fun _ => ?_
    refine (Agrees.lift _).bind fun module => ?_
    refine (agrees_resolve _ module apart).bind fun function => ?_
    refine Agrees.lending ?_ rfl
    refine (Agrees.kindOf function).bind fun kind => ?_
    split
    · refine (agrees_callWithArguments agrees _ function fun ref member => ?_).bind fun result => ?_
      · exact List.mem_append_right _ (List.mem_append_left _ member)
      · exact Agrees.lending (agrees_keep invocation result) rfl
    · exact agrees_keep invocation function
  cases invocation.arguments[1]? with
  | none => exact proceeds []
  | some packed =>
    refine (Agrees.itemsOf packed).bind fun items => ?_
    cases items with
    | none => exact .throw_bind _ _ _
    | some items => exact (proceeds items).congr (add_zero _) fun _ => rfl

theorem agrees_serve (service : Service) (invocation : Invocation) (apart : service.asks world invocation = false) :
    Meets flag frame world world' (serve engine service invocation) (serve engine service invocation) ({·}) := by
  have inWorlds {act : GuestAct Ref} (same : Agrees flag [] 0 act act ({·})) :
      Meets flag frame world world' act act ({·}) :=
    same world world' frame (by rwa [zero_add]) (List.forall_mem_nil _)
  have text (index : Nat) :
      Agrees flag [] 0 (invocation.textArgument index) (invocation.textArgument index) fun _ => 0 :=
    invocation.agrees_textArgument index
  cases service with
  | storeObject => exact inWorlds ((Agrees.lift _).bind fun value => agrees_keep invocation value)
  | lookupObject =>
    exact inWorlds ((text 0).bind fun key => (agrees_traceLine invocation _).bind fun _ => agrees_kept invocation key)
  | releaseObject =>
    refine inWorlds ((text 0).bind fun key => (agrees_registryOf invocation).bind fun registry => ?_)
    refine Agrees.bind (Agrees.lending (Agrees.onSpace (Guest.Space.balanced_dictRemove _ _)
      (Guest.Space.agrees_dictRemove _ _)) rfl) fun removed => ?_
    exact (agrees_traceLine invocation _).bind fun _ =>
      .ownedBy (Guest.Space.balanced_boolValue .lasting removed) (Guest.Space.follows_boolValue removed).agrees
  | resolveFunction =>
    refine invocation.meets_textArgument_bind twins fun ref name listed shown => inWorlds ?_
    have apart : leadsToTracing name = false := by simpa [Service.asks, listed, shown] using apart
    exact (agrees_traceLine invocation _).bind fun _ => (Agrees.lift _).bind fun module => agrees_resolve _ module apart
  | setGlobals =>
    refine invocation.meets_textArgument_bind twins fun ref name listed shown => inWorlds ?_
    have apart : name ∉ tracingGlobals := by simpa [Service.asks, listed, shown] using apart
    exact (agrees_traceLine invocation _).bind fun _ =>
      (Agrees.lift _).bind fun module => (Agrees.lift _).bind fun value =>
        (agrees_setattr module (ne_debugOn apart) value).bind fun _ => agrees_noneValue _
  | invokeStr =>
    refine inWorlds ((text 0).bind fun key => (agrees_kept invocation key).bind fun value => ?_)
    refine Agrees.lending ?_ rfl
    exact (engine.agrees_str agrees value (by simp)).bind fun shown =>
      (agrees_traceLine invocation _).bind fun _ => agrees_newText _ shown
  | invokeImport =>
    refine invocation.meets_textArgument_bind twins fun ref name listed shown => inWorlds ?_
    have apart : name ∉ tracingGlobals := by simpa [Service.asks, listed, shown] using apart
    refine (agrees_traceLine invocation _).bind fun _ => ?_
    refine (engine.agrees_importModule agrees name).bind fun imported => Agrees.lending ?_ rfl
    exact (Agrees.lift _).bind fun module => (agrees_setattr module (ne_debugOn apart) imported).bind fun _ =>
      agrees_noneValue _
  | invokeFromImport => exact agrees_importFrom agrees twins invocation apart
  | invokeFunction => exact agrees_invoke agrees twins invocation apart
  | getBuiltinConstant => exact inWorlds ((text 0).bind fun name => agrees_constant _ name)
  | getBuiltinConstantId =>
    exact inWorlds ((text 0).bind fun name => (agrees_constant _ name).bind fun value =>
      Agrees.lending (agrees_keep invocation value) rfl)
  -- The services that set the flag ask for it.
  | debugOn => cases apart
  | debugOff => cases apart
  | getCorrespondingMethodnames => exact agrees_attributeSpellings invocation twins apart

end Worlds

end Serving

end Registry

end ObjectBridge

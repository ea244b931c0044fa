import ObjectBridge.Proofs.Tracing.Services
import ObjectBridge.Proofs.World.Definitions

/-!
The traffic between the sides in twin worlds. Sessions that differ in how they are configured to trace convert,
call and define alike, as long as they are not asked for the globals of tracing.
-/

namespace ObjectBridge

open Guest (Handle)

namespace Bridge

open Act

variable {ε : Type} {flag : Flag} {borrowed : List Ref} {owned : Multiset Ref}

theorem agrees_traceLine (config config' : Config) (depth : Nat) (line : String) :
    Agrees flag borrowed owned (traceLine config depth line : Act ε Unit)
      (traceLine config' depth line) fun _ => owned := by
  have written (config : Config) : ∃ update : World → World,
      (∀ world, ∃ trace, update world = { world with trace }) ∧
        (traceLine config depth line : Act ε Unit) = change update := by
    unfold traceLine
    split
    · exact ⟨_, fun _ => ⟨_, rfl⟩, rfl⟩
    · exact ⟨id, fun world => ⟨world.trace, rfl⟩, rfl⟩
  obtain ⟨update, traces, same⟩ := written config
  obtain ⟨update', traces', same'⟩ := written config'
  rw [same, same']
  exact .trace traces traces'

theorem agrees_warn (line : String) :
    Agrees flag borrowed owned (warn line : Act ε Unit) (warn line) fun _ => owned :=
  .trace (fun _ => ⟨_, rfl⟩) fun _ => ⟨_, rfl⟩

theorem agrees_noneValue (space : SpaceId) :
    Agrees flag borrowed 0 (asBridge (ownedBy space Guest.Space.noneValue))
      (asBridge (ownedBy space Guest.Space.noneValue)) ({·}) :=
  (Registry.agrees_noneValue space).adapt _

theorem agrees_newText (space : SpaceId) (text : String) :
    Agrees flag borrowed 0 (asBridge (ownedBy space (Guest.Space.newText text)))
      (asBridge (ownedBy space (Guest.Space.newText text))) ({·}) :=
  (Registry.agrees_newText space text).adapt _

variable (session : Session) (debug : Bool)

theorem agrees_dereference (reference : OpaqueReference) :
    Agrees flag borrowed 0 (dereference session reference) (dereference (session.debugging debug) reference) ({·}) := by
  refine .get_bind fun world world' frame twins lent => ?_
  have owner : (world'.aliveSession? reference.session).map (·.id) =
      (world.aliveSession? reference.session).map (·.id) := by
    simpa [Option.map_map, Function.comp_def, Session.plain, Session.debugging] using
      congrArg (Option.map (·.id)) (twins.alike.aliveSession? reference.session)
  simp only [owner, Session.debugging_id, Session.debugging_space, Session.debugging_proxyClass]
  split
  · exact (Agrees.ownedBy (Guest.Space.balanced_acquire .lasting _) (Guest.Space.follows_acquire _).agrees).adapt _
      world world' frame twins lent
  · exact ((agrees_warn _).bind fun _ => .throw _) world world' frame twins lent

theorem agrees_moduleOf :
    Agrees flag borrowed 0 (moduleOf session) (moduleOf (session.debugging debug)) ({·}) := by
  refine .get_bind fun world world' frame twins lent => ?_
  rw [zero_add] at twins
  have same : world'.sessionModule? (session.debugging debug) = world.sessionModule? session :=
    twins.alike.sessionModule? session
  rw [same]
  cases found : world.sessionModule? session with
  | none => exact .throw _ twins
  | some module =>
    have live := twins.exact.live (Multiset.mem_add.mpr (Or.inr (World.mem_outside_of_sessionModule? found)))
    have taken : Meets flag frame world world' (change (·.retain module) : BridgeAct Unit) (change (·.retain module))
        fun _ => {module} := .change (twins.retain live)
    exact taken.bind fun _ _ _ _ _ twins => .pure twins

theorem typeNameFor_alike {world world' : World} (alike : world.Alike flag world') (value : Ref) :
    typeNameFor world' (session.debugging debug) value = typeNameFor world session value := by
  simp only [typeNameFor, Session.debugging_space, (alike.spaces session.space).typeNameOf]

theorem agrees_unsupported (value : Ref) :
    Agrees flag borrowed 0 (unsupported session value) (unsupported (session.debugging debug) value) fun _ => 0 := by
  refine .get_bind fun world world' frame twins lent => ?_
  rw [typeNameFor_alike session debug twins.alike]
  exact Agrees.throw _ world world' frame twins lent

theorem agrees_toHostWithin (levels : Nat) (value : Ref) (borrowed : List Ref) :
    Agrees flag borrowed 0 (toHostWithin session levels value) (toHostWithin (session.debugging debug) levels value)
      fun _ => 0 := by
  induction levels generalizing value borrowed with
  | zero => exact agrees_unsupported session debug value
  | succ levels ih =>
    refine Agrees.bind (Agrees.kindOf value) fun kind => ?_
    split
    · exact .pure rfl
    · refine (Agrees.textOf value).bind fun text => ?_
      cases text with
      | some content => exact .pure rfl
      | none => exact agrees_unsupported session debug value
    · refine (Agrees.itemsOf value).bind fun items => ?_
      cases items with
      | some items =>
        exact Agrees.lending ((Agrees.mapM fun item _ => ih item _).bind fun _ => .pure rfl) (add_zero _)
      | none => exact agrees_unsupported session debug value
    · exact agrees_unsupported session debug value

theorem agrees_toHost (value : Ref) :
    Agrees flag borrowed 0 (toHost session value) (toHost (session.debugging debug) value) fun _ => 0 := by
  refine .get_bind fun world world' frame twins lent => ?_
  rw [(twins.alike.spaces value.space).depthBound]
  exact agrees_toHostWithin session debug _ value borrowed world world' frame twins lent

theorem agrees_target (value : HostValue) :
    Agrees flag borrowed 0 (target session value) (target (session.debugging debug) value) ({·}) := by
  unfold target
  split
  · exact agrees_dereference session debug _
  · exact .throw _

mutual

theorem agrees_toGuestAt (depth : Nat) (value : HostValue) (borrowed : List Ref) :
    Agrees flag borrowed 0 (toGuestAt session depth value) (toGuestAt (session.debugging debug) depth value) ({·}) := by
  unfold toGuestAt
  refine (agrees_traceLine _ _ depth _).bind fun _ => ?_
  cases value with
  | nil => exact agrees_noneValue _
  | text content => exact agrees_newText _ content
  | array items =>
    refine (agrees_itemsToGuest (depth + 1) #[] items borrowed).bind fun converted => ?_
    exact Agrees.lending ((Agrees.ownedBy (Guest.Space.balanced_newTuple .lasting _)
      (Guest.Space.follows_newTuple _).agrees).adapt _) rfl
  | object content =>
    refine .get_bind fun world world' frame twins lent => ?_
    simp only [Session.debugging_host, Session.debugging_proxyClass, twins.alike.host]
    split
    · split
      · exact agrees_dereference session debug _ world world' frame twins lent
      · exact Agrees.throw _ world world' frame twins lent
    · exact Agrees.throw _ world world' frame twins lent

theorem agrees_itemsToGuest (depth : Nat) (done : Array Ref) (items : List HostValue) (borrowed : List Ref) :
    Agrees flag borrowed (done.toList : Multiset Ref) (itemsToGuest session depth done items)
      (itemsToGuest (session.debugging debug) depth done items) fun refs => refs := by
  cases items with
  | nil =>
    unfold itemsToGuest
    exact .pure rfl
  | cons item rest =>
    unfold itemsToGuest
    have first := agrees_toGuestAt depth item (done.toList ++ borrowed)
    refine first.onFailure.bind fun ref => ?_
    have later := agrees_itemsToGuest depth (done.push ref) rest borrowed
    rw [Array.toList_push, ← Multiset.coe_add] at later
    exact later

end

end Bridge

namespace Bridge

theorem findAttribute_apart {names : List String} {name spelling : String}
    (apart : ∀ global ∈ Registry.tracingGlobals, Text.equalIgnoringAsciiCase global name = false)
    (found : (findAttribute names name).getD name = spelling) : spelling ∉ Registry.tracingGlobals := by
  rintro listed
  have spelled : Text.equalIgnoringAsciiCase spelling name = true := by
    subst found
    unfold findAttribute
    split
    · exact beq_self_eq_true _
    · cases finds : names.find? fun other => Text.equalIgnoringAsciiCase other name with
      | none => exact beq_self_eq_true _
      | some other => exact List.find?_some (p := fun other => Text.equalIgnoringAsciiCase other name) finds
  rw [apart spelling listed] at spelled
  cases spelled

theorem asksMessage_eq_false {message : String} (apart : asksMessage message = false) :
    ∀ global ∈ Registry.tracingGlobals,
      Text.equalIgnoringAsciiCase global ((assignedName? message).getD message) = false :=
  fun global listed => Bool.eq_false_iff.mpr (List.any_eq_false.mp apart global listed)

end Bridge

namespace Engine

open Act Bridge

variable {flag : Flag} {engine : Engine} (agrees : engine.Agrees flag) {borrowed : List Ref} (session : Session)
  (debug : Bool)
include agrees

theorem agrees_registryCall {name : String} (other : name ≠ Registry.debugGlobal) {arguments : List Ref}
    (lent : ∀ ref ∈ arguments, ref ∈ borrowed) :
    Act.Agrees flag borrowed 0 (engine.registryCall session name arguments)
      (engine.registryCall (session.debugging debug) name arguments) ({·}) := by
  refine (agrees_moduleOf session debug).bind fun module => Agrees.lending ?_ rfl
  exact (agrees_callMethod agrees module other fun ref member => List.mem_append_right _ (lent ref member)).adapt _

theorem agrees_makeProxy {value : Ref} (lent : value ∈ borrowed) :
    Act.Agrees flag borrowed 0 (engine.makeProxy session value) (engine.makeProxy (session.debugging debug) value)
      fun _ => 0 := by
  refine (agrees_registryCall agrees session debug (by decide) (by simpa using lent)).bind fun issued => ?_
  refine Agrees.lending ?_ rfl
  refine (Agrees.textOf issued).bind fun text => ?_
  cases text with
  | none =>
    refine .get_bind fun world world' frame twins lent => ?_
    rw [typeNameFor_alike session debug twins.alike]
    exact .throw _ (by rwa [zero_add] at twins)
  | some key =>
    exact (agrees_traceLine _ _ 1 _).bind fun _ =>
      Agrees.step (fun world => ⟨rfl, rfl, world.steady_newObject _ _ _⟩) fun _ => rfl

theorem agrees_toHostOrProxy {value : Ref} (lent : value ∈ borrowed) :
    Act.Agrees flag borrowed 0 (engine.toHostOrProxy session value)
      (engine.toHostOrProxy (session.debugging debug) value) fun _ => 0 := by
  refine (agrees_toHost session debug value).outcome.bind fun result => ?_
  cases result with
  | ok converted => exact .pure rfl
  | error error =>
    cases error with
    | unsupportedGuestType => exact agrees_makeProxy agrees session debug lent
    | _ => exact .throw _

omit agrees in
theorem agrees_isCallable (ref : Ref) :
    Act.Agrees flag borrowed 0 (isCallable ref) (isCallable ref) fun _ => 0 :=
  (Agrees.kindOf ref).bind fun _ => .pure rfl

omit agrees in
theorem agrees_spread (value : Ref) :
    Act.Agrees flag borrowed {value} (spread value) (spread value) fun refs => refs := by
  refine (Agrees.itemsOf value).bind fun items => ?_
  cases items with
  | none => exact .pure (by simp)
  | some items =>
    have given : Act.Agrees flag borrowed ((([value] : List Ref) : Multiset Ref) + items)
        (change (·.release value) : BridgeAct Unit) (change (·.release value)) fun _ => items := .releaseAll [value]
    exact (given.congr (add_comm _ _) fun _ => rfl).bind fun _ => .pure rfl

theorem agrees_callFunction {name : String} (apart : name ∉ Registry.tracingGlobals) (argument : Option HostValue) :
    Act.Agrees flag borrowed 0 (engine.callFunction session name argument)
      (engine.callFunction (session.debugging debug) name argument) fun _ => 0 := by
  refine (agrees_traceLine _ _ 0 _).bind fun _ => ?_
  refine (agrees_moduleOf session debug).bind fun module => Agrees.lending ?_ rfl
  refine ((agrees_getattr module (Registry.ne_debugGlobal apart)).adapt _).bind fun callable => Agrees.lending ?_ rfl
  refine (agrees_isCallable callable).bind fun _ => ?_
  extract_lets proceed convert proceed' convert'
  have proceeds (arguments : List Ref) :
      Act.Agrees flag ([callable] ++ ([module] ++ borrowed)) (arguments : Multiset Ref)
      (proceed arguments) (proceed' arguments) fun _ => 0 := by
    refine Agrees.lending (Agrees.bind ((agrees.call _ callable arguments [] ?_ (List.forall_mem_nil _)).adapt _)
      fun result => ?_) rfl
    · exact fun ref member => List.mem_append_left _ member
    · refine Agrees.lending ((Agrees.kindOf result).bind fun kind => ?_) rfl
      split
      · exact (agrees_traceLine _ _ 0 _).bind fun _ => .pure rfl
      · exact (agrees_toHost session debug result).bind fun _ => .pure rfl
  have converts : Act.Agrees flag ([callable] ++ ([module] ++ borrowed)) 0 (convert ()) (convert' ()) fun _ => 0 := by
    cases argument with
    | none => exact proceeds []
    | some value =>
      refine (agrees_toGuestAt session debug 0 value _).bind fun converted => ?_
      exact (agrees_spread converted).bind proceeds
  split
  · exact (agrees_warn _).bind fun _ => .throw_bind _ _ _
  · exact converts

theorem agrees_assign (object : Ref) (names : List String) (message : String) {name : String}
    (apart : ∀ global ∈ Registry.tracingGlobals, Text.equalIgnoringAsciiCase global name = false)
    (arguments : List HostValue) :
    Act.Agrees flag borrowed 0 (engine.assign session object names message name arguments)
      (engine.assign (session.debugging debug) object names message name arguments) fun _ => 0 := by
  cases arguments with
  | nil => exact .throw _
  | cons value rest =>
    refine (agrees_toGuestAt session debug 0 value _).bind fun converted => Agrees.lending ?_ rfl
    refine ((agrees_setattr object (Registry.ne_debugOn (findAttribute_apart apart rfl)) converted).adapt _).bind
      fun _ => ?_
    exact agrees_toHostOrProxy agrees session debug (by simp)

theorem agrees_sendTo (object : Ref) (names : List String) {name : String}
    (apart : ∀ global ∈ Registry.tracingGlobals, Text.equalIgnoringAsciiCase global name = false)
    (arguments : List HostValue) :
    Act.Agrees flag borrowed 0 (engine.sendTo session object names name arguments)
      (engine.sendTo (session.debugging debug) object names name arguments) fun _ => 0 := by
  unfold sendTo
  split
  · refine .get_bind fun world world' frame twins lent => ?_
    rw [typeNameFor_alike session debug twins.alike]
    exact .throw _ (by rwa [zero_add] at twins)
  · rename_i spelling found
    have other := Registry.ne_debugGlobal (findAttribute_apart apart (by rw [found, Option.getD_some]))
    refine ((agrees_getattr object other).adapt _).bind fun value => Agrees.lending ?_ rfl
    refine (agrees_isCallable value).bind fun _ => ?_
    split
    · refine (Agrees.collect #[] fun item _ => agrees_toGuestAt session debug 0 item _).bind fun converted => ?_
      refine Agrees.lending ?_ rfl
      refine ((Registry.agrees_callWithArguments agrees _ value ?_).adapt _).bind fun result => ?_
      · exact fun ref member => List.mem_append_left _ member
      · exact Agrees.lending (agrees_toHostOrProxy agrees session debug (by simp)) rfl
    · exact agrees_toHostOrProxy agrees session debug (by simp)

theorem agrees_callProxy (proxy : HostValue) {name : String} (apart : asksMessage name = false)
    (arguments : List HostValue) :
    Act.Agrees flag borrowed 0 (engine.callProxy session proxy name arguments)
      (engine.callProxy (session.debugging debug) proxy name arguments) fun _ => 0 := by
  have apart := asksMessage_eq_false apart
  refine (agrees_target session debug proxy).bind fun object => Agrees.lending ?_ rfl
  refine (agrees_traceLine _ _ 0 _).bind fun _ => ?_
  refine ((Agrees.onView fun _ _ like => like.dir object.handle).adapt _).bind fun names => ?_
  split
  · rename_i assigned found
    rw [found] at apart
    exact agrees_assign agrees session debug object names name apart arguments
  · rename_i found
    rw [found] at apart
    exact agrees_sendTo agrees session debug object names apart arguments

theorem agrees_proxyText (proxy : HostValue) :
    Act.Agrees flag borrowed 0 (engine.proxyText session proxy) (engine.proxyText (session.debugging debug) proxy)
      fun _ => 0 := by
  refine (agrees_target session debug proxy).bind fun object => Agrees.lending ?_ rfl
  exact (agrees_str agrees object (by simp)).adapt _

omit session debug in
theorem agrees_dispatch (route : Route) (invocation : Invocation)
    (lent : ∀ ref ∈ invocation.arguments, ref ∈ borrowed) :
    Act.Agrees flag borrowed 0 (engine.dispatch route invocation) (engine.dispatch route invocation) ({·}) := by
  unfold dispatch
  refine (Agrees.lift _).bind fun bound => ?_
  refine (Agrees.textOf bound).bind fun text => ?_
  cases text with
  | none => exact .throw _
  | some method =>
    refine .get_bind fun world world' frame twins lentNow => ?_
    rcases Session.cases_of_plain (twins.alike.aliveSession? route.session) with ⟨gone, gone'⟩ |
      ⟨session, debug, alive, alive'⟩
    · rw [gone, gone']
      exact Agrees.throw _ world world' frame twins lentNow
    · rw [alive, alive']
      refine Agrees.holding rfl ?_ world world' frame twins lentNow
      extract_lets arguments count
      refine (agrees_traceLine _ _ 1 _).bind fun _ => ?_
      refine (Agrees.mapM fun argument listed => ?_).bind fun proxies => ?_
      · exact (agrees_makeProxy agrees session debug (lent argument (List.mem_of_mem_drop listed))).adapt _
      · exact ((agrees.send _ _ _ _).adapt _).bind fun _ => Registry.agrees_noneValue _

section Definitions

omit agrees in
theorem agrees_callbacks (route : Route) (methods : List String) :
    Act.Agrees flag borrowed 0 (callbacks session route methods) (callbacks (session.debugging debug) route methods)
      fun refs => refs := by
  refine Agrees.collect #[] fun name _ => Agrees.adapt _ ?_
  refine (Registry.agrees_newText _ name).bind fun bound => ?_
  exact Agrees.lending (.ownedBy (Guest.Space.balanced_newFunction .lasting _ _ _)
    (Guest.Space.follows_newFunction _ _ _).agrees) rfl

theorem agrees_resolveBase (base : String) :
    Act.Agrees flag borrowed 0 (engine.resolveBase session base) (engine.resolveBase (session.debugging debug) base)
      ({·}) := by
  refine (agrees_newText session.space base).bind fun name => ?_
  have called : Act.Agrees flag ([name] ++ borrowed) 0 (engine.registryCall session "resolve_function" [name])
      (engine.registryCall (session.debugging debug) "resolve_function" [name]) ({·}) :=
    agrees_registryCall agrees session debug (by decide) (by simp)
  refine ((called.lending rfl).adapt _).bind fun resolved => ?_
  refine (Agrees.kindOf resolved).bind fun kind => ?_
  split
  · exact .pure rfl
  · exact (Agrees.release resolved).bind fun _ => .throw _

theorem agrees_prepareClass (className base : String) (methods : List String) :
    Act.Agrees flag borrowed 0 (engine.prepareClass session className base methods)
      (engine.prepareClass (session.debugging debug) className base methods) fun found => {found.1} + {found.2} := by
  unfold prepareClass
  extract_lets shown
  refine (agrees_traceLine _ _ 0 _).bind fun _ => ?_
  split
  · exact .throw_bind _ _ _
  refine (agrees_moduleOf session debug).bind fun module => ?_
  extract_lets found found'
  have finds : Act.Agrees flag ([module] ++ borrowed) 0 found found' ({·}) := by
    refine ((Agrees.onView fun _ _ like => like.dir module.handle).adapt _).bind fun globals => ?_
    extract_lets
    split
    · exact .throw _
    · exact agrees_resolveBase agrees session debug base
  exact finds.onFailure.bind fun baseType => .pure rfl

theorem agrees_publishClass (origin : HostValue) (className : String) (baseType : Ref) (methods : List String)
    (functions : List Ref) :
    Act.Agrees flag borrowed {baseType} (engine.publishClass session origin className baseType methods functions)
      (engine.publishClass (session.debugging debug) origin className baseType methods functions) fun _ => 0 := by
  refine Agrees.bind (Agrees.lending ((Agrees.ownedBy (Guest.Space.balanced_newType .lasting _ _ _)
    (Guest.Space.follows_newType _ _ _).agrees).adapt _) rfl) fun type => ?_
  refine (agrees_newText session.space className).onFailure.bind fun name => ?_
  refine Agrees.bind (?_ : Act.Agrees _ _ _ _ _ fun _ => 0) fun _ => ?_
  · refine Agrees.lending ?_ (add_comm _ _)
    refine (agrees_registryCall agrees session debug (by decide) fun ref member => ?_).bind fun published =>
      .release published
    exact List.mem_append_left _ member
  · have activated : Act.Agrees flag borrowed 0
        (change (·.updateSession session.id fun state => { state with active := some { origin, className } }) :
          BridgeAct Unit)
        (change (·.updateSession (session.debugging debug).id
          fun state => { state with active := some { origin, className } })) fun _ => 0 :=
      fun _ _ _ twins _ => .change (twins.updateSession session.id (fun _ => ⟨rfl, rfl⟩) fun _ => rfl)
    exact activated.bind fun _ => agrees_traceLine _ _ 0 _

theorem agrees_defineClass (origin : HostValue) (className base : String) (methods : List String) :
    Act.Agrees flag borrowed 0 (engine.defineClass session origin className base methods)
      (engine.defineClass (session.debugging debug) origin className base methods) fun _ => 0 := by
  refine (agrees_prepareClass agrees session debug className base methods).bind fun found => ?_
  obtain ⟨module, baseType⟩ := found
  refine Agrees.lendingOwned (?_ : Act.Agrees _ _ {baseType} _ _ _) rfl
  refine (agrees_callbacks session debug _ methods).onFailure.bind fun functions => ?_
  exact Agrees.lendingOwned (agrees_publishClass agrees session debug origin className baseType methods functions)
    (add_comm _ _)

end Definitions

end Engine

end ObjectBridge

import ObjectBridge.Bridge.Callback
import ObjectBridge.Bridge.Invoke
import ObjectBridge.Proofs.World.Services
import ObjectBridge.Proofs.World.Sessions

/-!
Balance of the traffic between the sides: proxies, conversions, calls from the Host and callbacks. A proxy
owns no reference; what it leads to is kept by the registry.
-/

namespace ObjectBridge

open Guest (Extent Handle)

namespace Bridge

open Act

variable [World.Passing] {ε : Type} {extent : Extent} {borrowed : List Ref} {owned : Multiset Ref}

theorem balanced_traceLine (config : Config) (depth : Nat) (line : String) :
    Balanced extent borrowed owned (traceLine config depth line : Act ε Unit) fun _ => owned := by
  unfold traceLine
  split
  · exact .trace fun _ => ⟨_, rfl⟩
  · exact .pure rfl

theorem balanced_warn (line : String) :
    Balanced extent borrowed owned (warn line : Act ε Unit) fun _ => owned :=
  .trace fun _ => ⟨_, rfl⟩

theorem balanced_dereference (session : Session) (reference : OpaqueReference) :
    Balanced extent borrowed 0 (dereference session reference) ({·}) := by
  refine .get_bind fun world frame exact lent => ?_
  extract_lets owner
  split
  · exact (Balanced.ownedBy (Guest.Space.balanced_acquire extent _)).adapt _ world frame exact lent
  · exact ((balanced_warn _).bind fun _ => .throw _) world frame exact lent

theorem balanced_moduleOf (session : Session) :
    Balanced extent borrowed 0 (moduleOf session) ({·}) := by
  refine .get_bind fun world frame exact lent => ?_
  cases found : world.sessionModule? session with
  | none => exact .throw _
  | some module =>
    have live := exact.live (Multiset.mem_add.mpr (Or.inr (World.mem_outside_of_sessionModule? found)))
    have taken : Settles extent world 0 (change (·.retain module) : BridgeAct Unit) fun _ => {module} :=
      World.passes_retain extent exact live
    exact taken.bind fun _ _ => .pure rfl

theorem balanced_unsupported (session : Session) (value : Ref) :
    Balanced extent borrowed 0 (unsupported session value) fun _ => 0 :=
  .get_bind fun world frame exact lent => Balanced.throw _ world frame exact lent

theorem balanced_toHostWithin (session : Session) (levels : Nat) (value : Ref) (borrowed : List Ref) :
    Balanced extent borrowed 0 (toHostWithin session levels value) fun _ => 0 := by
  induction levels generalizing value borrowed with
  | zero => exact balanced_unsupported session value
  | succ levels ih =>
    refine Balanced.bind (Balanced.view _) fun kind => ?_
    split
    · exact .pure rfl
    · refine (Balanced.view _).bind fun text => ?_
      cases text with
      | some content => exact .pure rfl
      | none => exact balanced_unsupported session value
    · refine (Balanced.itemsOf value).bind fun items => ?_
      cases items with
      | some items =>
        exact Balanced.lending ((Balanced.mapM fun item _ => ih item _).bind fun _ => .pure rfl) (add_zero _)
      | none => exact balanced_unsupported session value
    · exact balanced_unsupported session value

theorem balanced_toHost (session : Session) (value : Ref) :
    Balanced extent borrowed 0 (toHost session value) fun _ => 0 :=
  .get_bind fun world frame exact lent => balanced_toHostWithin session _ value borrowed world frame exact lent

theorem balanced_target (session : Session) (value : HostValue) :
    Balanced extent borrowed 0 (target session value) ({·}) := by
  unfold target
  split
  · exact balanced_dereference session _
  · exact .throw _

mutual

theorem balanced_toGuestAt (session : Session) (depth : Nat) (value : HostValue) (borrowed : List Ref) :
    Balanced extent borrowed 0 (toGuestAt session depth value) ({·}) := by
  unfold toGuestAt
  refine (balanced_traceLine session.config depth _).bind fun _ => ?_
  cases value with
  | nil => exact (Balanced.ownedBy (Guest.Space.balanced_noneValue extent)).adapt _
  | text content => exact (Balanced.ownedBy (Guest.Space.balanced_newText extent content)).adapt _
  | array items =>
    refine (balanced_itemsToGuest session (depth + 1) #[] items borrowed).bind fun converted => ?_
    exact Balanced.lending ((Balanced.ownedBy (Guest.Space.balanced_newTuple extent _)).adapt _) rfl
  | object content =>
    refine .get_bind fun world frame exact lent => ?_
    extract_lets host
    split
    · split
      · exact balanced_dereference session _ world frame exact lent
      · exact .throw _
    · exact .throw _

theorem balanced_itemsToGuest (session : Session) (depth : Nat) (done : Array Ref) (items : List HostValue)
    (borrowed : List Ref) :
    Balanced extent borrowed (done.toList : Multiset Ref) (itemsToGuest session depth done items)
      fun refs => refs := by
  cases items with
  | nil =>
    unfold itemsToGuest
    exact .pure rfl
  | cons item rest =>
    unfold itemsToGuest
    have first := balanced_toGuestAt session depth item (done.toList ++ borrowed)
    refine first.onFailure.bind fun ref => ?_
    have later := balanced_itemsToGuest session depth (done.push ref) rest borrowed
    rw [Array.toList_push, ← Multiset.coe_add] at later
    exact later

end

end Bridge

def World.Binds (world : World) (session : Session) (name : String) (callable : Ref) : Prop :=
  ∃ module space, world.sessionModule? session = some module ∧
    (Guest.Space.getattr module.handle name).run ((world.retain module).space session.space) =
      .ok (callable.handle, space) ∧ callable.space = session.space

/-- A call of the object goes no further than the extent, whatever the arguments are. -/
def Engine.CallsWithin [World.Passing] (engine : Engine) (extent : Extent) (space : SpaceId) (callable : Ref) : Prop :=
  ∀ borrowed arguments : List Ref, (∀ ref ∈ arguments, ref ∈ borrowed) →
    Act.Balanced extent borrowed 0 (engine.call space callable arguments []) ({·})

theorem Bridge.run_traceLine {ε : Type} (config : Config) (depth : Nat) (line : String) (world : World) :
    ∃ trace, (traceLine config depth line : Act ε Unit).run world = (.ok (), { world with trace }) := by
  unfold traceLine
  split
  · exact ⟨_, rfl⟩
  · exact ⟨world.trace, rfl⟩

theorem Bridge.leads_traceLine {ε : Type} (extent : Extent) (config : Config) (depth : Nat) (line : String)
    (world : World) (loose : Multiset Ref) :
    ∃ traced, (traceLine config depth line : Act ε Unit).run world = (.ok (), traced) ∧
      World.Leads extent (world, loose) (traced, loose) := by
  obtain ⟨trace, ran⟩ := run_traceLine (ε := ε) config depth line world
  exact ⟨_, ran, World.leads_trace world loose trace⟩

theorem Bridge.run_moduleOf_eq_ok {session : Session} {world after : World} {module : Ref} :
    (moduleOf session).run world = (.ok module, after) ↔
      world.sessionModule? session = some module ∧ after = world.retain module := by
  unfold moduleOf
  rw [Act.run_get_bind]
  rcases world.sessionModule? session with _ | found
  · exact ⟨nofun, fun found => nomatch found.1⟩
  · constructor
    · rintro ⟨⟩
      exact ⟨rfl, rfl⟩
    · rintro ⟨⟨⟩, rfl⟩
      rfl

theorem Bridge.binds_of_run {session : Session} {config : Config} {depth : Nat} {line name : String}
    {restate : Guest.Exception → Error} {world traced held fetched : World} {module callable : Ref} {nothing : Unit}
    (ranTrace : (traceLine config depth line : BridgeAct Unit).run world = (.ok nothing, traced))
    (ranModule : (moduleOf session).run traced = (.ok module, held))
    (ranCallable : ((Act.getattr session.space module name).adapt restate).run held = (.ok callable, fetched)) :
    world.Binds session name callable := by
  obtain ⟨trace, ran⟩ := run_traceLine (ε := Error) config depth line world
  obtain rfl : traced = { world with trace } := by
    rw [ran] at ranTrace
    exact (Prod.mk.inj ranTrace).2.symm
  obtain ⟨found, rfl⟩ := run_moduleOf_eq_ok.mp ranModule
  rw [Act.run_adapt, Act.getattr, Act.run_ownedBy] at ranCallable
  rcases answered : (Guest.Space.getattr module.handle name).run
      ((World.retain { world with trace } module).space session.space) with exception | ⟨handle, space⟩
  all_goals rw [answered] at ranCallable
  · cases ranCallable
  · cases ranCallable
    exact ⟨module, space, found, answered, rfl⟩

theorem Engine.Balanced.callsWithin [World.Passing] {engine : Engine} (balanced : engine.Balanced) (space : SpaceId)
    (callable : Ref) :
    engine.CallsWithin .lasting space callable :=
  fun _ arguments lent => balanced.call space callable arguments [] lent (List.forall_mem_nil _)

namespace Engine

open Act Bridge

variable [World.Passing] {engine : Engine} (balanced : engine.Balanced) {borrowed : List Ref}
include balanced

theorem balanced_registryCall (session : Session) (name : String) {arguments : List Ref}
    (lent : ∀ ref ∈ arguments, ref ∈ borrowed) :
    Act.Balanced .lasting borrowed 0 (engine.registryCall session name arguments) ({·}) := by
  refine (balanced_moduleOf session).bind fun module => Balanced.lending ?_ rfl
  exact (balanced_callMethod balanced module name fun ref member =>
    List.mem_append_right _ (lent ref member)).adapt _

theorem balanced_makeProxy (session : Session) {value : Ref} (lent : value ∈ borrowed) :
    Act.Balanced .lasting borrowed 0 (engine.makeProxy session value) fun _ => 0 := by
  refine (balanced_registryCall balanced session "store_object" (by simpa using lent)).bind fun issued => ?_
  refine Balanced.lending ?_ rfl
  refine (Balanced.view _).bind fun text => ?_
  cases text with
  | none => exact .get_bind fun _ _ _ _ => .throw _
  | some key =>
    exact (balanced_traceLine session.config 1 _).bind fun _ =>
      .step fun world => ⟨rfl, rfl, World.steady_newObject world _ _ _⟩

theorem balanced_toHostOrProxy (session : Session) {value : Ref} (lent : value ∈ borrowed) :
    Act.Balanced .lasting borrowed 0 (engine.toHostOrProxy session value) fun _ => 0 := by
  refine (balanced_toHost session value).outcome.bind fun result => ?_
  cases result with
  | ok converted => exact .pure rfl
  | error error =>
    cases error with
    | unsupportedGuestType => exact balanced_makeProxy balanced session lent
    | _ => exact .throw _

omit balanced in
theorem balanced_spread {extent : Extent} (value : Ref) :
    Act.Balanced extent borrowed {value} (spread value) fun refs => refs := by
  refine (Balanced.itemsOf value).bind fun items => ?_
  cases items with
  | none => exact .pure (by simp)
  | some items =>
    have given : Act.Balanced extent borrowed ((([value] : List Ref) : Multiset Ref) + items)
        (change (·.release value) : BridgeAct Unit) fun _ => items := .releaseAll [value]
    exact (given.congr (add_comm _ _) fun _ => rfl).bind fun _ => .pure rfl

omit balanced in
theorem settles_callFunction {extent : Extent} {world : World} {frame : Multiset Ref} (exact : world.Exact (0 + frame))
    (session : Session) (name : String) (argument : Option HostValue)
    (calls : ∀ callable, world.Binds session name callable → engine.CallsWithin extent session.space callable) :
    Settles extent world 0 (engine.callFunction session name argument) fun _ => 0 := by
  refine (balanced_traceLine _ _ _).settles_bind exact fun _ traced ranTrace exactTraced => ?_
  refine (balanced_moduleOf session).settles_bind exactTraced fun module held ranModule exactHeld => ?_
  refine Settles.lending ?_ exactHeld
  rw [← zero_add ({module} + frame)] at exactHeld
  refine ((balanced_getattr module name).adapt _).settles_bind exactHeld
    fun callable fetched ranCallable exactFetched => ?_
  refine Settles.lending ?_ exactFetched
  have within : engine.CallsWithin extent session.space callable :=
    calls callable (binds_of_run ranTrace ranModule ranCallable)
  refine Balanced.settles ?_ (by rwa [zero_add] : fetched.Exact (0 + ({callable} + ({module} + frame))))
  refine (Balanced.view _).bind fun kind => ?_
  extract_lets proceed convert
  have proceeds (arguments : List Ref) : Act.Balanced extent [] arguments (proceed arguments) fun _ => 0 := by
    refine Balanced.lending (Balanced.bind ((within _ arguments ?_).adapt _) fun result => ?_) rfl
    · exact fun ref member => List.mem_append_left _ member
    · refine Balanced.lending ((Balanced.view _).bind fun kind => ?_) rfl
      split
      · exact (balanced_traceLine _ _ _).bind fun _ => .pure rfl
      · exact (balanced_toHost session result).bind fun _ => .pure rfl
  have converts : Act.Balanced extent [] 0 (convert ()) fun _ => 0 := by
    cases argument with
    | none => exact proceeds []
    | some value =>
      refine (balanced_toGuestAt session 0 value _).bind fun converted => ?_
      exact (balanced_spread converted).bind proceeds
  split
  · exact (balanced_warn _).bind fun _ => .throw_bind _ _
  · exact converts

theorem balanced_callFunction (session : Session) (name : String) (argument : Option HostValue) :
    Act.Balanced .lasting borrowed 0 (engine.callFunction session name argument) fun _ => 0 :=
  fun _ _ exact _ => settles_callFunction exact session name argument fun callable _ =>
    balanced.callsWithin session.space callable

theorem balanced_assign (session : Session) (object : Ref) (names : List String) (message name : String)
    (arguments : List HostValue) :
    Act.Balanced .lasting borrowed 0 (engine.assign session object names message name arguments)
      fun _ => 0 := by
  cases arguments with
  | nil => exact .throw _
  | cons value rest =>
    refine (balanced_toGuestAt session 0 value _).bind fun converted => Balanced.lending ?_ rfl
    refine ((balanced_setattr object _ converted).adapt _).bind fun _ => ?_
    exact balanced_toHostOrProxy balanced session (by simp)

theorem balanced_sendTo (session : Session) (object : Ref) (names : List String) (name : String)
    (arguments : List HostValue) :
    Act.Balanced .lasting borrowed 0 (engine.sendTo session object names name arguments) fun _ => 0 := by
  unfold sendTo
  split
  · exact .get_bind fun _ _ _ _ => .throw _
  · refine ((balanced_getattr object _).adapt _).bind fun value => Balanced.lending ?_ rfl
    refine (Balanced.view _).bind fun kind => ?_
    split
    · refine (Balanced.collect #[] fun item _ => balanced_toGuestAt session 0 item _).bind fun converted => ?_
      refine Balanced.lending ?_ rfl
      refine ((Registry.balanced_callWithArguments balanced _ value ?_).adapt _).bind fun result => ?_
      · exact fun ref member => List.mem_append_left _ member
      · exact Balanced.lending (balanced_toHostOrProxy balanced session (by simp)) rfl
    · exact balanced_toHostOrProxy balanced session (by simp)

theorem balanced_callProxy (session : Session) (proxy : HostValue) (name : String)
    (arguments : List HostValue) :
    Act.Balanced .lasting borrowed 0 (engine.callProxy session proxy name arguments) fun _ => 0 := by
  refine (balanced_target session proxy).bind fun object => Balanced.lending ?_ rfl
  refine (balanced_traceLine _ _ _).bind fun _ => ?_
  refine ((Balanced.onView _).adapt _).bind fun names => ?_
  split
  · exact balanced_assign balanced session object names name _ arguments
  · exact balanced_sendTo balanced session object names name arguments

theorem balanced_proxyText (session : Session) (proxy : HostValue) :
    Act.Balanced .lasting borrowed 0 (engine.proxyText session proxy) fun _ => 0 := by
  refine (balanced_target session proxy).bind fun object => Balanced.lending ?_ rfl
  exact (balanced_str balanced object (by simp)).adapt _

theorem balanced_dispatch (route : Route) (invocation : Invocation)
    (lent : ∀ ref ∈ invocation.arguments, ref ∈ borrowed) :
    Act.Balanced .lasting borrowed 0 (engine.dispatch route invocation) ({·}) := by
  unfold dispatch
  refine (Balanced.lift _).bind fun bound => ?_
  refine (Balanced.view _).bind fun text => ?_
  cases text with
  | none => exact .throw _
  | some method =>
    refine .get_bind fun world frame exact lentNow => ?_
    cases world.aliveSession? route.session with
    | none => exact .throw _
    | some session =>
      refine Balanced.holding session ?_ world frame exact lentNow
      extract_lets arguments count
      refine (balanced_traceLine _ _ _).bind fun _ => ?_
      refine (Balanced.mapM fun argument listed => ?_).bind fun proxies => ?_
      · exact (balanced_makeProxy balanced session (lent argument (List.mem_of_mem_drop listed))).adapt _
      · exact ((balanced.send _ _ _ _).adapt _).bind fun _ =>
          .ownedBy (Guest.Space.balanced_noneValue .lasting)

end Engine

end ObjectBridge

import ObjectBridge.Bridge.Process
import ObjectBridge.Proofs.World.Definitions
import ObjectBridge.Proofs.World.Modules

/-!
Balance of the life of sessions. A session that is opened takes over the reference to its module; the
space of one that is closed ends, whatever is still referred to in it.
-/

namespace ObjectBridge

open Guest (Extent Handle)

namespace World

variable {world : World} {loose frame : Multiset Ref}

theorem onlyLoses_finalize (world : World) (id : SpaceId) :
    world.OnlyLoses (world.setSpace id (world.space id).finalize.2) :=
  onlyLoses_setSpace (world.space id).onlyLoses_finalize

theorem leads_finalize (world : World) (loose : Multiset Ref) (id : SpaceId) :
    Leads .lasting (world, loose) (world.setSpace id (world.space id).finalize.2, loose) := by
  by_cases known : id.index < world.spaces.size
  · exact leads_setSpace known (.single (.finalize _)) fun _ _ => rfl
  · rw [setSpace_of_unknown known]
    exact .refl world loose

theorem space_addSpace (world : World) (id : SpaceId) :
    world.addSpace.2.space id = if id.index = world.spaces.size then .start else world.space id := by
  simp only [space, addSpace, Array.getElem?_push]
  split <;> rfl

theorem leads_addSpace (exact : world.Exact (loose + frame)) :
    Leads .lasting (world, loose) (world.addSpace.2, loose) := by
  have size : world.addSpace.2.spaces.size = world.spaces.size + 1 := by simp [addSpace]
  refine ⟨size ▸ Nat.le_succ _, fun known ref member => ?_, fun id here => ?_, .of_same rfl rfl rfl, nofun⟩
  · have earlier := known ref member
    exact size ▸ Nat.lt_succ_of_lt earlier
  · have carries : world.addSpace.2.carried .lasting = world.outside := rfl
    by_cases there : id.index < world.spaces.size
    · rw [origin, if_pos there, space_addSpace, if_neg there.ne, carries]
      exact .refl
    · have last : id.index = world.spaces.size := Nat.le_antisymm (by simp only [size] at here; omega) (Nat.not_lt.mp there)
      have nobody : heldIn id (loose + world.outside) = 0 := by
        have known := exact.known
        rw [add_right_comm, knows_add] at known
        exact heldIn_of_unknown known.1 there
      rw [origin, if_neg there, space_addSpace, if_pos last, carries, nobody]

theorem wellTyped_addSpace (typed : world.WellTyped) : world.addSpace.2.WellTyped := by
  intro id
  rw [space_addSpace]
  split
  · exact Guest.Space.wellTyped_start
  · exact typed id

theorem passes_addSpace [Passing] (exact : world.Exact (loose + frame)) :
    Passing.Passes .lasting (world, loose) (world.addSpace.2, loose) :=
  Passing.of_leads (leads_addSpace exact) fun _ _ _ => wellTyped_addSpace

theorem leads_openSession {state : SessionState} {module : Ref} (held : state.ref? = some module)
    (steady : Steady world { world with sessions := world.sessions.push state }) :
    Leads .lasting (world, {module}) ({ world with sessions := world.sessions.push state }, 0) := by
  refine leads_move rfl ?_ steady
  simp only [outside, Array.toList_push, List.filterMap_append, List.filterMap_cons, held, List.filterMap_nil,
    ← Multiset.coe_add, Multiset.coe_singleton, zero_add]
  rw [← add_assoc, add_right_comm]
  exact add_comm _ _

end World

namespace Bridge

open Act

theorem proxyClassFor_keeps (world : World) (host : Host.HostId) (name : String) :
    (proxyClassFor world host name).2.spaces = world.spaces ∧
      (proxyClassFor world host name).2.outside = world.outside ∧
        World.Steady world (proxyClassFor world host name).2 := by
  unfold proxyClassFor
  split
  · exact ⟨rfl, rfl, .refl world⟩
  · have built : World.Steady world (world.buildClass name none proxyMethods).2 := .of_same rfl rfl rfl
    exact ⟨rfl, rfl, built.trans (World.steady_register _ host _)⟩

theorem findClass_proxyClassFor {world : World} (prepared : world.Prepared) {host : Host.HostId}
    (known : host.index < world.hosts.size) (name : String) :
    (((proxyClassFor world host name).2.host host).findClass (proxyClassFor world host name).1.name).isSome := by
  unfold proxyClassFor
  split
  · rename_i family found
    have named : Text.asciiUppercase family.name = Text.asciiUppercase name :=
      prepared.named_host host _ family found
    simp only [Host.Interpreter.findClass, named] at found ⊢
    rw [found, Option.isSome_some]
  · have there : host.index < (world.buildClass name none proxyMethods).2.hosts.size := known
    simp [World.host_setHost there, Host.Interpreter.findClass, Host.Interpreter.register, Bindings.get?_insert]

variable [World.Passing] {borrowed : List Ref}

theorem balanced_finalizeSpace (space : SpaceId) :
    Act.Balanced .lasting borrowed 0 (finalizeSpace space) fun _ => 0 := by
  refine .get_bind fun world frame exact lent => ?_
  have ended : Settles .lasting world 0
      (change (·.setSpace space (world.space space).finalize.2) : Act Guest.TeardownError Unit) fun _ => 0 :=
    (World.leads_finalize world 0 space).passes (world.onlyLoses_finalize space)
  exact ended.bind fun _ _ => .lift _ fun _ _ => rfl

theorem balanced_close (session : Session) :
    Act.Balanced .lasting borrowed 0 (close session) fun _ => 0 := by
  refine .get_bind fun world frame exact lent => ?_
  split
  · exact .pure rfl
  have dropped : Settles .lasting world 0 (change (·.dropModule session) : BridgeAct Unit) fun _ => 0 :=
    (World.leads_dropModule session exact).passes (world.onlyLoses_dropModule session)
  refine dropped.bind fun _ _ => ?_
  have deactivated : Act.Balanced .lasting borrowed 0
      (change (·.updateSession session.id fun state => { state with active := none }) : BridgeAct Unit)
      fun _ => 0 := by
    intro world _ _ _
    have kept : World.Leads .lasting (world, 0) (world.updateSession session.id fun state =>
        { state with active := none }, 0) :=
      World.leads_updateSession fun _ => ⟨rfl, rfl⟩
    exact kept.passes (.of_spaces rfl)
  have closed : Act.Balanced .lasting borrowed 0
      ((finalizeSpace session.space).adapt Error.finalizeFailure) fun _ => 0 :=
    (balanced_finalizeSpace _).adapt _
  exact (deactivated.bind fun _ => (balanced_traceLine _ _ _).bind fun _ => closed) _ frame
    (dropped.exact exact) lent

theorem balanced_retire (session : Session) (occasion : String) :
    Act.Balanced .lasting borrowed 0 (retire session occasion) fun _ => 0 := by
  refine (balanced_close session).outcome.bind fun result => ?_
  extract_lets proceed
  have proceeds (status : Status) : Act.Balanced .lasting borrowed 0 (proceed status) fun _ => 0 := by
    have dropped : Act.Balanced .lasting borrowed 0 (change (·.dropSession session) : BridgeAct Unit)
        fun _ => 0 :=
      fun world _ exact _ => (World.leads_dropSession session exact).passes (world.onlyLoses_dropSession session)
    exact dropped.bind fun _ => .pure rfl
  cases result with
  | ok _ => exact proceeds .ok
  | error failure => exact (balanced_warn _).bind fun _ => proceeds .finalizeFailure

theorem balanced_finalizeProcess : Act.Balanced .lasting borrowed 0 finalizeProcess fun _ => 0 := by
  refine .get_bind fun world frame exact lent => ?_
  cases world.current with
  | none => exact .pure rfl
  | some session =>
    have taken : Act.Balanced .lasting borrowed 0
        (change fun world => { world with current := none } : BridgeAct Unit) fun _ => 0 :=
      .change fun _ => ⟨rfl, rfl, .of_same rfl rfl rfl⟩
    exact (taken.bind fun _ => balanced_retire session _) world frame exact lent

theorem balanced_withCurrent {α : Type} {operation : Session → BridgeAct α}
    (balanced : ∀ session, Act.Balanced .lasting borrowed 0 (operation session) fun _ => 0) :
    Act.Balanced .lasting borrowed 0 (withCurrent operation) fun _ => 0 := by
  refine .get_bind fun world frame exact lent => ?_
  cases world.current with
  | none => exact .throw _
  | some session => exact Balanced.holding session (balanced session) world frame exact lent

theorem balanced_textList (value : HostValue) :
    Act.Balanced .lasting borrowed 0 (textList value) fun _ => 0 := by
  unfold textList
  split
  · exact .throw _
  · refine .mapM fun item _ => ?_
    split
    · exact .pure rfl
    · exact .throw _

end Bridge

namespace Engine

open Act Bridge

variable [World.Passing] {engine : Engine} (balanced : engine.Balanced) {borrowed : List Ref}
include balanced

theorem balanced_openSession (host : Host.HostId) (config : Config) :
    Act.BalancedOn host borrowed 0 (engine.openSession host config) fun _ => 0 := by
  unfold openSession
  extract_lets proceed
  suffices proceeds : Act.BalancedOn host borrowed 0 (proceed ()) fun _ => 0 by
    split
    · exact (Balanced.throw_bind _ _).on
    · exact proceeds
  have added : Act.Balanced .lasting borrowed 0 (step (·.addSpace) : BridgeAct SpaceId) fun _ => 0 :=
    fun _ _ exact _ => World.passes_addSpace exact
  refine added.on.bind fun space world frame exact lent known => .get_bind ?_
  extract_lets found definition enter
  suffices all : Act.BalancedOn host borrowed 0 _ fun _ => 0 from all world frame exact lent known
  have defined : Act.Balanced .lasting borrowed 0
      (change (·.updateSpace space (·.addDefinition definition)) : BridgeAct Unit) fun _ => 0 :=
    fun _ _ _ _ => (World.leads_updateSpace (.single (.define _))).passes <|
      World.onlyLoses_updateSpace fun _ => .of_get? (fun _ _ => id) rfl rfl
  refine defined.on.bind fun _ => ?_
  have imported : Act.Balanced .lasting borrowed 0 (engine.importModule space config.moduleName) ({·}) :=
    balanced_importModule balanced _
  refine imported.outcome.on.bind_of (answers_importModule _).outcome fun result answered => ?_
  cases result with
  | error exception =>
    refine (balanced_finalizeSpace space).outcome.on.bind fun result => ?_
    cases result with
    | ok _ => exact (Balanced.throw_bind _ _).on
    | error failure => exact ((balanced_warn _).bind fun _ => .throw_bind _ _).on
  | ok module =>
    have here := answered module rfl
    show Act.BalancedOn host borrowed {module} (enter module) fun _ => 0
    unfold enter
    extract_lets open_
    have opens : Act.BalancedOn host borrowed {module} (open_ ()) fun _ => 0 := by
      intro world frame exact lent known
      have found : Settles .lasting world {module}
          (step (proxyClassFor · host config.proxyClass) : BridgeAct HostClass) fun _ => {module} :=
        Balanced.step (fun world => proxyClassFor_keeps world host config.proxyClass) world frame exact lent
      refine found.bind fun proxyClass ran => ?_
      obtain rfl : (proxyClassFor world host config.proxyClass).1 = proxyClass := by simpa [run_step] using ran
      have knownThen := known.trans_le found.leads.steady.hosts
      have traced : Settles .lasting (proxyClassFor world host config.proxyClass).2 {module}
          (traceLine config 0 _ : BridgeAct Unit) fun _ => {module} :=
        balanced_traceLine config 0 s!"session open (module {config.moduleName})" _ frame (found.exact exact) lent
      refine traced.bind fun _ _ => ?_
      refine (World.leads_openSession (by simp [SessionState.ref?, ← here]) ?_).passes (.of_spaces rfl)
      exact World.steady_open (knownThen.trans_le traced.leads.steady.hosts) <| traced.leads.steady.classes host _ knownThen <|
          findClass_proxyClassFor exact.prepared known config.proxyClass
    split
    · have switched : Act.Balanced .lasting ([module] ++ borrowed) 0
          (asBridge (engine.callMethod space module "debug_on" [])) ({·}) :=
        (balanced_callMethod balanced module _ (by simp)).adapt _
      refine switched.onFailure.on.bind fun answer => ?_
      have given : Act.Balanced .lasting borrowed ((([answer] : List Ref) : Multiset Ref) + {module})
          (change (·.release answer) : BridgeAct Unit) fun _ => {module} := .releaseAll [answer]
      exact (given.congr (add_comm _ _) fun _ => rfl).on.bind fun _ => opens
    · exact opens

theorem balanced_initializeProcess (host : Host.HostId) (config : Config) :
    Act.BalancedOn host borrowed 0 (engine.initializeProcess host config) fun _ => 0 := by
  refine (balanced_openSession balanced host config).bind fun session => Balanced.on ?_
  refine .get_bind fun world frame exact lent => ?_
  extract_lets previous
  have placed : Act.Balanced .lasting borrowed 0
      (change fun world => { world with current := some session } : BridgeAct Unit) fun _ => 0 :=
    .change fun _ => ⟨rfl, rfl, .of_same rfl rfl rfl⟩
  refine Balanced.bind placed (fun _ => ?_) world frame exact lent
  cases previous with
  | none => exact .pure rfl
  | some earlier => exact (balanced_retire _ _).bind fun _ => .pure rfl

theorem balanced_processCall (name : String) (argument : Option HostValue) :
    Act.Balanced .lasting borrowed 0 (engine.processCall name argument) fun _ => 0 :=
  balanced_withCurrent fun session => balanced_callFunction balanced session name argument

theorem balanced_processMethod (proxy : HostValue) (name : String) (arguments : List HostValue) :
    Act.Balanced .lasting borrowed 0 (engine.processMethod proxy name arguments) fun _ => 0 :=
  balanced_withCurrent fun session => balanced_callProxy balanced session proxy name arguments

theorem balanced_processText (proxy : HostValue) :
    Act.Balanced .lasting borrowed 0 (engine.processText proxy) fun _ => 0 :=
  balanced_withCurrent fun session => balanced_proxyText balanced session proxy

theorem balanced_processDefine (origin : HostValue) (className base : String) (methods : HostValue) :
    Act.Balanced .lasting borrowed 0 (engine.processDefine origin className base methods) fun _ => 0 :=
  balanced_withCurrent fun session => (balanced_textList methods).bind fun names =>
    balanced_defineClass balanced session origin className base names

end Engine

end ObjectBridge

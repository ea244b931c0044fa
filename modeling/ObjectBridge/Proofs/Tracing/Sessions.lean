import ObjectBridge.Proofs.Tracing.Proxies
import ObjectBridge.Proofs.World.Scripts

/-!
The life of sessions in twin worlds. To close a session comes to the same however it is configured to trace, and
so do the operations on the session of the process.
-/

namespace ObjectBridge

open Guest (Handle)

namespace Bridge

open Act

variable {flag : Flag} {borrowed : List Ref}

theorem agrees_finalizeSpace (space : SpaceId) :
    Agrees flag borrowed 0 (finalizeSpace space) (finalizeSpace space) fun _ => 0 := by
  refine .get_bind fun world world' frame twins lent => ?_
  have framed : world.Twins flag frame world' := by rwa [zero_add] at twins
  obtain ⟨exact, exact'⟩ := framed.exact_space space
  obtain ⟨same, like⟩ := (twins.alike.spaces space).finalize exact exact'
  have ended : Meets flag frame world world'
      (change (·.setSpace space (world.space space).finalize.2) : Act Guest.TeardownError Unit)
      (change (·.setSpace space (world'.space space).finalize.2)) fun _ => 0 :=
    .change (twins.of_leads (World.leads_finalize world 0 space) (World.leads_finalize world' 0 space)
      (twins.alike.setSpace like))
  refine ended.bind fun _ after after' _ _ twins => ?_
  have answered : Meets flag frame after after' (liftM (world.space space).finalize.1 : Act Guest.TeardownError Unit)
      (liftM (world'.space space).finalize.1) fun _ => 0 := by
    rw [same]
    exact .lift _ (fun _ => rfl) (by rwa [zero_add] at twins)
  exact answered

theorem agrees_close (session : Session) (debug : Bool) :
    Agrees flag borrowed 0 (close session) (close (session.debugging debug)) fun _ => 0 := by
  refine .get_bind fun world world' frame twins lent => ?_
  have same : world'.sessionModule? (session.debugging debug) = world.sessionModule? session :=
    twins.alike.sessionModule? session
  rw [same]
  suffices agrees : Agrees flag borrowed 0 _ _ fun _ => 0 from agrees world world' frame twins lent
  split
  · exact .pure rfl
  have dropped : Agrees flag borrowed 0 (change (·.dropModule session) : BridgeAct Unit)
      (change (·.dropModule (session.debugging debug))) fun _ => 0 :=
    fun _ _ _ twins _ => .change (twins.dropModule session)
  have deactivated : Agrees flag borrowed 0
      (change (·.updateSession session.id fun state => { state with active := none }) : BridgeAct Unit)
      (change (·.updateSession (session.debugging debug).id fun state => { state with active := none })) fun _ => 0 :=
    fun _ _ _ twins _ => .change (twins.updateSession session.id (fun _ => ⟨rfl, rfl⟩) fun _ => rfl)
  exact dropped.bind fun _ => deactivated.bind fun _ => (agrees_traceLine _ _ 0 _).bind fun _ =>
    (agrees_finalizeSpace session.space).adapt _

theorem agrees_retire (session : Session) (debug : Bool) (occasion : String) :
    Agrees flag borrowed 0 (retire session occasion) (retire (session.debugging debug) occasion) fun _ => 0 := by
  refine (agrees_close session debug).outcome.bind fun result => ?_
  extract_lets proceed proceed'
  have proceeds (status : Status) : Agrees flag borrowed 0 (proceed status) (proceed' status) fun _ => 0 := by
    have dropped : Agrees flag borrowed 0 (change (·.dropSession session) : BridgeAct Unit)
        (change (·.dropSession (session.debugging debug))) fun _ => 0 :=
      fun _ _ _ twins _ => .change (twins.dropSession session)
    exact dropped.bind fun _ => .pure rfl
  cases result with
  | ok _ => exact proceeds .ok
  | error failure => exact (agrees_warn _).bind fun _ => proceeds .finalizeFailure

theorem agrees_finalizeProcess : Agrees flag borrowed 0 finalizeProcess finalizeProcess fun _ => 0 := by
  refine .get_bind fun world world' frame twins lent => ?_
  have taken : Agrees flag borrowed 0 (change fun world => { world with current := none } : BridgeAct Unit)
      (change fun world => { world with current := none }) fun _ => 0 :=
    .change (fun _ => ⟨rfl, rfl, .of_same rfl rfl rfl⟩) fun _ => rfl
  rcases Session.cases_of_plain twins.alike.current with ⟨none, none'⟩ | ⟨session, debug, some, some'⟩
  · rw [none, none']
    exact .pure (by rwa [zero_add] at twins ⊢)
  · rw [some, some']
    exact (taken.bind fun _ => agrees_retire session debug _) world world' frame twins lent

theorem agrees_withCurrent {α : Type} {operation : Session → BridgeAct α}
    (agrees : ∀ session debug,
      Agrees flag borrowed 0 (operation session) (operation (session.debugging debug)) fun _ => 0) :
    Agrees flag borrowed 0 (withCurrent operation) (withCurrent operation) fun _ => 0 := by
  refine .get_bind fun world world' frame twins lent => ?_
  rcases Session.cases_of_plain twins.alike.current with ⟨none, none'⟩ | ⟨session, debug, some, some'⟩
  · rw [none, none']
    exact .throw _ (by rwa [zero_add] at twins)
  · rw [some, some']
    exact Agrees.holding rfl (agrees session debug) world world' frame twins lent

theorem agrees_textList (value : HostValue) :
    Agrees flag borrowed 0 (textList value) (textList value) fun _ => 0 := by
  unfold textList
  split
  · exact .throw _
  · refine .mapM fun item _ => ?_
    split
    · exact .pure rfl
    · exact .throw _

end Bridge

namespace Engine

open Act Bridge

variable {flag : Flag} {engine : Engine} (agrees : engine.Agrees flag) {borrowed : List Ref}
include agrees

theorem agrees_processCall {name : String} (apart : name ∉ Registry.tracingGlobals) (argument : Option HostValue) :
    Act.Agrees flag borrowed 0 (engine.processCall name argument) (engine.processCall name argument) fun _ => 0 :=
  agrees_withCurrent fun session debug => agrees_callFunction agrees session debug apart argument

theorem agrees_processMethod (proxy : HostValue) {name : String} (apart : asksMessage name = false)
    (arguments : List HostValue) :
    Act.Agrees flag borrowed 0 (engine.processMethod proxy name arguments) (engine.processMethod proxy name arguments)
      fun _ => 0 :=
  agrees_withCurrent fun session debug => agrees_callProxy agrees session debug proxy apart arguments

theorem agrees_processText (proxy : HostValue) :
    Act.Agrees flag borrowed 0 (engine.processText proxy) (engine.processText proxy) fun _ => 0 :=
  agrees_withCurrent fun session debug => agrees_proxyText agrees session debug proxy

theorem agrees_processDefine (origin : HostValue) (className base : String) (methods : HostValue) :
    Act.Agrees flag borrowed 0 (engine.processDefine origin className base methods)
      (engine.processDefine origin className base methods) fun _ => 0 :=
  agrees_withCurrent fun session debug => (agrees_textList methods).bind fun names =>
    agrees_defineClass agrees session debug origin className base names

end Engine

end ObjectBridge

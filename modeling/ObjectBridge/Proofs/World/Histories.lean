import ObjectBridge.Proofs.World.Bodies
import ObjectBridge.Proofs.World.Handles
import ObjectBridge.Proofs.World.Results

/-!
What can be done to registers, sessions and the session of the process. Whatever is called or sent, to any depth,
takes hold only of sessions that it has at hand: one that it found alive, that of the process, or one in a register.
So a relation between worlds that covers each kind of step holds of every run.
-/

namespace ObjectBridge

def Bridge.succeed (session : Session) : BridgeAct Unit := do
  let previous := (← get).current
  Act.change ({ · with current := some session })
  match previous with
  | none => return
  | some previous => discard (retire previous "closing replaced session")

theorem Engine.initializeProcess_eq (engine : Engine) (host : Host.HostId) (config : Bridge.Config) :
    engine.initializeProcess host config = engine.openSession host config >>= Bridge.succeed :=
  rfl

namespace World

/-- A relation between worlds that holds as well when someone starts or ceases to hold a session, when a session is
closed, and when something is put into a register. -/
class CoversHolders (relation : World → World → Prop) : Prop extends CoversSpaces relation where
  hold : ∀ {world : World} {session : Session}, world.AtHand session → relation world (world.holdSession session)
  drop : ∀ (world : World) (session : Session), relation world (world.dropSession session)
  close : ∀ (world : World) (session : Session), relation world (world.dropModule session)
  enter : ∀ {world : World} (name : String) {register : Register},
    (∀ session, register = .session session → world.AtHand session) →
      relation world { world with registers := world.registers.insert name register }

class CoversRuns (relation : World → World → Prop) : Prop extends CoversHolders relation where
  finalize : ∀ world : World, relation world (Bridge.finalizeProcess.run world).2

/-- A relation between worlds that holds as well of each single thing that is done to registers and sessions, when a
space or an interpreter is started, and when a class is registered. -/
class CoversSessions (relation : World → World → Prop) : Prop extends CoversHolders relation where
  record : ∀ {world : World} {state : SessionState}, state.session.id = { index := world.sessions.size } →
    relation world { world with sessions := world.sessions.push state }
  clear : ∀ (world : World) (name : String), relation world { world with registers := world.registers.erase name }
  forget : ∀ (world : World) (ref : Ref), relation world { world with forgotten := ref :: world.forgotten }
  start : ∀ world : World, relation world world.addSpace.2
  interpreter : ∀ (world : World) (name : String), relation world (world.interpreter name).2
  register : ∀ (world : World) (id : Host.HostId) (family : HostClass),
    relation world (world.setHost id ((world.host id).register family))

class CoversProcess (relation : World → World → Prop) : Prop extends CoversSessions relation where
  succeed : ∀ {world : World} {session : Session}, world.aliveSession? session.id = some session →
    relation world ((Bridge.succeed session).run world).2
  finalize : ∀ world : World, relation world (Bridge.finalizeProcess.run world).2

instance (relation : World → World → Prop) [CoversProcess relation] : CoversRuns relation where
  finalize := CoversProcess.finalize

variable {relation : World → World → Prop} [CoversHolders relation] {world : World} {session : Session}

omit [CoversHolders relation] in
theorem AtHand.of_registerSession? {name : String} (found : world.registerSession? name = some session) :
    world.AtHand session := by
  unfold registerSession? at found
  split at found
  · rename_i listed
    exact .register (Option.some.inj found ▸ listed)
  · cases found

theorem covers_dropRegister (world : World) (register : Register) : relation world (world.dropRegister register) := by
  cases register with
  | value ref => exact CoversObjects.of_quiet (world.quiet_release ref)
  | session session => exact CoversHolders.drop world session
  | _ => exact refl_of relation world

omit [CoversHolders relation] in
theorem covers_forgetRegister [CoversSessions relation] (world : World) (register : Register) :
    relation world (world.forgetRegister register) := by
  cases register with
  | value ref => exact CoversSessions.forget world ref
  | _ => exact refl_of relation world

theorem covers_store {name : String} {register : Register}
    (atHand : ∀ session, register = .session session → world.AtHand session) :
    relation world (world.store name register) := by
  have entered : relation world { world with registers := world.registers.insert name register } :=
    CoversHolders.enter name atHand
  unfold store
  extract_lets stored
  split
  · exact trans_of relation entered (covers_dropRegister stored _)
  · exact entered

end World

open World (AtHand CoversHolders CoversProcess CoversRuns CoversSessions History)

variable {relation : World → World → Prop}

namespace Act

variable [CoversHolders relation] {ε α : Type} {world : World} {session : Session}

theorem covers_holding {act : Act ε α} (atHand : world.AtHand session)
    (lasts : relation (world.holdSession session) (act.run (world.holdSession session)).2) :
    relation world ((holding session act).run world).2 := by
  rw [run_holding]
  exact trans_of relation (trans_of relation (CoversHolders.hold atHand) lasts) (CoversHolders.drop _ session)

theorem respects_store (name : String) (register : Register) (plain : ∀ session, register ≠ .session session) :
    Respects relation (change (·.store name register) : Act ε Unit) :=
  fun _ => World.covers_store fun session same => absurd same (plain session)

end Act

open Act

namespace Bridge

section Sessions

variable [CoversHolders relation]

theorem respects_close (session : Session) : Respects relation (close session) := by
  refine .get_bind fun world => ?_
  split
  · exact .pure _
  · refine Respects.bind (fun world => CoversHolders.close world session) fun _ => ?_
    refine (Respects.change fun world => world.quiet_activate session.id none).bind fun _ => ?_
    exact (respects_traceLine _ _ _).bind fun _ => (respects_finalizeSpace _).adapt _

theorem respects_retire (session : Session) (occasion : String) : Respects relation (retire session occasion) := by
  refine (respects_close session).outcome.bind fun result => ?_
  have drops (status : Status) : Respects relation (do
      change (·.dropSession session)
      return status : BridgeAct Status) :=
    Respects.bind (fun world => CoversHolders.drop world session) fun _ => .pure _
  cases result with
  | ok _ => exact (Respects.pure _).bind drops
  | error failure => exact (respects_warn _).bind fun _ => (Respects.pure _).bind drops

theorem respects_withCurrent {α : Type} {operation : Session → BridgeAct α}
    (each : ∀ session, Respects relation (operation session)) : Respects relation (withCurrent operation) := by
  refine .get_bind_of fun world => ?_
  cases found : world.current with
  | none => exact refl_of relation world
  | some session => exact covers_holding (.current found) (each session _)

theorem respects_textList (value : HostValue) : Respects relation (textList value) := by
  unfold textList
  split
  · exact .throw _
  · refine .mapM (fun item => ?_) _
    split
    · exact .pure _
    · exact .throw _

end Sessions

theorem covers_proxyClassFor [CoversSessions relation] (world : World) (host : Host.HostId) (name : String) :
    relation world (proxyClassFor world host name).2 := by
  unfold proxyClassFor
  split
  · exact refl_of relation world
  · have built : World.Quiet world (world.buildClass name none proxyMethods).2 := .of_same rfl rfl rfl rfl rfl rfl
    exact trans_of relation (World.CoversObjects.of_quiet built) (CoversSessions.register _ host _)

theorem coversProcess_of_place [CoversSessions relation]
    (place : ∀ {world : World} {placed : Option Session}, (∀ session, placed = some session → world.AtHand session) →
      relation world { world with current := placed }) : CoversProcess relation where
  succeed {world session} alive := by
    have placed : relation world { world with current := some session } :=
      place fun other same => Option.some.inj same ▸ .alive alive
    refine trans_of relation placed ?_
    unfold succeed
    rw [run_get_bind]
    extract_lets previous
    rw [run_bind_ok (run_change _)]
    cases previous with
    | none => exact refl_of relation _
    | some previous =>
      have retires : Respects relation (discard (retire previous "closing replaced session") : BridgeAct Unit) :=
        (respects_retire previous _).bind fun _ => .pure _
      exact retires _
  finalize := by
    have finalizes : Respects relation finalizeProcess := by
      refine .get_bind fun world => ?_
      split
      · exact .pure _
      · exact Respects.bind (fun world => place nofun) fun _ => respects_retire _ _
    exact finalizes

variable [CoversRuns relation]

theorem respects_finalizeProcess : Respects relation finalizeProcess :=
  CoversRuns.finalize

end Bridge

namespace Engine

open Bridge

theorem leaves_openSession (engine : Engine) (host : Host.HostId) (config : Config) :
    Leaves (engine.openSession host config) fun world session => world.aliveSession? session.id = some session := by
  unfold openSession
  extract_lets proceed
  suffices proceeds : Leaves (proceed ()) fun world session => world.aliveSession? session.id = some session by
    split
    · exact .bind fun _ => proceeds
    · exact proceeds
  refine .bind fun space => .bind fun seen => ?_
  extract_lets found definition enter
  have enters (module : Ref) :
      Leaves (enter module) fun world session => world.aliveSession? session.id = some session := by
    unfold enter
    extract_lets open_
    have opens : Leaves (open_ ()) fun world session => world.aliveSession? session.id = some session := by
      refine .bind fun family => .bind fun _ world session after ran => ?_
      cases ran
      exact World.aliveSession?_push world rfl Nat.one_pos
    split
    · exact .bind fun _ => .bind fun _ => opens
    · exact opens
  refine .bind fun _ => .bind fun result => ?_
  cases result with
  | ok module => exact enters module
  | error exception =>
    refine .bind fun result => ?_
    cases result with
    | ok _ => exact .bind enters
    | error failure => exact .bind fun _ => .bind enters

section Engine

variable {engine : Engine} (respects : engine.Respects relation)
include respects

theorem respects_openSession [CoversSessions relation] (host : Host.HostId) (config : Config) :
    Act.Respects relation (engine.openSession host config) := by
  unfold openSession
  extract_lets proceed
  suffices proceeds : Act.Respects relation (proceed ()) by
    split
    · exact (Respects.throw _).bind fun _ => proceeds
    · exact proceeds
  refine Respects.bind (fun world => CoversSessions.start world) fun space => .get_bind fun seen => ?_
  extract_lets found definition enter
  have enters (module : Ref) : Act.Respects relation (enter module) := by
    unfold enter
    extract_lets open_
    have opens : Act.Respects relation (open_ ()) := by
      refine Respects.bind (fun world => ?_) fun family => (respects_traceLine _ _ _).bind fun _ => ?_
      · exact covers_proxyClassFor world host config.proxyClass
      · exact fun world => CoversSessions.record rfl
    split
    · exact (Respects.onFailureReleaseOne _ ((respects_callMethod respects _ _ _ _).adapt _)).bind fun switched =>
        (Respects.release switched).bind fun _ => opens
    · exact opens
  refine Respects.bind (.change fun world => world.quiet_updateSpace space (·.onlyObjects_addDefinition _)) fun _ => ?_
  refine (respects_importModule respects space _).outcome.bind fun result => ?_
  cases result with
  | ok module => exact enters module
  | error exception =>
    refine (respects_finalizeSpace space).outcome.bind fun result => ?_
    cases result with
    | ok _ => exact (Respects.throw _).bind enters
    | error failure => exact (respects_warn _).bind fun _ => (Respects.throw _).bind enters

variable [CoversHolders relation]

theorem respects_processCall (name : String) (argument : Option HostValue) :
    Act.Respects relation (engine.processCall name argument) :=
  respects_withCurrent fun session => respects_callFunction respects session name argument

theorem respects_processMethod (proxy : HostValue) (name : String) (arguments : List HostValue) :
    Act.Respects relation (engine.processMethod proxy name arguments) :=
  respects_withCurrent fun session => respects_callProxy respects session proxy name arguments

theorem respects_processText (proxy : HostValue) : Act.Respects relation (engine.processText proxy) :=
  respects_withCurrent fun session => respects_proxyText respects session proxy

theorem respects_processDefine (origin : HostValue) (className base : String) (methods : HostValue) :
    Act.Respects relation (engine.processDefine origin className base methods) :=
  respects_withCurrent fun session => (respects_textList methods).bind fun names =>
    respects_defineClass respects session origin className base names

theorem respects_dispatch (route : Route) (invocation : Invocation) :
    Act.Respects relation (engine.dispatch route invocation) := by
  refine (Respects.lift _).bind fun bound => (Respects.view _).bind fun method => ?_
  cases method with
  | none => exact .throw _
  | some method =>
    refine .get_bind_of fun world => ?_
    cases found : world.aliveSession? route.session with
    | none => exact refl_of relation world
    | some session =>
      have sends : Act.Respects relation (do
          let arguments := invocation.arguments.drop 1
          let count := arguments.length
          traceLine session.config 1 s!"callback {route.className}.{method} ({count} args)"
          let proxies ← arguments.mapM fun argument => (engine.makeProxy session argument).adapt (·.toException)
          let _ ← (engine.send session.host route.origin method proxies).adapt fun error =>
            .hostFailure route.className method error.message
          ownedBy invocation.space Guest.Space.noneValue : GuestAct Ref) := by
        refine (respects_traceLine _ _ _).bind fun _ => ?_
        refine Respects.bind (.mapM (fun argument => (respects_makeProxy respects session argument).adapt _) _)
          fun proxies => ?_
        exact ((respects.send _ _ _ _).adapt _).bind fun _ => .ownedBy _ _
      exact covers_holding (.alive found) (sends _)

end Engine

end Engine

namespace Script

variable [CoversRuns relation] {engine : Engine}

theorem respects_makePairs (space : SpaceId) (entries : List (String × Ref)) :
    Respects relation (makePairs space entries) := by
  refine Respects.bind (.collect (fun entry => ?_) #[] _) fun pairs => (Respects.ownedBy _ _).lending _
  exact (Respects.ownedBy _ _).bind fun name => (Respects.ownedBy _ _).lending _

mutual

theorem respects_runGuest (respects : engine.Respects relation) (call : Invocation) (body : GuestBody) :
    Respects relation (runGuest engine call body) := by
  cases body <;> unfold runGuest
  case literal literal => exact respects_makeGuest _ literal
  case argument index =>
    exact (Respects.lift _).bind fun ref => (Respects.retain ref).bind fun _ => .pure _
  case textArgument index => exact (call.respects_textArgument index).bind fun text => .ownedBy _ _
  case arguments => exact .ownedBy _ _
  case argumentCount => exact .ownedBy _ _
  case noArguments => exact .ownedBy _ _
  case boundState => exact (Respects.lift _).bind fun ref => (Respects.retain ref).bind fun _ => .pure _
  case keyword name =>
    split
    · exact (Respects.retain _).bind fun _ => .pure _
    · exact .ownedBy _ _
  case keywords => exact respects_makePairs _ _
  case tuple items =>
    exact (respects_runGuests respects call #[] items).bind fun values => (Respects.ownedBy _ _).lending _
  case concat parts =>
    refine (respects_runGuests respects call #[] parts).bind fun values => Respects.lending _ ?_
    exact Respects.bind (.mapM (Engine.respects_str respects _) values) fun texts => .ownedBy _ _
  case uppercase inner =>
    exact (respects_runGuest respects call inner).bind fun value => Respects.lending _ <|
      (Respects.view _).bind fun text => .ownedBy _ _
  case typeName inner =>
    exact (respects_runGuest respects call inner).bind fun value => Respects.lending _ <|
      (Respects.onView _ _).bind fun name => .ownedBy _ _
  case call callable arguments =>
    exact (respects_runGuest respects call callable).bind fun callable =>
      ((respects_runGuests respects call #[] arguments).onFailureReleaseOne _).bind fun values =>
        (respects.call _ _ _ _).lending _
  case callMethod target name arguments =>
    exact (respects_runGuest respects call target).bind fun target =>
      ((respects_runGuests respects call #[] arguments).onFailureReleaseOne _).bind fun values =>
        (Engine.respects_callMethod respects _ _ _ _).lending _
  case getattr target name =>
    exact (respects_runGuest respects call target).bind fun target => (respects_getattr _ _ _).lending _
  case setattr target name value =>
    exact (respects_runGuest respects call target).bind fun target =>
      ((respects_runGuest respects call value).onFailureReleaseOne _).bind fun value => Respects.lending _ <|
        (respects_setattr _ _ _ _).bind fun _ => .ownedBy _ _
  case dictGet dict key =>
    refine (respects_runGuest respects call dict).bind fun dict => Respects.lending _ ?_
    refine (Respects.dictGet _ dict key).bind fun found => ?_
    cases found with
    | some value => exact .pure _
    | none => exact .ownedBy _ _
  case dictSet dict key value =>
    exact (respects_runGuest respects call dict).bind fun dict =>
      ((respects_runGuest respects call value).onFailureReleaseOne _).bind fun value => Respects.lending _ <|
        (Respects.onSpace _ _).bind fun _ => .ownedBy _ _
  case dictRemove dict key =>
    exact (respects_runGuest respects call dict).bind fun dict => Respects.lending _ <|
      (Respects.onSpace _ _).bind fun _ => .ownedBy _ _
  case dictItems dict =>
    exact (respects_runGuest respects call dict).bind fun dict => Respects.lending _ <|
      (Respects.onSpace _ _).bind fun items => (respects_makePairs _ _).lending _
  case newType name bases members values =>
    exact (respects_runGuests respects call #[] bases).bind fun bases =>
      ((respects_runGuests respects call #[] values).onFailureRelease _).bind fun values =>
        (Respects.ownedBy _ _).lending _
  case function name body => exact .ownedBy _ _
  case boundFunction name bound body =>
    exact (respects_runGuest respects call bound).bind fun bound => (Respects.ownedBy _ _).lending _
  case acquire register =>
    refine .get_bind fun world => ?_
    split
    · exact .ownedBy _ _
    · exact .throw _
  case keep register inner =>
    exact (respects_runGuest respects call inner).bind fun value => (Respects.retain value).bind fun _ =>
      (respects_store register (.value value) (by simp)).bind fun _ => .pure _
  case branch condition yes no =>
    refine (respects_runGuest respects call condition).bind fun condition => ?_
    refine ((Respects.view _).lending _).bind fun chosen => ?_
    split
    · exact respects_runGuest respects call yes
    · exact respects_runGuest respects call no
  case raise kind message => exact .throw _
  case attempt inner =>
    refine (respects_runGuest respects call inner).outcome.bind fun result => ?_
    cases result with
    | ok value => exact .pure _
    | error exception => exact .ownedBy _ _
  case sequence steps => exact respects_runGuestSteps respects call none steps
  case importModule name => exact Engine.respects_importModule respects _ name
  case finalize inner =>
    exact (Bridge.respects_finalizeSpace _).outcome.bind fun _ => respects_runGuest respects call inner

theorem respects_runGuests (respects : engine.Respects relation) (call : Invocation) (done : Array Ref)
    (bodies : List GuestBody) : Respects relation (runGuests engine call done bodies) := by
  cases bodies <;> unfold runGuests
  case nil => exact .pure _
  case cons body rest =>
    exact ((respects_runGuest respects call body).onFailureRelease _).bind fun ref =>
      respects_runGuests respects call (done.push ref) rest

theorem respects_runGuestSteps (respects : engine.Respects relation) (call : Invocation) (last : Option Ref)
    (steps : List GuestBody) : Respects relation (runGuestSteps engine call last steps) := by
  cases steps <;> unfold runGuestSteps
  case nil =>
    cases last with
    | none => exact .ownedBy _ _
    | some ref => exact .pure _
  case cons step rest =>
    exact ((respects_runGuest respects call step).lending _).bind fun ref =>
      respects_runGuestSteps respects call (some ref) rest

end

theorem respects_withSession {α : Type} (name : String) {operation : Session → HostAct α}
    (each : ∀ session, Respects relation (operation session)) : Respects relation (withSession name operation) := by
  refine .get_bind_of fun world => ?_
  cases found : world.registerSession? name with
  | none => exact refl_of relation world
  | some session => exact covers_holding (.of_registerSession? found) (each session _)

mutual

theorem respects_runHost (respects : engine.Respects relation) (message : Message) (body : HostBody) :
    Respects relation (runHost engine message body) := by
  cases body <;> unfold runHost
  case literal literal => exact .get_bind fun _ => .lift _
  case receiver => exact .pure _
  case argument index => exact .pure _
  case arguments => exact .pure _
  case array items => exact (respects_runHosts respects message items).bind fun _ => .pure _
  case itemAt inner index => exact (respects_runHost respects message inner).bind fun _ => .lift _
  case length inner =>
    exact (respects_runHost respects message inner).bind fun _ => (Respects.lift _).bind fun _ => .pure _
  case concat parts => exact (respects_runHosts respects message parts).bind fun _ => .pure _
  case send addressee name arguments =>
    exact (respects_runHost respects message addressee).bind fun addressee =>
      (respects_runHosts respects message arguments).bind fun arguments => respects.send _ addressee name arguments
  case newObject className =>
    refine .get_bind fun world => ?_
    split
    · exact .step fun world => world.quiet_newObject _ _ _
    · exact .throw _
  case fail text => exact .throw _
  case record tag => exact Respects.bind (.change fun world => world.quiet_writeLog _) fun _ => .pure _
  case note inner =>
    exact (respects_runHost respects message inner).bind fun value =>
      Respects.bind (.change fun world => world.quiet_writeLog _) fun _ => .pure _
  case attempt inner =>
    refine (respects_runHost respects message inner).outcome.bind fun result => ?_
    cases result <;> exact .pure _
  case sequence steps => exact (respects_runHosts respects message steps).bind fun _ => .pure _
  case store register inner =>
    exact (respects_runHost respects message inner).bind fun value =>
      (respects_store register (.host value) (by simp)).bind fun _ => .pure _
  case processCall name argument =>
    exact (respects_runHost respects message argument).bind fun argument =>
      ((Engine.respects_processCall respects name (some argument)).adapt _).bind fun _ => .pure _
  case processText inner =>
    exact (respects_runHost respects message inner).bind fun proxy =>
      ((Engine.respects_processText respects proxy).adapt _).bind fun _ => .pure _
  case processMethod proxy name arguments =>
    exact (respects_runHost respects message proxy).bind fun proxy =>
      (respects_runHosts respects message arguments).bind fun arguments =>
        (Engine.respects_processMethod respects proxy name arguments).adapt _
  case processDefine className base methods =>
    exact (respects_runHost respects message methods).bind fun methods =>
      ((Engine.respects_processDefine respects _ className base methods).adapt _).bind fun _ => .pure _
  case processFinalize => exact (Bridge.respects_finalizeProcess.adapt _).bind fun _ => .pure _
  case sessionCall session name argument =>
    exact respects_withSession session fun session => (respects_runHost respects message argument).bind fun argument =>
      ((Engine.respects_callFunction respects session name (some argument)).adapt _).bind fun _ => .pure _
  case sessionDefine session className base methods =>
    exact respects_withSession session fun session =>
      ((Engine.respects_defineClass respects session _ className base methods).adapt _).bind fun _ => .pure _
  case sessionClose session =>
    refine respects_withSession session fun session => (Bridge.respects_close session).outcome.bind fun result => ?_
    cases result <;> exact .pure _

theorem respects_runHosts (respects : engine.Respects relation) (message : Message) (bodies : List HostBody) :
    Respects relation (runHosts engine message bodies) := by
  cases bodies <;> unfold runHosts
  case nil => exact .pure _
  case cons body rest =>
    exact (respects_runHost respects message body).bind fun value =>
      (respects_runHosts respects message rest).bind fun _ => .pure _

end

end Script

namespace Engine

section Sessions

variable [CoversHolders relation]

theorem respects_proxied (receiver : HostValue) : Act.Respects relation (proxied receiver) := by
  unfold proxied
  split
  · exact .pure _
  · exact .throw _

theorem respects_withOwner {α : Type} (receiver : HostValue) {operation : Session → HostAct α}
    (each : ∀ session, Act.Respects relation (operation session)) :
    Act.Respects relation (withOwner receiver operation) := by
  refine (respects_proxied receiver).bind fun reference => .get_bind_of fun world => ?_
  cases found : world.aliveSession? reference.session with
  | none => exact refl_of relation world
  | some session => exact covers_holding (.alive found) (each session _)

end Sessions

variable {engine : Engine} (respects : engine.Respects relation)
include respects

theorem respects_initializeProcess [CoversProcess relation] (host : Host.HostId) (config : Bridge.Config) :
    Act.Respects relation (engine.initializeProcess host config) := by
  rw [initializeProcess_eq]
  exact (respects_openSession respects host config).bind_of (leaves_openSession engine host config)
    fun session world alive => CoversProcess.succeed alive

variable [CoversRuns relation]

theorem respects_runCode (code : Code) (invocation : Invocation) :
    Act.Respects relation (engine.runCode code invocation) := by
  cases code with
  | script body => exact Script.respects_runGuest respects invocation body
  | service service => exact Registry.respects_serve respects service invocation
  | callback route => exact respects_dispatch respects route invocation

theorem respects_runMethod (host : Host.HostId) (receiver : HostValue) (method : Method)
    (arguments : List HostValue) : Act.Respects relation (engine.runMethod host receiver method arguments) := by
  cases method with
  | script body => exact Script.respects_runHost respects _ body
  | identity => exact (respects_proxied receiver).bind fun _ => .pure _
  | text =>
    exact respects_withOwner receiver fun session =>
      ((respects_proxyText respects session receiver).adapt _).bind fun _ => .pure _
  | forward =>
    refine respects_withOwner receiver fun session => ?_
    split
    · exact .throw _
    · exact (respects_callProxy respects session receiver _ _).adapt _

theorem respects_next : engine.next.Respects relation where
  call space callable arguments keywords :=
    respects_callObject respects (respects_runCode respects) space callable arguments keywords
  send host receiver name arguments := by
    refine Respects.get_bind fun world => ?_
    split
    · exact respects_runMethod respects host receiver _ _
    · exact .throw _

omit respects in
theorem respects_ofDepth (depth : Nat) : (ofDepth depth).Respects relation := by
  induction depth with
  | zero => exact ⟨fun _ _ _ _ => .throw _, fun _ _ _ _ => .throw _⟩
  | succ depth ih => exact respects_next ih

end Engine

instance : CoversSessions History where
  hold atHand := .single (.hold atHand)
  drop world session := .single (.drop world session)
  close world session := .single (.close world session)
  record fresh := .single (.open fresh)
  enter name _ atHand := .single (.enter name atHand)
  clear world name := .single (.clear world name)
  forget world ref := .single (.forget world ref)
  start world := .single (.beside ⟨rfl, rfl, rfl, rfl⟩)
  interpreter world name := by
    unfold World.interpreter
    split
    · exact .refl
    · exact .single (.beside ⟨rfl, rfl, rfl, rfl⟩)
  register world id family := .single (.beside ⟨rfl, rfl, rfl, rfl⟩)

instance : CoversProcess History :=
  Bridge.coversProcess_of_place fun atHand => .single (.place atHand)

end ObjectBridge

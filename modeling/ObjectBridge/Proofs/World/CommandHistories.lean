import ObjectBridge.Proofs.World.Commands
import ObjectBridge.Proofs.World.Histories

/-!
What commands do to registers, sessions and the session of the process. A command takes a session from where it is at
hand, and a register gets only a session that is.
-/

namespace ObjectBridge

open World (AtHand CoversHolders CoversObjects CoversProcess CoversSessions)
open Act

variable {relation : World → World → Prop} [CoversProcess relation]

namespace World

variable {world : World} {session : Session}

theorem covers_holdRegister {name : String} {register : Register} (found : world.registers.get? name = some register) :
    relation world (world.holdRegister register) := by
  cases register with
  | value ref => exact CoversObjects.of_quiet (world.quiet_retain ref)
  | session session => exact CoversHolders.hold (.register found)
  | _ => exact refl_of relation world

omit [CoversProcess relation] in
theorem registers_holdRegister (world : World) (register : Register) :
    (world.holdRegister register).registers = world.registers := by
  cases register <;> rfl

end World

namespace Console

open Script

variable {α : Type} {space : SpaceId}

theorem respects_placeOf (place : Option String) : Respects relation (placeOf place) := by
  refine .get_bind fun world => ?_
  split
  · split
    · exact .pure _
    · exact .throw _
  · split
    · exact .pure _
    · exact .throw _

theorem respects_valueIn (name : String) : Respects relation (valueIn name) := by
  refine .get_bind fun world => ?_
  split
  · exact .pure _
  · exact .throw _

theorem respects_familyIn (name : String) : Respects relation (familyIn name) := by
  refine .get_bind fun world => ?_
  split
  · exact .pure _
  · exact .throw _

theorem respects_sessionIn (name : String) : Respects relation (sessionIn name) := by
  refine .get_bind fun world => ?_
  split
  · exact .pure _
  · exact .throw _

theorem leaves_sessionIn (name : String) : Leaves (sessionIn name) World.AtHand := by
  refine .get_bind_of fun world session after ran => ?_
  split at ran
  · rename_i found
    cases ran
    exact .of_registerSession? found
  · cases ran

theorem respects_withGuest (literal : GuestLiteral) {act : Ref → Performance α}
    (each : ∀ ref, Respects relation (act ref)) : Respects relation (withGuest space literal act) :=
  ((respects_makeGuest space literal).adapt _).bind fun ref => (each ref).lending _

theorem respects_withGuests (literals : List GuestLiteral) {act : List Ref → Performance α}
    (each : ∀ refs, Respects relation (act refs)) : Respects relation (withGuests space literals act) :=
  ((respects_makeGuests space #[] literals).adapt _).bind fun refs => (each refs).lending _

theorem respects_withEntries (entries : List (String × GuestLiteral)) {act : List (String × Ref) → Performance α}
    (each : ∀ named, Respects relation (act named)) : Respects relation (withEntries space entries act) :=
  respects_withGuests _ fun _ => each _

theorem respects_hostValue (literal : HostLiteral) : Respects relation (hostValue literal) :=
  .get_bind fun _ => .lift _

theorem respects_hostValues (literals : List HostLiteral) : Respects relation (hostValues literals) :=
  .get_bind fun _ => .lift _

theorem respects_argument (argument : Option HostLiteral) : Respects relation (argument.mapM hostValue) := by
  cases argument with
  | none => exact .pure _
  | some literal =>
    have found : Respects relation (some <$> hostValue literal) := by
      rw [map_eq_pure_bind]
      exact (respects_hostValue literal).bind fun _ => .pure _
    exact found

theorem respects_answerGuest (command : Command) (ref : Ref) : Respects relation (answerGuest command ref) := by
  refine .get_bind fun world => ?_
  extract_lets shown show_
  clear_value shown
  have shows : Respects relation (show_ ()) := by
    unfold show_
    split <;> exact .pure _
  split
  · exact (respects_store _ (.value ref) (by simp)).bind fun _ => shows
  · exact (Respects.release ref).bind fun _ => shows

theorem respects_answerHost (command : Command) (value : HostValue) :
    Respects relation (answerHost command value) := by
  unfold answerHost
  extract_lets show_
  have shows : Respects relation (show_ ()) := by
    unfold show_
    split <;> exact .pure _
  split
  · exact (respects_store _ (.host value) (by simp)).bind fun _ => shows
  · exact shows

theorem respects_answerFamily (command : Command) (family : HostClass) :
    Respects relation (answerFamily command family) := by
  unfold answerFamily
  split
  · exact (respects_store _ (.family family) (by simp)).bind fun _ => .pure _
  · exact .pure _

theorem respects_answerStored (command : Command) (usual : String) (register : Register)
    (plain : ∀ session, register ≠ .session session) : Respects relation (answerStored command usual register) :=
  (respects_store _ register plain).bind fun _ => .pure _

theorem covers_answerStored {command : Command} {usual : String} {register : Register} {world : World}
    (atHand : ∀ session, register = .session session → world.AtHand session) :
    relation world ((answerStored command usual register).run world).2 :=
  World.covers_store atHand

theorem respects_answerOptional (command : Command) (value : Option HostValue) :
    Respects relation (answerOptional command value) := by
  cases value with
  | none => exact .pure _
  | some value => exact respects_answerHost command value

theorem respects_distribute (refs : List Ref) (names : List String) : Respects relation (distribute refs names) := by
  have released (refs : List Ref) : Respects relation (change (·.releaseAll refs) : Performance Unit) :=
    .change fun world => world.quiet_releaseAll refs
  induction refs generalizing names with
  | nil => cases names <;> exact released []
  | cons ref rest ih =>
    cases names with
    | nil => exact released _
    | cons name names => exact (respects_store name (.value ref) (by simp)).bind fun _ => ih names

theorem respects_answered (command : Command) {act : GuestAct Ref} (respects : Respects relation act) :
    Respects relation (asGuest act >>= answerGuest command) :=
  (respects.adapt _).bind fun ref => respects_answerGuest command ref

theorem respects_told {γ : Type} {act : GuestAct α} (tell : α → γ) (respects : Respects relation act) :
    Respects relation (asGuest act >>= fun value => (pure (tell value) : Performance γ)) :=
  (respects.adapt _).bind fun _ => .pure _

theorem respects_performValue (command : Command) (action : ValueAction) (ref : Ref) :
    Respects relation (performValue command action ref) := by
  refine .get_bind fun world => ?_
  extract_lets own
  cases action with
  | handle => exact respects_answerStored command _ (.handle ref.handle) (by simp)
  | _ => exact .pure _

def heldCurrent : BridgeAct Session :=
  Bridge.withCurrent fun session => do
    change (·.holdSession session)
    return session

theorem respects_heldCurrent : Respects relation heldCurrent := by
  refine .get_bind_of fun world => ?_
  cases found : world.current with
  | none => exact refl_of relation world
  | some session => exact covers_holding (.current found) (CoversHolders.hold (.current found))

theorem leaves_heldCurrent : Leaves heldCurrent World.AtHand := by
  refine .get_bind_of fun world session after ran => ?_
  cases found : world.current with
  | none =>
    rw [found] at ran
    cases ran
  | some current =>
    rw [found] at ran
    cases ran
    exact .current ((World.current_dropSession _ _).trans found)

section Perform

variable {engine : Engine} (respects : engine.Respects relation)
include respects

theorem respects_performGuest (command : Command) (action : GuestAction) :
    Respects relation (performGuest engine command action) := by
  unfold performGuest
  cases action
  case start =>
    exact Respects.bind (fun world => CoversSessions.start world) fun id =>
      respects_answerStored command _ (.space id) (by simp)
  all_goals refine (respects_placeOf _).bind fun space => ?_
  case finalize => exact ((Bridge.respects_finalizeSpace space).adapt _).bind fun _ => .pure _
  case liveObjects => exact .get_bind fun _ => .pure _
  case isInitialized => exact .get_bind fun _ => .pure _
  case describeSpace => exact .get_bind fun _ => .pure _
  case define script =>
    exact Respects.bind (.change fun world => world.quiet_updateSpace space (·.onlyObjects_addDefinition _)) fun _ => .pure _
  case importModule name => exact respects_answered command (Engine.respects_importModule respects space name)
  case isImported name => exact .get_bind fun _ => .pure _
  case value literal => exact respects_answered command (respects_makeGuest space literal)
  case acquire register =>
    refine .get_bind fun world => ?_
    split
    · exact respects_answered command (.ownedBy _ _)
    · exact .throw _
  case builtin name =>
    refine .get_bind fun world => ?_
    split
    · exact respects_answered command (.ownedBy _ _)
    · exact .pure _
  case builtinNames => exact .pure _
  case function name body bound =>
    cases bound with
    | none => exact respects_answered command (.ownedBy _ _)
    | some literal => exact respects_withGuest literal fun state => respects_answered command (.ownedBy _ _)
  case newType name bases members =>
    exact respects_withGuests bases fun bases => respects_withEntries members fun members =>
      respects_answered command (.ownedBy _ _)
  case call callable arguments keywords =>
    exact respects_withGuest callable fun callable => respects_withGuests arguments fun arguments =>
      respects_withEntries keywords fun keywords => respects_answered command (respects.call _ _ _ _)
  case callWithArguments callable arguments =>
    exact respects_withGuest callable fun callable => respects_withGuests arguments fun arguments =>
      respects_answered command (Registry.respects_callWithArguments respects _ _ _)
  case callMethod target name arguments =>
    exact respects_withGuest target fun target => respects_withGuests arguments fun arguments =>
      respects_answered command (Engine.respects_callMethod respects _ _ _ _)
  case getattr target name quiet =>
    exact respects_withGuest target fun target => ((respects_getattr space target name).adapt _).bind fun ref =>
      (respects_answerGuest command ref).bind fun _ => .pure _
  case hasattr target name =>
    exact respects_withGuest target fun target => respects_told _ (respects_hasattr space target name)
  case setattr target name value =>
    exact respects_withGuest target fun target => respects_withGuest value fun value =>
      respects_told _ (respects_setattr space target name value)
  case dir target => exact respects_withGuest target fun target => respects_told _ (.onView _ _)
  case str target =>
    exact respects_withGuest target fun target => respects_told _ (Engine.respects_str respects space target)
  case repr target => exact respects_withGuest target fun target => respects_told _ (.onView _ _)
  case typeOf target => exact respects_withGuest target fun target => respects_answered command (.ownedBy _ _)
  case typeName target => exact respects_withGuest target fun target => respects_told _ (.onView _ _)
  case isInstance target type =>
    exact respects_withGuest target fun target => respects_withGuest type fun type => respects_told _ (.onView _ _)
  case isSame left right => exact respects_withGuest left fun left => respects_withGuest right fun right => .pure _
  case isKey left right =>
    exact respects_withGuest left fun left => respects_withGuest right fun right =>
      (Respects.view _).bind fun _ => .pure _
  case tupleItems target registers =>
    refine respects_withGuest target fun target => (Respects.itemsOf target).bind fun items => ?_
    cases items with
    | none => exact .pure _
    | some items => exact .get_bind fun world => (respects_distribute items registers).bind fun _ => .pure _
  case dictGet dict key =>
    refine respects_withGuest dict fun dict => ((Respects.dictGet space dict key).adapt _).bind fun value => ?_
    cases value with
    | none => exact .pure _
    | some value => exact respects_answerGuest command value
  case dictSet dict key value =>
    exact respects_withGuest dict fun dict => respects_withGuest value fun value => respects_told _ (.onSpace _ _)
  case dictRemove dict key => exact respects_withGuest dict fun dict => respects_told _ (.onSpace _ _)
  case dictLength dict => exact respects_withGuest dict fun dict => respects_told _ (.onView _ _)
  case dictItems dict =>
    exact respects_withGuest dict fun dict => ((Respects.onView _ _).adapt _).bind fun entries =>
      .get_bind fun _ => .pure _

theorem respects_performHost (command : Command) (host : Host.HostId) (action : HostAction) :
    Respects relation (performHost engine command host action) := by
  cases action <;> unfold performHost
  case defineClass name superclass methods register =>
    have defines (parent : Option HostClass) (methods : List (String × Method)) : Respects relation (do
        let family ← step (·.buildClass name parent methods)
        if register then change fun world => world.setHost host ((world.host host).register family)
        answerFamily command family) := by
      refine Respects.bind (.step fun _ => .of_same rfl rfl rfl rfl rfl rfl) fun family => ?_
      split
      · exact Respects.bind (fun world => CoversSessions.register world host family) fun _ =>
          respects_answerFamily command family
      · exact respects_answerFamily command family
    cases superclass with
    | none => exact defines none _
    | some parent =>
      have named : Respects relation (some <$> familyIn parent) := by
        rw [map_eq_pure_bind]
        exact (respects_familyIn parent).bind fun _ => .pure _
      exact named.bind fun parent => defines parent _
  case findClass name =>
    refine .get_bind fun world => ?_
    split
    · exact respects_answerFamily command _
    · exact .pure _
  case objectClass => exact .get_bind fun world => respects_answerFamily command _
  case classCount => exact .get_bind fun _ => .pure _
  case sameClass left right =>
    exact (respects_familyIn left).bind fun _ => (respects_familyIn right).bind fun _ => .pure _
  case isSubclass left right =>
    exact (respects_familyIn left).bind fun _ => (respects_familyIn right).bind fun _ => .pure _
  case methodNames family => exact (respects_familyIn family).bind fun _ => .pure _
  case understands family message => exact (respects_familyIn family).bind fun _ => .pure _
  case describeClass family => exact (respects_familyIn family).bind fun _ => .pure _
  case newObject family payload =>
    exact (respects_familyIn family).bind fun family =>
      Respects.bind (.step fun world => world.quiet_newObject _ _ _) fun value => respects_answerHost command value
  case payload value => exact (respects_hostValue value).bind fun _ => .pure _
  case value literal => exact (respects_hostValue literal).bind fun value => respects_answerHost command value
  case shape value => exact (respects_hostValue value).bind fun _ => .get_bind fun _ => .pure _
  case send receiver message arguments =>
    exact (respects_hostValue receiver).bind fun receiver => (respects_hostValues arguments).bind fun arguments =>
      ((respects.send host receiver message arguments).adapt _).bind fun value => respects_answerHost command value
  case length value =>
    exact (respects_hostValue value).bind fun _ => ((Respects.lift _).adapt _).bind fun _ => .pure _
  case itemAt value index =>
    exact (respects_hostValue value).bind fun _ => ((Respects.lift _).adapt _).bind fun value =>
      respects_answerHost command value
  case isInstance value family =>
    exact (respects_hostValue value).bind fun value => .get_bind fun world =>
      (respects_familyIn family).bind fun _ => .pure _
  case isInstanceOfNamed value name => exact (respects_hostValue value).bind fun _ => .get_bind fun _ => .pure _
  case same left right =>
    exact (respects_hostValue left).bind fun _ => (respects_hostValue right).bind fun _ => .pure _
  case describeValue value => exact (respects_hostValue value).bind fun _ => .pure _
  case describeObject value => exact (respects_hostValue value).bind fun _ => .pure _
  case proxyKey value register =>
    refine (respects_hostValue value).bind fun value => ?_
    split
    · exact .pure _
    · exact .get_bind fun _ => .pure _
  case sameKey left right =>
    exact (respects_hostValue left).bind fun _ => (respects_hostValue right).bind fun _ => .pure _

theorem respects_performSession (command : Command) (session : Session) (action : SessionAction) :
    Respects relation (performSession engine command session action) := by
  cases action <;> unfold performSession
  case close => exact ((Bridge.respects_close session).adapt _).bind fun _ => .pure _
  case isOpen => exact .get_bind fun _ => .pure _
  case sameAs register => exact (respects_sessionIn register).bind fun _ => .pure _
  case space => exact respects_answerStored command _ (.space session.space) (by simp)
  case config => exact .pure _
  case describe => exact .get_bind fun _ => .pure _
  case isTracing => exact .pure _
  case proxyClass => exact respects_answerFamily command _
  case module =>
    exact ((Bridge.respects_moduleOf session).adapt _).bind fun ref => respects_answerGuest command ref
  case binding => exact .get_bind fun _ => .pure _
  case registryCall name arguments =>
    exact respects_withGuests arguments fun arguments =>
      ((Engine.respects_registryCall respects session name arguments).adapt _).bind fun ref =>
        respects_answerGuest command ref
  case toGuest value =>
    exact (respects_hostValue value).bind fun value =>
      ((Bridge.respects_toGuestAt session 0 value).adapt _).bind fun ref => respects_answerGuest command ref
  case toHost value =>
    exact respects_withGuest value fun value => ((Bridge.respects_toHost session value).adapt _).bind fun value =>
      respects_answerHost command value
  case toHostOrProxy value =>
    exact respects_withGuest value fun value =>
      ((Engine.respects_toHostOrProxy respects session value).adapt _).bind fun value =>
        respects_answerHost command value
  case makeProxy value =>
    exact respects_withGuest value fun value =>
      ((Engine.respects_makeProxy respects session value).adapt _).bind fun value => respects_answerHost command value
  case roundTrip value =>
    exact (respects_hostValue value).bind fun value =>
      ((Bridge.respects_toGuestAt session 0 value).adapt _).bind fun converted => Respects.lending _ <|
        ((Bridge.respects_toHost session converted).adapt _).bind fun _ => .pure _
  case call name argument =>
    exact (respects_argument argument).bind fun argument =>
      ((Engine.respects_callFunction respects session name argument).adapt _).bind fun value =>
        respects_answerOptional command value
  case callMethod proxy name arguments =>
    exact (respects_hostValue proxy).bind fun proxy => (respects_hostValues arguments).bind fun arguments =>
      ((Engine.respects_callProxy respects session proxy name arguments).adapt _).bind fun value =>
        respects_answerHost command value
  case text proxy =>
    exact (respects_hostValue proxy).bind fun proxy =>
      ((Engine.respects_proxyText respects session proxy).adapt _).bind fun _ => .pure _
  case defineClass origin className base methods =>
    exact (respects_hostValue origin).bind fun origin =>
      ((Engine.respects_defineClass respects session origin className base methods).adapt _).bind fun _ => .pure _

theorem respects_performProcess (command : Command) (host : Host.HostId) (action : ProcessAction) :
    Respects relation (performProcess engine command host action) := by
  cases action <;> unfold performProcess
  case start config =>
    exact ((Engine.respects_initializeProcess respects host config).adapt _).bind fun _ => .pure _
  case finalize => exact (Bridge.respects_finalizeProcess.adapt _).bind fun _ => .pure _
  case current =>
    refine (respects_heldCurrent.adapt _).bind_of (leaves_heldCurrent.adapt _) fun session world atHand =>
      covers_answerStored ?_
    rintro _ ⟨⟩
    exact atHand
  case call name argument =>
    exact (respects_argument argument).bind fun argument =>
      ((Engine.respects_processCall respects name argument).adapt _).bind fun value =>
        respects_answerOptional command value
  case callMethod proxy name arguments =>
    exact (respects_hostValue proxy).bind fun proxy => (respects_hostValues arguments).bind fun arguments =>
      ((Engine.respects_processMethod respects proxy name arguments).adapt _).bind fun value =>
        respects_answerHost command value
  case text proxy =>
    exact (respects_hostValue proxy).bind fun proxy =>
      ((Engine.respects_processText respects proxy).adapt _).bind fun _ => .pure _
  case defineClass origin className base methods =>
    exact (respects_hostValue origin).bind fun origin => (respects_hostValue methods).bind fun methods =>
      ((Engine.respects_processDefine respects origin className base methods).adapt _).bind fun _ => .pure _

omit respects in
theorem respects_takeRegister (name : String) : Respects relation (takeRegister name) :=
  .get_bind fun _ => Respects.bind (fun world => CoversSessions.clear world name) fun _ => .pure _

omit respects in
theorem respects_interpreter (name : String) :
    Respects relation (step (·.interpreter name) : Performance Host.HostId) :=
  fun world => CoversSessions.interpreter world name

theorem respects_performAction (command : Command) : Respects relation (performAction engine command) := by
  unfold performAction
  split
  · exact (respects_valueIn _).bind fun ref => respects_performValue command _ ref
  · exact respects_performGuest respects command _
  · exact (respects_interpreter _).bind fun host => respects_performHost respects command host _
  · refine (respects_interpreter _).bind fun host => ?_
    refine ((Engine.respects_openSession respects host _).adapt _).bind_of
      ((Engine.leaves_openSession engine host _).adapt _) fun session world alive => covers_answerStored ?_
    rintro _ ⟨⟩
    exact .alive alive
  · exact (respects_sessionIn _).bind_of (leaves_sessionIn _) fun session world atHand =>
      covers_holding atHand (respects_performSession respects command session _ _)
  · exact (respects_interpreter _).bind fun host => respects_performProcess respects command host _
  · exact Respects.bind (.change fun _ => .of_same rfl rfl rfl rfl rfl rfl) fun _ => .pure _
  · exact .get_bind fun _ => .pure _
  · exact .get_bind fun _ => Respects.bind (.change fun _ => .of_same rfl rfl rfl rfl rfl rfl) fun _ => .pure _
  · exact .pure _
  · refine (respects_takeRegister _).bind fun found => ?_
    cases found with
    | none => exact .pure _
    | some register => exact Respects.bind (fun world => world.covers_dropRegister register) fun _ => .pure _
  · refine (respects_takeRegister _).bind fun found => ?_
    cases found with
    | none => exact .pure _
    | some register => exact Respects.bind (fun world => world.covers_forgetRegister register) fun _ => .pure _
  · refine .get_bind_of fun world => ?_
    split
    · rename_i register found
      refine trans_of relation (World.covers_holdRegister found) (covers_answerStored ?_)
      rintro session rfl
      exact .register ((World.registers_holdRegister world _).symm ▸ found)
    · exact refl_of relation world

theorem covers_perform (command : Command) (world : World) : relation world (perform engine command world).2 := by
  have cleared : World.Quiet world { world with log := #[], trace := #[] } := .of_same rfl rfl rfl rfl rfl rfl
  exact trans_of relation (CoversObjects.of_quiet cleared) (respects_performAction respects command _)

theorem covers_after (commands : List Command) (world : World) : relation world (after engine commands world) := by
  induction commands generalizing world with
  | nil => exact refl_of relation world
  | cons command rest ih => exact trans_of relation (covers_perform respects command world) (ih _)

end Perform

theorem history_after {engine : Engine} (respects : engine.Respects World.History) (commands : List Command)
    (world : World) : World.History world (after engine commands world) :=
  covers_after respects commands world

end Console

end ObjectBridge

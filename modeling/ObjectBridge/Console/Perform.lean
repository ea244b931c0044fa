import ObjectBridge.Console.Answer
import ObjectBridge.Console.Command
import ObjectBridge.Console.Describe
import ObjectBridge.Machine
import ObjectBridge.Text.Segments

/-!
Carrying out commands. Literals are evaluated from left to right; the values they give are temporary and
are given back at the end of the command. A command that fails leaves the registers as they are.
-/

namespace ObjectBridge.Console

open Act Script

abbrev Performance (α : Type) := Act Failure α

variable {α : Type}

def asGuest (act : GuestAct α) : Performance α :=
  act.adapt .guest

def asHost (act : HostAct α) : Performance α :=
  act.adapt .host

def asBridge (act : BridgeAct α) : Performance α :=
  act.adapt .bridge

def spaceOf (world : World) (name : String) : Option SpaceId :=
  match world.registers.get? name with
  | some (.space id) => some id
  | some (.session session) => some session.space
  | _ => none

def placeOf (place : Option String) : Performance SpaceId := do
  let world ← get
  match place with
  | some name =>
    match spaceOf world name with
    | some id => return id
    | none => throw (.register name)
  | none =>
    match (spaceOf world "rt").or (spaceOf world "s") with
    | some id => return id
    | none => throw (.register "rt")

def valueIn (name : String) : Performance Ref := do
  match (← get).registerValue? name with
  | some ref => return ref
  | none => throw (.register name)

def familyIn (name : String) : Performance HostClass := do
  match (← get).registers.get? name with
  | some (.family family) => return family
  | _ => throw (.register name)

def sessionIn (name : String) : Performance Session := do
  match (← get).registerSession? name with
  | some session => return session
  | none => throw (.register name)

def withGuest (space : SpaceId) (literal : GuestLiteral) (act : Ref → Performance α) :
    Performance α := do
  let ref ← asGuest (makeGuest space literal)
  lending [ref] (act ref)

def withGuests (space : SpaceId) (literals : List GuestLiteral) (act : List Ref → Performance α) :
    Performance α := do
  let refs ← asGuest (makeGuests space #[] literals)
  lending refs (act refs)

def hostValue (literal : HostLiteral) : Performance HostValue := do
  asHost (liftM (makeHost (← get) literal))

def hostValues (literals : List HostLiteral) : Performance (List HostValue) := do
  asHost (liftM (makeHosts (← get) literals))

def isKeyText (text : String) : Bool :=
  !text.isEmpty && text.toList.all Char.isDigit

/-- Shows a Guest value and puts it into the register for the result. It is given up. -/
def answerGuest (command : Command) (ref : Ref) : Performance Answer := do
  let shown := GuestSnapshot.ofRef (← get) ref
  match command.result with
  | some name => change (·.store name (.value ref))
  | none => change (·.release ref)
  match shown with
  | .text content => return if command.keyed && isKeyText content then .key else .guest shown
  | _ => return .guest shown

def answerHost (command : Command) (value : HostValue) : Performance Answer := do
  match command.result with
  | some name => change (·.store name (.host value))
  | none => pure ()
  match value with
  | .text content =>
    return if command.keyed && isKeyText content then .key else .host (.ofValue value)
  | _ => return .host (.ofValue value)

def answerFamily (command : Command) (family : HostClass) : Performance Answer := do
  match command.result with
  | some name => change (·.store name (.family family))
  | none => pure ()
  return .family family.name family.superclassName

def answerStored (command : Command) (usual : String) (register : Register) :
    Performance Answer := do
  change (·.store (command.result.getD usual) register)
  return .done

def withEntries (space : SpaceId) (entries : List (String × GuestLiteral))
    (act : List (String × Ref) → Performance α) : Performance α :=
  withGuests space (entries.map (·.2)) fun refs => act ((entries.map (·.1)).zip refs)

/-- Puts values into registers as far as there are names; the others are given up. -/
def distribute : List Ref → List String → Performance Unit
  | ref :: refs, name :: names => do
    change (·.store name (.value ref))
    distribute refs names
  | refs, _ => change (·.releaseAll refs)

def performValue (command : Command) (action : ValueAction) (ref : Ref) : Performance Answer := do
  let world ← get
  let own := world.space ref.space
  match action with
  | .look =>
    return .shown (.ofRef world ref)
      [(own.text? ref.handle).isSome, (own.int? ref.handle).isSome, (own.bool? ref.handle).isSome,
        (own.tuple? ref.handle).isSome]
  | .kind =>
    return .kind ((own.kind? ref.handle).map fun kind =>
      (kind.typeName, kind.isCallable, kind = .none))
  | .references => return .number ((own.heap.count? ref.handle).getD 0)
  | .identity => return .text (toString ref.handle.id)
  | .describe => return .text (describeRef world ref)
  | .handle => answerStored command "handle" (.handle ref.handle)

def performGuest (engine : Engine) (command : Command) (action : GuestAction) :
    Performance Answer := do
  if let .start := action then
    let id ← step (·.addSpace)
    return ← answerStored command "rt" (.space id)
  let space ← placeOf command.place
  match action with
  | .start => return .done
  | .finalize =>
    (Bridge.finalizeSpace space).adapt .teardown
    return .done
  | .liveObjects => return .number ((← get).space space).heap.live
  | .isInitialized => return .flag ((← get).space space).isInitialized
  | .describeSpace => return .text (describeSpace ((← get).space space))
  | .define script =>
    change (·.updateSpace space (·.addDefinition script.definition))
    return .done
  | .importModule name => answerGuest command (← asGuest (engine.importModule space name))
  | .isImported name => return .flag (((← get).space space).isImported name)
  | .value literal => answerGuest command (← asGuest (makeGuest space literal))
  | .acquire register =>
    match (← get).registers.get? register with
    | some (.handle handle) =>
      answerGuest command (← asGuest (ownedBy space (Guest.Space.acquire handle)))
    | _ => throw (.register register)
  | .builtin name =>
    match ((← get).space space).builtin? name with
    | some handle => answerGuest command (← asGuest (ownedBy space (Guest.Space.acquire handle)))
    | none => return .absent
  | .builtinNames => return .texts Guest.Space.builtinNames
  | .function name body bound =>
    let make (state : Option Guest.Handle) : Performance Answer := do
      answerGuest command
        (← asGuest (ownedBy space (Guest.Space.newFunction name state (.script body))))
    match bound with
    | none => make none
    | some literal => withGuest space literal fun state => make (some state.handle)
  | .newType name bases members =>
    withGuests space bases fun bases =>
      withEntries space members fun members => do
        let members := members.map fun (name, ref) => (name, ref.handle)
        answerGuest command
          (← asGuest (ownedBy space (Guest.Space.newType name (bases.map (·.handle)) members)))
  | .call callable arguments keywords =>
    withGuest space callable fun callable =>
      withGuests space arguments fun arguments =>
        withEntries space keywords fun keywords => do
          answerGuest command (← asGuest (engine.call space callable arguments keywords))
  | .callWithArguments callable arguments =>
    withGuest space callable fun callable =>
      withGuests space arguments fun arguments => do
        answerGuest command
          (← asGuest (Registry.callWithArguments engine space callable arguments))
  | .callMethod target name arguments =>
    withGuest space target fun target =>
      withGuests space arguments fun arguments => do
        answerGuest command (← asGuest (engine.callMethod space target name arguments))
  | .getattr target name quiet =>
    withGuest space target fun target => do
      let answer ← answerGuest command (← asGuest (getattr space target name))
      return if quiet then .done else answer
  | .hasattr target name =>
    withGuest space target fun target => return .flag (← asGuest (hasattr space target name))
  | .setattr target name value =>
    withGuest space target fun target =>
      withGuest space value fun value => do
        asGuest (setattr space target name value)
        return .done
  | .dir target =>
    withGuest space target fun target =>
      return .texts (← asGuest (onView space (·.dir target.handle)))
  | .str target =>
    withGuest space target fun target =>
      return .text (Text.maskAddresses (← asGuest (engine.str space target)))
  | .repr target =>
    withGuest space target fun target =>
      return .text (Text.maskAddresses (← asGuest (onView space (·.repr target.handle))))
  | .typeOf target =>
    withGuest space target fun target => do
      answerGuest command
        (← asGuest (ownedBy space do
          Guest.Space.acquire (← Guest.Space.read (·.typeOf target.handle))))
  | .typeName target =>
    withGuest space target fun target =>
      return .text (← asGuest (onView space (·.typeNameOf target.handle)))
  | .isInstance target type =>
    withGuest space target fun target =>
      withGuest space type fun type =>
        return .flag (← asGuest (onView space (·.isInstance target.handle type.handle)))
  | .isSame left right =>
    withGuest space left fun left =>
      withGuest space right fun right =>
        return .flag (left.handle = right.handle)
  | .isKey left right =>
    withGuest space left fun left =>
      withGuest space right fun right =>
        return .flag ((← textOf left) = some (Registry.keyOf right))
  | .tupleItems target registers =>
    withGuest space target fun target => do
      match ← itemsOf target with
      | none => return .absent
      | some items =>
        let world ← get
        let shown := items.map (GuestSnapshot.ofRef world)
        distribute items registers
        return .guestItems shown
  | .dictGet dict key =>
    withGuest space dict fun dict => do
      match ← asGuest (dictGet space dict key) with
      | some value => answerGuest command value
      | none => return .absent
  | .dictSet dict key value =>
    withGuest space dict fun dict =>
      withGuest space value fun value => do
        asGuest (onSpace space (Guest.Space.dictSet dict.handle key value.handle))
        return .done
  | .dictRemove dict key =>
    withGuest space dict fun dict =>
      return .flag (← asGuest (onSpace space (Guest.Space.dictRemove dict.handle key)))
  | .dictLength dict =>
    withGuest space dict fun dict =>
      return .number (← asGuest (onView space (·.entries dict.handle))).size
  | .dictItems dict =>
    withGuest space dict fun dict => do
      let entries ← asGuest (onView space (·.entries dict.handle))
      let world ← get
      return .guestEntries (entries.entries.map fun (key, handle) =>
        (key, GuestSnapshot.ofRef world { space, handle }))

def performHost (engine : Engine) (command : Command) (host : Host.HostId) (action : HostAction) :
    Performance Answer := do
  match action with
  | .defineClass name superclass methods register =>
    let parent ← match superclass with
      | some parent => some <$> familyIn parent
      | none => pure none
    let bodies := methods.map fun (message, body) => (message, Method.script body)
    let family ← step (·.buildClass name parent bodies)
    if register then change fun world => world.setHost host ((world.host host).register family)
    answerFamily command family
  | .findClass name =>
    match ((← get).host host).findClass name with
    | some family => answerFamily command family
    | none => return .absent
  | .objectClass => answerFamily command ((← get).host host).objectClass
  | .classCount => return .number ((← get).host host).classCount
  | .sameClass left right =>
    return .flag ((← familyIn left).number = (← familyIn right).number)
  | .isSubclass left right => return .flag ((← familyIn left).isSubclassOf (← familyIn right))
  | .methodNames family => return .texts (← familyIn family).methodNames
  | .understands family message =>
    return .flag ((← familyIn family).findMethod message).isSome
  | .describeClass family => return .text (describeClass (← familyIn family))
  | .newObject family payload =>
    let family ← familyIn family
    answerHost command (← step (·.newObject host family (payload.map .text)))
  | .payload value =>
    let value ← hostValue value
    return .payload (value.object?.map fun object =>
      (object.payload.isSome,
        match object.payload with
        | some (.text content) => some content
        | _ => none))
  | .value literal => answerHost command (← hostValue literal)
  | .shape value =>
    let value ← hostValue value
    return .shape
      { isNil := value.isNil
        isText := value.isText
        length := value.items?.map (·.length)
        isObject := value.object?.isSome
        className := value.className
        classOf := (((← get).host host).classOf value).name }
  | .send receiver message arguments =>
    let receiver ← hostValue receiver
    let arguments ← hostValues arguments
    answerHost command (← asHost (engine.send host receiver message arguments))
  | .length value => return .number (← asHost (liftM (← hostValue value).arrayLength))
  | .itemAt value index =>
    answerHost command (← asHost (liftM ((← hostValue value).arrayAt index)))
  | .isInstance value family =>
    let value ← hostValue value
    return .flag (((← get).host host).isInstanceOf value (← familyIn family))
  | .isInstanceOfNamed value name =>
    let value ← hostValue value
    return .flag (((← get).host host).isInstanceOfNamed value name)
  | .same left right => return .flag ((← hostValue left).same (← hostValue right))
  | .describeValue value => return .text (describeValue (← hostValue value))
  | .describeObject value =>
    return .optionalText ((← hostValue value).object?.map describeObject)
  | .proxyKey value register =>
    match Bridge.opaqueReference? (← hostValue value) with
    | none => return .proxyKey none
    | some reference =>
      let world ← get
      let agrees := (register.bind world.registerValue?).map fun ref =>
        decide (reference.key = Registry.keyOf ref)
      return .proxyKey (some (agrees, (world.aliveSession? reference.session).isSome))
  | .sameKey left right =>
    let left := (Bridge.opaqueReference? (← hostValue left)).map (·.key)
    let right := (Bridge.opaqueReference? (← hostValue right)).map (·.key)
    return .flag (left = right)

def answerOptional (command : Command) : Option HostValue → Performance Answer
  | some value => answerHost command value
  | none => return .absent

def performSession (engine : Engine) (command : Command) (session : Session)
    (action : SessionAction) : Performance Answer := do
  match action with
  | .close =>
    asBridge (Bridge.close session)
    return .done
  | .isOpen => return .flag ((← get).sessionModule? session).isSome
  | .sameAs register => return .flag (session.id = (← sessionIn register).id)
  | .space => answerStored command "rt" (.space session.space)
  | .config => return .config session.config
  | .describe => return .text (describeSession (← get) session)
  | .isTracing => return .flag session.config.debug
  | .proxyClass => answerFamily command session.proxyClass
  | .module => answerGuest command (← asBridge (Bridge.moduleOf session))
  | .binding =>
    let active := ((← get).session? session.id).bind (·.active)
    return .binding (active.map fun active => (active.className, .ofValue active.origin))
  | .registryCall name arguments =>
    withGuests session.space arguments fun arguments => do
      answerGuest command (← asBridge (engine.registryCall session name arguments))
  | .toGuest value => do
    answerGuest command (← asBridge (Bridge.toGuest session (← hostValue value)))
  | .toHost value =>
    withGuest session.space value fun value => do
      answerHost command (← asBridge (Bridge.toHost session value))
  | .toHostOrProxy value =>
    withGuest session.space value fun value => do
      answerHost command (← asBridge (engine.toHostOrProxy session value))
  | .makeProxy value =>
    withGuest session.space value fun value => do
      answerHost command (← asBridge (engine.makeProxy session value))
  | .roundTrip value =>
    let value ← hostValue value
    let converted ← asBridge (Bridge.toGuest session value)
    lending [converted] do
      let back ← asBridge (Bridge.toHost session converted)
      return .roundTrip (back.same value) (.ofValue back)
  | .call name argument =>
    let argument ← argument.mapM hostValue
    answerOptional command (← asBridge (engine.callFunction session name argument))
  | .callMethod proxy name arguments =>
    let proxy ← hostValue proxy
    let arguments ← hostValues arguments
    answerHost command (← asBridge (engine.callProxy session proxy name arguments))
  | .text proxy =>
    let proxy ← hostValue proxy
    return .text (Text.maskAddresses (← asBridge (engine.proxyText session proxy)))
  | .defineClass origin className base methods =>
    let origin ← hostValue origin
    asBridge (engine.defineClass session origin className base methods)
    return .done

def performProcess (engine : Engine) (command : Command) (host : Host.HostId)
    (action : ProcessAction) : Performance Answer := do
  match action with
  | .start config =>
    asBridge (engine.initializeProcess host config)
    return .done
  | .finalize => return .number (← asBridge Bridge.finalizeProcess).code
  | .current =>
    let session ← asBridge (Bridge.withCurrent fun session => do
      change (·.holdSession session)
      return session)
    answerStored command "s" (.session session)
  | .call name argument =>
    let argument ← argument.mapM hostValue
    answerOptional command (← asBridge (engine.processCall name argument))
  | .callMethod proxy name arguments =>
    let proxy ← hostValue proxy
    let arguments ← hostValues arguments
    answerHost command (← asBridge (engine.processMethod proxy name arguments))
  | .text proxy =>
    let proxy ← hostValue proxy
    return .text (Text.maskAddresses (← asBridge (engine.processText proxy)))
  | .defineClass origin className base methods =>
    let origin ← hostValue origin
    let methods ← hostValue methods
    asBridge (engine.processDefine origin className base methods)
    return .done

def takeRegister (name : String) : Performance (Option Register) := do
  let found := (← get).registers.get? name
  change fun world => { world with registers := world.registers.erase name }
  return found

def performAction (engine : Engine) (command : Command) : Performance Answer := do
  match command.action with
  | .value action register => do performValue command action (← valueIn register)
  | .guest action => performGuest engine command action
  | .host action => do
    let host ← step (·.interpreter command.host)
    performHost engine command host action
  | .openSession config =>
    let host ← step (·.interpreter command.host)
    let session ← asBridge (engine.openSession host config)
    answerStored command "s" (.session session)
  | .session action =>
    let session ← sessionIn (command.place.getD "s")
    holding session (performSession engine command session action)
  | .process action =>
    let host ← step (·.interpreter command.host)
    performProcess engine command host action
  | .appendModule script =>
    let definition := script.definition
    change fun world =>
      { world with catalogue := world.catalogue.insert definition.name definition }
    return .module definition.name definition.functionNames
  | .lookupModule name =>
    return .optionalTexts (((← get).catalogue.get? name).map (·.functionNames))
  | .removeModule name =>
    let found := (← get).catalogue.contains name
    change fun world => { world with catalogue := world.catalogue.erase name }
    return .flag found
  | .describeModule script => return .text (describeDefinition script.definition)
  | .drop name =>
    match ← takeRegister name with
    | some register =>
      change (·.dropRegister register)
      return .flag true
    | none => return .flag false
  | .forget name =>
    match ← takeRegister name with
    | some register =>
      change (·.forgetRegister register)
      return .flag true
    | none => return .flag false
  | .copy name =>
    match (← get).registers.get? name with
    | some register =>
      change (·.holdRegister register)
      answerStored command name register
    | none => throw (.register name)

/-- The outcome of a command, with what was written meanwhile. The numbers of objects are left out of
the trace. -/
structure Reply where
  result : Except Failure Answer
  log : List LogEntry
  trace : List String

def perform (engine : Engine) (command : Command) (world : World) : Reply × World :=
  let (result, after) := (performAction engine command).run { world with log := #[], trace := #[] }
  let lines := after.trace.toList.flatMap Text.lines
  ({ result, log := after.log.toList, trace := lines.map Text.maskNumbers }, after)

def performAll (engine : Engine) : List Command → World → List Reply
  | [], _ => []
  | command :: rest, world =>
    let (reply, after) := perform engine command world
    reply :: performAll engine rest after

end ObjectBridge.Console

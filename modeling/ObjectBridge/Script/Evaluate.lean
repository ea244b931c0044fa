import ObjectBridge.Bridge.Process
import ObjectBridge.Text.Case
import ObjectBridge.Text.Mask

/-!
Evaluation of scripts. A value that a Guest script has at hand is a reference that it owns, and gives
back when it has been used.
-/

namespace ObjectBridge

def shownLevels : Nat :=
  61

namespace HostSnapshot

def ofValueWithin : Nat → HostValue → HostSnapshot
  | 0, _ => .deep
  | levels + 1, value =>
    match value with
    | .nil => .nil
    | .text content => .text (Text.maskAddresses content)
    | .array items => .array (items.map (ofValueWithin levels))
    | .object content =>
      .object content.family.name content.number
        (Bridge.opaqueReference? (.object content)).isSome

def ofValue (value : HostValue) : HostSnapshot :=
  ofValueWithin shownLevels value

end HostSnapshot

namespace World

def registerValue? (world : World) (name : String) : Option Ref :=
  match world.registers.get? name with
  | some (.value ref) => some ref
  | _ => none

def registerHost? (world : World) (name : String) : Option HostValue :=
  match world.registers.get? name with
  | some (.host value) => some value
  | _ => none

def registerHandle? (world : World) (name : String) : Option Guest.Handle :=
  match world.registers.get? name with
  | some (.handle handle) => some handle
  | _ => none

def registerSession? (world : World) (name : String) : Option Session :=
  match world.registers.get? name with
  | some (.session session) => some session
  | _ => none

end World

namespace Script

open Act

/-- The value in so many tuples of one item. It is given up for the answer. -/
def wrap (space : SpaceId) : Nat → Ref → GuestAct Ref
  | 0, value => return value
  | levels + 1, value => do
    let wrapped ← lending [value] (ownedBy space (Guest.Space.newTuple [value.handle]))
    wrap space levels wrapped

mutual

def makeGuest (space : SpaceId) : GuestLiteral → GuestAct Ref
  | .none => ownedBy space Guest.Space.noneValue
  | .bool value => ownedBy space (Guest.Space.boolValue value)
  | .int value => ownedBy space (Guest.Space.newInt value)
  | .text content => ownedBy space (Guest.Space.newText content)
  | .tuple items => do
    let made ← makeGuests space #[] items
    lending made (ownedBy space (Guest.Space.newTuple (made.map (·.handle))))
  | .register name => do
    match (← get).registerValue? name with
    | some ref =>
      change (·.retain ref)
      return ref
    | none => throw (.emptyRegister name)
  | .dict entries => do
    let dict ← ownedBy space (Guest.Space.allocate (.dict .empty))
    let filled := fillDict space dict entries
    filled.onFailure (·.release dict)
    return dict
  | .nest levels inner => do wrap space levels (← makeGuest space inner)
  | .builtin name => do
    match ((← get).space space).builtin? name with
    | some handle => ownedBy space (Guest.Space.acquire handle)
    | none => throw .finalized

def makeGuests (space : SpaceId) (done : Array Ref) : List GuestLiteral → GuestAct (List Ref)
  | [] => return done.toList
  | literal :: rest => do
    let ref ← (makeGuest space literal).onFailure (·.releaseAll done.toList)
    makeGuests space (done.push ref) rest

def fillDict (space : SpaceId) (dict : Ref) : List (String × GuestLiteral) → GuestAct Unit
  | [] => return
  | (key, literal) :: rest => do
    let value ← makeGuest space literal
    lending [value] (onSpace space (Guest.Space.dictSet dict.handle key value.handle))
    fillDict space dict rest

end

def wrapHost : Nat → HostValue → HostValue
  | 0, value => value
  | levels + 1, value => wrapHost levels (.array [value])

mutual

def makeHost (world : World) : HostLiteral → Except Host.Error HostValue
  | .nil => .ok .nil
  | .text content => .ok (.text content)
  | .array items => do return .array (← makeHosts world items)
  | .register name =>
    match world.registerHost? name with
    | some value => .ok value
    | none => .error (.condition (Guest.Exception.emptyRegister name).message)
  | .nest levels inner => do return wrapHost levels (← makeHost world inner)

def makeHosts (world : World) : List HostLiteral → Except Host.Error (List HostValue)
  | [] => .ok []
  | literal :: rest => do return (← makeHost world literal) :: (← makeHosts world rest)

end

def caughtException (exception : Guest.Exception) : String :=
  s!"caught {exception.display}"

def caughtError (error : Host.Error) : String :=
  "caught " ++ Text.maskNumbers error.message

def makePair (space : SpaceId) (entry : String × Ref) : GuestAct Ref := do
  let name ← ownedBy space (Guest.Space.newText entry.1)
  lending [name] (ownedBy space (Guest.Space.newTuple [name.handle, entry.2.handle]))

def makePairs (space : SpaceId) (entries : List (String × Ref)) : GuestAct Ref := do
  let pairs ← collect (makePair space) #[] entries
  lending pairs (ownedBy space (Guest.Space.newTuple (pairs.map (·.handle))))

mutual

def runGuest (engine : Engine) (call : Invocation) : GuestBody → GuestAct Ref
  | .literal literal => makeGuest call.space literal
  | .argument index => do
    let ref ← liftM (call.argument index)
    change (·.retain ref)
    return ref
  | .textArgument index => do
    ownedBy call.space (Guest.Space.newText (← call.textArgument index))
  | .arguments => ownedBy call.space (Guest.Space.newTuple (call.arguments.map (·.handle)))
  | .argumentCount => ownedBy call.space (Guest.Space.newText (toString call.arguments.length))
  | .noArguments => ownedBy call.space (Guest.Space.boolValue call.arguments.isEmpty)
  | .boundState => do
    let ref ← liftM call.bound
    change (·.retain ref)
    return ref
  | .keyword name =>
    match call.keyword? name with
    | some ref => do
      change (·.retain ref)
      return ref
    | none => ownedBy call.space Guest.Space.noneValue
  | .keywords => makePairs call.space call.keywords
  | .tuple items => do
    let values ← runGuests engine call #[] items
    lending values (ownedBy call.space (Guest.Space.newTuple (values.map (·.handle))))
  | .concat parts => do
    let values ← runGuests engine call #[] parts
    lending values do
      let texts ← values.mapM (engine.str call.space)
      ownedBy call.space (Guest.Space.newText (String.join texts))
  | .uppercase inner => do
    let value ← runGuest engine call inner
    lending [value] do
      let text := (← textOf value).getD ""
      ownedBy call.space (Guest.Space.newText (Text.uppercase text))
  | .typeName inner => do
    let value ← runGuest engine call inner
    lending [value] do
      let name ← onView call.space (·.typeNameOf value.handle)
      ownedBy call.space (Guest.Space.newText name)
  | .call callable arguments => do
    let callable ← runGuest engine call callable
    let values ← (runGuests engine call #[] arguments).onFailure (·.release callable)
    lending (values ++ [callable]) (engine.call call.space callable values [])
  | .callMethod target name arguments => do
    let target ← runGuest engine call target
    let values ← (runGuests engine call #[] arguments).onFailure (·.release target)
    lending (values ++ [target]) (engine.callMethod call.space target name values)
  | .getattr target name => do
    let target ← runGuest engine call target
    lending [target] (getattr call.space target name)
  | .setattr target name value => do
    let target ← runGuest engine call target
    let value ← (runGuest engine call value).onFailure (·.release target)
    lending [value, target] do
      setattr call.space target name value
      ownedBy call.space Guest.Space.noneValue
  | .dictGet dict key => do
    let dict ← runGuest engine call dict
    lending [dict] do
      match ← dictGet call.space dict key with
      | some value => return value
      | none => ownedBy call.space Guest.Space.noneValue
  | .dictSet dict key value => do
    let dict ← runGuest engine call dict
    let value ← (runGuest engine call value).onFailure (·.release dict)
    lending [value, dict] do
      onSpace call.space (Guest.Space.dictSet dict.handle key value.handle)
      ownedBy call.space Guest.Space.noneValue
  | .dictRemove dict key => do
    let dict ← runGuest engine call dict
    lending [dict] do
      let removed ← onSpace call.space (Guest.Space.dictRemove dict.handle key)
      ownedBy call.space (Guest.Space.boolValue removed)
  | .dictItems dict => do
    let dict ← runGuest engine call dict
    lending [dict] do
      let items ← onSpace call.space (Guest.Space.dictItems dict.handle)
      let entries := items.map fun (key, handle) => (key, { space := call.space, handle : Ref })
      lending (entries.map (·.2)) (makePairs call.space entries)
  | .newType name bases members values => do
    let bases ← runGuests engine call #[] bases
    let values ← (runGuests engine call #[] values).onFailure (·.releaseAll bases)
    lending (values ++ bases) (ownedBy call.space
      (Guest.Space.newType name (bases.map (·.handle)) (members.zip (values.map (·.handle)))))
  | .function name body => ownedBy call.space (Guest.Space.newFunction name none (.script body))
  | .boundFunction name bound body => do
    let bound ← runGuest engine call bound
    lending [bound] (ownedBy call.space (Guest.Space.newFunction name (some bound.handle) (.script body)))
  | .acquire register => do
    match (← get).registerHandle? register with
    | some handle => ownedBy call.space (Guest.Space.acquire handle)
    | none => throw (.emptyRegister register)
  | .keep register inner => do
    let value ← runGuest engine call inner
    change (·.retain value)
    change (·.store register (.value value))
    return value
  | .branch condition yes no => do
    let condition ← runGuest engine call condition
    let chosen ← lending [condition] (view fun world => (world.space condition.space).bool? condition.handle)
    if chosen = some true then runGuest engine call yes else runGuest engine call no
  | .raise kind message => throw (.raised kind message)
  | .attempt inner => do
    match ← (runGuest engine call inner).outcome with
    | .ok value => return value
    | .error exception => ownedBy call.space (Guest.Space.newText (caughtException exception))
  | .sequence steps => runGuestSteps engine call none steps
  | .importModule name => engine.importModule call.space name
  | .finalize inner => do
    let _ ← (Bridge.finalizeSpace call.space).outcome
    runGuest engine call inner

def runGuests (engine : Engine) (call : Invocation) (done : Array Ref) :
    List GuestBody → GuestAct (List Ref)
  | [] => return done.toList
  | body :: rest => do
    let ref ← (runGuest engine call body).onFailure (·.releaseAll done.toList)
    runGuests engine call (done.push ref) rest

/-- The value of the last body. The value of a step is given back when the next has been made. -/
def runGuestSteps (engine : Engine) (call : Invocation) (last : Option Ref) :
    List GuestBody → GuestAct Ref
  | [] =>
    match last with
    | some ref => return ref
    | none => ownedBy call.space Guest.Space.noneValue
  | body :: rest => do
    let ref ← (runGuest engine call body).afterwards (·.releaseAll last.toList)
    runGuestSteps engine call (some ref) rest

end

structure Message where
  host : Host.HostId
  receiver : HostValue
  arguments : List HostValue

def withSession {α : Type} (name : String) (operation : Session → HostAct α) : HostAct α := do
  match (← get).registerSession? name with
  | some session => holding session (operation session)
  | none => throw (.condition (Guest.Exception.emptyRegister name).message)

def asHost {α : Type} (act : BridgeAct α) : HostAct α :=
  act.adapt (·.toHost)

mutual

def runHost (engine : Engine) (message : Message) : HostBody → HostAct HostValue
  | .literal literal => do liftM (makeHost (← get) literal)
  | .receiver => return message.receiver
  | .argument index => return (message.arguments[index]?).getD .nil
  | .arguments => return .array message.arguments
  | .array items => do return .array (← runHosts engine message items)
  | .itemAt inner index => do
    let value ← runHost engine message inner
    liftM (value.arrayAt index)
  | .length inner => do
    let value ← runHost engine message inner
    return .text (toString (← liftM value.arrayLength))
  | .concat parts => do
    let values ← runHosts engine message parts
    return .text (String.join (values.map fun value => value.text?.getD "?"))
  | .send addressee name arguments => do
    let addressee ← runHost engine message addressee
    let arguments ← runHosts engine message arguments
    engine.send message.host addressee name arguments
  | .newObject className => do
    match ((← get).host message.host).findClass className with
    | some family => step (·.newObject message.host family none)
    | none => throw (.noSuchClass className)
  | .fail text => throw (.condition text)
  | .record tag => do
    change (·.writeLog
      (.call tag (.ofValue message.receiver) (message.arguments.map .ofValue)))
    return .nil
  | .note inner => do
    let value ← runHost engine message inner
    change (·.writeLog (.note (.ofValue value)))
    return value
  | .attempt inner => do
    match ← (runHost engine message inner).outcome with
    | .ok value => return value
    | .error error => return .text (caughtError error)
  | .sequence steps => do
    let values ← runHosts engine message steps
    return values.getLastD .nil
  | .store register inner => do
    let value ← runHost engine message inner
    change (·.store register (.host value))
    return value
  | .processCall name argument => do
    let argument ← runHost engine message argument
    return (← asHost (engine.processCall name (some argument))).getD .nil
  | .processText inner => do
    let proxy ← runHost engine message inner
    return .text (← asHost (engine.processText proxy))
  | .processMethod proxy name arguments => do
    let proxy ← runHost engine message proxy
    let arguments ← runHosts engine message arguments
    asHost (engine.processMethod proxy name arguments)
  | .processDefine className base methods => do
    let methods ← runHost engine message methods
    asHost (engine.processDefine message.receiver className base methods)
    return .nil
  | .processFinalize => do
    let status ← asHost Bridge.finalizeProcess
    return .text (toString status.code)
  | .sessionCall session name argument =>
    withSession session fun session => do
      let argument ← runHost engine message argument
      return (← asHost (engine.callFunction session name (some argument))).getD .nil
  | .sessionDefine session className base methods =>
    withSession session fun session => do
      asHost (engine.defineClass session message.receiver className base methods)
      return .nil
  | .sessionClose session =>
    withSession session fun session => do
      match ← (Bridge.close session).outcome with
      | .ok () => return .text "closed"
      | .error error => return .text error.variant

def runHosts (engine : Engine) (message : Message) : List HostBody → HostAct (List HostValue)
  | [] => return []
  | body :: rest => do
    let value ← runHost engine message body
    return value :: (← runHosts engine message rest)

end

end Script

end ObjectBridge

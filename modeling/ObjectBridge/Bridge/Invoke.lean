import ObjectBridge.Bridge.Convert
import ObjectBridge.Registry.Serve

/-!
Calls from the Host into the Guest: of the functions of a session's module by name, and of the
attributes of an object by a proxy for it.
-/

namespace ObjectBridge

namespace Bridge

/-- The attribute that a message names: the one in the same spelling, or else the first that differs
only in the case of ASCII letters. -/
def findAttribute (names : List String) (wanted : String) : Option String :=
  if wanted ∈ names then some wanted
  else names.find? fun name => Text.equalIgnoringAsciiCase name wanted

def assignedName? (message : String) : Option String :=
  match message.toList.reverse with
  | '=' :: rest => some (String.ofList rest.reverse)
  | _ => none

def target (session : Session) (value : HostValue) : BridgeAct Ref :=
  match opaqueReference? value with
  | some reference => dereference session reference
  | none => throw (.unsupportedHostType value.className)

end Bridge

namespace Engine

open Act Bridge

def isCallable (ref : Ref) : BridgeAct Bool := do
  return ((← kindOf ref).map (·.isCallable)).getD false

/-- The positional arguments that a converted value stands for: the items of a tuple, or any other
value alone. -/
def spread (value : Ref) : BridgeAct (List Ref) := do
  match ← itemsOf value with
  | some items =>
    change (·.release value)
    return items
  | none => return [value]

def callFunction (engine : Engine) (session : Session) (name : String)
    (argument : Option HostValue) : BridgeAct (Option HostValue) := do
  traceLine session.config 0 s!"call_function {name}"
  let module ← moduleOf session
  lending [module] do
    let callable ← (getattr session.space module name).adapt fun exception =>
      if exception.isAttributeError then .functionNotFound name else .guest exception
    lending [callable] do
      if !(← isCallable callable) then
        warn s!"{name} is not callable"
        throw (.functionNotFound name)
      let arguments ← match argument with
        | none => pure []
        | some value => spread (← toGuest session value)
      lending arguments do
        let result ← asBridge (engine.call session.space callable arguments [])
        lending [result] do
          if (← kindOf result) = some .none then
            traceLine session.config 0 s!"call_function {name} -> None"
            return none
          else return some (← toHost session result)

def assign (engine : Engine) (session : Session) (object : Ref) (names : List String)
    (message name : String) (arguments : List HostValue) : BridgeAct HostValue := do
  match arguments with
  | [] => throw (.guest (.oneArgument message))
  | value :: _ =>
    let spelling := (findAttribute names name).getD name
    let converted ← toGuest session value
    lending [converted] do
      asBridge (setattr session.space object spelling converted)
      engine.toHostOrProxy session converted

def sendTo (engine : Engine) (session : Session) (object : Ref) (names : List String)
    (name : String) (arguments : List HostValue) : BridgeAct HostValue := do
  match findAttribute names name with
  | none =>
    let typeName := typeNameFor (← get) session object
    throw (.functionNotFound s!"{typeName}.{name}")
  | some spelling =>
    let value ← asBridge (getattr session.space object spelling)
    lending [value] do
      if ← isCallable value then
        let converted ← collect (toGuest session) #[] arguments
        lending converted do
          let result ← asBridge (Registry.callWithArguments engine session.space value converted)
          lending [result] (engine.toHostOrProxy session result)
      else engine.toHostOrProxy session value

def callProxy (engine : Engine) (session : Session) (proxy : HostValue) (name : String)
    (arguments : List HostValue) : BridgeAct HostValue := do
  let object ← target session proxy
  lending [object] do
    let count := arguments.length
    traceLine session.config 0 s!"call_method {name} ({count} args)"
    let names ← asBridge (onView session.space (·.dir object.handle))
    match assignedName? name with
    | some assigned => engine.assign session object names name assigned arguments
    | none => engine.sendTo session object names name arguments

def proxyText (engine : Engine) (session : Session) (proxy : HostValue) : BridgeAct String := do
  let object ← target session proxy
  lending [object] (asBridge (engine.str session.space object))

end Engine

end ObjectBridge

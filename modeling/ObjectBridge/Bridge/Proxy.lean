import ObjectBridge.Call

/-!
Proxies: Host objects that stand for Guest objects. To make one, the object is kept in the registry of
the session's module, so a proxy leads to its object for as long as the session lasts and the object is
not released. It leads nowhere from any other session.

The bridge tells the trace what it does, in sessions that are configured to be traced, each line indented by
the depth of the conversion it tells of; warnings are always written.
-/

namespace ObjectBridge

namespace Bridge

def linePrefix : String :=
  "[ferry] "

def indented (depth : Nat) (line : String) : String :=
  String.ofList (List.replicate (2 * depth) ' ') ++ line

def traceLine {ε : Type} (config : Config) (depth : Nat) (line : String) : Act ε Unit :=
  if config.debug then Act.change (·.writeLine (linePrefix ++ indented depth line)) else pure ()

def warn {ε : Type} (line : String) : Act ε Unit :=
  Act.change (·.writeLine (linePrefix ++ "warning: " ++ line))

def opaqueReference? (value : HostValue) : Option OpaqueReference :=
  match value.object? with
  | some object =>
    match object.payload with
    | some (.proxy reference) => some reference
    | _ => none
  | none => none

def proxyMethods : List (String × Method) :=
  [("IDENTITY", .identity), ("STRING", .text), (Host.unknownMessage, .forward)]

def dereference (session : Session) (reference : OpaqueReference) : BridgeAct Ref := do
  let owner := (← get).aliveSession? reference.session
  if (owner.map (·.id)) = some session.id then
    Act.asBridge (Act.ownedBy session.space (Guest.Space.acquire reference.target))
  else
    warn s!"proxy {reference.key} belongs to another session"
    throw (.unsupportedHostType session.proxyClass.name)

def typeNameFor (world : World) (session : Session) (value : Ref) : String :=
  match (world.space session.space).typeNameOf value.handle with
  | .ok name => name
  | .error _ => "<released>"

def moduleOf (session : Session) : BridgeAct Ref := do
  match (← get).sessionModule? session with
  | some module =>
    Act.change (·.retain module)
    return module
  | none => throw .notInitialized

end Bridge

namespace Engine

open Act Bridge

def registryCall (engine : Engine) (session : Session) (name : String) (arguments : List Ref) :
    BridgeAct Ref := do
  let module ← moduleOf session
  lending [module] (asBridge (engine.callMethod session.space module name arguments))

/-- A proxy for the object, which is kept in the registry from now on. -/
def makeProxy (engine : Engine) (session : Session) (value : Ref) : BridgeAct HostValue := do
  let issued ← engine.registryCall session "store_object" [value]
  lending [issued] do
    match ← textOf issued with
    | none => throw (.unsupportedGuestType (typeNameFor (← get) session issued))
    | some key =>
      traceLine session.config 1 s!"proxy {key}"
      let reference : OpaqueReference := { key, target := value.handle, session := session.id }
      step (·.newObject session.host session.proxyClass (some (.proxy reference)))

end Engine

end ObjectBridge

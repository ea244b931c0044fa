import ObjectBridge.Bridge.Callback
import ObjectBridge.Script.Evaluate

/-!
The machine: what runs when a Guest object is called or a Host message is sent, for every kind of code
there is. Code may call and send in turn, to a limited depth.
-/

namespace ObjectBridge

namespace Engine

open Act Bridge

def runCode (engine : Engine) : Code → Invocation → GuestAct Ref
  | .script body, invocation => Script.runGuest engine invocation body
  | .service service, invocation => Registry.serve engine service invocation
  | .callback route, invocation => engine.dispatch route invocation

def proxied (receiver : HostValue) : HostAct OpaqueReference :=
  match opaqueReference? receiver with
  | some reference => return reference
  | none => throw (.condition "receiver is not a guest proxy")

def withOwner {α : Type} (receiver : HostValue) (operation : Session → HostAct α) : HostAct α := do
  let reference ← proxied receiver
  match (← get).aliveSession? reference.session with
  | some session => holding session (operation session)
  | none => throw (.condition s!"proxy {reference.key} outlived its session")

def runMethod (engine : Engine) (host : Host.HostId) (receiver : HostValue) :
    Method → List HostValue → HostAct HostValue
  | .script body, arguments => Script.runHost engine { host, receiver, arguments } body
  | .identity, _ => do return .text (← proxied receiver).key
  | .text, _ =>
    withOwner receiver fun session => do
      return .text (← Script.asHost (engine.proxyText session receiver))
  | .forward, arguments =>
    withOwner receiver fun session => do
      match arguments.head?.bind (·.text?) with
      | none => throw (.condition "missing message name")
      | some name =>
        let forwarded := (arguments[1]?.bind (·.items?)).getD []
        Script.asHost (engine.callProxy session receiver name forwarded)

def deliver (engine : Engine) (host : Host.HostId) (receiver : HostValue) (name : String)
    (arguments : List HostValue) : HostAct HostValue := do
  match ((← get).host host).answering receiver name arguments with
  | .ok (method, arguments) => engine.runMethod host receiver method arguments
  | .error error => throw error

def next (engine : Engine) : Engine :=
  { call := engine.callObject engine.runCode
    send := engine.deliver }

def exhausted : Engine :=
  { call := fun _ _ _ _ => throw .depthExceeded
    send := fun _ _ _ _ => throw (.condition Guest.Exception.depthExceeded.message) }

/-- The engine that is made when it is first used, so that of a deep nest of engines only those that
are reached are ever built. -/
def deferred (make : Unit → Engine) : Engine :=
  { call := fun space callable arguments keywords =>
      (make ()).call space callable arguments keywords
    send := fun host receiver name arguments => (make ()).send host receiver name arguments }

def ofDepth : Nat → Engine
  | 0 => exhausted
  | depth + 1 => (deferred fun _ => ofDepth depth).next

theorem ofDepth_succ (depth : Nat) : ofDepth (depth + 1) = (ofDepth depth).next :=
  rfl

/-- The depth to which calls and messages usually go. Nothing that can be run comes near it: memory ends
long before. So only what would never end meets the limit. -/
def usualDepth : Nat :=
  1000000000

def usual : Engine :=
  ofDepth usualDepth

end Engine

end ObjectBridge

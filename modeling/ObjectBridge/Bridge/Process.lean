import ObjectBridge.Bridge.ClassDefinition
import ObjectBridge.Bridge.Invoke
import ObjectBridge.Bridge.Session

/-!
The session of the process: one place that holds a session or nothing. A session that is replaced is
closed. Each operation is a holder of the session it works on, so that code it runs may replace the
session or take it away.
-/

namespace ObjectBridge

inductive Status where
  | ok
  | finalizeFailure
deriving DecidableEq, Repr

def Status.code : Status → Nat
  | .ok => 0
  | .finalizeFailure => 120

namespace Bridge

open Act

variable {α : Type}

/-- Closes a session that is no longer that of the process, with a warning if that fails, and lets it
go. -/
def retire (session : Session) (occasion : String) : BridgeAct Status := do
  let status ← match ← (close session).outcome with
    | .ok () => pure .ok
    | .error failure =>
      warn s!"{occasion}: {failure.message}"
      pure .finalizeFailure
  change (·.dropSession session)
  return status

def finalizeProcess : BridgeAct Status := do
  match (← get).current with
  | none => return .ok
  | some session =>
    change ({ · with current := none })
    retire session "finalize"

def withCurrent (operation : Session → BridgeAct α) : BridgeAct α := do
  match (← get).current with
  | some session => holding session (operation session)
  | none => throw .notInitialized

def textList (value : HostValue) : BridgeAct (List String) := do
  match value.items? with
  | none => throw (.host (.notAnArray value.className))
  | some items =>
    items.mapM fun item =>
      match item.text? with
      | some text => return text
      | none => throw (.unsupportedHostType item.className)

end Bridge

namespace Engine

open Act Bridge

def initializeProcess (engine : Engine) (host : Host.HostId) (config : Config) : BridgeAct Unit := do
  let session ← engine.openSession host config
  let previous := (← get).current
  change ({ · with current := some session })
  match previous with
  | none => return
  | some previous => discard (retire previous "closing replaced session")

def processCall (engine : Engine) (name : String) (argument : Option HostValue) :
    BridgeAct (Option HostValue) :=
  withCurrent fun session => engine.callFunction session name argument

def processMethod (engine : Engine) (proxy : HostValue) (name : String)
    (arguments : List HostValue) : BridgeAct HostValue :=
  withCurrent fun session => engine.callProxy session proxy name arguments

def processText (engine : Engine) (proxy : HostValue) : BridgeAct String :=
  withCurrent fun session => engine.proxyText session proxy

def processDefine (engine : Engine) (origin : HostValue) (className base : String)
    (methods : HostValue) : BridgeAct Unit :=
  withCurrent fun session => do
    engine.defineClass session origin className base (← textList methods)

end Engine

end ObjectBridge

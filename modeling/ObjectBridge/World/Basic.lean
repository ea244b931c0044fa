import ObjectBridge.Bridge.Config
import ObjectBridge.Guest.Modules
import ObjectBridge.Host.Interpreter
import ObjectBridge.Registry.Service
import ObjectBridge.Script.Body

/-!
The world: all object spaces, Host interpreters and sessions there are, the catalogue of modules that
any space can import, and the registers by which scripts name things.

Here the open ends of both sides are tied: what a native Guest function runs (`Code`), what a Host
method runs (`Method`) and what a Host object may carry (`Payload`).
-/

namespace ObjectBridge

structure SpaceId where
  index : Nat
deriving DecidableEq, Repr, Inhabited

structure SessionId where
  index : Nat
deriving DecidableEq, Repr, Inhabited

structure Ref where
  space : SpaceId
  handle : Guest.Handle
deriving DecidableEq, Repr, Inhabited

/-- What a proxy carries: the key under which the registry keeps the object, the object, and the session
that made the proxy. It owns no reference. -/
structure OpaqueReference where
  key : String
  target : Guest.Handle
  session : SessionId
deriving DecidableEq, Repr

inductive Payload where
  | text (content : String)
  | proxy (reference : OpaqueReference)

inductive Method where
  | script (body : Script.HostBody)
  | identity
  | text
  | forward

abbrev HostClass := Host.Class Method

abbrev HostValue := Host.Value Method Payload

structure Route where
  session : SessionId
  origin : HostValue
  className : String

inductive Code where
  | script (body : Script.GuestBody)
  | service (service : Registry.Service)
  | callback (route : Route)

abbrev Space := Guest.Space Code

abbrev Definition := Guest.Definition Code

structure Session where
  id : SessionId
  host : Host.HostId
  space : SpaceId
  config : Bridge.Config
  proxyClass : HostClass

structure ActiveBinding where
  origin : HostValue
  className : String

/-- A session with what changes about it. The module is there until the session is closed; `holders`
counts who can still use the session. -/
structure SessionState where
  session : Session
  module? : Option Guest.Handle
  active : Option ActiveBinding
  holders : Nat

inductive Register where
  | space (id : SpaceId)
  | value (ref : Ref)
  | handle (handle : Guest.Handle)
  | host (value : HostValue)
  | family (family : HostClass)
  | session (session : Session)

inductive HostSnapshot where
  | nil
  | text (content : String)
  | array (items : List HostSnapshot)
  | object (className : String) (number : Nat) (isProxy : Bool)
  | deep

inductive LogEntry where
  | call (tag : String) (receiver : HostSnapshot) (arguments : List HostSnapshot)
  | note (value : HostSnapshot)

/-- `current` is the session of the process; `catalogue` the modules that any space can import;
`forgotten` the references that were given up without being given back; `interpreters` names the Host
interpreters. -/
structure World where
  spaces : Array Space
  hosts : Array (Host.Interpreter Method)
  sessions : Array SessionState
  current : Option Session
  catalogue : Bindings Definition
  registers : Bindings Register
  forgotten : List Ref
  interpreters : Bindings Host.HostId
  nextClass : Nat
  log : Array LogEntry
  trace : Array String

namespace World

def empty : World :=
  { spaces := #[], hosts := #[], sessions := #[], current := none, catalogue := .empty
    registers := .empty, forgotten := [], interpreters := .empty, nextClass := 0, log := #[]
    trace := #[] }

instance : Inhabited World := ⟨empty⟩

/-- The space of the name. A name that was never given stands for a finalized space. -/
def space (world : World) (id : SpaceId) : Space :=
  (world.spaces[id.index]?).getD default

def setSpace (world : World) (id : SpaceId) (space : Space) : World :=
  { world with spaces := world.spaces.setIfInBounds id.index space }

def updateSpace (world : World) (id : SpaceId) (change : Space → Space) : World :=
  { world with spaces := world.spaces.modify id.index change }

def addSpace (world : World) : SpaceId × World :=
  ({ index := world.spaces.size }, { world with spaces := world.spaces.push .start })

def retain (world : World) (ref : Ref) : World :=
  world.updateSpace ref.space (·.retain ref.handle)

def release (world : World) (ref : Ref) : World :=
  world.updateSpace ref.space (·.release ref.handle)

def retainAll (world : World) (refs : List Ref) : World :=
  refs.foldl retain world

def releaseAll (world : World) (refs : List Ref) : World :=
  refs.foldl release world

def session? (world : World) (id : SessionId) : Option SessionState :=
  world.sessions[id.index]?

def updateSession (world : World) (id : SessionId) (change : SessionState → SessionState) : World :=
  { world with sessions := world.sessions.modify id.index change }

def aliveSession? (world : World) (id : SessionId) : Option Session :=
  match world.session? id with
  | some state => if 0 < state.holders then some state.session else none
  | none => none

def sessionModule? (world : World) (session : Session) : Option Ref :=
  match world.session? session.id with
  | some state => state.module?.map fun handle => { space := state.session.space, handle }
  | none => none

def holdSession (world : World) (session : Session) : World :=
  world.updateSession session.id fun state => { state with holders := state.holders + 1 }

def dropModule (world : World) (session : Session) : World :=
  match world.sessionModule? session with
  | some module => (world.updateSession session.id fun state => { state with module? := none }).release module
  | none => world

def dropSession (world : World) (session : Session) : World :=
  let fewer := world.updateSession session.id fun state => { state with holders := state.holders - 1 }
  match fewer.aliveSession? session.id with
  | some _ => fewer
  | none => fewer.dropModule session

def holdRegister (world : World) : Register → World
  | .value ref => world.retain ref
  | .session session => world.holdSession session
  | _ => world

def dropRegister (world : World) : Register → World
  | .value ref => world.release ref
  | .session session => world.dropSession session
  | _ => world

def forgetRegister (world : World) : Register → World
  | .value ref => { world with forgotten := ref :: world.forgotten }
  | _ => world

/-- Stores in a register what was held before; what the register held is let go. -/
def store (world : World) (name : String) (register : Register) : World :=
  let stored := { world with registers := world.registers.insert name register }
  match world.registers.get? name with
  | some earlier => stored.dropRegister earlier
  | none => stored

def host (world : World) (id : Host.HostId) : Host.Interpreter Method :=
  (world.hosts[id.index]?).getD (.start id 0)

def setHost (world : World) (id : Host.HostId) (host : Host.Interpreter Method) : World :=
  { world with hosts := world.hosts.setIfInBounds id.index host }

def interpreter (world : World) (name : String) : Host.HostId × World :=
  match world.interpreters.get? name with
  | some id => (id, world)
  | none =>
    let id : Host.HostId := { index := world.hosts.size }
    (id,
      { world with
        hosts := world.hosts.push (.start id world.nextClass)
        nextClass := world.nextClass + Host.builtinClassCount
        interpreters := world.interpreters.insert name id })

def buildClass (world : World) (name : String) (superclass : Option HostClass)
    (methods : List (String × Method)) : HostClass × World :=
  (.build world.nextClass name superclass methods, { world with nextClass := world.nextClass + 1 })

def newObject (world : World) (id : Host.HostId) (family : HostClass) (payload : Option Payload) :
    HostValue × World :=
  let (object, host) := (world.host id).newObject family payload
  (.object object, world.setHost id host)

def writeLog (world : World) (entry : LogEntry) : World :=
  { world with log := world.log.push entry }

def writeLine (world : World) (line : String) : World :=
  { world with trace := world.trace.push line }

end World

end ObjectBridge

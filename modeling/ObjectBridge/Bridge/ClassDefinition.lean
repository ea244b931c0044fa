import ObjectBridge.Bridge.Proxy
import ObjectBridge.Guest.Types
import ObjectBridge.Text.Case
import ObjectBridge.Text.Characters

/-!
Definition of Guest classes whose methods lead to a Host object. All checks are made before the class is
published, so that a definition that is refused leaves the module and the active binding as they were.
-/

namespace ObjectBridge

namespace Bridge

def methodFault? (seen : List String) : List String → Option ClassFault
  | [] => none
  | name :: rest =>
    if !Text.isIdentifier name then some (.invalidMethodName name)
    else if name ∈ Guest.reservedNames then some (.reservedMethodName name)
    else if name ∈ seen then some (.repeatedMethodName name)
    else methodFault? (name :: seen) rest

def nameFault? (className : String) (methods : List String) : Option ClassFault :=
  if !Text.isIdentifier className then some (.invalidClassName className)
  else methodFault? [] methods

end Bridge

namespace Engine

open Act Bridge

def resolveBase (engine : Engine) (session : Session) (base : String) : BridgeAct Ref := do
  let name ← asBridge (ownedBy session.space (Guest.Space.newText base))
  let resolved ← (lending [name] (engine.registryCall session "resolve_function" [name])).adapt
    fun error =>
      match error with
      | .guest exception => .classDefinition (.unresolvedBase base exception.message)
      | other => other
  if (← kindOf resolved) = some .typeObject then return resolved
  else
    change (·.release resolved)
    throw (.classDefinition (.baseNotType base))

def callbacks (session : Session) (route : Route) (methods : List String) : BridgeAct (List Ref) :=
  collect
    (fun name => asBridge do
      let bound ← ownedBy session.space (Guest.Space.newText name)
      lending [bound] do
        ownedBy session.space (Guest.Space.newFunction name (some bound.handle) (.callback route)))
    #[] methods

/-- The module of the session and the type that the class is to derive from, as new references, if there
is nothing against the names. -/
def prepareClass (engine : Engine) (session : Session) (className base : String)
    (methods : List String) : BridgeAct (Ref × Ref) := do
  let shown := Text.bracketed (methods.map Text.quoted)
  traceLine session.config 0 s!"define_class {className}({base}) {shown}"
  match nameFault? className methods with
  | some fault => throw (.classDefinition fault)
  | none => pure ()
  let module ← moduleOf session
  let found : BridgeAct Ref := do
    let globals ← asBridge (onView session.space (·.dir module.handle))
    let lowered := Text.lowercase className
    match globals.find? fun name => Text.lowercase name == lowered with
    | some existing =>
      throw (.classDefinition (.alreadyDefined className session.config.moduleName existing))
    | none => engine.resolveBase session base
  return (module, ← found.onFailure (·.release module))

/-- Makes the type with the functions as its methods and binds it in the module. The reference to the
base is used up. -/
def publishClass (engine : Engine) (session : Session) (origin : HostValue) (className : String)
    (baseType : Ref) (methods : List String) (functions : List Ref) : BridgeAct Unit := do
  let members := methods.zip (functions.map (·.handle))
  let type ← lending [baseType] do
    (ownedBy session.space (Guest.Space.newType className [baseType.handle] members)).adapt
      fun exception => .classDefinition (.refused exception.message)
  let name ← (asBridge (ownedBy session.space (Guest.Space.newText className))).onFailure
    (·.release type)
  lending [name, type] do
    let published ← engine.registryCall session "set_globals" [name, type]
    change (·.release published)
  change (·.updateSession session.id fun state =>
    { state with active := some { origin, className } })
  traceLine session.config 0 s!"define_class {className} published"

def defineClass (engine : Engine) (session : Session) (origin : HostValue) (className base : String)
    (methods : List String) : BridgeAct Unit := do
  let (module, baseType) ← engine.prepareClass session className base methods
  lending [module] do
    let route : Route := { session := session.id, origin, className }
    let functions ← (callbacks session route methods).onFailure (·.release baseType)
    lending functions (engine.publishClass session origin className baseType methods functions)

end Engine

end ObjectBridge

import ObjectBridge.Import
import ObjectBridge.Registry.Resolve
import ObjectBridge.Text.Characters

/-!
What the services of a module do. The registry is a dict among the globals of the module; an object is
kept in it under its number, written in decimal digits, and stays alive until it is released.
-/

namespace ObjectBridge

namespace Registry

open Act

def keywordMarker : String :=
  "kwargs"

def keyOf (ref : Ref) : String :=
  toString ref.handle.id

def isTracing (world : World) (module : Ref) : Bool :=
  let space := world.space module.space
  match space.findAttribute module.handle debugGlobal with
  | .ok (.plain flag) => (space.bool? flag).getD false
  | _ => false

def traceLine (invocation : Invocation) (line : String) : GuestAct Unit :=
  change fun world =>
    match invocation.bound? with
    | some module => if isTracing world module then world.writeLine s!"[registry] {line}" else world
    | none => world

def registryOf (invocation : Invocation) : GuestAct Ref := do
  getattr invocation.space (← liftM invocation.bound) registryGlobal

def keep (invocation : Invocation) (value : Ref) : GuestAct Ref := do
  let key := keyOf value
  let registry ← registryOf invocation
  lending [registry] do
    onSpace invocation.space (Guest.Space.dictSet registry.handle key value.handle)
  traceLine invocation s!"store_object -> {key}"
  ownedBy invocation.space (Guest.Space.newText key)

def kept (invocation : Invocation) (key : String) : GuestAct Ref := do
  let registry ← registryOf invocation
  match ← lending [registry] (dictGet invocation.space registry key) with
  | some value => return value
  | none => throw (.noEntry key)

def constant (space : SpaceId) (name : String) : GuestAct Ref := do
  if name = "True" || name = "False" || name = "None" then
    match ((← get).space space).builtin? name with
    | some handle => ownedBy space (Guest.Space.acquire handle)
    | none => throw .finalized
  else throw (.notConstant name)

def textItems (value : Ref) (role : String) : GuestAct (List String) := do
  match ← itemsOf value with
  | none => throw (.tupleExpected role)
  | some items =>
    lending items do
      items.mapM fun item => do
        match ← textOf item with
        | some text => return text
        | none => throw (.stringExpected role)

/-- Calls the object. If the last argument is a dict with the marker in it, it is taken off the
arguments, and its other entries are handed over as keyword arguments. -/
def callWithArguments (engine : Engine) (space : SpaceId) (callable : Ref) (arguments : List Ref) :
    GuestAct Ref := do
  match arguments.getLast? with
  | none => engine.call space callable arguments []
  | some last =>
    let marked ← do
      if (← kindOf last) = some .dict then
        match ← dictGet space last keywordMarker with
        | some marker =>
          change (·.release marker)
          pure true
        | none => pure false
      else pure false
    if marked then
      let entries ← onSpace space (Guest.Space.dictItems last.handle)
      let keywords := entries.map fun (key, handle) => (key, { space, handle : Ref })
      let (markers, keywords) := keywords.partition (·.1 = keywordMarker)
      change (·.releaseAll (markers.map (·.2)))
      lending (keywords.map (·.2)) (engine.call space callable arguments.dropLast keywords)
    else engine.call space callable arguments []

def importedValues (space : SpaceId) (moduleName : String) (module : Ref) (names : List String) :
    GuestAct (List Ref) :=
  collect
    (fun name =>
      (getattr space module name).adapt fun exception =>
        if exception.isAttributeError then .unimportable name moduleName else exception)
    #[] names

def setTracing (invocation : Invocation) (enabled : Bool) : GuestAct Ref := do
  let space := invocation.space
  let module ← liftM invocation.bound
  let flag ← ownedBy space (Guest.Space.boolValue enabled)
  lending [flag] (setattr space module debugGlobal flag)
  if enabled then traceLine invocation "debug on"
  ownedBy space Guest.Space.noneValue

/-- Imports a module and binds each of the listed attributes as a global of the module that serves.
Nothing is bound unless all of them are there. -/
def importFrom (engine : Engine) (invocation : Invocation) : GuestAct Ref := do
  let space := invocation.space
  let moduleName ← invocation.textArgument 0
  let names ← textItems (← liftM (invocation.argument 1)) "import names"
  let shown := Text.bracketed (names.map Text.quoted)
  traceLine invocation s!"invoke_from_import({moduleName}, {shown})"
  let imported ← engine.importModule space moduleName
  lending [imported] do
    let values ← importedValues space moduleName imported names
    lending values do
      (names.zip values).forM fun (name, value) => do
        setattr space (← liftM invocation.bound) name value
      ownedBy space Guest.Space.noneValue

def invoke (engine : Engine) (invocation : Invocation) : GuestAct Ref := do
  let space := invocation.space
  let name ← invocation.textArgument 0
  let arguments ← match invocation.arguments[1]? with
    | none => pure []
    | some arguments =>
      match ← itemsOf arguments with
      | some items => pure items
      | none => throw .argumentsNotTuple
  lending arguments do
    let count := arguments.length
    traceLine invocation s!"invoke_function({name}, {count} args)"
    let function ← resolve space (← liftM invocation.bound) name
    lending [function] do
      if ((← kindOf function).map (·.isCallable)).getD false then
        let result ← callWithArguments engine space function arguments
        lending [result] (keep invocation result)
      else keep invocation function

def attributeSpellings (invocation : Invocation) : GuestAct Ref := do
  let space := invocation.space
  let className ← invocation.textArgument 0
  let type ← resolve space (← liftM invocation.bound) className
  lending [type] do
    if (← kindOf type) ≠ some .typeObject then throw (.namedNotType className)
    match ← itemsOf (← liftM (invocation.argument 1)) with
    | none => throw (.tupleExpected "method names")
    | some names =>
      let spell (attributes : List String) (name : Ref) : GuestAct Ref := do
        match ← textOf name with
        | none => throw (.stringExpected "method names")
        | some wanted =>
          match ← liftM (findName attributes wanted) with
          | some found => ownedBy space (Guest.Space.newText found)
          | none => throw (.typeLacks className wanted)
      let spelled ← lending names do
        let attributes ← onView space (·.dir type.handle)
        collect (spell attributes) #[] names
      lending spelled (ownedBy space (Guest.Space.newTuple (spelled.map (·.handle))))

def serve (engine : Engine) (service : Service) (invocation : Invocation) : GuestAct Ref := do
  let space := invocation.space
  match service with
  | .storeObject => keep invocation (← liftM (invocation.argument 0))
  | .lookupObject =>
    let key ← invocation.textArgument 0
    traceLine invocation s!"lookup_object({key})"
    kept invocation key
  | .releaseObject =>
    let key ← invocation.textArgument 0
    let registry ← registryOf invocation
    let removed ← lending [registry] (onSpace space (Guest.Space.dictRemove registry.handle key))
    traceLine invocation s!"release_object({key}) -> {removed}"
    ownedBy space (Guest.Space.boolValue removed)
  | .resolveFunction =>
    let name ← invocation.textArgument 0
    traceLine invocation s!"resolve_function({name})"
    resolve space (← liftM invocation.bound) name
  | .setGlobals =>
    let name ← invocation.textArgument 0
    traceLine invocation s!"set_globals({name})"
    setattr space (← liftM invocation.bound) name (← liftM (invocation.argument 1))
    ownedBy space Guest.Space.noneValue
  | .invokeStr =>
    let key ← invocation.textArgument 0
    let value ← kept invocation key
    lending [value] do
      let text ← engine.str space value
      traceLine invocation s!"invoke_str({key}) -> {text}"
      ownedBy space (Guest.Space.newText text)
  | .invokeImport =>
    let name ← invocation.textArgument 0
    traceLine invocation s!"invoke_import({name})"
    let imported ← engine.importModule space name
    lending [imported] do
      setattr space (← liftM invocation.bound) name imported
      ownedBy space Guest.Space.noneValue
  | .invokeFromImport => importFrom engine invocation
  | .invokeFunction => invoke engine invocation
  | .getBuiltinConstant => constant space (← invocation.textArgument 0)
  | .getBuiltinConstantId =>
    let value ← constant space (← invocation.textArgument 0)
    lending [value] (keep invocation value)
  | .debugOn => setTracing invocation true
  | .debugOff => setTracing invocation false
  | .getCorrespondingMethodnames => attributeSpellings invocation

end Registry

end ObjectBridge

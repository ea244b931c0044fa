import ObjectBridge.Guest.Definition

/-!
The services that a bridged module offers to keep objects under keys and to resolve names.
-/

namespace ObjectBridge.Registry

inductive Service where
  | storeObject
  | lookupObject
  | releaseObject
  | resolveFunction
  | setGlobals
  | invokeStr
  | invokeImport
  | invokeFromImport
  | invokeFunction
  | getBuiltinConstant
  | getBuiltinConstantId
  | debugOn
  | debugOff
  | getCorrespondingMethodnames
deriving DecidableEq, Repr

namespace Service

def all : List Service :=
  [.storeObject, .lookupObject, .releaseObject, .resolveFunction, .setGlobals, .invokeStr,
    .invokeImport, .invokeFromImport, .invokeFunction, .getBuiltinConstant, .getBuiltinConstantId,
    .debugOn, .debugOff, .getCorrespondingMethodnames]

def name : Service → String
  | .storeObject => "store_object"
  | .lookupObject => "lookup_object"
  | .releaseObject => "release_object"
  | .resolveFunction => "resolve_function"
  | .setGlobals => "set_globals"
  | .invokeStr => "invoke_str"
  | .invokeImport => "invoke_import"
  | .invokeFromImport => "invoke_from_import"
  | .invokeFunction => "invoke_function"
  | .getBuiltinConstant => "get_builtin_constant"
  | .getBuiltinConstantId => "get_builtin_constant_id"
  | .debugOn => "debug_on"
  | .debugOff => "debug_off"
  | .getCorrespondingMethodnames => "get_corresponding_methodnames"

end Service

/-- The module with the services added, and a registry to be set up on import after all else. -/
def install {β : Type} (body : Service → β) (definition : Guest.Definition β) : Guest.Definition β :=
  Service.all.foldl (fun definition service => definition.addFunction service.name (body service))
    (definition.addInitializer .registry)

end ObjectBridge.Registry

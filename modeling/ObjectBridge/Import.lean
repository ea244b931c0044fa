import ObjectBridge.Call

/-!
Import of modules. A definition given to the space goes before one of the catalogue. The functions are
in place and the module is listed before its initializers run; if one of them fails the module is taken
out of the list again.
-/

namespace ObjectBridge

namespace Registry

def registryGlobal : String :=
  "registry"

def debugGlobal : String :=
  "debug_enabled"

end Registry

namespace Engine

open Act

def runInitializer (engine : Engine) (space : SpaceId) (module : Ref) :
    Guest.Initializer Code → GuestAct Unit
  | .run body => do
    let function ← ownedBy space (Guest.Space.newFunction "init" (some module.handle) body)
    lending [function] do
      let result ← engine.call space function [] []
      change (·.release result)
  | .registry => do
    let registry ← ownedBy space (Guest.Space.allocate (.dict .empty))
    lending [registry] do
      setattr space module Registry.registryGlobal registry
      let flag ← ownedBy space (Guest.Space.boolValue false)
      lending [flag] (setattr space module Registry.debugGlobal flag)

/-- The module of the name, created and initialized if this is its first import. -/
def importModule (engine : Engine) (space : SpaceId) (name : String) : GuestAct Ref := do
  match ← onSpace space (Guest.Space.importedModule name) with
  | some handle => return { space, handle }
  | none =>
    let world ← get
    match ((world.space space).definitions.get? name).or (world.catalogue.get? name) with
    | none => throw (.noModule name)
    | some definition =>
      let module ← ownedBy space (Guest.Space.createModule name definition)
      let initialized := definition.initializers.forM (engine.runInitializer space module)
      initialized.onFailure fun world =>
        (world.updateSpace space (·.forgetModule name)).release module
      return module

end Engine

end ObjectBridge

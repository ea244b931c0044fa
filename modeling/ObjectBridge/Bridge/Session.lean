import ObjectBridge.Bridge.Proxy
import ObjectBridge.Import

/-!
The life of a session. To open one, a space is started and the configured module imported into it, with
the registry services added. To close one, the module is given back and the space finalized; a session
that is closed stays closed.
-/

namespace ObjectBridge

namespace Bridge

open Act

/-- Finalizes a space. No code of the world owns a reference, so that whatever definitions the space has, its teardown
returns. -/
def finalizeSpace (space : SpaceId) : Act Guest.TeardownError Unit := do
  let (result, finalized) := ((← get).space space).finalize
  change (·.setSpace space finalized)
  liftM result

def proxyClassFor (world : World) (host : Host.HostId) (name : String) : HostClass × World :=
  match (world.host host).findClass name with
  | some family => (family, world)
  | none =>
    let (family, world) := world.buildClass name none proxyMethods
    (family, world.setHost host ((world.host host).register family))

/-- Closes the session. To close it again is no failure. -/
def close (session : Session) : BridgeAct Unit := do
  match (← get).sessionModule? session with
  | none => return
  | some _ =>
    change (·.dropModule session)
    change (·.updateSession session.id fun state => { state with active := none })
    traceLine session.config 0 "session close"
    (finalizeSpace session.space).adapt .finalizeFailure

end Bridge

namespace Engine

open Act Bridge

/-- Opens a session. The answer counts as one holder of it. -/
def openSession (engine : Engine) (host : Host.HostId) (config : Config) : BridgeAct Session := do
  match config.validate with
  | .error fault => throw (.config fault)
  | .ok () => pure ()
  let space ← step (·.addSpace)
  let found := (← get).catalogue.get? config.moduleName
  let definition := Registry.install Code.service (found.getD (.ofName config.moduleName))
  change (·.updateSpace space (·.addDefinition definition))
  let module ← match ← (engine.importModule space config.moduleName).outcome with
    | .ok module => pure module
    | .error exception =>
      match ← (finalizeSpace space).outcome with
      | .ok () => pure ()
      | .error failure => warn s!"teardown after failed import: {failure.message}"
      throw (.guest exception)
  if config.debug then
    let switched ← (asBridge (engine.callMethod space module "debug_on" [])).onFailure
      (·.release module)
    change (·.release switched)
  let proxyClass ← step (proxyClassFor · host config.proxyClass)
  traceLine config 0 s!"session open (module {config.moduleName})"
  step fun world =>
    let session : Session :=
      { id := { index := world.sessions.size }, host, space, config, proxyClass }
    (session,
      { world with
        sessions := world.sessions.push
          { session, module? := some module.handle, active := none, holders := 1 } })

end Engine

end ObjectBridge

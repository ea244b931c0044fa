import ObjectBridge.Bridge.Proxy

/-!
Callbacks: what the methods of a class do that was defined over the bridge. Every argument after the
receiver goes to the Host as a proxy, in call order; what the Host answers is dropped.
-/

namespace ObjectBridge.Engine

open Act Bridge

/-- Sends on a call of a synthesized method to the Host object of its route. -/
def dispatch (engine : Engine) (route : Route) (invocation : Invocation) : GuestAct Ref := do
  let bound ← liftM invocation.bound
  let some method ← textOf bound | throw .routeNotString
  let some session := (← get).aliveSession? route.session | throw .sessionGone
  holding session do
    let arguments := invocation.arguments.drop 1
    let count := arguments.length
    traceLine session.config 1 s!"callback {route.className}.{method} ({count} args)"
    let proxies ← arguments.mapM fun argument =>
      (engine.makeProxy session argument).adapt (·.toException)
    let _ ← (engine.send session.host route.origin method proxies).adapt fun error =>
      .hostFailure route.className method error.message
    ownedBy invocation.space Guest.Space.noneValue

end ObjectBridge.Engine

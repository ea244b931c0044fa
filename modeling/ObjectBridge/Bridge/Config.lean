import ObjectBridge.Text.Characters
import ObjectBridge.Text.Segments

/-!
The configuration of a session: which module to import, whether to trace, and what the class of
proxies is called.
-/

namespace ObjectBridge.Bridge

inductive ConfigFault where
  | emptyModule
  | invalidModule (name : String)
  | emptyProxyClass
  | other (text : String)
deriving DecidableEq, Repr

def ConfigFault.reason : ConfigFault → String
  | .emptyModule => "Module name cannot be empty"
  | .invalidModule name => s!"Invalid module name: {name}"
  | .emptyProxyClass => "Proxy class name cannot be empty"
  | .other text => text

def ConfigFault.message (fault : ConfigFault) : String :=
  s!"Invalid config: {fault.reason}"

structure Config where
  moduleName : String
  debug : Bool
  proxyClass : String
deriving DecidableEq, Repr

namespace Config

def defaultProxyClass : String :=
  "GuestInstance"

def ofModule (moduleName : String) (debug : Bool) : Config :=
  { moduleName, debug, proxyClass := defaultProxyClass }

def default : Config :=
  ofModule "bridge" false

/-- The name of a module is one identifier or several with points between them. The class of proxies
must have a name. -/
def validate (config : Config) : Except ConfigFault Unit :=
  if config.moduleName.isEmpty then .error .emptyModule
  else if !(Text.segments config.moduleName).all Text.isIdentifier then
    .error (.invalidModule config.moduleName)
  else if config.proxyClass.isEmpty then .error .emptyProxyClass
  else .ok ()

end Config

end ObjectBridge.Bridge

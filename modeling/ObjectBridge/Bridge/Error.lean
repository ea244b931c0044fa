import ObjectBridge.Bridge.Config
import ObjectBridge.Guest.Exception
import ObjectBridge.Guest.Teardown
import ObjectBridge.Host.Error

/-!
Errors of the bridge, and how an error crosses from one side to the other: a Guest exception that comes
back to Guest code is the exception it was, and a Host error that comes back to Host code the error it
was. Any other crosses as its text.
-/

namespace ObjectBridge.Bridge

inductive ClassFault where
  | invalidClassName (name : String)
  | invalidMethodName (name : String)
  | reservedMethodName (name : String)
  | repeatedMethodName (name : String)
  /-- The module has a global that differs at most in letter case. -/
  | alreadyDefined (className moduleName existing : String)
  | unresolvedBase (base reason : String)
  | baseNotType (base : String)
  | refused (reason : String)
deriving DecidableEq, Repr

def ClassFault.reason : ClassFault → String
  | .invalidClassName name => s!"invalid class name '{name}'"
  | .invalidMethodName name => s!"invalid method name '{name}'"
  | .reservedMethodName name => s!"method name '{name}' is reserved"
  | .repeatedMethodName name => s!"method name '{name}' is listed twice"
  | .alreadyDefined className moduleName existing =>
    s!"'{className}' is already defined in module {moduleName} as '{existing}'"
  | .unresolvedBase base reason => s!"cannot resolve base type '{base}': {reason}"
  | .baseNotType base => s!"base '{base}' is not a type"
  | .refused reason => reason

inductive Error where
  | unsupportedHostType (className : String)
  | unsupportedGuestType (typeName : String)
  | functionNotFound (name : String)
  | classDefinition (fault : ClassFault)
  | guest (exception : Guest.Exception)
  | finalizeFailure (cause : Guest.TeardownError)
  | notInitialized
  | host (cause : Host.Error)
  | config (fault : ConfigFault)
deriving DecidableEq, Repr

namespace Error

def message : Error → String
  | .unsupportedHostType className => s!"Unsupported host type: {className}"
  | .unsupportedGuestType typeName => s!"Unsupported guest type: {typeName}"
  | .functionNotFound name => s!"Function not found: {name}"
  | .classDefinition fault => s!"Class definition failed: {fault.reason}"
  | .guest exception => s!"Guest raised {exception.display}"
  | .finalizeFailure cause => s!"Finalize failed: {cause.message}"
  | .notInitialized => "Bridge is not initialized"
  | .host cause => s!"Host error: {cause.message}"
  | .config fault => s!"Configuration error: {fault.message}"

def variant : Error → String
  | .unsupportedHostType _ => "UnsupportedHostType"
  | .unsupportedGuestType _ => "UnsupportedGuestType"
  | .functionNotFound _ => "FunctionNotFound"
  | .classDefinition _ => "ClassDefinition"
  | .guest _ => "GuestRuntimeFault"
  | .finalizeFailure _ => "FinalizeFailure"
  | .notInitialized => "NotInitialized"
  | .host _ => "Host"
  | .config _ => "Config"

def toException : Error → Guest.Exception
  | .guest exception => exception
  | other => .bridgeFailure other.message

def toHost : Error → Host.Error
  | .host cause => cause
  | other => .condition other.message

end Error

end ObjectBridge.Bridge

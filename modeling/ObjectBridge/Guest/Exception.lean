/-!
Guest exceptions, as causes. Each has the name of its exception class and a message; Guest code that
catches one sees nothing else.
-/

namespace ObjectBridge.Guest

inductive Exception where
  | finalized
  | released
  | notCallable (typeName : String)
  | noAttribute (typeName name : String)
  | noGlobal (moduleName name : String)
  | readOnly (typeName name : String)
  | notDict
  | notType
  | noInstances (typeName : String)
  | noArguments (typeName : String)
  | noKeywords (typeName : String)
  | tooManyArguments (typeName : String)
  | notTuple
  | textNotString
  | typeNameNotIdentifier (name : String)
  | attributeNotIdentifier (name : String)
  | attributeReserved (name : String)
  | attributeRepeated (name : String)
  | unacceptableBase (typeName : String)
  | basesNotTypes
  | noModule (name : String)
  | noBoundState
  | missingArgument (index given : Nat)
  | argumentNotString (index : Nat) (typeName : String)
  /-- What should have been a tuple is not; `role` says what it was meant as. -/
  | tupleExpected (role : String)
  | stringExpected (role : String)
  | argumentsNotTuple
  | unimportable (name moduleName : String)
  | namedNotType (name : String)
  | typeLacks (typeName name : String)
  | notConstant (name : String)
  | noEntry (key : String)
  | ambiguousName (name first second : String)
  | emptyName
  | undefinedName (name : String)
  | oneArgument (message : String)
  | routeNotString
  | sessionGone
  | hostFailure (className method description : String)
  | bridgeFailure (description : String)
  | depthExceeded
  | emptyRegister (name : String)
  | raised (kind message : String)
deriving DecidableEq, Repr

namespace Exception

def kind : Exception → String
  | .finalized | .released | .sessionGone | .hostFailure .. | .bridgeFailure _ => "RuntimeError"
  | .noAttribute .. | .noGlobal .. | .readOnly .. | .typeLacks .. => "AttributeError"
  | .noModule _ => "ModuleNotFoundError"
  | .unimportable .. => "ImportError"
  | .noEntry _ => "KeyError"
  | .notConstant _ | .ambiguousName .. | .emptyName | .undefinedName _ => "NameError"
  | .depthExceeded => "RecursionError"
  | .emptyRegister _ => "LookupError"
  | .raised kind _ => kind
  | _ => "TypeError"

def message : Exception → String
  | .finalized => "guest runtime is finalized"
  | .released => "reference to a released object"
  | .notCallable typeName => s!"'{typeName}' object is not callable"
  | .noAttribute typeName name => s!"'{typeName}' object has no attribute '{name}'"
  | .noGlobal moduleName name => s!"module '{moduleName}' has no attribute '{name}'"
  | .readOnly typeName name => s!"'{typeName}' object attribute '{name}' is read-only"
  | .notDict => "expected a dict"
  | .notType => "expected a type"
  | .noInstances typeName => s!"cannot create '{typeName}' instances"
  | .noArguments typeName => s!"{typeName}() takes no arguments"
  | .noKeywords typeName => s!"{typeName}() takes no keyword arguments"
  | .tooManyArguments typeName => s!"{typeName}() takes at most 1 argument"
  | .notTuple => "tuple() argument must be a tuple"
  | .textNotString => "__str__ returned non-string"
  | .typeNameNotIdentifier name => s!"type name '{name}' is not an identifier"
  | .attributeNotIdentifier name => s!"attribute name '{name}' is not an identifier"
  | .attributeReserved name => s!"attribute name '{name}' is reserved"
  | .attributeRepeated name => s!"duplicate attribute name '{name}'"
  | .unacceptableBase typeName => s!"type '{typeName}' is not an acceptable base type"
  | .basesNotTypes => "bases must be types"
  | .noModule name => s!"No module named '{name}'"
  | .noBoundState => "function has no bound state"
  | .missingArgument index given =>
    s!"missing required positional argument {index} (got {given})"
  | .argumentNotString index typeName => s!"argument {index} must be str, not {typeName}"
  | .tupleExpected role => s!"{role} must be a tuple"
  | .stringExpected role => s!"{role} must be str"
  | .argumentsNotTuple => "invoke_function() arguments must be a tuple"
  | .unimportable name moduleName => s!"cannot import name '{name}' from '{moduleName}'"
  | .namedNotType name => s!"'{name}' is not a type"
  | .typeLacks typeName name => s!"type '{typeName}' has no attribute '{name}'"
  | .notConstant name => s!"'{name}' is not a builtin constant"
  | .noEntry key => s!"'{key}'"
  | .ambiguousName name first second => s!"name '{name}' is ambiguous ('{first}', '{second}')"
  | .emptyName => "empty name"
  | .undefinedName name => s!"name '{name}' is not defined"
  | .oneArgument message => s!"'{message}' takes exactly one argument"
  | .routeNotString => "callback bound state must be a method name"
  | .sessionGone => "bridge session is closed"
  | .hostFailure className method description =>
    s!"{className}.{method} failed in host: {description}"
  | .bridgeFailure description => description
  | .depthExceeded => "maximum recursion depth exceeded"
  | .emptyRegister name => s!"register '{name}' holds no value of this kind"
  | .raised _ message => message

def display (exception : Exception) : String :=
  s!"{exception.kind}: {exception.message}"

/-- Guest code asks for this kind to find out whether an attribute is there. -/
def isAttributeError (exception : Exception) : Bool :=
  exception.kind == "AttributeError"

end Exception

end ObjectBridge.Guest

import ObjectBridge.Engine
import ObjectBridge.Guest.Attributes
import ObjectBridge.Guest.Callee
import ObjectBridge.Guest.Dictionary
import ObjectBridge.Guest.Printing

/-!
Calls of Guest objects. A function runs its body; a bound method puts its receiver before the
arguments; a type makes an instance and hands the arguments to its `__init__`.

While something runs, the caller of it holds references to all that it was given: to the bound state,
to the arguments and to the values of keywords.
-/

namespace ObjectBridge

namespace Act

def getattr (space : SpaceId) (target : Ref) (name : String) : GuestAct Ref :=
  ownedBy space (Guest.Space.getattr target.handle name)

def hasattr (space : SpaceId) (target : Ref) (name : String) : GuestAct Bool := do
  match ← (getattr space target name).outcome with
  | .ok ref =>
    change (·.release ref)
    return true
  | .error exception =>
    if exception.isAttributeError then return false else throw exception

def setattr (space : SpaceId) (target : Ref) (name : String) (value : Ref) : GuestAct Unit :=
  onSpace space (Guest.Space.setattr target.handle name value.handle)

def lookup (space : SpaceId) (type : Ref) (name : String) : GuestAct (Option Ref) := do
  match ((← get).space space).lookup type.handle name with
  | some handle => return some (← ownedBy space (Guest.Space.acquire handle))
  | none => return none

def dictGet (space : SpaceId) (dict : Ref) (key : String) : GuestAct (Option Ref) := do
  let found ← onSpace space (Guest.Space.dictGet dict.handle key)
  return found.map fun handle => { space, handle }

end Act

namespace Engine

open Act

def callMethod (engine : Engine) (space : SpaceId) (target : Ref) (name : String)
    (arguments : List Ref) : GuestAct Ref := do
  let method ← getattr space target name
  lending [method] (engine.call space method arguments [])

/-- The text of a value. An instance whose type defines `__str__` is asked for it. -/
def str (engine : Engine) (space : SpaceId) (value : Ref) : GuestAct String := do
  if (← kindOf value) = some .object then
    let type ← ownedBy space do
      Guest.Space.acquire (← Guest.Space.read (·.typeOf value.handle))
    let own ← lending [type] do
      match ← lookup space type "__str__" with
      | none => return none
      | some method =>
        lending [method] do
          let result ← engine.call space method [value] []
          lending [result] do
            match ← textOf result with
            | some text => return some text
            | none => throw .textNotString
    match own with
    | some text => return text
    | none => onView space (·.plainText value.handle)
  else
    onView space (·.plainText value.handle)

/-- Makes an instance of a type. Only types with an `__init__` take arguments, and they get the
instance before them. -/
def instantiate (engine : Engine) (space : SpaceId) (type : Ref) (arguments : List Ref)
    (keywords : List (String × Ref)) : GuestAct Ref := do
  let construction ← onView space (·.construction type.handle)
  if !keywords.isEmpty && construction ≠ .object then
    throw (.noKeywords (← onView space (·.typeName type.handle)))
  match construction with
  | .str =>
    match arguments with
    | [] => ownedBy space (Guest.Space.newText "")
    | [value] => ownedBy space (Guest.Space.newText (← engine.str space value))
    | _ => throw (.tooManyArguments "str")
  | .tuple =>
    match arguments with
    | [] => ownedBy space (Guest.Space.newTuple [])
    | [value] =>
      if (← kindOf value) = some .tuple then
        change (·.retain value)
        return value
      else throw .notTuple
    | _ => throw (.tooManyArguments "tuple")
  | .object =>
    let initializer ← lookup space type "__init__"
    if initializer.isNone && !(arguments.isEmpty && keywords.isEmpty) then
      throw (.noArguments (← onView space (·.typeName type.handle)))
    let made ← (ownedBy space do
      let type ← Guest.Space.acquire type.handle
      Guest.Space.allocate (.object { type, attributes := .empty })).onFailure
        (·.releaseAll initializer.toList)
    match initializer with
    | none => return made
    | some initializer =>
      change (·.retainAll (made :: arguments))
      let called := lending (made :: arguments ++ [initializer]) do
        let result ← engine.call space initializer (made :: arguments) keywords
        change (·.release result)
      called.onFailure (·.release made)
      return made

def callObject (engine : Engine) (run : Code → Invocation → GuestAct Ref) (space : SpaceId)
    (callable : Ref) (arguments : List Ref) (keywords : List (String × Ref)) : GuestAct Ref := do
  match ← onView space (·.callee callable.handle) with
  | .native body bound =>
    let bound? := bound.map fun handle => { space, handle : Ref }
    let lent := bound?.toList ++ arguments ++ keywords.map (·.2)
    change (·.retainAll lent)
    lending lent (run body { space, bound?, arguments, keywords })
  | .method receiver function =>
    let receiver : Ref := { space, handle := receiver }
    let function : Ref := { space, handle := function }
    let lent := receiver :: arguments ++ [function]
    change (·.retainAll lent)
    lending lent (engine.call space function (receiver :: arguments) keywords)
  | .typeObject => engine.instantiate space callable arguments keywords

end Engine

end ObjectBridge

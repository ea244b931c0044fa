import ObjectBridge.Bridge.Proxy

/-!
Conversion of values. Nil and `None`, strings, and arrays and tuples correspond; a proxy stands for its
object. What has no counterpart on the other side is refused, or wrapped in a proxy on the way to the
Host.
-/

namespace ObjectBridge

namespace Bridge

open Act

mutual

def toGuestAt (session : Session) (depth : Nat) (value : HostValue) : BridgeAct Ref := do
  traceLine session.config depth s!"to_guest {value.className}"
  match value with
  | .nil => asBridge (ownedBy session.space Guest.Space.noneValue)
  | .text content => asBridge (ownedBy session.space (Guest.Space.newText content))
  | .array items =>
    let converted ← itemsToGuest session (depth + 1) #[] items
    lending converted do
      asBridge (ownedBy session.space (Guest.Space.newTuple (converted.map (·.handle))))
  | .object content =>
    let host := (← get).host session.host
    match opaqueReference? (.object content) with
    | some reference =>
      if host.isInstanceOfNamed (Host.Value.object content) session.proxyClass.name then
        dereference session reference
      else throw (.unsupportedHostType content.family.name)
    | none => throw (.unsupportedHostType content.family.name)

/-- The Guest forms of the items. If one has none, those made before are given back. -/
def itemsToGuest (session : Session) (depth : Nat) (done : Array Ref) :
    List HostValue → BridgeAct (List Ref)
  | [] => return done.toList
  | item :: rest => do
    let ref ← (toGuestAt session depth item).onFailure (·.releaseAll done.toList)
    itemsToGuest session depth (done.push ref) rest

end

def toGuest (session : Session) (value : HostValue) : BridgeAct Ref :=
  toGuestAt session 0 value

def unsupported (session : Session) (value : Ref) : BridgeAct HostValue := do
  throw (.unsupportedGuestType (typeNameFor (← get) session value))

/-- The Host form of a Guest value, down to so many levels. The items of a tuple are held while they are
converted. -/
def toHostWithin (session : Session) : Nat → Ref → BridgeAct HostValue
  | 0, value => unsupported session value
  | levels + 1, value => do
    match ← kindOf value with
    | some .none => return .nil
    | some .str =>
      match ← textOf value with
      | some content => return .text content
      | none => unsupported session value
    | some .tuple =>
      match ← itemsOf value with
      | some items => lending items do
        return .array (← items.mapM (toHostWithin session levels))
      | none => unsupported session value
    | _ => unsupported session value

def toHost (session : Session) (value : Ref) : BridgeAct HostValue := do
  toHostWithin session ((← get).space value.space).depthBound value

end Bridge

namespace Engine

open Act Bridge

def toHostOrProxy (engine : Engine) (session : Session) (value : Ref) : BridgeAct HostValue := do
  match ← (toHost session value).outcome with
  | .ok converted => return converted
  | .error (.unsupportedGuestType _) => engine.makeProxy session value
  | .error other => throw other

end Engine

end ObjectBridge

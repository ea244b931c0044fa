import ObjectBridge.World.Act

/-!
The two ways in which code reaches other code: a Guest call and a Host message. All operations are
written against an engine that provides these two, so that each of them is defined without reference
to itself; `Machine` closes the circle, with a limit on the depth.
-/

namespace ObjectBridge

structure Engine where
  /-- Calls the object with positional and keyword arguments. The references stay the caller's; the
  answer is a new one. -/
  call : SpaceId → Ref → List Ref → List (String × Ref) → GuestAct Ref
  send : Host.HostId → HostValue → String → List HostValue → HostAct HostValue

structure Invocation where
  space : SpaceId
  bound? : Option Ref
  arguments : List Ref
  keywords : List (String × Ref)

namespace Invocation

def bound (invocation : Invocation) : Except Guest.Exception Ref :=
  match invocation.bound? with
  | some state => .ok state
  | none => .error .noBoundState

def argument (invocation : Invocation) (index : Nat) : Except Guest.Exception Ref :=
  match invocation.arguments[index]? with
  | some ref => .ok ref
  | none => .error (.missingArgument index invocation.arguments.length)

def keyword? (invocation : Invocation) (name : String) : Option Ref :=
  invocation.keywords.lookup name

def textArgument (invocation : Invocation) (index : Nat) : GuestAct String := do
  let ref ← liftM (invocation.argument index)
  match ← Act.textOf ref with
  | some text => return text
  | none =>
    let kind ← Act.kindOf ref
    throw (.argumentNotString index ((kind.map (·.typeName)).getD "<released>"))

end Invocation

end ObjectBridge

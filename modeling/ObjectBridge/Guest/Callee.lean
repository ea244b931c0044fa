import ObjectBridge.Guest.Space

/-!
What there is to do when an object is called.
-/

namespace ObjectBridge.Guest

inductive Callee (β : Type) where
  | native (body : β) (bound : Option Handle)
  | method (receiver callable : Handle)
  | typeObject

inductive Construction where
  | object
  | str
  | tuple
deriving DecidableEq, Repr

namespace Space

variable {β : Type}

def callee (space : Space β) (handle : Handle) : Except Exception (Callee β) := do
  match ← space.object handle with
  | .function callable => return .native callable.body callable.bound
  | .boundMethod receiver callable => return .method receiver callable
  | .typeObject _ => return .typeObject
  | _ => throw (.notCallable (← space.typeNameOf handle))

/-- Of the builtin types only `object`, `str` and `tuple` can be called. -/
def construction (space : Space β) (type : Handle) : Except Exception Construction := do
  match ← space.object type with
  | .typeObject contents =>
    if !contents.builtin || contents.name = "object" then return .object
    else if contents.name = "str" then return .str
    else if contents.name = "tuple" then return .tuple
    else throw (.noInstances contents.name)
  | _ => throw .notType

end Space

end ObjectBridge.Guest

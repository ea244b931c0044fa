import ObjectBridge.Guest.Space
import ObjectBridge.Text.Characters

/-!
Creation of types. All checks are made before anything is allocated: the name and the names of all
members are identifiers, no member is reserved or listed twice, and each base is `object` or a type
that was itself created so.
-/

namespace ObjectBridge.Guest

def reservedNames : List String :=
  ["__class__", "__dict__", "__bases__", "__mro__", "__name__", "__new__", "__init_subclass__"]

def memberFault? (seen : List String) : List String → Option Exception
  | [] => none
  | name :: rest =>
    if !Text.isIdentifier name then some (.attributeNotIdentifier name)
    else if name ∈ reservedNames then some (.attributeReserved name)
    else if name ∈ seen then some (.attributeRepeated name)
    else memberFault? (name :: seen) rest

namespace Space

variable {β : Type}

def checkBase (space : Space β) (base : Handle) : Except Exception Unit := do
  match ← space.object base with
  | .typeObject contents =>
    if contents.builtin && contents.name ≠ "object" then throw (.unacceptableBase contents.name)
  | _ => throw .basesNotTypes

/-- A new type. Without bases it derives from `object`. -/
def newType (name : String) (bases : List Handle) (members : List (String × Handle)) :
    Op β Handle := do
  if !Text.isIdentifier name then throw (.typeNameNotIdentifier name)
  match memberFault? [] (members.map (·.1)) with
  | some fault => throw fault
  | none => pure ()
  let bases ← if bases.isEmpty then pure [(← read (·.rootsNow)).object] else pure bases
  bases.forM fun base => read (·.checkBase base)
  members.forM fun member => discard (read (·.object member.2))
  modify fun space => (space.retainAll bases).retainAll (members.map (·.2))
  let nameHandle ← allocate (.str name)
  allocate (.typeObject
    { name, bases
      members := (Bindings.ofList members).insert "__name__" nameHandle
      builtin := false })

end Space

end ObjectBridge.Guest

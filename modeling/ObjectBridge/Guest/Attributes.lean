import ObjectBridge.Guest.Linearization

/-!
Attributes. A value shows its own attributes, or the globals of a module, before those that its type
defines; a type shows what it and its bases define. A function that is found on the type of a value is
answered bound to the value.
-/

namespace ObjectBridge.Guest

inductive Attribute where
  | plain (handle : Handle)
  | method (function : Handle)
deriving DecidableEq, Repr

def insertName (name : String) : List String → List String
  | [] => [name]
  | other :: rest =>
    if name < other then name :: other :: rest
    else if name = other then other :: rest
    else other :: insertName name rest

namespace Space

variable {β : Type}

def ownAttribute (space : Space β) (handle : Handle) (name : String) :
    Except Exception (Option Handle) := do
  match ← space.object handle with
  | .object contents => return contents.attributes.get? name
  | .moduleObject contents =>
    match contents.globals.get? name with
    | some value => return some value
    | none => throw (.noGlobal contents.name name)
  | .typeObject _ => return space.lookup handle name
  | _ => return none

def findAttribute (space : Space β) (handle : Handle) (name : String) :
    Except Exception Attribute := do
  match ← space.ownAttribute handle name with
  | some value => return .plain value
  | none =>
    let type ← space.typeOf handle
    match space.lookup type name with
    | none => throw (.noAttribute (← space.typeName type) name)
    | some value =>
      match ← space.object value with
      | .function _ => return .method value
      | _ => return .plain value

def getattr (handle : Handle) (name : String) : Op β Handle := do
  match ← read (·.findAttribute handle name) with
  | .plain value => acquire value
  | .method function =>
    modify fun space => (space.retain handle).retain function
    allocate (.boundMethod handle function)

def settable : Object β → Option (Bindings Handle)
  | .object contents => some contents.attributes
  | .moduleObject contents => some contents.globals
  | .typeObject contents => if contents.builtin then none else some contents.members
  | _ => none

def withSettable (attributes : Bindings Handle) : Object β → Object β
  | .object contents => .object { contents with attributes }
  | .moduleObject contents => .moduleObject { contents with globals := attributes }
  | .typeObject contents => .typeObject { contents with members := attributes }
  | other => other

/-- Sets an attribute of an instance, a module or a type that is not builtin. The reference held on
an earlier value is given back. -/
def setattr (target : Handle) (name : String) (value : Handle) : Op β Unit := do
  let _ ← read (·.object value)
  let typeName ← read (·.typeNameOf target)
  match settable (← read (·.object target)) with
  | none => throw (.readOnly typeName name)
  | some attributes =>
    modify (·.retain value)
    modify (·.update target (withSettable (attributes.insert name value)))
    (attributes.get? name).forM fun earlier => modify (·.release earlier)

def inheritedNames (space : Space β) (type : Handle) : List String :=
  (space.linearization type).flatMap fun type => (space.members type).names

def dir (space : Space β) (handle : Handle) : Except Exception (List String) := do
  let names ← match ← space.object handle with
    | .moduleObject contents => pure contents.globals.names
    | .typeObject _ => pure (space.inheritedNames handle)
    | .object contents =>
      pure (contents.attributes.names ++ space.inheritedNames contents.type)
    | _ => pure (space.inheritedNames (← space.typeOf handle))
  return names.foldr insertName []

end Space

end ObjectBridge.Guest

import ObjectBridge.Guest.Definition
import ObjectBridge.Guest.Exception
import ObjectBridge.Guest.Heap
import ObjectBridge.Guest.Object

/-!
An object space: a heap of Guest objects with the builtin types and constants, and the modules
imported into it. A space is started with `Space.start`; once it is finalized it is empty and stays so,
and every operation on it raises `Exception.finalized`.

An operation on a space either succeeds, or raises an exception and leaves the space as it was.
-/

namespace ObjectBridge.Guest

structure Roots where
  noneValue : Handle
  trueValue : Handle
  falseValue : Handle
  object : Handle
  types : Bindings Handle

namespace Roots

def typeFor (roots : Roots) (kind : Kind) : Handle :=
  (roots.types.get? kind.typeName).getD roots.object

def handles (roots : Roots) : List Handle :=
  [roots.noneValue, roots.trueValue, roots.falseValue] ++ roots.types.values

end Roots

def derivedTypeNames : List String :=
  ["type", "NoneType", "bool", "int", "str", "tuple", "dict", "function", "method", "module"]

/-- An object space. `roots` is absent once the space is finalized; `modules` are the imported
modules, `definitions` those that can be imported into this space only. -/
structure Space (β : Type) where
  heap : Heap (Object β)
  roots : Option Roots
  modules : Bindings Handle
  definitions : Bindings (Definition β)

abbrev Op (β α : Type) := StateT (Space β) (Except Exception) α

namespace Space

variable {β : Type}

instance : Inhabited (Space β) := ⟨⟨.empty, none, .empty, .empty⟩⟩

def builtinType (heap : Heap (Object β)) (name : String) (bases : List Handle) :
    Handle × Heap (Object β) :=
  let (nameHandle, heap) := heap.allocate (.str name)
  heap.allocate (.typeObject
    { name, bases, members := .singleton "__name__" nameHandle, builtin := true })

def start : Space β :=
  let (object, heap) := builtinType .empty "object" []
  let (types, heap) := derivedTypeNames.foldl
    (fun (types, heap) name =>
      let (type, heap) := builtinType (heap.acquire object) name [object]
      (types.insert name type, heap))
    (Bindings.singleton "object" object, heap)
  let (noneValue, heap) := heap.allocate .none
  let (trueValue, heap) := heap.allocate (.bool true)
  let (falseValue, heap) := heap.allocate (.bool false)
  { heap
    roots := some { noneValue, trueValue, falseValue, object, types }
    modules := .empty
    definitions := .empty }

def isInitialized (space : Space β) : Bool :=
  space.roots.isSome

def rootsNow (space : Space β) : Except Exception Roots :=
  match space.roots with
  | some roots => .ok roots
  | none => .error .finalized

def object (space : Space β) (handle : Handle) : Except Exception (Object β) := do
  let _ ← space.rootsNow
  match space.heap.get? handle with
  | some object => .ok object
  | none => .error .released

def kind? (space : Space β) (handle : Handle) : Option Kind :=
  (space.heap.get? handle).map (·.kind)

def text? (space : Space β) (handle : Handle) : Option String :=
  match space.heap.get? handle with
  | some (.str text) => some text
  | _ => none

def int? (space : Space β) (handle : Handle) : Option Int64 :=
  match space.heap.get? handle with
  | some (.int value) => some value
  | _ => none

def bool? (space : Space β) (handle : Handle) : Option Bool :=
  match space.heap.get? handle with
  | some (.bool value) => some value
  | _ => none

def tuple? (space : Space β) (handle : Handle) : Option (List Handle) :=
  match space.heap.get? handle with
  | some (.tuple items) => some items
  | _ => none

def typeOf (space : Space β) (handle : Handle) : Except Exception Handle := do
  let roots ← space.rootsNow
  match ← space.object handle with
  | .object object => return object.type
  | other => return roots.typeFor other.kind

def typeName (space : Space β) (type : Handle) : Except Exception String := do
  match ← space.object type with
  | .typeObject type => return type.name
  | _ => return "object"

def typeNameOf (space : Space β) (handle : Handle) : Except Exception String := do
  space.typeName (← space.typeOf handle)

def retain (space : Space β) (handle : Handle) : Space β :=
  { space with heap := space.heap.acquire handle }

def retainAll (space : Space β) (handles : List Handle) : Space β :=
  handles.foldl retain space

def release (space : Space β) (handle : Handle) : Space β :=
  { space with heap := space.heap.release Object.children handle }

def releaseAll (space : Space β) (handles : List Handle) : Space β :=
  handles.foldl release space

def update (space : Space β) (handle : Handle) (change : Object β → Object β) : Space β :=
  { space with heap := space.heap.update handle change }

def read {α : Type} (reader : Space β → Except Exception α) : Op β α := do
  liftM (reader (← get))

def acquire (handle : Handle) : Op β Handle := do
  let _ ← read (·.object handle)
  modify (·.retain handle)
  return handle

/-- A new object, with one reference to it. The references it holds itself have to be counted
before. -/
def allocate (object : Object β) : Op β Handle := do
  let _ ← read (·.rootsNow)
  let space ← get
  let (handle, heap) := space.heap.allocate object
  set { space with heap }
  return handle

def noneValue : Op β Handle := do
  acquire (← read (·.rootsNow)).noneValue

def boolValue (value : Bool) : Op β Handle := do
  let roots ← read (·.rootsNow)
  acquire (if value then roots.trueValue else roots.falseValue)

def newInt (value : Int64) : Op β Handle :=
  allocate (.int value)

def newText (text : String) : Op β Handle :=
  allocate (.str text)

def newTuple (items : List Handle) : Op β Handle := do
  items.forM fun item => discard (read (·.object item))
  modify (·.retainAll items)
  allocate (.tuple items)

def newFunction (name : String) (bound : Option Handle) (body : β) : Op β Handle := do
  bound.forM fun state => discard (acquire state)
  allocate (.function { name, bound, body })

def builtin? (space : Space β) (name : String) : Option Handle :=
  space.roots.bind fun roots =>
    match name with
    | "None" => some roots.noneValue
    | "True" => some roots.trueValue
    | "False" => some roots.falseValue
    | _ => roots.types.get? name

def builtinNames : List String :=
  ["False", "None", "NoneType", "True", "bool", "dict", "function", "int", "method", "module",
    "object", "str", "tuple", "type"]

end Space

end ObjectBridge.Guest

import ObjectBridge.Bindings
import ObjectBridge.Guest.Heap

/-!
Guest objects. Objects refer to each other by handles, and each handle an object holds stands for one
reference to what it names. What native functions run is left open: `β` is the type of their bodies.
-/

namespace ObjectBridge.Guest

inductive Kind where
  | none
  | bool
  | int
  | str
  | tuple
  | dict
  | function
  | boundMethod
  | typeObject
  | object
  | moduleObject
deriving DecidableEq, Repr

namespace Kind

def typeName : Kind → String
  | .none => "NoneType"
  | .bool => "bool"
  | .int => "int"
  | .str => "str"
  | .tuple => "tuple"
  | .dict => "dict"
  | .function => "function"
  | .boundMethod => "method"
  | .typeObject => "type"
  | .object => "object"
  | .moduleObject => "module"

def isCallable : Kind → Bool
  | .function | .boundMethod | .typeObject => true
  | _ => false

end Kind

structure Function (β : Type) where
  name : String
  bound : Option Handle
  body : β

structure TypeObject where
  name : String
  bases : List Handle
  members : Bindings Handle
  builtin : Bool

structure InstanceObject where
  type : Handle
  attributes : Bindings Handle

structure ModuleObject where
  name : String
  globals : Bindings Handle

inductive Object (β : Type) where
  | none
  | bool (value : Bool)
  | int (value : Int64)
  | str (text : String)
  | tuple (items : List Handle)
  | dict (entries : Bindings Handle)
  | function (callable : Function β)
  | boundMethod (receiver callable : Handle)
  | typeObject (contents : TypeObject)
  | object (contents : InstanceObject)
  | moduleObject (contents : ModuleObject)

namespace Object

variable {β : Type}

def kind : Object β → Kind
  | .none => .none
  | .bool _ => .bool
  | .int _ => .int
  | .str _ => .str
  | .tuple _ => .tuple
  | .dict _ => .dict
  | .function _ => .function
  | .boundMethod .. => .boundMethod
  | .typeObject _ => .typeObject
  | .object _ => .object
  | .moduleObject _ => .moduleObject

/-- The references the object holds, with repetitions. -/
def children : Object β → List Handle
  | .none | .bool _ | .int _ | .str _ => []
  | .tuple items => items
  | .dict entries => entries.values
  | .function callable => callable.bound.toList
  | .boundMethod receiver callable => [receiver, callable]
  | .typeObject contents => contents.bases ++ contents.members.values
  | .object contents => contents.type :: contents.attributes.values
  | .moduleObject contents => contents.globals.values

end Object

end ObjectBridge.Guest

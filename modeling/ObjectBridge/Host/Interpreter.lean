import ObjectBridge.Host.Error
import ObjectBridge.Host.Value

/-!
The Host interpreter: a table of classes by name, and the objects made so far. A message goes to the
method that the receiver's class has for it, or else to the method `UNKNOWN` of that class, together
with the name of the message and the array of its arguments.
-/

namespace ObjectBridge.Host

def unknownMessage : String :=
  "UNKNOWN"

structure Interpreter (μ : Type) where
  id : HostId
  classes : Bindings (Class μ)
  objectClass : Class μ
  stringClass : Class μ
  arrayClass : Class μ
  nilClass : Class μ
  nextNumber : Nat

def builtinClassCount : Nat := 4

namespace Interpreter

variable {μ ν : Type}

def register (host : Interpreter μ) (family : Class μ) : Interpreter μ :=
  { host with classes := host.classes.insert (Text.asciiUppercase family.name) family }

def start (id : HostId) (first : Nat) : Interpreter μ :=
  let objectClass := Class.build first "Object" none []
  let stringClass := Class.build (first + 1) "String" (some objectClass) []
  let arrayClass := Class.build (first + 2) "Array" (some objectClass) []
  let nilClass := Class.build (first + 3) "NilObject" (some objectClass) []
  let bare : Interpreter μ :=
    { id, classes := .empty, objectClass, stringClass, arrayClass, nilClass, nextNumber := 1 }
  [objectClass, stringClass, arrayClass, nilClass].foldl register bare

def findClass (host : Interpreter μ) (name : String) : Option (Class μ) :=
  host.classes.get? (Text.asciiUppercase name)

def classCount (host : Interpreter μ) : Nat :=
  host.classes.size

/-- The class of a value. Later registrations do not change it. -/
def classOf (host : Interpreter μ) : Value μ ν → Class μ
  | .nil => host.nilClass
  | .text _ => host.stringClass
  | .array _ => host.arrayClass
  | .object content => content.family

def isInstanceOf (host : Interpreter μ) (value : Value μ ν) (family : Class μ) : Bool :=
  (host.classOf value).isSubclassOf family

def isInstanceOfNamed (host : Interpreter μ) (value : Value μ ν) (name : String) : Bool :=
  match host.findClass name with
  | some family => host.isInstanceOf value family
  | none => false

def newObject (host : Interpreter μ) (family : Class μ) (payload : Option ν) :
    Object μ ν × Interpreter μ :=
  ({ maker := host.id, number := host.nextNumber, family, payload },
    { host with nextNumber := host.nextNumber + 1 })

def answering (host : Interpreter μ) (receiver : Value μ ν) (message : String)
    (arguments : List (Value μ ν)) : Except Error (μ × List (Value μ ν)) :=
  let family := host.classOf receiver
  match family.findMethod message with
  | some body => .ok (body, arguments)
  | none =>
    match family.findMethod unknownMessage with
    | some body => .ok (body, [.text message, .array arguments])
    | none => .error (.noSuchMethod family.name message)

end Interpreter

namespace Value

variable {μ ν : Type}

def arrayLength (value : Value μ ν) : Except Error Nat :=
  match value.items? with
  | some items => .ok items.length
  | none => .error (.notAnArray value.className)

def arrayAt (value : Value μ ν) (index : Nat) : Except Error (Value μ ν) :=
  match value.items? with
  | some items =>
    match items[index]? with
    | some item => .ok item
    | none => .error (.indexOutOfBounds index items.length)
  | none => .error (.notAnArray value.className)

end Value

end ObjectBridge.Host

import ObjectBridge.Host.Class

/-!
Host values: nil, strings, arrays and objects. Strings and arrays are equal when their contents are;
objects only when they are the same object. An object may carry a payload, whose type `ν` is left open.
-/

namespace ObjectBridge.Host

structure HostId where
  index : Nat
deriving DecidableEq, Repr, Inhabited

/-- An instance of a class. The maker and the number tell it from all others. -/
structure Object (μ ν : Type) where
  maker : HostId
  number : Nat
  family : Class μ
  payload : Option ν

inductive Value (μ ν : Type) where
  | nil
  | text (content : String)
  | array (items : List (Value μ ν))
  | object (content : Object μ ν)

namespace Value

variable {μ ν : Type}

instance : Inhabited (Value μ ν) := ⟨.nil⟩

def text? : Value μ ν → Option String
  | .text content => some content
  | _ => none

def items? : Value μ ν → Option (List (Value μ ν))
  | .array items => some items
  | _ => none

def object? : Value μ ν → Option (Object μ ν)
  | .object content => some content
  | _ => none

def isNil : Value μ ν → Bool
  | .nil => true
  | _ => false

def isText : Value μ ν → Bool
  | .text _ => true
  | _ => false

def className : Value μ ν → String
  | .nil => "NilObject"
  | .text _ => "String"
  | .array _ => "Array"
  | .object content => content.family.name

mutual

def same : Value μ ν → Value μ ν → Bool
  | .nil, .nil => true
  | .text left, .text right => left == right
  | .array left, .array right => sameItems left right
  | .object left, .object right => left.maker == right.maker && left.number == right.number
  | _, _ => false

def sameItems : List (Value μ ν) → List (Value μ ν) → Bool
  | [], [] => true
  | left :: lefts, right :: rights => left.same right && sameItems lefts rights
  | _, _ => false

end

end Value

end ObjectBridge.Host

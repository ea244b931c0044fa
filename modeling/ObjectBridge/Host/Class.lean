import ObjectBridge.Bindings
import ObjectBridge.Text.Case
import ObjectBridge.Text.Characters

/-!
Host classes. A class has a name, methods, and the chain of classes it derives from, nearest first. The
letter case of ASCII letters makes no difference in the names of classes and of messages. What a method
runs is left open: `μ` is the type of method bodies.
-/

namespace ObjectBridge.Host

structure Level (μ : Type) where
  name : String
  methods : Bindings μ

/-- A class. Classes of equal names and methods are told apart by their number. -/
structure Class (μ : Type) where
  number : Nat
  own : Level μ
  ancestors : List (Level μ)

namespace Class

variable {μ : Type}

def build (number : Nat) (name : String) (superclass : Option (Class μ))
    (methods : List (String × μ)) : Class μ :=
  { number
    own :=
      { name
        methods := .ofList (methods.map fun (message, body) =>
          (Text.asciiUppercase message, body)) }
    ancestors :=
      match superclass with
      | some parent => parent.own :: parent.ancestors
      | none => [] }

def name (family : Class μ) : String :=
  family.own.name

def chain (family : Class μ) : List (Level μ) :=
  family.own :: family.ancestors

def superclassName (family : Class μ) : Option String :=
  family.ancestors.head?.map (·.name)

def findMethod (family : Class μ) (message : String) : Option μ :=
  let key := Text.asciiUppercase message
  family.chain.findSome? (·.methods.get? key)

def isSubclassOf (family other : Class μ) : Bool :=
  family.chain.any fun level => Text.equalIgnoringAsciiCase level.name other.name

def methodNames (family : Class μ) : List String :=
  family.own.methods.names

end Class

end ObjectBridge.Host

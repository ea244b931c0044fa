/-!
Definitions of native modules: the functions a module offers and what is done when it is first
imported.
-/

namespace ObjectBridge.Guest

inductive Initializer (β : Type) where
  | run (body : β)
  /-- Gives the module an empty registry of objects, with tracing off. -/
  | registry

structure Definition (β : Type) where
  name : String
  functions : List (String × β)
  initializers : List (Initializer β)

namespace Definition

variable {β : Type}

def ofName (name : String) : Definition β :=
  { name, functions := [], initializers := [] }

def addFunction (definition : Definition β) (name : String) (body : β) : Definition β :=
  { definition with
    functions := definition.functions.filter (·.1 ≠ name) ++ [(name, body)] }

def addInitializer (definition : Definition β) (initializer : Initializer β) : Definition β :=
  { definition with initializers := definition.initializers ++ [initializer] }

def functionNames (definition : Definition β) : List String :=
  definition.functions.map (·.1)

end Definition

end ObjectBridge.Guest

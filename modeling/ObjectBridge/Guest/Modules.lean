import ObjectBridge.Guest.Space

/-!
Modules of a space. A module is listed under its name from the moment it is created, so that one that
is imported again while its initializers still run is found and not created twice. What brings down a
module or the whole space empties namespaces first: a module and its functions refer to each other.
-/

namespace ObjectBridge.Guest.Space

variable {β : Type}

def addDefinition (space : Space β) (definition : Definition β) : Space β :=
  { space with definitions := space.definitions.insert definition.name definition }

def isImported (space : Space β) (name : String) : Bool :=
  space.modules.contains name

def importedModule (name : String) : Op β (Option Handle) := do
  let _ ← read (·.rootsNow)
  match (← get).modules.get? name with
  | some module => some <$> acquire module
  | none => return none

/-- Binds a global of a module and gives back the reference held on an earlier value. The reference
on the new value is the caller's, who hands it over. -/
def bindGlobal (space : Space β) (module : Handle) (name : String) (value : Handle) : Space β :=
  match space.heap.get? module with
  | some (.moduleObject contents) =>
    let bound := space.update module fun _ =>
      .moduleObject { contents with globals := contents.globals.insert name value }
    match contents.globals.get? name with
    | some earlier => bound.release earlier
    | none => bound
  | _ => space

/-- Creates the module with its functions, each bound to the module, and lists it. No initializer is
run. Answers one reference; another is held by the list. -/
def createModule (name : String) (definition : Definition β) : Op β Handle := do
  let nameHandle ← allocate (.str name)
  let module ← allocate (.moduleObject { name, globals := .singleton "__name__" nameHandle })
  definition.functions.forM fun (functionName, body) => do
    modify (·.retain module)
    let function ← allocate (.function { name := functionName, bound := some module, body })
    modify (·.bindGlobal module functionName function)
  modify fun space => { space with modules := space.modules.insert name module }
  acquire module

def clearModule (space : Space β) (module : Handle) : Space β :=
  match space.heap.get? module with
  | some (.moduleObject contents) =>
    (space.update module fun _ => .moduleObject { contents with globals := .empty }).releaseAll
      contents.globals.values
  | _ => space

def forgetModule (space : Space β) (name : String) : Space β :=
  match space.modules.get? name with
  | some module =>
    (({ space with modules := space.modules.erase name }).clearModule module).release module
  | none => space

end ObjectBridge.Guest.Space

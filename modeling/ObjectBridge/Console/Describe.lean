import ObjectBridge.Console.Command
import ObjectBridge.Text.Characters
import ObjectBridge.World.Act

/-!
Descriptions of values, classes, spaces and sessions, as they are shown to someone who looks for a
fault: the name of what it is, and its fields between braces.
-/

namespace ObjectBridge.Console

def record (name : String) (fields : List (String × String)) : String :=
  let shown := fields.map fun (field, value) => s!"{field}: {value}"
  name ++ " \x7b " ++ ", ".intercalate shown ++ " \x7d"

def quotedList (items : List String) : String :=
  Text.bracketed (items.map Text.quoted)

def quotedOption : Option String → String
  | some text => s!"Some({Text.quoted text})"
  | none => "None"

def describeSpace (space : Space) : String :=
  record "GuestRuntime"
    [("initialized", toString space.isInitialized), ("live_objects", toString space.heap.live),
      ("modules", quotedList space.modules.names)]

def describeRef (world : World) (ref : Ref) : String :=
  let kind := ((world.space ref.space).kind? ref.handle).map (·.typeName)
  let shown := kind.getD "<released>"
  s!"GuestValue({shown}#{Text.hexadecimal ref.handle.id})"

def describeDefinition (definition : Definition) : String :=
  record "ModuleDef"
    [("name", Text.quoted definition.name), ("functions", quotedList definition.functionNames),
      ("initializers", toString definition.initializers.length)]

def describeClass (family : HostClass) : String :=
  record "HostClass"
    [("name", Text.quoted family.name), ("superclass", quotedOption family.superclassName),
      ("methods", quotedList family.methodNames)]

def describeObject (object : Host.Object Method Payload) : String :=
  record "HostObject"
    [("id", toString object.number), ("class", Text.quoted object.family.name),
      ("native", toString object.payload.isSome)]

mutual

def describeValue : HostValue → String
  | .nil => "nil"
  | .text content => Text.quoted content
  | .array items => Text.bracketed (describeValues items)
  | .object content => s!"<{content.family.name}#{content.number}>"

def describeValues : List HostValue → List String
  | [] => []
  | value :: rest => describeValue value :: describeValues rest

end

def describeSession (world : World) (session : Session) : String :=
  let active := (world.session? session.id).bind (·.active)
  record "BridgeSession"
    [("module", Text.quoted session.config.moduleName),
      ("open", toString (world.sessionModule? session).isSome),
      ("active", quotedOption (active.map (·.className)))]

end ObjectBridge.Console

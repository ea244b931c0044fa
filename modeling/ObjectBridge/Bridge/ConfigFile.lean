import ObjectBridge.Bridge.Config
import ObjectBridge.Toml.Document

/-!
Configuration files: TOML documents with a table `bridge`.
-/

namespace ObjectBridge.Bridge

inductive ConfigFailure where
  | unreadable
  | malformed
  | invalid (fault : ConfigFault)
deriving DecidableEq, Repr

namespace Config

open Toml

def text? : Item → Option String
  | .value (.string text) => some text
  | _ => none

def flag? : Item → Option Bool
  | .value (.boolean value) => some value
  | _ => none

def setting {α : Type} (form : Item → Option α) (usual : α) : Option Item → Option α
  | none => some usual
  | some item => form item

/-- The configuration in the entries of a table. Entries of other names are passed over. -/
def ofTable (table : Table) : Option Config := do
  let moduleName ← text? (← table.find? "module")
  let debug ← setting flag? false (table.find? "debug")
  let proxyClass ← setting text? defaultProxyClass (table.find? "proxy-class")
  return { moduleName, debug, proxyClass }

def ofItems (items : List Item) : Option Config := do
  let moduleName ← text? (← items[0]?)
  let debug ← setting flag? false items[1]?
  let proxyClass ← setting text? defaultProxyClass items[2]?
  return { moduleName, debug, proxyClass }

def ofItem : Item → Option Config
  | .table table | .value (.inline table) => ofTable table
  | .value (.array items) => ofItems (items.map .value)
  | .tables tables => ofItems (tables.map .table)
  | .value _ => none

def checked (config : Config) : Except ConfigFailure Config :=
  match config.validate with
  | .ok () => .ok config
  | .error fault => .error (.invalid fault)

def ofText (text : String) : Except ConfigFailure Config :=
  match (Toml.parse text).bind fun document => (document.find? "bridge").bind ofItem with
  | some config => config.checked
  | none => .error .malformed

def ofFile (bytes : Option ByteArray) : Except ConfigFailure Config :=
  match bytes.bind String.fromUTF8? with
  | some text => ofText text
  | none => .error .unreadable

end Config

end ObjectBridge.Bridge

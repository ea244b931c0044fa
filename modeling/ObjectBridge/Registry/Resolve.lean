import ObjectBridge.Call
import ObjectBridge.Registry.Name

/-!
What a name stands for in a module. The longest run of leading segments that names a global of the
module is taken, or else the builtin that the first segment names; the segments after that name
attributes. Letter case is ignored at every step.
-/

namespace ObjectBridge.Registry

open Act

def followAttributes (space : SpaceId) (name : String) (current : Ref) : List String → GuestAct Ref
  | [] => return current
  | segment :: rest => do
    let next ← lending [current] do
      let names ← onView space (·.dir current.handle)
      match ← liftM (findName names segment) with
      | some found => getattr space current found
      | none => throw (.undefinedName name)
    followAttributes space name next rest

def builtinOf (space : SpaceId) (name : String) : GuestAct Ref := do
  let found ← liftM (findName Guest.Space.builtinNames name)
  match found.bind ((← get).space space).builtin? with
  | some handle => ownedBy space (Guest.Space.acquire handle)
  | none => throw (.undefinedName name)

def resolve (space : SpaceId) (module : Ref) (name : String) : GuestAct Ref := do
  if name.isEmpty then throw .emptyName
  let segments := Text.segments name
  let globals ← onView space (·.dir module.handle)
  match ← liftM (longestGlobal globals segments segments.length) with
  | some (found, count) =>
    let start ← getattr space module found
    followAttributes space name start (segments.drop count)
  | none =>
    let start ← builtinOf space ((segments.head?).getD "")
    followAttributes space name start (segments.drop 1)

end ObjectBridge.Registry

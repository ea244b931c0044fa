import ObjectBridge.Script.Evaluate

/-!
Snapshots of Guest values.
-/

namespace ObjectBridge.Console

inductive GuestSnapshot where
  | none
  | bool (value : Bool)
  | int (value : Int64)
  | text (content : String)
  | tuple (items : List GuestSnapshot)
  | dict (entries : List (String × GuestSnapshot))
  | other (kind shown : String)
  | released
  | deep

namespace GuestSnapshot

def ofHandleWithin (space : Space) : Nat → Guest.Handle → GuestSnapshot
  | 0, _ => .deep
  | levels + 1, handle =>
    match space.heap.get? handle with
    | .none => .released
    | some .none => .none
    | some (.bool value) => .bool value
    | some (.int value) => .int value
    | some (.str content) => .text (Text.maskAddresses content)
    | some (.tuple items) => .tuple (items.map (ofHandleWithin space levels))
    | some (.dict entries) =>
      .dict (entries.entries.map fun (key, value) => (key, ofHandleWithin space levels value))
    | some object =>
      .other object.kind.typeName
        (match space.repr handle with
        | .ok shown => Text.maskAddresses shown
        | .error exception => exception.message)

def ofRef (world : World) (ref : Ref) : GuestSnapshot :=
  ofHandleWithin (world.space ref.space) shownLevels ref.handle

end GuestSnapshot

end ObjectBridge.Console

import ObjectBridge.Guest.Space

/-!
Operations on dicts. An entry counts as one reference to its value.
-/

namespace ObjectBridge.Guest.Space

variable {β : Type}

def entries (space : Space β) (dict : Handle) : Except Exception (Bindings Handle) := do
  match ← space.object dict with
  | .dict entries => return entries
  | _ => throw .notDict

def dictGet (dict : Handle) (key : String) : Op β (Option Handle) := do
  match (← read (·.entries dict)).get? key with
  | some value => some <$> acquire value
  | none => return none

/-- Puts the value under the key. The reference held on an earlier one is given back. -/
def dictSet (dict : Handle) (key : String) (value : Handle) : Op β Unit := do
  let _ ← read (·.object value)
  let entries ← read (·.entries dict)
  modify (·.retain value)
  modify (·.update dict fun _ => .dict (entries.insert key value))
  (entries.get? key).forM fun earlier => modify (·.release earlier)

def dictRemove (dict : Handle) (key : String) : Op β Bool := do
  let entries ← read (·.entries dict)
  match entries.get? key with
  | some earlier =>
    modify (·.update dict fun _ => .dict (entries.erase key))
    modify (·.release earlier)
    return true
  | none => return false

def dictItems (dict : Handle) : Op β (List (String × Handle)) := do
  let entries ← read (·.entries dict)
  modify (·.retainAll entries.values)
  return entries.entries

end ObjectBridge.Guest.Space

import ObjectBridge.Guest.Exception
import ObjectBridge.Text.Case
import ObjectBridge.Text.Segments

/-!
Names that are looked for without regard to letter case. A name in the same spelling goes before all
others; otherwise there must be no more than one that differs in case only.
-/

namespace ObjectBridge.Registry

def findName (names : List String) (wanted : String) : Except Guest.Exception (Option String) :=
  if wanted ∈ names then .ok (some wanted)
  else
    let lowered := Text.lowercase wanted
    match names.filter fun name => Text.lowercase name == lowered with
    | [] => .ok none
    | [found] => .ok (some found)
    | first :: second :: _ => .error (.ambiguousName wanted first second)

/-- The longest run of leading segments that together name one of the globals, counted in segments. -/
def longestGlobal (globals segments : List String) :
    Nat → Except Guest.Exception (Option (String × Nat))
  | 0 => .ok none
  | count + 1 => do
    match ← findName globals (Text.dotted (segments.take (count + 1))) with
    | some found => return some (found, count + 1)
    | none => longestGlobal globals segments count

end ObjectBridge.Registry

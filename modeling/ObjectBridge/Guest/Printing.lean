import ObjectBridge.Guest.Space
import ObjectBridge.Text.Characters

/-!
The printed form of Guest objects, as `str` and `repr` show them. The two differ on strings alone, and
inside a container it is always the quoted form.
-/

namespace ObjectBridge.Guest

def quotedText (text : String) : String :=
  let escaped := text.toList.flatMap fun char =>
    if char = '\\' then ['\\', '\\'] else if char = '\'' then ['\\', '\''] else [char]
  s!"'{String.ofList escaped}'"

def tupleText : List String → String
  | [item] => s!"({item},)"
  | items => "(" ++ ", ".intercalate items ++ ")"

namespace Space

variable {β : Type}

def format (space : Space β) (quote : Bool) : Nat → Handle → Except Exception String
  | 0, _ => return "..."
  | levels + 1, handle => do
    match ← space.object handle with
    | .none => return "None"
    | .bool value => return if value then "True" else "False"
    | .int value => return toString value.toInt
    | .str text => return if quote then quotedText text else text
    | .tuple items => return tupleText (← items.mapM (space.format true levels))
    | .dict entries =>
      let entries ← entries.entries.mapM fun (key, value) => do
        let shown ← space.format true levels value
        return s!"'{key}': {shown}"
      return "\x7b" ++ ", ".intercalate entries ++ "\x7d"
    | .function callable => return s!"<built-in function {callable.name}>"
    | .boundMethod receiver callable =>
      let name ← match ← space.object callable with
        | .function callable => pure callable.name
        | _ => pure "?"
      let shown ← space.format true levels receiver
      return s!"<bound method {name} of {shown}>"
    | .typeObject contents => return s!"<class '{contents.name}'>"
    | .object _ =>
      let typeName ← space.typeNameOf handle
      return s!"<{typeName} object at 0x{Text.hexadecimal handle.id}>"
    | .moduleObject contents => return s!"<module '{contents.name}'>"

/-- Enough levels for any object that does not contain itself. -/
def depthBound (space : Space β) : Nat :=
  space.heap.slots.size + 1

def plainText (space : Space β) (handle : Handle) : Except Exception String :=
  space.format false space.depthBound handle

def repr (space : Space β) (handle : Handle) : Except Exception String :=
  space.format true space.depthBound handle

end Space

end ObjectBridge.Guest

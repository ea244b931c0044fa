import ObjectBridge.Toml.Moment
import ObjectBridge.Toml.Quotation
import ObjectBridge.Toml.Value

/-!
The grammar of TOML: keys, values, and the lines of a document.
-/

namespace ObjectBridge.Toml

def nestingLimit : Nat :=
  79

def keyLimit : Nat :=
  79

def isBareKeyChar (char : Char) : Bool :=
  char.isAlphanum || char = '_' || char = '-'

def endsWord (char : Char) : Bool :=
  char = ' ' || char = '\t' || char = '\n' || char = '\r' || char = ',' || char = ']' ||
    char = '\x7d' || char = '#'

def wordValue? (word : List Char) : Option Value :=
  if word = ['t', 'r', 'u', 'e'] then some (.boolean true)
  else if word = ['f', 'a', 'l', 's', 'e'] then some (.boolean false)
  else if isMoment word then some (.moment (String.ofList word))
  else if isFloat word then some (.float (String.ofList word))
  else (integer? word).map .integer

namespace Scan

def segment : Scan String :=
  quoted <|> plain <|> do
    let name ← takeWhile isBareKeyChar
    if name.isEmpty then failure
    return String.ofList name

def key : Scan (List String) := do
  let spaced : Scan String := do
    blanks
    let found ← segment
    blanks
    return found
  let path ← separated (char '.') spaced
  if keyLimit < path.length then failure
  return path

/-- A time after a date and a blank, if there is one. -/
def timeAfterDate : Scan (List Char) := do
  char ' '
  let word ← takeWhile fun char => !endsWord char
  if isTimeWithOffset word then return ' ' :: word else failure

def bareValue : Scan Value := do
  let word ← takeWhile fun char => !endsWord char
  if isDate word then
    let time ← optional timeAfterDate
    return .moment (String.ofList (word ++ time.getD []))
  match wordValue? word with
  | some value => return value
  | none => failure

def entry (value : Scan Value) : Scan (List String × Value) := do
  let path ← key
  char '='
  blanks
  return (path, ← value)

def array (value : Scan Value) : Scan Value := do
  let item : Scan Value := do
    gap
    let found ← value
    gap
    return found
  char '['
  let items ← optional (separated (char ',') item)
  if items.isSome then discard (optional (char ','))
  gap
  char ']'
  return .array (items.getD [])

def inlineTable (value : Scan Value) : Scan Value := do
  let item : Scan (List String × Value) := do
    let found ← entry value
    blanks
    return found
  char '\x7b'
  blanks
  let entries ← optional (separated (char ',') item)
  blanks
  char '\x7d'
  match (entries.getD []).foldlM (fun table (path, value) => table.assign path value) .explicit with
  | some table => return .inline table
  | none => failure

def valueWithin : Nat → Scan Value
  | 0 => .string <$> (long <|> quoted <|> plain) <|> bareValue
  | levels + 1 => do
    match ← peek with
    | some '[' => array (valueWithin levels)
    | some '\x7b' => inlineTable (valueWithin levels)
    | some '"' | some '\'' => .string <$> (long <|> quoted <|> plain)
    | _ => bareValue

def value : Scan Value :=
  valueWithin nestingLimit

end Scan

inductive Line where
  | entry (path : List String) (value : Value)
  | table (path : List String)
  | element (path : List String)

namespace Scan

def line : Scan Line := do
  let found ← (do
      word ['[', '[']
      let path ← key
      word [']', ']']
      return Line.element path) <|>
    (do
      char '['
      let path ← key
      char ']'
      return Line.table path) <|>
    (do
      let (path, value) ← entry value
      return Line.entry path value)
  endOfLine
  return found

def emptyLines : Scan Unit := do
  blanks
  discard <| many do
    (do comment; newline <|> finish) <|> newline
    blanks

def document : Scan (List Line) := do
  discard (optional (char '\ufeff'))
  emptyLines
  let lines ← many do
    let found ← line
    emptyLines
    return found
  finish
  return lines

end Scan

end ObjectBridge.Toml

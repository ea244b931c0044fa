/-!
Scanning of texts. A scan takes characters off the front of a text, or fails.
-/

namespace ObjectBridge.Toml

abbrev Scan (α : Type) := StateT (List Char) Option α

namespace Scan

variable {α : Type}

def peek : Scan (Option Char) := do
  return (← get).head?

def char (expected : Char) : Scan Unit := do
  match ← get with
  | found :: rest => if found = expected then set rest else failure
  | [] => failure

def word (expected : List Char) : Scan Unit :=
  expected.forM char

def takeWhile (test : Char → Bool) : Scan (List Char) :=
  modifyGet fun text => (text.takeWhile test, text.dropWhile test)

def optional (scan : Scan α) : Scan (Option α) := fun text =>
  match scan text with
  | some (found, rest) => some (some found, rest)
  | none => some (none, text)

/-- All that the scan takes off until it fails or takes off nothing more. -/
def manyOf (scan : Scan α) (text : List Char) : List α × List Char :=
  match scan text with
  | none => ([], text)
  | some (found, rest) =>
    if _shorter : rest.length < text.length then
      let (others, left) := manyOf scan rest
      (found :: others, left)
    else ([], text)
termination_by text.length

def many (scan : Scan α) : Scan (List α) :=
  modifyGet (manyOf scan)

def separated (separator : Scan Unit) (item : Scan α) : Scan (List α) := do
  let first ← item
  let others ← many do
    separator
    item
  return first :: others

def finish : Scan Unit := do
  match ← get with
  | [] => return
  | _ => failure

def blanks : Scan Unit :=
  discard (takeWhile fun char => char = ' ' || char = '\t')

def newline : Scan Unit :=
  char '\n' <|> word ['\r', '\n']

def isPrintable (char : Char) : Bool :=
  char = '\t' || (' ' ≤ char && char ≠ '\x7f')

def comment : Scan Unit := do
  char '#'
  discard (takeWhile isPrintable)

def endOfLine : Scan Unit := do
  blanks
  discard (optional comment)
  newline <|> finish

def gap : Scan Unit := do
  blanks
  discard <| many do
    (do comment; newline) <|> newline
    blanks

end Scan

end ObjectBridge.Toml

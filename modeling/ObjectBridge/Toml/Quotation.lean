import ObjectBridge.Toml.Scan

/-!
TOML strings: between double quotes with escapes, between single quotes without, and both over several
lines between three quotes.
-/

namespace ObjectBridge.Toml

def hexValue? (char : Char) : Option Nat :=
  if char.isDigit then some (char.toNat - '0'.toNat)
  else if 'a' ≤ char && char ≤ 'f' then some (char.toNat - 'a'.toNat + 10)
  else if 'A' ≤ char && char ≤ 'F' then some (char.toNat - 'A'.toNat + 10)
  else none

def hexNumber? (digits : List Char) : Option Nat :=
  digits.foldlM (fun number digit => (hexValue? digit).map (16 * number + ·)) 0

def charOf? (digits : List Char) : Option Char := do
  let code ← hexNumber? digits
  if valid : code.isValidChar then some (Char.ofNatAux code valid) else none

def escaped? : Char → Option Char
  | 'b' => some '\x08'
  | 't' => some '\t'
  | 'n' => some '\n'
  | 'f' => some '\x0c'
  | 'r' => some '\x0d'
  | '"' => some '"'
  | '\\' => some '\\'
  | _ => none

def quotedBody : List Char → Option (List Char × List Char)
  | [] => none
  | '"' :: rest => some ([], rest)
  | '\\' :: 'u' :: a :: b :: c :: d :: rest => do
    let char ← charOf? [a, b, c, d]
    let (body, rest) ← quotedBody rest
    some (char :: body, rest)
  | '\\' :: 'U' :: a :: b :: c :: d :: e :: f :: g :: h :: rest => do
    let char ← charOf? [a, b, c, d, e, f, g, h]
    let (body, rest) ← quotedBody rest
    some (char :: body, rest)
  | '\\' :: mark :: rest => do
    let char ← escaped? mark
    let (body, rest) ← quotedBody rest
    some (char :: body, rest)
  | char :: rest =>
    if char ≠ '\\' && Scan.isPrintable char then do
      let (body, rest) ← quotedBody rest
      some (char :: body, rest)
    else none

/-- Where a text over several lines is being read: in the text itself; after a backslash at the end of a
line, before the end; or after that end, where blanks and further ends of lines are left out. -/
inductive LineState where
  | text
  | endingLine
  | skipping
deriving DecidableEq

/-- The text up to three double quotes, and what follows them. One or two quotes before those belong to
the text. -/
def longQuotedBody (state : LineState) : List Char → Option (List Char × List Char)
  | [] => none
  | '\r' :: '\n' :: rest =>
    if state = .text then do
      let (body, rest) ← longQuotedBody .text rest
      some ('\n' :: body, rest)
    else longQuotedBody .skipping rest
  | '\n' :: rest =>
    if state = .text then do
      let (body, rest) ← longQuotedBody .text rest
      some ('\n' :: body, rest)
    else longQuotedBody .skipping rest
  | ' ' :: rest =>
    if state = .text then do
      let (body, rest) ← longQuotedBody .text rest
      some (' ' :: body, rest)
    else longQuotedBody state rest
  | '\t' :: rest =>
    if state = .text then do
      let (body, rest) ← longQuotedBody .text rest
      some ('\t' :: body, rest)
    else longQuotedBody state rest
  | '"' :: '"' :: '"' :: '"' :: '"' :: rest =>
    if state = .endingLine then none else some (['"', '"'], rest)
  | '"' :: '"' :: '"' :: '"' :: rest =>
    if state = .endingLine then none else some (['"'], rest)
  | '"' :: '"' :: '"' :: rest =>
    if state = .endingLine then none else some ([], rest)
  | '\\' :: 'u' :: a :: b :: c :: d :: rest =>
    if state = .endingLine then none else do
      let char ← charOf? [a, b, c, d]
      let (body, rest) ← longQuotedBody .text rest
      some (char :: body, rest)
  | '\\' :: 'U' :: a :: b :: c :: d :: e :: f :: g :: h :: rest =>
    if state = .endingLine then none else do
      let char ← charOf? [a, b, c, d, e, f, g, h]
      let (body, rest) ← longQuotedBody .text rest
      some (char :: body, rest)
  | '\\' :: mark :: rest =>
    if state = .endingLine then none
    else
      match escaped? mark with
      | some char => do
        let (body, rest) ← longQuotedBody .text rest
        some (char :: body, rest)
      | none => if mark = ' ' || mark = '\t' || mark = '\n' || mark = '\r'
        then longQuotedBody .endingLine (mark :: rest) else none
  | char :: rest =>
    if state ≠ .endingLine && char ≠ '\\' && Scan.isPrintable char then do
      let (body, rest) ← longQuotedBody .text rest
      some (char :: body, rest)
    else none
termination_by text => text.length

def longPlainBody : List Char → Option (List Char × List Char)
  | [] => none
  | '\r' :: '\n' :: rest => do
    let (body, rest) ← longPlainBody rest
    some ('\n' :: body, rest)
  | '\'' :: '\'' :: '\'' :: '\'' :: '\'' :: rest => some (['\'', '\''], rest)
  | '\'' :: '\'' :: '\'' :: '\'' :: rest => some (['\''], rest)
  | '\'' :: '\'' :: '\'' :: rest => some ([], rest)
  | char :: rest =>
    if char = '\n' || Scan.isPrintable char then do
      let (body, rest) ← longPlainBody rest
      some (char :: body, rest)
    else none

namespace Scan

def quoted : Scan String := do
  char '"'
  String.ofList <$> (quotedBody : Scan (List Char))

def plain : Scan String := do
  char '\''
  let body ← takeWhile fun char => char ≠ '\'' && isPrintable char
  char '\''
  return String.ofList body

def long : Scan String :=
  (do
    word ['"', '"', '"']
    discard (optional newline)
    String.ofList <$> (longQuotedBody .text : Scan (List Char))) <|>
  (do
    word ['\'', '\'', '\'']
    discard (optional newline)
    String.ofList <$> (longPlainBody : Scan (List Char)))

end Scan

end ObjectBridge.Toml

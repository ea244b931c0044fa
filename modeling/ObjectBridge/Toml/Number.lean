import ObjectBridge.Toml.Scan

/-!
The written forms of TOML numbers.
-/

namespace ObjectBridge.Toml

def digitGroups? (isDigit : Char → Bool) : List Char → Option (List Char)
  | [] => none
  | [digit] => if isDigit digit then some [digit] else none
  | digit :: '_' :: rest =>
    if isDigit digit then (digitGroups? isDigit rest).map (digit :: ·) else none
  | digit :: rest =>
    if isDigit digit then (digitGroups? isDigit rest).map (digit :: ·) else none

def digitsValue (base : Nat) (digits : List Char) : Nat :=
  digits.foldl
    (fun value digit =>
      base * value +
        (if digit.isDigit then digit.toNat - '0'.toNat else digit.toLower.toNat - 'a'.toNat + 10))
    0

def isBinaryDigit (char : Char) : Bool :=
  char = '0' || char = '1'

def isOctalDigit (char : Char) : Bool :=
  '0' ≤ char && char ≤ '7'

def isHexadecimalDigit (char : Char) : Bool :=
  char.isDigit || ('a' ≤ char && char ≤ 'f') || ('A' ≤ char && char ≤ 'F')

def splitSign : List Char → Bool × List Char
  | '+' :: rest => (false, rest)
  | '-' :: rest => (true, rest)
  | text => (false, text)

def decimalDigits? (text : List Char) : Option (List Char) := do
  let digits ← digitGroups? Char.isDigit text
  if text.head? = some '0' && text.length ≠ 1 then none else some digits

/-- The number, if it has a place among those of 64 bits with a sign. -/
def bounded? (value : Int) : Option Int :=
  if Int64.minValue.toInt ≤ value && value ≤ Int64.maxValue.toInt then some value else none

def integer? (text : List Char) : Option Int :=
  match text with
  | '0' :: 'x' :: rest => do bounded? (digitsValue 16 (← digitGroups? isHexadecimalDigit rest))
  | '0' :: 'o' :: rest => do bounded? (digitsValue 8 (← digitGroups? isOctalDigit rest))
  | '0' :: 'b' :: rest => do bounded? (digitsValue 2 (← digitGroups? isBinaryDigit rest))
  | _ => do
    let (negative, rest) := splitSign text
    let value : Int := digitsValue 10 (← decimalDigits? rest)
    bounded? (if negative then -value else value)

structure FloatDigits where
  whole : List Char
  fraction : List Char
  exponent : Int

def exponent? (text : List Char) : Option Int := do
  let (negative, rest) := splitSign text
  let value : Int := digitsValue 10 (← digitGroups? Char.isDigit rest)
  return if negative then -value else value

def isExponentMark (char : Char) : Bool :=
  char = 'e' || char = 'E'

def floatDigits? (text : List Char) : Option FloatDigits := do
  let isMark (char : Char) := char = '.' || isExponentMark char
  let whole ← decimalDigits? (text.takeWhile fun char => !isMark char)
  match text.dropWhile fun char => !isMark char with
  | [] => none
  | '.' :: rest =>
    let fraction ← digitGroups? Char.isDigit (rest.takeWhile fun char => !isExponentMark char)
    match rest.dropWhile fun char => !isExponentMark char with
    | [] => some { whole, fraction, exponent := 0 }
    | _ :: rest => return { whole, fraction, exponent := ← exponent? rest }
  | _ :: rest => return { whole, fraction := [], exponent := ← exponent? rest }

/-- The least number that is nearer to infinity than to the largest float of 64 bits. -/
def overflowBound : Nat :=
  Nat.pow 2 1024 - Nat.pow 2 970

def FloatDigits.overflows (digits : FloatDigits) : Bool :=
  let written := (digits.whole ++ digits.fraction).dropWhile (· = '0')
  let power := digits.exponent - digits.fraction.length
  if written.isEmpty then false
  else if (400 : Int) < written.length + power then true
  else if written.length + power < 300 then false
  else
    let value := digitsValue 10 written
    if 0 ≤ power then overflowBound ≤ value * Nat.pow 10 power.toNat
    else overflowBound * Nat.pow 10 (-power).toNat ≤ value

def isFloat (text : List Char) : Bool :=
  let (negative, rest) := splitSign text
  if rest = ['i', 'n', 'f'] || rest = ['n', 'a', 'n'] then true
  else
    match floatDigits? rest with
    | some digits => negative || !digits.overflows
    | none => false

end ObjectBridge.Toml

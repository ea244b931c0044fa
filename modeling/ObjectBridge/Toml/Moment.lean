import ObjectBridge.Toml.Number

/-!
The written forms of TOML dates and times.
-/

namespace ObjectBridge.Toml

def twoDigits? (low high : Nat) (tens ones : Char) : Option Nat :=
  if tens.isDigit && ones.isDigit then
    let value := digitsValue 10 [tens, ones]
    if low ≤ value && value ≤ high then some value else none
  else none

def isLeapYear (year : Nat) : Bool :=
  year % 4 = 0 && (year % 100 ≠ 0 || year % 400 = 0)

def daysIn (year month : Nat) : Nat :=
  if month = 2 then (if isLeapYear year then 29 else 28)
  else if month ∈ [4, 6, 9, 11] then 30
  else 31

def isDate : List Char → Bool
  | [a, b, c, d, '-', e, f, '-', g, h] =>
    [a, b, c, d].all Char.isDigit &&
      match twoDigits? 1 12 e f, twoDigits? 1 31 g h with
      | some month, some day => day ≤ daysIn (digitsValue 10 [a, b, c, d]) month
      | _, _ => false
  | _ => false

def isOffset : List Char → Bool
  | ['Z'] | ['z'] => true
  | [sign, a, b, ':', c, d] =>
    (sign = '+' || sign = '-') && (twoDigits? 0 23 a b).isSome && (twoDigits? 0 59 c d).isSome
  | _ => false

def afterTime? : List Char → Option (List Char)
  | a :: b :: ':' :: c :: d :: ':' :: e :: f :: rest => do
    let _ ← twoDigits? 0 23 a b
    let _ ← twoDigits? 0 59 c d
    let _ ← twoDigits? 0 60 e f
    match rest with
    | '.' :: digit :: rest =>
      if digit.isDigit then some (rest.dropWhile Char.isDigit) else none
    | ['.'] => none
    | rest => some rest
  | _ => none

def isTime (text : List Char) : Bool :=
  afterTime? text = some []

def isTimeWithOffset (text : List Char) : Bool :=
  match afterTime? text with
  | some [] => true
  | some rest => isOffset rest
  | none => false

def isMoment (text : List Char) : Bool :=
  isTime text || isDate text ||
    (isDate (text.take 10) &&
      match text.drop 10 with
      | mark :: rest => (mark = 'T' || mark = 't') && isTimeWithOffset rest
      | [] => false)

end ObjectBridge.Toml

/-!
Masks: numbers that depend on the history of a heap are not shown. The digits after certain markers are
replaced by `#`.
-/

namespace ObjectBridge.Text

def isHexDigit (char : Char) : Bool :=
  char.isDigit || ('a' ≤ char && char ≤ 'f') || ('A' ≤ char && char ≤ 'F')

def maskAfter (marker : List Char) (isDigit : Char → Bool) (text : List Char) : List Char :=
  match text with
  | [] => []
  | char :: rest =>
    if !marker.isEmpty && marker.isPrefixOf (char :: rest) then
      let after := rest.drop (marker.length - 1)
      let run := after.takeWhile isDigit
      marker ++ (if run.isEmpty then [] else ['#']) ++
        maskAfter marker isDigit (after.drop run.length)
    else char :: maskAfter marker isDigit rest
termination_by text.length
decreasing_by
  · simp only [List.length_drop, List.length_cons]
    omega
  · simp

def maskAddresses (text : String) : String :=
  String.ofList (maskAfter "object at 0x".toList isHexDigit text.toList)

def numberMarkers : List String :=
  ["proxy ", "store_object -> ", "lookup_object(", "release_object(", "invoke_str(", "KeyError: '"]

def isQuotedNumber (text : List Char) : Bool :=
  match text with
  | '\'' :: rest =>
    match rest.reverse with
    | '\'' :: digits => !digits.isEmpty && digits.all Char.isDigit
    | _ => false
  | _ => false

def maskNumbers (text : String) : String :=
  let masked := numberMarkers.foldl
    (fun text marker => maskAfter marker.toList Char.isDigit text)
    (maskAddresses text).toList
  if isQuotedNumber masked then "'#'" else String.ofList masked

end ObjectBridge.Text

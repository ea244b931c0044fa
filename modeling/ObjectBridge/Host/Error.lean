/-!
Errors of the Host object protocol.
-/

namespace ObjectBridge.Host

inductive Error where
  | noSuchClass (name : String)
  | noSuchMethod (className message : String)
  | notAnArray (className : String)
  | indexOutOfBounds (index length : Nat)
  | condition (text : String)
deriving DecidableEq, Repr

def Error.message : Error → String
  | .noSuchClass name => s!"Class not found: {name}"
  | .noSuchMethod className message =>
    s!"Object of class {className} does not understand message {message}"
  | .notAnArray className => s!"Not an array: {className}"
  | .indexOutOfBounds index length =>
    s!"Index {index} out of bounds for array of {length} items"
  | .condition text => text

def Error.variant : Error → String
  | .noSuchClass _ => "NoSuchClass"
  | .noSuchMethod .. => "NoSuchMethod"
  | .notAnArray _ => "NotAnArray"
  | .indexOutOfBounds .. => "IndexOutOfBounds"
  | .condition _ => "Condition"

end ObjectBridge.Host

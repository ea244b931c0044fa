import ObjectBridge.Console.GuestSnapshot

/-!
Answers of the console.
-/

namespace ObjectBridge.Console

inductive Failure where
  | guest (exception : Guest.Exception)
  | host (error : Host.Error)
  | bridge (error : Bridge.Error)
  | teardown (error : Guest.TeardownError)
  | register (name : String)
deriving DecidableEq, Repr

namespace Failure

def kind : Failure → String
  | .guest exception => exception.kind
  | .host error => error.variant
  | .bridge error => error.variant
  | .teardown error => error.variant
  | .register _ => "Register"

/-- What the failure says, without the numbers of objects. -/
def message : Failure → String
  | .guest exception => Text.maskNumbers exception.message
  | .host error => Text.maskNumbers error.message
  | .bridge error => Text.maskNumbers error.message
  | .teardown error => Text.maskNumbers error.message
  | .register name => s!"register '{name}' does not hold what is needed"

end Failure

structure Shape where
  isNil : Bool
  isText : Bool
  length : Option Nat
  isObject : Bool
  className : String
  classOf : String

inductive Answer where
  | done
  | absent
  | flag (value : Bool)
  | number (value : Nat)
  | text (content : String)
  | optionalText (content : Option String)
  | texts (items : List String)
  | optionalTexts (items : Option (List String))
  | guest (value : GuestSnapshot)
  | host (value : HostSnapshot)
  | key
  | guestItems (items : List GuestSnapshot)
  | guestEntries (entries : List (String × GuestSnapshot))
  | module (name : String) (functions : List String)
  /-- A value, and whether it is a string, a number, a truth value and a tuple. -/
  | shown (value : GuestSnapshot) (forms : List Bool)
  /-- The name of a kind, whether its values can be called, and whether it is that of `None`. -/
  | kind (found : Option (String × Bool × Bool))
  | family (name : String) (superclass : Option String)
  /-- Whether an object has a payload, and the payload if it is a text. -/
  | payload (found : Option (Bool × Option String))
  | shape (shape : Shape)
  /-- Whether a proxy's key is the one asked about, and whether its session is there. -/
  | proxyKey (found : Option (Option Bool × Bool))
  | config (config : Bridge.Config)
  | binding (found : Option (String × HostSnapshot))
  | roundTrip (equal : Bool) (value : HostSnapshot)

end ObjectBridge.Console

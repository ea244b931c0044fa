/-!
Scripts: bodies of Guest functions and Host methods, written as expressions. Subexpressions are
evaluated from left to right, and the first error ends the evaluation.

Literals describe values to be made. A register in one stands for the value that it holds when the literal is
evaluated.
-/

namespace ObjectBridge.Script

inductive GuestLiteral where
  | none
  | bool (value : Bool)
  | int (value : Int64)
  | text (content : String)
  | tuple (items : List GuestLiteral)
  | register (name : String)
  | dict (entries : List (String × GuestLiteral))
  /-- The inner value in so many tuples of one item. -/
  | nest (levels : Nat) (inner : GuestLiteral)
  | builtin (name : String)

inductive HostLiteral where
  | nil
  | text (content : String)
  | array (items : List HostLiteral)
  | register (name : String)
  | nest (levels : Nat) (inner : HostLiteral)

inductive GuestBody where
  | literal (literal : GuestLiteral)
  | argument (index : Nat)
  | textArgument (index : Nat)
  | arguments
  | argumentCount
  | noArguments
  | boundState
  | keyword (name : String)
  | keywords
  | tuple (items : List GuestBody)
  | concat (parts : List GuestBody)
  | uppercase (inner : GuestBody)
  | typeName (inner : GuestBody)
  | call (callable : GuestBody) (arguments : List GuestBody)
  | callMethod (target : GuestBody) (name : String) (arguments : List GuestBody)
  | getattr (target : GuestBody) (name : String)
  | setattr (target : GuestBody) (name : String) (value : GuestBody)
  | dictGet (dict : GuestBody) (key : String)
  | dictSet (dict : GuestBody) (key : String) (value : GuestBody)
  | dictRemove (dict : GuestBody) (key : String)
  | dictItems (dict : GuestBody)
  | newType (name : String) (bases : List GuestBody) (members : List String) (values : List GuestBody)
  | function (name : String) (body : GuestBody)
  | boundFunction (name : String) (bound body : GuestBody)
  | acquire (register : String)
  | keep (register : String) (inner : GuestBody)
  | branch (condition yes no : GuestBody)
  | raise (kind message : String)
  /-- The value, or a string that tells of the exception. -/
  | attempt (inner : GuestBody)
  | sequence (steps : List GuestBody)
  | importModule (name : String)
  /-- Finalizes the space, whatever comes of it, and goes on. -/
  | finalize (inner : GuestBody)

inductive HostBody where
  | literal (literal : HostLiteral)
  | receiver
  | argument (index : Nat)
  | arguments
  | array (items : List HostBody)
  | itemAt (inner : HostBody) (index : Nat)
  | length (inner : HostBody)
  | concat (parts : List HostBody)
  | send (receiver : HostBody) (message : String) (arguments : List HostBody)
  | newObject (className : String)
  | fail (text : String)
  | record (tag : String)
  | note (inner : HostBody)
  | attempt (inner : HostBody)
  | sequence (steps : List HostBody)
  | store (register : String) (inner : HostBody)
  | processCall (name : String) (argument : HostBody)
  | processText (inner : HostBody)
  | processMethod (proxy : HostBody) (name : String) (arguments : List HostBody)
  | processDefine (className base : String) (methods : HostBody)
  | processFinalize
  | sessionCall (session name : String) (argument : HostBody)
  | sessionDefine (session className base : String) (methods : List String)
  | sessionClose (session : String)

end ObjectBridge.Script

import ObjectBridge.World.Basic

/-!
Commands of the console. A command works on registers; Guest and Host values in it are given as literals.
-/

namespace ObjectBridge

namespace Script

structure ModuleScript where
  name : String
  functions : List (String × GuestBody)
  initializers : List GuestBody
  services : Bool

def ModuleScript.definition (script : ModuleScript) : Definition :=
  let bare : Definition := Guest.Definition.ofName script.name
  let filled := script.functions.foldl
    (fun definition (name, body) => definition.addFunction name (.script body)) bare
  let initialized := script.initializers.foldl
    (fun definition body => definition.addInitializer (.run (.script body))) filled
  if script.services then Registry.install .service initialized else initialized

end Script

namespace Console

open Script

inductive ValueAction where
  | look
  | kind
  | references
  | identity
  | describe
  | handle

inductive GuestAction where
  | start
  | finalize
  | liveObjects
  | isInitialized
  | describeSpace
  | define (definition : ModuleScript)
  | importModule (name : String)
  | isImported (name : String)
  | value (literal : GuestLiteral)
  | acquire (register : String)
  | builtin (name : String)
  | builtinNames
  | function (name : String) (body : GuestBody) (bound : Option GuestLiteral)
  | newType (name : String) (bases : List GuestLiteral) (members : List (String × GuestLiteral))
  | call (callable : GuestLiteral) (arguments : List GuestLiteral)
      (keywords : List (String × GuestLiteral))
  /-- A call in which a marked last argument stands for keyword arguments. -/
  | callWithArguments (callable : GuestLiteral) (arguments : List GuestLiteral)
  | callMethod (target : GuestLiteral) (name : String) (arguments : List GuestLiteral)
  | getattr (target : GuestLiteral) (name : String) (quiet : Bool)
  | hasattr (target : GuestLiteral) (name : String)
  | setattr (target : GuestLiteral) (name : String) (value : GuestLiteral)
  | dir (target : GuestLiteral)
  | str (target : GuestLiteral)
  | repr (target : GuestLiteral)
  | typeOf (target : GuestLiteral)
  | typeName (target : GuestLiteral)
  | isInstance (target type : GuestLiteral)
  | isSame (left right : GuestLiteral)
  /-- The string on the left is the number of the object on the right. -/
  | isKey (left right : GuestLiteral)
  | tupleItems (target : GuestLiteral) (registers : List String)
  | dictGet (dict : GuestLiteral) (key : String)
  | dictSet (dict : GuestLiteral) (key : String) (value : GuestLiteral)
  | dictRemove (dict : GuestLiteral) (key : String)
  | dictLength (dict : GuestLiteral)
  | dictItems (dict : GuestLiteral)

inductive HostAction where
  | defineClass (name : String) (superclass : Option String) (methods : List (String × HostBody))
      (register : Bool)
  | findClass (name : String)
  | objectClass
  | classCount
  | sameClass (left right : String)
  | isSubclass (left right : String)
  | methodNames (family : String)
  | understands (family message : String)
  | describeClass (family : String)
  | newObject (family : String) (payload : Option String)
  | payload (value : HostLiteral)
  | value (literal : HostLiteral)
  | shape (value : HostLiteral)
  | send (receiver : HostLiteral) (message : String) (arguments : List HostLiteral)
  | length (value : HostLiteral)
  | itemAt (value : HostLiteral) (index : Nat)
  | isInstance (value : HostLiteral) (family : String)
  | isInstanceOfNamed (value : HostLiteral) (name : String)
  | same (left right : HostLiteral)
  | describeValue (value : HostLiteral)
  | describeObject (value : HostLiteral)
  /-- Whether a proxy's key is the number of the value in a register, and its session still there. -/
  | proxyKey (value : HostLiteral) (register : Option String)
  | sameKey (left right : HostLiteral)

inductive SessionAction where
  | close
  | isOpen
  | sameAs (register : String)
  | space
  | config
  | describe
  | isTracing
  | proxyClass
  | module
  | binding
  | registryCall (name : String) (arguments : List GuestLiteral)
  | toGuest (value : HostLiteral)
  | toHost (value : GuestLiteral)
  | toHostOrProxy (value : GuestLiteral)
  | makeProxy (value : GuestLiteral)
  | roundTrip (value : HostLiteral)
  | call (name : String) (argument : Option HostLiteral)
  | callMethod (proxy : HostLiteral) (name : String) (arguments : List HostLiteral)
  | text (proxy : HostLiteral)
  | defineClass (origin : HostLiteral) (className base : String) (methods : List String)

inductive ProcessAction where
  | start (config : Bridge.Config)
  | finalize
  | current
  | call (name : String) (argument : Option HostLiteral)
  | callMethod (proxy : HostLiteral) (name : String) (arguments : List HostLiteral)
  | text (proxy : HostLiteral)
  | defineClass (origin : HostLiteral) (className base : String) (methods : HostLiteral)

inductive Action where
  | value (action : ValueAction) (register : String)
  | guest (action : GuestAction)
  | host (action : HostAction)
  | openSession (config : Bridge.Config)
  | session (action : SessionAction)
  | process (action : ProcessAction)
  | appendModule (definition : ModuleScript)
  | lookupModule (name : String)
  | removeModule (name : String)
  | describeModule (definition : ModuleScript)
  | drop (register : String)
  | forget (register : String)
  | copy (register : String)

/-- A command: what to do, in which place, with which interpreter, where to put the result, and whether
a result that is a key is to be shown as such. -/
structure Command where
  action : Action
  place : Option String
  host : String
  result : Option String
  keyed : Bool

end Console

end ObjectBridge

import ObjectBridge.Bridge.Error
import ObjectBridge.World.Basic

/-!
Acts: what changes the world and may fail. A failure leaves in place what was changed before it. So
whoever has taken a reference gives it back on both ways out, which `Act.lending` and its neighbours
take care of.
-/

namespace ObjectBridge

abbrev Act (ε α : Type) := ExceptT ε (StateM World) α

abbrev GuestAct (α : Type) := Act Guest.Exception α

abbrev HostAct (α : Type) := Act Host.Error α

abbrev BridgeAct (α : Type) := Act Bridge.Error α

namespace Act

variable {ε ε' α : Type}

def change (update : World → World) : Act ε Unit :=
  modify update

def view (reader : World → α) : Act ε α := do
  return reader (← get)

def step (update : World → α × World) : Act ε α :=
  modifyGet update

/-- The act with its outcome as an answer, so that what follows can see a failure. -/
def outcome (act : Act ε α) : Act ε' (Except ε α) :=
  ExceptT.mk do return .ok (← act.run)

def adapt (restate : ε → ε') (act : Act ε α) : Act ε' α :=
  ExceptT.adapt restate act

def afterwards (act : Act ε α) (update : World → World) : Act ε α :=
  ExceptT.mk do
    let result ← act.run
    modify update
    return result

def onFailure (act : Act ε α) (update : World → World) : Act ε α :=
  ExceptT.mk do
    let result ← act.run
    match result with
    | .ok _ => pure ()
    | .error _ => modify update
    return result

/-- The act, after which the references are given back in the order listed. -/
def lending (refs : List Ref) (act : Act ε α) : Act ε α :=
  act.afterwards (·.releaseAll refs)

def holding (session : Session) (act : Act ε α) : Act ε α := do
  change (·.holdSession session)
  act.afterwards (·.dropSession session)

def onSpace (id : SpaceId) (operation : Guest.Op Code α) : GuestAct α := do
  match operation.run ((← get).space id) with
  | .ok (answer, space) =>
    modify (·.setSpace id space)
    return answer
  | .error exception => throw exception

def onView (id : SpaceId) (reader : Space → Except Guest.Exception α) : GuestAct α := do
  liftM (reader ((← get).space id))

def ownedBy (id : SpaceId) (operation : Guest.Op Code Guest.Handle) : GuestAct Ref := do
  return { space := id, handle := ← onSpace id operation }

/-- The references that the act answers for each item, first to last. If it fails for one, those
answered before are given back. -/
def collect (act : α → Act ε Ref) (done : Array Ref) : List α → Act ε (List Ref)
  | [] => return done.toList
  | item :: rest => do
    let ref ← (act item).onFailure (·.releaseAll done.toList)
    collect act (done.push ref) rest

def kindOf (ref : Ref) : Act ε (Option Guest.Kind) :=
  view fun world => (world.space ref.space).kind? ref.handle

def textOf (ref : Ref) : Act ε (Option String) :=
  view fun world => (world.space ref.space).text? ref.handle

def itemsOf (ref : Ref) : Act ε (Option (List Ref)) := do
  match (← get).space ref.space |>.tuple? ref.handle with
  | some items =>
    let refs := items.map fun handle => { space := ref.space, handle : Ref }
    change (·.retainAll refs)
    return some refs
  | none => return none

def asBridge (act : GuestAct α) : BridgeAct α :=
  act.adapt .guest

end Act

end ObjectBridge

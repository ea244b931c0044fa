import ObjectBridge.Proofs.World.Commands
import ObjectBridge.Proofs.World.Respects
import ObjectBridge.Proofs.World.Results

/-!
The operations that a session offers to the Host. Whichever of them is carried out, and however it ends,
the references held outside are those held before, and one to the object that is returned if a Guest value
is; what code that it calls or sends to does with references of its own comes on top of that.
-/

namespace ObjectBridge

open Guest (Extent Handle)

def Act.Within {ε α : Type} (relation : Multiset Ref → Multiset Ref → Prop) (act : Act ε α) : Prop :=
  ∀ world, relation world.outside (act.run world).2.outside

structure Engine.Within (relation : Multiset Ref → Multiset Ref → Prop) (engine : Engine) : Prop where
  call : ∀ space callable arguments keywords, Act.Within relation (engine.call space callable arguments keywords)
  send : ∀ host receiver name arguments, Act.Within relation (engine.send host receiver name arguments)

namespace Bridge

open Act

inductive Operation where
  | toGuest (value : HostValue)
  | toHost (value : Ref)
  | toHostOrProxy (value : Ref)
  | makeProxy (value : Ref)
  | callFunction (name : String) (argument : Option HostValue)
  | callMethod (proxy : HostValue) (name : String) (arguments : List HostValue)
  | stringValue (proxy : HostValue)
  | defineClass (origin : HostValue) (className base : String) (methods : List String)

namespace Operation

def given : Operation → List Ref
  | .toHost value | .toHostOrProxy value | .makeProxy value => [value]
  | _ => []

def carryOut (engine : Engine) (session : Session) : Operation → BridgeAct (Option Ref)
  | .toGuest value => do return some (← Bridge.toGuest session value)
  | .toHost value => do
    let _ ← Bridge.toHost session value
    return none
  | .toHostOrProxy value => do
    let _ ← engine.toHostOrProxy session value
    return none
  | .makeProxy value => do
    let _ ← engine.makeProxy session value
    return none
  | .callFunction name argument => do
    let _ ← engine.callFunction session name argument
    return none
  | .callMethod proxy name arguments => do
    let _ ← engine.callProxy session proxy name arguments
    return none
  | .stringValue proxy => do
    let _ ← engine.proxyText session proxy
    return none
  | .defineClass origin className base methods => do
    engine.defineClass session origin className base methods
    return none

def returned : Except Error (Option Ref) → Multiset Ref :=
  left fun answer => (answer.toList : Multiset Ref)

/-- The operation comes to nothing that lasts: a conversion that fails or goes to the Host, or the call of a
function that changes no object that is there. -/
def Passing (engine : Engine) (session : Session) (world : World) (outcome : Except Error (Option Ref)) :
    Operation → Prop
  | .toGuest _ => ∃ error, outcome = .error error
  | .toHost _ => True
  | .callFunction name _ =>
    ∀ callable, world.Binds session name callable → engine.CallsWithin .temporary session.space callable
  | _ => False

section Balance

variable {engine : Engine} {borrowed : List Ref} {session : Session}

theorem balanced_carryOut [World.Passing] (balanced : engine.Balanced) (session : Session) (operation : Operation)
    (lent : ∀ ref ∈ operation.given, ref ∈ borrowed) :
    Balanced .lasting borrowed 0 (operation.carryOut engine session) fun answer => answer.toList := by
  cases operation with
  | toGuest value => exact (balanced_toGuestAt session 0 value borrowed).bind fun _ => .pure rfl
  | toHost value => exact (balanced_toHost session value).bind fun _ => .pure rfl
  | toHostOrProxy value =>
    exact (Engine.balanced_toHostOrProxy balanced session (lent value (by simp [given]))).bind fun _ => .pure rfl
  | makeProxy value =>
    exact (Engine.balanced_makeProxy balanced session (lent value (by simp [given]))).bind fun _ => .pure rfl
  | callFunction name argument =>
    exact (Engine.balanced_callFunction balanced session name argument).bind fun _ => .pure rfl
  | callMethod proxy name arguments =>
    exact (Engine.balanced_callProxy balanced session proxy name arguments).bind fun _ => .pure rfl
  | stringValue proxy => exact (Engine.balanced_proxyText balanced session proxy).bind fun _ => .pure rfl
  | defineClass origin className base methods =>
    exact (Engine.balanced_defineClass balanced session origin className base methods).bind fun _ => .pure rfl

theorem respects_carryOut {relation : World → World → Prop} [World.Indifferent relation]
    (respects : engine.Respects relation) (session : Session) (operation : Operation) :
    Respects relation (operation.carryOut engine session) := by
  cases operation with
  | toGuest value => exact (respects_toGuestAt session 0 value).bind fun _ => .pure _
  | toHost value => exact (respects_toHost session value).bind fun _ => .pure _
  | toHostOrProxy value => exact (Engine.respects_toHostOrProxy respects session value).bind fun _ => .pure _
  | makeProxy value => exact (Engine.respects_makeProxy respects session value).bind fun _ => .pure _
  | callFunction name argument =>
    exact (Engine.respects_callFunction respects session name argument).bind fun _ => .pure _
  | callMethod proxy name arguments =>
    exact (Engine.respects_callProxy respects session proxy name arguments).bind fun _ => .pure _
  | stringValue proxy => exact (Engine.respects_proxyText respects session proxy).bind fun _ => .pure _
  | defineClass origin className base methods =>
    exact (Engine.respects_defineClass respects session origin className base methods).bind fun _ => .pure _

theorem within_carryOut {relation : Multiset Ref → Multiset Ref → Prop} [IsPreorder (Multiset Ref) relation]
    (within : engine.Within relation) (operation : Operation) :
    Within relation (operation.carryOut engine session) := by
  have unmoved := World.indifferent_outside relation
  have respects : engine.Respects fun before after => relation before.outside after.outside :=
    ⟨within.call, within.send⟩
  exact respects_carryOut respects session operation

theorem leads_of_passing {world : World} {frame : Multiset Ref} (exact : world.Exact (0 + frame))
    {operation : Operation} (passing : operation.Passing engine session world
      ((operation.carryOut engine session).run world).1) :
    World.Leads .temporary (world, 0) (((operation.carryOut engine session).run world).2, 0) := by
  cases operation with
  | toGuest value =>
    obtain ⟨error, failed⟩ := passing
    have balanced : Balanced .temporary [] 0 ((Operation.toGuest value).carryOut engine session)
        fun answer => answer.toList := (balanced_toGuestAt session 0 value []).bind fun _ => .pure rfl
    exact balanced.leads_error exact (Prod.ext failed rfl)
  | toHost value =>
    have balanced : Balanced .temporary [] 0 ((Operation.toHost value).carryOut engine session) fun _ => 0 :=
      (balanced_toHost session value).bind fun _ => .pure rfl
    simpa only [left_zero] using (balanced.settles exact).leads
  | callFunction name argument =>
    have called := Engine.settles_callFunction exact session name argument passing
    have settles : Settles .temporary world 0 ((Operation.callFunction name argument).carryOut engine session)
        fun _ => 0 := called.bind fun _ _ => .pure rfl
    simpa only [left_zero] using settles.leads
  | _ => exact passing.elim

end Balance

/-- Whatever an operation is given, and however it ends, it leaves outside the references that were there,
and one to the object that it returns if it returns a Guest value. Beyond that, what is held outside is what
the code leaves there that is called and sent to. An operation that comes to nothing that lasts leaves all
objects as they are. -/
theorem carryOut_accounted {engine : Engine} {relation : Multiset Ref → Multiset Ref → Prop}
    [IsPreorder (Multiset Ref) relation] (balanced : engine.Balanced) (within : engine.Within relation)
    (session : Session) (operation : Operation) {world : World} {frame : Multiset Ref} (exact : world.Exact frame)
    (lent : ∀ ref ∈ operation.given, ref ∈ frame) :
    let ran := (operation.carryOut engine session).run world
    ran.2.Exact (returned ran.1 + frame) ∧ relation world.outside ran.2.outside ∧
      (operation.Passing engine session world ran.1 → world.SameObjects ran.2) := by
  have framed : world.Exact (0 + frame) := by rwa [zero_add]
  have settles := balanced_carryOut balanced session operation (fun _ => id) world frame framed lent
  refine ⟨settles.exact framed, within_carryOut within operation world, fun passing => ?_⟩
  exact (leads_of_passing framed passing).restored exact

def obliging : Engine :=
  { call := fun space _ _ _ => ownedBy space Guest.Space.noneValue
    send := fun _ _ _ _ => pure .nil }

theorem callsWithin_obliging (extent : Extent) (space : SpaceId) (callable : Ref) :
    obliging.CallsWithin extent space callable :=
  fun _ _ _ => .ownedBy (Guest.Space.balanced_noneValue extent)

/-- A function of a session that was just opened is called with a string, and answers `None`. -/
theorem carryOut_accounted_constant :
    let world := Console.opened
    let session := Console.openedState.session
    let ran := ((callFunction "get_builtin_constant" (some (.text "None"))).carryOut obliging session).run world
    (ran.2.Exact (returned ran.1 + 0) ∧ ran.2.outside = world.outside) ∧ world.SameObjects ran.2 := by
  intro world session ran
  have exact : world.Exact 0 := Console.exact_after 1 _
  clear_value session world
  have balanced : obliging.Balanced :=
    ⟨fun space callable arguments _ lent _ => callsWithin_obliging .lasting space callable _ arguments lent,
      fun _ _ _ _ => .pure rfl⟩
  have unmoved : World.Indifferent fun before after => after.outside = before.outside :=
    World.indifferent_outside fun before after => after = before
  have respects : obliging.Respects fun before after => after.outside = before.outside :=
    ⟨fun _ _ _ _ => .ownedBy _ _, fun _ _ _ _ => .pure _⟩
  have within : obliging.Within fun before after => after = before := ⟨respects.call, respects.send⟩
  obtain ⟨counted, same, passing⟩ := carryOut_accounted balanced within session
    (callFunction "get_builtin_constant" (some (.text "None"))) exact (by simp [given])
  exact ⟨⟨counted, same⟩, passing fun callable _ => callsWithin_obliging .temporary _ callable⟩

end Operation

end Bridge

end ObjectBridge

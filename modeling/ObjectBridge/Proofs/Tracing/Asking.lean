import ObjectBridge.Machine
import ObjectBridge.Proofs.Tracing.Calls
import ObjectBridge.Proofs.World.Meanings

/-!
Code that asks for the globals that tracing has to do with: it reads or binds an attribute under one of their
names, itself or by a service. An engine can be watched, so that what is sent is written down as it is sent, and
so that code fails where it asks.
-/

namespace ObjectBridge

open Guest (Handle)

namespace Registry

def tracingGlobals : List String :=
  [debugGlobal, Service.debugOn.name, Service.debugOff.name]

def spellsTracing (name : String) : Bool :=
  tracingGlobals.any fun global => Text.lowercase global == Text.lowercase name

def leadsToTracing (name : String) : Bool :=
  (Text.segments name).any spellsTracing

def Service.asks (world : World) (invocation : Invocation) (service : Service) : Bool :=
  let text? (ref : Ref) : Option String := (world.space ref.space).text? ref.handle
  let texts (ref : Ref) : List String :=
    (((world.space ref.space).tuple? ref.handle).getD []).filterMap (world.space ref.space).text?
  let first := (invocation.arguments[0]?.bind text?).toList
  match service with
  | .resolveFunction | .invokeFunction | .getCorrespondingMethodnames => first.any leadsToTracing
  | .setGlobals | .invokeImport => first.any (· ∈ tracingGlobals)
  | .invokeFromImport => ((invocation.arguments[1]?.map texts).getD []).any (· ∈ tracingGlobals)
  | .debugOn | .debugOff => true
  | _ => false

end Registry

namespace Bridge

def asksMessage (message : String) : Bool :=
  let name := (assignedName? message).getD message
  Registry.tracingGlobals.any fun global => Text.equalIgnoringAsciiCase global name

end Bridge

namespace Script

mutual

/-- Somewhere in the body one of the globals of tracing is read or bound. The body of a function that is made only
counts when that function runs. -/
def GuestBody.asks : GuestBody → Bool
  | .tuple parts | .concat parts | .sequence parts => anyGuestAsks parts
  | .uppercase inner | .typeName inner | .attempt inner | .finalize inner | .dictGet inner _ | .dictRemove inner _
  | .dictItems inner | .boundFunction _ inner _ | .keep _ inner => inner.asks
  | .dictSet dict _ value => dict.asks || value.asks
  | .newType _ bases _ values => anyGuestAsks bases || anyGuestAsks values
  | .branch condition yes no => condition.asks || yes.asks || no.asks
  | .call callable arguments => callable.asks || anyGuestAsks arguments
  | .callMethod target name arguments => name ∈ Registry.tracingGlobals || target.asks || anyGuestAsks arguments
  | .getattr target name => name ∈ Registry.tracingGlobals || target.asks
  | .setattr target name value => name ∈ Registry.tracingGlobals || target.asks || value.asks
  | _ => false

def anyGuestAsks : List GuestBody → Bool
  | [] => false
  | body :: rest => body.asks || anyGuestAsks rest

end

mutual

def HostBody.asks : HostBody → Bool
  | .array parts | .concat parts | .sequence parts => anyHostAsks parts
  | .itemAt inner _ | .length inner | .note inner | .attempt inner | .store _ inner | .processText inner => inner.asks
  | .send addressee _ arguments => addressee.asks || anyHostAsks arguments
  | .processCall name argument => name ∈ Registry.tracingGlobals || argument.asks
  | .processMethod proxy name arguments => Bridge.asksMessage name || proxy.asks || anyHostAsks arguments
  | .processDefine _ _ methods => methods.asks
  | .sessionCall _ name argument => name ∈ Registry.tracingGlobals || argument.asks
  | _ => false

def anyHostAsks : List HostBody → Bool
  | [] => false
  | body :: rest => body.asks || anyHostAsks rest

end

mutual

def GuestBody.trapped : GuestBody → GuestBody
  | .tuple parts => .tuple (trappedGuests parts)
  | .concat parts => .concat (trappedGuests parts)
  | .sequence parts => .sequence (trappedGuests parts)
  | .uppercase inner => .uppercase inner.trapped
  | .typeName inner => .typeName inner.trapped
  | .attempt inner => .attempt inner.trapped
  | .finalize inner => .finalize inner.trapped
  | .dictGet dict key => .dictGet dict.trapped key
  | .dictSet dict key value => .dictSet dict.trapped key value.trapped
  | .dictRemove dict key => .dictRemove dict.trapped key
  | .dictItems dict => .dictItems dict.trapped
  | .newType name bases members values => .newType name (trappedGuests bases) members (trappedGuests values)
  | .boundFunction name bound body => .boundFunction name bound.trapped body
  | .keep register inner => .keep register inner.trapped
  | .branch condition yes no => .branch condition.trapped yes.trapped no.trapped
  | .call callable arguments => .call callable.trapped (trappedGuests arguments)
  | .callMethod target name arguments =>
    if name ∈ Registry.tracingGlobals then
      .sequence [target.trapped, .tuple (trappedGuests arguments), .raise "NameError" name]
    else .callMethod target.trapped name (trappedGuests arguments)
  | .getattr target name =>
    if name ∈ Registry.tracingGlobals then .sequence [target.trapped, .raise "NameError" name]
    else .getattr target.trapped name
  | .setattr target name value =>
    if name ∈ Registry.tracingGlobals then .sequence [target.trapped, value.trapped, .raise "NameError" name]
    else .setattr target.trapped name value.trapped
  | body => body

def trappedGuests : List GuestBody → List GuestBody
  | [] => []
  | body :: rest => body.trapped :: trappedGuests rest

end

mutual

def HostBody.trapped : HostBody → HostBody
  | .array parts => .array (trappedHosts parts)
  | .concat parts => .concat (trappedHosts parts)
  | .sequence parts => .sequence (trappedHosts parts)
  | .itemAt inner index => .itemAt inner.trapped index
  | .length inner => .length inner.trapped
  | .note inner => .note inner.trapped
  | .attempt inner => .attempt inner.trapped
  | .store register inner => .store register inner.trapped
  | .processText inner => .processText inner.trapped
  | .send addressee message arguments => .send addressee.trapped message (trappedHosts arguments)
  | .processCall name argument =>
    if name ∈ Registry.tracingGlobals then .sequence [argument.trapped, .fail name]
    else .processCall name argument.trapped
  | .processMethod proxy name arguments =>
    if Bridge.asksMessage name then .sequence [proxy.trapped, .array (trappedHosts arguments), .fail name]
    else .processMethod proxy.trapped name (trappedHosts arguments)
  | .processDefine className base methods => .processDefine className base methods.trapped
  | .sessionCall session name argument =>
    if name ∈ Registry.tracingGlobals then .sequence [argument.trapped, .fail name]
    else .sessionCall session name argument.trapped
  | body => body

def trappedHosts : List HostBody → List HostBody
  | [] => []
  | body :: rest => body.trapped :: trappedHosts rest

end

mutual

theorem GuestBody.asks_trapped (body : GuestBody) : body.trapped.asks = false := by
  cases body with
  | tuple parts | concat parts | sequence parts =>
    unfold GuestBody.trapped GuestBody.asks
    exact anyGuestAsks_trapped parts
  | uppercase inner | typeName inner | attempt inner | finalize inner | dictGet inner key | dictRemove inner key
  | dictItems inner | boundFunction name inner body | keep register inner =>
    unfold GuestBody.trapped GuestBody.asks
    exact inner.asks_trapped
  | dictSet dict key value =>
    unfold GuestBody.trapped GuestBody.asks
    rw [dict.asks_trapped, value.asks_trapped, Bool.or_self]
  | newType name bases members values =>
    unfold GuestBody.trapped GuestBody.asks
    rw [anyGuestAsks_trapped bases, anyGuestAsks_trapped values, Bool.or_self]
  | branch condition yes no =>
    unfold GuestBody.trapped GuestBody.asks
    rw [condition.asks_trapped, yes.asks_trapped, no.asks_trapped, Bool.or_self, Bool.or_self]
  | call callable arguments =>
    unfold GuestBody.trapped GuestBody.asks
    rw [callable.asks_trapped, anyGuestAsks_trapped arguments, Bool.or_self]
  | callMethod target name arguments =>
    unfold GuestBody.trapped
    have inner := anyGuestAsks_trapped arguments
    split <;> simp_all [GuestBody.asks, anyGuestAsks, target.asks_trapped]
  | getattr target name =>
    unfold GuestBody.trapped
    split <;> simp_all [GuestBody.asks, anyGuestAsks, target.asks_trapped]
  | setattr target name value =>
    unfold GuestBody.trapped
    split <;> simp_all [GuestBody.asks, anyGuestAsks, target.asks_trapped, value.asks_trapped]
  | _ => rfl

theorem anyGuestAsks_trapped (bodies : List GuestBody) : anyGuestAsks (trappedGuests bodies) = false := by
  cases bodies with
  | nil => rfl
  | cons body rest =>
    unfold trappedGuests anyGuestAsks
    rw [body.asks_trapped, anyGuestAsks_trapped rest, Bool.or_self]

end

mutual

theorem HostBody.asks_trapped (body : HostBody) : body.trapped.asks = false := by
  cases body with
  | array parts | concat parts | sequence parts =>
    unfold HostBody.trapped HostBody.asks
    exact anyHostAsks_trapped parts
  | itemAt inner index | length inner | note inner | attempt inner | store register inner | processText inner
  | processDefine className base inner =>
    unfold HostBody.trapped HostBody.asks
    exact inner.asks_trapped
  | send addressee message arguments =>
    unfold HostBody.trapped HostBody.asks
    rw [addressee.asks_trapped, anyHostAsks_trapped arguments, Bool.or_self]
  | processCall name argument =>
    unfold HostBody.trapped
    split <;> simp_all [HostBody.asks, anyHostAsks, argument.asks_trapped]
  | processMethod proxy name arguments =>
    unfold HostBody.trapped
    have inner := anyHostAsks_trapped arguments
    split <;> simp_all [HostBody.asks, anyHostAsks, proxy.asks_trapped]
  | sessionCall session name argument =>
    unfold HostBody.trapped
    split <;> simp_all [HostBody.asks, anyHostAsks, argument.asks_trapped]
  | _ => rfl

theorem anyHostAsks_trapped (bodies : List HostBody) : anyHostAsks (trappedHosts bodies) = false := by
  cases bodies with
  | nil => rfl
  | cons body rest =>
    unfold trappedHosts anyHostAsks
    rw [body.asks_trapped, anyHostAsks_trapped rest, Bool.or_self]

end

end Script

def Code.asks (world : World) (invocation : Invocation) : Code → Bool
  | .service which => which.asks world invocation
  | _ => false

def Code.trapped : Code → Code
  | .script body => .script body.trapped
  | code => code

def Method.asks (arguments : List HostValue) : Method → Bool
  | .forward => (arguments.head?.bind (·.text?)).toList.any Bridge.asksMessage
  | _ => false

def Method.trapped : Method → Method
  | .script body => .script body.trapped
  | method => method

abbrev Hearing :=
  Host.HostId → HostValue → String → List HostValue → List LogEntry

/-- How a run is watched: what is written to the log of each message before it is delivered, and whether code fails
where it asks for one of the globals of tracing. -/
structure Watch where
  heard : Hearing
  wary : Bool

namespace Engine

open Act

def runWary (engine : Engine) (code : Code) (invocation : Invocation) : GuestAct Ref := do
  if code.asks (← get) invocation then throw (.undefinedName Registry.debugGlobal)
  engine.runCode code.trapped invocation

def runMethodWary (engine : Engine) (host : Host.HostId) (receiver : HostValue) (method : Method)
    (arguments : List HostValue) : HostAct HostValue := do
  if method.asks arguments then throw (.condition Registry.debugGlobal)
  engine.runMethod host receiver method.trapped arguments

def runWatched (watch : Watch) (engine : Engine) (code : Code) (invocation : Invocation) : GuestAct Ref :=
  if watch.wary then engine.runWary code invocation else engine.runCode code invocation

def deliverWatched (watch : Watch) (engine : Engine) (host : Host.HostId) (receiver : HostValue) (name : String)
    (arguments : List HostValue) : HostAct HostValue := do
  change fun world => { world with log := world.log ++ watch.heard host receiver name arguments }
  match ((← get).host host).answering receiver name arguments with
  | .ok (method, arguments) =>
    if watch.wary then engine.runMethodWary host receiver method arguments
    else engine.runMethod host receiver method arguments
  | .error error => throw error

def watched (watch : Watch) : Nat → Engine
  | 0 => exhausted
  | depth + 1 =>
    { call := (watched watch depth).callObject ((watched watch depth).runWatched watch)
      send := (watched watch depth).deliverWatched watch }

theorem watched_unseen (depth : Nat) : watched ⟨fun _ _ _ _ => [], false⟩ depth = ofDepth depth := by
  induction depth with
  | zero => rfl
  | succ depth ih =>
    rw [watched, ih, ofDepth_succ]
    rfl

end Engine

end ObjectBridge

import ObjectBridge.Proofs.Tracing.Scripts
import ObjectBridge.Proofs.World.Machine

/-!
The machine in twin worlds. An engine whose code fails where it asks for the globals of tracing comes to the same,
whatever it is given to call or to send, to any depth.
-/

namespace ObjectBridge

open Guest (Handle)

theorem Registry.Service.asks_alike {flag : Flag} {world world' : World} (alike : world.Alike flag world')
    (invocation : Invocation) (service : Registry.Service) :
    service.asks world' invocation = service.asks world invocation := by
  have text (id : SpaceId) : (world'.space id).text? = (world.space id).text? := funext (alike.spaces id).text?
  have tuple (id : SpaceId) : (world'.space id).tuple? = (world.space id).tuple? := funext (alike.spaces id).tuple?
  unfold asks
  simp only [text, tuple]

theorem Code.asks_alike {flag : Flag} {world world' : World} (alike : world.Alike flag world')
    (invocation : Invocation) (code : Code) : code.asks world' invocation = code.asks world invocation := by
  cases code with
  | service service => exact service.asks_alike alike invocation
  | _ => rfl

namespace Engine

open Act Bridge

variable {flag : Flag} {engine : Engine} {borrowed : List Ref}

section Methods

variable (agrees : engine.Agrees flag)
include agrees

theorem meets_runCode {world world' : World} {frame : Multiset Ref} (twins : world.Twins flag frame world')
    (code : Code) (invocation : Invocation) (apart : code.asks world invocation = false)
    (lent : ∀ ref ∈ Script.lends invocation, ref ∈ frame) :
    Meets flag frame world world' (engine.runCode code.trapped invocation) (engine.runCode code.trapped invocation)
      ({·}) := by
  have inWorlds {act : GuestAct Ref} (same : Act.Agrees flag (Script.lends invocation) 0 act act ({·})) :
      Meets flag frame world world' act act ({·}) := same world world' frame (by rwa [zero_add]) lent
  cases code with
  | script body =>
    exact inWorlds (Script.agrees_runGuest invocation agrees body.trapped body.asks_trapped _ fun _ => id)
  | service service => exact Registry.agrees_serve agrees twins service invocation apart
  | callback route =>
    refine inWorlds (agrees_dispatch agrees route invocation fun ref member => ?_)
    exact List.mem_append_left _ (List.mem_append_right _ member)

omit agrees in
theorem agrees_proxied (receiver : HostValue) :
    Act.Agrees flag borrowed 0 (proxied receiver) (proxied receiver) fun _ => 0 := by
  unfold proxied
  split
  · exact .pure rfl
  · exact .throw _

omit agrees in
theorem agrees_withOwner {α : Type} (receiver : HostValue) {operation : Session → HostAct α}
    (same : ∀ session debug, Act.Agrees flag borrowed 0 (operation session) (operation (session.debugging debug))
      fun _ => 0) :
    Act.Agrees flag borrowed 0 (withOwner receiver operation) (withOwner receiver operation) fun _ => 0 := by
  refine (agrees_proxied receiver).bind fun reference => .get_bind fun world world' frame twins lent => ?_
  rcases Session.cases_of_plain (twins.alike.aliveSession? reference.session) with ⟨gone, gone'⟩ |
    ⟨session, debug, alive, alive'⟩
  · rw [gone, gone']
    exact Agrees.throw _ world world' frame twins lent
  · rw [alive, alive']
    exact Agrees.holding rfl (same session debug) world world' frame twins lent

theorem agrees_runMethod (host : Host.HostId) (receiver : HostValue) (method : Method) (arguments : List HostValue)
    (apart : method.asks arguments = false) :
    Act.Agrees flag borrowed 0 (engine.runMethod host receiver method.trapped arguments)
      (engine.runMethod host receiver method.trapped arguments) fun _ => 0 := by
  cases method with
  | script body => exact Script.agrees_runHost agrees _ body.trapped body.asks_trapped borrowed
  | identity => exact (agrees_proxied receiver).bind fun _ => .pure rfl
  | text =>
    refine agrees_withOwner receiver fun session debug => ?_
    exact ((agrees_proxyText agrees session debug receiver).adapt _).bind fun _ => .pure rfl
  | forward =>
    refine agrees_withOwner receiver fun session debug => ?_
    cases named : arguments.head?.bind (·.text?) with
    | none => exact .throw _
    | some name =>
      have apart : asksMessage name = false := by simpa [Method.asks, named] using apart
      exact (agrees_callProxy agrees session debug receiver apart _).adapt _

theorem agrees_runWary (code : Code) (invocation : Invocation)
    (lent : ∀ ref ∈ Script.lends invocation, ref ∈ borrowed) :
    Act.Agrees flag borrowed 0 (engine.runWary code invocation) (engine.runWary code invocation) ({·}) := by
  refine .get_bind fun world world' frame twins lentNow => ?_
  rw [zero_add] at twins
  rw [code.asks_alike twins.alike]
  cases asks : code.asks world invocation with
  | true => exact Agrees.throw_bind _ _ _ world world' frame (by rwa [zero_add]) lentNow
  | false => exact meets_runCode agrees twins code invocation asks fun ref member => lentNow ref (lent ref member)

theorem agrees_runMethodWary (host : Host.HostId) (receiver : HostValue) (method : Method)
    (arguments : List HostValue) :
    Act.Agrees flag borrowed 0 (engine.runMethodWary host receiver method arguments)
      (engine.runMethodWary host receiver method arguments) fun _ => 0 := by
  unfold runMethodWary
  cases asks : method.asks arguments with
  | true => exact .throw_bind _ _ _
  | false => exact agrees_runMethod agrees host receiver method arguments asks

theorem agrees_deliverWatched {heard : Hearing} (host : Host.HostId) (receiver : HostValue) (name : String)
    (arguments : List HostValue) :
    Act.Agrees flag borrowed 0 (engine.deliverWatched ⟨heard, true⟩ host receiver name arguments)
      (engine.deliverWatched ⟨heard, true⟩ host receiver name arguments) fun _ => 0 := by
  have noted : Act.Agrees flag borrowed 0
      (change fun world => { world with log := world.log ++ heard host receiver name arguments } : HostAct Unit)
      (change fun world => { world with log := world.log ++ heard host receiver name arguments }) fun _ => 0 :=
    .change (fun _ => ⟨rfl, rfl, .of_same rfl rfl rfl⟩) fun _ => rfl
  refine noted.bind fun _ => .get_bind fun world world' frame twins lent => ?_
  rw [twins.alike.host]
  suffices agrees : Act.Agrees flag borrowed 0 _ _ fun _ => 0 from agrees world world' frame twins lent
  split
  · exact agrees_runMethodWary agrees host receiver _ _
  · exact .throw _

end Methods

section Balanced

variable (balanced : engine.Balanced)
include balanced

theorem balanced_runWatched (watch : Watch) (code : Code) (invocation : Invocation)
    (lent : ∀ ref ∈ Script.lends invocation, ref ∈ borrowed) :
    Act.Balanced .lasting borrowed 0 (engine.runWatched watch code invocation) ({·}) := by
  unfold runWatched
  split
  · refine .get_bind fun world frame exact lentNow => ?_
    split
    · exact Balanced.throw_bind _ _ world frame exact lentNow
    · exact balanced_runCode balanced code.trapped invocation lent world frame exact lentNow
  · exact balanced_runCode balanced code invocation lent

theorem balanced_deliverWatched (watch : Watch) (host : Host.HostId) (receiver : HostValue) (name : String)
    (arguments : List HostValue) :
    Act.Balanced .lasting borrowed 0 (engine.deliverWatched watch host receiver name arguments) fun _ => 0 := by
  have wary (method : Method) (arguments : List HostValue) :
      Act.Balanced .lasting borrowed 0 (engine.runMethodWary host receiver method arguments) fun _ => 0 := by
    unfold runMethodWary
    split
    · exact .throw_bind _ _
    · exact balanced_runMethod balanced host receiver _ _
  refine Balanced.bind (Balanced.change (fun _ => ⟨rfl, rfl, .of_same rfl rfl rfl⟩)) fun _ => ?_
  refine .get_bind fun world frame exact lent => ?_
  split
  · split
    · exact wary _ _ world frame exact lent
    · exact balanced_runMethod balanced host receiver _ _ world frame exact lent
  · exact .throw _

end Balanced

theorem balanced_watched (watch : Watch) (depth : Nat) : (watched watch depth).Balanced := by
  induction depth with
  | zero => exact balanced_exhausted
  | succ depth ih =>
    exact ⟨fun space callable arguments keywords lent lentKeywords =>
      balanced_callObject ih (fun _ code invocation lent => balanced_runWatched ih watch code invocation lent) callable
        lent lentKeywords,
      fun host receiver name arguments => balanced_deliverWatched ih watch host receiver name arguments⟩

theorem agrees_watched {heard : Hearing} (depth : Nat) :
    (watched ⟨heard, true⟩ depth).Agrees flag := by
  induction depth with
  | zero => exact ⟨fun _ _ _ _ _ _ => .throw _, fun _ _ _ _ => .throw _⟩
  | succ depth ih =>
    refine ⟨fun space callable arguments keywords lent lentKeywords => ?_, fun host receiver name arguments => ?_⟩
    · exact agrees_callObject ih (fun _ code invocation lent => agrees_runWary ih code invocation lent) callable lent
        lentKeywords
    · exact agrees_deliverWatched ih host receiver name arguments

end Engine

end ObjectBridge

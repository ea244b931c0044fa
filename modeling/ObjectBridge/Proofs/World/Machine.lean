import ObjectBridge.Proofs.World.Scripts

/-!
Balance of the machine. The engine in which nothing runs is balanced, and if an engine is then so is the
engine whose code calls and sends by it: hence the engines of all depths are.
-/

namespace ObjectBridge.Engine

open Act Bridge

variable [World.Passing] {borrowed : List Ref}

theorem balanced_withOwner {α : Type} (receiver : HostValue) {operation : Session → HostAct α}
    (balanced : ∀ session, Act.Balanced .lasting borrowed 0 (operation session) fun _ => 0) :
    Act.Balanced .lasting borrowed 0 (withOwner receiver operation) fun _ => 0 := by
  have found : Act.Balanced .lasting borrowed 0 (proxied receiver) fun _ => 0 := by
    unfold proxied
    split
    · exact .pure rfl
    · exact .throw _
  refine found.bind fun reference => .get_bind fun world frame exact lent => ?_
  cases world.aliveSession? reference.session with
  | none => exact .throw _
  | some session => exact Balanced.holding session (balanced session) world frame exact lent

variable {engine : Engine} (balanced : engine.Balanced)
include balanced

theorem balanced_runCode (code : Code) (invocation : Invocation)
    (lent : ∀ ref ∈ Script.lends invocation, ref ∈ borrowed) :
    Act.Balanced .lasting borrowed 0 (engine.runCode code invocation) ({·}) := by
  cases code with
  | script body => exact Script.balanced_runGuest invocation balanced body borrowed lent
  | service service => exact Registry.balanced_serve balanced service invocation
  | callback route =>
    refine balanced_dispatch balanced route invocation fun ref member => lent ref ?_
    exact List.mem_append_left _ (List.mem_append_right _ member)

theorem balanced_runMethod (host : Host.HostId) (receiver : HostValue) (method : Method)
    (arguments : List HostValue) :
    Act.Balanced .lasting borrowed 0 (engine.runMethod host receiver method arguments) fun _ => 0 := by
  cases method with
  | script body => exact Script.balanced_runHost balanced _ body
  | identity =>
    refine Balanced.bind (?_ : Act.Balanced _ _ _ _ fun _ => 0) fun _ => .pure rfl
    unfold proxied
    split
    · exact .pure rfl
    · exact .throw _
  | text =>
    refine balanced_withOwner receiver fun session => ?_
    exact ((balanced_proxyText balanced session receiver).adapt _).bind fun _ => .pure rfl
  | forward =>
    refine balanced_withOwner receiver fun session => ?_
    cases arguments.head?.bind (·.text?) with
    | none => exact .throw _
    | some name => exact (balanced_callProxy balanced session receiver name _).adapt _

theorem balanced_deliver (host : Host.HostId) (receiver : HostValue) (name : String)
    (arguments : List HostValue) :
    Act.Balanced .lasting borrowed 0 (engine.deliver host receiver name arguments) fun _ => 0 := by
  refine .get_bind fun world frame exact lent => ?_
  split
  · exact balanced_runMethod balanced host receiver _ _ world frame exact lent
  · exact .throw _

theorem balanced_next : engine.next.Balanced where
  call _ callable _ _ lent lentKeywords :=
    balanced_callObject balanced (fun _ code invocation lent => balanced_runCode balanced code invocation lent)
      callable lent lentKeywords
  send host receiver name arguments := balanced_deliver balanced host receiver name arguments

omit balanced in
theorem balanced_exhausted : exhausted.Balanced where
  call _ _ _ _ _ _ := .throw _
  send _ _ _ _ := .throw _

omit balanced in
theorem balanced_ofDepth (depth : Nat) : (ofDepth depth).Balanced := by
  induction depth with
  | zero => exact balanced_exhausted
  | succ depth ih => exact balanced_next ih

end ObjectBridge.Engine

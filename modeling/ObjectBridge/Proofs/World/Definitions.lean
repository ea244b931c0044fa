import ObjectBridge.Bridge.ClassDefinition
import ObjectBridge.Proofs.World.Proxies

/-!
Balance of the definition of classes. The type that is published is held by the module; its methods are
held by the type.
-/

namespace ObjectBridge.Engine

open Act Bridge
open Guest (Extent Handle)

variable [World.Passing] {extent : Extent} {borrowed : List Ref}

theorem balanced_callbacks (session : Session) (route : Route) (methods : List String) :
    Act.Balanced extent borrowed 0 (callbacks session route methods) fun refs => refs := by
  refine Balanced.collect #[] fun name _ => Balanced.adapt _ ?_
  refine (Balanced.ownedBy (Guest.Space.balanced_newText extent name)).bind fun bound => ?_
  exact Balanced.lending (.ownedBy (Guest.Space.balanced_newFunction extent _ _ _)) rfl

variable {engine : Engine} (balanced : engine.Balanced)
include balanced

theorem balanced_resolveBase (session : Session) (base : String) :
    Act.Balanced .lasting borrowed 0 (engine.resolveBase session base) ({·}) := by
  refine ((Balanced.ownedBy (Guest.Space.balanced_newText .lasting base)).adapt _).bind fun name => ?_
  have called : Act.Balanced .lasting ([name] ++ borrowed) 0
      (engine.registryCall session "resolve_function" [name]) ({·}) :=
    balanced_registryCall balanced session _ (by simp)
  refine ((called.lending rfl).adapt _).bind fun resolved => ?_
  refine (Balanced.view _).bind fun kind => ?_
  split
  · exact .pure rfl
  · exact (Balanced.release resolved).bind fun _ => .throw _

theorem balanced_prepareClass (session : Session) (className base : String) (methods : List String) :
    Act.Balanced .lasting borrowed 0 (engine.prepareClass session className base methods)
      fun found => {found.1} + {found.2} := by
  unfold prepareClass
  extract_lets shown
  refine (balanced_traceLine _ _ _).bind fun _ => ?_
  split
  · exact .throw_bind _ _
  refine (balanced_moduleOf session).bind fun module => ?_
  extract_lets found
  have finds : Act.Balanced .lasting ([module] ++ borrowed) 0 found ({·}) := by
    refine ((Balanced.onView _).adapt _).bind fun globals => ?_
    extract_lets
    split
    · exact .throw _
    · exact balanced_resolveBase balanced session base
  exact finds.onFailure.bind fun baseType => .pure rfl

theorem balanced_publish (session : Session) {name type : Ref} :
    Act.Balanced .lasting borrowed (([name, type] : List Ref) : Multiset Ref) (lending [name, type] do
      let published ← engine.registryCall session "set_globals" [name, type]
      change (·.release published)) fun _ => 0 := by
  refine Balanced.lending ?_ rfl
  refine (balanced_registryCall balanced session _ fun ref member => ?_).bind fun published => .release published
  exact List.mem_append_left _ member

theorem balanced_publishClass (session : Session) (origin : HostValue) (className : String) (baseType : Ref)
    (methods : List String) (functions : List Ref) :
    Act.Balanced .lasting borrowed {baseType}
      (engine.publishClass session origin className baseType methods functions) fun _ => 0 := by
  have made (members : List (String × Handle)) :
      Act.Balanced .lasting borrowed {baseType}
        (lending [baseType] do
          (ownedBy session.space (Guest.Space.newType className [baseType.handle] members)).adapt
            fun exception => Error.classDefinition (.refused exception.message)) ({·}) :=
    Balanced.lending ((Balanced.ownedBy (Guest.Space.balanced_newType .lasting _ _ _)).adapt _) rfl
  refine (made _).bind fun type => ?_
  have named : Act.Balanced .lasting ([type] ++ borrowed) 0
      (asBridge (ownedBy session.space (Guest.Space.newText className))) ({·}) :=
    (Balanced.ownedBy (Guest.Space.balanced_newText .lasting className)).adapt _
  refine named.onFailure.bind fun name => ?_
  refine ((balanced_publish balanced session).congr (add_comm _ _) fun _ => rfl).bind fun _ => ?_
  have activated : Act.Balanced .lasting borrowed 0
      (change (·.updateSession session.id fun state => { state with active := some { origin, className } }) :
        BridgeAct Unit) fun _ => 0 := by
    intro world _ _ _
    have kept : World.Leads .lasting (world, 0) (world.updateSession session.id fun state =>
        { state with active := some { origin, className } }, 0) :=
      World.leads_updateSession fun _ => ⟨rfl, rfl⟩
    exact kept.passes (.of_spaces rfl)
  exact activated.bind fun _ => balanced_traceLine _ _ _

theorem balanced_defineClass (session : Session) (origin : HostValue) (className base : String)
    (methods : List String) :
    Act.Balanced .lasting borrowed 0 (engine.defineClass session origin className base methods)
      fun _ => 0 := by
  refine (balanced_prepareClass balanced session className base methods).bind fun found => ?_
  obtain ⟨module, baseType⟩ := found
  refine Balanced.lendingOwned (?_ : Act.Balanced _ _ {baseType} _ _) rfl
  refine (balanced_callbacks session _ methods).onFailure.bind fun functions => ?_
  exact Balanced.lendingOwned (balanced_publishClass balanced session origin className baseType methods functions)
    (add_comm _ _)

end ObjectBridge.Engine

import ObjectBridge.Console.Perform
import ObjectBridge.Proofs.World.Machine

/-!
Balance of commands. A command that is carried out leaves no reference loose: what it takes ends up in a
register, or is given back, or is one of the forgotten.
-/

namespace ObjectBridge.Console

open Act Script
open Guest (Extent Handle)

section Perform

variable [World.Passing] {α : Type} {borrowed : List Ref} {space : SpaceId}

theorem balanced_placeOf (place : Option String) :
    Act.Balanced .lasting borrowed 0 (placeOf place) fun _ => 0 := by
  refine .get_bind fun world frame exact lent => ?_
  split
  · split
    · exact .pure rfl
    · exact .throw _
  · split
    · exact .pure rfl
    · exact .throw _

theorem balanced_valueIn (name : String) :
    Act.Balanced .lasting borrowed 0 (valueIn name) fun _ => 0 := by
  refine .get_bind fun world frame exact lent => ?_
  split
  · exact .pure rfl
  · exact .throw _

theorem balanced_familyIn (name : String) :
    Act.Balanced .lasting borrowed 0 (familyIn name) fun _ => 0 := by
  refine .get_bind fun world frame exact lent => ?_
  split
  · exact .pure rfl
  · exact .throw _

theorem balanced_sessionIn (name : String) :
    Act.Balanced .lasting borrowed 0 (sessionIn name) fun _ => 0 := by
  refine .get_bind fun world frame exact lent => ?_
  split
  · exact .pure rfl
  · exact .throw _

theorem balanced_withGuest (literal : GuestLiteral) {act : Ref → Performance α}
    (balanced : ∀ ref, Act.Balanced .lasting ([ref] ++ borrowed) 0 (act ref) fun _ => 0) :
    Act.Balanced .lasting borrowed 0 (withGuest space literal act) fun _ => 0 :=
  ((balanced_makeGuest literal borrowed).adapt _).bind fun ref => (balanced ref).lending rfl

theorem balanced_withGuests (literals : List GuestLiteral) {act : List Ref → Performance α}
    (balanced : ∀ refs, Act.Balanced .lasting (refs ++ borrowed) 0 (act refs) fun _ => 0) :
    Act.Balanced .lasting borrowed 0 (withGuests space literals act) fun _ => 0 :=
  ((balanced_makeGuests #[] literals borrowed).adapt _).bind fun refs => (balanced refs).lending rfl

theorem balanced_withEntries (entries : List (String × GuestLiteral))
    {act : List (String × Ref) → Performance α}
    (balanced : ∀ (refs : List Ref) (named : List (String × Ref)), (∀ entry ∈ named, entry.2 ∈ refs) →
      Act.Balanced .lasting (refs ++ borrowed) 0 (act named) fun _ => 0) :
    Act.Balanced .lasting borrowed 0 (withEntries space entries act) fun _ => 0 :=
  balanced_withGuests _ fun refs => balanced refs _ fun _ member => (List.of_mem_zip member).2

theorem balanced_hostValue (literal : HostLiteral) :
    Act.Balanced .lasting borrowed 0 (hostValue literal) fun _ => 0 :=
  Balanced.adapt _ (.get_bind fun _ _ _ _ => .lift _ fun _ _ => rfl)

theorem balanced_hostValues (literals : List HostLiteral) :
    Act.Balanced .lasting borrowed 0 (hostValues literals) fun _ => 0 :=
  Balanced.adapt _ (.get_bind fun _ _ _ _ => .lift _ fun _ _ => rfl)

theorem balanced_storeOwned (name : String) (register : Register) :
    Act.Balanced .lasting borrowed (register.ref?.toList : Multiset Ref)
      (change (·.store name register) : Performance Unit) fun _ => 0 :=
  (Script.balanced_store name register 0).congr (add_zero _).symm fun _ => rfl

theorem balanced_answerGuest (command : Command) (ref : Ref) :
    Act.Balanced .lasting borrowed {ref} (answerGuest command ref) fun _ => 0 := by
  refine .get_bind fun world frame exact lent => ?_
  extract_lets shown show_
  clear_value shown
  have shows : Act.Balanced .lasting borrowed 0 (show_ ()) fun _ => 0 := by
    unfold show_
    split <;> exact .pure rfl
  suffices given : Act.Balanced .lasting borrowed {ref} _ fun _ => 0 from given world frame exact lent
  split
  · exact (balanced_storeOwned _ (.value ref)).bind fun _ => shows
  · exact (Balanced.release ref).bind fun _ => shows

theorem balanced_answerHost (command : Command) (value : HostValue) :
    Act.Balanced .lasting borrowed 0 (answerHost command value) fun _ => 0 := by
  unfold answerHost
  extract_lets show_
  have shows : Act.Balanced .lasting borrowed 0 (show_ ()) fun _ => 0 := by
    unfold show_
    split <;> exact .pure rfl
  split
  · exact (balanced_storeOwned _ (.host value)).bind fun _ => shows
  · exact shows

theorem balanced_answerFamily (command : Command) (family : HostClass) :
    Act.Balanced .lasting borrowed 0 (answerFamily command family) fun _ => 0 := by
  unfold answerFamily
  split
  · exact (balanced_storeOwned _ (.family family)).bind fun _ => .pure rfl
  · exact .pure rfl

theorem balanced_answerStored (command : Command) (usual : String) {register : Register}
    (unheld : register.ref? = none) :
    Act.Balanced .lasting borrowed 0 (answerStored command usual register) fun _ => 0 := by
  refine Balanced.bind (?_ : Act.Balanced _ _ _ _ fun _ => 0) fun _ => .pure rfl
  exact (balanced_storeOwned _ register).congr (by rw [unheld]; rfl) fun _ => rfl

theorem balanced_answerOptional (command : Command) (value : Option HostValue) :
    Act.Balanced .lasting borrowed 0 (answerOptional command value) fun _ => 0 := by
  cases value with
  | none => exact .pure rfl
  | some value => exact balanced_answerHost command value

theorem balanced_distribute (refs : List Ref) (names : List String) :
    Act.Balanced .lasting borrowed (refs : Multiset Ref) (distribute refs names) fun _ => 0 := by
  have released (refs : List Ref) : Act.Balanced .lasting borrowed (refs : Multiset Ref)
      (change (·.releaseAll refs) : Performance Unit) fun _ => 0 :=
    (Balanced.releaseAll refs).congr (add_zero _).symm fun _ => rfl
  induction refs generalizing names with
  | nil =>
    cases names <;> exact released []
  | cons ref rest ih =>
    cases names with
    | nil => exact released _
    | cons name names =>
      refine Balanced.bind (?_ : Act.Balanced _ _ _ _ fun _ => (rest : Multiset Ref)) fun _ => ih names
      intro world frame exact _
      rw [← Multiset.cons_coe, ← Multiset.singleton_add] at exact ⊢
      have here : ((Register.value ref).ref?.toList : Multiset Ref) = {ref} := rfl
      rw [← here] at exact ⊢
      exact (World.leads_store exact).passes (world.onlyLoses_store name (.value ref))

theorem balanced_answered (command : Command) {act : GuestAct Ref}
    (balanced : Act.Balanced .lasting borrowed 0 act ({·})) :
    Act.Balanced .lasting borrowed 0 (asGuest act >>= answerGuest command) fun _ => 0 :=
  (balanced.adapt _).bind fun ref => balanced_answerGuest command ref

theorem balanced_told {γ : Type} {act : GuestAct α} (tell : α → γ)
    (balanced : Act.Balanced .lasting borrowed 0 act fun _ => 0) :
    Act.Balanced .lasting borrowed 0 (asGuest act >>= fun value => (pure (tell value) : Performance γ))
      fun _ => 0 :=
  (balanced.adapt _).bind fun _ => .pure rfl

variable {engine : Engine} (balanced : engine.Balanced)
include balanced

omit balanced in
theorem balanced_performValue (command : Command) (action : ValueAction) (ref : Ref) :
    Act.Balanced .lasting borrowed 0 (performValue command action ref) fun _ => 0 := by
  refine .get_bind fun world frame exact lent => ?_
  extract_lets own
  cases action with
  | handle => exact balanced_answerStored command _ rfl world frame exact lent
  | _ => exact .pure rfl

omit balanced in
theorem balanced_performGuest (balanced : engine.Balanced) (command : Command) (action : GuestAction) :
    Act.Balanced .lasting borrowed 0 (performGuest engine command action) fun _ => 0 := by
  unfold performGuest
  cases action
  case start =>
    have added : Act.Balanced .lasting borrowed 0 (step (·.addSpace) : Performance SpaceId) fun _ => 0 :=
      fun _ _ exact _ => World.passes_addSpace exact
    exact added.bind fun id => balanced_answerStored command _ rfl
  all_goals refine (balanced_placeOf _).bind fun space => ?_
  case finalize => exact ((Bridge.balanced_finalizeSpace space).adapt _).bind fun _ => .pure rfl
  case liveObjects => exact .get_bind fun _ _ _ _ => .pure rfl
  case isInitialized => exact .get_bind fun _ _ _ _ => .pure rfl
  case describeSpace => exact .get_bind fun _ _ _ _ => .pure rfl
  case define script =>
    have defined : Act.Balanced .lasting borrowed 0
        (change (·.updateSpace space (·.addDefinition script.definition)) : Performance Unit) fun _ => 0 :=
      fun _ _ _ _ => (World.leads_updateSpace (.single (.define _))).passes <|
        World.onlyLoses_updateSpace fun _ => .of_get? (fun _ _ => id) rfl rfl
    exact defined.bind fun _ => .pure rfl
  case importModule name => exact balanced_answered command (Engine.balanced_importModule balanced name)
  case isImported name => exact .get_bind fun _ _ _ _ => .pure rfl
  case value literal => exact balanced_answered command (balanced_makeGuest literal borrowed)
  case acquire register =>
    refine .get_bind fun world frame exact lent => ?_
    split
    · exact balanced_answered command (.ownedBy (Guest.Space.balanced_acquire .lasting _)) world frame exact lent
    · exact .throw _
  case builtin name =>
    refine .get_bind fun world frame exact lent => ?_
    split
    · exact balanced_answered command (.ownedBy (Guest.Space.balanced_acquire .lasting _)) world frame exact lent
    · exact .pure rfl
  case builtinNames => exact .pure rfl
  case function name body bound =>
    have make (lends : List Ref) (state : Option Handle) : Act.Balanced .lasting lends 0
        (asGuest (ownedBy space (Guest.Space.newFunction name state (.script body))) >>= answerGuest command)
        fun _ => 0 :=
      balanced_answered command (.ownedBy (Guest.Space.balanced_newFunction .lasting name state _))
    cases bound with
    | none => exact make borrowed none
    | some literal => exact balanced_withGuest literal fun state => make _ (some state.handle)
  case newType name bases members =>
    refine balanced_withGuests bases fun bases => balanced_withEntries members fun refs named _ => ?_
    exact balanced_answered command (.ownedBy (Guest.Space.balanced_newType .lasting name _ _))
  case call callable arguments keywords =>
    refine balanced_withGuest callable fun callable => balanced_withGuests arguments fun arguments =>
      balanced_withEntries keywords fun refs keywords listed => ?_
    refine balanced_answered command (balanced.call space callable arguments keywords ?_ ?_)
    · exact fun ref member => List.mem_append_right _ (List.mem_append_left _ member)
    · exact fun keyword member => List.mem_append_left _ (listed keyword member)
  case callWithArguments callable arguments =>
    refine balanced_withGuest callable fun callable => balanced_withGuests arguments fun arguments => ?_
    refine balanced_answered command (Registry.balanced_callWithArguments balanced _ callable ?_)
    exact fun ref member => List.mem_append_left _ member
  case callMethod target name arguments =>
    refine balanced_withGuest target fun target => balanced_withGuests arguments fun arguments => ?_
    refine balanced_answered command (Engine.balanced_callMethod balanced target name ?_)
    exact fun ref member => List.mem_append_left _ member
  case getattr target name quiet =>
    refine balanced_withGuest target fun target => ((balanced_getattr target name).adapt _).bind fun ref => ?_
    exact (balanced_answerGuest command ref).bind fun _ => .pure rfl
  case hasattr target name =>
    exact balanced_withGuest target fun target => balanced_told _ (balanced_hasattr target name)
  case setattr target name value =>
    refine balanced_withGuest target fun target => balanced_withGuest value fun value => ?_
    exact balanced_told _ (balanced_setattr target name value)
  case dir target => exact balanced_withGuest target fun target => balanced_told _ (.onView _)
  case str target =>
    refine balanced_withGuest target fun target => balanced_told _ ?_
    exact Engine.balanced_str balanced target (by simp)
  case repr target => exact balanced_withGuest target fun target => balanced_told _ (.onView _)
  case typeOf target =>
    refine balanced_withGuest target fun target => balanced_answered command (.ownedBy ?_)
    exact Guest.Op.Balanced.read.bind fun type => Guest.Space.balanced_acquire .lasting type
  case typeName target => exact balanced_withGuest target fun target => balanced_told _ (.onView _)
  case isInstance target type =>
    exact balanced_withGuest target fun target => balanced_withGuest type fun type =>
      balanced_told _ (.onView _)
  case isSame left right =>
    exact balanced_withGuest left fun left => balanced_withGuest right fun right => .pure rfl
  case isKey left right =>
    exact balanced_withGuest left fun left => balanced_withGuest right fun right =>
      (Balanced.view _).bind fun _ => .pure rfl
  case tupleItems target registers =>
    refine balanced_withGuest target fun target => (Balanced.itemsOf target).bind fun items => ?_
    cases items with
    | none => exact .pure (by simp)
    | some items =>
      refine .get_bind fun world frame exact lent => ?_
      have given : Act.Balanced .lasting ([target] ++ borrowed) (items : Multiset Ref)
          (distribute items registers) fun _ => 0 := balanced_distribute items registers
      extract_lets shown
      have told : Act.Balanced .lasting ([target] ++ borrowed) ((items : Multiset Ref) + 0)
          (distribute items registers >>= fun _ => pure (Answer.guestItems shown)) fun _ => 0 :=
        (given.congr (add_zero _) fun _ => rfl).bind fun _ => .pure rfl
      exact told world frame exact lent
  case dictGet dict key =>
    refine balanced_withGuest dict fun dict => ((balanced_dictGet dict key).adapt _).bind fun value => ?_
    cases value with
    | none => exact .pure rfl
    | some value => exact balanced_answerGuest command value
  case dictSet dict key value =>
    refine balanced_withGuest dict fun dict => balanced_withGuest value fun value => ?_
    exact balanced_told _ (.onSpace (Guest.Space.balanced_dictSet dict.handle key value.handle))
  case dictRemove dict key =>
    refine balanced_withGuest dict fun dict => balanced_told _ ?_
    exact .onSpace (Guest.Space.balanced_dictRemove dict.handle key)
  case dictLength dict => exact balanced_withGuest dict fun dict => balanced_told _ (.onView _)
  case dictItems dict =>
    refine balanced_withGuest dict fun dict => ((Balanced.onView _).adapt _).bind fun entries => ?_
    exact .get_bind fun _ _ _ _ => .pure rfl

theorem balanced_performHost (command : Command) (host : Host.HostId) (action : HostAction) :
    Act.Balanced .lasting borrowed 0 (performHost engine command host action) fun _ => 0 := by
  cases action with
  | defineClass name superclass methods register =>
    have defines (parent : Option HostClass) (methods : List (String × Method)) : Act.Balanced .lasting borrowed 0 (do
        let family ← step (·.buildClass name parent methods)
        if register then change fun world => world.setHost host ((world.host host).register family)
        answerFamily command family) fun _ => 0 := by
      refine Balanced.bind (?_ : Act.Balanced _ _ _ _ fun _ => 0) fun family => ?_
      · exact .step fun _ => ⟨rfl, rfl, .of_same rfl rfl rfl⟩
      · have shows : Act.Balanced .lasting borrowed 0 (answerFamily command family) fun _ => 0 :=
          balanced_answerFamily command family
        split
        · refine Balanced.bind (?_ : Act.Balanced _ _ _ _ fun _ => 0) fun _ => shows
          exact .change fun world => ⟨rfl, rfl, world.steady_register host family⟩
        · exact shows
    unfold performHost
    cases superclass with
    | none => exact defines none _
    | some parent =>
      have named : Act.Balanced .lasting borrowed 0 (some <$> familyIn parent) fun _ => 0 := by
        rw [map_eq_pure_bind]
        exact (balanced_familyIn parent).bind fun _ => .pure rfl
      exact named.bind fun parent => defines parent _
  | findClass name =>
    refine .get_bind fun world frame exact lent => ?_
    split
    · exact balanced_answerFamily command _ world frame exact lent
    · exact .pure rfl
  | objectClass =>
    exact .get_bind fun world frame exact lent => balanced_answerFamily command _ world frame exact lent
  | classCount => exact .get_bind fun _ _ _ _ => .pure rfl
  | sameClass left right =>
    exact (balanced_familyIn left).bind fun _ => (balanced_familyIn right).bind fun _ => .pure rfl
  | isSubclass left right =>
    exact (balanced_familyIn left).bind fun _ => (balanced_familyIn right).bind fun _ => .pure rfl
  | methodNames family => exact (balanced_familyIn family).bind fun _ => .pure rfl
  | understands family message => exact (balanced_familyIn family).bind fun _ => .pure rfl
  | describeClass family => exact (balanced_familyIn family).bind fun _ => .pure rfl
  | newObject family payload =>
    refine (balanced_familyIn family).bind fun family => ?_
    refine Balanced.bind (?_ : Act.Balanced _ _ _ _ fun _ => 0) fun value => balanced_answerHost command value
    exact .step fun world => ⟨rfl, rfl, world.steady_newObject host family _⟩
  | payload value => exact (balanced_hostValue value).bind fun _ => .pure rfl
  | value literal => exact (balanced_hostValue literal).bind fun value => balanced_answerHost command value
  | shape value =>
    exact (balanced_hostValue value).bind fun _ => .get_bind fun _ _ _ _ => .pure rfl
  | send receiver message arguments =>
    refine (balanced_hostValue receiver).bind fun receiver => ?_
    refine (balanced_hostValues arguments).bind fun arguments => ?_
    exact ((balanced.send host receiver message arguments).adapt _).bind fun value =>
      balanced_answerHost command value
  | length value =>
    exact (balanced_hostValue value).bind fun _ => ((Balanced.lift _).adapt _).bind fun _ => .pure rfl
  | itemAt value index =>
    exact (balanced_hostValue value).bind fun _ => ((Balanced.lift _).adapt _).bind fun value =>
      balanced_answerHost command value
  | isInstance value family =>
    refine (balanced_hostValue value).bind fun value => .get_bind fun world frame exact lent => ?_
    have told : Act.Balanced .lasting borrowed 0
        (familyIn family >>= fun family => pure (Answer.flag ((world.host host).isInstanceOf value family)))
        fun _ => 0 :=
      (balanced_familyIn family).bind fun _ => .pure rfl
    exact told world frame exact lent
  | isInstanceOfNamed value name =>
    exact (balanced_hostValue value).bind fun _ => .get_bind fun _ _ _ _ => .pure rfl
  | same left right =>
    exact (balanced_hostValue left).bind fun _ => (balanced_hostValue right).bind fun _ => .pure rfl
  | describeValue value => exact (balanced_hostValue value).bind fun _ => .pure rfl
  | describeObject value => exact (balanced_hostValue value).bind fun _ => .pure rfl
  | proxyKey value register =>
    refine (balanced_hostValue value).bind fun value => ?_
    split
    · exact .pure rfl
    · exact .get_bind fun _ _ _ _ => .pure rfl
  | sameKey left right =>
    exact (balanced_hostValue left).bind fun _ => (balanced_hostValue right).bind fun _ => .pure rfl

omit balanced in
theorem balanced_argument (argument : Option HostLiteral) :
    Act.Balanced .lasting borrowed 0 (argument.mapM hostValue) fun _ => 0 := by
  cases argument with
  | none => exact .pure rfl
  | some literal =>
    have found : Act.Balanced .lasting borrowed 0 (some <$> hostValue literal) fun _ => 0 := by
      rw [map_eq_pure_bind]
      exact (balanced_hostValue literal).bind fun _ => .pure rfl
    exact found

theorem balanced_performSession (command : Command) (session : Session) (action : SessionAction) :
    Act.Balanced .lasting borrowed 0 (performSession engine command session action) fun _ => 0 := by
  cases action with
  | close => exact ((Bridge.balanced_close session).adapt _).bind fun _ => .pure rfl
  | isOpen => exact .get_bind fun _ _ _ _ => .pure rfl
  | sameAs register => exact (balanced_sessionIn register).bind fun _ => .pure rfl
  | space => exact balanced_answerStored command _ rfl
  | config => exact .pure rfl
  | describe => exact .get_bind fun _ _ _ _ => .pure rfl
  | isTracing => exact .pure rfl
  | proxyClass => exact balanced_answerFamily command _
  | module =>
    exact ((Bridge.balanced_moduleOf session).adapt _).bind fun ref => balanced_answerGuest command ref
  | binding => exact .get_bind fun _ _ _ _ => .pure rfl
  | registryCall name arguments =>
    refine balanced_withGuests arguments fun arguments => ?_
    refine ((Engine.balanced_registryCall balanced session name ?_).adapt _).bind fun ref =>
      balanced_answerGuest command ref
    exact fun ref member => List.mem_append_left _ member
  | toGuest value =>
    refine (balanced_hostValue value).bind fun value => ?_
    exact ((Bridge.balanced_toGuestAt session 0 value borrowed).adapt _).bind fun ref =>
      balanced_answerGuest command ref
  | toHost value =>
    exact balanced_withGuest value fun value => ((Bridge.balanced_toHost session value).adapt _).bind
      fun value => balanced_answerHost command value
  | toHostOrProxy value =>
    refine balanced_withGuest value fun value => ?_
    exact ((Engine.balanced_toHostOrProxy balanced session (by simp)).adapt _).bind fun value =>
      balanced_answerHost command value
  | makeProxy value =>
    refine balanced_withGuest value fun value => ?_
    exact ((Engine.balanced_makeProxy balanced session (by simp)).adapt _).bind fun value =>
      balanced_answerHost command value
  | roundTrip value =>
    refine (balanced_hostValue value).bind fun value => ?_
    refine ((Bridge.balanced_toGuestAt session 0 value borrowed).adapt _).bind fun converted => ?_
    refine Balanced.lending ?_ rfl
    exact ((Bridge.balanced_toHost session converted).adapt _).bind fun _ => .pure rfl
  | call name argument =>
    refine (balanced_argument argument).bind fun argument => ?_
    exact ((Engine.balanced_callFunction balanced session name argument).adapt _).bind fun value =>
      balanced_answerOptional command value
  | callMethod proxy name arguments =>
    refine (balanced_hostValue proxy).bind fun proxy => (balanced_hostValues arguments).bind fun arguments => ?_
    exact ((Engine.balanced_callProxy balanced session proxy name arguments).adapt _).bind fun value =>
      balanced_answerHost command value
  | text proxy =>
    refine (balanced_hostValue proxy).bind fun proxy => ?_
    exact ((Engine.balanced_proxyText balanced session proxy).adapt _).bind fun _ => .pure rfl
  | defineClass origin className base methods =>
    refine (balanced_hostValue origin).bind fun origin => ?_
    exact ((Engine.balanced_defineClass balanced session origin className base methods).adapt _).bind
      fun _ => .pure rfl

theorem balanced_performProcess (command : Command) (host : Host.HostId) (action : ProcessAction) :
    Act.BalancedOn host borrowed 0 (performProcess engine command host action) fun _ => 0 := by
  cases action with
  | start config =>
    refine ((Engine.balanced_initializeProcess balanced host config).adapt _).bind fun _ => Balanced.on ?_
    exact .pure rfl
  | finalize =>
    refine Balanced.on ?_
    exact (Bridge.balanced_finalizeProcess.adapt _).bind fun _ => .pure rfl
  | current =>
    have held (session : Session) : Act.Balanced .lasting borrowed 0 (do
        change (·.holdSession session)
        return session : BridgeAct Session) fun _ => 0 :=
      fun _ _ _ _ => (World.leads_holdSession session).passes (.of_spaces rfl)
    refine Balanced.on ?_
    exact ((Bridge.balanced_withCurrent held).adapt _).bind fun _ => balanced_answerStored command _ rfl
  | call name argument =>
    refine Balanced.on ?_
    refine (balanced_argument argument).bind fun argument => ?_
    exact ((Engine.balanced_processCall balanced name argument).adapt _).bind fun value =>
      balanced_answerOptional command value
  | callMethod proxy name arguments =>
    refine Balanced.on ?_
    refine (balanced_hostValue proxy).bind fun proxy => (balanced_hostValues arguments).bind fun arguments => ?_
    exact ((Engine.balanced_processMethod balanced proxy name arguments).adapt _).bind fun value =>
      balanced_answerHost command value
  | text proxy =>
    refine Balanced.on ?_
    refine (balanced_hostValue proxy).bind fun proxy => ?_
    exact ((Engine.balanced_processText balanced proxy).adapt _).bind fun _ => .pure rfl
  | defineClass origin className base methods =>
    refine Balanced.on ?_
    refine (balanced_hostValue origin).bind fun origin => (balanced_hostValue methods).bind fun methods => ?_
    exact ((Engine.balanced_processDefine balanced origin className base methods).adapt _).bind
      fun _ => .pure rfl

omit balanced in
theorem balanced_takeRegister (name : String) :
    Act.Balanced .lasting borrowed 0 (takeRegister name)
      fun found => ((found.bind Register.ref?).toList : Multiset Ref) := by
  refine .get_bind fun world frame exact lent => ?_
  have taken : Settles .lasting world 0
      (change fun world => { world with registers := world.registers.erase name } : Performance Unit)
      fun _ => (((world.registers.get? name).bind Register.ref?).toList : Multiset Ref) := by
    rw [← add_zero (Multiset.ofList _)]
    exact (World.leads_eraseRegister name).passes (.of_spaces rfl)
  exact taken.bind fun _ _ => .pure rfl

omit balanced in
theorem balanced_interpreter (name : String) :
    Act.Balanced .lasting borrowed 0 (step (·.interpreter name) : Performance Host.HostId) fun _ => 0 := by
  refine .step fun world => ?_
  have keeps : (world.interpreter name).2.spaces = world.spaces ∧
      (world.interpreter name).2.outside = world.outside := by
    unfold World.interpreter
    split <;> exact ⟨rfl, rfl⟩
  exact ⟨keeps.1, keeps.2, world.steady_interpreter name⟩

omit balanced in
theorem balanced_interpreter_bind {α : Type} (name : String) {next : Host.HostId → Performance α}
    {answer : α → Multiset Ref} (rest : ∀ host, Act.BalancedOn host borrowed 0 (next host) answer) :
    Act.Balanced .lasting borrowed 0 (step (·.interpreter name) >>= next) answer := by
  intro world frame exact lent
  have started : Settles .lasting world 0 (step (·.interpreter name) : Performance Host.HostId) fun _ => 0 :=
    balanced_interpreter name world frame exact lent
  refine started.bind fun host ran => ?_
  obtain rfl : (world.interpreter name).1 = host := by simpa [run_step] using ran
  exact rest _ _ frame (started.exact exact) lent (exact.prepared.interpreter_known name)

omit balanced in
theorem balanced_dropRegister (register : Register) :
    Act.Balanced .lasting borrowed (register.ref?.toList : Multiset Ref)
      (change (·.dropRegister register) : Performance Unit) fun _ => 0 := by
  intro world frame exact _
  rw [← add_zero (Multiset.ofList _)] at exact ⊢
  exact (World.leads_dropRegister exact).passes (world.onlyLoses_dropRegister register)

omit balanced in
theorem balanced_forgetRegister (register : Register) :
    Act.Balanced .lasting borrowed (register.ref?.toList : Multiset Ref)
      (change (·.forgetRegister register) : Performance Unit) fun _ => 0 := by
  intro world frame exact _
  rw [← add_zero (Multiset.ofList _)]
  exact World.leads_forgetRegister.passes (world.onlyLoses_forgetRegister register)

theorem balanced_performAction (command : Command) :
    Act.Balanced .lasting borrowed 0 (performAction engine command) fun _ => 0 := by
  unfold performAction
  split
  · exact (balanced_valueIn _).bind fun ref => balanced_performValue command _ ref
  · exact balanced_performGuest balanced command _
  · exact (balanced_interpreter _).bind fun host => balanced_performHost balanced command host _
  · refine balanced_interpreter_bind _ fun host => ?_
    exact ((Engine.balanced_openSession balanced host _).adapt _).bind fun _ =>
      (balanced_answerStored command _ rfl).on
  · refine (balanced_sessionIn _).bind fun session => ?_
    exact Balanced.holding session (balanced_performSession balanced command session _)
  · exact balanced_interpreter_bind _ fun host => balanced_performProcess balanced command host _
  · refine Balanced.bind (?_ : Act.Balanced _ _ _ _ fun _ => 0) fun _ => .pure rfl
    exact .change fun _ => ⟨rfl, rfl, .of_same rfl rfl rfl⟩
  · exact .get_bind fun _ _ _ _ => .pure rfl
  · rename_i name _
    refine .get_bind fun world frame exact lent => ?_
    have removed : Act.Balanced .lasting borrowed 0
        (change fun world => { world with catalogue := world.catalogue.erase name } : Performance Unit)
        fun _ => 0 :=
      .change fun _ => ⟨rfl, rfl, .of_same rfl rfl rfl⟩
    exact Settles.bind (removed world frame exact lent) fun _ _ => .pure rfl
  · exact .pure rfl
  · refine (balanced_takeRegister _).bind fun found => ?_
    cases found with
    | none => exact .pure rfl
    | some register => exact (balanced_dropRegister register).bind fun _ => .pure rfl
  · refine (balanced_takeRegister _).bind fun found => ?_
    cases found with
    | none => exact .pure rfl
    | some register => exact (balanced_forgetRegister register).bind fun _ => .pure rfl
  · refine .get_bind fun world frame exact lent => ?_
    split
    · rename_i name _ _ register found
      have held : Settles .lasting world 0 (change (·.holdRegister register) : Performance Unit)
          fun _ => (register.ref?.toList : Multiset Ref) + 0 :=
        (World.leads_holdRegister exact found).passes (world.onlyLoses_holdRegister register)
      refine held.bind fun _ _ => ?_
      have stored : Act.Balanced .lasting borrowed ((register.ref?.toList : Multiset Ref) + 0)
          (answerStored command name register) fun _ => 0 :=
        Balanced.bind ((balanced_storeOwned _ register).congr (add_zero _) fun _ => rfl) fun _ => .pure rfl
      exact stored _ frame (held.exact exact) lent
    · exact .throw _

theorem passes_perform (command : Command) {world : World} (exact : world.Exact 0) :
    World.Passing.Passes .lasting (world, 0) ((perform engine command world).2, 0) := by
  have cleared : World.Leads .lasting (world, 0) ({ world with log := #[], trace := #[] }, 0) :=
    World.leads_move rfl rfl (.of_same rfl rfl rfl)
  have ready : World.Exact { world with log := #[], trace := #[] } (0 + 0) := cleared.exact exact
  have performed : Settles .lasting { world with log := #[], trace := #[] } 0
      (performAction engine command) fun _ => 0 :=
    (balanced_performAction balanced command : Act.Balanced .lasting [] 0 _ _).settles ready
  rw [Settles, left_zero] at performed
  exact World.Passing.trans (cleared.passes (.of_spaces rfl)) performed

end Perform

def after (engine : Engine) (commands : List Command) (world : World) : World :=
  commands.foldl (fun world command => (perform engine command world).2) world

theorem passes_after [World.Passing] {engine : Engine} (balanced : engine.Balanced) (commands : List Command)
    {world : World} (exact : world.Exact 0) :
    World.Passing.Passes .lasting (world, 0) (after engine commands world, 0) := by
  induction commands generalizing world with
  | nil => exact World.passes_refl world 0
  | cons command rest ih =>
    have first := passes_perform balanced command exact
    exact World.Passing.trans first (ih ((World.Passing.leads first).exact_alone exact))

theorem leads_after {engine : Engine} (balanced : engine.Balanced) (commands : List Command) {world : World}
    (exact : world.Exact 0) : World.Leads .lasting (world, 0) (after engine commands world, 0) :=
  passes_after balanced commands exact

theorem exact_after (depth : Nat) (commands : List Command) :
    (after (.ofDepth depth) commands .empty).Exact 0 := by
  have leads : World.Leads .lasting (.empty, 0) (after (.ofDepth depth) commands .empty, 0) :=
    leads_after (Engine.balanced_ofDepth depth) commands World.exact_empty
  exact leads.exact_alone World.exact_empty

theorem typed_after (depth : Nat) (commands : List Command) (id : SpaceId) :
    ((after (.ofDepth depth) commands .empty).space id).Typed := by
  have leads : World.Leads .lasting (.empty, 0) (after (.ofDepth depth) commands .empty, 0) :=
    leads_after (Engine.balanced_ofDepth depth) commands World.exact_empty
  refine leads.typed fun roots started => ?_
  rw [World.space_of_unknown (by simp [World.empty])] at started
  simp [default] at started

/-! ### A session that was just opened -/

def opening (register : String) : Command :=
  { action := .openSession { moduleName := "m", debug := false, proxyClass := "Proxy" }, place := none, host := ""
    result := some register, keyed := false }

def opened : World :=
  after (.ofDepth 1) [opening "s"] .empty

def openedState : SessionState :=
  (opened.session? { index := 0 }).get (by decide +kernel)

def openedModule : Ref :=
  (opened.sessionModule? openedState.session).get (by decide +kernel)

end ObjectBridge.Console

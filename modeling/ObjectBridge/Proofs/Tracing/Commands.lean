import ObjectBridge.Proofs.Tracing.Machine
import ObjectBridge.Proofs.World.Commands

/-!
Commands in twin worlds. What is done in a session or with a Host interpreter comes to the same, however sessions are
configured to trace, as long as nobody asks for the globals of tracing.
-/

namespace ObjectBridge

open Guest (Handle)

namespace Console

open Act Script

def SessionAction.asks : SessionAction → Bool
  | .registryCall name _ | .call name _ => name ∈ Registry.tracingGlobals
  | .callMethod _ name _ => Bridge.asksMessage name
  | _ => false

def SessionAction.tells : SessionAction → Bool
  | .config | .isTracing => true
  | _ => false

/-- The command works in a session or with a Host interpreter, or passes on or lets go of what a register holds, and
asks for none of the globals of tracing. -/
def Command.apart (command : Command) : Bool :=
  match command.action with
  | .session action => !action.asks
  | .host _ | .drop _ | .copy _ => true
  | _ => false

def Command.tells (command : Command) : Bool :=
  match command.action with
  | .session action => action.tells
  | _ => false

section Snapshots

variable {switch : Guest.Switch Code} {first second : Space} {apart : List Handle}
  (near : first.Near switch apart second)
include near

theorem ofHandleWithin_alike (levels : Nat) (handle : Handle) :
    GuestSnapshot.ofHandleWithin second levels handle = GuestSnapshot.ofHandleWithin first levels handle := by
  induction levels generalizing handle with
  | zero => rfl
  | succ levels ih =>
    have inner : GuestSnapshot.ofHandleWithin second levels = GuestSnapshot.ofHandleWithin first levels := funext ih
    have shown : second.repr handle = first.repr handle := by
      simp only [Guest.Space.repr, near.format, near.depthBound]
    unfold GuestSnapshot.ofHandleWithin
    rw [inner, shown]
    rcases near.get?_cases handle with same | ⟨_, _, _, _, _, _, here, there⟩
    · rw [same]
    · rw [here, there]
      rfl

end Snapshots

section Alike

variable {flag : Flag} {first second : World} (alike : first.Alike flag second)
include alike

theorem ofRef_alike (ref : Ref) : GuestSnapshot.ofRef second ref = GuestSnapshot.ofRef first ref :=
  ofHandleWithin_alike (alike.spaces ref.space).toNear shownLevels ref.handle

theorem active_alike (id : SessionId) :
    (second.session? id).bind (·.active) = (first.session? id).bind (·.active) := by
  have bound (world : World) : (world.plain.session? id).bind (·.active) = (world.session? id).bind (·.active) := by
    rw [World.session?_plain]
    cases world.session? id <;> rfl
  rw [← bound, alike.plain, bound]

theorem describeSession_alike (session : Session) (debug : Bool) :
    describeSession second (session.debugging debug) = describeSession first session := by
  have module : second.sessionModule? (session.debugging debug) = first.sessionModule? session :=
    alike.sessionModule? session
  simp only [describeSession, module, Session.debugging_id, active_alike alike]
  rfl

end Alike

section Parts

variable {α : Type} {flag : Flag} {borrowed : List Ref} {space : SpaceId}

theorem agrees_familyIn (name : String) : Act.Agrees flag borrowed 0 (familyIn name) (familyIn name) fun _ => 0 := by
  refine .get_bind fun world world' frame twins lent => ?_
  rw [zero_add] at twins
  rcases twins.alike.register_cases name with same | ⟨session, debug, found, found'⟩
  · rw [same]
    split
    · exact .pure (by rwa [zero_add])
    · exact .throw _ twins
  · rw [found, found']
    exact .throw _ twins

theorem agrees_sessionIn (name : String) {next next' : Session → Performance α}
    (agrees : ∀ session debug, Act.Agrees flag borrowed 0 (next session) (next' (session.debugging debug)) fun _ => 0) :
    Act.Agrees flag borrowed 0 (sessionIn name >>= next) (sessionIn name >>= next') fun _ => 0 := by
  unfold sessionIn
  rw [bind_assoc, bind_assoc]
  refine .get_bind fun world world' frame twins lent => ?_
  rcases twins.alike.registerSession_cases name with ⟨none, none'⟩ | ⟨session, debug, some, some'⟩
  · rw [none, none']
    exact Agrees.throw_bind _ _ _ world world' frame twins lent
  · rw [some, some']
    exact agrees session debug world world' frame twins lent

theorem agrees_withGuest (literal : GuestLiteral) {act act' : Ref → Performance α}
    (agrees : ∀ ref, Act.Agrees flag ([ref] ++ borrowed) 0 (act ref) (act' ref) fun _ => 0) :
    Act.Agrees flag borrowed 0 (withGuest space literal act) (withGuest space literal act') fun _ => 0 :=
  ((agrees_makeGuest literal borrowed).adapt _).bind fun ref => (agrees ref).lending rfl

theorem agrees_withGuests (literals : List GuestLiteral) {act act' : List Ref → Performance α}
    (agrees : ∀ refs, Act.Agrees flag (refs ++ borrowed) 0 (act refs) (act' refs) fun _ => 0) :
    Act.Agrees flag borrowed 0 (withGuests space literals act) (withGuests space literals act') fun _ => 0 :=
  ((agrees_makeGuests #[] literals borrowed).adapt _).bind fun refs => (agrees refs).lending rfl

theorem agrees_hostValue (literal : HostLiteral) :
    Act.Agrees flag borrowed 0 (hostValue literal) (hostValue literal) fun _ => 0 := by
  refine .get_bind fun world world' frame twins lent => ?_
  rw [makeHost_alike twins.alike]
  exact (Agrees.lift (makeHost world literal)).adapt _ world world' frame twins lent

theorem agrees_hostValues (literals : List HostLiteral) :
    Act.Agrees flag borrowed 0 (hostValues literals) (hostValues literals) fun _ => 0 := by
  refine .get_bind fun world world' frame twins lent => ?_
  rw [makeHosts_alike twins.alike]
  exact (Agrees.lift (makeHosts world literals)).adapt _ world world' frame twins lent

theorem agrees_storeOwned (name : String) (register register' : Register) (same : register'.plain = register.plain) :
    Act.Agrees flag borrowed (register.ref?.toList : Multiset Ref) (change (·.store name register) : Performance Unit)
      (change (·.store name register')) fun _ => 0 :=
  (Script.agrees_store name register register' same 0).congr (add_zero _).symm fun _ => rfl

theorem agrees_answerGuest (command : Command) (ref : Ref) :
    Act.Agrees flag borrowed {ref} (answerGuest command ref) (answerGuest command ref) fun _ => 0 := by
  refine .get_bind fun world world' frame twins lent => ?_
  rw [ofRef_alike twins.alike]
  extract_lets shown show_
  clear_value shown
  have shows : Act.Agrees flag borrowed 0 (show_ ()) (show_ ()) fun _ => 0 := by
    unfold show_
    split <;> exact .pure rfl
  suffices given : Act.Agrees flag borrowed {ref} _ _ fun _ => 0 from given world world' frame twins lent
  split
  · exact (agrees_storeOwned _ (.value ref) _ rfl).bind fun _ => shows
  · exact (Agrees.release ref).bind fun _ => shows

theorem agrees_answerHost (command : Command) (value : HostValue) :
    Act.Agrees flag borrowed 0 (answerHost command value) (answerHost command value) fun _ => 0 := by
  unfold answerHost
  extract_lets show_
  have shows : Act.Agrees flag borrowed 0 (show_ ()) (show_ ()) fun _ => 0 := by
    unfold show_
    split <;> exact .pure rfl
  split
  · exact (agrees_storeOwned _ (.host value) _ rfl).bind fun _ => shows
  · exact shows

theorem agrees_answerFamily (command : Command) (family : HostClass) :
    Act.Agrees flag borrowed 0 (answerFamily command family) (answerFamily command family) fun _ => 0 := by
  unfold answerFamily
  split
  · exact (agrees_storeOwned _ (.family family) _ rfl).bind fun _ => .pure rfl
  · exact .pure rfl

theorem agrees_answerStored (command : Command) (usual : String) (register register' : Register)
    (same : register'.plain = register.plain) :
    Act.Agrees flag borrowed (register.ref?.toList : Multiset Ref) (answerStored command usual register)
      (answerStored command usual register') fun _ => 0 :=
  (agrees_storeOwned _ _ _ same).bind fun _ => .pure rfl

theorem agrees_answerOptional (command : Command) (value : Option HostValue) :
    Act.Agrees flag borrowed 0 (answerOptional command value) (answerOptional command value) fun _ => 0 := by
  cases value with
  | none => exact .pure rfl
  | some value => exact agrees_answerHost command value

theorem agrees_argument (argument : Option HostLiteral) :
    Act.Agrees flag borrowed 0 (argument.mapM hostValue) (argument.mapM hostValue) fun _ => 0 := by
  cases argument with
  | none => exact .pure rfl
  | some literal =>
    have found : Act.Agrees flag borrowed 0 (some <$> hostValue literal) (some <$> hostValue literal) fun _ => 0 := by
      rw [map_eq_pure_bind]
      exact (agrees_hostValue literal).bind fun _ => .pure rfl
    exact found

theorem agrees_interpreter (name : String) :
    Act.Agrees flag borrowed 0 (step (·.interpreter name) : Performance Host.HostId) (step (·.interpreter name))
      fun _ => 0 := by
  refine .step (fun world => ?_) fun world => ?_
  · have keeps : (world.interpreter name).2.spaces = world.spaces ∧
        (world.interpreter name).2.outside = world.outside := by
      unfold World.interpreter
      split <;> exact ⟨rfl, rfl⟩
    exact ⟨keeps.1, keeps.2, world.steady_interpreter name⟩
  · have interpreters : world.plain.interpreters = world.interpreters := rfl
    unfold World.interpreter
    rw [interpreters]
    cases world.interpreters.get? name <;> rfl

end Parts

section Perform

variable {flag : Flag} {engine : Engine} (agrees : engine.Agrees flag) {borrowed : List Ref} (command : Command)
include agrees

theorem agrees_performHost (host : Host.HostId) (action : HostAction) :
    Act.Agrees flag borrowed 0 (performHost engine command host action) (performHost engine command host action)
      fun _ => 0 := by
  have interpreter {world world' : World} (alike : world.Alike flag world') : world'.host host = world.host host :=
    alike.host host
  cases action with
  | defineClass name superclass methods register =>
    have defines (parent : Option HostClass) (methods : List (String × Method)) : Act.Agrees flag borrowed 0 (do
        let family ← step (·.buildClass name parent methods)
        if register then change fun world => world.setHost host ((world.host host).register family)
        answerFamily command family) (do
        let family ← step (·.buildClass name parent methods)
        if register then change fun world => world.setHost host ((world.host host).register family)
        answerFamily command family) fun _ => 0 := by
      refine Agrees.bind (?_ : Act.Agrees _ _ _ _ _ fun _ => 0) fun family => ?_
      · exact .step (fun _ => ⟨rfl, rfl, .of_same rfl rfl rfl⟩) fun _ => rfl
      · have shows : Act.Agrees flag borrowed 0 (answerFamily command family)
            (answerFamily command family) fun _ => 0 :=
          agrees_answerFamily command family
        split
        · refine Agrees.bind (?_ : Act.Agrees _ _ _ _ _ fun _ => 0) fun _ => shows
          exact .change (fun world => ⟨rfl, rfl, world.steady_register host family⟩) fun _ => rfl
        · exact shows
    unfold performHost
    cases superclass with
    | none => exact defines none _
    | some parent =>
      have named : Act.Agrees flag borrowed 0 (some <$> familyIn parent) (some <$> familyIn parent) fun _ => 0 := by
        rw [map_eq_pure_bind]
        exact (agrees_familyIn parent).bind fun _ => .pure rfl
      exact named.bind fun parent => defines parent _
  | findClass name =>
    refine .look (fun _ _ alike => by rw [interpreter alike]) fun world => ?_
    split
    · exact agrees_answerFamily command _
    · exact .pure rfl
  | objectClass => exact .look (fun _ _ alike => by rw [interpreter alike]) fun _ => agrees_answerFamily command _
  | classCount => exact .look (fun _ _ alike => by rw [interpreter alike]) fun _ => .pure rfl
  | sameClass left right =>
    exact (agrees_familyIn left).bind fun _ => (agrees_familyIn right).bind fun _ => .pure rfl
  | isSubclass left right =>
    exact (agrees_familyIn left).bind fun _ => (agrees_familyIn right).bind fun _ => .pure rfl
  | methodNames family => exact (agrees_familyIn family).bind fun _ => .pure rfl
  | understands family message => exact (agrees_familyIn family).bind fun _ => .pure rfl
  | describeClass family => exact (agrees_familyIn family).bind fun _ => .pure rfl
  | newObject family payload =>
    refine (agrees_familyIn family).bind fun family => ?_
    refine Agrees.bind (?_ : Act.Agrees _ _ _ _ _ fun _ => 0) fun value => agrees_answerHost command value
    exact .step (fun world => ⟨rfl, rfl, world.steady_newObject host family _⟩) fun _ => rfl
  | payload value => exact (agrees_hostValue value).bind fun _ => .pure rfl
  | value literal => exact (agrees_hostValue literal).bind fun value => agrees_answerHost command value
  | shape value =>
    exact (agrees_hostValue value).bind fun value => .look
      (fun _ _ alike => by rw [interpreter alike]) fun _ => .pure rfl
  | send receiver message arguments =>
    refine (agrees_hostValue receiver).bind fun receiver => ?_
    refine (agrees_hostValues arguments).bind fun arguments => ?_
    exact ((agrees.send host receiver message arguments).adapt _).bind fun value => agrees_answerHost command value
  | length value =>
    exact (agrees_hostValue value).bind fun _ => ((Agrees.lift _).adapt _).bind fun _ => .pure rfl
  | itemAt value index =>
    exact (agrees_hostValue value).bind fun _ => ((Agrees.lift _).adapt _).bind fun value =>
      agrees_answerHost command value
  | isInstance value family =>
    exact (agrees_hostValue value).bind fun value => .look (fun _ _ alike => by rw [interpreter alike]) fun _ =>
      (agrees_familyIn family).bind fun _ => .pure rfl
  | isInstanceOfNamed value name =>
    exact (agrees_hostValue value).bind fun _ => .look (fun _ _ alike => by rw [interpreter alike]) fun _ => .pure rfl
  | same left right =>
    exact (agrees_hostValue left).bind fun _ => (agrees_hostValue right).bind fun _ => .pure rfl
  | describeValue value => exact (agrees_hostValue value).bind fun _ => .pure rfl
  | describeObject value => exact (agrees_hostValue value).bind fun _ => .pure rfl
  | proxyKey value register =>
    refine (agrees_hostValue value).bind fun value => ?_
    split
    · exact .pure rfl
    · rename_i reference _
      refine .get_bind fun world world' frame twins lent => ?_
      have named : world'.registerValue? = world.registerValue? := funext twins.alike.registerValue?
      have alive : (world'.aliveSession? reference.session).isSome =
          (world.aliveSession? reference.session).isSome := by
        rw [← Option.isSome_map (f := Session.plain), twins.alike.aliveSession?, Option.isSome_map]
      simp only [named, alive]
      exact .pure twins
  | sameKey left right =>
    exact (agrees_hostValue left).bind fun _ => (agrees_hostValue right).bind fun _ => .pure rfl

theorem agrees_performSession (session : Session) (debug : Bool) (action : SessionAction) (apart : action.asks = false)
    (silent : action.tells = false) :
    Act.Agrees flag borrowed 0 (performSession engine command session action)
      (performSession engine command (session.debugging debug) action) fun _ => 0 := by
  cases action with
  | close => exact ((Bridge.agrees_close session debug).adapt _).bind fun _ => .pure rfl
  | isOpen =>
    refine .get_bind fun world world' frame twins lent => ?_
    have same : world'.sessionModule? (session.debugging debug) = world.sessionModule? session :=
      twins.alike.sessionModule? session
    rw [same]
    exact .pure twins
  | sameAs register => exact agrees_sessionIn register fun _ _ => .pure rfl
  | space => exact agrees_answerStored command _ (.space session.space) _ rfl
  | config => cases silent
  | describe =>
    refine .get_bind fun world world' frame twins lent => ?_
    rw [describeSession_alike twins.alike]
    exact .pure twins
  | isTracing => cases silent
  | proxyClass => exact agrees_answerFamily command _
  | module =>
    exact ((Bridge.agrees_moduleOf session debug).adapt _).bind fun ref => agrees_answerGuest command ref
  | binding => exact .look (fun _ _ alike => by rw [active_alike alike]) fun _ => .pure rfl
  | registryCall name arguments =>
    have other : name ≠ Registry.debugGlobal := by
      rintro rfl
      cases apart
    refine agrees_withGuests arguments fun arguments => ?_
    refine ((Engine.agrees_registryCall agrees session debug other ?_).adapt _).bind fun ref =>
      agrees_answerGuest command ref
    exact fun ref member => List.mem_append_left _ member
  | toGuest value =>
    refine (agrees_hostValue value).bind fun value => ?_
    exact ((Bridge.agrees_toGuestAt session debug 0 value borrowed).adapt _).bind fun ref =>
      agrees_answerGuest command ref
  | toHost value =>
    exact agrees_withGuest value fun value => ((Bridge.agrees_toHost session debug value).adapt _).bind
      fun value => agrees_answerHost command value
  | toHostOrProxy value =>
    refine agrees_withGuest value fun value => ?_
    exact ((Engine.agrees_toHostOrProxy agrees session debug (by simp)).adapt _).bind fun value =>
      agrees_answerHost command value
  | makeProxy value =>
    refine agrees_withGuest value fun value => ?_
    exact ((Engine.agrees_makeProxy agrees session debug (by simp)).adapt _).bind fun value =>
      agrees_answerHost command value
  | roundTrip value =>
    refine (agrees_hostValue value).bind fun value => ?_
    refine ((Bridge.agrees_toGuestAt session debug 0 value borrowed).adapt _).bind fun converted => ?_
    refine Agrees.lending ?_ rfl
    exact ((Bridge.agrees_toHost session debug converted).adapt _).bind fun _ => .pure rfl
  | call name argument =>
    have apart : name ∉ Registry.tracingGlobals := by simpa [SessionAction.asks] using apart
    refine (agrees_argument argument).bind fun argument => ?_
    exact ((Engine.agrees_callFunction agrees session debug apart argument).adapt _).bind fun value =>
      agrees_answerOptional command value
  | callMethod proxy name arguments =>
    refine (agrees_hostValue proxy).bind fun proxy => (agrees_hostValues arguments).bind fun arguments => ?_
    exact ((Engine.agrees_callProxy agrees session debug proxy apart arguments).adapt _).bind fun value =>
      agrees_answerHost command value
  | text proxy =>
    refine (agrees_hostValue proxy).bind fun proxy => ?_
    exact ((Engine.agrees_proxyText agrees session debug proxy).adapt _).bind fun _ => .pure rfl
  | defineClass origin className base methods =>
    refine (agrees_hostValue origin).bind fun origin => ?_
    exact ((Engine.agrees_defineClass agrees session debug origin className base methods).adapt _).bind
      fun _ => .pure rfl

omit agrees in
theorem agrees_drop (name : String) :
    Act.Agrees flag borrowed 0 (do
      match ← takeRegister name with
      | some register =>
        change (·.dropRegister register)
        return .flag true
      | none => return .flag false : Performance Answer) (do
      match ← takeRegister name with
      | some register =>
        change (·.dropRegister register)
        return .flag true
      | none => return .flag false) fun _ => 0 := by
  unfold takeRegister
  rw [bind_assoc]
  refine .get_bind fun world world' frame twins lent => ?_
  rw [zero_add] at twins
  have earlier := twins.alike.register name
  simp only [bind_assoc, pure_bind]
  have taken : Meets flag frame world world'
      (change fun world => { world with registers := world.registers.erase name } : Performance Unit)
      (change fun world => { world with registers := world.registers.erase name })
      fun _ => (((world.registers.get? name).bind Register.ref?).toList : Multiset Ref) :=
        .change (twins.eraseRegister name)
  refine taken.bind fun _ after after' _ _ twins => ?_
  rcases found : world.registers.get? name with _ | register <;>
    rcases found' : world'.registers.get? name with _ | register' <;> rw [found, found'] at earlier
  · exact .pure (by simpa [found] using twins)
  · cases earlier
  · cases earlier
  · have dropped : Meets flag frame after after' (change (·.dropRegister register) : Performance Unit)
        (change (·.dropRegister register')) fun _ => 0 := by
      rw [found] at twins
      exact .change (by rw [zero_add]; exact twins.dropRegister (Option.some.inj earlier))
    exact dropped.bind fun _ _ _ _ _ twins => .pure twins

omit agrees in
theorem agrees_copy (name : String) :
    Act.Agrees flag borrowed 0 (do
      match (← get).registers.get? name with
      | some register =>
        change (·.holdRegister register)
        answerStored command name register
      | none => throw (.register name)) (do
      match (← get).registers.get? name with
      | some register =>
        change (·.holdRegister register)
        answerStored command name register
      | none => throw (.register name)) fun _ => 0 := by
  refine .get_bind fun world world' frame twins lent => ?_
  rw [zero_add] at twins
  have earlier := twins.alike.register name
  rcases found : world.registers.get? name with _ | register <;>
    rcases found' : world'.registers.get? name with _ | register' <;> rw [found, found'] at earlier
  · exact .throw _ twins
  · cases earlier
  · cases earlier
  · have same := Option.some.inj earlier
    have held : Meets flag frame world world' (change (·.holdRegister register) : Performance Unit)
        (change (·.holdRegister register')) fun _ => (register.ref?.toList : Multiset Ref) :=
      .change (twins.holdRegister same found)
    exact held.bind fun _ after after' _ _ twins =>
      agrees_answerStored command name _ _ same after after' frame twins lent

theorem agrees_performAction (apart : command.apart = true) (silent : command.tells = false) :
    Act.Agrees flag borrowed 0 (performAction engine command) (performAction engine command) fun _ => 0 := by
  unfold Command.apart at apart
  unfold Command.tells at silent
  unfold performAction
  cases acts : command.action with
  | host action => exact (agrees_interpreter _).bind fun host => agrees_performHost agrees command host action
  | session action =>
    rw [acts] at apart silent
    refine agrees_sessionIn _ fun session debug => Agrees.holding rfl ?_
    exact agrees_performSession agrees command session debug action (by simpa using apart) silent
  | drop name => exact agrees_drop name
  | copy name => exact agrees_copy command name
  | _ =>
    rw [acts] at apart
    cases apart

end Perform

end Console

end ObjectBridge

import ObjectBridge.Proofs.Tracing.Sessions

/-!
Scripts in twin worlds. A script that does not ask for the globals of tracing comes to the same, one case for each
form of body.
-/

namespace ObjectBridge

open Guest (Handle)

namespace World.Alike

variable {flag : Flag} {first second : World} (alike : first.Alike flag second)
include alike

theorem registerValue? (name : String) : second.registerValue? name = first.registerValue? name := by
  unfold World.registerValue?
  rcases alike.register_cases name with same | ⟨session, debug, found, found'⟩
  · rw [same]
  · rw [found, found']

theorem registerHost? (name : String) : second.registerHost? name = first.registerHost? name := by
  unfold World.registerHost?
  rcases alike.register_cases name with same | ⟨session, debug, found, found'⟩
  · rw [same]
  · rw [found, found']

theorem registerHandle? (name : String) : second.registerHandle? name = first.registerHandle? name := by
  unfold World.registerHandle?
  rcases alike.register_cases name with same | ⟨session, debug, found, found'⟩
  · rw [same]
  · rw [found, found']

theorem registerSession_cases (name : String) :
    (first.registerSession? name = none ∧ second.registerSession? name = none) ∨
      ∃ session debug, first.registerSession? name = some session ∧
        second.registerSession? name = some (session.debugging debug) := by
  unfold World.registerSession?
  rcases alike.register_cases name with same | ⟨session, debug, found, found'⟩
  · rw [same]
    split
    · rename_i session _
      exact Or.inr ⟨session, session.config.debug, rfl, rfl⟩
    · exact Or.inl ⟨rfl, rfl⟩
  · rw [found, found']
    exact Or.inr ⟨session, debug, rfl, rfl⟩

end World.Alike

namespace Script

open Act
open Registry (ne_debugGlobal ne_debugOn agrees_newText agrees_noneValue)

variable {flag : Flag} {space : SpaceId}

section Literals

variable {borrowed : List Ref}

theorem agrees_newTuple (handles : List Handle) :
    Act.Agrees flag borrowed 0 (ownedBy space (Guest.Space.newTuple handles))
      (ownedBy space (Guest.Space.newTuple handles)) ({·}) :=
  .ownedBy (Guest.Space.balanced_newTuple .lasting handles) (Guest.Space.follows_newTuple handles).agrees

theorem agrees_boolValue (value : Bool) :
    Act.Agrees flag borrowed 0 (ownedBy space (Guest.Space.boolValue value))
      (ownedBy space (Guest.Space.boolValue value))
      ({·}) :=
  .ownedBy (Guest.Space.balanced_boolValue .lasting value) (Guest.Space.follows_boolValue value).agrees

theorem agrees_wrap (levels : Nat) (value : Ref) :
    Act.Agrees flag borrowed {value} (wrap space levels value) (wrap space levels value) ({·}) := by
  induction levels generalizing value with
  | zero => exact .pure rfl
  | succ levels ih =>
    refine Agrees.bind (?_ : Act.Agrees _ _ _ _ _ ({·})) ih
    exact Agrees.lending (agrees_newTuple _) rfl

theorem agrees_register (name : String) :
    Act.Agrees flag borrowed 0 (makeGuest space (.register name)) (makeGuest space (.register name)) ({·}) := by
  unfold makeGuest
  refine .get_bind fun world world' frame twins lent => ?_
  rw [twins.alike.registerValue? name]
  rw [zero_add] at twins
  cases found : world.registerValue? name with
  | none => exact .throw _ twins
  | some ref =>
    have here : world.registers.get? name = some (.value ref) := by
      unfold World.registerValue? at found
      split at found <;> simp_all
    have listed : ref ∈ world.outside := by
      refine Multiset.mem_add.mpr (Or.inl (Multiset.mem_add.mpr (Or.inl ?_)))
      exact Multiset.mem_coe.mpr (List.mem_filterMap.mpr ⟨_, Bindings.mem_values.mpr ⟨name, here⟩, rfl⟩)
    have live := twins.exact.live (Multiset.mem_add.mpr (Or.inr listed))
    have retained : Meets flag frame world world' (change (·.retain ref) : GuestAct Unit) (change (·.retain ref))
        fun _ => {ref} := .change (twins.retain live)
    exact retained.bind fun _ _ _ _ _ twins => .pure twins

mutual

theorem agrees_makeGuest (literal : GuestLiteral) (borrowed : List Ref) :
    Act.Agrees flag borrowed 0 (makeGuest space literal) (makeGuest space literal) ({·}) := by
  cases literal with
  | none =>
    unfold makeGuest
    exact agrees_noneValue _
  | bool value =>
    unfold makeGuest
    exact agrees_boolValue value
  | int value =>
    unfold makeGuest
    exact .ownedBy (Guest.Space.balanced_newInt .lasting value) (Guest.Space.follows_allocate _).agrees
  | text content =>
    unfold makeGuest
    exact agrees_newText _ content
  | tuple items =>
    unfold makeGuest
    refine (agrees_makeGuests #[] items borrowed).bind fun made => ?_
    exact Agrees.lending (agrees_newTuple _) rfl
  | register name => exact agrees_register name
  | dict entries =>
    unfold makeGuest
    refine (Agrees.ownedBy (Guest.Space.balanced_allocate .lasting (.dict .empty))
      (Guest.Space.follows_allocate _).agrees).bind fun dict => ?_
    refine (agrees_fillDict dict entries _).onFailure.bind fun _ => ?_
    exact .pure (add_zero _).symm
  | nest levels inner =>
    unfold makeGuest
    exact (agrees_makeGuest inner borrowed).bind (agrees_wrap levels)
  | builtin name =>
    unfold makeGuest
    refine .get_bind fun world world' frame twins lent => ?_
    rw [(twins.alike.spaces space).builtin? name]
    cases (world.space space).builtin? name with
    | none => exact .throw _ (by rwa [zero_add] at twins)
    | some handle =>
      exact Agrees.ownedBy (Guest.Space.balanced_acquire .lasting handle) (Guest.Space.follows_acquire handle).agrees
        world world' frame twins lent

theorem agrees_makeGuests (done : Array Ref) (literals : List GuestLiteral) (borrowed : List Ref) :
    Act.Agrees flag borrowed (done.toList : Multiset Ref) (makeGuests space done literals)
      (makeGuests space done literals) fun refs => refs := by
  cases literals with
  | nil =>
    unfold makeGuests
    exact .pure rfl
  | cons literal rest =>
    unfold makeGuests
    have first := agrees_makeGuest literal (done.toList ++ borrowed)
    refine first.onFailure.bind fun ref => ?_
    have later := agrees_makeGuests (done.push ref) rest borrowed
    rw [Array.toList_push, ← Multiset.coe_add] at later
    exact later

theorem agrees_fillDict (dict : Ref) (entries : List (String × GuestLiteral)) (borrowed : List Ref) :
    Act.Agrees flag borrowed 0 (fillDict space dict entries) (fillDict space dict entries) fun _ => 0 := by
  cases entries with
  | nil =>
    unfold fillDict
    exact .pure rfl
  | cons entry rest =>
    unfold fillDict
    refine (agrees_makeGuest entry.2 borrowed).bind fun value => ?_
    refine Agrees.bind (?_ : Act.Agrees _ _ _ _ _ fun _ => 0) fun _ => agrees_fillDict dict rest borrowed
    exact Agrees.lending (.onSpace (Guest.Space.balanced_dictSet dict.handle entry.1 value.handle)
      (Guest.Space.agrees_dictSet dict.handle entry.1 value.handle)) rfl

end

theorem agrees_makePairs (entries : List (String × Ref)) :
    Act.Agrees flag borrowed 0 (makePairs space entries) (makePairs space entries) ({·}) := by
  have paired (entry : String × Ref) :
      Act.Agrees flag borrowed 0 (makePair space entry) (makePair space entry) ({·}) :=
    (agrees_newText space entry.1).bind fun _ => Agrees.lending (agrees_newTuple _) rfl
  exact (Agrees.collect #[] fun entry _ => paired entry).bind fun pairs => Agrees.lending (agrees_newTuple _) rfl

theorem agrees_store {ε : Type} (name : String) (register register' : Register)
    (same : register'.plain = register.plain) (others : Multiset Ref) :
    Act.Agrees flag borrowed ((register.ref?.toList : Multiset Ref) + others)
      (change (·.store name register) : Act ε Unit) (change (·.store name register')) fun _ => others :=
  fun _ _ frame twins _ => .change (World.Twins.store name same (add_assoc _ others frame ▸ twins))

theorem agrees_keep (name : String) (value : Ref) :
    let kept : GuestAct Ref := do
      change (·.retain value)
      change (·.store name (.value value))
      return value
    Act.Agrees flag borrowed {value} kept kept ({·}) := by
  have taken : Act.Agrees flag borrowed {value} (change (·.retainAll [value]) : GuestAct Unit)
      (change (·.retainAll [value])) fun _ => ([value] : Multiset Ref) + {value} :=
    .retainAll fun ref member => .inr (by simpa using member)
  exact Agrees.bind taken fun _ => (agrees_store name (.value value) _ rfl {value}).bind fun _ => .pure rfl

end Literals

section Guest

variable {engine : Engine} (call : Invocation)

theorem agrees_borrow {borrowed : List Ref} {ref : Ref} (listed : ref ∈ borrowed) :
    let taken : GuestAct Ref := do
      change (·.retain ref)
      return ref
    Act.Agrees flag borrowed 0 taken taken ({·}) :=
  (Agrees.retain listed).bind fun _ => .pure rfl

theorem agrees_lent {borrowed : List Ref} (lent : ∀ ref ∈ lends call, ref ∈ borrowed)
    {found : Except Guest.Exception Ref} (listed : ∀ ref, found = .ok ref → ref ∈ lends call) :
    let taken : GuestAct Ref := do
      let ref ← liftM found
      change (·.retain ref)
      return ref
    Act.Agrees flag borrowed 0 taken taken ({·}) :=
  .lift_bind fun ref same => agrees_borrow (lent ref (listed ref same))

mutual

theorem agrees_runGuest (agrees : engine.Agrees flag) (body : GuestBody) (apart : body.asks = false)
    (borrowed : List Ref) (lent : ∀ ref ∈ lends call, ref ∈ borrowed) :
    Act.Agrees flag borrowed 0 (runGuest engine call body) (runGuest engine call body) ({·}) := by
  have more (refs : List Ref) : ∀ ref ∈ lends call, ref ∈ refs ++ borrowed :=
    fun ref member => List.mem_append_right _ (lent ref member)
  cases body with
  | literal literal =>
    unfold runGuest
    exact agrees_makeGuest literal borrowed
  | argument index =>
    unfold runGuest
    exact agrees_lent call lent fun ref found => mem_lends_of_argument call found
  | textArgument index =>
    unfold runGuest
    exact (call.agrees_textArgument index).bind fun text => agrees_newText _ text
  | arguments =>
    unfold runGuest
    exact agrees_newTuple _
  | argumentCount =>
    unfold runGuest
    exact agrees_newText _ _
  | noArguments =>
    unfold runGuest
    exact agrees_boolValue _
  | boundState =>
    unfold runGuest
    exact agrees_lent call lent fun ref found => mem_lends_of_bound call found
  | keyword name =>
    unfold runGuest
    cases found : call.keyword? name with
    | none => exact agrees_noneValue _
    | some ref => exact agrees_borrow (lent ref (mem_lends_of_keyword? call found))
  | keywords =>
    unfold runGuest
    exact agrees_makePairs call.keywords
  | tuple items =>
    unfold runGuest
    refine (agrees_runGuests agrees #[] items apart borrowed lent).bind fun values => ?_
    exact Agrees.lending (agrees_newTuple _) rfl
  | concat parts =>
    unfold runGuest
    refine (agrees_runGuests agrees #[] parts apart borrowed lent).bind fun values => Agrees.lending ?_ rfl
    refine (Agrees.mapM fun value listed => ?_).bind fun texts => agrees_newText _ _
    exact Engine.agrees_str agrees value (List.mem_append_left _ listed)
  | uppercase inner =>
    unfold runGuest
    refine (agrees_runGuest agrees inner apart borrowed lent).bind fun value => Agrees.lending ?_ rfl
    exact (Agrees.textOf value).bind fun text => agrees_newText _ _
  | typeName inner =>
    unfold runGuest
    refine (agrees_runGuest agrees inner apart borrowed lent).bind fun value => Agrees.lending ?_ rfl
    exact (Agrees.onView fun _ _ like => like.typeNameOf value.handle).bind fun name => agrees_newText _ name
  | call callable arguments =>
    obtain ⟨apart, others⟩ := Bool.or_eq_false_iff.mp apart
    unfold runGuest
    refine (agrees_runGuest agrees callable apart borrowed lent).bind fun callable => ?_
    -- What is called is kept while the arguments are evaluated, and then lent to the call together with them.
    have values := agrees_runGuests agrees #[] arguments others ([callable] ++ borrowed) (more _)
    refine values.onFailure.bind fun values => Agrees.lendingBoth ?_
    exact agrees.call _ callable values [] (fun ref member => by simp [member]) (List.forall_mem_nil _)
  | callMethod target name arguments =>
    obtain ⟨rest, others⟩ := Bool.or_eq_false_iff.mp apart
    obtain ⟨named, apart⟩ := Bool.or_eq_false_iff.mp rest
    unfold runGuest
    refine (agrees_runGuest agrees target apart borrowed lent).bind fun target => ?_
    have values := agrees_runGuests agrees #[] arguments others ([target] ++ borrowed) (more _)
    refine values.onFailure.bind fun values => Agrees.lendingBoth ?_
    exact Engine.agrees_callMethod agrees target (ne_debugGlobal (of_decide_eq_false named)) fun ref member => by
      simp [member]
  | getattr target name =>
    obtain ⟨named, apart⟩ := Bool.or_eq_false_iff.mp apart
    unfold runGuest
    refine (agrees_runGuest agrees target apart borrowed lent).bind fun target => ?_
    exact Agrees.lending (agrees_getattr target (ne_debugGlobal (of_decide_eq_false named))) rfl
  | setattr target name value =>
    obtain ⟨rest, others⟩ := Bool.or_eq_false_iff.mp apart
    obtain ⟨named, apart⟩ := Bool.or_eq_false_iff.mp rest
    unfold runGuest
    refine (agrees_runGuest agrees target apart borrowed lent).bind fun target => ?_
    have valued := agrees_runGuest agrees value others ([target] ++ borrowed) (more _)
    refine valued.onFailure.bind fun value => Agrees.lending ?_ (add_comm _ _)
    exact (agrees_setattr target (ne_debugOn (of_decide_eq_false named)) value).bind fun _ => agrees_noneValue _
  | dictGet dict key =>
    unfold runGuest
    refine (agrees_runGuest agrees dict apart borrowed lent).bind fun dict => Agrees.lending ?_ rfl
    refine (agrees_dictGet dict key).bind fun found => ?_
    cases found with
    | some value => exact .pure rfl
    | none => exact agrees_noneValue _
  | dictSet dict key value =>
    obtain ⟨apart, others⟩ := Bool.or_eq_false_iff.mp apart
    unfold runGuest
    refine (agrees_runGuest agrees dict apart borrowed lent).bind fun dict => ?_
    have valued := agrees_runGuest agrees value others ([dict] ++ borrowed) (more _)
    refine valued.onFailure.bind fun value => Agrees.lending ?_ (add_comm _ _)
    exact (Agrees.onSpace (Guest.Space.balanced_dictSet dict.handle key value.handle)
      (Guest.Space.agrees_dictSet dict.handle key value.handle)).bind fun _ => agrees_noneValue _
  | dictRemove dict key =>
    unfold runGuest
    refine (agrees_runGuest agrees dict apart borrowed lent).bind fun dict => Agrees.lending ?_ rfl
    exact (Agrees.onSpace (Guest.Space.balanced_dictRemove dict.handle key)
      (Guest.Space.agrees_dictRemove dict.handle key)).bind fun removed => agrees_boolValue removed
  | dictItems dict =>
    unfold runGuest
    refine (agrees_runGuest agrees dict apart borrowed lent).bind fun dict => Agrees.lending ?_ rfl
    refine (Agrees.onSpace (Guest.Space.balanced_dictItems .lasting dict.handle)
      (Guest.Space.follows_dictItems dict.handle).agrees).bind fun items => ?_
    refine Agrees.lending (agrees_makePairs _) ?_
    simp [Function.comp_def]
  | newType name bases members values =>
    obtain ⟨apart, others⟩ := Bool.or_eq_false_iff.mp apart
    unfold runGuest
    refine (agrees_runGuests agrees #[] bases apart borrowed lent).bind fun bases => ?_
    have valued := agrees_runGuests agrees #[] values others (bases ++ borrowed) (more _)
    refine valued.onFailure.bind fun values => Agrees.lendingBoth ?_
    exact .ownedBy (Guest.Space.balanced_newType .lasting _ _ _) (Guest.Space.follows_newType _ _ _).agrees
  | function name body =>
    unfold runGuest
    exact .ownedBy (Guest.Space.balanced_newFunction .lasting name none _)
      (Guest.Space.follows_newFunction name none _).agrees
  | boundFunction name bound body =>
    unfold runGuest
    refine (agrees_runGuest agrees bound apart borrowed lent).bind fun bound => Agrees.lending ?_ rfl
    exact .ownedBy (Guest.Space.balanced_newFunction .lasting name (some bound.handle) _)
      (Guest.Space.follows_newFunction name (some bound.handle) _).agrees
  | acquire register =>
    unfold runGuest
    refine .get_bind fun world world' frame twins lent => ?_
    rw [twins.alike.registerHandle? register]
    cases world.registerHandle? register with
    | none => exact .throw _ (by rwa [zero_add] at twins)
    | some handle =>
      exact Agrees.ownedBy (Guest.Space.balanced_acquire .lasting handle) (Guest.Space.follows_acquire handle).agrees
        world world' frame twins lent
  | keep register inner =>
    unfold runGuest
    exact (agrees_runGuest agrees inner apart borrowed lent).bind fun value => agrees_keep register value
  | branch condition yes no =>
    obtain ⟨rest, others⟩ := Bool.or_eq_false_iff.mp apart
    obtain ⟨apart, first⟩ := Bool.or_eq_false_iff.mp rest
    unfold runGuest
    refine (agrees_runGuest agrees condition apart borrowed lent).bind fun condition => ?_
    refine Agrees.bind (?_ : Act.Agrees _ _ _ _ _ fun _ => 0) fun chosen => ?_
    · exact Agrees.lending (.view fun _ _ alike => (alike.spaces condition.space).bool? condition.handle) rfl
    · split
      · exact agrees_runGuest agrees yes first borrowed lent
      · exact agrees_runGuest agrees no others borrowed lent
  | raise kind message =>
    unfold runGuest
    exact .throw _
  | attempt inner =>
    unfold runGuest
    refine (agrees_runGuest agrees inner apart borrowed lent).outcome.bind fun result => ?_
    cases result with
    | ok value => exact .pure rfl
    | error exception => exact agrees_newText _ _
  | sequence steps =>
    unfold runGuest
    exact agrees_runGuestSteps agrees none steps apart borrowed lent
  | importModule name =>
    unfold runGuest
    exact Engine.agrees_importModule agrees name
  | finalize inner =>
    unfold runGuest
    refine (Bridge.agrees_finalizeSpace call.space).outcome.bind fun result => ?_
    refine (agrees_runGuest agrees inner apart borrowed lent).congr ?_ fun _ => rfl
    cases result <;> rfl

theorem agrees_runGuests (agrees : engine.Agrees flag) (done : Array Ref) (bodies : List GuestBody)
    (apart : anyGuestAsks bodies = false) (borrowed : List Ref) (lent : ∀ ref ∈ lends call, ref ∈ borrowed) :
    Act.Agrees flag borrowed (done.toList : Multiset Ref) (runGuests engine call done bodies)
      (runGuests engine call done bodies) fun refs => refs := by
  cases bodies with
  | nil =>
    unfold runGuests
    exact .pure rfl
  | cons body rest =>
    obtain ⟨apart, others⟩ := Bool.or_eq_false_iff.mp apart
    unfold runGuests
    have first := agrees_runGuest agrees body apart (done.toList ++ borrowed) fun ref member =>
      List.mem_append_right _ (lent ref member)
    refine first.onFailure.bind fun ref => ?_
    have later := agrees_runGuests agrees (done.push ref) rest others borrowed lent
    rw [Array.toList_push, ← Multiset.coe_add] at later
    exact later

theorem agrees_runGuestSteps (agrees : engine.Agrees flag) (last : Option Ref) (steps : List GuestBody)
    (apart : anyGuestAsks steps = false) (borrowed : List Ref) (lent : ∀ ref ∈ lends call, ref ∈ borrowed) :
    Act.Agrees flag borrowed (last.toList : Multiset Ref) (runGuestSteps engine call last steps)
      (runGuestSteps engine call last steps) ({·}) := by
  cases steps with
  | nil =>
    unfold runGuestSteps
    cases last with
    | none => exact agrees_noneValue _
    | some ref => exact .pure rfl
  | cons step rest =>
    obtain ⟨apart, others⟩ := Bool.or_eq_false_iff.mp apart
    unfold runGuestSteps
    have first := agrees_runGuest agrees step apart (last.toList ++ borrowed) fun ref member =>
      List.mem_append_right _ (lent ref member)
    refine Agrees.bind (?_ : Act.Agrees _ _ _ _ _ ({·})) fun ref =>
      agrees_runGuestSteps agrees (some ref) rest others borrowed lent
    exact Agrees.lending first rfl

end

end Guest

section Host

variable {engine : Engine} {borrowed : List Ref} {first second : World}

mutual

theorem makeHost_alike (alike : first.Alike flag second) (literal : HostLiteral) :
    makeHost second literal = makeHost first literal := by
  cases literal with
  | nil => rfl
  | text content => rfl
  | array items =>
    unfold makeHost
    rw [makeHosts_alike alike items]
  | register name =>
    unfold makeHost
    rw [alike.registerHost? name]
  | nest levels inner =>
    unfold makeHost
    rw [makeHost_alike alike inner]

theorem makeHosts_alike (alike : first.Alike flag second) (literals : List HostLiteral) :
    makeHosts second literals = makeHosts first literals := by
  cases literals with
  | nil => rfl
  | cons literal rest =>
    unfold makeHosts
    rw [makeHost_alike alike literal, makeHosts_alike alike rest]

end

theorem agrees_withSession {α : Type} (name : String) {operation : Session → HostAct α}
    (agrees : ∀ session debug, Act.Agrees flag borrowed 0 (operation session) (operation (session.debugging debug))
      fun _ => 0) :
    Act.Agrees flag borrowed 0 (withSession name operation) (withSession name operation) fun _ => 0 := by
  refine .get_bind fun world world' frame twins lent => ?_
  rcases twins.alike.registerSession_cases name with ⟨none, none'⟩ | ⟨session, debug, some, some'⟩
  · rw [none, none']
    exact .throw _ (by rwa [zero_add] at twins)
  · rw [some, some']
    exact Agrees.holding rfl (agrees session debug) world world' frame twins lent

theorem agrees_newObject (host : Host.HostId) (family : HostClass) (payload : Option Payload) :
    Act.Agrees flag borrowed 0 (step (·.newObject host family payload) : HostAct HostValue)
      (step (·.newObject host family payload)) fun _ => 0 :=
  .step (fun world => ⟨rfl, rfl, world.steady_newObject _ _ _⟩) fun _ => rfl

theorem agrees_writeLog (entry : LogEntry) :
    Act.Agrees flag borrowed 0 (change (·.writeLog entry) : HostAct Unit) (change (·.writeLog entry)) fun _ => 0 :=
  .change (fun _ => ⟨rfl, rfl, .of_same rfl rfl rfl⟩) fun _ => rfl

mutual

theorem agrees_runHost (agrees : engine.Agrees flag) (message : Message) (body : HostBody) (apart : body.asks = false)
    (borrowed : List Ref) :
    Act.Agrees flag borrowed 0 (runHost engine message body) (runHost engine message body) fun _ => 0 := by
  cases body with
  | literal literal =>
    unfold runHost
    refine .get_bind fun world world' frame twins _ => ?_
    rw [makeHost_alike twins.alike]
    exact .lift _ (fun _ => rfl) (by rwa [zero_add] at twins)
  | receiver =>
    unfold runHost
    exact .pure rfl
  | argument index =>
    unfold runHost
    exact .pure rfl
  | arguments =>
    unfold runHost
    exact .pure rfl
  | array items =>
    unfold runHost
    exact (agrees_runHosts agrees message items apart borrowed).bind fun _ => .pure rfl
  | itemAt inner index =>
    unfold runHost
    exact (agrees_runHost agrees message inner apart borrowed).bind fun _ => .lift _
  | length inner =>
    unfold runHost
    exact (agrees_runHost agrees message inner apart borrowed).bind fun _ => (Agrees.lift _).bind fun _ => .pure rfl
  | concat parts =>
    unfold runHost
    exact (agrees_runHosts agrees message parts apart borrowed).bind fun _ => .pure rfl
  | send addressee name arguments =>
    obtain ⟨apart, others⟩ := Bool.or_eq_false_iff.mp apart
    unfold runHost
    refine (agrees_runHost agrees message addressee apart borrowed).bind fun addressee => ?_
    refine (agrees_runHosts agrees message arguments others borrowed).bind fun arguments => ?_
    exact agrees.send message.host addressee name arguments
  | newObject className =>
    unfold runHost
    refine .get_bind fun world world' frame twins lent => ?_
    rw [twins.alike.host]
    cases (world.host message.host).findClass className with
    | none => exact .throw _ (by rwa [zero_add] at twins)
    | some family => exact agrees_newObject message.host family none world world' frame twins lent
  | fail text =>
    unfold runHost
    exact .throw _
  | record tag =>
    unfold runHost
    exact (agrees_writeLog _).bind fun _ => .pure rfl
  | note inner =>
    unfold runHost
    refine (agrees_runHost agrees message inner apart borrowed).bind fun value => ?_
    exact (agrees_writeLog _).bind fun _ => .pure rfl
  | attempt inner =>
    unfold runHost
    refine (agrees_runHost agrees message inner apart borrowed).outcome.bind fun result => ?_
    cases result <;> exact .pure rfl
  | sequence steps =>
    unfold runHost
    exact (agrees_runHosts agrees message steps apart borrowed).bind fun _ => .pure rfl
  | store register inner =>
    unfold runHost
    refine (agrees_runHost agrees message inner apart borrowed).bind fun value => ?_
    exact (agrees_store register (.host value) _ rfl 0).bind fun _ => .pure rfl
  | processCall name argument =>
    obtain ⟨named, apart⟩ := Bool.or_eq_false_iff.mp apart
    unfold runHost
    refine (agrees_runHost agrees message argument apart borrowed).bind fun argument => ?_
    exact ((Engine.agrees_processCall agrees (of_decide_eq_false named) (some argument)).adapt _).bind
      fun _ => .pure rfl
  | processText inner =>
    unfold runHost
    refine (agrees_runHost agrees message inner apart borrowed).bind fun proxy => ?_
    exact ((Engine.agrees_processText agrees proxy).adapt _).bind fun _ => .pure rfl
  | processMethod proxy name arguments =>
    obtain ⟨rest, others⟩ := Bool.or_eq_false_iff.mp apart
    obtain ⟨named, apart⟩ := Bool.or_eq_false_iff.mp rest
    unfold runHost
    refine (agrees_runHost agrees message proxy apart borrowed).bind fun proxy => ?_
    refine (agrees_runHosts agrees message arguments others borrowed).bind fun arguments => ?_
    exact (Engine.agrees_processMethod agrees proxy named arguments).adapt _
  | processDefine className base methods =>
    unfold runHost
    refine (agrees_runHost agrees message methods apart borrowed).bind fun methods => ?_
    exact ((Engine.agrees_processDefine agrees message.receiver className base methods).adapt _).bind fun _ => .pure rfl
  | processFinalize =>
    unfold runHost
    exact (Bridge.agrees_finalizeProcess.adapt _).bind fun _ => .pure rfl
  | sessionCall session name argument =>
    obtain ⟨named, apart⟩ := Bool.or_eq_false_iff.mp apart
    unfold runHost
    refine agrees_withSession session fun session debug => ?_
    refine (agrees_runHost agrees message argument apart borrowed).bind fun argument => ?_
    exact ((Engine.agrees_callFunction agrees session debug (of_decide_eq_false named) (some argument)).adapt _).bind
      fun _ => .pure rfl
  | sessionDefine session className base methods =>
    unfold runHost
    refine agrees_withSession session fun session debug => ?_
    exact ((Engine.agrees_defineClass agrees session debug message.receiver className base methods).adapt _).bind
      fun _ => .pure rfl
  | sessionClose session =>
    unfold runHost
    refine agrees_withSession session fun session debug => ?_
    refine (Bridge.agrees_close session debug).outcome.bind fun result => ?_
    cases result <;> exact .pure rfl

theorem agrees_runHosts (agrees : engine.Agrees flag) (message : Message) (bodies : List HostBody)
    (apart : anyHostAsks bodies = false) (borrowed : List Ref) :
    Act.Agrees flag borrowed 0 (runHosts engine message bodies) (runHosts engine message bodies) fun _ => 0 := by
  cases bodies with
  | nil =>
    unfold runHosts
    exact .pure rfl
  | cons body rest =>
    obtain ⟨apart, others⟩ := Bool.or_eq_false_iff.mp apart
    unfold runHosts
    refine (agrees_runHost agrees message body apart borrowed).bind fun value => ?_
    exact (agrees_runHosts agrees message rest others borrowed).bind fun _ => .pure rfl

end

end Host

end Script

end ObjectBridge

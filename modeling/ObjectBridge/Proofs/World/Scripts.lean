import ObjectBridge.Machine
import ObjectBridge.Proofs.World.Lifecycle

/-!
Balance of scripts. The body of a Guest function borrows what it is called with and answers a new
reference; the body of a Host method has no reference at hand.
-/

namespace ObjectBridge

open Guest (Extent Handle)

namespace Script

open Act

def lends (call : Invocation) : List Ref :=
  call.bound?.toList ++ call.arguments ++ call.keywords.map (·.2)

section Lends

variable (call : Invocation)

theorem mem_lends_of_bound {ref : Ref} (found : call.bound = .ok ref) : ref ∈ lends call := by
  unfold Invocation.bound at found
  split at found
  · rename_i state here
    obtain rfl : state = ref := by simpa using found
    simp [lends, here]
  · simp at found

theorem mem_lends_of_argument {index : Nat} {ref : Ref} (found : call.argument index = .ok ref) :
    ref ∈ lends call := by
  unfold Invocation.argument at found
  split at found
  · rename_i argument here
    obtain rfl : argument = ref := by simpa using found
    exact List.mem_append_left _ (List.mem_append_right _ (List.mem_of_getElem? here))
  · simp at found

theorem mem_lends_of_keyword? {name : String} {ref : Ref} (found : call.keyword? name = some ref) :
    ref ∈ lends call := by
  refine List.mem_append_right _ (List.mem_map.mpr ⟨(name, ref), ?_, rfl⟩)
  obtain ⟨earlier, later, same, -⟩ := List.lookup_eq_some_iff.mp found
  rw [same]
  simp

end Lends

variable [World.Passing] {extent : Extent} {space : SpaceId}

theorem balanced_wrap {borrowed : List Ref} (levels : Nat) (value : Ref) :
    Act.Balanced extent borrowed {value} (wrap space levels value) ({·}) := by
  induction levels generalizing value with
  | zero => exact .pure rfl
  | succ levels ih =>
    refine Balanced.bind (?_ : Act.Balanced _ _ _ _ ({·})) ih
    exact Balanced.lending (.ownedBy (Guest.Space.balanced_newTuple extent _)) rfl

theorem balanced_register {borrowed : List Ref} (name : String) :
    Act.Balanced extent borrowed 0 (makeGuest space (.register name)) ({·}) := by
  unfold makeGuest
  refine .get_bind fun world frame exact lent => ?_
  cases found : world.registerValue? name with
  | none => exact .throw _
  | some ref =>
    have here : world.registers.get? name = some (.value ref) := by
      unfold World.registerValue? at found
      split at found <;> simp_all
    have listed : ref ∈ world.outside := by
      refine Multiset.mem_add.mpr (Or.inl (Multiset.mem_add.mpr (Or.inl ?_)))
      exact Multiset.mem_coe.mpr (List.mem_filterMap.mpr ⟨_, Bindings.mem_values.mpr ⟨name, here⟩, rfl⟩)
    have retained : Settles extent world 0 (change (·.retain ref) : GuestAct Unit) fun _ => {ref} :=
      World.passes_retain extent exact (exact.live (Multiset.mem_add.mpr (Or.inr listed)))
    exact retained.bind fun _ _ => .pure rfl

mutual

theorem balanced_makeGuest (literal : GuestLiteral) (borrowed : List Ref) :
    Act.Balanced .lasting borrowed 0 (makeGuest space literal) ({·}) := by
  cases literal with
  | none =>
    unfold makeGuest
    exact .ownedBy (Guest.Space.balanced_noneValue .lasting)
  | bool value =>
    unfold makeGuest
    exact .ownedBy (Guest.Space.balanced_boolValue .lasting value)
  | int value =>
    unfold makeGuest
    exact .ownedBy (Guest.Space.balanced_newInt .lasting value)
  | text content =>
    unfold makeGuest
    exact .ownedBy (Guest.Space.balanced_newText .lasting content)
  | tuple items =>
    unfold makeGuest
    refine (balanced_makeGuests #[] items borrowed).bind fun made => ?_
    exact Balanced.lending (.ownedBy (Guest.Space.balanced_newTuple .lasting _)) rfl
  | register name => exact balanced_register name
  | dict entries =>
    unfold makeGuest
    refine (Balanced.ownedBy (Guest.Space.balanced_allocate .lasting (.dict .empty))).bind fun dict => ?_
    refine (balanced_fillDict dict entries _).onFailure.bind fun _ => ?_
    exact .pure (add_zero _).symm
  | nest levels inner =>
    unfold makeGuest
    exact (balanced_makeGuest inner borrowed).bind (balanced_wrap levels)
  | builtin name =>
    unfold makeGuest
    refine .get_bind fun world frame exact lent => ?_
    cases (world.space space).builtin? name with
    | none => exact .throw _
    | some handle =>
      exact Balanced.ownedBy (Guest.Space.balanced_acquire .lasting handle) world frame exact lent

theorem balanced_makeGuests (done : Array Ref) (literals : List GuestLiteral) (borrowed : List Ref) :
    Act.Balanced .lasting borrowed (done.toList : Multiset Ref) (makeGuests space done literals)
      fun refs => refs := by
  cases literals with
  | nil =>
    unfold makeGuests
    exact .pure rfl
  | cons literal rest =>
    unfold makeGuests
    have first := balanced_makeGuest literal (done.toList ++ borrowed)
    refine first.onFailure.bind fun ref => ?_
    have later := balanced_makeGuests (done.push ref) rest borrowed
    rw [Array.toList_push, ← Multiset.coe_add] at later
    exact later

theorem balanced_fillDict (dict : Ref) (entries : List (String × GuestLiteral)) (borrowed : List Ref) :
    Act.Balanced .lasting borrowed 0 (fillDict space dict entries) fun _ => 0 := by
  cases entries with
  | nil =>
    unfold fillDict
    exact .pure rfl
  | cons entry rest =>
    unfold fillDict
    refine (balanced_makeGuest entry.2 borrowed).bind fun value => ?_
    refine Balanced.bind (?_ : Act.Balanced _ _ _ _ fun _ => 0) fun _ => balanced_fillDict dict rest borrowed
    exact Balanced.lending (.onSpace (Guest.Space.balanced_dictSet dict.handle entry.1 value.handle)) rfl

end

theorem balanced_makePairs {borrowed : List Ref} (entries : List (String × Ref)) :
    Act.Balanced extent borrowed 0 (makePairs space entries) ({·}) := by
  have paired (entry : String × Ref) : Act.Balanced extent borrowed 0 (makePair space entry) ({·}) :=
    (Balanced.ownedBy (Guest.Space.balanced_newText extent entry.1)).bind fun name =>
      Balanced.lending (.ownedBy (Guest.Space.balanced_newTuple extent _)) rfl
  refine (Balanced.collect #[] fun entry _ => paired entry).bind fun pairs => ?_
  exact Balanced.lending (.ownedBy (Guest.Space.balanced_newTuple extent _)) rfl

theorem balanced_store {ε : Type} {borrowed : List Ref} (name : String) (register : Register) (others : Multiset Ref) :
    Act.Balanced .lasting borrowed ((register.ref?.toList : Multiset Ref) + others)
      (change (·.store name register) : Act ε Unit) fun _ => others :=
  fun world _ exact _ => (World.leads_store exact).passes (world.onlyLoses_store name register)

theorem balanced_keep {borrowed : List Ref} (name : String) (value : Ref) :
    Act.Balanced .lasting borrowed {value} (do
      change (·.retain value)
      change (·.store name (.value value))
      return value : GuestAct Ref) ({·}) := by
  have taken : Act.Balanced .lasting borrowed {value} (change (·.retainAll [value]) : GuestAct Unit)
      fun _ => ([value] : Multiset Ref) + {value} := .retainAll fun ref member => .inr (by simpa using member)
  exact Balanced.bind taken fun _ => (balanced_store name (.value value) {value}).bind fun _ => .pure rfl

section Guest

variable {engine : Engine} (call : Invocation)

theorem balanced_borrow {borrowed : List Ref} {ref : Ref} (listed : ref ∈ borrowed) :
    Act.Balanced extent borrowed 0 (do
      change (·.retain ref)
      return ref : GuestAct Ref) ({·}) :=
  (Balanced.retain listed).bind fun _ => .pure rfl

theorem balanced_lent {borrowed : List Ref} (lent : ∀ ref ∈ lends call, ref ∈ borrowed)
    {found : Except Guest.Exception Ref} (listed : ∀ ref, found = .ok ref → ref ∈ lends call) :
    Act.Balanced extent borrowed 0 (do
      let ref ← liftM found
      change (·.retain ref)
      return ref : GuestAct Ref) ({·}) := by
  cases found with
  | error exception => exact .throw_bind _ _
  | ok ref => exact balanced_borrow (lent ref (listed ref rfl))

mutual

theorem balanced_runGuest (balanced : engine.Balanced) (body : GuestBody) (borrowed : List Ref)
    (lent : ∀ ref ∈ lends call, ref ∈ borrowed) :
    Act.Balanced .lasting borrowed 0 (runGuest engine call body) ({·}) := by
  have more (refs : List Ref) : ∀ ref ∈ lends call, ref ∈ refs ++ borrowed :=
    fun ref member => List.mem_append_right _ (lent ref member)
  cases body with
  | literal literal =>
    unfold runGuest
    exact balanced_makeGuest literal borrowed
  | argument index =>
    unfold runGuest
    exact balanced_lent call lent fun ref found => mem_lends_of_argument call found
  | textArgument index =>
    unfold runGuest
    exact (call.balanced_textArgument index).bind fun text =>
      .ownedBy (Guest.Space.balanced_newText .lasting text)
  | arguments =>
    unfold runGuest
    exact .ownedBy (Guest.Space.balanced_newTuple .lasting _)
  | argumentCount =>
    unfold runGuest
    exact .ownedBy (Guest.Space.balanced_newText .lasting _)
  | noArguments =>
    unfold runGuest
    exact .ownedBy (Guest.Space.balanced_boolValue .lasting _)
  | boundState =>
    unfold runGuest
    exact balanced_lent call lent fun ref found => mem_lends_of_bound call found
  | keyword name =>
    unfold runGuest
    cases found : call.keyword? name with
    | none => exact .ownedBy (Guest.Space.balanced_noneValue .lasting)
    | some ref => exact balanced_borrow (lent ref (mem_lends_of_keyword? call found))
  | keywords =>
    unfold runGuest
    exact balanced_makePairs call.keywords
  | tuple items =>
    unfold runGuest
    refine (balanced_runGuests balanced #[] items borrowed lent).bind fun values => ?_
    exact Balanced.lending (.ownedBy (Guest.Space.balanced_newTuple .lasting _)) rfl
  | concat parts =>
    unfold runGuest
    refine (balanced_runGuests balanced #[] parts borrowed lent).bind fun values => Balanced.lending ?_ rfl
    refine (Balanced.mapM fun value listed => ?_).bind fun texts =>
      .ownedBy (Guest.Space.balanced_newText .lasting _)
    exact Engine.balanced_str balanced value (List.mem_append_left _ listed)
  | uppercase inner =>
    unfold runGuest
    refine (balanced_runGuest balanced inner borrowed lent).bind fun value => Balanced.lending ?_ rfl
    exact (Balanced.view _).bind fun text => .ownedBy (Guest.Space.balanced_newText .lasting _)
  | typeName inner =>
    unfold runGuest
    refine (balanced_runGuest balanced inner borrowed lent).bind fun value => Balanced.lending ?_ rfl
    exact (Balanced.onView _).bind fun name => .ownedBy (Guest.Space.balanced_newText .lasting name)
  | call callable arguments =>
    unfold runGuest
    refine (balanced_runGuest balanced callable borrowed lent).bind fun callable => ?_
    have values := balanced_runGuests balanced #[] arguments ([callable] ++ borrowed) (more _)
    refine values.onFailure.bind fun values => Balanced.lendingBoth ?_
    exact balanced.call _ callable values [] (fun ref member => by simp [member]) (List.forall_mem_nil _)
  | callMethod target name arguments =>
    unfold runGuest
    refine (balanced_runGuest balanced target borrowed lent).bind fun target => ?_
    have values := balanced_runGuests balanced #[] arguments ([target] ++ borrowed) (more _)
    refine values.onFailure.bind fun values => Balanced.lendingBoth ?_
    exact Engine.balanced_callMethod balanced target name fun ref member => by simp [member]
  | getattr target name =>
    unfold runGuest
    refine (balanced_runGuest balanced target borrowed lent).bind fun target => ?_
    exact Balanced.lending (balanced_getattr target name) rfl
  | setattr target name value =>
    unfold runGuest
    refine (balanced_runGuest balanced target borrowed lent).bind fun target => ?_
    have valued := balanced_runGuest balanced value ([target] ++ borrowed) (more _)
    refine valued.onFailure.bind fun value => Balanced.lending ?_ (add_comm _ _)
    exact (balanced_setattr target name value).bind fun _ =>
      .ownedBy (Guest.Space.balanced_noneValue .lasting)
  | dictGet dict key =>
    unfold runGuest
    refine (balanced_runGuest balanced dict borrowed lent).bind fun dict => Balanced.lending ?_ rfl
    refine (balanced_dictGet dict key).bind fun found => ?_
    cases found with
    | some value => exact .pure rfl
    | none => exact .ownedBy (Guest.Space.balanced_noneValue .lasting)
  | dictSet dict key value =>
    unfold runGuest
    refine (balanced_runGuest balanced dict borrowed lent).bind fun dict => ?_
    have valued := balanced_runGuest balanced value ([dict] ++ borrowed) (more _)
    refine valued.onFailure.bind fun value => Balanced.lending ?_ (add_comm _ _)
    exact (Balanced.onSpace (Guest.Space.balanced_dictSet dict.handle key value.handle)).bind fun _ =>
      .ownedBy (Guest.Space.balanced_noneValue .lasting)
  | dictRemove dict key =>
    unfold runGuest
    refine (balanced_runGuest balanced dict borrowed lent).bind fun dict => Balanced.lending ?_ rfl
    exact (Balanced.onSpace (Guest.Space.balanced_dictRemove dict.handle key)).bind fun removed =>
      .ownedBy (Guest.Space.balanced_boolValue .lasting removed)
  | dictItems dict =>
    unfold runGuest
    refine (balanced_runGuest balanced dict borrowed lent).bind fun dict => Balanced.lending ?_ rfl
    refine (Balanced.onSpace (Guest.Space.balanced_dictItems .lasting dict.handle)).bind fun items => ?_
    refine Balanced.lending (balanced_makePairs _) ?_
    simp [Function.comp_def]
  | newType name bases members values =>
    unfold runGuest
    refine (balanced_runGuests balanced #[] bases borrowed lent).bind fun bases => ?_
    have valued := balanced_runGuests balanced #[] values (bases ++ borrowed) (more _)
    refine valued.onFailure.bind fun values => Balanced.lendingBoth ?_
    exact .ownedBy (Guest.Space.balanced_newType .lasting _ _ _)
  | function name body =>
    unfold runGuest
    exact .ownedBy (Guest.Space.balanced_newFunction .lasting name none _)
  | boundFunction name bound body =>
    unfold runGuest
    refine (balanced_runGuest balanced bound borrowed lent).bind fun bound => Balanced.lending ?_ rfl
    exact .ownedBy (Guest.Space.balanced_newFunction .lasting name (some bound.handle) _)
  | acquire register =>
    unfold runGuest
    refine .get_bind fun world frame exact lent => ?_
    cases world.registerHandle? register with
    | none => exact .throw _
    | some handle => exact Balanced.ownedBy (Guest.Space.balanced_acquire .lasting handle) world frame exact lent
  | keep register inner =>
    unfold runGuest
    exact (balanced_runGuest balanced inner borrowed lent).bind fun value => balanced_keep register value
  | branch condition yes no =>
    unfold runGuest
    refine (balanced_runGuest balanced condition borrowed lent).bind fun condition => ?_
    refine Balanced.bind (?_ : Act.Balanced _ _ _ _ fun _ => 0) fun chosen => ?_
    · exact Balanced.lending (.view _) rfl
    · split
      · exact balanced_runGuest balanced yes borrowed lent
      · exact balanced_runGuest balanced no borrowed lent
  | raise kind message =>
    unfold runGuest
    exact .throw _
  | attempt inner =>
    unfold runGuest
    refine (balanced_runGuest balanced inner borrowed lent).outcome.bind fun result => ?_
    cases result with
    | ok value => exact .pure rfl
    | error exception => exact .ownedBy (Guest.Space.balanced_newText .lasting _)
  | sequence steps =>
    unfold runGuest
    exact balanced_runGuestSteps balanced none steps borrowed lent
  | importModule name =>
    unfold runGuest
    exact Engine.balanced_importModule balanced name
  | finalize inner =>
    unfold runGuest
    refine (Bridge.balanced_finalizeSpace call.space).outcome.bind fun result => ?_
    refine (balanced_runGuest balanced inner borrowed lent).congr ?_ fun _ => rfl
    cases result <;> rfl

theorem balanced_runGuests (balanced : engine.Balanced) (done : Array Ref) (bodies : List GuestBody)
    (borrowed : List Ref) (lent : ∀ ref ∈ lends call, ref ∈ borrowed) :
    Act.Balanced .lasting borrowed (done.toList : Multiset Ref) (runGuests engine call done bodies)
      fun refs => refs := by
  cases bodies with
  | nil =>
    unfold runGuests
    exact .pure rfl
  | cons body rest =>
    unfold runGuests
    have first := balanced_runGuest balanced body (done.toList ++ borrowed) fun ref member =>
      List.mem_append_right _ (lent ref member)
    refine first.onFailure.bind fun ref => ?_
    have later := balanced_runGuests balanced (done.push ref) rest borrowed lent
    rw [Array.toList_push, ← Multiset.coe_add] at later
    exact later

theorem balanced_runGuestSteps (balanced : engine.Balanced) (last : Option Ref) (steps : List GuestBody)
    (borrowed : List Ref) (lent : ∀ ref ∈ lends call, ref ∈ borrowed) :
    Act.Balanced .lasting borrowed (last.toList : Multiset Ref) (runGuestSteps engine call last steps)
      ({·}) := by
  cases steps with
  | nil =>
    unfold runGuestSteps
    cases last with
    | none => exact .ownedBy (Guest.Space.balanced_noneValue .lasting)
    | some ref => exact .pure rfl
  | cons step rest =>
    unfold runGuestSteps
    have first := balanced_runGuest balanced step (last.toList ++ borrowed) fun ref member =>
      List.mem_append_right _ (lent ref member)
    refine Balanced.bind (?_ : Act.Balanced _ _ _ _ ({·})) fun ref =>
      balanced_runGuestSteps balanced (some ref) rest borrowed lent
    exact Balanced.lending first rfl

end

end Guest

section Host

variable {engine : Engine} {borrowed : List Ref}

theorem balanced_withSession {α : Type} (name : String) {operation : Session → HostAct α}
    (balanced : ∀ session, Act.Balanced .lasting borrowed 0 (operation session) fun _ => 0) :
    Act.Balanced .lasting borrowed 0 (withSession name operation) fun _ => 0 := by
  refine .get_bind fun world frame exact lent => ?_
  cases world.registerSession? name with
  | none => exact .throw _
  | some session => exact Balanced.holding session (balanced session) world frame exact lent

mutual

theorem balanced_runHost (balanced : engine.Balanced) (message : Message) (body : HostBody) :
    Act.Balanced .lasting borrowed 0 (runHost engine message body) fun _ => 0 := by
  cases body with
  | literal literal =>
    unfold runHost
    exact .get_bind fun _ _ _ _ => .lift _ fun _ _ => rfl
  | receiver =>
    unfold runHost
    exact .pure rfl
  | argument index =>
    unfold runHost
    exact .pure rfl
  | arguments =>
    unfold runHost
    exact .pure rfl
  | array items =>
    unfold runHost
    exact (balanced_runHosts balanced message items).bind fun _ => .pure rfl
  | itemAt inner index =>
    unfold runHost
    exact (balanced_runHost balanced message inner).bind fun _ => .lift _
  | length inner =>
    unfold runHost
    exact (balanced_runHost balanced message inner).bind fun _ => (Balanced.lift _).bind fun _ => .pure rfl
  | concat parts =>
    unfold runHost
    exact (balanced_runHosts balanced message parts).bind fun _ => .pure rfl
  | send addressee name arguments =>
    unfold runHost
    refine (balanced_runHost balanced message addressee).bind fun addressee => ?_
    refine (balanced_runHosts balanced message arguments).bind fun arguments => ?_
    exact balanced.send message.host addressee name arguments
  | newObject className =>
    unfold runHost
    refine .get_bind fun world frame exact lent => ?_
    cases (world.host message.host).findClass className with
    | none => exact .throw _
    | some family =>
      exact Balanced.step (fun world => ⟨rfl, rfl, world.steady_newObject _ _ _⟩) world frame exact lent
  | fail text =>
    unfold runHost
    exact .throw _
  | record tag =>
    unfold runHost
    refine Balanced.bind (?_ : Act.Balanced _ _ _ _ fun _ => 0) fun _ => .pure rfl
    exact .change fun _ => ⟨rfl, rfl, .of_same rfl rfl rfl⟩
  | note inner =>
    unfold runHost
    refine (balanced_runHost balanced message inner).bind fun value => ?_
    refine Balanced.bind (?_ : Act.Balanced _ _ _ _ fun _ => 0) fun _ => .pure rfl
    exact .change fun _ => ⟨rfl, rfl, .of_same rfl rfl rfl⟩
  | attempt inner =>
    unfold runHost
    refine (balanced_runHost balanced message inner).outcome.bind fun result => ?_
    cases result <;> exact .pure rfl
  | sequence steps =>
    unfold runHost
    exact (balanced_runHosts balanced message steps).bind fun _ => .pure rfl
  | store register inner =>
    unfold runHost
    refine (balanced_runHost balanced message inner).bind fun value => ?_
    exact (balanced_store register (.host value) 0).bind fun _ => .pure rfl
  | processCall name argument =>
    unfold runHost
    refine (balanced_runHost balanced message argument).bind fun argument => ?_
    exact ((Engine.balanced_processCall balanced name (some argument)).adapt _).bind fun _ => .pure rfl
  | processText inner =>
    unfold runHost
    refine (balanced_runHost balanced message inner).bind fun proxy => ?_
    exact ((Engine.balanced_processText balanced proxy).adapt _).bind fun _ => .pure rfl
  | processMethod proxy name arguments =>
    unfold runHost
    refine (balanced_runHost balanced message proxy).bind fun proxy => ?_
    refine (balanced_runHosts balanced message arguments).bind fun arguments => ?_
    exact (Engine.balanced_processMethod balanced proxy name arguments).adapt _
  | processDefine className base methods =>
    unfold runHost
    refine (balanced_runHost balanced message methods).bind fun methods => ?_
    exact ((Engine.balanced_processDefine balanced message.receiver className base methods).adapt _).bind
      fun _ => .pure rfl
  | processFinalize =>
    unfold runHost
    exact (Bridge.balanced_finalizeProcess.adapt _).bind fun _ => .pure rfl
  | sessionCall session name argument =>
    unfold runHost
    refine balanced_withSession session fun session => ?_
    refine (balanced_runHost balanced message argument).bind fun argument => ?_
    exact ((Engine.balanced_callFunction balanced session name (some argument)).adapt _).bind
      fun _ => .pure rfl
  | sessionDefine session className base methods =>
    unfold runHost
    refine balanced_withSession session fun session => ?_
    exact ((Engine.balanced_defineClass balanced session message.receiver className base methods).adapt _).bind
      fun _ => .pure rfl
  | sessionClose session =>
    unfold runHost
    refine balanced_withSession session fun session => ?_
    refine (Bridge.balanced_close session).outcome.bind fun result => ?_
    cases result <;> exact .pure rfl

theorem balanced_runHosts (balanced : engine.Balanced) (message : Message) (bodies : List HostBody) :
    Act.Balanced .lasting borrowed 0 (runHosts engine message bodies) fun _ => 0 := by
  cases bodies with
  | nil =>
    unfold runHosts
    exact .pure rfl
  | cons body rest =>
    unfold runHosts
    refine (balanced_runHost balanced message body).bind fun value => ?_
    exact (balanced_runHosts balanced message rest).bind fun _ => .pure rfl

end

end Host

end Script

end ObjectBridge

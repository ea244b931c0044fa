import ObjectBridge.Proofs.Host.Dispatch
import ObjectBridge.Proofs.Tracing.Opening
import ObjectBridge.Proofs.World.Arguments
import ObjectBridge.Proofs.World.Identity
import ObjectBridge.Proofs.World.Listing
import ObjectBridge.Proofs.World.Returns

/-!
Messages to proxies. The class of proxies has three methods of its own. Any other message to a proxy does what its
session does when it is asked to call the method of the object, and what fails there fails here in the words of the
Host.
-/

namespace ObjectBridge

open Guest (Handle)
open World (CoversHolders CoversRuns FreeOfSpaces)

namespace Host

variable {μ ν : Type}

theorem Class.findMethod_build {methods : List (String × μ)} (number : Nat) (name : String)
    (once : (methods.map fun method => Text.asciiUppercase method.1).Nodup) {message : String} {body : μ} :
    (build number name none methods).findMethod message = some body ↔
      ∃ own, (own, body) ∈ methods ∧ Text.equalIgnoringAsciiCase message own := by
  have keys : ((methods.map fun method => (Text.asciiUppercase method.1, method.2)).map (·.1)).Nodup := by
    rwa [List.map_map]
  have found : (build number name none methods).findMethod message =
      (Bindings.ofList (methods.map fun method => (Text.asciiUppercase method.1, method.2))).get?
        (Text.asciiUppercase message) := by
    simp [findMethod, chain, build]
  rw [found, Bindings.get?_ofList_eq_some keys]
  simp only [List.mem_map, Prod.mk.injEq, Prod.exists, Text.equalIgnoringAsciiCase, beq_iff_eq]
  constructor
  · rintro ⟨own, _, listed, same, rfl⟩
    exact ⟨own, listed, same.symm⟩
  · rintro ⟨own, listed, same⟩
    exact ⟨own, body, listed, same.symm, rfl⟩

end Host

theorem Guest.Space.type_of_instance {β : Type} {space : Space β} {handle type : Handle}
    (kind : space.kind? handle = some .object) (typed : space.typeOf handle = .ok type) :
    ∃ contents, space.heap.get? handle = some (.object contents) ∧ contents.type = type := by
  obtain ⟨object, found, same⟩ := Option.map_eq_some_iff.mp kind
  cases object <;> cases same
  rename_i contents
  refine ⟨contents, found, ?_⟩
  unfold typeOf at typed
  rcases rooted : space.rootsNow with _ | roots
  · simp [rooted, bind, Except.bind] at typed
  · have started := rootsNow_eq_ok.mp rooted
    have shown := object_eq_ok.mpr ⟨by rw [started, Option.isSome_some], found⟩
    simpa [rooted, shown, bind, Except.bind, pure, Except.pure] using typed

namespace World

variable {world : World} {session : Session}

def KeepsClasses (before after : World) : Prop :=
  ∀ id, (after.host id).classes = (before.host id).classes

theorem hosts_dropModule (world : World) (session : Session) : (world.dropModule session).hosts = world.hosts := by
  unfold dropModule
  split <;> rfl

theorem hosts_dropSession (world : World) (session : Session) : (world.dropSession session).hosts = world.hosts := by
  unfold dropSession
  extract_lets fewer
  split
  · rfl
  · exact hosts_dropModule fewer session

theorem KeepsClasses.of_hosts {before after : World} (same : after.hosts = before.hosts) :
    KeepsClasses before after := by
  intro id
  rw [host, host, same]

instance : FreeOfSpaces KeepsClasses where
  refl _ _ := rfl
  trans _ _ _ one two id := (two id).trans (one id)
  of_kept kept := kept.classes

instance : CoversHolders KeepsClasses where
  hold _ := .of_hosts rfl
  drop world session := .of_hosts (world.hosts_dropSession session)
  close world session := .of_hosts (world.hosts_dropModule session)
  enter _ _ _ := .of_hosts rfl

instance : CoversRuns KeepsClasses where
  finalize world := by
    unfold Bridge.finalizeProcess
    rw [Act.run_get_bind]
    cases world.current with
    | none => exact refl_of KeepsClasses world
    | some session => exact trans_of KeepsClasses (.of_hosts rfl) (Bridge.respects_retire session "finalize" _)

theorem dropSession_holdSession {other : Session} (alive : world.aliveSession? session.id = some other) :
    (world.holdSession session).dropSession session = world := by
  have same : (world.holdSession session).updateSession session.id
      (fun state => { state with holders := state.holders - 1 }) = world := by
    have sessions : (world.sessions.modify session.id.index fun state =>
        { state with holders := state.holders + 1 }).modify session.id.index
          (fun state => { state with holders := state.holders - 1 }) = world.sessions := by
      refine Array.ext_getElem? fun index => ?_
      simp only [Array.getElem?_modify]
      split
      · cases world.sessions[index]? <;> rfl
      · rfl
    simp only [holdSession, updateSession, sessions]
  unfold dropSession
  simp only [same, alive]

theorem Resembles.dropSession {after : World} {other : Session} (alive : world.aliveSession? session.id = some other)
    (resembles : (world.holdSession session).Resembles after) : world.Resembles (after.dropSession session) := by
  obtain ⟨objects, tables, spaces, trace, rfl⟩ := resembles
  let changed : World := { world with spaces, trace }
  have same : (changed.holdSession session).dropSession session = changed := dropSession_holdSession alive
  have again : ({ world.holdSession session with spaces, trace } : World) = changed.holdSession session := rfl
  rw [again, same]
  exact ⟨objects, tables, spaces, trace, rfl⟩

end World

namespace Engine

open Act Bridge

variable {engine : Engine} {world opened : World} {session : Session} {host : Host.HostId} {config : Config}

theorem proxyClass_of_openSession (respects : engine.Respects World.KeepsClasses)
    (free : (world.host host).findClass config.proxyClass = none)
    (ran : (engine.openSession host config).run world = (.ok session, opened)) :
    ∃ number, session.proxyClass = .build number config.proxyClass none proxyMethods := by
  rw [openSession_eq] at ran
  obtain ⟨entered, between, ranEnter, ran⟩ := run_bind_eq_ok.mp ran
  obtain ⟨-, imported⟩ := run_enterModule_ok ranEnter
  have importing : world.KeepsClasses between := by
    have kept := respects_importModule respects world.addSpace.1 config.moduleName (prepared world config)
    rwa [imported] at kept
  obtain ⟨switched, kept, ranRecord⟩ : ∃ switched, between.KeepsClasses switched ∧
      (recordSession host config entered.1 entered.2).run switched = (.ok session, opened) := by
    split at ran
    · obtain ⟨_, switched, ranSwitch, ranRecord⟩ := run_bind_eq_ok.mp ran
      have switches : Act.Respects World.KeepsClasses (engine.switchOn entered.1 entered.2) :=
        (Respects.onFailureReleaseOne _ ((respects_callMethod respects _ _ _ _).adapt _)).bind fun switched =>
          Respects.release switched
      have kept := switches between
      rw [ranSwitch] at kept
      exact ⟨switched, kept, ranRecord⟩
    · exact ⟨between, refl_of World.KeepsClasses between, ran⟩
  obtain ⟨family, _, ranFamily, ranRecord⟩ := run_bind_eq_ok.mp ranRecord
  obtain ⟨_, _, -, ranRecord⟩ := run_bind_eq_ok.mp ranRecord
  cases ranRecord
  have freeThen : (switched.host host).findClass config.proxyClass = none := by
    rw [Host.Interpreter.findClass, kept host, importing host]
    exact free
  rw [run_step, proxyClassFor, freeThen] at ranFamily
  cases ranFamily
  exact ⟨_, rfl⟩

def forHost {α : Type} (session : Session) (act : BridgeAct α) : HostAct α :=
  Script.asHost (holding session act)

theorem run_forHost {α : Type} (act : BridgeAct α) (world : World) :
    (forHost session act).run world = ((act.run (world.holdSession session)).1.mapError (·.toHost),
      (act.run (world.holdSession session)).2.dropSession session) :=
  rfl

def DefinesText (world : World) (value : Ref) : Prop :=
  ∃ contents, world.get? value = some (.object contents) ∧
    ((world.space value.space).lookup contents.type "__str__").isSome

variable {frame : Multiset Ref} {value : Ref}

theorem settles_str (engine : Engine) (exact : world.Exact frame) (typed : (world.space value.space).Typed)
    (plain : ¬DefinesText world value) :
    Act.Settles .temporary world 0 (engine.str value.space value) fun _ => 0 := by
  have exact : world.Exact (0 + frame) := by rwa [zero_add]
  unfold str
  refine (Balanced.view _).settles_bind exact fun kind _ ranKind exact => ?_
  cases ranKind
  split
  · rename_i object
    have takes : Act.Balanced .temporary [] 0 (ownedBy value.space do
        Guest.Space.acquire (← Guest.Space.read (·.typeOf value.handle))) ({·}) :=
      .ownedBy (Guest.Op.Balanced.read.bind fun type => Guest.Space.balanced_acquire .temporary type)
    refine takes.settles_bind exact fun type between ranType exactBetween => ?_
    have undefined : (between.space value.space).lookup type.handle "__str__" = none := by
      have grown := ((takes.leads_ok exact ranType).extends exact).spaces value.space
      obtain ⟨_, ranOp, -, -⟩ := run_ownedBy_eq_ok.mp ranType
      obtain ⟨_, _, looked, acquired⟩ := Guest.Op.run_bind_eq_ok.mp ranOp
      obtain ⟨typeOf, rfl⟩ := Guest.Op.run_read_eq_ok.mp looked
      obtain ⟨-, same, -⟩ := Guest.Space.acquire_eq_ok.mp acquired
      have closed := (exact.spaces value.space).closed typed
      rw [closed.lookup_eq grown.sameTypes (same ▸ closed.has_typeOf typeOf), same]
      obtain ⟨contents, found, rfl⟩ := Guest.Space.type_of_instance object typeOf
      by_contra defined
      exact plain ⟨contents, found, Option.isSome_iff_ne_none.mpr defined⟩
    have none : (lookup value.space type "__str__").run between = (.ok none, between) := by
      unfold lookup
      rw [run_get_bind, undefined]
      rfl
    have asked : between.Exact ((([type] : List Ref) : Multiset Ref) + frame) := exactBetween
    have alone : between.Exact (0 + (([type] : List Ref) : Multiset Ref) + frame) := by rwa [zero_add]
    refine Settles.bind (?_ : Act.Settles .temporary between {type} _ fun _ => 0) fun own _ => ?_
    · refine Settles.lending ?_ asked
      rw [add_assoc] at alone
      refine (balanced_lookup type "__str__").settles_bind alone fun method _ ran _ => ?_
      cases none.symm.trans ran
      exact .pure rfl
    · cases own with
      | some text => exact .pure rfl
      | none => exact .get_bind (.lift _ fun _ _ => rfl)
  · exact (Balanced.onView _).settles exact

theorem target_of_run {key : String} {proxy : HostValue} {object : Ref} {after : World}
    (proxyFor : ProxyFor session value key proxy) (ran : (target session proxy).run world = (.ok object, after)) :
    object = { space := session.space, handle := value.handle } ∧ (world.get? object).isSome := by
  obtain ⟨content, rfl, -, carried⟩ := proxyFor
  rw [target, carried] at ran
  obtain ⟨-, ran⟩ := run_dereference_eq_ok.mp ran
  obtain ⟨_, acquired, here, -⟩ := run_ownedBy_eq_ok.mp ran
  obtain ⟨⟨contents, shown⟩, same, -⟩ := Guest.Space.acquire_eq_ok.mp acquired
  obtain ⟨space, handle⟩ := object
  obtain rfl : space = session.space := here
  obtain rfl : handle = value.handle := same
  exact ⟨rfl, Option.isSome_iff_exists.mpr ⟨contents, (Guest.Space.object_eq_ok.mp shown).2⟩⟩

theorem settles_proxyText (engine : Engine) {key : String} {proxy : HostValue} (exact : world.Exact frame)
    (typed : (world.space session.space).Typed) (proxyFor : ProxyFor session value key proxy)
    (plain : ¬DefinesText world { space := session.space, handle := value.handle }) :
    Act.Settles .temporary world 0 (engine.proxyText session proxy) fun _ => 0 := by
  have alone : world.Exact (0 + frame) := by rwa [zero_add]
  have targets : Act.Balanced .temporary [] 0 (target session proxy) ({·}) := balanced_target session _
  refine targets.settles_bind alone fun object between ran exactBetween => ?_
  have leads := targets.leads_ok alone ran
  obtain ⟨rfl, there⟩ := target_of_run proxyFor ran
  let object : Ref := { space := session.space, handle := value.handle }
  have same (ref : Ref) : between.get? ref = world.get? ref :=
    leads.get?_of_old exact (fun ref member => by rwa [Multiset.mem_singleton.mp member]) ref
  have plainThen : ¬DefinesText between object := by
    rintro ⟨contents, found, defined⟩
    rw [same] at found
    have closed := (exact.spaces session.space).closed typed
    have type : (world.space session.space).Has contents.type :=
      closed.children value.handle _ found contents.type (by simp [Guest.Object.children])
    rw [closed.lookup_eq ((leads.extends exact).spaces session.space).sameTypes type] at defined
    exact plain ⟨contents, found, defined⟩
  have texts := settles_str engine exactBetween (leads.typed typed) plainThen
  have lent : between.Exact ((([object] : List Ref) : Multiset Ref) + frame) := exactBetween
  exact Settles.lending (texts.adapt _) lent

section Made

variable {start made : World} {proxy : HostValue} {make : SpaceId → GuestAct Ref} {depth : Nat}

def openWithProxy (engine : Engine) (host : Host.HostId) (config : Config) (make : SpaceId → GuestAct Ref) :
    BridgeAct (Session × Ref × HostValue) := do
  let session ← engine.openSession host config
  let value ← asBridge (make session.space)
  let proxy ← engine.makeProxy session value
  return (session, value, proxy)

theorem reached_openWithProxy (reached : start.Reached 0) (known : host.index < start.hosts.size)
    (balanced : ∀ space, Act.Balanced .lasting [] 0 (make space) ({·}))
    (keeps : ∀ space, Act.Respects World.KeepsNames (make space))
    (ran : ((ofDepth depth).openWithProxy host config make).run start = (.ok (session, value, proxy), made))
    (alive : (made.aliveSession? session.id).isSome) :
    ∃ opened before, ((ofDepth depth).openSession host config).run start = (.ok session, opened) ∧
      ((ofDepth depth).makeProxy session value).run before = (.ok proxy, made) ∧ made.Reached {value} ∧
        made.aliveSession? session.id = some session := by
  obtain ⟨_, opened, ranOpen, ran⟩ := run_bind_eq_ok.mp ran
  obtain ⟨_, before, ranMake, ran⟩ := run_bind_eq_ok.mp ran
  obtain ⟨_, _, ranProxy, ran⟩ := run_bind_eq_ok.mp ran
  cases ran
  have ranMake := run_adapt_eq_ok.mp ranMake
  have engineKeeps : (ofDepth depth).Respects World.KeepsNames := respects_ofDepth depth
  have exact : start.Exact (0 + 0) := by simpa using reached.exact
  have opens := @balanced_openSession .counting _ (balanced_ofDepth depth) [] host config start 0 exact
    (List.forall_mem_nil _) known
  have named := respects_openSession engineKeeps host config start reached.named
  rw [Settles, ranOpen] at opens
  rw [ranOpen] at named
  have reachedOpened : opened.Reached (0 + 0) := ⟨reached.leads.trans opens, named⟩
  have reachedBefore : before.Reached ({value} + 0) := by
    have after := reachedOpened.run (balanced session.space) (keeps session.space) (List.forall_mem_nil _)
    rwa [ranMake] at after
  have making : Act.Balanced .lasting [value] 0 ((ofDepth depth).makeProxy session value) fun _ => 0 :=
    balanced_makeProxy (balanced_ofDepth depth) session (List.mem_singleton_self value)
  have lent : ∀ ref ∈ [value], ref ∈ ({value} : Multiset Ref) := by simp
  rw [add_comm] at reachedBefore
  have reachedMade : made.Reached (0 + {value}) := by
    have after := reachedBefore.run making (respects_makeProxy engineKeeps session value) lent
    rwa [ranProxy] at after
  refine ⟨opened, before, ranOpen, ranProxy, by rwa [zero_add] at reachedMade, World.Records.alive ?_ alive⟩
  have steady := (balanced session.space).leads_ok reachedOpened.exact ranMake
  have steady' := making.leads_ok_of_lent reachedBefore.exact lent ranProxy
  obtain ⟨state, recorded, -, same⟩ := World.aliveSession?_eq_some.mp (leaves_openSession _ host config _ _ _ ranOpen)
  have records : opened.Records session := ⟨state, recorded, same⟩
  exact (records.of_steady steady.steady).of_steady steady'.steady

end Made

section Proxy

variable {key : String} {proxy : HostValue} {later : World}

theorem answering_proxy {number : Nat} {name : String} (proxyFor : ProxyFor session value key proxy)
    (built : session.proxyClass = .build number name none proxyMethods) (interpreter : Host.Interpreter Method)
    (message : String) (arguments : List HostValue) :
    interpreter.answering proxy message arguments =
      if Text.equalIgnoringAsciiCase message "IDENTITY" then .ok (.identity, arguments)
      else if Text.equalIgnoringAsciiCase message "STRING" then .ok (.text, arguments)
      else if Text.equalIgnoringAsciiCase message Host.unknownMessage then .ok (.forward, arguments)
      else .ok (.forward, [.text message, .array arguments]) := by
  obtain ⟨content, rfl, family, -⟩ := proxyFor
  have once : (proxyMethods.map fun method => Text.asciiUppercase method.1).Nodup := by decide
  have answers (message : String) (body : Method) : (Host.Class.build number name none proxyMethods).findMethod message =
      some body ↔ _ := Host.Class.findMethod_build number name once
  have unknown := (answers Host.unknownMessage .forward).mpr ⟨Host.unknownMessage, by simp [proxyMethods], by decide⟩
  simp only [Host.Interpreter.answering, Host.Interpreter.classOf, family, built]
  split_ifs with identity text forward
  · rw [(answers message .identity).mpr ⟨_, by simp [proxyMethods], identity⟩]
  · rw [(answers message .text).mpr ⟨_, by simp [proxyMethods], text⟩]
  · rw [(answers message .forward).mpr ⟨_, by simp [proxyMethods], forward⟩]
  · have none : (Host.Class.build number name none proxyMethods).findMethod message = none := by
      refine Option.eq_none_iff_forall_ne_some.mpr fun body found => ?_
      obtain ⟨own, listed, same⟩ := (answers message body).mp found
      simp only [proxyMethods, List.mem_cons, Prod.mk.injEq, List.not_mem_nil, or_false] at listed
      rcases listed with ⟨rfl, -⟩ | ⟨rfl, -⟩ | ⟨rfl, -⟩
      · exact identity same
      · exact text same
      · exact forward same
    rw [none, unknown]

theorem run_withOwner {α : Type} (proxyFor : ProxyFor session value key proxy)
    (alive : later.aliveSession? session.id = some session) (operation : Session → HostAct α) :
    (withOwner proxy operation).run later = (holding session (operation session)).run later := by
  obtain ⟨_, -, -, carried⟩ := proxyFor
  have proxied : (proxied proxy).run later = (.ok { key, target := value.handle, session := session.id }, later) := by
    rw [Engine.proxied, carried]
    rfl
  unfold withOwner
  rw [run_bind_ok proxied, run_get_bind, alive]

section Methods

variable (engine : Engine) (id : Host.HostId) (arguments : List HostValue)
  (proxyFor : ProxyFor session value key proxy) (alive : later.aliveSession? session.id = some session)
include proxyFor

theorem run_identity (world : World) :
    (engine.runMethod id proxy .identity arguments).run world = (.ok (.text key), world) := by
  obtain ⟨_, -, -, carried⟩ := proxyFor
  rw [runMethod, proxied, carried]
  rfl

include alive

theorem run_text : (engine.runMethod id proxy .text arguments).run later =
    (forHost session do return .text (← engine.proxyText session proxy)).run later := by
  rw [runMethod, run_withOwner proxyFor alive, run_holding, run_forHost, run_bind, run_bind, Script.asHost, run_adapt]
  rcases (engine.proxyText session proxy).run (later.holdSession session) with ⟨error | text, after⟩ <;> rfl

theorem run_forward (name : String) (rest : List HostValue) :
    (engine.runMethod id proxy .forward (.text name :: rest)).run later =
      (forHost session (engine.callProxy session proxy name ((rest.head?.bind (·.items?)).getD []))).run later := by
  have second : (Host.Value.text name :: rest : List HostValue)[1]? = rest.head? := by cases rest <;> rfl
  rw [runMethod, run_withOwner proxyFor alive, second]
  rfl

theorem run_forward_unnamed (unnamed : arguments.head?.bind (·.text?) = none) :
    (engine.runMethod id proxy .forward arguments).run later =
      (.error (.condition "missing message name"), later) := by
  rw [runMethod, run_withOwner proxyFor alive, unnamed, run_holding]
  exact congrArg _ (World.dropSession_holdSession alive)

end Methods

theorem resembles_text (engine : Engine) {held : Multiset Ref} (reached : later.Reached held)
    (alive : later.aliveSession? session.id = some session) (proxyFor : ProxyFor session value key proxy)
    (plain : ¬DefinesText later { space := session.space, handle := value.handle }) :
    later.Resembles
      ((forHost session do return .text (← engine.proxyText session proxy) : HostAct HostValue).run later).2 := by
  have taken : World.Leads .lasting (later, 0) (later.holdSession session, 0) := World.leads_holdSession session
  have exactHeld : (later.holdSession session).Exact held := by
    simpa only [zero_add] using taken.exact (by rw [zero_add]; exact reached.exact)
  have typed : ((later.holdSession session).space session.space).Typed := reached.leads.typed (World.typed_empty _)
  have settles := settles_proxyText engine exactHeld typed proxyFor plain
  rw [Settles, left_zero] at settles
  have resembles := (settles.resembles exactHeld).dropSession alive
  rw [run_forHost, run_bind]
  rcases ran : (engine.proxyText session proxy).run (later.holdSession session) with ⟨error | text, after⟩ <;>
    (rw [ran] at resembles; exact resembles)

/-- A proxy of the session does in this world what the object that it was made for does. -/
structure ActsFor (engine : Engine) (session : Session) (value : Ref) (proxy : HostValue) (world : World) : Prop where
  others : ∀ id message arguments, Text.asciiUppercase message ∉ proxyMethods.map (·.1) →
    (engine.next.send id proxy message arguments).run world =
      (forHost session (engine.callProxy session proxy message arguments)).run world
  identity : ∀ id message arguments, Text.equalIgnoringAsciiCase message "IDENTITY" →
    ∃ key, key? proxy = some key ∧ (engine.next.send id proxy message arguments).run world = (.ok (.text key), world)
  text : ∀ id message arguments, Text.equalIgnoringAsciiCase message "STRING" →
    (engine.next.send id proxy message arguments).run world =
      (forHost session do return .text (← engine.proxyText session proxy)).run world
  untouched : ∀ id message arguments, Text.equalIgnoringAsciiCase message "STRING" →
    ¬DefinesText world { space := session.space, handle := value.handle } →
      world.Resembles ((engine.next.send id proxy message arguments).run world).2
  named : ∀ id message name rest, Text.equalIgnoringAsciiCase message Host.unknownMessage →
    (engine.next.send id proxy message (.text name :: rest)).run world =
      (forHost session (engine.callProxy session proxy name ((rest.head?.bind (·.items?)).getD []))).run world
  unnamed : ∀ id message arguments, Text.equalIgnoringAsciiCase message Host.unknownMessage →
    arguments.head?.bind (·.text?) = none →
      (engine.next.send id proxy message arguments).run world = (.error (.condition "missing message name"), world)

/-- Where the class of its proxies was built when a session was opened, a proxy that the session made acts for its
object, at all times at which someone holds the session. -/
theorem proxy_acts_for_object {depth : Nat}
    (free : (world.host host).findClass config.proxyClass = none)
    (opens : ((ofDepth depth).openSession host config).run world = (.ok session, opened))
    {maker : Engine} {before made : World} (makes : (maker.makeProxy session value).run before = (.ok proxy, made))
    {held : Multiset Ref} (reached : later.Reached held) (alive : later.aliveSession? session.id = some session) :
    ActsFor engine session value proxy later := by
  obtain ⟨number, built⟩ := proxyClass_of_openSession (respects_ofDepth depth) free opens
  obtain ⟨key, -, -, proxyFor, -⟩ := proxy_of_run makes
  have sent (id : Host.HostId) (message : String) (arguments : List HostValue) :
      (engine.next.send id proxy message arguments).run later = _ := run_deliver engine id proxy message arguments
  simp only [answering_proxy proxyFor built] at sent
  have apart {message own other : String} (same : Text.equalIgnoringAsciiCase message own)
      (differ : Text.asciiUppercase own ≠ Text.asciiUppercase other) :
      ¬Text.equalIgnoringAsciiCase message other := by
    simp only [Text.equalIgnoringAsciiCase, beq_iff_eq] at same ⊢
    rwa [same]
  have asText (id : Host.HostId) (message : String) (arguments : List HostValue)
      (same : Text.equalIgnoringAsciiCase message "STRING") :
      (engine.next.send id proxy message arguments).run later =
        (forHost session do return .text (← engine.proxyText session proxy)).run later := by
    rw [sent, if_neg (apart same (by decide)), if_pos same]
    exact run_text engine id arguments proxyFor alive
  have forwarded (id : Host.HostId) (message : String) (arguments : List HostValue)
      (same : Text.equalIgnoringAsciiCase message Host.unknownMessage) :
      (engine.next.send id proxy message arguments).run later =
        (engine.runMethod id proxy .forward arguments).run later := by
    rw [sent, if_neg (apart same (by decide)), if_neg (apart same (by decide)), if_pos same]
  exact {
    others := fun id message arguments other => by
      have unlike (own : String) (listed : Text.asciiUppercase own ∈ proxyMethods.map (·.1)) :
          ¬Text.equalIgnoringAsciiCase message own := by
        intro same
        rw [Text.equalIgnoringAsciiCase, beq_iff_eq] at same
        exact other (same ▸ listed)
      rw [sent, if_neg (unlike _ (by decide)), if_neg (unlike _ (by decide)), if_neg (unlike _ (by decide))]
      exact run_forward engine id proxyFor alive message [.array arguments]
    identity := fun id message arguments same => by
      refine ⟨key, ?_, ?_⟩
      · obtain ⟨_, -, -, carried⟩ := proxyFor
        rw [key?, carried, Option.map_some]
      · rw [sent, if_pos same]
        exact run_identity engine id arguments proxyFor later
    text := asText
    untouched := fun id message arguments same plain => by
      rw [asText id message arguments same]
      exact resembles_text engine reached alive proxyFor plain
    named := fun id message name rest same => by
      rw [forwarded id message _ same]
      exact run_forward engine id proxyFor alive name rest
    unnamed := fun id message arguments same unnamed => by
      rw [forwarded id message _ same]
      exact run_forward_unnamed engine id arguments proxyFor alive unnamed }

/-- A proxy of a string, of a session that was opened on an interpreter that was just started. -/
theorem proxy_acts_for_object_text :
    let start := Console.after (.ofDepth 1)
      [{ action := .host .classCount, place := none, host := "", result := none, keyed := false }] .empty
    let host : Host.HostId := { index := 0 }
    let config : Config := { moduleName := "m", debug := false, proxyClass := "Proxy" }
    ∃ session opened value before proxy made, (start.host host).findClass config.proxyClass = none ∧
      ((ofDepth 1).openSession host config).run start = (.ok session, opened) ∧
        ((ofDepth 1).makeProxy session value).run before = (.ok proxy, made) ∧ made.Reached {value} ∧
          made.aliveSession? session.id = some session ∧ ActsFor (ofDepth 1) session value proxy made := by
  intro start host config
  let make (space : SpaceId) : GuestAct Ref := ownedBy space (Guest.Space.newText "x")
  obtain ⟨free, known, opens⟩ : ((start.host host).findClass config.proxyClass).isNone ∧ host.index < start.hosts.size ∧
      ((((ofDepth 1).openWithProxy host config make).run start).1.toOption.any fun answer =>
        ((((ofDepth 1).openWithProxy host config make).run start).2.aliveSession? answer.1.id).isSome) = true := by
    decide +kernel
  have reached : start.Reached 0 := Console.reached_after 1 _
  clear_value start
  rcases ran : ((ofDepth 1).openWithProxy host config make).run start with ⟨error | ⟨session, value, proxy⟩, made⟩
  all_goals rw [ran] at opens
  · cases opens
  · obtain ⟨opened, before, ranOpen, ranProxy, reachedMade, alive⟩ := reached_openWithProxy reached known
      (fun _ => .ownedBy (Guest.Space.balanced_newText .lasting "x")) (fun _ => .ownedBy _ _) ran opens
    have free := Option.isNone_iff_eq_none.mp free
    exact ⟨session, opened, value, before, proxy, made, free, ranOpen, ranProxy, reachedMade, alive,
      proxy_acts_for_object free ranOpen ranProxy reachedMade alive⟩

def makeMarked (engine : Engine) (space : SpaceId) : GuestAct Ref := do
  let mark : Script.GuestBody := .sequence
    [.setattr (.argument 0) "shown" (.literal (.text "yes")), .literal (.text "marked")]
  let function ← ownedBy space (Guest.Space.newFunction "mark" none (.script mark))
  lending [function] do
    let type ← ownedBy space (Guest.Space.newType "Marked" [] [("__str__", function.handle)])
    lending [type] (engine.call space type [] [])

theorem balanced_makeMarked (balanced : engine.Balanced) (space : SpaceId) :
    Act.Balanced .lasting [] 0 (engine.makeMarked space) ({·}) := by
  refine (Balanced.ownedBy (Guest.Space.balanced_newFunction .lasting "mark" none _)).bind fun function => ?_
  refine Balanced.lending ?_ rfl
  refine (Balanced.ownedBy (Guest.Space.balanced_newType .lasting "Marked" _ _)).bind fun type => ?_
  exact (balanced.call space type [] [] (List.forall_mem_nil _) (List.forall_mem_nil _)).lending rfl

theorem respects_makeMarked {relation : World → World → Prop} [World.CoversObjects relation]
    (respects : engine.Respects relation) (space : SpaceId) : Act.Respects relation (engine.makeMarked space) :=
  (Respects.ownedBy _ _).bind fun _ => Respects.lending _ <|
    (Respects.ownedBy _ _).bind fun _ => (respects.call _ _ _ _).lending _

/-- The message for all others is not sent on, and the text of an object may be told by code that sets its
attributes. -/
theorem unknown_is_not_sent_on :
    let start := Console.after (.ofDepth 1)
      [{ action := .host .classCount, place := none, host := "", result := none, keyed := false }] .empty
    let host : Host.HostId := { index := 0 }
    let config : Config := { moduleName := "m", debug := false, proxyClass := "Proxy" }
    ∃ session opened value before proxy made, (start.host host).findClass config.proxyClass = none ∧
      ((ofDepth 2).openSession host config).run start = (.ok session, opened) ∧
        ((ofDepth 2).makeProxy session value).run before = (.ok proxy, made) ∧ made.Reached {value} ∧
          made.aliveSession? session.id = some session ∧
      (((ofDepth 2).next.send host proxy "UNKNOWN" []).run made).1 ≠
        ((forHost session ((ofDepth 2).callProxy session proxy "UNKNOWN" [])).run made).1 ∧
      (((ofDepth 2).next.send host proxy "STRING" []).run made).2.get? value ≠ made.get? value := by
  intro start host config
  let shows (object : Option (Guest.Object Code)) : Bool :=
    object.any fun object => (object.entries.get? "shown").isSome
  obtain ⟨free, known, opens⟩ : ((start.host host).findClass config.proxyClass).isNone ∧ host.index < start.hosts.size ∧
      ((((ofDepth 2).openWithProxy host config (makeMarked (ofDepth 2))).run start).1.toOption.any fun answer =>
        let made := (((ofDepth 2).openWithProxy host config (makeMarked (ofDepth 2))).run start).2
        (made.aliveSession? answer.1.id).isSome &&
          (((ofDepth 2).next.send host answer.2.2 "UNKNOWN" []).run made).1.map (fun _ => ()) !=
            ((forHost answer.1 ((ofDepth 2).callProxy answer.1 answer.2.2 "UNKNOWN" [])).run made).1.map (fun _ => ()) &&
          shows ((((ofDepth 2).next.send host answer.2.2 "STRING" []).run made).2.get? answer.2.1) &&
          !shows (made.get? answer.2.1)) = true := by
    decide +kernel
  have reached : start.Reached 0 := Console.reached_after 1 _
  clear_value start
  rcases ran : ((ofDepth 2).openWithProxy host config (makeMarked (ofDepth 2))).run start with
    ⟨error | ⟨session, value, proxy⟩, made⟩
  all_goals rw [ran] at opens
  · cases opens
  · simp only [Except.toOption, Option.any_some, Bool.and_eq_true, bne_iff_ne, Bool.not_eq_true'] at opens
    obtain ⟨⟨⟨alive, differ⟩, after⟩, unmarked⟩ := opens
    obtain ⟨opened, before, ranOpen, ranProxy, reachedMade, alive⟩ := reached_openWithProxy reached known
      (balanced_makeMarked (balanced_ofDepth 2)) (respects_makeMarked (respects_ofDepth 2)) ran alive
    refine ⟨session, opened, value, before, proxy, made, Option.isNone_iff_eq_none.mp free, ranOpen, ranProxy,
      reachedMade, alive, fun same => differ (by rw [same]), fun same => ?_⟩
    rw [same, unmarked] at after
    cases after

end Proxy

end Engine

end ObjectBridge

import ObjectBridge.Proofs.World.Callbacks
import ObjectBridge.Proofs.World.CommandHistories
import ObjectBridge.Proofs.World.Ended
import ObjectBridge.Proofs.World.Operations

/-!
Sessions that are closed or let go. In a session that was closed nothing can be done any more, wherever it was
closed. What a session leaves behind that everybody let go of leads nowhere: its methods raise before anything is
sent, and its proxies fail.
-/

namespace ObjectBridge

open Act Bridge

namespace Act

variable {ε ε' α γ : Type} {world after : World}

def Fails (act : Act ε α) (world : World) : Prop :=
  ∃ error, (act.run world).1 = .error error

theorem Fails.of_run {act : Act ε α} {error : ε} (ran : act.run world = (.error error, after)) : act.Fails world :=
  ⟨error, congrArg Prod.fst ran⟩

theorem Fails.throw (error : ε) : Fails (throw error : Act ε α) world :=
  ⟨error, rfl⟩

theorem Fails.bind {act : Act ε α} (fails : act.Fails world) (next : α → Act ε γ) :
    Fails (act >>= next) world := by
  obtain ⟨error, failed⟩ := fails
  rcases ran : act.run world with ⟨_ | value, after⟩
  · exact .of_run (run_bind_error ran next)
  · rw [ran] at failed
    cases failed

theorem Fails.bind_of {act : Act ε α} {next : α → Act ε γ} {value : α}
    (ran : act.run world = (.ok value, after)) (fails : (next value).Fails after) : Fails (act >>= next) world := by
  obtain ⟨error, failed⟩ := fails
  exact ⟨error, by rw [run_bind_ok ran, failed]⟩

theorem Fails.adapt {act : Act ε α} (fails : act.Fails world) (restate : ε → ε') :
    Fails (act.adapt restate) world := by
  obtain ⟨error, failed⟩ := fails
  exact ⟨restate error, by rw [run_adapt, failed]; rfl⟩

theorem Fails.lending {act : Act ε α} (fails : act.Fails world) (refs : List Ref) : Fails (lending refs act) world :=
  fails

theorem Fails.onFailure {act : Act ε α} (fails : act.Fails world) (undo : World → World) :
    Fails (act.onFailure undo) world := by
  obtain ⟨error, failed⟩ := fails
  rcases ran : act.run world with ⟨_ | value, after⟩
  · exact .of_run (by rw [run_onFailure, ran])
  · rw [ran] at failed
    cases failed

theorem Fails.traced {config : Config} {depth : Nat} {line : String} {next : Unit → Act ε α}
    (fails : ∀ trace, (next ()).Fails { world with trace }) :
    Fails (traceLine config depth line >>= next) world := by
  obtain ⟨trace, ran⟩ := run_traceLine (ε := ε) config depth line world
  exact .bind_of ran (fails trace)

end Act

namespace World

structure Shut (world : World) (session : Session) : Prop where
  taken : world.sessionModule? session = none
  ended : (world.space session.space).roots = none
  empty : (world.space session.space).heap = .empty

namespace Shut

variable {world : World} {session : Session} (shut : world.Shut session)
include shut

theorem with_trace (trace : Array String) : Shut { world with trace } session :=
  ⟨shut.taken, shut.ended, shut.empty⟩

theorem fails_dereference (reference : OpaqueReference) : (dereference session reference).Fails world := by
  unfold dereference
  refine .bind_of rfl ?_
  extract_lets owner
  split
  · exact (Fails.of_run (run_ownedBy_refused (Guest.Space.refuses_acquire _) shut.ended)).adapt _
  · exact .bind_of rfl (.throw _)

theorem fails_target (value : HostValue) : (target session value).Fails world := by
  unfold target
  split
  · exact shut.fails_dereference _
  · exact .throw _

theorem fails_moduleOf : (moduleOf session).Fails world := by
  unfold moduleOf
  refine .bind_of rfl ?_
  rw [shut.taken]
  exact .throw _

end Shut

variable {session : Session}

theorem Shut.fails_toGuestAt {world : World} (shut : world.Shut session) (depth : Nat) (value : HostValue) :
    (toGuestAt session depth value).Fails world := by
  unfold toGuestAt
  refine .traced fun trace => ?_
  have shutNow := shut.with_trace trace
  match value with
  | .nil => exact (Fails.of_run (run_ownedBy_refused Guest.Space.refuses_noneValue shutNow.ended)).adapt _
  | .text content => exact (Fails.of_run (run_ownedBy_refused (Guest.Space.refuses_allocate _) shutNow.ended)).adapt _
  | .array [] =>
    have converted : (itemsToGuest session (depth + 1) #[] []).run { world with trace } =
        (.ok [], { world with trace }) := by
      unfold itemsToGuest
      rfl
    refine .bind_of converted (Fails.lending ?_ _)
    exact (Fails.of_run (run_ownedBy_refused (Guest.Space.refuses_newTuple _) shutNow.ended)).adapt _
  | .array (item :: rest) =>
    refine Fails.bind ?_ _
    unfold itemsToGuest
    exact ((shutNow.fails_toGuestAt (depth + 1) item).onFailure _).bind _
  | .object content =>
    refine .bind_of rfl ?_
    extract_lets host
    split
    · split
      · exact shutNow.fails_dereference _
      · exact .throw _
    · exact .throw _

variable {world : World} (shut : world.Shut session)
include shut

theorem Shut.run_toHost {value : Ref} (own : value.space = session.space) :
    ∃ name, (toHost session value).run world = (.error (.unsupportedGuestType name), world) := by
  have gone : (world.space value.space).heap.get? value.handle = none := by
    rw [own, shut.empty, Guest.Heap.get?, Guest.Heap.cell?_empty, Option.map_none]
  rw [toHost, run_get_bind]
  cases (world.space value.space).depthBound with
  | zero => exact ⟨_, rfl⟩
  | succ levels =>
    have unknown : (kindOf value : BridgeAct (Option Guest.Kind)).run world = (.ok none, world) := by
      rw [run_kindOf, World.get?, gone, Option.map_none]
    rw [toHostWithin, run_bind_ok unknown]
    exact ⟨_, rfl⟩

section Engine

variable (engine : Engine)

theorem Shut.fails_registryCall (name : String) (arguments : List Ref) :
    (engine.registryCall session name arguments).Fails world :=
  shut.fails_moduleOf.bind _

theorem Shut.fails_makeProxy (value : Ref) : (engine.makeProxy session value).Fails world :=
  (shut.fails_registryCall engine _ _).bind _

theorem Shut.fails_toHostOrProxy {value : Ref} (own : value.space = session.space) :
    (engine.toHostOrProxy session value).Fails world := by
  obtain ⟨name, ran⟩ := shut.run_toHost own
  have converted : ((toHost session value).outcome : BridgeAct _).run world =
      (.ok (.error (.unsupportedGuestType name)), world) := by
    rw [run_outcome, ran]
  exact .bind_of converted (shut.fails_makeProxy engine value)

theorem Shut.fails_carryOut (operation : Operation) (own : ∀ ref ∈ operation.given, ref.space = session.space) :
    (operation.carryOut engine session).Fails world := by
  cases operation with
  | toGuest value => exact (shut.fails_toGuestAt 0 value).bind _
  | toHost value =>
    obtain ⟨name, ran⟩ := shut.run_toHost (own value (List.mem_singleton_self value))
    exact (Fails.of_run ran).bind _
  | toHostOrProxy value =>
    exact (shut.fails_toHostOrProxy engine (own value (List.mem_singleton_self value))).bind _
  | makeProxy value => exact (shut.fails_makeProxy engine value).bind _
  | callFunction name argument =>
    exact (Fails.traced fun trace => (shut.with_trace trace).fails_moduleOf.bind _).bind _
  | callMethod proxy name arguments => exact ((shut.fails_target proxy).bind _).bind _
  | stringValue proxy => exact ((shut.fails_target proxy).bind _).bind _
  | defineClass origin className base methods =>
    refine Fails.bind (Fails.bind (Fails.traced fun trace => ?_) _) _
    have shutNow := shut.with_trace trace
    cases nameFault? className methods with
    | some fault => exact (Fails.throw _).bind _
    | none => exact shutNow.fails_moduleOf.bind _

end Engine

omit shut in
theorem sessionModule?_dropModule (world : World) (session : Session) :
    (world.dropModule session).sessionModule? session = none := by
  unfold dropModule
  split
  · have taken : (world.updateSession session.id fun state => { state with module? := none }).sessionModule? session =
        none := by
      unfold sessionModule?
      rw [session?_updateSession, if_pos rfl]
      cases world.session? session.id <;> rfl
    exact taken
  · assumption

omit shut in
theorem sessionModule?_activate (world : World) (session : Session) (active : Option ActiveBinding) :
    (world.updateSession session.id fun state => { state with active }).sessionModule? session =
      world.sessionModule? session := by
  unfold sessionModule?
  rw [session?_updateSession, if_pos rfl]
  cases world.session? session.id <;> rfl

omit shut in
theorem Steady.sessionModule?_eq_none {before after : World} (steady : Steady before after)
    (records : before.Records session) (taken : before.sessionModule? session = none) :
    after.sessionModule? session = none := by
  obtain ⟨state, found, -⟩ := records
  obtain ⟨state', found', -, kept⟩ := steady.sessions session.id state found
  have none : state.module? = none := by simpa [sessionModule?, found] using taken
  have none' : state'.module? = Option.none := by simpa [none] using kept
  simp [sessionModule?, found', none']

theorem Shut.of_leads {later : World} {held held' : Multiset Ref} (records : world.Records session)
    (exact : world.Exact held) (known : session.space.index < world.spaces.size)
    (leads : Leads .lasting (world, held) (later, held')) : later.Shut session := by
  have exactLater : later.Exact held' := leads.exact_alone exact
  have ended : (later.space session.space).roots = none := leads.ended known shut.ended
  exact ⟨leads.steady.sessionModule?_eq_none records shut.taken, ended,
    ((exactLater.spaces session.space).ended ended).1⟩

end World

namespace Bridge

variable {world : World} {held : Multiset Ref} {session : Session}

theorem run_close_shut (taken : world.sessionModule? session = none) :
    (close session).run world = (.ok (), world) := by
  unfold close
  rw [run_get_bind, taken]
  rfl

theorem run_close {module : Ref} (opened : world.sessionModule? session = some module) :
    ∃ trace, (close session).run world = ((finalizeSpace session.space).adapt Error.finalizeFailure).run
      { (world.dropModule session).updateSession session.id fun state => { state with active := none } with
        trace } := by
  obtain ⟨trace, traced⟩ := run_traceLine (ε := Error) session.config 0 "session close"
    ((world.dropModule session).updateSession session.id fun state => { state with active := none })
  refine ⟨trace, ?_⟩
  unfold close
  rw [run_get_bind, opened]
  dsimp only
  rw [run_bind_ok (run_change _), run_bind_ok (run_change _), run_bind_ok traced]

theorem known_of_sessionModule? (exact : world.Exact held) (records : world.Records session)
    (opened : (world.sessionModule? session).isSome) : session.space.index < world.spaces.size := by
  obtain ⟨module, found⟩ := Option.isSome_iff_exists.mp opened
  obtain ⟨state, here, own⟩ := World.sessionModule?_eq_some.mp found
  obtain ⟨state', here', rfl⟩ := records
  obtain rfl : state' = state := Option.some.inj (here'.symm.trans here)
  obtain ⟨handle, -, rfl⟩ := Option.map_eq_some_iff.mp own
  exact exact.known _ (Multiset.mem_add.mpr (Or.inr (World.mem_outside_of_sessionModule? found)))

theorem shut_of_close {closed : World} {result : Except Error Unit} (exact : world.Exact held)
    (opened : (world.sessionModule? session).isSome) (ran : (close session).run world = (result, closed)) :
    (result = .ok () ∨ ∃ cause, result = .error (.finalizeFailure cause)) ∧ closed.Shut session ∧
      World.Leads .lasting (world, held) (closed, held) := by
  have framed : world.Exact (0 + held) := by rwa [zero_add]
  have settles : Settles .lasting world 0 (close session) fun _ => 0 :=
    (balanced_close session : Act.Balanced .lasting [] 0 _ _).settles framed
  have leads : World.Leads .lasting (world, held) (closed, held) := by
    rw [Settles, left_zero, ran] at settles
    have lasts := settles.frame (World.knows_add.mp exact.known).1
    rwa [zero_add] at lasts
  have exactClosed : closed.Exact held := leads.exact_alone exact
  obtain ⟨module, found⟩ := Option.isSome_iff_exists.mp opened
  obtain ⟨trace, ranClose⟩ := run_close found
  rw [ran, run_adapt] at ranClose
  obtain ⟨rfl, rfl⟩ := Prod.mk.inj ranClose
  rcases finalized : (finalizeSpace session.space).run
    { (world.dropModule session).updateSession session.id fun state => { state with active := none } with trace } with
    ⟨outcome, closed⟩
  rw [finalized] at exactClosed leads
  obtain ⟨rfl, ended, -⟩ := World.ended_of_run finalized
  refine ⟨?_, ⟨?_, ended, ((exactClosed.spaces session.space).ended ended).1⟩, leads⟩
  · cases outcome with
    | ok _ => exact Or.inl rfl
    | error cause => exact Or.inr ⟨cause, rfl⟩
  · exact (World.sessionModule?_activate _ session none).trans (World.sessionModule?_dropModule world session)

end Bridge

namespace World

variable {world : World} {held : Multiset Ref} {session : Session}

structure Inert (world : World) (session : Session) : Prop where
  empty : (world.space session.space).heap = .empty
  closes : (close session).run world = (.ok (), world)
  refuses : ∀ (engine : Engine) (operation : Operation), (∀ ref ∈ operation.given, ref.space = session.space) →
    (operation.carryOut engine session).Fails world
  serves : ∀ (engine : Engine) name arguments, (engine.registryCall session name arguments).Fails world
  silent : ∀ (engine : Engine) (α : Type) (act : GuestAct α), Asks engine.next session.space act →
    act.run world = (.error .finalized, world)

theorem Shut.inert (shut : world.Shut session) : world.Inert session where
  empty := shut.empty
  closes := run_close_shut shut.taken
  refuses engine operation own := shut.fails_carryOut engine operation own
  serves engine name arguments := shut.fails_registryCall engine name arguments
  silent _ _ _ asks := asks.refused shut.ended

/-- Of those who hold the session one is left, who has it neither in a register nor as that of the process. -/
structure LastHold (world : World) (session : Session) : Prop where
  identified : world.Identified
  records : world.Records session
  single : ∀ state, world.session? session.id = some state → state.holders = 1
  unplaced : ∀ other, world.current = some other → other.id ≠ session.id
  unlisted : ∀ name other, world.registers.get? name = some (.session other) → other.id ≠ session.id

theorem LastHold.aliveSession? (last : world.LastHold session) :
    (world.dropSession session).aliveSession? session.id = none := by
  obtain ⟨state, found, -⟩ := last.records
  have none : (world.updateSession session.id fun state => { state with holders := state.holders - 1 }).aliveSession?
      session.id = Option.none := by
    simp [World.aliveSession?, session?_updateSession, found, last.single state found]
  have dropped : world.dropSession session = (world.updateSession session.id fun state =>
      { state with holders := state.holders - 1 }).dropModule session := by
    simp only [dropSession, none]
  rw [dropped]
  cases alive : ((world.updateSession session.id fun state =>
      { state with holders := state.holders - 1 }).dropModule session).aliveSession? session.id with
  | none => rfl
  | some other =>
    rw [(fewer_dropModule _ session).aliveSession? alive] at none
    cases none

theorem LastHold.gone (last : world.LastHold session) : (world.dropSession session).Gone session.id := by
  have fewer := fewer_dropSession world session
  have identified := fewer.identified last.identified
  obtain ⟨state, found, -⟩ := last.records
  have known : session.id.index < world.sessions.size := (Array.getElem?_eq_some_iff.mp found).1
  refine ⟨identified, fewer.size ▸ known, fun other atHand same => ?_⟩
  cases atHand with
  | @alive id alive =>
    obtain rfl : other.id = id := identified.of_aliveSession? alive
    rw [same, last.aliveSession?] at alive
    cases alive
  | current placed => exact last.unplaced other (current_dropSession world session ▸ placed) same
  | register listed => exact last.unlisted _ other (registers_dropSession world session ▸ listed) same

/-- What the session of the name has left behind leads nowhere: a method raises without a message, and a proxy is
neither converted nor followed, nor does it pass on a message. -/
structure Lapsed (world : World) (held : Multiset Ref) (id : SessionId) : Prop where
  -- Messages are sent by the engine, and the method ends in the same way whatever the engine does.
  methods : ∀ (function : Ref) (name : String) (route : Route), world.LeadsAlong function name route →
    route.session = id → ∀ session call arguments, function.space = session.space →
      Engine.Reaches world held session function call arguments →
        ∃ exception after, exception.kind = "RuntimeError" ∧
          ∀ engine : Engine, (call engine).run world = (.error exception, after)
  proxies : ∀ proxy reference, opaqueReference? proxy = some reference → reference.session = id →
    ∀ (engine : Engine) (session : Session), (toGuest session proxy).Fails world ∧
      (engine.proxyText session proxy).Fails world ∧
        ∀ name arguments, (engine.callProxy session proxy name arguments).Fails world
  messages : ∀ proxy reference, opaqueReference? proxy = some reference → reference.session = id →
    ∀ (engine : Engine) host message arguments method rest,
      (world.host host).answering proxy message arguments = .ok (method, rest) →
      method = .text ∨ method = .forward →
        (engine.next.send host proxy message arguments).run world =
          (.error (.condition s!"proxy {reference.key} outlived its session"), world)

end World

namespace Engine

variable {world : World} {held : Multiset Ref} {session : Session}

theorem run_dispatch_gone (engine : Engine) {route : Route} (gone : world.aliveSession? route.session = none)
    {invocation : Invocation} {bound : Ref} {method : String} (given : invocation.bound? = some bound)
    (named : world.get? bound = some (.str method)) :
    (engine.dispatch route invocation).run world = (.error .sessionGone, world) := by
  have ranBound : (liftM invocation.bound : GuestAct Ref).run world = (.ok bound, world) := by
    rw [Invocation.bound, given]
    rfl
  unfold dispatch
  rw [run_bind_ok ranBound, run_bind_ok (World.textOf_eq named)]
  dsimp only
  rw [run_get_bind, gone]
  rfl

theorem run_gone (exact : world.Exact held) {function : Ref} {method : String} {route : Route}
    (home : function.space = session.space) (routed : world.LeadsAlong function method route)
    (gone : world.aliveSession? route.session = none) {call : Engine → GuestAct Ref} {arguments : List Ref}
    (reaches : Reaches world held session function call arguments) :
    ∃ after, ∀ engine, (call engine).run world = (.error .sessionGone, after) := by
  obtain ⟨bound, keywords, between, owned, refs, named, leads, -, ran⟩ :=
    comesDown_of_reaches exact home routed reaches
  -- On the way down to the dispatch only objects are made, so the session is gone there too.
  have goneBetween : between.aliveSession? route.session = none := by
    rwa [World.aliveSession?_of_sessions (leads.extends exact).sessions]
  refine ⟨between.releaseAll refs, fun engine => ?_⟩
  rw [ran, run_lending, run_dispatch_gone engine goneBetween rfl named]

variable {proxy : HostValue} {reference : OpaqueReference}

theorem fails_dereference_gone (gone : world.aliveSession? reference.session = none) :
    (dereference session reference).Fails world := by
  unfold dereference
  refine .bind_of rfl ?_
  extract_lets owner
  have other : owner.map (·.id) ≠ some session.id := by simp [owner, gone]
  rw [if_neg other]
  exact .bind_of rfl (.throw _)

theorem fails_target_gone (carried : opaqueReference? proxy = some reference)
    (gone : world.aliveSession? reference.session = none) : (target session proxy).Fails world := by
  unfold target
  rw [carried]
  exact fails_dereference_gone gone

theorem fails_toGuest_gone (carried : opaqueReference? proxy = some reference)
    (gone : world.aliveSession? reference.session = none) : (toGuest session proxy).Fails world := by
  obtain ⟨content, rfl⟩ : ∃ content, proxy = .object content := by
    cases proxy with
    | object content => exact ⟨content, rfl⟩
    | _ => cases carried
  unfold toGuest toGuestAt
  refine .traced fun trace => .bind_of rfl ?_
  extract_lets host
  rw [carried]
  dsimp only
  split
  · have goneNow : World.aliveSession? { world with trace } reference.session = none := gone
    exact fails_dereference_gone goneNow
  · exact .throw _

theorem run_withOwner_gone (carried : opaqueReference? proxy = some reference)
    (gone : world.aliveSession? reference.session = none) {α : Type} (operation : Session → HostAct α) :
    (withOwner proxy operation).run world =
      (.error (.condition s!"proxy {reference.key} outlived its session"), world) := by
  have found : (proxied proxy).run world = (.ok reference, world) := by
    rw [proxied, carried]
    rfl
  unfold withOwner
  rw [run_bind_ok found, run_get_bind, gone]
  rfl

end Engine

namespace World

variable {world : World} {held : Multiset Ref} {session : Session} {id : SessionId}

theorem Gone.lapsed (gone : world.Gone id) (exact : world.Exact held) : world.Lapsed held id := by
  refine ⟨fun function name route routed own session call arguments home reaches => ?_,
    fun proxy reference carried own engine session => ?_,
    fun proxy reference carried own engine host message arguments method rest answers which => ?_⟩
  · obtain ⟨after, ran⟩ := Engine.run_gone exact home routed (own ▸ gone.aliveSession?) reaches
    exact ⟨_, after, rfl, ran⟩
  · have none : world.aliveSession? reference.session = none := own ▸ gone.aliveSession?
    have target : (target session proxy).Fails world := Engine.fails_target_gone carried none
    exact ⟨Engine.fails_toGuest_gone carried none, target.bind _, fun _ _ => target.bind _⟩
  · have none : world.aliveSession? reference.session = none := own ▸ gone.aliveSession?
    have delivered : (engine.next.send host proxy message arguments).run world =
        (engine.runMethod host proxy method rest).run world := by
      show (engine.deliver host proxy message arguments).run world = _
      rw [Engine.deliver, run_get_bind, answers]
    rw [delivered]
    rcases which with rfl | rfl <;> exact Engine.run_withOwner_gone carried none _

example :
    let command (action : Console.Action) (result : Option String) : Console.Command :=
      { action, place := none, host := "", result, keyed := false }
    let replies := Console.performAll (.ofDepth 4)
      [command (.openSession { moduleName := "m", debug := false, proxyClass := "Proxy" }) none,
        command (.session .space) none, command (.session (.defineClass .nil "Point" "object" ["move"])) none,
        command (.drop "s") none, command (.guest (.importModule "m")) (some "m"),
        command (.guest (.callMethod (.register "m") "Point" [])) (some "p"),
        command (.guest (.callMethod (.register "p") "move" [])) none] .empty
    (replies.getLast?.bind fun reply =>
      match reply.result with
      | .error failure => some failure
      | .ok _ => none) = some (.guest .sessionGone) := by
  decide +kernel

/-- However a session was closed, and from wherever: in all that follows nothing can be done in it, and no code of
it runs. When the last one lets go of a session instead, in all that follows its methods raise before they send
anything, and its proxies fail. -/
theorem session_stays_inert {world : World} {held : Multiset Ref} {session : Session} (exact : world.Exact held)
    (records : world.Records session) :
    (∀ result closed, (world.sessionModule? session).isSome → (close session).run world = (result, closed) →
      (result = .ok () ∨ ∃ cause, result = .error (.finalizeFailure cause)) ∧
        ∀ later held', Leads .lasting (closed, held) (later, held') → later.Inert session) ∧
    (world.LastHold session → ∀ later held', Leads .lasting (world.dropSession session, held) (later, held') →
      History (world.dropSession session) later → later.Lapsed held' session.id) := by
  refine ⟨fun result closed opened ran => ?_, fun last later held' leads history => ?_⟩
  · obtain ⟨ended, shut, leadsClosed⟩ := shut_of_close exact opened ran
    have exactClosed : closed.Exact held := leadsClosed.exact_alone exact
    have known := (known_of_sessionModule? exact records opened).trans_le leadsClosed.size
    exact ⟨ended, fun later held' leads =>
      (shut.of_leads (records.of_steady leadsClosed.steady) exactClosed known leads).inert⟩
  · have dropped : Leads .lasting (world, held) (world.dropSession session, held) :=
      leads_dropSession session (show world.Exact (held + 0) by rwa [add_zero])
    exact (history.gone last.gone).lapsed (leads.exact_alone (dropped.exact_alone exact))

/-- A session that was just opened is closed, or let go; then another is opened. -/
theorem session_stays_inert_opened :
    let world := Console.opened
    let state := Console.openedState
    let closed := ((close state.session).run world).2
    let released : World := { world with registers := world.registers.erase "s" }
    (Console.after (.ofDepth 1) [Console.opening "t"] closed).Inert state.session ∧
      (Console.after (.ofDepth 1) [Console.opening "t"] (released.dropSession state.session)).Lapsed 0 state.session.id := by
  intro world state closed released
  have exact : world.Exact 0 := Console.exact_after 1 _
  have history : History .empty world := Console.history_after (Engine.respects_ofDepth 1) _ _
  have recorded : world.session? { index := 0 } = some state := (Option.some_get _).symm
  have facts : state.session.id = { index := 0 } ∧ (world.sessionModule? state.session).isSome ∧ state.holders = 1 ∧
      world.current.isNone ∧ (world.registers.erase "s").values.length = 0 ∧
        ((world.registers.get? "s").bind Register.ref?).isNone := by
    decide +kernel
  clear_value state world
  obtain ⟨named, opened, single, unplaced, bare, free⟩ := facts
  have records : world.Records state.session := ⟨state, by rw [named, recorded], rfl⟩
  have identified : world.Identified := history.identified identified_empty
  refine ⟨?_, ?_⟩
  · have closes := (session_stays_inert exact records).1 _ closed opened rfl
    have exactClosed : closed.Exact 0 := (shut_of_close exact opened rfl).2.2.exact_alone exact
    exact closes.2 _ 0 (Console.leads_after (Engine.balanced_ofDepth 1) _ exactClosed)
  · have exactReleased : released.Exact 0 := by
      have erased : Leads .lasting (world, 0) (released, _) := leads_eraseRegister "s"
      rw [Option.isNone_iff_eq_none.mp free] at erased
      exact erased.exact_alone exact
    have last : released.LastHold state.session := by
      refine ⟨identified, records, fun other found => ?_, fun other placed => ?_, fun name other listed => ?_⟩
      · have same : world.session? state.session.id = some other := found
        rw [named, recorded] at same
        exact Option.some.inj same ▸ single
      · have none : some other = none := placed.symm.trans (Option.isNone_iff_eq_none.mp unplaced)
        cases none
      · have member := Bindings.mem_values.mpr ⟨name, listed⟩
        rw [List.eq_nil_of_length_eq_zero bare] at member
        cases member
    have dropped : Leads .lasting (released, 0) (released.dropSession state.session, 0) :=
      leads_dropSession state.session (show released.Exact (0 + 0) by rwa [add_zero])
    have exactDropped : (released.dropSession state.session).Exact 0 := dropped.exact_alone exactReleased
    exact (session_stays_inert exactReleased records).2 last _ 0
      (Console.leads_after (Engine.balanced_ofDepth 1) _ exactDropped)
      (Console.history_after (Engine.respects_ofDepth 1) _ _)

end World

end ObjectBridge

import ObjectBridge.Proofs.World.Closing

/-!
The session of the process. Code runs while a session is opened, and not while one takes the place of another or is
taken out of its place. So at every moment at which code runs, each session that ever had the place of the session of
the process has it still or is closed.
-/

namespace ObjectBridge

open Act Bridge

namespace World

variable {world before after : World} {session : Session}

def Known (world : World) (session : Session) : Prop :=
  (world.session? session.id).isSome

def Closed (world : World) (session : Session) : Prop :=
  ∃ state, world.session? session.id = some state ∧ state.module? = none

inductive Turn : World → World → Prop
  | aside {before after : World} (change : Change before after) (same : after.current = before.current) :
      Turn before after
  | succeed {world : World} {session : Session} (alive : world.aliveSession? session.id = some session) :
      Turn world ((succeed session).run world).2
  | finalize (world : World) : Turn world (finalizeProcess.run world).2

abbrev Turns : World → World → Prop :=
  Relation.ReflTransGen Turn

instance : Indifferent Turns where
  refl _ := .refl
  trans _ _ _ one two := Relation.ReflTransGen.trans one two
  of_beside beside := .single (.aside (.beside beside) beside.current)

instance : CoversSessions Turns where
  hold atHand := .single (.aside (.hold atHand) rfl)
  drop world session := .single (.aside (.drop world session) (current_dropSession world session))
  close world session := .single (.aside (.close world session) (current_dropModule world session))
  record fresh := .single (.aside (.open fresh) rfl)
  enter name _ atHand := .single (.aside (.enter name atHand) rfl)
  clear world name := .single (.aside (.clear world name) rfl)
  forget world ref := .single (.aside (.forget world ref) rfl)
  start world := .single (.aside (.beside ⟨rfl, rfl, rfl, rfl⟩) rfl)
  interpreter world name := by
    unfold World.interpreter
    split
    · exact .refl
    · exact .single (.aside (.beside ⟨rfl, rfl, rfl, rfl⟩) rfl)
  register world id family := .single (.aside (.beside ⟨rfl, rfl, rfl, rfl⟩) rfl)

instance : CoversProcess Turns where
  succeed alive := .single (.succeed alive)
  finalize world := .single (.finalize world)

/-- The session of the process is the same, sessions stay on record, and what is closed stays closed. -/
structure Apart (before after : World) : Prop where
  current : after.current = before.current
  records : ∀ id state, before.session? id = some state →
    ∃ state', after.session? id = some state' ∧ (state.module? = none → state'.module? = none)

theorem Apart.of_sessions (current : after.current = before.current) (sessions : after.sessions = before.sessions) :
    Apart before after :=
  ⟨current, fun _ state found => ⟨state, by rwa [session?, sessions], fun none => none⟩⟩

theorem Apart.trans {first second third : World} (one : Apart first second) (two : Apart second third) :
    Apart first third := by
  refine ⟨two.current.trans one.current, fun id state found => ?_⟩
  obtain ⟨middle, there, closed⟩ := one.records id state found
  obtain ⟨last, here, closed'⟩ := two.records id middle there
  exact ⟨last, here, closed' ∘ closed⟩

theorem apart_updateSession (world : World) (id : SessionId) {change : SessionState → SessionState}
    (closed : ∀ state, state.module? = none → (change state).module? = none) :
    Apart world (world.updateSession id change) := by
  refine ⟨rfl, fun other state found => ?_⟩
  rw [session?_updateSession]
  split
  · rename_i same
    subst same
    exact ⟨change state, by rw [found, Option.map_some], closed state⟩
  · exact ⟨state, found, fun none => none⟩

theorem apart_dropModule (world : World) (session : Session) : Apart world (world.dropModule session) := by
  have taken : Apart world (world.updateSession session.id fun state => { state with module? := none }) :=
    world.apart_updateSession session.id fun _ _ => rfl
  unfold dropModule
  split
  · exact ⟨taken.current, taken.records⟩
  · exact .of_sessions rfl rfl

theorem apart_dropSession (world : World) (session : Session) : Apart world (world.dropSession session) := by
  have fewer : Apart world (world.updateSession session.id fun state => { state with holders := state.holders - 1 }) :=
    world.apart_updateSession session.id fun _ none => none
  unfold dropSession
  extract_lets left
  split
  · exact fewer
  · exact fewer.trans (apart_dropModule _ session)

theorem apart_push (world : World) (state : SessionState) :
    Apart world { world with sessions := world.sessions.push state } := by
  refine ⟨rfl, fun id earlier found => ⟨earlier, ?_, fun none => none⟩⟩
  have known : id.index < world.sessions.size := (Array.getElem?_eq_some_iff.mp found).1
  rw [session?, Array.getElem?_push, if_neg known.ne]
  exact found

instance : Indifferent Apart where
  refl _ := .of_sessions rfl rfl
  trans _ _ _ := .trans
  of_beside {before after} beside := by
    refine ⟨beside.current, fun id state found => ?_⟩
    have same := congrArg (fun sessions => sessions[id.index]?) beside.sessions
    have here : before.sessions[id.index]? = some state := found
    simp only [Array.getElem?_map, here, Option.map_some] at same
    obtain ⟨state', found', bare⟩ := Option.map_eq_some_iff.mp same
    have kept : state'.bare.module? = state.bare.module? := congrArg _ bare
    exact ⟨state', found', fun none => kept.trans none⟩

instance : CoversSessions Apart where
  hold {world session} _ := world.apart_updateSession session.id fun _ none => none
  drop := apart_dropSession
  close := apart_dropModule
  record {world state} _ := world.apart_push state
  enter _ _ _ := .of_sessions rfl rfl
  clear _ _ := .of_sessions rfl rfl
  forget _ _ := .of_sessions rfl rfl
  start _ := .of_sessions rfl rfl
  interpreter world name := by
    unfold World.interpreter
    split <;> exact .of_sessions rfl rfl
  register _ _ _ := .of_sessions rfl rfl

theorem Change.apart (change : Change before after) (same : after.current = before.current) : Apart before after := by
  cases change with
  | beside beside => exact Indifferent.of_beside beside
  | hold atHand => exact CoversHolders.hold atHand
  | drop session => exact apart_dropSession before session
  | close session => exact apart_dropModule before session
  | «open» fresh => exact apart_push before _
  | place atHand => exact .of_sessions same rfl
  | enter name atHand => exact .of_sessions rfl rfl
  | clear name => exact .of_sessions rfl rfl
  | forget ref => exact .of_sessions rfl rfl

theorem Apart.known (apart : Apart before after) (known : before.Known session) : after.Known session := by
  obtain ⟨state, found⟩ := Option.isSome_iff_exists.mp known
  obtain ⟨state', found', -⟩ := apart.records session.id state found
  exact Option.isSome_iff_exists.mpr ⟨state', found'⟩

theorem Apart.closed (apart : Apart before after) (closed : before.Closed session) : after.Closed session := by
  obtain ⟨state, found, none⟩ := closed
  obtain ⟨state', found', kept⟩ := apart.records session.id state found
  exact ⟨state', found', kept none⟩

theorem Known.closed (known : world.Known session) (taken : world.sessionModule? session = none) :
    world.Closed session := by
  obtain ⟨state, found⟩ := Option.isSome_iff_exists.mp known
  exact ⟨state, found, by simpa [sessionModule?, found] using taken⟩

end World

open World

namespace Bridge

variable {world : World} {session : Session}

theorem closed_close (known : world.Known session) : ((close session).run world).2.Closed session := by
  unfold close
  rw [run_get_bind]
  cases opened : world.sessionModule? session with
  | none => exact known.closed opened
  | some module =>
    dsimp only
    have taken : (world.dropModule session).Closed session :=
      ((apart_dropModule world session).known known).closed (sessionModule?_dropModule world session)
    rw [run_bind_ok (run_change _)]
    have rest : Respects Apart (do
        change (·.updateSession session.id fun state => { state with active := none })
        traceLine session.config 0 "session close"
        (finalizeSpace session.space).adapt .finalizeFailure : BridgeAct Unit) :=
      (Respects.change fun world => world.quiet_activate session.id none).bind fun _ =>
        (respects_traceLine _ _ _).bind fun _ => (respects_finalizeSpace _).adapt _
    exact (rest _).closed taken

def statusOf : Except Error Unit → Status
  | .ok _ => .ok
  | .error _ => .finalizeFailure

theorem run_retire (world : World) (session : Session) (occasion : String) :
    ∃ after, (retire session occasion).run world = (.ok (statusOf ((close session).run world).1), after) ∧
      Apart ((close session).run world).2 after := by
  have ran : ((close session).outcome : BridgeAct _).run world =
      (.ok ((close session).run world).1, ((close session).run world).2) := run_outcome _
  unfold retire
  rw [run_bind_ok ran]
  rcases ((close session).run world) with ⟨failure | _, closed⟩
  · refine ⟨(closed.writeLine (linePrefix ++ "warning: " ++ s!"{occasion}: {failure.message}")).dropSession session, rfl, ?_⟩
    have warned : Apart closed (closed.writeLine (linePrefix ++ "warning: " ++ s!"{occasion}: {failure.message}")) :=
      .of_sessions rfl rfl
    exact warned.trans (apart_dropSession _ session)
  · exact ⟨closed.dropSession session, rfl, apart_dropSession closed session⟩

theorem run_succeed (world : World) (session : Session) :
    ∃ after, (succeed session).run world = (.ok (), after) ∧ Apart { world with current := some session } after ∧
      ∀ previous, world.current = some previous → world.Known previous → after.Closed previous := by
  unfold succeed
  rw [run_get_bind]
  extract_lets previous
  rw [run_bind_ok (run_change _)]
  cases found : previous with
  | none =>
    refine ⟨_, rfl, .of_sessions rfl rfl, fun other same => ?_⟩
    cases found.symm.trans same
  | some previous =>
    obtain ⟨after, ran, apart⟩ := run_retire { world with current := some session } previous "closing replaced session"
    have closes : Respects Apart (close previous) := respects_close previous
    refine ⟨after, ?_, (closes _).trans apart, fun other same known => ?_⟩
    · show (discard (retire previous _) : BridgeAct Unit).run _ = _
      rw [Functor.discard, LawfulFunctor.map_const, Function.comp_apply, map_eq_pure_bind, run_bind_ok ran]
      rfl
    · obtain rfl : previous = other := Option.some.inj (found.symm.trans same)
      have here : Known { world with current := some session } previous := known
      exact apart.closed (closed_close here)

def finalStatus (world : World) : Status :=
  match world.current with
  | none => .ok
  | some session => statusOf ((close session).run { world with current := none }).1

theorem run_finalizeProcess (world : World) :
    ∃ after, finalizeProcess.run world = (.ok (finalStatus world), after) ∧ Apart { world with current := none } after ∧
      ∀ previous, world.current = some previous → world.Known previous → after.Closed previous := by
  unfold finalizeProcess finalStatus
  rw [run_get_bind]
  cases found : world.current with
  | none =>
    refine ⟨world, rfl, .of_sessions found rfl, nofun⟩
  | some previous =>
    dsimp only
    obtain ⟨after, ran, apart⟩ := run_retire { world with current := none } previous "finalize"
    have closes : Respects Apart (close previous) := respects_close previous
    rw [run_bind_ok (run_change _)]
    refine ⟨after, ran, (closes _).trans apart, fun other same known => ?_⟩
    obtain rfl : previous = other := Option.some.inj same
    have here : Known { world with current := none } previous := known
    exact apart.closed (closed_close here)

end Bridge

namespace World

variable {before after : World} {session : Session}

def Placed (world : World) : Prop :=
  ∀ session, world.current = some session → world.Known session

theorem Turn.known (turn : Turn before after) (known : before.Known session) : after.Known session := by
  cases turn with
  | aside change same => exact (change.apart same).known known
  | succeed alive =>
    obtain ⟨after, ran, apart, -⟩ := run_succeed before _
    rw [ran]
    exact apart.known known
  | finalize =>
    obtain ⟨after, ran, apart, -⟩ := run_finalizeProcess before
    rw [ran]
    exact apart.known known

theorem Turn.closed (turn : Turn before after) (closed : before.Closed session) : after.Closed session := by
  cases turn with
  | aside change same => exact (change.apart same).closed closed
  | succeed alive =>
    obtain ⟨after, ran, apart, -⟩ := run_succeed before _
    rw [ran]
    exact apart.closed closed
  | finalize =>
    obtain ⟨after, ran, apart, -⟩ := run_finalizeProcess before
    rw [ran]
    exact apart.closed closed

theorem Turn.placed (turn : Turn before after) (placed : before.Placed) : after.Placed := by
  intro session current
  cases turn with
  | aside change same => exact (change.apart same).known (placed session (same ▸ current))
  | @succeed other alive =>
    obtain ⟨after, ran, apart, -⟩ := run_succeed before other
    rw [ran] at current ⊢
    obtain rfl : other = session := Option.some.inj (apart.current.symm.trans current)
    obtain ⟨state, found, -⟩ := aliveSession?_eq_some.mp alive
    have known : Known { before with current := some other } other := Option.isSome_iff_exists.mpr ⟨state, found⟩
    exact apart.known known
  | finalize =>
    obtain ⟨after, ran, apart, -⟩ := run_finalizeProcess before
    rw [ran] at current
    cases apart.current.symm.trans current

theorem Turn.keeps (turn : Turn before after) (placed : before.Placed) (current : before.current = some session) :
    after.current = some session ∨ after.Closed session := by
  cases turn with
  | aside change same => exact Or.inl (same.trans current)
  | succeed alive =>
    obtain ⟨after, ran, -, closes⟩ := run_succeed before _
    rw [ran]
    exact Or.inr (closes session current (placed session current))
  | finalize =>
    obtain ⟨after, ran, -, closes⟩ := run_finalizeProcess before
    rw [ran]
    exact Or.inr (closes session current (placed session current))

theorem Turns.placed (turns : Turns before after) (placed : before.Placed) : after.Placed := by
  induction turns with
  | refl => exact placed
  | tail _ turn ih => exact turn.placed ih

theorem Turns.keeps (turns : Turns before after) (placed : before.Placed) (current : before.current = some session) :
    after.current = some session ∨ after.Closed session := by
  induction turns with
  | refl => exact Or.inl current
  | tail earlier turn ih =>
    rcases ih with still | closed
    · exact turn.keeps (Turns.placed earlier placed) still
    · exact Or.inr (turn.closed closed)

/-- What an attempt to open a session does that comes to nothing: registers, sessions, the session of the process and
the classes of the Host are kept, except for what is done by the calls in the new space. -/
inductive Attempt (engine : Engine) (space : SpaceId) : World → World → Prop
  | kept {before after : World} (kept : Kept before after) : Attempt engine space before after
  | call (callable : Ref) (arguments : List Ref) (keywords : List (String × Ref)) (world : World) :
      Attempt engine space world ((engine.call space callable arguments keywords).run world).2

abbrev Attempts (engine : Engine) (space : SpaceId) : World → World → Prop :=
  Relation.ReflTransGen (Attempt engine space)

instance (engine : Engine) (space : SpaceId) : FreeOfSpaces (Attempts engine space) where
  refl _ := .refl
  trans _ _ _ one two := Relation.ReflTransGen.trans one two
  of_kept kept := .single (.kept kept)

end World

namespace Act

variable {ε ε' α γ : Type} {relation : World → World → Prop}

def FailsWithin (relation : World → World → Prop) (act : Act ε α) : Prop :=
  ∀ world error after, act.run world = (.error error, after) → relation world after

theorem FailsWithin.of_ok {act : Act ε α} (succeeds : ∀ world, ∃ value after, act.run world = (.ok value, after)) :
    FailsWithin relation act := by
  intro world error after ran
  obtain ⟨value, other, ran'⟩ := succeeds world
  cases ran'.symm.trans ran

theorem FailsWithin.get_bind {next : World → Act ε α} (rest : ∀ seen, FailsWithin relation (next seen)) :
    FailsWithin relation (get >>= next) :=
  fun world => rest world world

theorem FailsWithin.bind [IsTrans World relation] {act : Act ε α} {next : α → Act ε γ}
    (first : Respects relation act) (rest : ∀ value, FailsWithin relation (next value)) :
    FailsWithin relation (act >>= next) := by
  intro world error after ran
  have one := first world
  rw [run_bind] at ran
  rcases found : act.run world with ⟨failure | value, between⟩
  · rw [found] at ran one
    obtain rfl : between = after := congrArg Prod.snd ran
    exact one
  · rw [found] at ran one
    exact trans_of relation one (rest value between error after ran)

end Act

namespace Engine

theorem failsWithin_opening {relation : World → World → Prop} (host : Host.HostId) (config : Config) (space : SpaceId)
    (module : Ref) : FailsWithin relation (do
      let proxyClass ← step (proxyClassFor · host config.proxyClass)
      traceLine config 0 s!"session open (module {config.moduleName})"
      step fun world =>
        let session : Session := { id := { index := world.sessions.size }, host, space, config, proxyClass }
        (session,
          { world with
            sessions := world.sessions.push { session, module? := some module.handle, active := none, holders := 1 } })
      : BridgeAct Session) := by
  refine .of_ok fun world => ?_
  obtain ⟨trace, traced⟩ := run_traceLine (ε := Error) config 0 s!"session open (module {config.moduleName})"
    (proxyClassFor world host config.proxyClass).2
  rw [run_bind_ok (run_step _), run_bind_ok traced]
  exact ⟨_, _, rfl⟩

theorem attempts_openSession (engine : Engine) (host : Host.HostId) (config : Config) {world after : World}
    {error : Error} (ran : (engine.openSession host config).run world = (.error error, after)) :
    Attempts engine { index := world.spaces.size } world after := by
  unfold openSession at ran
  extract_lets proceed at ran
  have proceeds (ran : (proceed ()).run world = (.error error, after)) :
      Attempts engine { index := world.spaces.size } world after := by
    unfold proceed at ran
    rw [run_bind_ok (run_step _)] at ran
    have started : Attempts engine world.addSpace.1 world world.addSpace.2 :=
      .single (.kept ⟨⟨rfl, rfl, rfl, rfl⟩, fun _ => rfl⟩)
    refine started.trans ((?_ : FailsWithin (Attempts engine world.addSpace.1) _) _ error after ran)
    generalize world.addSpace.1 = space
    have calls (callable : Ref) (arguments : List Ref) (keywords : List (String × Ref)) :
        Act.Respects (Attempts engine space) (engine.call space callable arguments keywords) :=
      fun world => .single (.call callable arguments keywords world)
    refine .get_bind fun seen => ?_
    extract_lets found definition enter
    have enters (module : Ref) : FailsWithin (Attempts engine space) (enter module) := by
      unfold enter
      extract_lets opens
      split
      · refine .bind (Respects.onFailureReleaseOne _ (Respects.adapt _ ?_)) fun switched =>
          .bind (.release switched) fun _ => failsWithin_opening host config space module
        exact (Respects.ownedBy _ _).bind fun _ => (calls _ _ _).lending _
      · exact failsWithin_opening host config space module
    refine .bind (.change fun world => world.quiet_updateSpace space (·.onlyObjects_addDefinition _)) fun _ => ?_
    refine .bind (respects_importModule_of_calls calls _).outcome fun result => ?_
    cases result with
    | ok module => exact enters module
    | error exception =>
      refine .bind (respects_finalizeSpace space).outcome fun result => ?_
      cases result with
      | ok _ => exact .bind (.throw _) enters
      | error failure => exact .bind (respects_warn _) fun _ => .bind (.throw _) enters
  split at ran
  · obtain ⟨-, rfl⟩ := Prod.mk.inj ran
    exact .refl
  · exact proceeds ran

theorem run_initializeProcess (engine : Engine) (host : Host.HostId) (config : Config) (world : World) :
    match (engine.initializeProcess host config).run world with
    | (.ok _, after) => ∃ session opened, (engine.openSession host config).run world = (.ok session, opened) ∧
        after.current = some session
    | (.error _, after) => Attempts engine world.addSpace.1 world after := by
  rw [initializeProcess_eq, run_bind]
  rcases ran : (engine.openSession host config).run world with ⟨error | session, opened⟩
  · exact attempts_openSession engine host config ran
  · obtain ⟨after, ranThen, apart, -⟩ := run_succeed opened session
    dsimp only
    rw [ranThen]
    exact ⟨session, opened, rfl, apart.current⟩

theorem run_withCurrent_none {α : Type} {world : World} (none : world.current = none)
    (operation : Session → BridgeAct α) : (withCurrent operation).run world = (.error .notInitialized, world) := by
  unfold withCurrent
  rw [run_get_bind, none]
  rfl

end Engine

theorem Bridge.code_finalStatus (world : World) :
    (finalStatus world).code = 0 ∧ (∀ session, world.current = some session →
        ((close session).run { world with current := none }).1 = .ok ()) ∨
      (finalStatus world).code = 120 ∧ ∃ session error, world.current = some session ∧
        ((close session).run { world with current := none }).1 = .error error := by
  unfold finalStatus
  cases found : world.current with
  | none => exact Or.inl ⟨rfl, nofun⟩
  | some session =>
    dsimp only
    rcases ended : ((close session).run { world with current := none }).1 with error | ⟨⟩
    · exact Or.inr ⟨rfl, session, error, rfl, ended⟩
    · exact Or.inl ⟨rfl, fun other same => Option.some.inj same ▸ ended⟩

/-- Whatever code runs that may itself open, close, finalize or use any session: at every moment at which it runs, the
sessions that ever had the place of the session of the process have it still or are closed. To open the session of the
process either puts the new one there, or fails and leaves that place, all sessions and the classes of the Host as
they were, but for what the calls in the new space do. To finalize it always leaves the place empty and tells how the
session was closed. While the place is empty, all that is asked of the session of the process is refused at once. -/
theorem World.slot_stays_defined {engine : Engine} (respects : engine.Respects Turns) :
    ((∀ depth, (Engine.ofDepth depth).Respects Turns) ∧ engine.next.Respects Turns ∧
      (∀ host config, Act.Respects Turns (engine.initializeProcess host config)) ∧
      Act.Respects Turns finalizeProcess ∧ ∀ commands world, Turns world (Console.after engine commands world)) ∧
    (∀ earlier later session, Turns .empty earlier → Turns earlier later → earlier.current = some session →
      later.current = some session ∨ later.Closed session) ∧
    (∀ host config world, match (engine.initializeProcess host config).run world with
      | (.ok _, after) => ∃ session opened, (engine.openSession host config).run world = (.ok session, opened) ∧
          after.current = some session
      | (.error _, after) => Attempts engine world.addSpace.1 world after) ∧
    (∀ world, ∃ status after, finalizeProcess.run world = (.ok status, after) ∧ after.current = none ∧
      finalizeProcess.run after = (.ok .ok, after) ∧
        (status.code = 0 ∧ (∀ session, world.current = some session →
            ((close session).run { world with current := none }).1 = .ok ()) ∨
          status.code = 120 ∧ ∃ session error, world.current = some session ∧
            ((close session).run { world with current := none }).1 = .error error)) ∧
    ∀ world, world.current = none →
      (∀ name argument, (engine.processCall name argument).run world = (.error .notInitialized, world)) ∧
      (∀ proxy name arguments,
        (engine.processMethod proxy name arguments).run world = (.error .notInitialized, world)) ∧
      (∀ proxy, (engine.processText proxy).run world = (.error .notInitialized, world)) ∧
      ∀ origin className base methods,
        (engine.processDefine origin className base methods).run world = (.error .notInitialized, world) := by
  refine ⟨⟨Engine.respects_ofDepth, Engine.respects_next respects, fun host config => Engine.respects_initializeProcess respects host config,
    respects_finalizeProcess, fun commands world => Console.covers_after respects commands world⟩,
    fun earlier later session before between current => ?_,
    fun host config world => engine.run_initializeProcess host config world, fun world => ?_, fun world none => ?_⟩
  · exact between.keeps (Turns.placed before nofun) current
  · obtain ⟨after, ran, apart, -⟩ := run_finalizeProcess world
    have empty : after.current = none := apart.current
    refine ⟨finalStatus world, after, ran, empty, ?_, code_finalStatus world⟩
    unfold finalizeProcess
    rw [run_get_bind, empty]
    rfl
  · exact ⟨fun _ _ => Engine.run_withCurrent_none none _, fun _ _ _ => Engine.run_withCurrent_none none _,
      fun _ => Engine.run_withCurrent_none none _, fun _ _ _ _ => Engine.run_withCurrent_none none _⟩

/-- A session of the process is opened where there is one. The first one is closed. -/
theorem World.slot_stays_defined_replaced :
    let starting : Console.Command :=
      { action := .process (.start { moduleName := "m", debug := false, proxyClass := "Proxy" }), place := none
        host := "", result := none, keyed := false }
    let first := Console.after (.ofDepth 1) [starting] .empty
    let second := Console.after (.ofDepth 1) [starting] first
    ∃ session, first.current = some session ∧ second.Closed session := by
  intro starting first second
  obtain ⟨⟨-, -, -, -, turns⟩, keeps, -⟩ := slot_stays_defined (Engine.respects_ofDepth 1)
  obtain ⟨session, current⟩ := Option.isSome_iff_exists.mp (show first.current.isSome by decide +kernel)
  have replaced : second.current.map (·.id) ≠ first.current.map (·.id) := by decide +kernel
  refine ⟨session, current, ?_⟩
  rcases keeps first second session (turns _ _) (turns _ _) current with still | closed
  · exact absurd (by rw [still, current]) replaced
  · exact closed

end ObjectBridge

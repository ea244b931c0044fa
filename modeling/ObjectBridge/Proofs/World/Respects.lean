import Mathlib.Order.Defs.Unbundled
import ObjectBridge.Bridge.ClassDefinition
import ObjectBridge.Bridge.Invoke
import ObjectBridge.Import
import ObjectBridge.Proofs.Space.Tables
import ObjectBridge.Proofs.World.Sessions

/-!
What the bridge does beside registers and sessions. It works on objects of spaces, makes Host objects, writes lines,
and calls and sends; all else is changed only by the code that is called or sent to. So every relation between
worlds that covers the former, and holds of each call and each message, holds of a whole operation.
-/

namespace ObjectBridge

open Guest (Extent Handle)

def SessionState.bare (state : SessionState) : SessionState :=
  { state with active := none }

namespace World

/-- Registers hold what they held, sessions are what they were but for their latest classes, and nothing more is
forgotten. -/
structure Beside (before after : World) : Prop where
  registers : after.registers = before.registers
  sessions : after.sessions.map SessionState.bare = before.sessions.map SessionState.bare
  current : after.current = before.current
  forgotten : after.forgotten = before.forgotten

structure Kept (before after : World) : Prop extends Beside before after where
  classes : ∀ id, (after.host id).classes = (before.host id).classes

structure Quiet (before after : World) : Prop extends Kept before after where
  size : after.spaces.size = before.spaces.size
  tables : ∀ id, (before.space id).OnlyObjects (after.space id)

theorem Beside.refl (world : World) : Beside world world :=
  ⟨rfl, rfl, rfl, rfl⟩

theorem Beside.trans {first second third : World} (one : Beside first second) (two : Beside second third) :
    Beside first third :=
  ⟨two.registers.trans one.registers, two.sessions.trans one.sessions, two.current.trans one.current,
    two.forgotten.trans one.forgotten⟩

theorem Quiet.of_same {before after : World} (registers : after.registers = before.registers)
    (sessions : after.sessions = before.sessions) (current : after.current = before.current)
    (forgotten : after.forgotten = before.forgotten) (spaces : after.spaces = before.spaces)
    (hosts : after.hosts = before.hosts) : Quiet before after where
  registers := registers
  sessions := sessions ▸ rfl
  current := current
  forgotten := forgotten
  classes id := by rw [host, host, hosts]
  size := spaces ▸ rfl
  tables id := by
    rw [space, space, spaces]
    exact .refl _

theorem Quiet.refl (world : World) : Quiet world world :=
  .of_same rfl rfl rfl rfl rfl rfl

theorem Quiet.trans {first second third : World} (one : Quiet first second) (two : Quiet second third) :
    Quiet first third where
  toBeside := one.toBeside.trans two.toBeside
  classes id := (two.classes id).trans (one.classes id)
  size := two.size.trans one.size
  tables id := (one.tables id).trans (two.tables id)

theorem quiet_setSpace (world : World) (id : SpaceId) {space : Space} (same : (world.space id).OnlyObjects space) :
    Quiet world (world.setSpace id space) where
  toKept := ⟨⟨rfl, rfl, rfl, rfl⟩, fun _ => rfl⟩
  size := size_setSpace world id space
  tables other := by
    by_cases known : id.index < world.spaces.size
    · rw [space_setSpace known]
      split
      · rename_i here
        exact here ▸ same
      · exact .refl _
    · rw [setSpace_of_unknown known]
      exact .refl _

theorem quiet_updateSpace (world : World) (id : SpaceId) {change : Space → Space}
    (same : ∀ space : Space, space.OnlyObjects (change space)) : Quiet world (world.updateSpace id change) := by
  rw [updateSpace_eq_setSpace]
  exact quiet_setSpace world id (same _)

theorem quiet_retain (world : World) (ref : Ref) : Quiet world (world.retain ref) :=
  quiet_updateSpace world ref.space fun space => space.onlyObjects_retain ref.handle

theorem quiet_release (world : World) (ref : Ref) : Quiet world (world.release ref) :=
  quiet_updateSpace world ref.space fun space => space.onlyObjects_release ref.handle

theorem quiet_retainAll (world : World) (refs : List Ref) : Quiet world (world.retainAll refs) := by
  induction refs generalizing world with
  | nil => exact .refl world
  | cons ref rest ih => exact (world.quiet_retain ref).trans (ih (world.retain ref))

theorem quiet_releaseAll (world : World) (refs : List Ref) : Quiet world (world.releaseAll refs) := by
  induction refs generalizing world with
  | nil => exact .refl world
  | cons ref rest ih => exact (world.quiet_release ref).trans (ih (world.release ref))

theorem quiet_activate (world : World) (id : SessionId) (active : Option ActiveBinding) :
    Quiet world (world.updateSession id fun state => { state with active }) := by
  refine ⟨⟨⟨rfl, Array.ext_getElem? fun index => ?_, rfl, rfl⟩, fun _ => rfl⟩, rfl, fun _ => .refl _⟩
  simp only [updateSession, Array.getElem?_map, Array.getElem?_modify]
  split
  · cases world.sessions[index]? <;> rfl
  · rfl

theorem quiet_writeLine (world : World) (line : String) : Quiet world (world.writeLine line) :=
  .of_same rfl rfl rfl rfl rfl rfl

theorem quiet_writeLog (world : World) (entry : LogEntry) : Quiet world (world.writeLog entry) :=
  .of_same rfl rfl rfl rfl rfl rfl

theorem classes_setHost (world : World) (id : Host.HostId) {host : Host.Interpreter Method}
    (same : host.classes = (world.host id).classes) (other : Host.HostId) :
    ((world.setHost id host).host other).classes = (world.host other).classes := by
  by_cases known : other.index < world.hosts.size
  · rw [host_setHost known]
    split
    · rename_i here
      exact here ▸ same
    · rfl
  · have unknown : ¬other.index < (world.setHost id host).hosts.size := by simpa [setHost] using known
    rw [World.host, World.host, Array.getElem?_eq_none (Nat.le_of_not_lt unknown),
      Array.getElem?_eq_none (Nat.le_of_not_lt known)]

theorem quiet_newObject (world : World) (id : Host.HostId) (family : HostClass) (payload : Option Payload) :
    Quiet world (world.newObject id family payload).2 :=
  ⟨⟨⟨rfl, rfl, rfl, rfl⟩, world.classes_setHost id rfl⟩, rfl, fun _ => .refl _⟩

theorem Beside.outside_eq {before after : World} (beside : Beside before after) : after.outside = before.outside := by
  have held (world : World) : world.sessions.toList.filterMap SessionState.ref? =
      (world.sessions.map SessionState.bare).toList.filterMap SessionState.ref? := by
    rw [Array.toList_map, List.filterMap_map]
    rfl
  rw [outside, outside, held, held, beside.registers, beside.sessions, beside.forgotten]

class CoversObjects (relation : World → World → Prop) : Prop extends IsPreorder World relation where
  of_quiet : ∀ {before after : World}, Quiet before after → relation before after

class FreeOfSpaces (relation : World → World → Prop) : Prop extends IsPreorder World relation where
  of_kept : ∀ {before after : World}, Kept before after → relation before after

class Indifferent (relation : World → World → Prop) : Prop extends IsPreorder World relation where
  of_beside : ∀ {before after : World}, Beside before after → relation before after

instance (relation : World → World → Prop) [Indifferent relation] : FreeOfSpaces relation where
  of_kept kept := Indifferent.of_beside kept.toBeside

instance (relation : World → World → Prop) [FreeOfSpaces relation] : CoversObjects relation where
  of_quiet quiet := FreeOfSpaces.of_kept quiet.toKept

theorem indifferent_outside (relation : Multiset Ref → Multiset Ref → Prop) [IsPreorder (Multiset Ref) relation] :
    Indifferent fun before after => relation before.outside after.outside where
  refl world := refl_of relation world.outside
  trans _ _ _ one two := trans_of relation one two
  of_beside beside := by
    rw [beside.outside_eq]
    exact refl_of relation _

end World

open World (CoversObjects Quiet)

namespace Act

variable {ε ε' α γ : Type} {relation : World → World → Prop}

def Respects (relation : World → World → Prop) (act : Act ε α) : Prop :=
  ∀ world, relation world (act.run world).2

def Leaves (act : Act ε α) (property : World → α → Prop) : Prop :=
  ∀ world value after, act.run world = (.ok value, after) → property after value

section Leaves

variable {property : World → α → Prop}

theorem Leaves.trivial (act : Act ε α) : Leaves act fun _ _ => True :=
  fun _ _ _ _ => True.intro

theorem Leaves.throw (error : ε) : Leaves (throw error : Act ε α) property :=
  nofun

theorem Leaves.bind {act : Act ε γ} {next : γ → Act ε α} (rest : ∀ value, Leaves (next value) property) :
    Leaves (act >>= next) property := by
  intro world value after ran
  rw [run_bind] at ran
  rcases found : act.run world with ⟨error | middle, between⟩
  · rw [found] at ran
    cases ran
  · rw [found] at ran
    exact rest middle between value after ran

theorem Leaves.get_bind_of {next : World → Act ε α}
    (rest : ∀ world value after, (next world).run world = (.ok value, after) → property after value) :
    Leaves (get >>= next) property :=
  rest

theorem Leaves.adapt {act : Act ε α} (restate : ε → ε') (leaves : Leaves act property) :
    Leaves (act.adapt restate) property := by
  intro world value after ran
  rw [run_adapt] at ran
  rcases found : act.run world with ⟨error | answer, between⟩
  · rw [found] at ran
    cases ran
  · rw [found] at ran
    cases ran
    exact leaves world _ _ found

end Leaves

section Respects

variable [CoversObjects relation]

theorem Respects.of_quiet {act : Act ε α} (quiet : ∀ world, Quiet world (act.run world).2) :
    Respects relation act :=
  fun world => CoversObjects.of_quiet (quiet world)

theorem Respects.of_same {act : Act ε α} (same : ∀ world, (act.run world).2 = world) : Respects relation act :=
  .of_quiet fun world => (same world).symm ▸ .refl world

theorem Respects.pure (value : α) : Respects relation (pure value : Act ε α) :=
  .of_same fun _ => rfl

theorem Respects.throw (error : ε) : Respects relation (throw error : Act ε α) :=
  .of_same fun _ => rfl

theorem Respects.lift (result : Except ε α) : Respects relation (liftM result : Act ε α) :=
  .of_same fun _ => rfl

theorem Respects.view (reader : World → α) : Respects relation (view reader : Act ε α) :=
  .of_same fun _ => rfl

theorem Respects.change {update : World → World} (quiet : ∀ world, Quiet world (update world)) :
    Respects relation (change update : Act ε Unit) :=
  .of_quiet quiet

theorem Respects.step {update : World → α × World} (quiet : ∀ world, Quiet world (update world).2) :
    Respects relation (step update : Act ε α) :=
  .of_quiet quiet

theorem Respects.retain (ref : Ref) : Respects relation (Act.change (·.retain ref) : Act ε Unit) :=
  .change fun world => world.quiet_retain ref

theorem Respects.release (ref : Ref) : Respects relation (Act.change (·.release ref) : Act ε Unit) :=
  .change fun world => world.quiet_release ref

omit [CoversObjects relation] in
theorem Respects.get_bind_of {next : World → Act ε α} (rest : ∀ world, relation world ((next world).run world).2) :
    Respects relation (get >>= next) :=
  rest

omit [CoversObjects relation] in
theorem Respects.get_bind {next : World → Act ε α} (rest : ∀ seen, Respects relation (next seen)) :
    Respects relation (get >>= next) :=
  .get_bind_of fun world => rest world world

theorem Respects.bind_of {act : Act ε α} {next : α → Act ε γ} {property : World → α → Prop}
    (first : Respects relation act) (leaves : Leaves act property)
    (rest : ∀ value world, property world value → relation world ((next value).run world).2) :
    Respects relation (act >>= next) := by
  intro world
  have one := first world
  rw [run_bind]
  rcases ran : act.run world with ⟨_ | value, after⟩
  · rwa [ran] at one
  · rw [ran] at one
    exact trans_of relation one (rest value after (leaves world value after ran))

theorem Respects.bind {act : Act ε α} {next : α → Act ε γ} (first : Respects relation act)
    (rest : ∀ value, Respects relation (next value)) : Respects relation (act >>= next) :=
  first.bind_of (.trivial act) fun value world _ => rest value world

omit [CoversObjects relation] in
theorem Respects.adapt {act : Act ε α} (restate : ε → ε') (respects : Respects relation act) :
    Respects relation (act.adapt restate) :=
  respects

omit [CoversObjects relation] in
theorem Respects.outcome {act : Act ε α} (respects : Respects relation act) :
    Respects relation (act.outcome : Act ε' (Except ε α)) :=
  respects

theorem Respects.afterwards {act : Act ε α} {update : World → World} (respects : Respects relation act)
    (later : ∀ world, relation world (update world)) : Respects relation (act.afterwards update) :=
  fun world => trans_of relation (respects world) (later _)

theorem Respects.lending {act : Act ε α} (refs : List Ref) (respects : Respects relation act) :
    Respects relation (lending refs act) :=
  respects.afterwards fun world => CoversObjects.of_quiet (world.quiet_releaseAll refs)

theorem Respects.onFailure_of {act : Act ε α} {undo : World → World} (respects : Respects relation act)
    (undone : ∀ world, relation world (undo world)) : Respects relation (act.onFailure undo) := by
  intro world
  have one := respects world
  rw [run_onFailure]
  rcases ran : act.run world with ⟨_ | value, after⟩
  · rw [ran] at one
    exact trans_of relation one (undone after)
  · rwa [ran] at one

theorem Respects.onFailure {act : Act ε α} {undo : World → World} (respects : Respects relation act)
    (quiet : ∀ world, Quiet world (undo world)) : Respects relation (act.onFailure undo) :=
  respects.onFailure_of fun world => CoversObjects.of_quiet (quiet world)

theorem Respects.onFailureRelease {act : Act ε α} (refs : List Ref) (respects : Respects relation act) :
    Respects relation (act.onFailure (·.releaseAll refs)) :=
  respects.onFailure fun world => world.quiet_releaseAll refs

theorem Respects.onFailureReleaseOne {act : Act ε α} (ref : Ref) (respects : Respects relation act) :
    Respects relation (act.onFailure (·.release ref)) :=
  respects.onFailure fun world => world.quiet_release ref

theorem Respects.collect {act : γ → Act ε Ref} (each : ∀ item, Respects relation (act item)) (done : Array Ref)
    (items : List γ) : Respects relation (collect act done items) := by
  induction items generalizing done with
  | nil => exact .pure _
  | cons item rest ih => exact ((each item).onFailureRelease _).bind fun ref => ih (done.push ref)

theorem Respects.mapM {act : γ → Act ε α} (each : ∀ item, Respects relation (act item)) (items : List γ) :
    Respects relation (items.mapM act) := by
  induction items with
  | nil => exact .pure _
  | cons item rest ih =>
    rw [List.mapM_cons]
    exact (each item).bind fun _ => ih.bind fun _ => .pure _

theorem Respects.forM {act : γ → Act ε Unit} (each : ∀ item, Respects relation (act item)) (items : List γ) :
    Respects relation (items.forM act) := by
  induction items with
  | nil => exact .pure _
  | cons item rest ih => exact (each item).bind fun _ => ih

theorem Respects.onSpace (id : SpaceId) (operation : Guest.Op Code α) [operation.OnObjects] :
    Respects relation (onSpace id operation) := by
  refine .of_quiet fun world => ?_
  rw [run_onSpace]
  rcases ran : operation.run (world.space id) with _ | ⟨value, space⟩
  · exact .refl world
  · exact world.quiet_setSpace id (Guest.Op.OnObjects.onlyObjects ran)

theorem Respects.onView (id : SpaceId) (reader : Space → Except Guest.Exception α) :
    Respects relation (onView id reader) :=
  .of_same fun _ => rfl

theorem Respects.ownedBy (id : SpaceId) (operation : Guest.Op Code Handle) [operation.OnObjects] :
    Respects relation (ownedBy id operation) :=
  (Respects.onSpace id operation).bind fun _ => .pure _

theorem Respects.itemsOf (ref : Ref) : Respects relation (itemsOf ref : Act ε (Option (List Ref))) := by
  refine .get_bind fun seen => ?_
  split
  · exact (Respects.change fun world => world.quiet_retainAll _).bind fun _ => .pure _
  · exact .pure _

theorem Respects.lookup (space : SpaceId) (type : Ref) (name : String) :
    Respects relation (lookup space type name) := by
  refine .get_bind fun seen => ?_
  split
  · exact (Respects.ownedBy _ _).bind fun _ => .pure _
  · exact .pure _

theorem Respects.dictGet (space : SpaceId) (dict : Ref) (key : String) : Respects relation (dictGet space dict key) :=
  (Respects.onSpace _ _).bind fun _ => .pure _

end Respects

end Act

structure Engine.Respects (relation : World → World → Prop) (engine : Engine) : Prop where
  call : ∀ space callable arguments keywords, Act.Respects relation (engine.call space callable arguments keywords)
  send : ∀ host receiver name arguments, Act.Respects relation (engine.send host receiver name arguments)

/-- A relation between worlds that holds as well when a space is finalized, and of an import if it holds of all that
is called and sent meanwhile. -/
class World.CoversSpaces (relation : World → World → Prop) : Prop extends CoversObjects relation where
  finalizes : ∀ (world : World) (id : SpaceId), relation world (world.setSpace id (world.space id).finalize.2)
  imports : ∀ {engine : Engine}, engine.Respects relation → ∀ (space : SpaceId) (name : String),
    Act.Respects relation (engine.importModule space name)

open Act

variable {relation : World → World → Prop} [CoversObjects relation]

namespace Bridge

theorem respects_traceLine {ε : Type} (config : Config) (depth : Nat) (line : String) :
    Respects relation (traceLine config depth line : Act ε Unit) := by
  unfold traceLine
  split
  · exact .change fun world => world.quiet_writeLine _
  · exact .pure _

theorem respects_warn {ε : Type} (line : String) : Respects relation (warn line : Act ε Unit) :=
  .change fun world => world.quiet_writeLine _

theorem respects_dereference (session : Session) (reference : OpaqueReference) :
    Respects relation (dereference session reference) := by
  refine .get_bind fun seen => ?_
  extract_lets owner
  split
  · exact (Respects.ownedBy _ _).adapt _
  · exact (respects_warn _).bind fun _ => .throw _

theorem respects_moduleOf (session : Session) : Respects relation (moduleOf session) := by
  refine .get_bind fun seen => ?_
  split
  · exact (Respects.retain _).bind fun _ => .pure _
  · exact .throw _

theorem respects_unsupported (session : Session) (value : Ref) : Respects relation (unsupported session value) :=
  .get_bind fun _ => .throw _

theorem respects_toHostWithin (session : Session) (levels : Nat) (value : Ref) :
    Respects relation (toHostWithin session levels value) := by
  induction levels generalizing value with
  | zero => exact respects_unsupported session value
  | succ levels ih =>
    refine Respects.bind (Respects.view _) fun kind => ?_
    split
    · exact .pure _
    · refine (Respects.view _).bind fun text => ?_
      cases text with
      | some content => exact .pure _
      | none => exact respects_unsupported session value
    · refine (Respects.itemsOf value).bind fun items => ?_
      cases items with
      | some items => exact ((Respects.mapM ih items).bind fun _ => .pure _).lending _
      | none => exact respects_unsupported session value
    · exact respects_unsupported session value

theorem respects_toHost (session : Session) (value : Ref) : Respects relation (toHost session value) :=
  .get_bind fun _ => respects_toHostWithin session _ value

theorem respects_target (session : Session) (value : HostValue) : Respects relation (target session value) := by
  unfold target
  split
  · exact respects_dereference session _
  · exact .throw _

mutual

theorem respects_toGuestAt (session : Session) (depth : Nat) (value : HostValue) :
    Respects relation (toGuestAt session depth value) := by
  unfold toGuestAt
  refine (respects_traceLine session.config depth _).bind fun _ => ?_
  cases value with
  | nil => exact (Respects.ownedBy _ _).adapt _
  | text content => exact (Respects.ownedBy _ _).adapt _
  | array items =>
    exact (respects_itemsToGuest session (depth + 1) #[] items).bind fun converted =>
      ((Respects.ownedBy _ _).adapt _).lending _
  | object content =>
    refine .get_bind fun seen => ?_
    extract_lets host
    split
    · split
      · exact respects_dereference session _
      · exact .throw _
    · exact .throw _

theorem respects_itemsToGuest (session : Session) (depth : Nat) (done : Array Ref) (items : List HostValue) :
    Respects relation (itemsToGuest session depth done items) := by
  cases items with
  | nil =>
    unfold itemsToGuest
    exact .pure _
  | cons item rest =>
    unfold itemsToGuest
    exact ((respects_toGuestAt session depth item).onFailureRelease _).bind fun ref =>
      respects_itemsToGuest session depth (done.push ref) rest

end

end Bridge

section Engine

variable {engine : Engine} (respects : engine.Respects relation)
include respects

theorem Registry.respects_callWithArguments (space : SpaceId) (callable : Ref) (arguments : List Ref) :
    Respects relation (callWithArguments engine space callable arguments) := by
  unfold callWithArguments
  split
  · exact respects.call _ _ _ _
  · rename_i last _
    refine (Respects.view _).bind fun kind => ?_
    extract_lets call
    have called (marked : Bool) : Respects relation (call marked) := by
      cases marked with
      | false => exact respects.call _ _ _ _
      | true =>
        refine (Respects.onSpace _ _).bind fun entries => ?_
        extract_lets pairs
        exact (Respects.change fun world => world.quiet_releaseAll _).bind fun _ =>
          (respects.call _ _ _ _).lending _
    split
    · refine (Respects.dictGet _ _ _).bind fun marker => ?_
      cases marker with
      | some marker => exact (Respects.release _).bind fun _ => called true
      | none => exact called false
    · exact called false

namespace Engine

open Bridge

theorem respects_callMethod (space : SpaceId) (target : Ref) (name : String) (arguments : List Ref) :
    Act.Respects relation (engine.callMethod space target name arguments) :=
  (Respects.ownedBy _ _).bind fun _ => (respects.call _ _ _ _).lending _

theorem respects_str (space : SpaceId) (value : Ref) : Act.Respects relation (engine.str space value) := by
  unfold str
  refine (Respects.view _).bind fun kind => ?_
  split
  · refine (Respects.ownedBy _ _).bind fun type => Respects.bind (Respects.lending _ ?_) fun own => ?_
    · refine (Respects.lookup _ _ _).bind fun method => ?_
      cases method with
      | none => exact .pure _
      | some method =>
        refine ((respects.call _ _ _ _).bind fun result => Respects.lending _ ?_).lending _
        refine (Respects.view _).bind fun text => ?_
        cases text with
        | none => exact .throw _
        | some text => exact .pure _
    · cases own with
      | none => exact .onView _ _
      | some text => exact .pure _
  · exact .onView _ _

theorem respects_registryCall (session : Session) (name : String) (arguments : List Ref) :
    Act.Respects relation (engine.registryCall session name arguments) :=
  (respects_moduleOf session).bind fun _ => ((respects_callMethod respects _ _ _ _).adapt _).lending _

theorem respects_makeProxy (session : Session) (value : Ref) :
    Act.Respects relation (engine.makeProxy session value) := by
  refine (respects_registryCall respects session _ _).bind fun issued => Respects.lending _ ?_
  refine (Respects.view _).bind fun text => ?_
  cases text with
  | none => exact .get_bind fun _ => .throw _
  | some key => exact (respects_traceLine _ _ _).bind fun _ => .step fun world => world.quiet_newObject _ _ _

theorem respects_toHostOrProxy (session : Session) (value : Ref) :
    Act.Respects relation (engine.toHostOrProxy session value) := by
  refine (respects_toHost session value).outcome.bind fun result => ?_
  cases result with
  | ok converted => exact .pure _
  | error error =>
    cases error with
    | unsupportedGuestType => exact respects_makeProxy respects session value
    | _ => exact .throw _

omit respects in
theorem respects_spread (value : Ref) : Act.Respects relation (spread value) := by
  refine (Respects.itemsOf value).bind fun items => ?_
  cases items with
  | none => exact .pure _
  | some items => exact (Respects.release _).bind fun _ => .pure _

theorem respects_callFunction (session : Session) (name : String) (argument : Option HostValue) :
    Act.Respects relation (engine.callFunction session name argument) := by
  refine (respects_traceLine session.config 0 _).bind fun _ => ?_
  refine (respects_moduleOf session).bind fun module => Respects.lending _ ?_
  refine ((Respects.ownedBy _ _).adapt _).bind fun callable => Respects.lending _ ?_
  refine (Respects.view _).bind fun kind => ?_
  extract_lets proceed convert
  have proceeds (arguments : List Ref) : Act.Respects relation (proceed arguments) := by
    refine Respects.lending _ (((respects.call _ _ _ _).adapt _).bind fun result => Respects.lending _ ?_)
    refine (Respects.view _).bind fun kind => ?_
    split
    · exact (respects_traceLine _ _ _).bind fun _ => .pure _
    · exact (respects_toHost session result).bind fun _ => .pure _
  have converts : Act.Respects relation (convert ()) := by
    cases argument with
    | none => exact proceeds []
    | some value =>
      exact (respects_toGuestAt session 0 value).bind fun converted => (respects_spread converted).bind proceeds
  split
  · exact (respects_warn _).bind fun _ => (Respects.throw _).bind fun _ => converts
  · exact converts

theorem respects_assign (session : Session) (object : Ref) (names : List String) (message name : String)
    (arguments : List HostValue) :
    Act.Respects relation (engine.assign session object names message name arguments) := by
  cases arguments with
  | nil => exact .throw _
  | cons value rest =>
    refine (respects_toGuestAt session 0 value).bind fun converted => Respects.lending _ ?_
    exact ((Respects.onSpace _ _).adapt _).bind fun _ => respects_toHostOrProxy respects session converted

theorem respects_sendTo (session : Session) (object : Ref) (names : List String) (name : String)
    (arguments : List HostValue) : Act.Respects relation (engine.sendTo session object names name arguments) := by
  unfold sendTo
  split
  · exact .get_bind fun _ => .throw _
  · refine ((Respects.ownedBy _ _).adapt _).bind fun value => Respects.lending _ ?_
    refine (Respects.view _).bind fun kind => ?_
    split
    · refine (Respects.collect (fun item => respects_toGuestAt session 0 item) #[] _).bind fun converted => ?_
      refine Respects.lending _ (((Registry.respects_callWithArguments respects _ _ _).adapt _).bind fun result => ?_)
      exact (respects_toHostOrProxy respects session result).lending _
    · exact respects_toHostOrProxy respects session value

theorem respects_callProxy (session : Session) (proxy : HostValue) (name : String) (arguments : List HostValue) :
    Act.Respects relation (engine.callProxy session proxy name arguments) := by
  refine (respects_target session proxy).bind fun object => Respects.lending _ ?_
  refine (respects_traceLine _ _ _).bind fun _ => ((Respects.onView _ _).adapt _).bind fun names => ?_
  split
  · exact respects_assign respects session object names name _ arguments
  · exact respects_sendTo respects session object names name arguments

theorem respects_proxyText (session : Session) (proxy : HostValue) :
    Act.Respects relation (engine.proxyText session proxy) :=
  (respects_target session proxy).bind fun object => ((respects_str respects _ object).adapt _).lending _

omit respects in
theorem respects_callbacks (session : Session) (route : Route) (methods : List String) :
    Act.Respects relation (callbacks session route methods) :=
  .collect (fun _ => Respects.adapt _ ((Respects.ownedBy _ _).bind fun _ => (Respects.ownedBy _ _).lending _)) #[]
    methods

theorem respects_resolveBase (session : Session) (base : String) :
    Act.Respects relation (engine.resolveBase session base) := by
  refine ((Respects.ownedBy _ _).adapt _).bind fun name => ?_
  refine (((respects_registryCall respects session _ _).lending _).adapt _).bind fun resolved => ?_
  refine (Respects.view _).bind fun kind => ?_
  split
  · exact .pure _
  · exact (Respects.release _).bind fun _ => .throw _

theorem respects_prepareClass (session : Session) (className base : String) (methods : List String) :
    Act.Respects relation (engine.prepareClass session className base methods) := by
  unfold prepareClass
  extract_lets shown
  refine (respects_traceLine _ _ _).bind fun _ => ?_
  split
  on_goal 1 => refine (Respects.throw _).bind fun _ => ?_
  all_goals
    refine (respects_moduleOf session).bind fun module => ?_
    extract_lets found
    refine Respects.bind (Respects.onFailureReleaseOne _ ?_) fun _ => .pure _
    refine ((Respects.onView _ _).adapt _).bind fun globals => ?_
    extract_lets
    split
    · exact .throw _
    · exact respects_resolveBase respects session base

theorem respects_publishClass (session : Session) (origin : HostValue) (className : String) (baseType : Ref)
    (methods : List String) (functions : List Ref) :
    Act.Respects relation (engine.publishClass session origin className baseType methods functions) := by
  refine (((Respects.ownedBy _ _).adapt _).lending _).bind fun type => ?_
  refine (((Respects.ownedBy _ _).adapt _).onFailureReleaseOne _).bind fun name => ?_
  refine Respects.bind (Respects.lending _ ?_) fun _ => ?_
  · exact (respects_registryCall respects session _ _).bind fun published => .release _
  · exact (Respects.change fun world => world.quiet_activate _ _).bind fun _ => respects_traceLine _ _ _

theorem respects_defineClass (session : Session) (origin : HostValue) (className base : String)
    (methods : List String) :
    Act.Respects relation (engine.defineClass session origin className base methods) := by
  refine (respects_prepareClass respects session className base methods).bind fun found => ?_
  obtain ⟨module, baseType⟩ := found
  refine Respects.lending _ ?_
  refine Respects.bind ((respects_callbacks session _ methods).onFailureReleaseOne _) fun functions => ?_
  exact (respects_publishClass respects session origin className baseType methods functions).lending _

end Engine

end Engine

end ObjectBridge

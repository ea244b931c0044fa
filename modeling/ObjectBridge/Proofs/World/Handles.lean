import Mathlib.Logic.Relation
import ObjectBridge.Proofs.World.Respects

/-!
Handles of sessions. All that is ever done to registers and sessions is done in steps of a few kinds, and only who
has a session at hand can take one more hold of it. So a session that nobody has at hand any more is gone for good.
-/

namespace ObjectBridge

namespace World

variable {world before after : World} {session : Session} {id : SessionId}

/-- The session can be used: it is held by someone, or it is the session of the process, or in a register. -/
inductive AtHand (world : World) (session : Session) : Prop
  | alive {id : SessionId} (found : world.aliveSession? id = some session)
  | current (found : world.current = some session)
  | register {name : String} (found : world.registers.get? name = some (.session session))

inductive Change : World → World → Prop
  | beside {before after : World} (beside : Beside before after) : Change before after
  | hold {world : World} {session : Session} (atHand : world.AtHand session) :
      Change world (world.holdSession session)
  | drop (world : World) (session : Session) : Change world (world.dropSession session)
  | close (world : World) (session : Session) : Change world (world.dropModule session)
  | open {world : World} {state : SessionState} (fresh : state.session.id = { index := world.sessions.size }) :
      Change world { world with sessions := world.sessions.push state }
  | place {world : World} {placed : Option Session}
      (atHand : ∀ session, placed = some session → world.AtHand session) :
      Change world { world with current := placed }
  | enter {world : World} (name : String) {register : Register}
      (atHand : ∀ session, register = .session session → world.AtHand session) :
      Change world { world with registers := world.registers.insert name register }
  | clear (world : World) (name : String) : Change world { world with registers := world.registers.erase name }
  | forget (world : World) (ref : Ref) : Change world { world with forgotten := ref :: world.forgotten }

abbrev History : World → World → Prop :=
  Relation.ReflTransGen Change

instance : Indifferent History where
  refl _ := .refl
  trans _ _ _ one two := Relation.ReflTransGen.trans one two
  of_beside beside := .single (.beside beside)

def Identified (world : World) : Prop :=
  ∀ id state, world.session? id = some state → state.session.id = id

structure Gone (world : World) (id : SessionId) : Prop where
  identified : world.Identified
  known : id.index < world.sessions.size
  abandoned : ∀ session, world.AtHand session → session.id ≠ id

theorem aliveSession?_eq_some :
    world.aliveSession? id = some session ↔
      ∃ state, world.session? id = some state ∧ 0 < state.holders ∧ state.session = session := by
  unfold aliveSession?
  cases world.session? id with
  | none => simp
  | some state => simp

theorem aliveSession?_push (world : World) {state : SessionState}
    (fresh : state.session.id = { index := world.sessions.size }) (held : 0 < state.holders) :
    aliveSession? { world with sessions := world.sessions.push state } state.session.id = some state.session := by
  refine aliveSession?_eq_some.mpr ⟨state, ?_, held, rfl⟩
  rw [session?, fresh]
  exact Array.getElem?_push_size

theorem identified_empty : empty.Identified :=
  fun id state found => by simp [session?, empty] at found

theorem Identified.of_aliveSession? (identified : world.Identified) (alive : world.aliveSession? id = some session) :
    session.id = id := by
  obtain ⟨state, found, -, rfl⟩ := aliveSession?_eq_some.mp alive
  exact identified id state found

theorem Gone.aliveSession? (gone : world.Gone id) : world.aliveSession? id = none := by
  cases found : world.aliveSession? id with
  | none => rfl
  | some session => exact absurd (gone.identified.of_aliveSession? found) (gone.abandoned session (.alive found))

/-! ### What the steps do to the records of sessions -/

theorem size_updateSession (world : World) (id : SessionId) (change : SessionState → SessionState) :
    (world.updateSession id change).sessions.size = world.sessions.size := by
  simp [updateSession]

structure Recedes (state state' : SessionState) : Prop where
  session : state'.session = state.session
  holders : state'.holders ≤ state.holders

theorem Recedes.refl (state : SessionState) : Recedes state state :=
  ⟨rfl, Nat.le_refl _⟩

theorem Recedes.trans {first second third : SessionState} (one : Recedes first second) (two : Recedes second third) :
    Recedes first third :=
  ⟨two.session.trans one.session, two.holders.trans one.holders⟩

structure Fewer (before after : World) : Prop where
  size : after.sessions.size = before.sessions.size
  records : ∀ id state', after.session? id = some state' →
    ∃ state, before.session? id = some state ∧ Recedes state state'

theorem Fewer.refl (world : World) : Fewer world world :=
  ⟨rfl, fun _ state found => ⟨state, found, .refl state⟩⟩

theorem Fewer.trans {first second third : World} (one : Fewer first second) (two : Fewer second third) :
    Fewer first third := by
  refine ⟨two.size.trans one.size, fun id last found => ?_⟩
  obtain ⟨middle, there, recedes'⟩ := two.records id last found
  obtain ⟨state, here, recedes⟩ := one.records id middle there
  exact ⟨state, here, recedes.trans recedes'⟩

theorem fewer_updateSession (world : World) (id : SessionId) {change : SessionState → SessionState}
    (recedes : ∀ state, Recedes state (change state)) : Fewer world (world.updateSession id change) := by
  refine ⟨size_updateSession world id change, fun other state found => ?_⟩
  rw [session?_updateSession] at found
  split at found
  · rename_i same
    subst same
    obtain ⟨earlier, here, rfl⟩ := Option.map_eq_some_iff.mp found
    exact ⟨earlier, here, recedes earlier⟩
  · exact ⟨state, found, .refl state⟩

theorem fewer_dropModule (world : World) (session : Session) : Fewer world (world.dropModule session) := by
  have fewer : Fewer world (world.updateSession session.id fun state => { state with module? := none }) :=
    fewer_updateSession world session.id fun state => ⟨rfl, Nat.le_refl _⟩
  unfold dropModule
  split
  · exact ⟨fewer.size, fewer.records⟩
  · exact .refl world

theorem fewer_dropSession (world : World) (session : Session) : Fewer world (world.dropSession session) := by
  have fewer : Fewer world (world.updateSession session.id fun state =>
      { state with holders := state.holders - 1 }) :=
    fewer_updateSession world session.id fun state => ⟨rfl, Nat.sub_le _ _⟩
  unfold dropSession
  extract_lets world'
  split
  · exact fewer
  · exact fewer.trans (fewer_dropModule _ session)

theorem Beside.fewer (beside : Beside before after) : Fewer before after := by
  refine ⟨by simpa using congrArg Array.size beside.sessions, fun id state found => ?_⟩
  have same := congrArg (fun sessions => sessions[id.index]?) beside.sessions
  have here : after.sessions[id.index]? = some state := found
  simp only [Array.getElem?_map, here, Option.map_some] at same
  obtain ⟨earlier, there, bare⟩ := Option.map_eq_some_iff.mp same.symm
  have named : state.bare.session = earlier.bare.session := congrArg _ bare.symm
  have held : state.bare.holders = earlier.bare.holders := congrArg _ bare.symm
  exact ⟨earlier, there, named, held.le⟩

theorem Fewer.aliveSession? (fewer : Fewer before after) (alive : after.aliveSession? id = some session) :
    before.aliveSession? id = some session := by
  obtain ⟨state, found, held, rfl⟩ := aliveSession?_eq_some.mp alive
  obtain ⟨earlier, here, recedes⟩ := fewer.records id state found
  exact aliveSession?_eq_some.mpr ⟨earlier, here, held.trans_le recedes.holders, recedes.session.symm⟩

theorem Fewer.identified (fewer : Fewer before after) (identified : before.Identified) : after.Identified := by
  intro id state found
  obtain ⟨earlier, here, recedes⟩ := fewer.records id state found
  rw [recedes.session]
  exact identified id earlier here

theorem current_dropModule (world : World) (session : Session) :
    (world.dropModule session).current = world.current := by
  unfold dropModule
  split <;> rfl

theorem registers_dropModule (world : World) (session : Session) :
    (world.dropModule session).registers = world.registers := by
  unfold dropModule
  split <;> rfl

theorem current_dropSession (world : World) (session : Session) :
    (world.dropSession session).current = world.current := by
  unfold dropSession
  extract_lets fewer
  split
  · rfl
  · exact current_dropModule fewer session

theorem registers_dropSession (world : World) (session : Session) :
    (world.dropSession session).registers = world.registers := by
  unfold dropSession
  extract_lets fewer
  split
  · rfl
  · exact registers_dropModule fewer session

theorem AtHand.of_fewer (fewer : Fewer before after) (current : after.current = before.current)
    (registers : after.registers = before.registers) (atHand : after.AtHand session) : before.AtHand session := by
  cases atHand with
  | alive found => exact .alive (fewer.aliveSession? found)
  | current found => exact .current (current ▸ found)
  | register found => exact .register (registers ▸ found)

theorem Gone.of_fewer (gone : before.Gone id) (fewer : Fewer before after) (current : after.current = before.current)
    (registers : after.registers = before.registers) : after.Gone id :=
  ⟨fewer.identified gone.identified, fewer.size ▸ gone.known, fun session atHand =>
    gone.abandoned session (.of_fewer fewer current registers atHand)⟩

/-! ### What the steps do to names and to handles -/

theorem Identified.holdSession (identified : world.Identified) (session : Session) :
    (world.holdSession session).Identified := by
  intro id state found
  rw [World.holdSession, session?_updateSession] at found
  split at found
  · rename_i same
    subst same
    obtain ⟨earlier, here, rfl⟩ := Option.map_eq_some_iff.mp found
    exact identified _ earlier here
  · exact identified id state found

theorem Identified.push (identified : world.Identified) {state : SessionState}
    (fresh : state.session.id = { index := world.sessions.size }) :
    Identified { world with sessions := world.sessions.push state } := by
  intro id other found
  simp only [session?, Array.getElem?_push] at found
  split at found
  · rename_i same
    obtain rfl := Option.some.inj found
    rw [fresh, ← same]
  · exact identified id other found

theorem Change.identified (change : Change before after) (identified : before.Identified) : after.Identified := by
  cases change with
  | beside beside => exact beside.fewer.identified identified
  | hold atHand => exact identified.holdSession _
  | drop session => exact (fewer_dropSession before session).identified identified
  | close session => exact (fewer_dropModule before session).identified identified
  | «open» fresh => exact identified.push fresh
  | place atHand => exact identified
  | enter name atHand => exact identified
  | clear name => exact identified
  | forget ref => exact identified

theorem History.identified (history : History before after) (identified : before.Identified) : after.Identified := by
  induction history with
  | refl => exact identified
  | tail _ change ih => exact change.identified ih

theorem Gone.holdSession (gone : world.Gone id) (atHand : world.AtHand session) :
    (world.holdSession session).Gone id := by
  have identified := gone.identified.holdSession session
  refine ⟨identified, (size_updateSession ..).symm ▸ gone.known, fun other found => ?_⟩
  cases found with
  | @alive key found =>
    obtain ⟨state, here, held, rfl⟩ := aliveSession?_eq_some.mp found
    have own := identified key state here
    rw [World.holdSession, session?_updateSession] at here
    split at here
    · -- What was let go can be found again by this, but only if it was at hand.
      rename_i same
      rw [own, same]
      exact gone.abandoned session atHand
    · exact gone.abandoned _ (.alive (aliveSession?_eq_some.mpr ⟨state, here, held, rfl⟩))
  | current found => exact gone.abandoned other (.current found)
  | register found => exact gone.abandoned other (.register found)

theorem Gone.push (gone : world.Gone id) {state : SessionState}
    (fresh : state.session.id = { index := world.sessions.size }) :
    Gone { world with sessions := world.sessions.push state } id := by
  have known : id.index < (world.sessions.push state).size := by
    rw [Array.size_push]
    exact Nat.lt_succ_of_lt gone.known
  refine ⟨gone.identified.push fresh, known, fun other found => ?_⟩
  cases found with
  | @alive key found =>
    obtain ⟨shown, here, held, rfl⟩ := aliveSession?_eq_some.mp found
    simp only [session?, Array.getElem?_push] at here
    split at here
    · obtain rfl := Option.some.inj here
      rw [fresh]
      rintro rfl
      exact Nat.lt_irrefl _ gone.known
    · exact gone.abandoned _ (.alive (aliveSession?_eq_some.mpr ⟨shown, here, held, rfl⟩))
  | current found => exact gone.abandoned other (.current found)
  | register found => exact gone.abandoned other (.register found)

theorem Gone.place (gone : world.Gone id) {placed : Option Session}
    (atHand : ∀ session, placed = some session → world.AtHand session) :
    Gone { world with current := placed } id := by
  refine ⟨gone.identified, gone.known, fun other found => gone.abandoned other ?_⟩
  cases found with
  | alive found => exact .alive found
  | current found => exact atHand other found
  | register found => exact .register found

theorem Gone.enter (gone : world.Gone id) {name : String} {register : Register}
    (atHand : ∀ session, register = .session session → world.AtHand session) :
    Gone { world with registers := world.registers.insert name register } id := by
  refine ⟨gone.identified, gone.known, fun other found => gone.abandoned other ?_⟩
  cases found with
  | alive found => exact .alive found
  | current found => exact .current found
  | register found =>
    rw [Bindings.get?_insert] at found
    split at found
    · exact atHand other (Option.some.inj found)
    · exact .register found

theorem Gone.clear (gone : world.Gone id) (name : String) :
    Gone { world with registers := world.registers.erase name } id := by
  refine ⟨gone.identified, gone.known, fun other found => gone.abandoned other ?_⟩
  cases found with
  | alive found => exact .alive found
  | current found => exact .current found
  | register found =>
    rw [Bindings.get?_erase] at found
    split at found
    · cases found
    · exact .register found

theorem Change.gone (change : Change before after) (gone : before.Gone id) : after.Gone id := by
  cases change with
  | beside beside => exact gone.of_fewer beside.fewer beside.current beside.registers
  | hold atHand => exact gone.holdSession atHand
  | drop session =>
    exact gone.of_fewer (fewer_dropSession before session) (current_dropSession before session)
      (registers_dropSession before session)
  | close session =>
    exact gone.of_fewer (fewer_dropModule before session) (current_dropModule before session)
      (registers_dropModule before session)
  | «open» fresh => exact gone.push fresh
  | place atHand => exact gone.place atHand
  | enter name atHand => exact gone.enter atHand
  | clear name => exact gone.clear name
  | forget ref => exact gone.of_fewer ⟨rfl, fun _ state found => ⟨state, found, .refl state⟩⟩ rfl rfl

theorem History.gone (history : History before after) (gone : before.Gone id) : after.Gone id := by
  induction history with
  | refl => exact gone
  | tail _ change ih => exact change.gone ih

end World

end ObjectBridge

import ObjectBridge.Proofs.Tracing.Modules
import ObjectBridge.Proofs.World.Sessions
import ObjectBridge.Registry.Serve

/-!
Worlds that differ in a debug flag. Sessions may be configured otherwise as far as tracing goes, one global of
one module says so in one of the spaces, and each world has written a trace of its own; all else is the same.
Twin worlds are such worlds with the same references in the hands of code, all counted exactly.
-/

namespace ObjectBridge

open Guest (Handle)

namespace Bindings

variable {α γ : Type}

def map (change : α → γ) (bindings : Bindings α) : Bindings γ :=
  ⟨bindings.table.map fun _ => change⟩

theorem get?_map (change : α → γ) (bindings : Bindings α) (name : String) :
    (bindings.map change).get? name = (bindings.get? name).map change :=
  Std.ExtTreeMap.getElem?_map

theorem map_insert (change : α → γ) (bindings : Bindings α) (name : String) (value : α) :
    (bindings.insert name value).map change = (bindings.map change).insert name (change value) :=
  ext_get? fun other => by
    rw [get?_map, get?_insert, get?_insert, get?_map]
    split <;> rfl

theorem map_erase (change : α → γ) (bindings : Bindings α) (name : String) :
    (bindings.erase name).map change = (bindings.map change).erase name :=
  ext_get? fun other => by
    rw [get?_map, get?_erase, get?_erase, get?_map]
    split <;> rfl

theorem values_map (change : α → γ) (bindings : Bindings α) :
    (bindings.map change).values = bindings.values.map change := by
  have listed : (bindings.map change).entries = bindings.entries.map fun entry => (entry.1, change entry.2) :=
    Std.ExtTreeMap.toList_map
  rw [values, listed, values, List.map_map, List.map_map]
  rfl

end Bindings

def Session.debugging (session : Session) (debug : Bool) : Session :=
  { session with config := { session.config with debug } }

@[simp] theorem Session.debugging_id (session : Session) (debug : Bool) : (session.debugging debug).id = session.id :=
  rfl

@[simp] theorem Session.debugging_host (session : Session) (debug : Bool) :
    (session.debugging debug).host = session.host :=
  rfl

@[simp] theorem Session.debugging_space (session : Session) (debug : Bool) :
    (session.debugging debug).space = session.space :=
  rfl

@[simp] theorem Session.debugging_proxyClass (session : Session) (debug : Bool) :
    (session.debugging debug).proxyClass = session.proxyClass :=
  rfl

def Session.plain (session : Session) : Session :=
  session.debugging false

def SessionState.plain (state : SessionState) : SessionState :=
  { state with session := state.session.plain }

def Register.plain : Register → Register
  | .session held => .session held.plain
  | other => other

theorem Session.exists_debugging {session session' : Session} (same : session'.plain = session.plain) :
    ∃ debug, session' = session.debugging debug := by
  obtain ⟨id, host, space, ⟨moduleName, debug, proxyName⟩, proxyClass⟩ := session
  obtain ⟨id', host', space', ⟨moduleName', debug', proxyName'⟩, proxyClass'⟩ := session'
  simp only [plain, debugging, Session.mk.injEq, Bridge.Config.mk.injEq, true_and] at same
  obtain ⟨rfl, rfl, rfl, ⟨rfl, rfl⟩, rfl⟩ := same
  exact ⟨debug', rfl⟩

theorem Session.cases_of_plain {found found' : Option Session} (same : found'.map plain = found.map plain) :
    (found = none ∧ found' = none) ∨ ∃ session debug,
      found = some session ∧ found' = some (session.debugging debug) := by
  cases found with
  | none => exact Or.inl ⟨rfl, Option.map_eq_none_iff.mp same⟩
  | some session =>
    obtain ⟨session', rfl, plain⟩ := Option.map_eq_some_iff.mp same
    obtain ⟨debug, rfl⟩ := exists_debugging plain
    exact Or.inr ⟨session, debug, rfl, rfl⟩

@[simp] theorem Register.ref?_plain (register : Register) : register.plain.ref? = register.ref? := by
  cases register <;> rfl

theorem Register.eq_or_session {register register' : Register} (same : register'.plain = register.plain) :
    register' = register ∨
      ∃ session debug, register = .session session ∧ register' = .session (session.debugging debug) := by
  cases register with
  | session session =>
    cases register' with
    | session session' =>
      obtain ⟨debug, rfl⟩ := Session.exists_debugging (Register.session.inj same)
      exact Or.inr ⟨session, debug, rfl, rfl⟩
    | _ => cases same
  | _ => cases register' <;> first | exact Or.inl same | cases same

/-- A debug flag: the module of a space whose global says whether to trace, the values of the global, and the
name, the handle and the body of a function of the module that is not replaced. -/
structure Flag where
  space : SpaceId
  module : Handle
  values : List Handle
  setter : Option (String × Handle × Guest.Function Code)

def Flag.at (flag : Flag) (id : SpaceId) : Guest.Switch Code where
  module := flag.module
  name := Registry.debugGlobal
  values := if id = flag.space then flag.values else []
  fixture := if id = flag.space then
      flag.setter.map fun setter =>
        { moduleName := setter.1, name := Registry.Service.debugOn.name, function := setter.2.1,
          callable := setter.2.2 }
    else none

theorem Flag.name_of_fixture {flag : Flag} {id : SpaceId} {fixture : Guest.Fixture Code}
    (fixed : fixture ∈ (flag.at id).fixture) : fixture.name = Registry.Service.debugOn.name := by
  simp only [Flag.at] at fixed
  split at fixed
  · obtain ⟨_, -, rfl⟩ := Option.map_eq_some_iff.mp fixed
    rfl
  · cases fixed

namespace World

def plain (world : World) : World :=
  { world with
    spaces := #[]
    sessions := world.sessions.map SessionState.plain
    current := world.current.map Session.plain
    registers := world.registers.map Register.plain
    trace := #[] }

section Plain

variable (world : World)

theorem outside_plain : world.plain.outside = world.outside := by
  have registers : (world.registers.map Register.plain).values.filterMap Register.ref? =
      world.registers.values.filterMap Register.ref? := by
    rw [Bindings.values_map, List.filterMap_map]
    exact List.filterMap_congr fun register _ => by cases register <;> rfl
  have sessions : (world.sessions.map SessionState.plain).toList.filterMap SessionState.ref? =
      world.sessions.toList.filterMap SessionState.ref? := by
    rw [Array.toList_map, List.filterMap_map]
    rfl
  simp only [outside, plain, registers, sessions]

theorem session?_plain (id : SessionId) : world.plain.session? id = (world.session? id).map SessionState.plain :=
  Array.getElem?_map

theorem aliveSession?_plain (id : SessionId) :
    world.plain.aliveSession? id = (world.aliveSession? id).map Session.plain := by
  simp only [aliveSession?, session?_plain]
  cases world.session? id with
  | none => rfl
  | some state =>
    simp only [Option.map_some, SessionState.plain]
    split <;> rfl

theorem sessionModule?_plain (session : Session) :
    world.plain.sessionModule? session = world.sessionModule? session := by
  simp only [sessionModule?, session?_plain]
  cases world.session? session.id <;> rfl

theorem plain_updateSession (id : SessionId) {change : SessionState → SessionState}
    (same : ∀ state, (change state).plain = change state.plain) :
    (world.updateSession id change).plain = world.plain.updateSession id change := by
  have sessions : (world.sessions.modify id.index change).map SessionState.plain =
      (world.sessions.map SessionState.plain).modify id.index change := by
    refine Array.ext_getElem? fun index => ?_
    rw [Array.getElem?_map, Array.getElem?_modify, Array.getElem?_modify, Array.getElem?_map]
    split
    · cases world.sessions[index]? with
      | none => rfl
      | some state => exact congrArg some (same state)
    · rfl
  simp only [updateSession, plain, sessions]

end Plain

/-- The worlds differ in the flag, in how sessions are configured to trace and in the trace, and in nothing
else. -/
structure Alike (flag : Flag) (first second : World) : Prop where
  spaces : ∀ id, (first.space id).Like (flag.at id) (second.space id)
  size : second.spaces.size = first.spaces.size
  plain : second.plain = first.plain

structure Twins (flag : Flag) (loose : Multiset Ref) (first second : World) : Prop where
  exact : first.Exact loose
  exact' : second.Exact loose
  alike : first.Alike flag second

variable {flag : Flag} {first second : World}

namespace Alike

variable (alike : first.Alike flag second)
include alike

theorem outside : second.outside = first.outside := by
  rw [← outside_plain, alike.plain, outside_plain]

theorem hosts : second.hosts = first.hosts :=
  show second.plain.hosts = first.plain.hosts by rw [alike.plain]

theorem host (id : Host.HostId) : second.host id = first.host id := by
  rw [World.host, alike.hosts, World.host]

theorem catalogue : second.catalogue = first.catalogue :=
  show second.plain.catalogue = first.plain.catalogue by rw [alike.plain]

theorem sessionModule? (session : Session) : second.sessionModule? session = first.sessionModule? session := by
  rw [← sessionModule?_plain, alike.plain, sessionModule?_plain]

theorem aliveSession? (id : SessionId) :
    (second.aliveSession? id).map Session.plain = (first.aliveSession? id).map Session.plain := by
  rw [← aliveSession?_plain, alike.plain, aliveSession?_plain]

theorem current : second.current.map Session.plain = first.current.map Session.plain :=
  congrArg World.current alike.plain

theorem register (name : String) :
    (second.registers.get? name).map Register.plain = (first.registers.get? name).map Register.plain := by
  have tables : second.registers.map Register.plain = first.registers.map Register.plain :=
    congrArg World.registers alike.plain
  rw [← Bindings.get?_map, tables, Bindings.get?_map]

theorem ref_of_register (name : String) :
    (second.registers.get? name).bind Register.ref? = (first.registers.get? name).bind Register.ref? := by
  have refs (found : Option Register) : found.bind Register.ref? = (found.map Register.plain).bind Register.ref? := by
    cases found <;> simp
  rw [refs, alike.register name, ← refs]

theorem register_cases (name : String) :
    second.registers.get? name = first.registers.get? name ∨
      ∃ session debug, first.registers.get? name = some (.session session) ∧
        second.registers.get? name = some (.session (session.debugging debug)) := by
  have same := alike.register name
  cases found : first.registers.get? name with
  | none =>
    rw [found, Option.map_none, Option.map_eq_none_iff] at same
    exact Or.inl same
  | some register =>
    rw [found, Option.map_some] at same
    obtain ⟨register', found', same⟩ := Option.map_eq_some_iff.mp same
    rw [found']
    rcases Register.eq_or_session same with rfl | ⟨session, debug, rfl, rfl⟩
    · exact Or.inl rfl
    · exact Or.inr ⟨session, debug, rfl, rfl⟩

theorem setSpace {id : SpaceId} {space space' : Space} (like : space.Like (flag.at id) space') :
    (first.setSpace id space).Alike flag (second.setSpace id space') where
  spaces other := by
    by_cases known : id.index < first.spaces.size
    · rw [space_setSpace known, space_setSpace (alike.size ▸ known)]
      split
      · rename_i here
        exact here ▸ like
      · exact alike.spaces other
    · rw [setSpace_of_unknown known, setSpace_of_unknown (alike.size ▸ known)]
      exact alike.spaces other
  size := by rw [size_setSpace, size_setSpace, alike.size]
  plain := alike.plain

theorem updateSpace {id : SpaceId} {change : Space → Space}
    (like : (change (first.space id)).Like (flag.at id) (change (second.space id))) :
    (first.updateSpace id change).Alike flag (second.updateSpace id change) := by
  rw [updateSpace_eq_setSpace, updateSpace_eq_setSpace]
  exact alike.setSpace like

theorem of_spaces {after after' : World} (spaces : after.spaces = first.spaces)
    (spaces' : after'.spaces = second.spaces)
    (plain : after'.plain = after.plain) : after.Alike flag after' where
  spaces id := by
    simp only [World.space, spaces, spaces']
    exact alike.spaces id
  size := by rw [spaces, spaces', alike.size]
  plain := plain

theorem with_trace (trace trace' : Array String) : Alike flag { first with trace } { second with trace := trace' } :=
  alike.of_spaces rfl rfl alike.plain

theorem updateSession (id : SessionId) {change : SessionState → SessionState}
    (same : ∀ state, (change state).plain = change state.plain) :
    (first.updateSession id change).Alike flag (second.updateSession id change) :=
  alike.of_spaces rfl rfl (by rw [plain_updateSession _ _ same, plain_updateSession _ _ same, alike.plain])

theorem live_iff (ref : Ref) : second.Live ref ↔ first.Live ref := by
  have like := alike.spaces ref.space
  have cells : (∃ cell, (second.space ref.space).heap.cell? ref.handle = some cell) ↔
      ∃ cell, (first.space ref.space).heap.cell? ref.handle = some cell := by
    have related := like.heap.cell? ref.handle
    generalize (first.space ref.space).heap.cell? ref.handle = cell at related ⊢
    generalize (second.space ref.space).heap.cell? ref.handle = cell' at related ⊢
    cases related <;> simp
  rw [Live, Live, alike.size, like.roots, cells]

end Alike

namespace Twins

variable {loose : Multiset Ref}

theorem of_leads {loose' frame : Multiset Ref} {after after' : World} (twins : first.Twins flag (loose + frame) second)
    (leads : Leads .lasting (first, loose) (after, loose')) (leads' : Leads .lasting (second, loose) (after', loose'))
    (alike : after.Alike flag after') : after.Twins flag (loose' + frame) after' :=
  ⟨leads.exact twins.exact, leads'.exact twins.exact', alike⟩

theorem exact_space (twins : first.Twins flag loose second) (id : SpaceId) :
    (first.space id).Exact (heldIn id (loose + first.outside)) ∧
      (second.space id).Exact (heldIn id (loose + first.outside)) :=
  ⟨twins.exact.spaces id, twins.alike.outside ▸ twins.exact'.spaces id⟩

theorem retainAll {refs : List Ref} (twins : first.Twins flag loose second) (live : ∀ ref ∈ refs, first.Live ref) :
    (first.retainAll refs).Twins flag ((refs : Multiset Ref) + loose) (second.retainAll refs) := by
  have framed : first.Twins flag (0 + loose) second := by rwa [zero_add]
  have leads := leads_retainAll .lasting framed.exact live
  have leads' := leads_retainAll .lasting framed.exact' fun ref member =>
    (twins.alike.live_iff ref).mpr (live ref member)
  rw [add_zero] at leads leads'
  refine framed.of_leads leads leads' ?_
  clear leads leads' framed live
  have alike := twins.alike
  clear twins
  unfold World.retainAll
  induction refs generalizing first second with
  | nil => exact alike
  | cons ref rest ih =>
    refine ih (alike.updateSpace ?_)
    have like := alike.spaces ref.space
    exact like.of_near (like.toNear.retain ref.handle) (Guest.Space.keeps_retain _ ref.handle) rfl

theorem retain {ref : Ref} (twins : first.Twins flag loose second) (live : first.Live ref) :
    (first.retain ref).Twins flag ({ref} + loose) (second.retain ref) := by
  have taken : (first.retainAll [ref]).Twins flag _ (second.retainAll [ref]) := twins.retainAll (by simpa using live)
  exact taken

theorem release {ref : Ref} (twins : first.Twins flag (ref ::ₘ loose) second) :
    (first.release ref).Twins flag loose (second.release ref) := by
  have framed : first.Twins flag (ref ::ₘ 0 + loose) second := by rwa [Multiset.cons_add, zero_add]
  have leads := leads_release .lasting framed.exact
  have leads' := leads_release .lasting framed.exact'
  have alike : (first.release ref).Alike flag (second.release ref) := by
    refine twins.alike.updateSpace ?_
    obtain ⟨exact, exact'⟩ := twins.exact_space ref.space
    rw [Multiset.cons_add, heldIn_cons, if_pos rfl] at exact exact'
    exact (twins.alike.spaces ref.space).release exact exact'
  simpa using framed.of_leads leads leads' alike

theorem releaseAll {refs : List Ref} (twins : first.Twins flag ((refs : Multiset Ref) + loose) second) :
    (first.releaseAll refs).Twins flag loose (second.releaseAll refs) := by
  unfold World.releaseAll
  induction refs generalizing first second with
  | nil => simpa using twins
  | cons ref rest ih =>
    rw [← Multiset.cons_coe, Multiset.cons_add] at twins
    exact ih twins.release

theorem move {after after' : World} (twins : first.Twins flag loose second)
    (moved : after.spaces = first.spaces ∧ after.outside = first.outside ∧ Steady first after)
    (moved' : after'.spaces = second.spaces ∧ after'.outside = second.outside ∧ Steady second after')
    (plain : after'.plain = after.plain) : after.Twins flag loose after' := by
  have framed : first.Twins flag (0 + loose) second := by rwa [zero_add]
  have leads {before after : World}
      (moved : after.spaces = before.spaces ∧ after.outside = before.outside ∧ Steady before after) :
      Leads .lasting (before, 0) (after, 0) := leads_move moved.1 (congrArg _ moved.2.1) moved.2.2
  have ended := framed.of_leads (leads moved) (leads moved') (twins.alike.of_spaces moved.1 moved'.1 plain)
  rwa [zero_add] at ended

theorem updateSession (twins : first.Twins flag loose second) (id : SessionId) {change : SessionState → SessionState}
    (keeps : ∀ state, (change state).session = state.session ∧ (change state).module? = state.module?)
    (same : ∀ state, (change state).plain = change state.plain) :
    (first.updateSession id change).Twins flag loose (second.updateSession id change) := by
  have framed : first.Twins flag (0 + loose) second := by rwa [zero_add]
  have ended := framed.of_leads (leads_updateSession keeps) (leads_updateSession keeps)
    (framed.alike.updateSession id same)
  rwa [zero_add] at ended

theorem holdSession (twins : first.Twins flag loose second) (session : Session) :
    (first.holdSession session).Twins flag loose (second.holdSession session) :=
  twins.updateSession session.id (fun _ => ⟨rfl, rfl⟩) fun _ => rfl

theorem dropModule (twins : first.Twins flag loose second) (session : Session) :
    (first.dropModule session).Twins flag loose (second.dropModule session) := by
  unfold World.dropModule
  cases found : first.sessionModule? session with
  | none =>
    rw [twins.alike.sessionModule?, found]
    exact twins
  | some module =>
    have found' := (twins.alike.sessionModule? session).trans found
    rw [found']
    have framed : first.Twins flag (0 + loose) second := by rwa [zero_add]
    have taken := framed.of_leads (leads_takeModule found) (leads_takeModule found')
      (framed.alike.updateSession session.id fun _ => rfl)
    rw [Multiset.cons_add, zero_add] at taken
    exact taken.release

theorem dropSession (twins : first.Twins flag loose second) (session : Session) :
    (first.dropSession session).Twins flag loose (second.dropSession session) := by
  have fewer : Twins flag loose
      (first.updateSession session.id fun state => { state with holders := state.holders - 1 })
      (second.updateSession session.id fun state => { state with holders := state.holders - 1 }) :=
    twins.updateSession session.id (fun _ => ⟨rfl, rfl⟩) fun _ => rfl
  have alive := fewer.alike.aliveSession? session.id
  unfold World.dropSession
  extract_lets world world'
  rcases found : world.aliveSession? session.id with _ | held <;>
    rcases found' : world'.aliveSession? session.id with _ | held' <;> rw [found, found'] at alive
  · exact fewer.dropModule session
  · cases alive
  · cases alive
  · exact fewer

theorem dropRegister {register register' : Register} (same : register'.plain = register.plain)
    (twins : first.Twins flag ((register.ref?.toList : Multiset Ref) + loose) second) :
    (first.dropRegister register).Twins flag loose (second.dropRegister register') := by
  rcases Register.eq_or_session same with rfl | ⟨session, debug, rfl, rfl⟩
  · cases register' with
    | value ref => exact twins.release
    | session session =>
      have framed : first.Twins flag loose second := by simpa [Register.ref?] using twins
      exact framed.dropSession session
    | _ => simpa [Register.ref?, World.dropRegister] using twins
  · have framed : first.Twins flag loose second := by simpa [Register.ref?] using twins
    exact framed.dropSession session

theorem holdRegister {name : String} {register register' : Register} (same : register'.plain = register.plain)
    (found : first.registers.get? name = some register) (twins : first.Twins flag loose second) :
    (first.holdRegister register).Twins flag ((register.ref?.toList : Multiset Ref) + loose)
      (second.holdRegister register') := by
  rcases Register.eq_or_session same with rfl | ⟨session, debug, rfl, rfl⟩
  · cases register' with
    | value ref =>
      refine twins.retain (twins.exact.live (Multiset.mem_add.mpr (Or.inr ?_)))
      refine Multiset.mem_add.mpr (Or.inl (Multiset.mem_add.mpr (Or.inl ?_)))
      exact Multiset.mem_coe.mpr (List.mem_filterMap.mpr ⟨_, Bindings.mem_values.mpr ⟨name, found⟩, rfl⟩)
    | session session => simpa [Register.ref?, World.holdRegister] using twins.holdSession session
    | _ => simpa [Register.ref?, World.holdRegister] using twins
  · have held : (first.holdSession session).Twins flag loose (second.holdSession (session.debugging debug)) :=
      twins.holdSession session
    simpa [Register.ref?, World.holdRegister] using held

theorem eraseRegister (twins : first.Twins flag loose second) (name : String) :
    Twins flag ((((first.registers.get? name).bind Register.ref?).toList : Multiset Ref) + loose)
      { first with registers := first.registers.erase name }
        { second with registers := second.registers.erase name } := by
  have leads : Leads .lasting (first, loose) _ := leads_eraseRegister name
  have leads' : Leads .lasting (second, loose) _ := leads_eraseRegister name
  rw [twins.alike.ref_of_register] at leads'
  have tables : (second.registers.erase name).map Register.plain = (first.registers.erase name).map Register.plain := by
    rw [Bindings.map_erase, Bindings.map_erase]
    exact congrArg (·.erase name) (congrArg World.registers twins.alike.plain)
  have plain : World.plain { second with registers := second.registers.erase name } =
      World.plain { first with registers := first.registers.erase name } := by
    show { second.plain with registers := (second.registers.erase name).map Register.plain } =
      { first.plain with registers := (first.registers.erase name).map Register.plain }
    rw [tables, twins.alike.plain]
  have framed : first.Twins flag (loose + 0) second := by rwa [add_zero]
  have ended := framed.of_leads leads leads' (twins.alike.of_spaces rfl rfl plain)
  rwa [add_zero] at ended

theorem store (name : String) {register register' : Register} (same : register'.plain = register.plain)
    (twins : first.Twins flag ((register.ref?.toList : Multiset Ref) + loose) second) :
    (first.store name register).Twins flag loose (second.store name register') := by
  have earlier := twins.alike.register name
  have stored : Twins flag ((((first.registers.get? name).bind Register.ref?).toList : Multiset Ref) + loose)
      { first with registers := first.registers.insert name register }
      { second with registers := second.registers.insert name register' } := by
    have held : register'.ref? = register.ref? := by rw [← register'.ref?_plain, same, register.ref?_plain]
    have tables : (second.registers.insert name register').map Register.plain =
        (first.registers.insert name register).map Register.plain := by
      rw [Bindings.map_insert, Bindings.map_insert, same]
      exact congrArg (·.insert name register.plain) (congrArg World.registers twins.alike.plain)
    have plain : World.plain { second with registers := second.registers.insert name register' } =
        World.plain { first with registers := first.registers.insert name register } := by
      show { second.plain with registers := (second.registers.insert name register').map Register.plain } =
        { first.plain with registers := (first.registers.insert name register).map Register.plain }
      rw [tables, twins.alike.plain]
    have leads : Leads .lasting (first, (register.ref?.toList : Multiset Ref) + loose) _ :=
      leads_insertRegister name register
    have leads' : Leads .lasting (second, (register'.ref?.toList : Multiset Ref) + loose) _ :=
      leads_insertRegister name register'
    rw [held, twins.alike.ref_of_register] at leads'
    have framed : first.Twins flag ((register.ref?.toList : Multiset Ref) + loose + 0) second := by rwa [add_zero]
    have ended := framed.of_leads leads leads' (twins.alike.of_spaces rfl rfl plain)
    rwa [add_zero] at ended
  unfold World.store
  extract_lets world world'
  rcases found : first.registers.get? name with _ | register <;>
    rcases found' : second.registers.get? name with _ | register' <;> rw [found, found'] at earlier
  · rw [found] at stored
    simpa using stored
  · cases earlier
  · cases earlier
  · rw [found] at stored
    exact stored.dropRegister (Option.some.inj earlier)

end Twins

end World

end ObjectBridge

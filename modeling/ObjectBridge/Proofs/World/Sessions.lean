import ObjectBridge.Proofs.World.Acts

/-!
Balance of what is done to registers and sessions. A reference that goes into a register or comes out of
one stays the same reference; a session that nobody can use any more gives its module back.
-/

namespace ObjectBridge

open Guest (Extent Handle)

section Lists

variable {α γ : Type}

theorem filterMap_cons_eq_add (pick : α → Option γ) (head : α) (rest : List α) :
    (((head :: rest).filterMap pick : List γ) : Multiset γ) =
      ((pick head).toList : Multiset γ) + (rest.filterMap pick : Multiset γ) := by
  cases first : pick head <;> simp [first, ← Multiset.cons_coe]

theorem filterMap_modify (pick : α → Option γ) (change : α → α) {items : List α} {index : Nat} {item : α}
    (here : items[index]? = some item) :
    (((items.modify index change).filterMap pick : List γ) : Multiset γ) + ((pick item).toList : Multiset γ) =
      (items.filterMap pick : Multiset γ) + ((pick (change item)).toList : Multiset γ) := by
  induction items generalizing index with
  | nil => simp at here
  | cons head rest ih =>
    cases index with
    | zero =>
      obtain rfl : head = item := by simpa using here
      rw [List.modify_zero_cons, filterMap_cons_eq_add, filterMap_cons_eq_add, add_right_comm,
        add_comm (Multiset.ofList (pick (change head)).toList), add_right_comm]
    | succ index =>
      have later := ih (by simpa using here)
      rw [List.modify_succ_cons, filterMap_cons_eq_add, filterMap_cons_eq_add, add_assoc, later, add_assoc]

end Lists

namespace World

theorem leads_move {world world' : World} {loose loose' : Multiset Ref} (spaces : world'.spaces = world.spaces)
    (same : loose' + world'.outside = loose + world.outside) (steady : Steady world world') :
    Leads .lasting (world, loose) (world', loose') := by
  refine ⟨by rw [spaces], fun known => ?_, fun id here => ?_, steady, nofun⟩
  · simpa only [Knows, carried, spaces, same] using known
  · rw [spaces] at here
    rw [origin, if_pos here]
    have space : world'.space id = world.space id := by simp [World.space, spaces]
    simp only [carried, space, same]
    exact .refl

theorem outside_updateSession (world : World) (id : SessionId) (change : SessionState → SessionState)
    {state : SessionState} (here : world.session? id = some state) :
    (world.updateSession id change).outside + (state.ref?.toList : Multiset Ref) =
      world.outside + ((change state).ref?.toList : Multiset Ref) := by
  have listed : world.sessions.toList[id.index]? = some state := by simpa [session?] using here
  have moved := filterMap_modify SessionState.ref? change listed
  simp only [outside, updateSession, Array.toList_modify]
  rw [add_right_comm, add_assoc (Multiset.ofList _), moved, ← add_assoc, add_right_comm]

theorem updateSession_of_unknown {world : World} {id : SessionId} (change : SessionState → SessionState)
    (unknown : world.session? id = none) : world.updateSession id change = world := by
  unfold updateSession
  congr 1
  refine Array.ext_getElem? fun index => ?_
  rw [Array.getElem?_modify]
  split
  · rename_i same
    subst same
    have nothing : world.sessions[id.index]? = none := unknown
    rw [nothing]
    rfl
  · rfl

theorem session?_updateSession (world : World) (id other : SessionId)
    (change : SessionState → SessionState) :
    (world.updateSession id change).session? other =
      if other = id then (world.session? id).map change else world.session? other := by
  by_cases same : other = id
  · subst same
    simp [session?, updateSession, Array.getElem?_modify]
  · have apart : id.index ≠ other.index := fun equal => same (by cases id; cases other; simp_all)
    simp [session?, updateSession, Array.getElem?_modify, same, apart]

theorem steady_updateSession (world : World) (id : SessionId) {change : SessionState → SessionState}
    (keeps : ∀ state, (change state).session = state.session)
    (module : ∀ state, (change state).module? = none ∨ (change state).module? = state.module?) :
    Steady world (world.updateSession id change) where
  prepared prepared := by
    refine ⟨prepared.named, prepared.interpreters, fun other state found => ?_⟩
    rw [session?_updateSession] at found
    split at found
    · obtain ⟨earlier, here, rfl⟩ := Option.map_eq_some_iff.mp found
      rw [keeps]
      exact prepared.proxied id earlier here
    · exact prepared.proxied other state found
  sessions other state found := by
    rw [session?_updateSession]
    split
    · rename_i same
      subst same
      exact ⟨change state, by rw [found, Option.map_some], keeps state, module state⟩
    · exact ⟨state, found, rfl, Or.inr rfl⟩
  hosts := Nat.le_refl _
  classes _ _ _ found := found

theorem leads_updateSession {world : World} {loose : Multiset Ref} {id : SessionId}
    {change : SessionState → SessionState}
    (keeps : ∀ state, (change state).session = state.session ∧ (change state).module? = state.module?) :
    Leads .lasting (world, loose) (world.updateSession id change, loose) := by
  refine leads_move rfl (congrArg _ ?_)
    (steady_updateSession world id (fun state => (keeps state).1) fun state => Or.inr (keeps state).2)
  cases here : world.session? id with
  | some state =>
    have moved := outside_updateSession world id change here
    have held : (change state).ref? = state.ref? := by
      simp only [SessionState.ref?, (keeps state).1, (keeps state).2]
    rw [held] at moved
    exact add_right_cancel moved
  | none => rw [updateSession_of_unknown change here]

theorem sessionModule?_eq_some {world : World} {session : Session} {module : Ref} :
    world.sessionModule? session = some module ↔
      ∃ state, world.session? session.id = some state ∧ state.ref? = some module := by
  unfold sessionModule? SessionState.ref?
  cases world.session? session.id <;> simp

theorem mem_outside_of_sessionModule? {world : World} {session : Session} {module : Ref}
    (found : world.sessionModule? session = some module) : module ∈ world.outside := by
  obtain ⟨state, here, held⟩ := sessionModule?_eq_some.mp found
  have listed : state ∈ world.sessions.toList := by
    have at_ : world.sessions[session.id.index]? = some state := here
    exact Array.mem_toList_iff.mpr (Array.mem_of_getElem? at_)
  refine Multiset.mem_add.mpr (Or.inl (Multiset.mem_add.mpr (Or.inr ?_)))
  exact Multiset.mem_coe.mpr (List.mem_filterMap.mpr ⟨state, listed, held⟩)

theorem leads_takeModule {world : World} {session : Session} {module : Ref} {loose : Multiset Ref}
    (found : world.sessionModule? session = some module) :
    Leads .lasting (world, loose)
      (world.updateSession session.id fun state => { state with module? := none }, module ::ₘ loose) := by
  obtain ⟨state, here, held⟩ := sessionModule?_eq_some.mp found
  refine leads_move rfl ?_ (steady_updateSession world session.id (fun _ => rfl) fun _ => Or.inl rfl)
  have moved := outside_updateSession world session.id (fun state => { state with module? := none }) here
  rw [held] at moved
  simp only [Option.toList_some, Multiset.coe_singleton, SessionState.ref?, Option.map_none,
    Option.toList_none, Multiset.coe_nil, add_zero] at moved
  rw [← moved, ← Multiset.singleton_add, add_comm _ loose, add_assoc]
  exact congrArg _ (add_comm _ _)

theorem leads_dropModule {world : World} {loose frame : Multiset Ref} (session : Session)
    (exact : world.Exact (loose + frame)) : Leads .lasting (world, loose) (world.dropModule session, loose) := by
  unfold dropModule
  split
  · rename_i module found
    have taken : Leads .lasting (world, loose) _ := leads_takeModule found
    exact taken.trans (leads_release .lasting (taken.exact exact))
  · exact .refl world loose

theorem leads_holdSession {world : World} {loose : Multiset Ref} (session : Session) :
    Leads .lasting (world, loose) (world.holdSession session, loose) :=
  leads_updateSession fun _ => ⟨rfl, rfl⟩

theorem leads_dropSession {world : World} {loose frame : Multiset Ref} (session : Session)
    (exact : world.Exact (loose + frame)) :
    Leads .lasting (world, loose) (world.dropSession session, loose) := by
  have fewer : Leads .lasting (world, loose) (world.updateSession session.id fun state =>
      { state with holders := state.holders - 1 }, loose) := leads_updateSession fun _ => ⟨rfl, rfl⟩
  unfold dropSession
  extract_lets world'
  split
  · exact fewer
  · exact fewer.trans (leads_dropModule session (fewer.exact exact))

section Registers

variable {world : World} {loose frame : Multiset Ref}

theorem leads_holdRegister {register : Register} {name : String} (exact : world.Exact (loose + frame))
    (found : world.registers.get? name = some register) :
    Leads .lasting (world, loose)
      (world.holdRegister register, (register.ref?.toList : Multiset Ref) + loose) := by
  cases register with
  | value ref =>
    refine leads_retain .lasting exact (exact.live (Multiset.mem_add.mpr (Or.inr ?_)))
    refine Multiset.mem_add.mpr (Or.inl (Multiset.mem_add.mpr (Or.inl ?_)))
    exact Multiset.mem_coe.mpr (List.mem_filterMap.mpr ⟨_, Bindings.mem_values.mpr ⟨name, found⟩, rfl⟩)
  | session session => simpa [Register.ref?, holdRegister] using leads_holdSession session
  | _ => simpa [Register.ref?, holdRegister] using Leads.refl world loose

theorem leads_dropRegister {register : Register}
    (exact : world.Exact ((register.ref?.toList : Multiset Ref) + loose + frame)) :
    Leads .lasting (world, (register.ref?.toList : Multiset Ref) + loose)
      (world.dropRegister register, loose) := by
  cases register with
  | value ref => exact leads_release .lasting exact
  | session session =>
    simp only [Register.ref?, Option.toList_none, Multiset.coe_nil, zero_add] at exact ⊢
    exact leads_dropSession session exact
  | _ => simpa [Register.ref?, dropRegister] using Leads.refl world loose

theorem leads_forgetRegister {register : Register} :
    Leads .lasting (world, (register.ref?.toList : Multiset Ref) + loose)
      (world.forgetRegister register, loose) := by
  cases register with
  | value ref =>
    refine leads_move rfl ?_ (.of_same rfl rfl rfl)
    simp only [forgetRegister, outside, Register.ref?, Option.toList_some, ← Multiset.cons_coe,
      Multiset.add_cons, Multiset.cons_add, Multiset.coe_nil, zero_add]
  | _ => simpa [Register.ref?, forgetRegister] using Leads.refl world loose

theorem leads_insertRegister (name : String) (register : Register) :
    Leads .lasting (world, (register.ref?.toList : Multiset Ref) + loose)
      ({ world with registers := world.registers.insert name register },
        (((world.registers.get? name).bind Register.ref?).toList : Multiset Ref) + loose) := by
  refine leads_move rfl ?_ (.of_same rfl rfl rfl)
  have values := congrArg (Multiset.filterMap Register.ref?)
    (world.registers.values_insert name register)
  have earlier : (world.registers.get? name).toList.filterMap Register.ref? =
      ((world.registers.get? name).bind Register.ref?).toList := by
    cases world.registers.get? name with
    | none => rfl
    | some old => cases held : old.ref? <;> simp [held]
  rw [Multiset.filterMap_add, Multiset.cons_coe, Multiset.filterMap_coe, Multiset.filterMap_coe,
    Multiset.filterMap_coe, filterMap_cons_eq_add, earlier] at values
  simp only [outside]
  rw [add_comm _ loose, add_comm _ loose, add_assoc loose, add_assoc loose]
  refine congrArg _ ?_
  rw [← add_assoc, ← add_assoc, ← add_assoc, ← add_assoc, add_comm (Multiset.ofList _), values]

theorem leads_eraseRegister (name : String) :
    Leads .lasting (world, loose) ({ world with registers := world.registers.erase name },
      (((world.registers.get? name).bind Register.ref?).toList : Multiset Ref) + loose) := by
  cases found : world.registers.get? name with
  | none => simpa [Bindings.erase_of_none found] using Leads.refl world loose
  | some register =>
    refine leads_move rfl ?_ (.of_same rfl rfl rfl)
    have values := congrArg (Multiset.filterMap Register.ref?) (Bindings.values_erase found)
    rw [Multiset.cons_coe, Multiset.filterMap_coe, Multiset.filterMap_coe, filterMap_cons_eq_add] at values
    simp only [outside, values, Option.bind_some]
    rw [add_comm _ loose, add_assoc loose, add_assoc, add_assoc, add_assoc]

theorem leads_store {name : String} {register : Register}
    (exact : world.Exact ((register.ref?.toList : Multiset Ref) + loose + frame)) :
    Leads .lasting (world, (register.ref?.toList : Multiset Ref) + loose) (world.store name register, loose) := by
  have stored : Leads .lasting (world, (register.ref?.toList : Multiset Ref) + loose) _ :=
    leads_insertRegister name register
  unfold store
  extract_lets world'
  cases found : world.registers.get? name with
  | none => simpa [found] using stored
  | some earlier =>
    rw [found, Option.bind_some] at stored
    exact stored.trans (leads_dropRegister (stored.exact exact))

end Registers

/-! ### What becomes of objects

To let go of sessions and registers takes objects away at most. -/

section OnlyLoses

theorem onlyLoses_dropModule (world : World) (session : Session) : world.OnlyLoses (world.dropModule session) := by
  unfold dropModule
  split
  · exact (OnlyLoses.of_spaces rfl).trans (onlyLoses_release _ _)
  · exact .refl world

theorem onlyLoses_dropSession (world : World) (session : Session) : world.OnlyLoses (world.dropSession session) := by
  unfold dropSession
  extract_lets fewer
  have counted : world.OnlyLoses fewer := .of_spaces rfl
  split
  · exact counted
  · exact counted.trans (onlyLoses_dropModule _ _)

theorem onlyLoses_dropRegister (world : World) (register : Register) : world.OnlyLoses (world.dropRegister register) := by
  cases register with
  | value ref => exact world.onlyLoses_release ref
  | session session => exact world.onlyLoses_dropSession session
  | _ => exact .refl world

theorem onlyLoses_holdRegister (world : World) (register : Register) : world.OnlyLoses (world.holdRegister register) := by
  cases register with
  | value ref => exact world.onlyLoses_retain ref
  | session session => exact .of_spaces rfl
  | _ => exact .refl world

theorem onlyLoses_forgetRegister (world : World) (register : Register) : world.OnlyLoses (world.forgetRegister register) := by
  cases register <;> exact .of_spaces rfl

theorem onlyLoses_store (world : World) (name : String) (register : Register) :
    world.OnlyLoses (world.store name register) := by
  unfold store
  extract_lets stored
  have entered : world.OnlyLoses stored := .of_spaces rfl
  split
  · exact entered.trans (onlyLoses_dropRegister _ _)
  · exact entered

end OnlyLoses

end World

namespace Act

variable [World.Passing] {ε α : Type} {borrowed : List Ref} {owned : Multiset Ref}

theorem Balanced.change {update : World → World}
    (same : ∀ world, (update world).spaces = world.spaces ∧ (update world).outside = world.outside ∧
      World.Steady world (update world)) :
    Balanced .lasting borrowed owned (change update : Act ε Unit) fun _ => owned :=
  fun world _ _ _ => (World.leads_move (same world).1 (congrArg _ (same world).2.1) (same world).2.2).passes
    (.of_spaces (same world).1)

theorem Balanced.step {update : World → α × World}
    (same : ∀ world, (update world).2.spaces = world.spaces ∧ (update world).2.outside = world.outside ∧
      World.Steady world (update world).2) :
    Balanced .lasting borrowed owned (step update : Act ε α) fun _ => owned :=
  fun world _ _ _ => (World.leads_move (same world).1 (congrArg _ (same world).2.1) (same world).2.2).passes
    (.of_spaces (same world).1)

theorem Balanced.holding {act : Act ε α} {answer : α → Multiset Ref} (session : Session)
    (balanced : Balanced .lasting borrowed owned act answer) :
    Balanced .lasting borrowed owned (holding session act) answer := by
  intro world frame exact lent
  have held : Settles .lasting world owned (Act.change (·.holdSession session) : Act ε Unit) fun _ => owned :=
    (World.leads_holdSession session).passes (.of_spaces rfl)
  refine held.bind fun _ _ => ?_
  have settles := balanced _ frame (held.exact exact) lent
  exact World.Passing.trans settles <|
    (World.leads_dropSession session (settles.exact (held.exact exact))).passes (World.onlyLoses_dropSession _ session)

end Act

end ObjectBridge

import ObjectBridge.Proofs.Space.Plain
import ObjectBridge.Proofs.World.Callbacks
import ObjectBridge.Proofs.World.Lending

/-!
Conversions and back. An object that has a Host form mirrors it: the two have the same shape, with equal strings. A
value that has a plain Guest form is mirrored by what it is converted to, so both conversions meet at what mirrors
what.
-/

namespace ObjectBridge

open Guest (Extent Handle)

namespace Host.Value

variable {μ ν : Type}

inductive Plain : Value μ ν → Prop
  | nil : Plain .nil
  | text (content : String) : Plain (.text content)
  | array {items : List (Value μ ν)} (each : ∀ item ∈ items, Plain item) : Plain (.array items)

end Host.Value

namespace World

variable {extent : Extent} {before after : World × Multiset Ref} {frame : Multiset Ref}

theorem Leads.founded (leads : Leads extent before after) (exact : before.1.Exact (before.2 + frame)) {id : SpaceId}
    (founded : (before.1.space id).Founded) : (after.1.space id).Founded := by
  by_cases known : id.index < after.1.spaces.size
  · have path := leads.paths id known
    unfold origin at path
    by_cases there : id.index < before.1.spaces.size
    · rw [if_pos there] at path
      have exactBefore := exact.spaces id
      rw [← carried_add_uncarried extent before.1, add_add_add_comm, heldIn_add] at exactBefore
      exact Guest.Space.Path.founded path exactBefore founded
    · rw [if_neg there] at path
      have exactStart : (Guest.Space.start : Space).Exact (0 + 0) := Guest.Space.exact_start
      exact Guest.Space.Path.founded path exactStart Guest.Space.founded_start
  · rw [World.space_of_unknown known]
    exact Guest.Space.founded_of_ended rfl rfl

theorem typed_empty (id : SpaceId) : (empty.space id).Typed := by
  rw [space_of_unknown (Nat.not_lt_zero _)]
  exact fun roots started => by cases started

theorem Exact.exists_object {world : World} {held : Multiset Ref} (exact : world.Exact held) {value : Ref}
    (given : value ∈ held) (started : (world.space value.space).roots.isSome) :
    ∃ object, world.get? value = some object := by
  obtain ⟨cell, here⟩ := (exact.live (Multiset.mem_add.mpr (Or.inl given))).2 started
  exact ⟨cell.object, Guest.Heap.get?_of_cell here⟩

theorem founded_empty (id : SpaceId) : (empty.space id).Founded := by
  rw [space_of_unknown (Nat.not_lt_zero _)]
  exact Guest.Space.founded_of_ended rfl rfl

end World

theorem mapM_ok_or_error {ε α γ : Type} (convert : α → Except ε γ) (items : List α) :
    (∃ results, items.mapM convert = .ok results ∧
      List.Forall₂ (fun item result => convert item = .ok result) items results) ∨
      ∃ before item after error, items = before ++ item :: after ∧
        (∀ earlier ∈ before, ∃ result, convert earlier = .ok result) ∧ convert item = .error error ∧
          items.mapM convert = .error error := by
  induction items with
  | nil => exact Or.inl ⟨[], rfl, .nil⟩
  | cons item rest ih =>
    cases converted : convert item with
    | error error =>
      refine Or.inr ⟨[], item, rest, error, rfl, nofun, converted, ?_⟩
      rw [List.mapM_cons, converted]
      rfl
    | ok result =>
      rcases ih with ⟨results, all, each⟩ | ⟨before, failed, after, error, rfl, earlier, fails, all⟩
      · refine Or.inl ⟨result :: results, ?_, .cons converted each⟩
        rw [List.mapM_cons, converted, all]
        rfl
      · refine Or.inr ⟨item :: before, failed, after, error, rfl, fun other member => ?_, fails, ?_⟩
        · rcases List.mem_cons.mp member with rfl | member
          · exact ⟨result, converted⟩
          · exact earlier other member
        · rw [List.mapM_cons, converted, all]
          rfl

namespace Bridge

open Act

inductive Mirrors (space : Space) : Handle → HostValue → Prop
  | nil {handle : Handle} (found : space.heap.get? handle = some .none) : Mirrors space handle .nil
  | text {handle : Handle} {content : String} (found : space.heap.get? handle = some (.str content)) :
      Mirrors space handle (.text content)
  | array {handle : Handle} {handles : List Handle} {items : List HostValue}
      (found : space.heap.get? handle = some (.tuple handles)) (length : items.length = handles.length)
      (each : ∀ (index : Nat) item handle, items[index]? = some item → handles[index]? = some handle →
        Mirrors space handle item) :
      Mirrors space handle (.array items)

section Mirrors

variable {space space' : Space} {handle handle' : Handle} {value value' : HostValue}

theorem Mirrors.plain_value (mirrors : Mirrors space handle value) : value.Plain := by
  induction mirrors with
  | nil found => exact .nil
  | text found => exact .text _
  | array found length each ih =>
    refine .array fun item member => ?_
    obtain ⟨index, inside, rfl⟩ := List.mem_iff_getElem.mp member
    exact ih index _ _ (List.getElem?_eq_getElem inside) (List.getElem?_eq_getElem (length ▸ inside))

theorem Mirrors.plain (mirrors : Mirrors space handle value) : space.Plain handle := by
  induction mirrors with
  | nil found => exact .none found
  | text found => exact .text found
  | array found length each ih =>
    refine .tuple found fun handle member => ?_
    obtain ⟨index, inside, rfl⟩ := List.mem_iff_getElem.mp member
    exact ih index _ _ (List.getElem?_eq_getElem (length ▸ inside)) (List.getElem?_eq_getElem inside)

theorem Mirrors.value_eq (mirrors : Mirrors space handle value) (other : Mirrors space handle value') :
    value = value' := by
  induction mirrors generalizing value' with
  | nil found => cases other <;> simp_all
  | text found => cases other <;> simp_all
  | @array handle handles items found length each ih =>
    cases other with
    | @array _ handles' items' found' length' each' =>
      obtain rfl : handles = handles' := by simpa [found] using found'
      congr 1
      refine List.ext_getElem (length.trans length'.symm) fun index inside inside' => ?_
      have here := List.getElem?_eq_getElem (length ▸ inside)
      have listed := List.getElem?_eq_getElem inside
      have listed' := List.getElem?_eq_getElem inside'
      exact ih index _ _ listed here (each' index _ _ listed' here)
    | _ => simp_all

theorem Mirrors.alike (mirrors : Mirrors space handle value) (other : Mirrors space' handle' value) :
    space.Alike space' handle handle' := by
  induction mirrors generalizing handle' with
  | nil found =>
    cases other with
    | nil found' => exact .none found found'
  | text found =>
    cases other with
    | text found' => exact .text found found'
  | @array handle handles items found length each ih =>
    cases other with
    | @array _ handles' _ found' length' each' =>
      refine .tuple found found' (length.symm.trans length') fun index item item' here here' => ?_
      obtain ⟨inside, -⟩ := List.getElem?_eq_some_iff.mp here
      have listed := List.getElem?_eq_getElem (length ▸ inside : index < items.length)
      exact ih index _ _ listed here (each' index _ _ listed here')

end Mirrors

section Conversions

variable {world : World} {held : Multiset Ref} {session : Session} {space : SpaceId} {levels : Nat} {handle : Handle}
  {outcome : Except Error HostValue}

theorem typeNameFor_retainAll (world : World) (refs : List Ref) (session : Session) (value : Ref) :
    typeNameFor (world.retainAll refs) session value = typeNameFor world session value := by
  have objects (handle : Handle) : ((world.retainAll refs).space session.space).heap.get? handle =
      (world.space session.space).heap.get? handle :=
    World.get?_retainAll world refs { space := session.space, handle }
  unfold typeNameFor Guest.Space.typeNameOf Guest.Space.typeOf Guest.Space.typeName
  simp only [Guest.Space.rootsNow, Guest.Space.object, World.roots_retainAll, objects]

def hostFormWithin (world : World) (session : Session) (space : SpaceId) : Nat → Handle → Except Error HostValue
  | 0, handle => .error (.unsupportedGuestType (typeNameFor world session { space, handle }))
  | levels + 1, handle =>
    match (world.space space).heap.get? handle with
    | some .none => .ok .nil
    | some (.str content) => .ok (.text content)
    | some (.tuple items) => do
      return .array (← items.mapM (hostFormWithin world session space levels))
    | _ => .error (.unsupportedGuestType (typeNameFor world session { space, handle }))

theorem hostFormWithin_retainAll (refs : List Ref) :
    hostFormWithin (world.retainAll refs) session space levels handle =
      hostFormWithin world session space levels handle := by
  induction levels generalizing handle with
  | zero => simp only [hostFormWithin, typeNameFor_retainAll]
  | succ levels ih =>
    have objects : ((world.retainAll refs).space space).heap.get? handle = (world.space space).heap.get? handle :=
      World.get?_retainAll world refs { space, handle }
    have each : hostFormWithin (world.retainAll refs) session space levels =
        hostFormWithin world session space levels := funext fun _ => ih
    unfold hostFormWithin
    rw [objects, each, typeNameFor_retainAll]

theorem run_mapM_map {ε α γ δ : Type} {act : γ → Act ε α} {place : δ → γ} {convert : δ → Except ε α} {items : List δ}
    (each : ∀ item ∈ items, (act (place item)).run world = (convert item, world)) :
    ((items.map place).mapM act).run world = (items.mapM convert, world) := by
  induction items with
  | nil => rfl
  | cons item rest ih =>
    have later := ih fun other member => each other (List.mem_cons_of_mem _ member)
    have here := each item List.mem_cons_self
    rw [List.map_cons, List.mapM_cons, List.mapM_cons]
    cases converted : convert item with
    | error error =>
      rw [converted] at here
      rw [run_bind_error here]
      rfl
    | ok result =>
      rw [converted] at here
      rw [run_bind_ok here, run_bind, later]
      cases rest.mapM convert <;> rfl

theorem live_items {value : Ref} {items : List Handle} (exact : world.Exact held)
    (found : world.get? value = some (.tuple items)) :
    ∀ ref ∈ items.map fun handle => { value with handle }, world.Live ref := by
  intro ref member
  obtain ⟨item, listed, rfl⟩ := List.mem_map.mp member
  have started := Guest.Space.started_of_get? (exact.spaces value.space) found
  obtain ⟨cell, here⟩ := ((exact.spaces value.space).started started).exists_cell_of_child found listed
  exact ⟨World.known_of_get? found, fun _ => ⟨cell, here⟩⟩

/-- The conversion reads its answer off the world, and leaves the world as it was: the items of a tuple are held for a
while, and given back. -/
theorem run_toHostWithin (session : Session) (exact : world.Exact held) (levels : Nat) (value : Ref) :
    (toHostWithin session levels value).run world =
      (hostFormWithin world session value.space levels value.handle, world) := by
  induction levels generalizing world held value with
  | zero => rfl
  | succ levels ih =>
    unfold toHostWithin hostFormWithin
    rw [run_bind_ok (run_kindOf value)]
    cases found : world.get? value with
    | none =>
      rw [World.get?] at found
      rw [found]
      rfl
    | some object =>
      have there : (world.space value.space).heap.get? value.handle = some object := found
      rw [there]
      cases object with
      | str content =>
        simp only [Option.map_some, Guest.Object.kind]
        rw [run_bind_ok (World.textOf_eq found)]
        rfl
      | tuple items =>
        let refs : List Ref := items.map fun handle => { value with handle }
        have tuple : (world.space value.space).tuple? value.handle = some items := by rw [Guest.Space.tuple?, there]
        have ranItems : (itemsOf value : BridgeAct (Option (List Ref))).run world =
            (.ok (some refs), world.retainAll refs) := by
          rw [itemsOf, run_get_bind, tuple]
          rfl
        have live : ∀ ref ∈ refs, world.Live ref := live_items exact found
        have retained := (World.leads_retained exact live).exact_alone exact
        have converted : (refs.mapM (toHostWithin session levels)).run (world.retainAll refs) =
            (items.mapM (hostFormWithin world session value.space levels), world.retainAll refs) := by
          refine run_mapM_map fun item _ => ?_
          rw [ih retained, hostFormWithin_retainAll]
        simp only [Option.map_some, Guest.Object.kind]
        rw [run_bind_ok ranItems]
        dsimp only
        rw [run_lending, run_bind, converted]
        cases items.mapM (hostFormWithin world session value.space levels) <;>
          exact Prod.ext rfl (World.releaseAll_retainAll exact live)
      | _ => rfl

/-- The outcome is a value that the object mirrors, or tells of the first item in it that has no Host form. -/
def Settled (world : World) (session : Session) (space : SpaceId) (handle : Handle)
    (outcome : Except Error HostValue) : Prop :=
  (∃ value, outcome = .ok value ∧ Mirrors (world.space space) handle value) ∨
    ∃ alien, (world.space space).FirstForeign handle alien ∧
      outcome = .error (.unsupportedGuestType (typeNameFor world session { space, handle := alien }))

theorem settled_tuple {items : List Handle} (found : (world.space space).heap.get? handle = some (.tuple items))
    (each : ∀ item ∈ items, Settled world session space item (hostFormWithin world session space levels item)) :
    Settled world session space handle (hostFormWithin world session space (levels + 1) handle) := by
  unfold Settled
  rw [hostFormWithin, found]
  dsimp only
  rcases mapM_ok_or_error (hostFormWithin world session space levels) items with
    ⟨values, all, converted⟩ | ⟨before, item, after, error, rfl, earlier, fails, all⟩
  · refine Or.inl ⟨.array values, by rw [all]; rfl, .array found converted.length_eq.symm ?_⟩
    intro index value item listed here
    obtain ⟨inside, rfl⟩ := List.getElem?_eq_some_iff.mp here
    obtain ⟨inside', rfl⟩ := List.getElem?_eq_some_iff.mp listed
    have ok := converted.get inside inside'
    rcases each _ (List.getElem_mem inside) with ⟨value, ran, mirrors⟩ | ⟨alien, -, ran⟩
    · obtain rfl : value = values[index] := Except.ok.inj (ran.symm.trans ok)
      exact mirrors
    · cases ran.symm.trans ok
  · refine Or.inr ?_
    rcases each item (by simp) with ⟨value, ran, -⟩ | ⟨alien, first, ran⟩
    · cases ran.symm.trans fails
    · -- The conversion stops at the first item that fails, so all before it are plain.
      obtain rfl := Except.error.inj (fails.symm.trans ran)
      refine ⟨alien, .inside found (fun other member => ?_) first, by rw [all]; rfl⟩
      obtain ⟨value, ok⟩ := earlier other member
      rcases each other (List.mem_append_left _ member) with ⟨_, -, mirrors⟩ | ⟨_, -, ran⟩
      · exact mirrors.plain
      · cases ran.symm.trans ok

theorem settled_of_live (session : Session) {frame : Multiset Handle} (exact : (world.space space).Exact frame)
    (founded : (world.space space).Founded) {object : Guest.Object Code}
    (live : (world.space space).heap.get? handle = some object) :
    Settled world session space handle
      (hostFormWithin world session space (world.space space).depthBound handle) := by
  -- Tuples nest no deeper than there are slots, so the levels last for all of them.
  refine founded.nested.descend (fun levels handle => ∀ object, (world.space space).heap.get? handle = some object →
    Settled world session space handle (hostFormWithin world session space levels handle)) ?_ handle
    (Nat.lt_succ_self _) object live
  intro levels handle ih object found
  cases object with
  | none => exact Or.inl ⟨.nil, by simp [hostFormWithin, found], .nil found⟩
  | str content => exact Or.inl ⟨.text content, by simp [hostFormWithin, found], .text found⟩
  | tuple items =>
    refine settled_tuple found fun item member => ?_
    have kept := exact.started (Guest.Space.started_of_get? exact found)
    obtain ⟨cell, here⟩ := kept.exists_cell_of_child found member
    exact ih item ⟨_, found, member⟩ cell.object (Guest.Heap.get?_of_cell here)
  | _ => exact Or.inr ⟨handle, .here found rfl, by simp [hostFormWithin, found]⟩

theorem run_toHost (session : Session) (exact : world.Exact held) (value : Ref) :
    (toHost session value).run world =
      (hostFormWithin world session value.space (world.space value.space).depthBound value.handle, world) := by
  rw [toHost, run_get_bind, run_toHostWithin session exact]

theorem Denotes.mirrors {value : HostValue} (denotes : Denotes world session value handle) (plain : value.Plain)
    (founded : (world.space session.space).Founded) : Mirrors (world.space session.space) handle value := by
  induction denotes with
  | nil constant =>
    obtain ⟨roots, started, named⟩ := Option.bind_eq_some_iff.mp constant
    have found := founded.none roots started
    obtain rfl : roots.noneValue = _ := Option.some.inj named
    exact .nil found
  | text found => exact .text found
  | @array items handle handles found length each ih =>
    cases plain with
    | array plain =>
      refine .array found length fun index item handle listed here => ih index item handle listed here ?_
      exact plain item (List.mem_of_getElem? listed)
  | proxy => cases plain

theorem Plain.convertible {value : HostValue} (plain : value.Plain) : Convertible world session value := by
  induction plain with
  | nil => exact .nil
  | text content => exact .text content
  | array _ ih => exact .array ih

theorem run_toGuest_plain {frame : Multiset Ref} {value : HostValue} (exact : world.Exact frame)
    (started : (world.space session.space).roots.isSome) (founded : (world.space session.space).Founded)
    (plain : value.Plain) :
    ∃ ref after, (toGuest session value).run world = (.ok ref, after) ∧ ref.space = session.space ∧
      Mirrors (after.space session.space) ref.handle value ∧ World.Leads .temporary (world, 0) (after, {ref}) := by
  have convertible : Convertible world session value := Plain.convertible plain
  obtain ⟨ref, after, ran⟩ := exists_run_toGuestAt 0 value exact started convertible
  obtain ⟨⟨home, denotes⟩, -⟩ := denotes_of_run value exact ran
  have balanced : Act.Balanced .temporary [] 0 (toGuestAt session 0 value) ({·}) :=
    balanced_toGuestAt session 0 value []
  have leads := balanced.leads_ok (by rwa [zero_add]) ran
  exact ⟨ref, after, ran, home, denotes.mirrors plain (leads.founded (by rwa [zero_add]) founded), leads⟩

theorem run_toHost_plain (session : Session) {value : Ref} (exact : world.Exact held)
    (founded : (world.space value.space).Founded) (plain : (world.space value.space).Plain value.handle) :
    ∃ content, (toHost session value).run world = (.ok content, world) ∧
      Mirrors (world.space value.space) value.handle content := by
  obtain ⟨object, live, -⟩ := plain.exists_object
  rcases settled_of_live session (exact.spaces _) founded live with ⟨content, ran, mirrors⟩ | ⟨_, first, -⟩
  · exact ⟨content, by rw [run_toHost session exact, ran], mirrors⟩
  · exact absurd plain first.not_plain

theorem run_toHost_foreign {value : Ref} (exact : world.Exact held) (founded : (world.space session.space).Founded)
    (typed : (world.space session.space).Typed) (home : value.space = session.space) {object : Guest.Object Code}
    (live : world.get? value = some object) (foreign : ¬(world.space session.space).Plain value.handle) :
    ∃ alien name, (world.space session.space).FirstForeign value.handle alien ∧
      (world.space session.space).typeNameOf alien = .ok name ∧
        (toHost session value).run world = (.error (.unsupportedGuestType name), world) := by
  have kept := exact.spaces session.space
  rw [World.get?, home] at live
  rcases settled_of_live session kept founded live with ⟨content, -, mirrors⟩ | ⟨alien, first, ran⟩
  · exact absurd mirrors.plain foreign
  · obtain ⟨object, found, -⟩ := first.exists_object
    obtain ⟨name, named⟩ := (kept.closed typed).exists_typeNameOf ⟨object, found⟩
      (Guest.Space.started_of_get? kept found)
    refine ⟨alien, name, first, named, ?_⟩
    rw [run_toHost session exact, home, ran, typeNameFor, named]

theorem value_round_trip {value : HostValue} (exact : world.Exact held)
    (started : (world.space session.space).roots.isSome) (founded : (world.space session.space).Founded)
    (plain : value.Plain) : ∃ ref after, (toGuest session value).run world = (.ok ref, after) ∧
      (toHost session ref).run after = (.ok value, after) := by
  obtain ⟨ref, after, ran, home, mirrors, leads⟩ := run_toGuest_plain exact started founded plain
  have exactBefore : world.Exact (0 + held) := by rwa [zero_add]
  have foundedAfter := leads.founded exactBefore founded
  rw [← home] at mirrors foundedAfter
  obtain ⟨content, back, mirrors'⟩ := run_toHost_plain session (leads.exact exactBefore) foundedAfter
    mirrors.plain
  obtain rfl := mirrors.value_eq mirrors'
  exact ⟨ref, after, ran, back⟩

theorem object_round_trip {value : Ref} (exact : world.Exact held) (founded : (world.space session.space).Founded)
    (home : value.space = session.space) (plain : (world.space session.space).Plain value.handle) :
    ∃ content ref after, (toHost session value).run world = (.ok content, world) ∧
      (toGuest session content).run world = (.ok ref, after) ∧ ref.space = session.space ∧
        (world.space session.space).Alike (after.space session.space) value.handle ref.handle := by
  obtain ⟨object, live, -⟩ := plain.exists_object
  have started := Guest.Space.started_of_get? (exact.spaces _) live
  rw [← home] at founded plain
  obtain ⟨content, ran, mirrors⟩ := run_toHost_plain session exact founded plain
  rw [home] at founded mirrors
  obtain ⟨ref, after, back, here, mirrors', -⟩ := run_toGuest_plain exact started founded mirrors.plain_value
  exact ⟨content, ref, after, ran, back, here, mirrors.alike mirrors'⟩

end Conversions

end Bridge

namespace Engine

open Act Bridge

variable {world : World} {held : Multiset Ref} {session : Session} {module function registry : Ref}
  {globals : Bindings Handle}

theorem run_toHostOrProxy_ok (engine : Engine) {value : Ref} {content : HostValue}
    (ran : (toHost session value).run world = (.ok content, world)) :
    (engine.toHostOrProxy session value).run world = (.ok content, world) := by
  unfold toHostOrProxy
  rw [run_bind, run_outcome, ran]
  rfl

theorem run_toHostOrProxy_error {engine : Engine} {value : Ref} {name : String}
    (ran : (toHost session value).run world = (.error (.unsupportedGuestType name), world)) :
    (engine.toHostOrProxy session value).run world = (engine.makeProxy session value).run world := by
  unfold toHostOrProxy
  rw [run_bind, run_outcome, ran]

/-- Conversions and back. A value of nil, strings and arrays comes back equal. An object of `None`, strings and tuples
comes back in the same form; the conversion of any other tells the type of the first item that has no Host form, and
if a proxy is taken for it, what comes back is the object itself. -/
theorem conversions_round_trip (engine : Engine) (reached : World.Leads .lasting (.empty, 0) (world, held))
    (stores : world.Stores session module function registry globals)
    (alive : (world.aliveSession? session.id).isSome) :
    (∀ value : HostValue, value.Plain → ∃ ref after, (toGuest session value).run world = (.ok ref, after) ∧
      (toHost session ref).run after = (.ok value, after)) ∧
    ∀ value ∈ held, value.space = session.space →
      ((world.space session.space).Plain value.handle → ∃ content ref after,
        (toHost session value).run world = (.ok content, world) ∧
          (toGuest session content).run world = (.ok ref, after) ∧ ref.space = session.space ∧
            (world.space session.space).Alike (after.space session.space) value.handle ref.handle) ∧
      (¬(world.space session.space).Plain value.handle → ∃ alien name,
        (world.space session.space).FirstForeign value.handle alien ∧
          (world.space session.space).typeNameOf alien = .ok name ∧
            (toHost session value).run world = (.error (.unsupportedGuestType name), world)) ∧
      ∃ result between ref after, (engine.next.toHostOrProxy session value).run world = (.ok result, between) ∧
        (toGuest session result).run between = (.ok ref, after) ∧ ref.space = session.space ∧
          ((world.space session.space).Plain value.handle ∧
              (world.space session.space).Alike (after.space session.space) value.handle ref.handle ∨
            ¬(world.space session.space).Plain value.handle ∧
              ProxyFor session value (Registry.keyOf value) result ∧ ref = value) := by
  have exactEmpty : World.empty.Exact (0 + 0) := World.exact_empty
  have exact : world.Exact held := by simpa using reached.exact exactEmpty
  have founded : (world.space session.space).Founded := reached.founded exactEmpty (World.founded_empty _)
  have typed : (world.space session.space).Typed := reached.typed (World.typed_empty _)
  have started := stores.started exact
  refine ⟨fun value plain => value_round_trip exact started founded plain, fun value given home => ?_⟩
  obtain ⟨object, live⟩ := exact.exists_object given (home ▸ started)
  refine ⟨fun plain => object_round_trip exact founded home plain,
    fun foreign => run_toHost_foreign exact founded typed home live foreign, ?_⟩
  by_cases plain : (world.space session.space).Plain value.handle
  · obtain ⟨content, ref, after, ran, back, here, alike⟩ := object_round_trip exact founded home plain
    exact ⟨content, world, ref, after, run_toHostOrProxy_ok engine.next ran, back, here, Or.inl ⟨plain, alike⟩⟩
  · obtain ⟨alien, name, -, -, ran⟩ := run_toHost_foreign exact founded typed home live plain
    obtain ⟨proxy, between, ranProxy, proxyFor, leads, storesMade, sessions⟩ :=
      run_makeProxy engine stores exact live home
    have exactMade : between.Exact held := by simpa using leads.exact (by rwa [zero_add])
    have liveMade : between.Live value := exactMade.live (Multiset.mem_add.mpr (Or.inl given))
    have aliveMade : (between.aliveSession? session.id).isSome := by
      rwa [World.aliveSession?_of_sessions sessions]
    obtain ⟨after, back⟩ := run_toGuest_proxy exactMade liveMade home storesMade.opened.records aliveMade
      (storesMade.started exactMade) proxyFor
    exact ⟨proxy, between, value, after, (run_toHostOrProxy_error ran).trans ranProxy, back, home,
      Or.inr ⟨plain, proxyFor, rfl⟩⟩

/-- An array, while a string is in hand. -/
theorem conversions_round_trip_array :
    let world := Console.opened
    let state := Console.openedState
    let items : HostValue := .array [.nil, .array [.text "y"], .array []]
    ∃ value before ref after result between,
      (ownedBy state.session.space (Guest.Space.newText "x")).run world = (.ok value, before) ∧
        (toGuest state.session items).run before = (.ok ref, after) ∧
          (toHost state.session ref).run after = (.ok items, after) ∧
            (exhausted.next.toHostOrProxy state.session value).run before = (.ok result, between) := by
  intro world state items
  have reached : World.Leads .lasting (.empty, 0) (world, 0) :=
    Console.leads_after (balanced_ofDepth 1) _ World.exact_empty
  have exact : world.Exact 0 := Console.exact_after 1 _
  have recorded : world.session? { index := 0 } = some state := (Option.some_get _).symm
  have same : state.session.id = { index := 0 } := by decide +kernel
  have stores : world.canStore state.session := by decide +kernel
  have alive : (world.aliveSession? state.session.id).isSome := by decide +kernel
  clear_value state world
  obtain ⟨module, function, registry, globals, stores⟩ := World.exists_stores_of_canStore recorded same stores
  obtain ⟨value, before, ranText, home, leadsText, -, shown⟩ := run_newText exact (stores.started exact) "x"
  have plain : items.Plain := by
    refine .array fun item member => ?_
    obtain rfl | rfl | rfl : item = .nil ∨ item = .array [.text "y"] ∨ item = .array [] := by simpa using member
    · exact .nil
    · exact .array fun item member => List.mem_singleton.mp member ▸ .text "y"
    · exact .array fun item member => absurd member List.not_mem_nil
  have known : world.Knows world.outside := by simpa using exact.known
  have reachedBefore := reached.trans (leadsText.lasting known)
  obtain ⟨values, objects⟩ := conversions_round_trip exhausted reachedBefore
    (stores.of_leads leadsText (by rwa [zero_add]))
    (by rwa [World.aliveSession?_of_sessions (leadsText.extends exact).sessions])
  obtain ⟨ref, after, ran, back⟩ := values items plain
  obtain ⟨-, -, result, between, -, -, ranProxy, -⟩ := objects value (Multiset.mem_singleton_self value) home
  exact ⟨value, before, ref, after, result, between, ranText, ran, back, ranProxy⟩

end Engine

end ObjectBridge

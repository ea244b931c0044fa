import ObjectBridge.Proofs.Space.Ended
import ObjectBridge.Proofs.World.Commands
import ObjectBridge.Proofs.World.Results

/-!
The end of a space is final. Code that was running in the space when it ended goes on, and so do others, but
nothing that is done brings an object into it, or out of it.
-/

namespace ObjectBridge

open Guest (Handle)

namespace Act

variable {α : Type} {world : World} {id : SpaceId}

theorem run_onSpace_refused {operation : Guest.Op Code α} (refuses : Guest.Space.Refuses operation)
    (ended : (world.space id).roots = none) : (onSpace id operation).run world = (.error .finalized, world) := by
  rw [run_onSpace, refuses _ ended]

theorem run_ownedBy_refused {operation : Guest.Op Code Handle} (refuses : Guest.Space.Refuses operation)
    (ended : (world.space id).roots = none) : (ownedBy id operation).run world = (.error .finalized, world) := by
  rw [run_ownedBy, refuses _ ended]

theorem run_onView_refused {reader : Space → Except Guest.Exception α}
    (refused : reader (world.space id) = .error .finalized) :
    (onView id reader).run world = (.error .finalized, world) := by
  rw [run_onView, refused]

theorem run_getattr_refused (ended : (world.space id).roots = none) (target : Ref) (name : String) :
    (getattr id target name).run world = (.error .finalized, world) :=
  run_ownedBy_refused (Guest.Space.refuses_getattr _ _) ended

theorem run_hasattr_refused (ended : (world.space id).roots = none) (target : Ref) (name : String) :
    (hasattr id target name).run world = (.error .finalized, world) := by
  unfold hasattr
  rw [run_bind, run_outcome, run_getattr_refused ended]
  rfl

theorem run_dictGet_refused (ended : (world.space id).roots = none) (dict : Ref) (key : String) :
    (dictGet id dict key).run world = (.error .finalized, world) :=
  run_bind_error (run_onSpace_refused (Guest.Space.refuses_dictGet _ _) ended) _

end Act

namespace Engine

open Act

variable {world : World} {id : SpaceId} (engine : Engine) (ended : (world.space id).roots = none)
include ended

theorem run_call_refused (callable : Ref) (arguments : List Ref) (keywords : List (String × Ref)) :
    (engine.next.call id callable arguments keywords).run world = (.error .finalized, world) :=
  run_bind_error (run_onView_refused (Guest.Space.callee_of_ended ended callable.handle)) _

theorem run_callMethod_refused (target : Ref) (name : String) (arguments : List Ref) :
    (engine.callMethod id target name arguments).run world = (.error .finalized, world) :=
  run_bind_error (run_getattr_refused ended target name) _

theorem run_str_refused (value : Ref) : (engine.str id value).run world = (.error .finalized, world) := by
  have shown : (onView id (·.plainText value.handle)).run world = (.error .finalized, world) :=
    run_onView_refused (Guest.Space.plainText_of_ended ended value.handle)
  have typed : Guest.Space.Refuses (β := Code)
      (Guest.Space.read (·.typeOf value.handle) >>= fun type => Guest.Space.acquire type) :=
    (Guest.Space.refuses_read fun _ ended => Guest.Space.typeOf_of_ended ended value.handle).bind _
  have kind : (kindOf value : GuestAct _).run world =
      (.ok ((world.space value.space).kind? value.handle), world) := rfl
  unfold str
  rw [run_bind_ok kind]
  split
  · exact run_bind_error (run_ownedBy_refused typed ended) _
  · exact shown

theorem run_importModule_refused (name : String) :
    (engine.importModule id name).run world = (.error .finalized, world) :=
  run_bind_error (run_onSpace_refused (Guest.Space.refuses_importedModule name) ended) _

theorem run_callWithArguments_refused (callable : Ref) (arguments : List Ref) :
    (Registry.callWithArguments engine.next id callable arguments).run world = (.error .finalized, world) := by
  unfold Registry.callWithArguments
  cases arguments.getLast? with
  | none => exact run_call_refused engine ended callable arguments []
  | some last =>
    have kind : (kindOf last : GuestAct _).run world = (.ok ((world.space last.space).kind? last.handle), world) := rfl
    dsimp only
    rw [run_bind_ok kind]
    split
    · exact run_bind_error (run_dictGet_refused ended last Registry.keywordMarker) _
    · exact run_call_refused engine ended callable arguments []

end Engine

/-- What a space can be asked for, with an exception as the other answer. The creation of types is left out. -/
inductive Asks (engine : Engine) (id : SpaceId) : {α : Type} → GuestAct α → Prop
  | acquire (handle : Handle) : Asks engine id (Act.ownedBy id (Guest.Space.acquire handle))
  | noneValue : Asks engine id (Act.ownedBy id Guest.Space.noneValue)
  | boolValue (value : Bool) : Asks engine id (Act.ownedBy id (Guest.Space.boolValue value))
  | newInt (value : Int64) : Asks engine id (Act.ownedBy id (Guest.Space.newInt value))
  | newText (text : String) : Asks engine id (Act.ownedBy id (Guest.Space.newText text))
  | newTuple (items : List Handle) : Asks engine id (Act.ownedBy id (Guest.Space.newTuple items))
  | newDict : Asks engine id (Act.ownedBy id (Guest.Space.allocate (.dict .empty)))
  | newFunction (name : String) (bound : Option Handle) (body : Code) :
      Asks engine id (Act.ownedBy id (Guest.Space.newFunction name bound body))
  | typeOf (handle : Handle) : Asks engine id (Act.ownedBy id do
      Guest.Space.acquire (← Guest.Space.read (·.typeOf handle)))
  | typeName (handle : Handle) : Asks engine id (Act.onView id (·.typeNameOf handle))
  | isInstance (handle type : Handle) : Asks engine id (Act.onView id (·.isInstance handle type))
  | dir (handle : Handle) : Asks engine id (Act.onView id (·.dir handle))
  | repr (handle : Handle) : Asks engine id (Act.onView id (·.repr handle))
  | str (value : Ref) : Asks engine id (engine.str id value)
  | getattr (target : Ref) (name : String) : Asks engine id (Act.getattr id target name)
  | hasattr (target : Ref) (name : String) : Asks engine id (Act.hasattr id target name)
  | setattr (target : Ref) (name : String) (value : Ref) : Asks engine id (Act.setattr id target name value)
  | dictGet (dict : Ref) (key : String) : Asks engine id (Act.dictGet id dict key)
  | dictSet (dict : Handle) (key : String) (value : Handle) :
      Asks engine id (Act.onSpace id (Guest.Space.dictSet dict key value))
  | dictRemove (dict : Handle) (key : String) : Asks engine id (Act.onSpace id (Guest.Space.dictRemove dict key))
  | dictItems (dict : Handle) : Asks engine id (Act.onSpace id (Guest.Space.dictItems dict))
  | dictEntries (dict : Handle) : Asks engine id (Act.onView id (·.entries dict))
  | call (callable : Ref) (arguments : List Ref) (keywords : List (String × Ref)) :
      Asks engine id (engine.call id callable arguments keywords)
  | callMethod (target : Ref) (name : String) (arguments : List Ref) :
      Asks engine id (engine.callMethod id target name arguments)
  | callWithArguments (callable : Ref) (arguments : List Ref) :
      Asks engine id (Registry.callWithArguments engine id callable arguments)
  | importModule (name : String) : Asks engine id (engine.importModule id name)

namespace World

theorem Leads.ended {extent : Guest.Extent} {before after : World × Multiset Ref} (leads : Leads extent before after)
    {id : SpaceId} (known : id.index < before.1.spaces.size) (ended : (before.1.space id).roots = none) :
    (after.1.space id).roots = none := by
  have path := leads.paths id (known.trans_le leads.size)
  rw [origin, if_pos known] at path
  exact Guest.Space.Path.roots_eq_none path ended

theorem ended_of_run {world after : World} {id : SpaceId} {result : Except Guest.TeardownError Unit}
    (ran : (Bridge.finalizeSpace id).run world = (result, after)) :
    after = world.setSpace id (world.space id).finalize.2 ∧ (after.space id).roots = none ∧
      (result ≠ .error .notInitialized → id.index < after.spaces.size) := by
  obtain ⟨rfl, rfl⟩ : (world.space id).finalize.1 = result ∧ world.setSpace id (world.space id).finalize.2 = after :=
    Prod.mk.inj ran
  refine ⟨rfl, ?_, fun did => ?_⟩
  · by_cases known : id.index < world.spaces.size
    · rw [space_setSpace known, if_pos rfl]
      exact Guest.Space.roots_finalize _
    · rw [setSpace_of_unknown known, space_of_unknown known]
      rfl
  · by_contra unknown
    rw [size_setSpace] at unknown
    rw [space_of_unknown unknown] at did
    exact did rfl

end World

section Ended

variable {world : World} {id : SpaceId} (ended : (world.space id).roots = none)
include ended

theorem Asks.refused {engine : Engine} {α : Type} {act : GuestAct α} (asks : Asks engine.next id act) :
    act.run world = (.error .finalized, world) := by
  cases asks with
  | acquire handle => exact Act.run_ownedBy_refused (Guest.Space.refuses_acquire handle) ended
  | noneValue => exact Act.run_ownedBy_refused Guest.Space.refuses_noneValue ended
  | boolValue value => exact Act.run_ownedBy_refused (Guest.Space.refuses_boolValue value) ended
  | newInt value => exact Act.run_ownedBy_refused (Guest.Space.refuses_allocate _) ended
  | newText text => exact Act.run_ownedBy_refused (Guest.Space.refuses_allocate _) ended
  | newTuple items => exact Act.run_ownedBy_refused (Guest.Space.refuses_newTuple items) ended
  | newDict => exact Act.run_ownedBy_refused (Guest.Space.refuses_allocate _) ended
  | newFunction name bound body =>
    exact Act.run_ownedBy_refused (Guest.Space.refuses_newFunction name bound body) ended
  | typeOf handle => exact Act.run_ownedBy_refused (Guest.Space.refuses_typeOf handle) ended
  | typeName handle => exact Act.run_onView_refused (Guest.Space.typeNameOf_of_ended ended handle)
  | isInstance handle type => exact Act.run_onView_refused (Guest.Space.isInstance_of_ended ended handle type)
  | dir handle => exact Act.run_onView_refused (Guest.Space.dir_of_ended ended handle)
  | repr handle => exact Act.run_onView_refused (Guest.Space.repr_of_ended ended handle)
  | str value => exact Engine.run_str_refused engine.next ended value
  | getattr target name => exact Act.run_getattr_refused ended target name
  | hasattr target name => exact Act.run_hasattr_refused ended target name
  | setattr target name value => exact Act.run_onSpace_refused (Guest.Space.refuses_setattr _ _ _) ended
  | dictGet dict key => exact Act.run_dictGet_refused ended dict key
  | dictSet dict key value => exact Act.run_onSpace_refused (Guest.Space.refuses_dictSet _ _ _) ended
  | dictRemove dict key => exact Act.run_onSpace_refused (Guest.Space.refuses_dictRemove _ _) ended
  | dictItems dict => exact Act.run_onSpace_refused (Guest.Space.refuses_dictItems dict) ended
  | dictEntries dict => exact Act.run_onView_refused (Guest.Space.entries_of_ended ended dict)
  | call callable arguments keywords => exact Engine.run_call_refused engine ended callable arguments keywords
  | callMethod target name arguments => exact Engine.run_callMethod_refused engine.next ended target name arguments
  | callWithArguments callable arguments =>
    exact Engine.run_callWithArguments_refused engine ended callable arguments
  | importModule name => exact Engine.run_importModule_refused engine.next ended name

theorem run_newType_refused (name : String) (bases : List Handle) (members : List (String × Handle)) :
    (Act.ownedBy id (Guest.Space.newType name bases members)).run world =
      (.error ((Guest.typeFault? name (members.map (·.1))).getD .finalized), world) := by
  rw [Act.run_ownedBy, Guest.Space.newType_of_ended ended]

theorem run_finalizeSpace_ended :
    (Bridge.finalizeSpace id).run world = (.error .notInitialized, world) := by
  unfold Bridge.finalizeSpace
  rw [Act.run_get_bind, Guest.Space.finalize_of_ended ended]
  show (_, world.setSpace id (world.space id)) = _
  rw [World.setSpace_self]
  rfl

variable {held : Multiset Ref} (exact : world.Exact held)
include exact

theorem World.retain_of_ended (handle : Handle) : world.retain { space := id, handle } = world := by
  rw [retain, updateSpace_eq_setSpace, Guest.Space.retain_of_ended (exact.spaces id) ended, setSpace_self]

theorem World.release_of_ended (handle : Handle) : world.release { space := id, handle } = world := by
  rw [release, updateSpace_eq_setSpace, Guest.Space.release_of_ended (exact.spaces id) ended, setSpace_self]

end Ended

/-- However the end of a space went, and whatever was going on in it: in all that follows there is no object in
it, the references to what was there stand for nothing, and whatever it is asked for it refuses. -/
theorem finalized_stays_dead {world ended later : World} {held held' : Multiset Ref} {id : SpaceId}
    {result : Except Guest.TeardownError Unit} (exact : world.Exact held)
    (ran : (Bridge.finalizeSpace id).run world = (result, ended)) (did : result ≠ .error .notInitialized)
    (run : World.Leads .lasting (ended, held) (later, held')) :
    (later.space id).heap = .empty ∧ (later.space id).isInitialized = false ∧
      (∀ name, (later.space id).builtin? name = none) ∧
      (∀ handle, (later.space id).kind? handle = none ∧ (later.space id).text? handle = none ∧
        (later.space id).int? handle = none ∧ (later.space id).bool? handle = none ∧
        (later.space id).tuple? handle = none ∧ later.retain { space := id, handle } = later ∧
        later.release { space := id, handle } = later) ∧
      (Bridge.finalizeSpace id).run later = (.error .notInitialized, later) ∧
      (∀ (engine : Engine) (α : Type) (act : GuestAct α), Asks engine.next id act →
        ∃ exception, act.run later = (.error exception, later) ∧ exception.kind = "RuntimeError") ∧
      ∀ name bases members, ∃ exception,
        (Act.ownedBy id (Guest.Space.newType name bases members)).run later = (.error exception, later) ∧
          exception.kind = if (Guest.typeFault? name (members.map (·.1))).isSome then "TypeError" else "RuntimeError" := by
  obtain ⟨rfl, ending, known⟩ := World.ended_of_run ran
  have exactEnded : (world.setSpace id (world.space id).finalize.2).Exact (held + 0) :=
    (World.leads_finalize world held id).exact (by rwa [add_zero])
  have exactLater : later.Exact held' := by simpa only [add_zero] using run.exact exactEnded
  have dead : (later.space id).roots = none := run.ended (known did) ending
  have empty : (later.space id).heap = .empty := ((exactLater.spaces id).ended dead).1
  have gone (handle : Handle) : (later.space id).heap.get? handle = none := by
    rw [empty, Guest.Heap.get?, Guest.Heap.cell?_empty, Option.map_none]
  refine ⟨empty, by simp [Guest.Space.isInitialized, dead], Guest.Space.builtin?_of_ended dead, fun handle => ?_,
    run_finalizeSpace_ended dead, fun engine α act asks => ⟨_, asks.refused dead, rfl⟩, fun name bases members => ?_⟩
  · exact ⟨by simp [Guest.Space.kind?, gone], by simp [Guest.Space.text?, gone], by simp [Guest.Space.int?, gone],
      by simp [Guest.Space.bool?, gone], by simp [Guest.Space.tuple?, gone],
      World.retain_of_ended dead exactLater handle, World.release_of_ended dead exactLater handle⟩
  · refine ⟨_, run_newType_refused dead name bases members, ?_⟩
    cases fault : Guest.typeFault? name (members.map (·.1)) with
    | none => rfl
    | some exception => exact Guest.kind_typeFault? fault

/-- A space that ends while a string of it is still in a register, and a command that comes later. -/
theorem finalized_stays_dead_leaked :
    let command (action : Console.GuestAction) (register : String) : Console.Command :=
      { action := .guest action, place := none, host := "", result := some register, keyed := false }
    let world := Console.after (.ofDepth 1) [command .start "rt", command (.value (.text "x")) "v"] .empty
    let ended := ((Bridge.finalizeSpace { index := 0 }).run world).2
    let later := Console.after (.ofDepth 1) [command (.value (.register "v")) "w"] ended
    ((Bridge.finalizeSpace { index := 0 }).run world).1 = .error (.leaked 1) ∧
      (later.space { index := 0 }).heap = .empty := by
  intro command world ended later
  have leaked : ((Bridge.finalizeSpace { index := 0 }).run world).1 = .error (.leaked 1) := by decide +kernel
  have exact : world.Exact 0 := Console.exact_after 1 _
  have leads : World.Leads .lasting (world, 0) (ended, 0) := World.leads_finalize world 0 { index := 0 }
  have exactEnded : ended.Exact (0 + 0) := leads.exact (by rwa [add_zero])
  rw [add_zero] at exactEnded
  have run : World.Leads .lasting (ended, 0) (later, 0) :=
    Console.leads_after (Engine.balanced_ofDepth 1) _ exactEnded
  exact ⟨leaked, (finalized_stays_dead exact (Prod.ext leaked rfl) nofun run).1⟩

end ObjectBridge

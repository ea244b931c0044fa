import ObjectBridge.Proofs.Space.Withdrawal
import ObjectBridge.Proofs.World.Imports
import ObjectBridge.Proofs.World.Results

/-!
Imports that fail. What is listed stays listed while initializers run, so that the module which is taken back at the
end is the one that was made for the import.
-/

namespace ObjectBridge

open Act
open Guest (Handle)

namespace World

variable {world before after : World} {id : SpaceId} {name : String}

/-- What the spaces list stays listed as long as they are not finalized, and what is finalized stays so. -/
def KeepsListed (before after : World) : Prop :=
  before.spaces.size ≤ after.spaces.size ∧ ∀ id : SpaceId, id.index < before.spaces.size →
    (after.space id).roots = none ∨ ((before.space id).roots.isSome ∧
      ∀ name module, (before.space id).modules.get? name = some module →
        (after.space id).modules.get? name = some module)

theorem keepsListed_of_tables (size : after.spaces.size = before.spaces.size)
    (tables : ∀ id, (before.space id).SameTables (after.space id)) : KeepsListed before after := by
  refine ⟨size.ge, fun id _ => ?_⟩
  rw [(tables id).roots, (tables id).modules]
  cases (before.space id).roots with
  | none => exact Or.inl rfl
  | some roots => exact Or.inr ⟨rfl, fun _ _ listed => listed⟩

theorem Still.keepsListed (still : Still before after) : KeepsListed before after :=
  keepsListed_of_tables still.size still.tables

theorem keepsListed_of_spaces (spaces : after.spaces = before.spaces) : KeepsListed before after :=
  (Still.of_spaces spaces).keepsListed

theorem KeepsListed.refl (world : World) : KeepsListed world world :=
  keepsListed_of_spaces rfl

theorem KeepsListed.trans {first second third : World} (one : KeepsListed first second)
    (two : KeepsListed second third) : KeepsListed first third := by
  refine ⟨one.1.trans two.1, fun id known => ?_⟩
  rcases two.2 id (known.trans_le one.1) with ended | ⟨started, later⟩
  · exact Or.inl ended
  · rcases one.2 id known with ended | ⟨startedFirst, earlier⟩
    · rw [ended] at started
      cases started
    · exact Or.inr ⟨startedFirst, fun name module listed => later name module (earlier name module listed)⟩

theorem keepsListed_finalize (world : World) (id : SpaceId) :
    KeepsListed world (world.setSpace id (world.space id).finalize.2) := by
  by_cases here : id.index < world.spaces.size
  · refine ⟨(size_setSpace world id _).ge, fun other known => ?_⟩
    rw [space_setSpace here]
    split
    · exact Or.inl (Guest.Space.roots_finalize _)
    · exact ((KeepsListed.refl world).2 other known)
  · rw [setSpace_of_unknown here]
    exact .refl world

instance : CoversObjects KeepsListed where
  refl := .refl
  trans _ _ _ one two := one.trans two
  of_quiet quiet := quiet.still.keepsListed

theorem undoImport_eq_setSpace (world : World) (importing : Importing) :
    world.undoImport importing = world.setSpace importing.space
      (((world.space importing.space).forgetModule importing.name).release importing.module) := by
  by_cases known : importing.space.index < world.spaces.size
  · have here : importing.ref.space = importing.space := rfl
    rw [undoImport, release, here, updateSpace_eq_setSpace, updateSpace_eq_setSpace, setSpace_setSpace,
      space_setSpace known, if_pos rfl]
    rfl
  · rw [setSpace_of_unknown known, undoImport, release]
    have unknown : ¬importing.ref.space.index < world.spaces.size := known
    rw [updateSpace_eq_setSpace, updateSpace_eq_setSpace, setSpace_of_unknown known, setSpace_of_unknown unknown]

theorem space_undoImport {importing : Importing}
    (started : ((world.undoImport importing).space importing.space).roots.isSome) :
    (world.undoImport importing).space importing.space =
      ((world.space importing.space).forgetModule importing.name).release importing.module := by
  rw [undoImport_eq_setSpace] at started ⊢
  by_cases known : importing.space.index < world.spaces.size
  · rw [space_setSpace known, if_pos rfl]
  · rw [setSpace_of_unknown known, space_of_unknown known] at started
    cases started

theorem keepsListed_create {definition : Definition} {module : Handle} {space : Space}
    (free : (world.space id).modules.get? name = none)
    (made : (Guest.Space.createModule name definition).run (world.space id) = .ok (module, space)) :
    KeepsListed world (world.setSpace id space) := by
  obtain ⟨started, -, modules⟩ := Guest.Space.tables_createModule made
  have here := known_of_started started
  refine ⟨(size_setSpace world id space).ge, fun other known => ?_⟩
  rw [space_setSpace here]
  split
  · rename_i same
    subst same
    refine Or.inr ⟨started, fun key value listed => ?_⟩
    have apart : key ≠ name := by
      rintro rfl
      cases free.symm.trans listed
    rw [modules, Bindings.get?_insert, if_neg apart, listed]
  · exact (KeepsListed.refl world).2 other known

theorem KeepsListed.undoImport {last : World} (keeps : KeepsListed world last) (importing : Importing)
    (free : (world.space importing.space).modules.get? importing.name = none) :
    KeepsListed world (last.undoImport importing) := by
  obtain ⟨grown, kept⟩ := keeps
  rw [undoImport_eq_setSpace]
  refine ⟨by rwa [size_setSpace], fun other known => ?_⟩
  have earlier := kept other known
  by_cases same : other = importing.space
  · subst same
    rw [space_setSpace (known.trans_le grown), if_pos rfl]
    have roots : (((last.space importing.space).forgetModule importing.name).release importing.module).roots =
        (last.space importing.space).roots := Guest.Space.roots_forgetModule _ _
    refine earlier.imp (fun ended => roots.trans ended) (And.imp_right fun listed key value found => ?_)
    have apart : key ≠ importing.name := by
      rintro rfl
      cases free.symm.trans found
    rw [Guest.Space.modules_release, Guest.Space.get?_modules_forgetModule, if_neg apart]
    exact listed key value found
  · by_cases here : importing.space.index < last.spaces.size
    · rwa [space_setSpace here, if_neg same]
    · rwa [setSpace_of_unknown here]

theorem keepsListed_importModule {engine : Engine} (respects : engine.Respects KeepsListed) (id : SpaceId)
    (name : String) : Act.Respects KeepsListed (engine.importModule id name) := by
  intro world
  rcases engine.importModule_cases id name world with ⟨exception, -, failed⟩ | ⟨module, -, -, answered⟩ |
    ⟨definition, module, space, free, -, made, initialized⟩
  · rw [failed]
    exact .refl world
  · rw [answered]
    exact (world.quiet_retain module).still.keepsListed
  · rw [initialized]
    have initializes : Act.Respects KeepsListed (definition.initializers.forM (engine.runInitializer id
        (Importing.created id name module definition).ref)) :=
      .forM (Engine.respects_runInitializer (respects.call id) _) _
    have lasts := (keepsListed_create free made).trans (initializes (world.setSpace id space))
    split
    · rename_i last ran
      rwa [ran] at lasts
    · rename_i exception last ran
      rw [ran] at lasts
      exact lasts.undoImport (.created id name module definition) free

instance : CoversSpaces KeepsListed where
  finalizes := keepsListed_finalize
  imports := keepsListed_importModule

instance : CoversSessions KeepsListed where
  hold _ := keepsListed_of_spaces rfl
  drop world session := (world.still_dropSession session).keepsListed
  close world session := (world.still_dropModule session).keepsListed
  record _ := keepsListed_of_spaces rfl
  enter _ _ _ := keepsListed_of_spaces rfl
  clear _ _ := keepsListed_of_spaces rfl
  forget _ _ := keepsListed_of_spaces rfl
  start world := by
    refine ⟨by simp [addSpace], fun id known => ?_⟩
    rw [space_addSpace, if_neg known.ne]
    exact (KeepsListed.refl world).2 id known
  interpreter world name := by
    unfold World.interpreter
    split <;> exact keepsListed_of_spaces rfl
  register _ _ _ := keepsListed_of_spaces rfl

instance : CoversProcess KeepsListed :=
  Bridge.coversProcess_of_place fun _ => keepsListed_of_spaces rfl

theorem Leads.kept {owned owned' frame : Multiset Ref} {value : Ref} (property : Guest.Object Code → Prop)
    (closed : ∀ object object', Guest.Object.Changes object object' → property object → property object')
    (leads : Leads .lasting (before, owned) (after, owned')) (exact : before.Exact (owned + frame))
    (held : value ∈ frame) (holds : ∃ object, before.get? value = some object ∧ property object)
    (started : (after.space value.space).roots.isSome) :
    ∃ object, after.get? value = some object ∧ property object := by
  have known : before.Knows frame := (knows_add.mp (knows_add.mp exact.known).1).2
  have here := known value held
  have path := leads.paths value.space (here.trans_le leads.size)
  rw [origin, if_pos here] at path
  have whole := exact.spaces value.space
  rw [add_right_comm, heldIn_add] at whole
  exact Guest.Space.Path.kept closed path whole (mem_heldIn held) holds started

theorem Leads.kept_module {owned owned' frame : Multiset Ref} {module : Ref} {contents : Guest.ModuleObject}
    (leads : Leads .lasting (before, owned) (after, owned')) (exact : before.Exact (owned + frame))
    (held : module ∈ frame) (found : before.get? module = some (.moduleObject contents))
    (started : (after.space module.space).roots.isSome) :
    ∃ contents, after.get? module = some (.moduleObject contents) := by
  obtain ⟨object, now, kind⟩ :=
    leads.kept (·.kind = .moduleObject) (fun _ _ changes => changes.kind_eq.trans) exact held ⟨_, found, rfl⟩ started
  cases object with
  | moduleObject contents => exact ⟨contents, now⟩
  | _ => cases kind

end World

namespace Engine

variable {engine : Engine} {world after : World} {frame : Multiset Ref} {id : SpaceId} {name : String}

theorem Unimportable.undefined_of_started {exception : Guest.Exception} (why : Unimportable world id name exception)
    (exact : world.Exact frame) (started : (world.space id).roots.isSome) :
    (world.space id).modules.get? name = none ∧ exception = .noModule name ∧
      ((world.space id).definitions.get? name).or (world.catalogue.get? name) = none := by
  cases why with
  | unavailable unavailable =>
    obtain ⟨found, last, looked⟩ := Guest.Space.exists_importedModule (exact.spaces id) started name
    cases unavailable.symm.trans looked
  | undefined free undefined => exact ⟨free, rfl, undefined⟩
  | @uncreated _ definition uncreated =>
    obtain ⟨module, last, made⟩ := Guest.Space.exists_createModule (exact.spaces id) started name definition
    cases uncreated.symm.trans made

theorem run_importModule_fresh (engine : Engine) (exact : world.Exact frame) (started : (world.space id).roots.isSome)
    (free : (world.space id).modules.get? name = none) {definition : Definition}
    (defined : ((world.space id).definitions.get? name).or (world.catalogue.get? name) = some definition) :
    ∃ module space, (Guest.Space.createModule name definition).run (world.space id) = .ok (module, space) ∧
      let importing : Importing := .created id name module definition
      (engine.importModule id name).run world =
        match (definition.initializers.forM (engine.runInitializer id importing.ref)).run (world.setSpace id space) with
        | (.ok _, last) => (.ok importing.ref, last)
        | (.error exception, last) => (.error exception, last.undoImport importing) := by
  rcases engine.importModule_cases id name world with ⟨exception, why, -⟩ | ⟨module, -, listed, -⟩ |
    ⟨found, module, space, -, definedThen, made, initialized⟩
  · obtain ⟨-, -, undefined⟩ := why.undefined_of_started exact started
    cases undefined.symm.trans defined
  · cases free.symm.trans listed
  · obtain rfl := Option.some.inj (defined.symm.trans definedThen)
    exact ⟨module, space, made, initialized⟩

theorem importModule_error (exact : world.Exact frame) {exception : Guest.Exception}
    (ran : (engine.importModule id name).run world = (.error exception, after))
    (started : (after.space id).roots.isSome) :
    (world.space id).modules.get? name = none ∧
    ((((world.space id).definitions.get? name).or (world.catalogue.get? name) = none ∧ exception = .noModule name ∧
        after = world) ∨
      ∃ definition module space failed,
        ((world.space id).definitions.get? name).or (world.catalogue.get? name) = some definition ∧
          (Guest.Space.createModule name definition).run (world.space id) = .ok (module, space) ∧
            (definition.initializers.forM (engine.runInitializer id { space := id, handle := module })).run
              (world.setSpace id space) = (.error exception, failed) ∧
                after = failed.undoImport (.created id name module definition)) := by
  rcases engine.importModule_cases id name world with ⟨other, why, failed⟩ | ⟨module, -, -, answered⟩ |
    ⟨definition, module, space, free, defined, made, initialized⟩
  · obtain ⟨same, rfl⟩ := Prod.mk.inj (failed.symm.trans ran)
    obtain rfl := Except.error.inj same
    obtain ⟨free, same, undefined⟩ := why.undefined_of_started exact started
    exact ⟨free, Or.inl ⟨undefined, same, rfl⟩⟩
  · cases answered.symm.trans ran
  · refine ⟨free, Or.inr ⟨definition, module, space, ?_⟩⟩
    have same : (Importing.created id name module definition).ref = { space := id, handle := module } := rfl
    rw [ran] at initialized
    rcases ranAll : (definition.initializers.forM (engine.runInitializer id { space := id, handle := module })).run
      (world.setSpace id space) with ⟨other | _, last⟩
    · simp only [same, ranAll] at initialized
      obtain ⟨equal, rfl⟩ := Prod.mk.inj initialized
      obtain rfl := Except.error.inj equal
      exact ⟨last, defined, made, rfl, rfl⟩
    · simp only [same, ranAll] at initialized
      cases initialized

theorem exact_createModule {definition : Definition} {module : Handle} {space : Space} (exact : world.Exact frame)
    (free : (world.space id).modules.get? name = none)
    (made : (Guest.Space.createModule name definition).run (world.space id) = .ok (module, space)) :
    (world.setSpace id space).Exact ({{ space := id, handle := module }} + frame) := by
  have creates : Settles .lasting world 0 (ownedBy id (Guest.Space.createModule name definition)) ({·}) :=
    settles_createModule definition exact free
  have created : (ownedBy id (Guest.Space.createModule name definition)).run world =
      (.ok { space := id, handle := module }, world.setSpace id space) := by
    rw [run_ownedBy, made]
  have exactCreated := creates.exact (show world.Exact (0 + frame) by rwa [zero_add])
  rwa [created, left_ok] at exactCreated

theorem module_of_failed {definition : Definition} {module : Handle} {space : Space} {failed : World}
    {exception : Guest.Exception} (balanced : engine.Balanced) (respects : engine.Respects World.KeepsListed)
    (exact : world.Exact frame) (free : (world.space id).modules.get? name = none)
    (made : (Guest.Space.createModule name definition).run (world.space id) = .ok (module, space))
    (ran : (definition.initializers.forM (engine.runInitializer id { space := id, handle := module })).run
      (world.setSpace id space) = (.error exception, failed)) (started : (failed.space id).roots.isSome) :
    failed.Exact ({ space := id, handle := module } ::ₘ frame) ∧ (failed.space id).modules.get? name = some module ∧
      ∃ contents, (failed.space id).heap.get? module = some (.moduleObject contents) := by
  let ref : Ref := { space := id, handle := module }
  obtain ⟨startedBefore, -, modules⟩ := Guest.Space.tables_createModule made
  have known := World.known_of_started startedBefore
  have shown (other : SpaceId) : (world.setSpace id space).space other = if other = id then space else world.space other :=
    World.space_setSpace known space other
  have exactCreated := exact_createModule exact free made
  have initializes : Act.Balanced .lasting [ref] 0 (definition.initializers.forM (engine.runInitializer id ref))
      fun _ => 0 := .forM fun initializer _ => balanced_runInitializer balanced ref initializer
  have within : (world.setSpace id space).Exact (0 + ({ref} + frame)) := by rwa [zero_add]
  have leads : World.Leads .lasting _ _ := initializes _ ({ref} + frame) within (by simp)
  rw [ran, left_error] at leads
  refine ⟨by simpa using leads.exact within, ?_, ?_⟩
  · have keeps : Act.Respects World.KeepsListed (definition.initializers.forM (engine.runInitializer id ref)) :=
      .forM (respects_runInitializer (respects.call id) ref) _
    have kept := (keeps (world.setSpace id space)).2 id (by rwa [World.size_setSpace])
    rw [ran, shown, if_pos rfl] at kept
    rcases kept with ended | ⟨-, listed⟩
    · rw [ended] at started
      cases started
    · refine listed name module ?_
      rw [modules, Bindings.get?_insert, if_pos rfl]
  · obtain ⟨contents, found, -⟩ := Guest.Space.offers_of_createModule (exact.spaces id) made
    have there : (world.setSpace id space).get? ref = some (.moduleObject contents) := by
      rw [World.get?, shown, if_pos rfl]
      exact found
    exact leads.kept_module within (by simp) there started

end Engine

namespace Console

open Script

def leavingName : ModuleScript where
  name := "m"
  functions := []
  initializers :=
    [.sequence [.setattr (.importModule "other") "x" (.getattr .boundState "__name__"), .raise "E" "no"]]
  services := false

def raising : ModuleScript where
  name := "r"
  functions := [("f", .argument 0)]
  initializers := [.raise "E" "no"]
  services := false

def leaving : World :=
  let actions : List (GuestAction × Option String) :=
    [(.start, none), (.define { name := "other", functions := [], initializers := [], services := false }, none),
      (.define leavingName, none), (.define raising, none), (.importModule "other", some "o")]
  let commands : List Command := actions.map fun (action, result) =>
    { action := .guest action, place := none, host := "", result, keyed := false }
  after (.ofDepth 2) commands .empty

end Console

namespace Engine

variable {engine : Engine} {world after : World} {frame : Multiset Ref} {id : SpaceId} {name : String}
  {exception : Guest.Exception}

/-- The module that was made for the import of the definition is withdrawn, after an initializer has failed. -/
structure Undoes (engine : Engine) (world after : World) (frame : Multiset Ref) (id : SpaceId) (name : String)
    (exception : Guest.Exception) (definition : Definition) (module : Handle) (space : Space) (failed : World)
    (contents : Guest.ModuleObject) : Prop where
  made : (Guest.Space.createModule name definition).run (world.space id) = .ok (module, space)
  offers : space.Offers module name definition.functions
  initialized : (definition.initializers.forM (engine.runInitializer id { space := id, handle := module })).run
    (world.setSpace id space) = (.error exception, failed)
  shown : (failed.space id).heap.get? module = some (.moduleObject contents)
  /-- What the initializers have left in other spaces, and outside of spaces, is kept. -/
  elsewhere : after = failed.setSpace id (after.space id)
  withdrawn : (failed.space id).Withdrawn (after.space id) (heldIn id (frame + failed.outside)) module contents
  /-- Where nothing else refers to the module, to the string of its name and to functions that are bound to it, they
  are gone. -/
  gone :
    let label := ((world.space id).heap.allocate (.str name)).1
    let own (handle : Handle) := (after.space id).Belongs module handle ∨ handle = label
    (∀ handle, own handle → (after.space id).Confined (heldIn id (frame + failed.outside)) module handle) →
      ∀ handle, own handle → (after.space id).heap.get? handle = none

structure Withdraws (engine : Engine) (world after : World) (frame : Multiset Ref) (id : SpaceId) (name : String)
    (exception : Guest.Exception) : Prop where
  free : (after.space id).modules.get? name = none
  /-- The next import of the name starts afresh. -/
  afresh : ∀ (later : Engine) definition,
    ((after.space id).definitions.get? name).or (after.catalogue.get? name) = some definition →
      ∃ module space, (Guest.Space.createModule name definition).run (after.space id) = .ok (module, space) ∧
        let importing : Importing := .created id name module definition
        (later.importModule id name).run after =
          match (definition.initializers.forM (later.runInitializer id importing.ref)).run
            (after.setSpace id space) with
          | (.ok _, last) => (.ok importing.ref, last)
          | (.error exception, last) => (.error exception, last.undoImport importing)
  undefined : ((world.space id).definitions.get? name).or (world.catalogue.get? name) = none →
    exception = .noModule name ∧ after = world
  undone : ∀ definition, ((world.space id).definitions.get? name).or (world.catalogue.get? name) = some definition →
    ∃ module space failed contents,
      engine.Undoes world after frame id name exception definition module space failed contents

/-- Whatever is called and sent by the initializers, as long as no reference is lost or made up there and what is
listed stays listed: an import that fails is withdrawn. -/
theorem withdraws_of_balanced (balanced : engine.Balanced) (respects : engine.Respects World.KeepsListed)
    (exact : world.Exact frame) (ran : (engine.importModule id name).run world = (.error exception, after))
    (started : (after.space id).roots.isSome) : engine.Withdraws world after frame id name exception := by
  have within : world.Exact (0 + frame) := by rwa [zero_add]
  have imports : Act.Balanced .lasting [] 0 (engine.importModule id name) ({·}) :=
    balanced_importModule balanced name
  have exactAfter := (imports world frame within (by simp)).exact within
  rw [ran, left_error, zero_add] at exactAfter
  obtain ⟨free, outcomes⟩ := importModule_error exact ran started
  have left {definition : Definition} {module : Handle} {failed : World}
      (undone : after = failed.undoImport (.created id name module definition)) :
      after.space id = ((failed.space id).forgetModule name).release module := by
    subst undone
    exact World.space_undoImport started
  have freeAfter : (after.space id).modules.get? name = none := by
    rcases outcomes with ⟨-, -, rfl⟩ | ⟨definition, module, space, failed, -, -, -, undone⟩
    · exact free
    · rw [left undone, Guest.Space.modules_release, Guest.Space.get?_modules_forgetModule, if_pos rfl]
  constructor
  case free => exact freeAfter
  case afresh => exact fun later definition defined => run_importModule_fresh later exactAfter started freeAfter defined
  case undefined =>
    intro undefined
    rcases outcomes with ⟨-, same, unchanged⟩ | ⟨definition, module, space, failed, defined, -⟩
    · exact ⟨same, unchanged⟩
    · cases undefined.symm.trans defined
  case undone =>
    intro definition defined
    rcases outcomes with ⟨undefined, -⟩ | ⟨found, module, space, failed, definedThen, made, initialized, undone⟩
    · cases undefined.symm.trans defined
    · obtain rfl := Option.some.inj (defined.symm.trans definedThen)
      have emptied := left undone
      have same : after = failed.setSpace id (after.space id) := by
        rw [emptied, undone]
        exact failed.undoImport_eq_setSpace _
      have startedFailed : (failed.space id).roots.isSome := by
        rw [emptied] at started
        exact Guest.Space.roots_forgetModule (failed.space id) name ▸ started
      obtain ⟨exactFailed, listed, contents, shown⟩ :=
        module_of_failed balanced respects exact free made initialized startedFailed
      have held := exactFailed.spaces id
      rw [Multiset.cons_add, heldIn_cons, if_pos rfl] at held
      have withdrawn := Guest.Space.withdrawn_withdraw held listed shown
      rw [← emptied] at withdrawn
      refine ⟨module, space, failed, contents, made, Guest.Space.offers_of_createModule (exact.spaces id) made,
        initialized, shown, same, withdrawn, ?_⟩
      intro label own confined handle mine
      exact withdrawn.gone (fun other belongs => confined other (Or.inl belongs)) handle (Or.inr (confined handle mine))

/-- An import that fails in a space that is not finalized leaves its name free, and the next import of the name starts
afresh. If no definition was found nothing is changed. Otherwise an initializer has failed, and what it has left is
kept, except that the module is withdrawn: it is empty, and where nothing else refers to it, to the string of its name
and to functions that are bound to it, they are gone. -/
theorem failed_import_withdraws (depth : Nat) {exception : Guest.Exception} (exact : world.Exact frame)
    (ran : ((ofDepth depth).importModule id name).run world = (.error exception, after))
    (started : (after.space id).roots.isSome) : (ofDepth depth).Withdraws world after frame id name exception :=
  withdraws_of_balanced (balanced_ofDepth depth) (respects_ofDepth depth) exact ran started

theorem exists_error_of_failed {result : Except Guest.Exception Ref} (failed : result.isOk = false) :
    ∃ exception, result = .error exception := by
  cases result with
  | error exception => exact ⟨exception, rfl⟩
  | ok ref => cases failed

/-- The import of the module that stores its name fails, and so does that of the module that only raises. To that
module, to its name and to its function nothing refers any more, and they are gone. -/
theorem failed_import_withdraws_leaving :
    let world := Console.leaving
    let id : SpaceId := { index := 0 }
    let stored := ((ofDepth 2).importModule id "m").run world
    let raised := ((ofDepth 2).importModule id "r").run world
    let own (module handle : Handle) :=
      (raised.2.space id).Belongs module handle ∨ handle = ((world.space id).heap.allocate (.str "r")).1
    world.Exact 0 ∧ (stored.2.space id).roots.isSome ∧ (raised.2.space id).roots.isSome ∧
      (∃ exception, stored.1 = .error exception ∧ (ofDepth 2).Withdraws world stored.2 0 id "m" exception) ∧
      ∃ exception definition module space failed contents, raised.1 = .error exception ∧
        (ofDepth 2).Undoes world raised.2 0 id "r" exception definition module space failed contents ∧
          (∀ handle, own module handle →
            (raised.2.space id).Confined (heldIn id (0 + failed.outside)) module handle) ∧
          ∀ handle, own module handle → (raised.2.space id).heap.get? handle = none := by
  intro world id stored raised own
  have exact : world.Exact 0 := Console.exact_after 2 _
  have failedStored : stored.1.isOk = false := by decide +kernel
  have failedRaised : raised.1.isOk = false := by decide +kernel
  have startedStored : (stored.2.space id).roots.isSome := by decide +kernel
  have startedRaised : (raised.2.space id).roots.isSome := by decide +kernel
  have nameless : (raised.2.space id).kind? ((world.space id).heap.allocate (.str "r")).1 = none := by decide +kernel
  have moduleless : (((world.space id).definitions.get? "r").or (world.catalogue.get? "r")).map (fun definition =>
      ((Guest.Space.createModule "r" definition).run (world.space id)).toOption.map fun made =>
        (raised.2.space id).kind? made.1) = some (some none) := by decide +kernel
  obtain ⟨exceptionStored, thereStored⟩ := exists_error_of_failed failedStored
  obtain ⟨exceptionRaised, thereRaised⟩ := exists_error_of_failed failedRaised
  have withdraws : (ofDepth 2).Withdraws world stored.2 0 id "m" exceptionStored :=
    failed_import_withdraws 2 exact (Prod.ext thereStored rfl) startedStored
  have withdrawsRaised : (ofDepth 2).Withdraws world raised.2 0 id "r" exceptionRaised :=
    failed_import_withdraws 2 exact (Prod.ext thereRaised rfl) startedRaised
  clear_value stored raised world
  obtain ⟨definition, defined, unmade⟩ := Option.map_eq_some_iff.mp moduleless
  obtain ⟨module, space, failed, contents, undoes⟩ := withdrawsRaised.undone definition defined
  rw [undoes.made] at unmade
  have missing : (raised.2.space id).heap.get? module = none := Option.map_eq_none_iff.mp (Option.some.inj unmade)
  have confined (handle : Handle) (mine : own module handle) :
      (raised.2.space id).Confined (heldIn id (0 + failed.outside)) module handle := by
    rcases mine with belongs | rfl
    · exact undoes.withdrawn.exact.confined_of_gone startedRaised missing belongs
    · exact undoes.withdrawn.exact.confined_of_missing startedRaised (Option.map_eq_none_iff.mp nameless)
  exact ⟨exact, startedStored, startedRaised, ⟨exceptionStored, thereStored, withdraws⟩, exceptionRaised, definition,
    module, space, failed, contents, thereRaised, undoes, confined, undoes.gone confined⟩

/-- The module is gone after the import has failed, but its name is not, since another module refers to it. -/
theorem name_outlives_failed_import :
    let world := Console.leaving
    let id : SpaceId := { index := 0 }
    let label := ((world.space id).heap.allocate (.str "m")).1
    let ran := ((ofDepth 2).importModule id "m").run world
    ran.1.isOk = false ∧ (ran.2.space id).roots.isSome ∧ ∃ module space,
      (Guest.Space.createModule "m" Console.leavingName.definition).run (world.space id) = .ok (module, space) ∧
        (∀ handle, (ran.2.space id).Belongs module handle →
          (ran.2.space id).Confined (heldIn id ran.2.outside) module handle) ∧
        (ran.2.space id).text? label = some "m" := by
  intro world id label ran
  have exact : world.Exact (0 + 0) := Console.exact_after 2 _
  have imports : Act.Balanced .lasting [] 0 ((ofDepth 2).importModule id "m") ({·}) :=
    balanced_importModule (balanced_ofDepth 2) "m"
  have exactAfter : ran.2.Exact (left ({·}) ran.1 + 0) := (imports world 0 exact (by simp)).exact exact
  have failed : ran.1.isOk = false := by decide +kernel
  have started : (ran.2.space id).roots.isSome := by decide +kernel
  have startedBefore : (world.space id).roots.isSome := by decide +kernel
  have named : (ran.2.space id).text? label = some "m" := by decide +kernel
  have gone : ((Guest.Space.createModule "m" Console.leavingName.definition).run (world.space id)).toOption.map
      (fun made => (ran.2.space id).kind? made.1) = some none := by decide +kernel
  obtain ⟨module, space, made⟩ := Guest.Space.exists_createModule (exact.spaces id) startedBefore "m"
    Console.leavingName.definition
  rw [made] at gone
  have missing : (ran.2.space id).heap.get? module = none := Option.map_eq_none_iff.mp (Option.some.inj gone)
  refine ⟨failed, started, module, space, made, fun handle belongs => ?_, named⟩
  have whole : ran.2.Exact 0 := by
    clear_value ran
    obtain ⟨exception | ref, last⟩ := ran
    · simpa using exactAfter
    · cases failed
  have held := whole.spaces id
  rw [zero_add] at held
  exact held.confined_of_gone started missing belongs

end Engine

end ObjectBridge

import ObjectBridge.Proofs.Space.Creation
import ObjectBridge.Proofs.World.CommandHistories

/-!
Imports of modules, those that are under way and those that have succeeded. An initializer may import in turn, so
imports are under way inside each other. All that happens to the lists of modules happens in steps of a few kinds,
and whatever code runs goes from one such moment to another.
-/

namespace ObjectBridge

open Act
open Guest (Handle)

structure Entry where
  space : SpaceId
  name : String
  module : Handle

namespace Entry

def key (entry : Entry) : SpaceId × String :=
  (entry.space, entry.name)

def ref (entry : Entry) : Ref :=
  { space := entry.space, handle := entry.module }

def Listed (entry : Entry) (world : World) : Prop :=
  (world.space entry.space).modules.get? entry.name = some entry.module

end Entry

/-- An import that has created its module: the initializers that have come to their end, the one that runs with the
world in which it was started, and those that wait. -/
structure Importing extends Entry where
  definition : Definition
  done : List (Guest.Initializer Code)
  running? : Option (Guest.Initializer Code × World)
  waiting : List (Guest.Initializer Code)

namespace Importing

def created (space : SpaceId) (name : String) (module : Handle) (definition : Definition) : Importing :=
  { space, name, module, definition, done := [], running? := none, waiting := definition.initializers }

def course (importing : Importing) : List (Guest.Initializer Code) :=
  importing.done ++ (importing.running?.map (·.1)).toList ++ importing.waiting

end Importing

structure Moment where
  world : World
  active : List Importing
  finished : List Importing

namespace World

structure Still (before after : World) : Prop where
  size : after.spaces.size = before.spaces.size
  tables : ∀ id, (before.space id).SameTables (after.space id)

theorem Quiet.still {before after : World} (quiet : Quiet before after) : Still before after :=
  ⟨quiet.size, fun id => (quiet.tables id).toSameTables⟩

theorem Still.of_spaces {before after : World} (spaces : after.spaces = before.spaces) : Still before after :=
  ⟨spaces ▸ rfl, fun id => by
    rw [space, space, spaces]
    exact .refl _⟩

theorem onlyObjects_dropModule (world : World) (session : Session) :
    (world.dropModule session).spaces.size = world.spaces.size ∧
      ∀ id, (world.space id).OnlyObjects ((world.dropModule session).space id) := by
  unfold dropModule
  split
  · rename_i module _
    have released := (world.updateSession session.id fun state => { state with module? := none }).quiet_release module
    exact ⟨released.size, released.tables⟩
  · exact ⟨rfl, fun id => .refl _⟩

theorem onlyObjects_dropSession (world : World) (session : Session) :
    (world.dropSession session).spaces.size = world.spaces.size ∧
      ∀ id, (world.space id).OnlyObjects ((world.dropSession session).space id) := by
  unfold dropSession
  extract_lets fewer
  split
  · exact ⟨rfl, fun id => .refl _⟩
  · exact onlyObjects_dropModule fewer session

theorem still_dropModule (world : World) (session : Session) : Still world (world.dropModule session) :=
  ⟨(world.onlyObjects_dropModule session).1, fun id => ((world.onlyObjects_dropModule session).2 id).toSameTables⟩

theorem still_dropSession (world : World) (session : Session) : Still world (world.dropSession session) :=
  ⟨(world.onlyObjects_dropSession session).1, fun id => ((world.onlyObjects_dropSession session).2 id).toSameTables⟩

def undoImport (world : World) (importing : Importing) : World :=
  (world.updateSpace importing.space (·.forgetModule importing.name)).release importing.ref

end World

open World (Still)

namespace Moment

inductive Event : Moment → Moment → Prop
  | still {before after : World} {active finished : List Importing} (still : Still before after) :
      Event ⟨before, active, finished⟩ ⟨after, active, finished⟩
  | start (world : World) {active finished : List Importing} :
      Event ⟨world, active, finished⟩ ⟨world.addSpace.2, active, finished⟩
  | finalize (world : World) (id : SpaceId) {active finished : List Importing} :
      Event ⟨world, active, finished⟩ ⟨world.setSpace id (world.space id).finalize.2, active, finished⟩
  | create {world : World} {id : SpaceId} {name : String} {definition : Definition} {module : Handle} {after : Space}
      {active finished : List Importing} (free : (world.space id).modules.get? name = none)
      (defined : ((world.space id).definitions.get? name).or (world.catalogue.get? name) = some definition)
      (made : (Guest.Space.createModule name definition).run (world.space id) = .ok (module, after)) :
      Event ⟨world, active, finished⟩
        ⟨world.setSpace id after, .created id name module definition :: active, finished⟩
  | begin (world : World) (importing : Importing) (initializer : Guest.Initializer Code)
      (waiting : List (Guest.Initializer Code)) {active finished : List Importing} :
      Event ⟨world, { importing with running? := none, waiting := initializer :: waiting } :: active, finished⟩
        ⟨world, { importing with running? := some (initializer, world), waiting } :: active, finished⟩
  | finish {engine : Engine} (importing : Importing) {initializer : Guest.Initializer Code} {start world : World}
      {active finished : List Importing}
      (ran : (engine.runInitializer importing.space importing.ref initializer).run start = (.ok (), world)) :
      Event ⟨world, { importing with running? := some (initializer, start) } :: active, finished⟩
        ⟨world, { importing with done := importing.done ++ [initializer], running? := none } :: active, finished⟩
  | fail {engine : Engine} (importing : Importing) {initializer : Guest.Initializer Code} {start world : World}
      {exception : Guest.Exception} {active finished : List Importing}
      (ran : (engine.runInitializer importing.space importing.ref initializer).run start =
        (.error exception, world)) :
      Event ⟨world, { importing with running? := some (initializer, start) } :: active, finished⟩
        ⟨world.undoImport importing, active, finished⟩
  | succeed (world : World) (importing : Importing) {active finished : List Importing} :
      Event ⟨world, { importing with running? := none, waiting := [] } :: active, finished⟩
        ⟨world, active, { importing with running? := none, waiting := [] } :: finished⟩

abbrev Course : Moment → Moment → Prop :=
  Relation.ReflTransGen Event

end Moment

open Moment (Course)

namespace World

def Imports (before after : World) : Prop :=
  ∀ active finished, ∃ finished', Course ⟨before, active, finished⟩ ⟨after, active, finished'⟩

theorem Still.imports {before after : World} (still : Still before after) : Imports before after :=
  fun _ finished => ⟨finished, .single (.still still)⟩

theorem imports_of_spaces {before after : World} (spaces : after.spaces = before.spaces) : Imports before after :=
  (Still.of_spaces spaces).imports

instance : CoversObjects Imports where
  refl _ := imports_of_spaces rfl
  trans _ _ _ one two active finished := by
    obtain ⟨finished, first⟩ := one active finished
    obtain ⟨finished, second⟩ := two active finished
    exact ⟨finished, first.trans second⟩
  of_quiet quiet := quiet.still.imports

end World

open World (CoversObjects CoversSpaces CoversSessions CoversProcess Imports)

namespace Engine

inductive Unimportable (world : World) (space : SpaceId) (name : String) : Guest.Exception → Prop
  | unavailable {exception : Guest.Exception}
      (failed : (Guest.Space.importedModule name).run (world.space space) = .error exception) :
      Unimportable world space name exception
  | undefined (free : (world.space space).modules.get? name = none)
      (undefined : ((world.space space).definitions.get? name).or (world.catalogue.get? name) = none) :
      Unimportable world space name (.noModule name)
  | uncreated {exception : Guest.Exception} {definition : Definition}
      (failed : (Guest.Space.createModule name definition).run (world.space space) = .error exception) :
      Unimportable world space name exception

theorem importModule_cases (engine : Engine) (space : SpaceId) (name : String) (world : World) :
    (∃ exception, Unimportable world space name exception ∧
      (engine.importModule space name).run world = (.error exception, world)) ∨
    (∃ module : Ref, module.space = space ∧ (world.space space).modules.get? name = some module.handle ∧
      (engine.importModule space name).run world = (.ok module, world.retain module)) ∨
    ∃ definition module after, (world.space space).modules.get? name = none ∧
      ((world.space space).definitions.get? name).or (world.catalogue.get? name) = some definition ∧
      (Guest.Space.createModule name definition).run (world.space space) = .ok (module, after) ∧
      let importing : Importing := .created space name module definition
      (engine.importModule space name).run world =
        match (definition.initializers.forM (engine.runInitializer space importing.ref)).run
          (world.setSpace space after) with
        | (.ok _, last) => (.ok importing.ref, last)
        | (.error exception, last) => (.error exception, last.undoImport importing) := by
  unfold importModule
  rw [run_bind, run_onSpace]
  rcases looked : (Guest.Space.importedModule name).run (world.space space) with exception | ⟨_ | module, after⟩
  · exact Or.inl ⟨exception, .unavailable looked, rfl⟩
  · obtain ⟨free, rfl⟩ := Guest.Space.importedModule_eq_none looked
    dsimp only
    rw [World.setSpace_self, run_get_bind]
    cases defined : ((world.space space).definitions.get? name).or (world.catalogue.get? name) with
    | none => exact Or.inl ⟨_, .undefined free defined, rfl⟩
    | some definition =>
      dsimp only
      rw [run_bind, run_ownedBy]
      rcases made : (Guest.Space.createModule name definition).run (world.space space) with exception | ⟨module, after⟩
      · exact Or.inl ⟨exception, .uncreated made, rfl⟩
      · refine Or.inr (Or.inr ⟨definition, module, after, free, rfl, made, ?_⟩)
        have same : (Importing.created space name module definition).ref = { space, handle := module } := rfl
        dsimp only
        rw [run_bind, run_onFailure, same]
        rcases (definition.initializers.forM (engine.runInitializer space { space, handle := module })).run
          (world.setSpace space after) with ⟨exception | _, last⟩
        · rfl
        · rfl
  · obtain ⟨listed, rfl⟩ := Guest.Space.importedModule_eq_some looked
    refine Or.inr (Or.inl ⟨{ space, handle := module }, rfl, listed, ?_⟩)
    rw [World.retain, World.updateSpace_eq_setSpace]
    rfl

variable {engine : Engine} (respects : engine.Respects Imports)
include respects

theorem course_initializers (importing : Importing) (done waiting : List (Guest.Initializer Code))
    {world after : World} {result : Except Guest.Exception PUnit} {active : List Importing} (finished : List Importing)
    (ran : (waiting.forM (engine.runInitializer importing.space importing.ref)).run world = (result, after)) :
    let before : Moment := ⟨world, { importing with done, running? := none, waiting } :: active, finished⟩
    (result = .ok () ∧ ∃ finished', Course before
      ⟨after, { importing with done := done ++ waiting, running? := none, waiting := [] } :: active, finished'⟩) ∨
    ∃ exception done' initializer start waiting' finished', result = .error exception ∧
      (engine.runInitializer importing.space importing.ref initializer).run start = (.error exception, after) ∧
        Course before ⟨after,
          { importing with done := done', running? := some (initializer, start), waiting := waiting' } :: active,
          finished'⟩ := by
  intro before
  induction waiting generalizing done world finished with
  | nil =>
    obtain ⟨rfl, rfl⟩ := Prod.mk.inj ran
    refine Or.inl ⟨rfl, finished, ?_⟩
    rw [List.append_nil]
  | cons initializer rest ih =>
    have began : Moment.Event before
        ⟨world, { importing with done, running? := some (initializer, world), waiting := rest } :: active, finished⟩ :=
      .begin world { importing with done } initializer rest
    have calls := respects.call importing.space
    obtain ⟨finished', lasts⟩ := respects_runInitializer calls importing.ref initializer world
      ({ importing with done, running? := some (initializer, world), waiting := rest } :: active) finished
    have sofar := Relation.ReflTransGen.head began lasts
    have split : (engine.runInitializer importing.space importing.ref initializer >>= fun _ =>
        rest.forM (engine.runInitializer importing.space importing.ref)).run world = (result, after) := ran
    rw [run_bind] at split
    rcases first : (engine.runInitializer importing.space importing.ref initializer).run world with
      ⟨exception | ⟨⟩, between⟩
    · rw [first] at split sofar
      obtain ⟨rfl, rfl⟩ := Prod.mk.inj split
      exact Or.inr ⟨exception, done, initializer, world, rest, finished', rfl, first, sofar⟩
    · rw [first] at split sofar
      have ended : Moment.Event
          ⟨between, { importing with done, running? := some (initializer, world), waiting := rest } :: active, finished'⟩
          ⟨between, { importing with done := done ++ [initializer], running? := none, waiting := rest } :: active,
            finished'⟩ :=
        .finish { importing with done, waiting := rest } first
      rcases ih (done ++ [initializer]) finished' split with ⟨rfl, finished'', later⟩ |
        ⟨exception, done', other, start, waiting', finished'', rfl, failed, later⟩
      · rw [List.append_assoc, List.singleton_append] at later
        exact Or.inl ⟨rfl, finished'', (sofar.tail ended).trans later⟩
      · exact Or.inr ⟨exception, done', other, start, waiting', finished'', rfl, failed, (sofar.tail ended).trans later⟩

theorem course_importModule (space : SpaceId) (name : String) {world after : World}
    {result : Except Guest.Exception Ref} (ran : (engine.importModule space name).run world = (result, after))
    (active finished : List Importing) :
    (∃ finished', Course ⟨world, active, finished⟩ ⟨after, active, finished'⟩) ∧
      ∀ module, result = .ok module → module.space = space ∧
        ((world.space space).modules.get? name = some module.handle ∧ after = world.retain module ∨
          ∃ definition finished',
            ((world.space space).definitions.get? name).or (world.catalogue.get? name) = some definition ∧
              Course ⟨world, active, finished⟩ ⟨after, { Importing.created space name module.handle definition with
                done := definition.initializers, waiting := [] } :: active, finished'⟩) := by
  rcases importModule_cases engine space name world with ⟨exception, -, failed⟩ | ⟨module, rfl, listed, answered⟩ |
    ⟨definition, module, space', free, defined, made, initialized⟩
  · obtain ⟨rfl, rfl⟩ := Prod.mk.inj (failed.symm.trans ran)
    exact ⟨⟨finished, .refl⟩, nofun⟩
  · obtain ⟨rfl, rfl⟩ := Prod.mk.inj (answered.symm.trans ran)
    refine ⟨⟨finished, .single (.still (world.quiet_retain module).still)⟩, ?_⟩
    rintro _ ⟨⟩
    exact ⟨rfl, Or.inl ⟨listed, rfl⟩⟩
  · let importing : Importing := .created space name module definition
    have created : Moment.Event ⟨world, active, finished⟩
        ⟨world.setSpace space space', importing :: active, finished⟩ := .create free defined made
    rw [ran] at initialized
    rcases ranAll : (definition.initializers.forM (engine.runInitializer space importing.ref)).run
      (world.setSpace space space') with ⟨outcome, last⟩
    dsimp only at initialized
    rw [ranAll] at initialized
    rcases course_initializers respects importing [] definition.initializers finished ranAll with
      ⟨rfl, finished', course⟩ | ⟨exception, done, initializer, start, waiting, finished', rfl, failed, course⟩
    · obtain ⟨rfl, rfl⟩ := Prod.mk.inj initialized
      have complete := Relation.ReflTransGen.head created course
      refine ⟨⟨_, complete.tail (.succeed after { importing with done := definition.initializers })⟩, ?_⟩
      rintro _ ⟨⟩
      exact ⟨rfl, Or.inr ⟨definition, finished', defined, complete⟩⟩
    · obtain ⟨rfl, rfl⟩ := Prod.mk.inj initialized
      have started := Relation.ReflTransGen.head created course
      exact ⟨⟨finished', started.tail (.fail { importing with done, waiting } failed)⟩, nofun⟩

end Engine

namespace World

instance : CoversSpaces Imports where
  finalizes world id _ finished := ⟨finished, .single (.finalize world id)⟩
  imports respects space name _ active finished :=
    (Engine.course_importModule respects space name rfl active finished).1

instance : CoversSessions Imports where
  hold _ := imports_of_spaces rfl
  drop world session := (world.still_dropSession session).imports
  close world session := (world.still_dropModule session).imports
  record _ := imports_of_spaces rfl
  enter _ _ _ := imports_of_spaces rfl
  clear _ _ := imports_of_spaces rfl
  forget _ _ := imports_of_spaces rfl
  start world _ finished := ⟨finished, .single (.start world)⟩
  interpreter world name := by
    unfold World.interpreter
    split <;> exact imports_of_spaces rfl
  register _ _ _ := imports_of_spaces rfl

instance : CoversProcess Imports :=
  Bridge.coversProcess_of_place fun _ => imports_of_spaces rfl

structure Lists (world : World) (entries : List Entry) : Prop where
  ended : ∀ id, (world.space id).roots = none → (world.space id).modules = .empty
  known : ∀ entry ∈ entries, entry.space.index < world.spaces.size
  listed : ∀ entry ∈ entries, (world.space entry.space).roots = none ∨ entry.Listed world
  recorded : ∀ entry : Entry, entry.Listed world → entry ∈ entries
  distinct : (entries.map Entry.key).Nodup

variable {world : World} {entries : List Entry}

section Lists

variable (lists : world.Lists entries)
include lists

theorem Lists.perm {entries' : List Entry} (perm : entries.Perm entries') : world.Lists entries' where
  ended := lists.ended
  known entry member := lists.known entry (perm.mem_iff.mpr member)
  listed entry member := lists.listed entry (perm.mem_iff.mpr member)
  recorded entry listed := perm.mem_iff.mp (lists.recorded entry listed)
  distinct := (perm.map Entry.key).nodup_iff.mp lists.distinct

theorem Lists.still {after : World} (still : Still world after) : after.Lists entries where
  ended id ended := (still.tables id).modules.trans (lists.ended id ((still.tables id).roots.symm.trans ended))
  known entry member := still.size ▸ lists.known entry member
  listed entry member := by
    rw [(still.tables entry.space).roots, Entry.Listed, (still.tables entry.space).modules]
    exact lists.listed entry member
  recorded entry listed := by
    rw [Entry.Listed, (still.tables entry.space).modules] at listed
    exact lists.recorded entry listed
  distinct := lists.distinct

theorem Lists.setSpace {entries' : List Entry} {id : SpaceId} {space : Space} (here : id.index < world.spaces.size)
    (ended : space.roots = none → space.modules = .empty)
    (known : ∀ entry ∈ entries', entry.space.index < world.spaces.size)
    (listed : ∀ entry ∈ entries', if entry.space = id then
      space.roots = none ∨ space.modules.get? entry.name = some entry.module else entry ∈ entries)
    (recorded : ∀ entry : Entry, (if entry.space = id then space.modules.get? entry.name = some entry.module
      else entry ∈ entries) → entry ∈ entries')
    (distinct : (entries'.map Entry.key).Nodup) : (world.setSpace id space).Lists entries' where
  ended other := by
    rw [space_setSpace here]
    split
    · exact ended
    · exact lists.ended other
  known entry member := (size_setSpace world id space).symm ▸ known entry member
  listed entry member := by
    have one := listed entry member
    rw [Entry.Listed, space_setSpace here]
    split at one
    · rename_i same
      rwa [if_pos same]
    · rename_i apart
      rw [if_neg apart]
      exact lists.listed entry one
  recorded entry shown := by
    rw [Entry.Listed, space_setSpace here] at shown
    refine recorded entry ?_
    split
    · rename_i same
      rwa [if_pos same] at shown
    · rename_i apart
      rw [if_neg apart] at shown
      exact lists.recorded entry shown
  distinct := distinct

theorem Lists.finalize (id : SpaceId) : (world.setSpace id (world.space id).finalize.2).Lists entries := by
  by_cases here : id.index < world.spaces.size
  · have empty : (world.space id).finalize.2.modules = .empty := Guest.Space.modules_finalize (lists.ended id)
    refine lists.setSpace here (fun _ => empty) lists.known (fun entry member => ?_) (fun entry shown => ?_) lists.distinct
    · split
      · exact Or.inl (Guest.Space.roots_finalize _)
      · exact member
    · split at shown
      · rw [empty] at shown
        cases shown
      · exact shown
  · rw [setSpace_of_unknown here]
    exact lists

theorem Lists.key_ne {id : SpaceId} {name : String} (started : (world.space id).roots.isSome)
    (free : (world.space id).modules.get? name = none) {entry : Entry} (member : entry ∈ entries) :
    entry.key ≠ (id, name) := by
  obtain ⟨space, other, module⟩ := entry
  rintro ⟨⟩
  rcases lists.listed _ member with ended | listed
  · rw [ended] at started
    cases started
  · cases free.symm.trans listed

theorem Lists.create {id : SpaceId} {name : String} {definition : Definition} {module : Handle} {after : Space}
    (free : (world.space id).modules.get? name = none)
    (made : (Guest.Space.createModule name definition).run (world.space id) = .ok (module, after)) :
    (world.setSpace id after).Lists (⟨id, name, module⟩ :: entries) := by
  obtain ⟨started, roots, modules⟩ := Guest.Space.tables_createModule made
  have here := known_of_started started
  have fresh : ∀ entry ∈ entries, entry.key ≠ (id, name) := fun _ => lists.key_ne started free
  refine lists.setSpace here (fun ended => ?_) (fun entry member => ?_) (fun entry member => ?_)
    (fun entry shown => ?_) ?_
  · rw [← roots, ended] at started
    cases started
  · rcases List.mem_cons.mp member with rfl | old
    · exact here
    · exact lists.known entry old
  · rcases List.mem_cons.mp member with rfl | old
    · rw [if_pos rfl, modules, Bindings.get?_insert, if_pos rfl]
      exact Or.inr rfl
    · split
      · rename_i same
        have apart : entry.name ≠ name := fun equal => fresh entry old (Prod.ext same equal)
        rw [roots, modules, Bindings.get?_insert, if_neg apart, ← same]
        exact lists.listed entry old
      · exact old
  · obtain ⟨space, other, handle⟩ := entry
    split at shown
    · rename_i same
      obtain rfl : space = id := same
      rw [modules, Bindings.get?_insert] at shown
      split at shown
      · rename_i named
        obtain rfl : other = name := named
        obtain rfl := Option.some.inj shown
        exact List.mem_cons_self
      · exact List.mem_cons_of_mem _ (lists.recorded ⟨space, other, handle⟩ shown)
    · exact List.mem_cons_of_mem _ shown
  · rw [List.map_cons, List.nodup_cons]
    refine ⟨fun member => ?_, lists.distinct⟩
    obtain ⟨entry, old, same⟩ := List.mem_map.mp member
    exact fresh entry old same

end Lists

theorem Lists.undo {entry : Entry} (lists : world.Lists (entry :: entries)) :
    (world.updateSpace entry.space (·.forgetModule entry.name)).Lists entries := by
  have here : entry.space.index < world.spaces.size := lists.known entry List.mem_cons_self
  obtain ⟨alone, distinct⟩ := List.nodup_cons.mp lists.distinct
  rw [updateSpace_eq_setSpace]
  refine lists.setSpace here (fun ended => ?_) (fun other member => lists.known other (List.mem_cons_of_mem _ member))
    (fun other member => ?_) (fun other shown => ?_) distinct
  · rw [Guest.Space.roots_forgetModule] at ended
    refine Bindings.ext_get? fun name => ?_
    rw [Guest.Space.get?_modules_forgetModule, lists.ended _ ended]
    split <;> rfl
  · split
    · rename_i same
      have apart : other.name ≠ entry.name := fun equal =>
        alone (List.mem_map.mpr ⟨other, member, Prod.ext same equal⟩)
      rw [Guest.Space.roots_forgetModule, Guest.Space.get?_modules_forgetModule, if_neg apart, ← same]
      exact lists.listed other (List.mem_cons_of_mem _ member)
    · exact List.mem_cons_of_mem _ member
  · have old : other ∈ entry :: entries ∧ other ≠ entry := by
      split at shown
      · rename_i same
        rw [Guest.Space.get?_modules_forgetModule, ← same] at shown
        split at shown
        · cases shown
        · rename_i apart
          exact ⟨lists.recorded other shown, fun equal => apart (congrArg Entry.name equal)⟩
      · rename_i apart
        exact ⟨shown, fun equal => apart (congrArg Entry.space equal)⟩
    exact List.mem_of_ne_of_mem old.2 old.1

theorem Lists.start (lists : world.Lists entries) : world.addSpace.2.Lists entries := by
  have size : world.addSpace.2.spaces.size = world.spaces.size + 1 := Array.size_push ..
  have bare (id : SpaceId) (new : id.index = world.spaces.size) : (world.addSpace.2.space id).modules = .empty := by
    rw [space_addSpace, if_pos new]
    rfl
  refine ⟨fun id ended => ?_, fun entry member => ?_, fun entry member => ?_, fun entry shown => ?_, lists.distinct⟩
  · by_cases new : id.index = world.spaces.size
    · exact bare id new
    · rw [space_addSpace, if_neg new] at ended ⊢
      exact lists.ended id ended
  · rw [size]
    exact Nat.lt_succ_of_lt (lists.known entry member)
  · rw [Entry.Listed, space_addSpace, if_neg (lists.known entry member).ne]
    exact lists.listed entry member
  · by_cases new : entry.space.index = world.spaces.size
    · rw [Entry.Listed, bare _ new] at shown
      cases shown
    · rw [Entry.Listed, space_addSpace, if_neg new] at shown
      exact lists.recorded entry shown

theorem lists_empty : empty.Lists [] := by
  have bare (id : SpaceId) : empty.space id = default := rfl
  refine ⟨fun _ _ => rfl, nofun, nofun, fun entry shown => ?_, List.nodup_nil⟩
  rw [Entry.Listed, bare] at shown
  cases shown

end World

namespace Moment

def entries (moment : Moment) : List Entry :=
  (moment.active ++ moment.finished).map Importing.toEntry

/-- The modules that are listed are those of the imports that have not failed, each of which has come through its
initializers as far as it says. -/
structure Consistent (moment : Moment) : Prop where
  lists : moment.world.Lists moment.entries
  course : ∀ importing ∈ moment.active ++ moment.finished, importing.course = importing.definition.initializers
  complete : ∀ importing ∈ moment.finished, importing.done = importing.definition.initializers

theorem perm_succeed (importing : Importing) (active finished : List Importing) :
    (importing :: active ++ finished).Perm (active ++ importing :: finished) :=
  List.perm_middle.symm

theorem consistent_empty : Consistent ⟨.empty, [], []⟩ :=
  ⟨World.lists_empty, nofun, nofun⟩

variable {before after moment : Moment}

theorem Event.consistent (event : Event before after) (consistent : before.Consistent) : after.Consistent := by
  obtain ⟨lists, course, complete⟩ := consistent
  cases event with
  | still still => exact ⟨lists.still still, course, complete⟩
  | start => exact ⟨lists.start, course, complete⟩
  | finalize world id => exact ⟨lists.finalize id, course, complete⟩
  | create free defined made =>
    refine ⟨lists.create free made, fun importing member => ?_, complete⟩
    rcases List.mem_cons.mp member with rfl | old
    · rfl
    · exact course importing old
  | begin world importing initializer waiting =>
    refine ⟨lists, fun other member => ?_, complete⟩
    rcases List.mem_cons.mp member with rfl | old
    · have same := course _ List.mem_cons_self
      simpa [Importing.course] using same
    · exact course other (List.mem_cons_of_mem _ old)
  | finish importing ran =>
    refine ⟨lists, fun other member => ?_, complete⟩
    rcases List.mem_cons.mp member with rfl | old
    · have same := course _ List.mem_cons_self
      simpa [Importing.course] using same
    · exact course other (List.mem_cons_of_mem _ old)
  | fail importing ran =>
    refine ⟨lists.undo.still (World.quiet_release _ importing.ref).still, fun other member => ?_, complete⟩
    exact course other (List.mem_cons_of_mem _ member)
  | @succeed world importing active finished =>
    have perm := perm_succeed { importing with running? := none, waiting := [] } active finished
    refine ⟨lists.perm (perm.map Importing.toEntry), fun other member => course other (perm.mem_iff.mpr member),
      fun other member => ?_⟩
    rcases List.mem_cons.mp member with rfl | old
    · have same := course _ List.mem_cons_self
      simpa [Importing.course] using same
    · exact complete other old

theorem Course.consistent (course : Course before after) (consistent : before.Consistent) : after.Consistent := by
  induction course with
  | refl => exact consistent
  | tail _ event ih => exact event.consistent ih

theorem Event.mem_entries (event : Event before after) {entry : Entry} (member : entry ∈ before.entries) :
    entry ∈ after.entries ∨ ∃ importing, before.active = importing :: after.active ∧ importing.toEntry = entry ∧
      before.entries = entry :: after.entries := by
  cases event with
  | create => exact Or.inl (List.mem_cons_of_mem _ member)
  | fail importing ran =>
    rcases List.mem_cons.mp member with rfl | old
    · exact Or.inr ⟨_, rfl, rfl, rfl⟩
    · exact Or.inl old
  | @succeed world importing active finished =>
    have perm := perm_succeed { importing with running? := none, waiting := [] } active finished
    exact Or.inl ((perm.map Importing.toEntry).mem_iff.mp member)
  | _ => exact Or.inl member

/-- A module that is listed stays listed under its name, unless its space is finalized or its own import fails. Then
none is listed under the name. -/
theorem Event.keeps (event : Event before after) (consistent : before.Consistent) {entry : Entry}
    (listed : entry.Listed before.world) :
    entry.Listed after.world ∨ (after.world.space entry.space).modules = .empty ∨
      (∃ importing, before.active = importing :: after.active ∧ importing.toEntry = entry) ∧
        (after.world.space entry.space).modules.get? entry.name = none := by
  have later := event.consistent consistent
  rcases event.mem_entries (consistent.lists.recorded entry listed) with still | ⟨importing, active, same, split⟩
  · rcases later.lists.listed entry still with ended | listed
    · exact Or.inr (Or.inl (later.lists.ended _ ended))
    · exact Or.inl listed
  · refine Or.inr (Or.inr ⟨⟨importing, active, same⟩, ?_⟩)
    have distinct := consistent.lists.distinct
    rw [split, List.map_cons, List.nodup_cons] at distinct
    cases found : (after.world.space entry.space).modules.get? entry.name with
    | none => rfl
    | some module =>
      have member := later.lists.recorded ⟨entry.space, entry.name, module⟩ found
      exact absurd (List.mem_map.mpr ⟨_, member, rfl⟩) distinct.1

end Moment

open Moment

theorem Engine.run_importModule_listed (engine : Engine) {world : World} {held : Multiset Ref} {entry : Entry}
    (exact : world.Exact held) (listed : entry.Listed world) :
    (engine.importModule entry.space entry.name).run world = (.ok entry.ref, world.retain entry.ref) := by
  have here := exact.spaces entry.space
  have started : (world.space entry.space).roots.isSome := by
    rw [Option.isSome_iff_ne_none]
    intro ended
    rw [Entry.Listed, (here.ended ended).2] at listed
    cases listed
  obtain ⟨roots, rooted⟩ := Option.isSome_iff_exists.mp started
  have owned : entry.module ∈ Guest.Space.own (world.space entry.space) :=
    Multiset.mem_add.mpr (Or.inl (Bindings.mem_values.mpr ⟨entry.name, listed⟩))
  obtain ⟨cell, found⟩ := (here.started started).exists_cell_of_held (Multiset.mem_add.mpr (Or.inr owned))
  have object := Guest.Space.object_eq_ok.mpr ⟨started, Guest.Heap.get?_of_cell found⟩
  have acquired := Guest.Space.acquire_eq_ok.mpr ⟨⟨cell.object, object⟩, rfl, rfl⟩
  have ran : (Guest.Space.importedModule entry.name).run (world.space entry.space) =
      .ok (some entry.module, (world.space entry.space).retain entry.module) := by
    simp only [Guest.Space.importedModule, Guest.Op.run_bind_eq_ok, Guest.Op.run_read_eq_ok, Guest.Op.run_get_eq_ok]
    refine ⟨roots, _, ⟨Guest.Space.rootsNow_eq_ok.mpr rooted, rfl⟩, _, _, ⟨rfl, rfl⟩, ?_⟩
    rw [listed]
    exact Guest.Op.run_map_eq_ok.mpr ⟨entry.module, acquired, rfl⟩
  unfold importModule
  rw [run_bind, run_onSpace, ran, World.retain, World.updateSpace_eq_setSpace]
  rfl

end ObjectBridge

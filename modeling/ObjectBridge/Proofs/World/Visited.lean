import ObjectBridge.Proofs.Space.Kinds
import ObjectBridge.Proofs.World.Keywords
import ObjectBridge.Proofs.World.Operations
import ObjectBridge.Proofs.World.RoundTrip

/-!
Worlds that are visited. In all that happens, between commands and in the course of them, every space that is not
finalized is well typed, and what is done in it comes to its end without falling back on anything.
-/

namespace ObjectBridge

open Act
open Guest (Handle)

inductive Deed (engine : Engine) : {ε α : Type} → Act ε α → List Ref → (α → Multiset Ref) → Prop
  | acquire (id : SpaceId) (handle : Handle) : Deed engine (ownedBy id (Guest.Space.acquire handle)) [] ({·})
  | noneValue (id : SpaceId) : Deed engine (ownedBy id Guest.Space.noneValue) [] ({·})
  | boolValue (id : SpaceId) (value : Bool) : Deed engine (ownedBy id (Guest.Space.boolValue value)) [] ({·})
  | newInt (id : SpaceId) (value : Int64) : Deed engine (ownedBy id (Guest.Space.newInt value)) [] ({·})
  | newText (id : SpaceId) (text : String) : Deed engine (ownedBy id (Guest.Space.newText text)) [] ({·})
  | newTuple (id : SpaceId) (items : List Handle) : Deed engine (ownedBy id (Guest.Space.newTuple items)) [] ({·})
  | newDict (id : SpaceId) : Deed engine (ownedBy id (Guest.Space.allocate (.dict .empty))) [] ({·})
  | newFunction (id : SpaceId) (name : String) (bound : Option Handle) (body : Code) :
      Deed engine (ownedBy id (Guest.Space.newFunction name bound body)) [] ({·})
  | newType (id : SpaceId) (name : String) (bases : List Handle) (members : List (String × Handle)) :
      Deed engine (ownedBy id (Guest.Space.newType name bases members)) [] ({·})
  | getattr (id : SpaceId) (target : Ref) (name : String) : Deed engine (getattr id target name) [] ({·})
  | hasattr (id : SpaceId) (target : Ref) (name : String) : Deed engine (hasattr id target name) [] fun _ => 0
  | setattr (id : SpaceId) (target : Ref) (name : String) (value : Ref) :
      Deed engine (setattr id target name value) [] fun _ => 0
  | lookup (id : SpaceId) (type : Ref) (name : String) :
      Deed engine (lookup id type name) [] fun found => (found.toList : Multiset Ref)
  | dictGet (id : SpaceId) (dict : Ref) (key : String) :
      Deed engine (dictGet id dict key) [] fun found => (found.toList : Multiset Ref)
  | dictSet (id : SpaceId) (dict : Handle) (key : String) (value : Handle) :
      Deed engine (onSpace id (Guest.Space.dictSet dict key value)) [] fun _ => 0
  | dictRemove (id : SpaceId) (dict : Handle) (key : String) :
      Deed engine (onSpace id (Guest.Space.dictRemove dict key)) [] fun _ => 0
  | dictItems (id : SpaceId) (dict : Handle) : Deed engine (onSpace id (Guest.Space.dictItems dict)) [] fun items =>
      ((items.map (·.2) : List Handle) : Multiset Handle).map (Ref.mk id)
  | str (id : SpaceId) (value : Ref) : Deed engine (engine.str id value) [value] fun _ => 0
  | importModule (id : SpaceId) (name : String) : Deed engine (engine.importModule id name) [] ({·})
  | finalize (id : SpaceId) : Deed engine (Bridge.finalizeSpace id) [] fun _ => 0
  | call (id : SpaceId) (callable : Ref) (arguments : List Ref) (keywords : List (String × Ref)) :
      Deed engine (engine.call id callable arguments keywords) (arguments ++ keywords.map (·.2)) ({·})
  | callMethod (id : SpaceId) (target : Ref) (name : String) (arguments : List Ref) :
      Deed engine (engine.callMethod id target name arguments) arguments ({·})
  | send (host : Host.HostId) (receiver : HostValue) (name : String) (arguments : List HostValue) :
      Deed engine (engine.send host receiver name arguments) [] fun _ => 0
  | code (code : Code) (invocation : Invocation) :
      Deed engine (engine.runCode code invocation) (Script.lends invocation) ({·})
  | guest (invocation : Invocation) (body : Script.GuestBody) :
      Deed engine (Script.runGuest engine invocation body) (Script.lends invocation) ({·})
  | method (host : Host.HostId) (receiver : HostValue) (method : Method) (arguments : List HostValue) :
      Deed engine (engine.runMethod host receiver method arguments) [] fun _ => 0
  | host (message : Script.Message) (body : Script.HostBody) : Deed engine (Script.runHost engine message body) [] fun _ => 0
  | operation (session : Session) (operation : Bridge.Operation) :
      Deed engine (operation.carryOut engine session) operation.given fun answer => (answer.toList : Multiset Ref)

theorem Deed.balanced [World.Passing] {engine : Engine} (balanced : engine.Balanced) {ε α : Type} {act : Act ε α}
    {borrowed : List Ref} {answer : α → Multiset Ref} (deed : Deed engine act borrowed answer) :
    Act.Balanced .lasting borrowed 0 act answer := by
  cases deed with
  | acquire id handle => exact .ownedBy (Guest.Space.balanced_acquire .lasting handle)
  | noneValue id => exact .ownedBy (Guest.Space.balanced_noneValue .lasting)
  | boolValue id value => exact .ownedBy (Guest.Space.balanced_boolValue .lasting value)
  | newInt id value => exact .ownedBy (Guest.Space.balanced_newInt .lasting value)
  | newText id text => exact .ownedBy (Guest.Space.balanced_newText .lasting text)
  | newTuple id items => exact .ownedBy (Guest.Space.balanced_newTuple .lasting items)
  | newDict id => exact .ownedBy (Guest.Space.balanced_allocate .lasting (.dict .empty))
  | newFunction id name bound body => exact .ownedBy (Guest.Space.balanced_newFunction .lasting name bound body)
  | newType id name bases members => exact .ownedBy (Guest.Space.balanced_newType .lasting name bases members)
  | getattr id target name => exact balanced_getattr target name
  | hasattr id target name => exact balanced_hasattr target name
  | setattr id target name value => exact balanced_setattr target name value
  | lookup id type name => exact balanced_lookup type name
  | dictGet id dict key => exact balanced_dictGet dict key
  | dictSet id dict key value => exact .onSpace (Guest.Space.balanced_dictSet dict key value)
  | dictRemove id dict key => exact .onSpace (Guest.Space.balanced_dictRemove dict key)
  | dictItems id dict => exact .onSpace (Guest.Space.balanced_dictItems .lasting dict)
  | str id value => exact Engine.balanced_str balanced value (List.mem_singleton_self value)
  | importModule id name => exact Engine.balanced_importModule balanced name
  | finalize id => exact Bridge.balanced_finalizeSpace id
  | call id callable arguments keywords =>
    exact balanced.call id callable arguments keywords (fun ref member => List.mem_append_left _ member)
      fun keyword member => List.mem_append_right _ (List.mem_map_of_mem member)
  | callMethod id target name arguments => exact Engine.balanced_callMethod balanced target name fun _ member => member
  | send host receiver name arguments => exact balanced.send host receiver name arguments
  | code code invocation => exact Engine.balanced_runCode balanced code invocation fun _ member => member
  | guest invocation body => exact Script.balanced_runGuest invocation balanced body _ fun _ member => member
  | method host receiver method arguments => exact Engine.balanced_runMethod balanced host receiver method arguments
  | host message body => exact Script.balanced_runHost balanced message body
  | operation session operation => exact Bridge.Operation.balanced_carryOut balanced session operation fun _ member => member

namespace World

/-- The worlds that are come to, and the references that code has in its hands there: between commands, and in the course
of them, before and after whatever the code does that runs. -/
inductive Visited : World → Multiset Ref → Prop
  | empty : Visited .empty 0
  | command {world : World} (depth : Nat) (command : Console.Command) (visited : Visited world 0) :
      Visited (Console.perform (.ofDepth depth) command world).2 0
  | deed {world : World} {held : Multiset Ref} {ε α : Type} {act : Act ε α} {borrowed : List Ref}
      {answer : α → Multiset Ref} (depth : Nat) (deed : Deed (.ofDepth depth) act borrowed answer)
      {result : Except ε α} {after : World} (visited : Visited world held) (lent : ∀ ref ∈ borrowed, ref ∈ held)
      (ran : act.run world = (result, after)) : Visited after (left answer result + held)
  | start {world : World} {held : Multiset Ref} (visited : Visited world held) : Visited world.addSpace.2 held
  | create {world after : World} {held : Multiset Ref} {id : SpaceId} {name : String} {definition : Definition}
      {result : Except Guest.Exception Ref} (visited : Visited world held)
      (free : (world.space id).modules.get? name = none)
      (ran : (ownedBy id (Guest.Space.createModule name definition)).run world = (result, after)) :
      Visited after (left ({·}) result + held)
  | make {world after : World} {held : Multiset Ref} {id : SpaceId} {type : Handle} {contents : Guest.TypeObject}
      {result : Except Guest.Exception Ref} (visited : Visited world held)
      (there : (world.space id).heap.get? type = some (.typeObject contents))
      (ran : (ownedBy id do
        let type ← Guest.Space.acquire type
        Guest.Space.allocate (.object { type, attributes := .empty })).run world = (result, after)) :
      Visited after (left ({·}) result + held)
  | aside {world after : World} {held held' : Multiset Ref} (visited : Visited world held)
      (leads : Leads .lasting (world, held) (after, held')) (loses : world.OnlyLoses after) : Visited after held'

theorem passes_settles [Passing] {before : World × Multiset Ref} {world : World} {held : Multiset Ref} {ε α : Type}
    {act : Act ε α} {answer : α → Multiset Ref} {result : Except ε α} {after : World}
    (passes : Passing.Passes .lasting before (world, held)) (exact : world.Exact held)
    (settles : Settles .lasting world 0 act answer) (ran : act.run world = (result, after)) :
    Passing.Passes .lasting before (after, left answer result + held) := by
  have framed := Passing.frame settles (knows_add.mp exact.known).1
  rw [zero_add, ran] at framed
  exact Passing.trans passes framed

theorem Visited.passes [Passing] {world : World} {held : Multiset Ref} (visited : world.Visited held) :
    Passing.Passes .lasting (.empty, 0) (world, held) := by
  induction visited with
  | empty => exact passes_refl .empty 0
  | command depth command _ ih =>
    have exact := (Passing.leads ih).exact_alone exact_empty
    exact Passing.trans ih (Console.passes_perform (Engine.balanced_ofDepth depth) command exact)
  | @deed world held _ _ _ _ _ depth deed _ _ _ lent ran ih =>
    have exact := (Passing.leads ih).exact_alone exact_empty
    have balanced := deed.balanced (Engine.balanced_ofDepth depth)
    exact passes_settles ih exact (balanced world held (by rwa [zero_add]) lent) ran
  | @start world held _ ih =>
    have exact := (Passing.leads ih).exact_alone exact_empty
    rw [← add_zero held] at exact
    exact Passing.trans ih (passes_addSpace exact)
  | create _ free ran ih =>
    have exact := (Passing.leads ih).exact_alone exact_empty
    exact passes_settles ih exact (Engine.settles_createModule _ exact free) ran
  | make _ there ran ih =>
    have exact := (Passing.leads ih).exact_alone exact_empty
    exact passes_settles ih exact (Engine.settles_newInstance .lasting (by rwa [zero_add]) there) ran
  | aside _ leads loses ih => exact Passing.trans ih (leads.passes loses)

theorem wellTyped_empty : empty.WellTyped := by
  intro id
  rw [space_of_unknown (Nat.not_lt_zero _)]
  exact Guest.Space.wellTyped_of_ended ⟨rfl, rfl⟩

section Visited

variable {world : World} {held : Multiset Ref}

theorem Visited.leads (visited : world.Visited held) : Leads .lasting (.empty, 0) (world, held) :=
  visited.passes

theorem Visited.exact (visited : world.Visited held) : world.Exact held :=
  visited.leads.exact_alone exact_empty

theorem Visited.wellTyped (visited : world.Visited held) : world.WellTyped := by
  have passes := @Visited.passes .typing _ _ visited
  refine passes.2 0 ?_ ?_ wellTyped_empty
  · rw [zero_add]
    exact exact_empty
  · rw [add_zero]
    exact visited.exact

theorem Visited.path (visited : world.Visited held) {id : SpaceId} {roots : Guest.Roots}
    (rooted : (world.space id).roots = some roots) :
    Guest.Space.Path .lasting (.start, 0) (world.space id, heldIn id (held + world.outside)) :=
  path_of_leads visited.leads (known_of_started (by simp [rooted]))

end Visited

end World

namespace Bridge

variable {world : World} {id : SpaceId} {handle : Handle}

theorem mapM_congr {ε α γ : Type} {convert convert' : α → Except ε γ} {items : List α}
    (same : ∀ item ∈ items, convert item = convert' item) : items.mapM convert = items.mapM convert' := by
  induction items with
  | nil => rfl
  | cons item rest ih =>
    rw [List.mapM_cons, List.mapM_cons, same item List.mem_cons_self, ih fun other member =>
      same other (List.mem_cons_of_mem _ member)]

structure Converts (world : World) (session : Session) (id : SpaceId) (handle : Handle) (levels : Nat) : Prop where
  settled : ∃ outcome, (toHostWithin session levels { space := id, handle }).run world = (outcome, world) ∧
    Settled world session id handle outcome
  enough : ∀ more, levels ≤ more → (toHostWithin session more { space := id, handle }).run world =
    (toHostWithin session levels { space := id, handle }).run world

theorem hostFormWithin_of_enough (session : Session) (nested : (world.space id).heap.Nested Guest.Object.items)
    (handle : Handle) {more : Nat} (enough : (world.space id).depthBound ≤ more) :
    hostFormWithin world session id more handle = hostFormWithin world session id (world.space id).depthBound handle := by
  obtain ⟨further, rfl⟩ := Nat.exists_eq_add_of_le enough
  refine nested.descend (fun levels handle =>
    hostFormWithin world session id (levels + further) handle = hostFormWithin world session id levels handle) ?_ handle
    (Nat.lt_succ_self _)
  intro levels handle ih
  rw [Nat.add_right_comm, hostFormWithin, hostFormWithin]
  split
  · rfl
  · rfl
  · rename_i items found
    have each : items.mapM (hostFormWithin world session id (levels + further)) =
        items.mapM (hostFormWithin world session id levels) :=
      mapM_congr fun item member => ih item ⟨_, found, member⟩
    rw [each]
  · rfl

theorem converts_of_live (session : Session) {held : Multiset Ref} (exact : world.Exact held)
    (founded : (world.space id).Founded) {object : Guest.Object Code}
    (live : (world.space id).heap.get? handle = some object) :
    Converts world session id handle (world.space id).depthBound where
  settled := ⟨_, run_toHostWithin session exact _ _, settled_of_live session (exact.spaces id) founded live⟩
  enough more levels := by
    rw [run_toHostWithin session exact, run_toHostWithin session exact,
      hostFormWithin_of_enough session founded.nested handle levels]

end Bridge

theorem Console.visited_after (depth : Nat) (commands : List Command) :
    (after (.ofDepth depth) commands .empty).Visited 0 := by
  suffices onward : ∀ world : World, world.Visited 0 → (after (.ofDepth depth) commands world).Visited 0 from
    onward _ .empty
  induction commands with
  | nil => exact fun _ visited => visited
  | cons command rest ih => exact fun world visited => ih _ (.command depth command visited)

namespace World

/-- In the space everything is of its kind, and nothing falls back on what there is for other cases. Conversions of what
is there take no more levels than the space has room for; and the call of a bound method is one run of the body of its
function, which gets the receiver first, by an engine that has two levels less. -/
structure Orderly (world : World) (held : Multiset Ref) (id : SpaceId) (roots : Guest.Roots) : Prop where
  kinded : (world.space id).Kinded roots
  definite : (world.space id).Definite roots
  converts : ∀ session handle object, (world.space id).heap.get? handle = some object →
    Bridge.Converts world session id handle (world.space id).depthBound
  calls : ∀ handle receiver callable, (world.space id).heap.get? handle = some (.boundMethod receiver callable) →
    ∃ function, (world.space id).heap.get? callable = some (.function function) ∧
      ∀ arguments keywords, (∀ ref ∈ arguments ++ keywords.map (·.2), ref ∈ held) → ∃ before,
        Engine.OneRun world before held
          (fun engine => engine.next.next.call id { space := id, handle } arguments keywords) function.body
          { space := id, bound? := function.bound.map fun handle => { space := id, handle }
            arguments := { space := id, handle := receiver } :: arguments, keywords } fun answer => answer

/-- Whatever runs, and wherever it has come to: in every space that is not finalized all that is referred to is of the
kind that it has to be, and what is done there ends of itself and falls back on nothing. -/
theorem visited_spaces_orderly :
    (∀ depth commands, (Console.after (.ofDepth depth) commands .empty).Visited 0) ∧
    ∀ world held, Visited world held → ∀ id roots, (world.space id).roots = some roots →
      world.Orderly held id roots := by
  refine ⟨Console.visited_after, fun world held visited id roots rooted => ?_⟩
  have path := visited.path rooted
  have kinded := path.kinded rooted (visited.wellTyped id)
  constructor
  case kinded => exact kinded
  case definite => exact kinded.definite rooted
  case converts =>
    intro session handle object live
    have exact : (Guest.Space.start : Space).Exact (0 + 0) := Guest.Space.exact_start
    exact Bridge.converts_of_live session visited.exact (path.founded exact Guest.Space.founded_start) live
  case calls =>
    intro handle receiver callable found
    obtain ⟨function, runs⟩ := kinded.functions handle receiver callable found
    refine ⟨function, runs, fun arguments keywords lent => ?_⟩
    let method : Ref := { space := id, handle }
    have shown : world.get? method = some (.boundMethod receiver callable) := found
    obtain ⟨before, -, once⟩ := Engine.exists_oneRun_method visited.exact shown runs lent
    exact ⟨before, once⟩

/-- An instance of a type with one method, and the method bound to it. -/
theorem visited_spaces_orderly_method :
    let command (action : Console.GuestAction) (register : String) : Console.Command :=
      { action := .guest action, place := none, host := "", result := some register, keyed := false }
    let world := Console.after (.ofDepth 2) [command .start "rt", command (.function "m" (.argument 0) none) "function",
      command (.newType "T" [] [("m", .register "function")]) "type", command (.call (.register "type") [] []) "value",
      command (.getattr (.register "value") "m" false) "method"] .empty
    ∃ value contents type method receiver callable function before,
      world.registerValue? "value" = some value ∧ world.get? value = some (.object contents) ∧
      world.get? { value with handle := contents.type } = some (.typeObject type) ∧
      world.registerValue? "method" = some method ∧ world.get? method = some (.boundMethod receiver callable) ∧
      world.get? { method with handle := callable } = some (.function function) ∧
      Engine.OneRun world before 0 (fun engine => engine.next.next.call method.space method [] []) function.body
        { space := method.space, bound? := function.bound.map fun handle => { method with handle }
          arguments := [{ method with handle := receiver }], keywords := [] } fun answer => answer := by
  intro command world
  let register (name : String) : Ref := (world.registerValue? name).getD default
  obtain ⟨found, isObject, isMethod, started⟩ :
      (∀ name ∈ ["value", "method"], world.registerValue? name = some (register name)) ∧
      (world.get? (register "value")).map (·.kind) = some .object ∧
      (world.get? (register "method")).map (·.kind) = some .boundMethod ∧
      ∀ name ∈ ["value", "method"], (world.space (register name).space).roots.isSome := by
    decide +kernel
  obtain ⟨runs, orderly⟩ := visited_spaces_orderly
  have visited : world.Visited 0 := runs 2 _
  clear_value register world
  obtain ⟨object, shown, isObject⟩ := Option.map_eq_some_iff.mp isObject
  obtain ⟨bound, there, isMethod⟩ := Option.map_eq_some_iff.mp isMethod
  obtain ⟨roots, rooted⟩ := Option.isSome_iff_exists.mp (started "value" (by simp))
  obtain ⟨others, rootedMethod⟩ := Option.isSome_iff_exists.mp (started "method" (by simp))
  cases object with
  | object contents =>
    cases bound with
    | boundMethod receiver callable =>
      obtain ⟨type, typed⟩ := (orderly world 0 visited _ roots rooted).kinded.types _ contents shown
      obtain ⟨function, callee, calls⟩ := (orderly world 0 visited _ others rootedMethod).calls _ receiver callable there
      obtain ⟨before, once⟩ := calls [] [] (by simp)
      exact ⟨_, contents, type, _, receiver, callable, function, before, found _ (by simp), shown, typed,
        found _ (by simp), there, callee, once⟩
    | _ => cases isMethod
  | _ => cases isObject

end World

end ObjectBridge

import ObjectBridge.Machine
import ObjectBridge.Proofs.World.Respects

/-!
What code does beside registers and sessions: the services of a module, the import of modules, the calls of objects
and the bodies of Guest functions. They reach registers and sessions only through what they call.
-/

namespace ObjectBridge

open Guest (Handle)
open World (CoversObjects CoversSpaces FreeOfSpaces Kept)
open Act

variable {relation : World → World → Prop}

section Objects

variable [CoversObjects relation]

namespace Act

theorem respects_getattr (space : SpaceId) (target : Ref) (name : String) :
    Respects relation (getattr space target name) :=
  .ownedBy _ _

theorem respects_setattr (space : SpaceId) (target : Ref) (name : String) (value : Ref) :
    Respects relation (setattr space target name value) :=
  .onSpace _ _

theorem respects_hasattr (space : SpaceId) (target : Ref) (name : String) :
    Respects relation (hasattr space target name) := by
  refine (respects_getattr space target name).outcome.bind fun result => ?_
  cases result with
  | ok ref => exact (Respects.release ref).bind fun _ => .pure _
  | error exception =>
    dsimp only
    split
    · exact .pure _
    · exact .throw _

end Act

theorem Invocation.respects_textArgument (invocation : Invocation) (index : Nat) :
    Respects relation (invocation.textArgument index) := by
  refine (Respects.lift _).bind fun ref => (Respects.view _).bind fun text => ?_
  cases text with
  | some text => exact .pure _
  | none => exact (Respects.view _).bind fun kind => .throw _

namespace Registry

theorem respects_followAttributes (space : SpaceId) (name : String) (current : Ref) (segments : List String) :
    Respects relation (followAttributes space name current segments) := by
  induction segments generalizing current with
  | nil => exact .pure _
  | cons segment rest ih =>
    refine Respects.bind (Respects.lending _ ?_) ih
    refine (Respects.onView _ _).bind fun names => (Respects.lift _).bind fun found => ?_
    cases found with
    | some found => exact respects_getattr _ _ _
    | none => exact .throw _

theorem respects_builtinOf (space : SpaceId) (name : String) : Respects relation (builtinOf space name) := by
  refine (Respects.lift _).bind fun found => .get_bind fun world => ?_
  split
  · exact .ownedBy _ _
  · exact .throw _

theorem respects_resolve (space : SpaceId) (module : Ref) (name : String) :
    Respects relation (resolve space module name) := by
  unfold resolve
  extract_lets segments proceed
  have proceeds : Respects relation (proceed ()) := by
    refine (Respects.onView _ _).bind fun globals => (Respects.lift _).bind fun found => ?_
    cases found with
    | some found =>
      exact (respects_getattr _ _ _).bind fun start => respects_followAttributes space name start _
    | none => exact (respects_builtinOf space _).bind fun start => respects_followAttributes space name start _
  split
  · exact (Respects.throw _).bind fun _ => proceeds
  · exact proceeds

theorem respects_traceLine (invocation : Invocation) (line : String) :
    Respects relation (traceLine invocation line) := by
  refine .change fun world => ?_
  split
  · split
    · exact world.quiet_writeLine _
    · exact .refl world
  · exact .refl world

theorem respects_registryOf (invocation : Invocation) : Respects relation (registryOf invocation) :=
  (Respects.lift _).bind fun _ => respects_getattr _ _ _

theorem respects_keep (invocation : Invocation) (value : Ref) : Respects relation (keep invocation value) :=
  (respects_registryOf invocation).bind fun _ => ((Respects.onSpace _ _).lending _).bind fun _ =>
    (respects_traceLine invocation _).bind fun _ => .ownedBy _ _

theorem respects_kept (invocation : Invocation) (key : String) : Respects relation (kept invocation key) := by
  refine (respects_registryOf invocation).bind fun registry => ((Respects.dictGet _ _ _).lending _).bind fun found => ?_
  cases found with
  | some value => exact .pure _
  | none => exact .throw _

theorem respects_constant (space : SpaceId) (name : String) : Respects relation (constant space name) := by
  unfold constant
  split
  · refine .get_bind fun world => ?_
    split
    · exact .ownedBy _ _
    · exact .throw _
  · exact .throw _

theorem respects_textItems (value : Ref) (role : String) : Respects relation (textItems value role) := by
  refine (Respects.itemsOf value).bind fun items => ?_
  cases items with
  | none => exact .throw _
  | some items =>
    refine Respects.lending _ (.mapM (fun item => (Respects.view _).bind fun text => ?_) items)
    cases text with
    | some text => exact .pure _
    | none => exact .throw _

theorem respects_setTracing (invocation : Invocation) (enabled : Bool) :
    Respects relation (setTracing invocation enabled) := by
  refine (Respects.lift _).bind fun module => (Respects.ownedBy _ _).bind fun flag => ?_
  refine ((respects_setattr _ _ _ _).lending _).bind fun _ => ?_
  extract_lets answer
  have answers : Respects relation (answer ()) := .ownedBy _ _
  split
  · exact (respects_traceLine invocation _).bind fun _ => answers
  · exact answers

theorem respects_attributeSpellings (invocation : Invocation) :
    Respects relation (attributeSpellings invocation) := by
  refine (invocation.respects_textArgument 0).bind fun className => (Respects.lift _).bind fun module => ?_
  refine (respects_resolve _ module className).bind fun type => Respects.lending _ ?_
  refine (Respects.view _).bind fun kind => ?_
  extract_lets spell proceed
  have spells (attributes : List String) (name : Ref) : Respects relation (spell attributes name) := by
    refine (Respects.view _).bind fun text => ?_
    cases text with
    | none => exact .throw _
    | some wanted =>
      refine (Respects.lift _).bind fun found => ?_
      cases found with
      | none => exact .throw _
      | some found => exact .ownedBy _ _
  have proceeds : Respects relation (proceed ()) := by
    refine (Respects.lift _).bind fun listed => (Respects.itemsOf listed).bind fun names => ?_
    cases names with
    | none => exact .throw _
    | some names =>
      refine Respects.bind (Respects.lending _ ?_) fun spelled => (Respects.ownedBy _ _).lending _
      exact (Respects.onView _ _).bind fun attributes => .collect (spells attributes) #[] names
  split
  · exact (Respects.throw _).bind fun _ => proceeds
  · exact proceeds

end Registry

namespace Script

theorem respects_wrap (space : SpaceId) (levels : Nat) (value : Ref) :
    Respects relation (wrap space levels value) := by
  induction levels generalizing value with
  | zero => exact .pure _
  | succ levels ih => exact ((Respects.ownedBy _ _).lending _).bind ih

mutual

theorem respects_makeGuest (space : SpaceId) (literal : GuestLiteral) :
    Respects relation (makeGuest space literal) := by
  cases literal <;> unfold makeGuest
  case none => exact .ownedBy _ _
  case bool value => exact .ownedBy _ _
  case int value => exact .ownedBy _ _
  case text content => exact .ownedBy _ _
  case tuple items => exact (respects_makeGuests space #[] items).bind fun _ => (Respects.ownedBy _ _).lending _
  case register name =>
    refine .get_bind fun world => ?_
    split
    · exact (Respects.retain _).bind fun _ => .pure _
    · exact .throw _
  case dict entries =>
    exact (Respects.ownedBy _ _).bind fun dict =>
      ((respects_fillDict space dict entries).onFailureReleaseOne _).bind fun _ => .pure _
  case nest levels inner => exact (respects_makeGuest space inner).bind (respects_wrap space levels)
  case builtin name =>
    refine .get_bind fun world => ?_
    split
    · exact .ownedBy _ _
    · exact .throw _

theorem respects_makeGuests (space : SpaceId) (done : Array Ref) (literals : List GuestLiteral) :
    Respects relation (makeGuests space done literals) := by
  cases literals <;> unfold makeGuests
  case nil => exact .pure _
  case cons literal rest =>
    exact ((respects_makeGuest space literal).onFailureRelease _).bind fun ref =>
      respects_makeGuests space (done.push ref) rest

theorem respects_fillDict (space : SpaceId) (dict : Ref) (entries : List (String × GuestLiteral)) :
    Respects relation (fillDict space dict entries) := by
  cases entries <;> unfold fillDict
  case nil => exact .pure _
  case cons entry rest =>
    exact (respects_makeGuest space entry.2).bind fun value => ((Respects.onSpace _ _).lending _).bind fun _ =>
      respects_fillDict space dict rest

end

end Script

theorem Engine.respects_runInitializer {engine : Engine} {space : SpaceId}
    (calls : ∀ callable arguments keywords, Act.Respects relation (engine.call space callable arguments keywords))
    (module : Ref) (initializer : Guest.Initializer Code) :
    Act.Respects relation (engine.runInitializer space module initializer) := by
  cases initializer with
  | run body =>
    exact (Respects.ownedBy _ _).bind fun function =>
      ((calls _ _ _).bind fun result => .release result).lending _
  | registry =>
    exact (Respects.ownedBy _ _).bind fun registry => Respects.lending _ <|
      (respects_setattr _ _ _ _).bind fun _ => (Respects.ownedBy _ _).bind fun flag =>
        (respects_setattr _ _ _ _).lending _

section Engine

variable {engine : Engine} (respects : engine.Respects relation)
include respects

namespace Engine

theorem respects_instantiate (space : SpaceId) (type : Ref) (arguments : List Ref) (keywords : List (String × Ref)) :
    Act.Respects relation (engine.instantiate space type arguments keywords) := by
  unfold instantiate
  refine (Respects.onView _ _).bind fun construction => ?_
  extract_lets make
  have makes : Act.Respects relation (make ()) := by
    cases construction with
    | str =>
      rcases arguments with _ | ⟨value, _ | ⟨other, rest⟩⟩
      · exact .ownedBy _ _
      · exact (respects_str respects space value).bind fun text => .ownedBy _ _
      · exact .throw _
    | tuple =>
      rcases arguments with _ | ⟨value, _ | ⟨other, rest⟩⟩
      · exact .ownedBy _ _
      · refine (Respects.view _).bind fun kind => ?_
        split
        · exact (Respects.retain _).bind fun _ => .pure _
        · exact .throw _
      · exact .throw _
    | object =>
      refine (Respects.lookup _ _ _).bind fun initializer => ?_
      extract_lets make
      have makes : Act.Respects relation (make ()) := by
        refine ((Respects.ownedBy _ _).onFailureRelease _).bind fun made => ?_
        cases initializer with
        | none => exact .pure _
        | some initializer =>
          refine (Respects.change fun world => world.quiet_retainAll _).bind fun _ => ?_
          refine Respects.bind (Respects.onFailureReleaseOne _ (Respects.lending _ ?_)) fun _ => .pure _
          exact (respects.call _ _ _ _).bind fun result => .release result
      split
      · exact (Respects.onView _ _).bind fun name => (Respects.throw _).bind fun _ => makes
      · exact makes
  split
  · exact (Respects.onView _ _).bind fun name => (Respects.throw _).bind fun _ => makes
  · exact makes

theorem respects_callObject {run : Code → Invocation → GuestAct Ref}
    (runs : ∀ code invocation, Act.Respects relation (run code invocation)) (space : SpaceId) (callable : Ref)
    (arguments : List Ref) (keywords : List (String × Ref)) :
    Act.Respects relation (engine.callObject run space callable arguments keywords) := by
  refine (Respects.onView _ _).bind fun callee => ?_
  cases callee with
  | native body bound =>
    exact (Respects.change fun world => world.quiet_retainAll _).bind fun _ => (runs _ _).lending _
  | method receiver function =>
    exact (Respects.change fun world => world.quiet_retainAll _).bind fun _ =>
      (respects.call _ _ _ _).lending _
  | typeObject => exact respects_instantiate respects space callable arguments keywords

end Engine

end Engine

end Objects

/-! ### Modules are imported and spaces are finalized -/

section FreeOfSpaces

variable [FreeOfSpaces relation]

theorem World.kept_setSpace (world : World) (id : SpaceId) (space : Space) : Kept world (world.setSpace id space) :=
  ⟨⟨rfl, rfl, rfl, rfl⟩, fun _ => rfl⟩

theorem Act.respects_onSpace {α : Type} (id : SpaceId) (operation : Guest.Op Code α) :
    Respects relation (onSpace id operation) := by
  intro world
  rw [run_onSpace]
  rcases operation.run (world.space id) with _ | ⟨value, space⟩
  · exact refl_of relation world
  · exact FreeOfSpaces.of_kept (world.kept_setSpace id space)

theorem Engine.respects_importModule_of_calls {engine : Engine} {space : SpaceId}
    (calls : ∀ callable arguments keywords, Act.Respects relation (engine.call space callable arguments keywords))
    (name : String) : Act.Respects relation (engine.importModule space name) := by
  refine (respects_onSpace _ _).bind fun found => ?_
  cases found with
  | some handle => exact .pure _
  | none =>
    refine .get_bind fun world => ?_
    split
    · exact .throw _
    · refine Respects.bind ((respects_onSpace _ _).bind fun _ => .pure _) fun module => Respects.bind ?_ fun _ => .pure _
      refine Respects.onFailure_of (.forM (respects_runInitializer calls module) _) fun world => ?_
      exact FreeOfSpaces.of_kept ⟨⟨rfl, rfl, rfl, rfl⟩, fun _ => rfl⟩

instance : CoversSpaces relation where
  finalizes world id := FreeOfSpaces.of_kept (world.kept_setSpace id _)
  imports respects space name := Engine.respects_importModule_of_calls (respects.call space) name

end FreeOfSpaces

variable [CoversSpaces relation]

theorem Bridge.respects_finalizeSpace (space : SpaceId) : Respects relation (finalizeSpace space) :=
  fun world => CoversSpaces.finalizes world space

section Engine

variable {engine : Engine} (respects : engine.Respects relation)
include respects

theorem Engine.respects_importModule (space : SpaceId) (name : String) :
    Act.Respects relation (engine.importModule space name) :=
  CoversSpaces.imports respects space name

namespace Registry

theorem respects_importFrom (invocation : Invocation) : Respects relation (importFrom engine invocation) := by
  refine (invocation.respects_textArgument 0).bind fun moduleName => (Respects.lift _).bind fun listed => ?_
  refine (respects_textItems listed _).bind fun names => (respects_traceLine invocation _).bind fun _ => ?_
  refine (Engine.respects_importModule respects _ moduleName).bind fun imported => Respects.lending _ ?_
  refine Respects.bind (.collect (fun name => (respects_getattr _ _ _).adapt _) #[] names) fun values =>
    Respects.lending _ ?_
  refine Respects.bind (.forM (fun binding => ?_) _) fun _ => .ownedBy _ _
  exact (Respects.lift _).bind fun module => respects_setattr _ _ _ _

theorem respects_invoke (invocation : Invocation) : Respects relation (invoke engine invocation) := by
  refine (invocation.respects_textArgument 0).bind fun name => ?_
  extract_lets proceed
  have proceeds (arguments : List Ref) : Respects relation (proceed arguments) := by
    refine Respects.lending _ ((respects_traceLine invocation _).bind fun _ => (Respects.lift _).bind fun module => ?_)
    refine (respects_resolve _ module name).bind fun function => Respects.lending _ ?_
    refine (Respects.view _).bind fun kind => ?_
    split
    · exact (respects_callWithArguments respects _ function arguments).bind fun result =>
        (respects_keep invocation result).lending _
    · exact respects_keep invocation function
  cases invocation.arguments[1]? with
  | none => exact proceeds []
  | some packed =>
    refine (Respects.itemsOf packed).bind fun items => ?_
    cases items with
    | none => exact (Respects.throw _).bind proceeds
    | some items => exact proceeds items

theorem respects_serve (service : Service) (invocation : Invocation) :
    Respects relation (serve engine service invocation) := by
  have text (index : Nat) : Respects relation (invocation.textArgument index) := invocation.respects_textArgument index
  have traced (line : String) : Respects relation (traceLine invocation line) := respects_traceLine invocation line
  cases service with
  | storeObject => exact (Respects.lift _).bind fun value => respects_keep invocation value
  | lookupObject => exact (text 0).bind fun key => (traced _).bind fun _ => respects_kept invocation key
  | releaseObject =>
    exact (text 0).bind fun key => (respects_registryOf invocation).bind fun registry =>
      ((Respects.onSpace _ _).lending _).bind fun removed => (traced _).bind fun _ => .ownedBy _ _
  | resolveFunction =>
    exact (text 0).bind fun name => (traced _).bind fun _ => (Respects.lift _).bind fun module =>
      respects_resolve _ module name
  | setGlobals =>
    exact (text 0).bind fun name => (traced _).bind fun _ => (Respects.lift _).bind fun module =>
      (Respects.lift _).bind fun value => (respects_setattr _ _ _ _).bind fun _ => .ownedBy _ _
  | invokeStr =>
    exact (text 0).bind fun key => (respects_kept invocation key).bind fun value => Respects.lending _ <|
      (Engine.respects_str respects _ value).bind fun shown => (traced _).bind fun _ => .ownedBy _ _
  | invokeImport =>
    exact (text 0).bind fun name => (traced _).bind fun _ =>
      (Engine.respects_importModule respects _ name).bind fun imported => Respects.lending _ <|
        (Respects.lift _).bind fun module => (respects_setattr _ _ _ _).bind fun _ => .ownedBy _ _
  | invokeFromImport => exact respects_importFrom respects invocation
  | invokeFunction => exact respects_invoke respects invocation
  | getBuiltinConstant => exact (text 0).bind fun name => respects_constant _ name
  | getBuiltinConstantId =>
    exact (text 0).bind fun name => (respects_constant _ name).bind fun value =>
      (respects_keep invocation value).lending _
  | debugOn => exact respects_setTracing invocation true
  | debugOff => exact respects_setTracing invocation false
  | getCorrespondingMethodnames => exact respects_attributeSpellings invocation

end Registry

end Engine

end ObjectBridge

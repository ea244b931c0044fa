import ObjectBridge.Proofs.Space.Labels
import ObjectBridge.Proofs.World.Bodies
import ObjectBridge.Proofs.World.Offered
import ObjectBridge.Proofs.World.Services

/-!
What a from-import is asked for: the name of a module and a tuple of names of its attributes. The service is to
understand this first, then to import the module, and to bind the names last.
-/

namespace ObjectBridge.Registry

open Act
open Guest (Exception Extent Handle)

variable {world : World}

/-- The module that is asked for and the names that are to be bound, once they have been understood. -/
def request (invocation : Invocation) : GuestAct (String × List String) := do
  let moduleName ← invocation.textArgument 0
  let names ← textItems (← liftM (invocation.argument 1)) "import names"
  let shown := Text.bracketed (names.map Text.quoted)
  traceLine invocation s!"invoke_from_import({moduleName}, {shown})"
  return (moduleName, names)

def bindFrom (invocation : Invocation) (moduleName : String) (names : List String) (source : Ref) : GuestAct Ref :=
  lending [source] do
    let values ← importedValues invocation.space moduleName source names
    lending values do
      (names.zip values).forM fun (name, value) => do
        setattr invocation.space (← liftM invocation.bound) name value
      ownedBy invocation.space Guest.Space.noneValue

theorem importFrom_eq (engine : Engine) (invocation : Invocation) :
    importFrom engine invocation = (do
      let (moduleName, names) ← request invocation
      let source ← engine.importModule invocation.space moduleName
      bindFrom invocation moduleName names source) := by
  simp only [request, bind_assoc, pure_bind]
  rfl

def Requests (world : World) (arguments : List Ref) (moduleName : String) (names : List String) : Prop :=
  ∃ first listed items, arguments[0]? = some first ∧ world.get? first = some (.str moduleName) ∧
    arguments[1]? = some listed ∧ world.get? listed = some (.tuple items) ∧
    List.Forall₂ (fun item name => world.get? { listed with handle := item } = some (.str name)) items names

theorem balanced_request {extent : Extent} {borrowed : List Ref} (invocation : Invocation) :
    Balanced extent borrowed 0 (request invocation) fun _ => 0 := by
  refine (invocation.balanced_textArgument 0).bind fun moduleName => (Balanced.lift _).bind fun listed => ?_
  exact (balanced_textItems listed _).bind fun names => (balanced_traceLine invocation _).bind fun _ => .pure rfl

theorem respects_request {relation : World → World → Prop} [World.CoversObjects relation] (invocation : Invocation) :
    Respects relation (request invocation) := by
  refine (invocation.respects_textArgument 0).bind fun moduleName => (Respects.lift _).bind fun listed => ?_
  exact (respects_textItems listed _).bind fun names => (respects_traceLine invocation _).bind fun _ => .pure _

theorem run_textOf {ε : Type} (ref : Ref) (world : World) :
    (textOf ref : Act ε (Option String)).run world = (.ok ((world.space ref.space).text? ref.handle), world) :=
  rfl

theorem textArgument_cases (invocation : Invocation) (index : Nat) (world : World) :
    (∃ ref text, invocation.arguments[index]? = some ref ∧ world.get? ref = some (.str text) ∧
      (invocation.textArgument index).run world = (.ok text, world)) ∨
    ∃ exception, (∀ ref text, invocation.arguments[index]? = some ref → world.get? ref ≠ some (.str text)) ∧
      (invocation.textArgument index).run world = (.error exception, world) := by
  cases given : invocation.arguments[index]? with
  | none =>
    refine Or.inr ⟨.missingArgument index invocation.arguments.length, nofun, ?_⟩
    unfold Invocation.textArgument
    rw [Invocation.argument, given]
    exact run_bind_error (run_lift _) _
  | some ref =>
    by_cases written : ∃ text, world.get? ref = some (.str text)
    · obtain ⟨text, found⟩ := written
      exact Or.inl ⟨ref, text, rfl, found, Engine.run_textArgument invocation given found⟩
    · have unread : (world.space ref.space).text? ref.handle = none :=
        Option.eq_none_iff_forall_ne_some.mpr fun text read => written ⟨text, Guest.Space.text?_eq_some.mp read⟩
      refine Or.inr ⟨.argumentNotString index ((((world.get? ref).map (·.kind)).map (·.typeName)).getD "<released>"),
        fun other text same found => written ⟨text, Option.some.inj same ▸ found⟩, ?_⟩
      unfold Invocation.textArgument
      rw [Invocation.argument, given, run_bind_ok (run_lift _), run_bind_ok (run_textOf ref world), unread]
      rfl

theorem textItem_cases (role : String) (item : Ref) (world : World) :
    (∃ text, world.get? item = some (.str text) ∧ (textItem role item).run world = (.ok text, world)) ∨
    ((∀ text, world.get? item ≠ some (.str text)) ∧
      (textItem role item).run world = (.error (.stringExpected role), world)) := by
  unfold textItem
  rw [run_bind_ok (run_textOf item world)]
  cases read : (world.space item.space).text? item.handle with
  | some text => exact Or.inl ⟨text, Guest.Space.text?_eq_some.mp read, rfl⟩
  | none =>
    refine Or.inr ⟨fun text found => ?_, rfl⟩
    cases read.symm.trans (Guest.Space.text?_eq_some.mpr found)

theorem mapM_textItem_cases (role : String) (items : List Ref) (world : World) :
    (∃ names, List.Forall₂ (fun item name => world.get? item = some (.str name)) items names ∧
      (items.mapM (textItem role)).run world = (.ok names, world)) ∨
    ((∀ names, ¬List.Forall₂ (fun item name => world.get? item = some (.str name)) items names) ∧
      (items.mapM (textItem role)).run world = (.error (.stringExpected role), world)) := by
  induction items with
  | nil => exact Or.inl ⟨[], .nil, rfl⟩
  | cons item rest ih =>
    rw [List.mapM_cons]
    rcases textItem_cases role item world with ⟨text, found, ran⟩ | ⟨unread, failed⟩
    · rw [run_bind_ok ran]
      rcases ih with ⟨names, written, ran⟩ | ⟨unread, failed⟩
      · exact Or.inl ⟨text :: names, .cons found written, run_bind_ok ran _⟩
      · refine Or.inr ⟨fun names written => ?_, run_bind_error failed _⟩
        cases written with
        | cons _ later => exact unread _ later
    · refine Or.inr ⟨fun names written => ?_, run_bind_error failed _⟩
      cases written with
      | cons found _ => exact unread _ found

theorem textItems_cases (value : Ref) (role : String) (world : World) :
    let written (items : List Handle) (names : List String) :=
      List.Forall₂ (fun item name => world.get? { value with handle := item } = some (.str name)) items names
    (∃ items names after, world.get? value = some (.tuple items) ∧ written items names ∧
      (textItems value role).run world = (.ok names, after)) ∨
    ∃ exception after, (∀ items names, world.get? value = some (.tuple items) → ¬written items names) ∧
      (textItems value role).run world = (.error exception, after) := by
  intro written
  by_cases tuple : ∃ items, world.get? value = some (.tuple items)
  · obtain ⟨items, found⟩ := tuple
    let refs : List Ref := items.map fun handle => { value with handle }
    have ranItems : (itemsOf value : GuestAct (Option (List Ref))).run world = (.ok (some refs), world.retainAll refs) := by
      have shown : (world.space value.space).tuple? value.handle = some items := by
        have there : (world.space value.space).heap.get? value.handle = some (.tuple items) := found
        simp [Guest.Space.tuple?, there]
      unfold itemsOf
      rw [run_get_bind, shown]
      rfl
    have ran {outcome : Except Exception (List String)}
        (texts : (refs.mapM (textItem role)).run (world.retainAll refs) = (outcome, world.retainAll refs)) :
        (textItems value role).run world = (outcome, (world.retainAll refs).releaseAll refs) :=
      (run_bind_ok ranItems _).trans (run_lending_of texts refs)
    have readings (names : List String) : List.Forall₂ (fun item name => (world.retainAll refs).get? item =
        some (.str name)) refs names ↔ written items names := by
      simp only [refs, List.forall₂_map_left_iff, World.get?_retainAll, written]
    rcases mapM_textItem_cases role refs (world.retainAll refs) with ⟨names, given, texts⟩ | ⟨unread, texts⟩
    · exact Or.inl ⟨items, names, _, found, (readings names).mp given, ran texts⟩
    · refine Or.inr ⟨_, _, fun others names same given => ?_, ran texts⟩
      obtain rfl : items = others := by simpa [found] using same
      exact unread names ((readings names).mpr given)
  · refine Or.inr ⟨.tupleExpected role, world, fun items _ found => absurd ⟨items, found⟩ tuple, ?_⟩
    have ranItems : (itemsOf value : GuestAct (Option (List Ref))).run world = (.ok none, world) := by
      have shown : (world.space value.space).tuple? value.handle = none := by
        apply Option.eq_none_iff_forall_ne_some.mpr
        intro items listed
        unfold Guest.Space.tuple? at listed
        split at listed
        · rename_i others there
          exact tuple ⟨others, there⟩
        · cases listed
      unfold itemsOf
      rw [run_get_bind, shown]
      rfl
    unfold textItems
    rw [run_bind_ok ranItems]
    rfl

theorem request_cases (invocation : Invocation) (world : World) :
    (∃ moduleName names before, Requests world invocation.arguments moduleName names ∧
      (request invocation).run world = (.ok (moduleName, names), before)) ∨
    ∃ exception after, (∀ moduleName names, ¬Requests world invocation.arguments moduleName names) ∧
      (request invocation).run world = (.error exception, after) := by
  rcases textArgument_cases invocation 0 world with ⟨first, moduleName, given, written, ran⟩ |
    ⟨exception, unnamed, failed⟩
  · unfold request
    rw [run_bind_ok ran]
    cases listing : invocation.arguments[1]? with
    | none =>
      refine Or.inr ⟨.missingArgument 1 invocation.arguments.length, world, ?_, ?_⟩
      · rintro _ _ ⟨_, _, _, -, -, same, -⟩
        cases listing.symm.trans same
      · rw [Invocation.argument, listing]
        exact run_bind_error (run_lift _) _
    | some listed =>
      have argument : (liftM (invocation.argument 1) : GuestAct Ref).run world = (.ok listed, world) := by
        rw [Invocation.argument, listing]
        exact run_lift _
      rw [run_bind_ok argument]
      rcases textItems_cases listed "import names" world with ⟨items, names, after, tuple, names', ranItems⟩ |
        ⟨exception, after, unread, failed⟩
      · obtain ⟨trace, traced⟩ := Engine.run_serviceTrace after invocation
          s!"invoke_from_import({moduleName}, {Text.bracketed (names.map Text.quoted)})"
        refine Or.inl ⟨moduleName, names, { after with trace },
          ⟨first, listed, items, given, written, listing, tuple, names'⟩, ?_⟩
        rw [run_bind_ok ranItems, run_bind_ok traced]
        rfl
      · refine Or.inr ⟨exception, after, ?_, run_bind_error failed _⟩
        rintro _ names ⟨_, other, items, -, -, same, tuple, names'⟩
        obtain rfl := Option.some.inj (listing.symm.trans same)
        exact unread items names tuple names'
  · refine Or.inr ⟨exception, world, ?_, run_bind_error failed _⟩
    rintro moduleName _ ⟨first, _, _, given, written, -⟩
    exact unnamed first moduleName given written

theorem Requests.of_same {before : World} {arguments : List Ref} {moduleName : String} {names : List String}
    (same : ∀ ref, before.get? ref = world.get? ref) :
    Requests before arguments moduleName names ↔ Requests world arguments moduleName names := by
  simp only [Requests, same]

end ObjectBridge.Registry

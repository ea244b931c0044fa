import ObjectBridge.Proofs.Tracing.Commands
import ObjectBridge.Proofs.Tracing.Opening

/-!
Tracing changes nothing else. Two sessions are opened in the same world, one configured to trace and the other not;
then the same commands are carried out in both worlds that come of it. As long as nobody asks for the globals of
tracing, all that can be told apart is the trace, and what the sessions say themselves about how they are configured.
-/

namespace ObjectBridge

open Guest (Handle)

namespace World

/-- The worlds differ in nothing but how sessions are configured to trace, the trace that was written, the binding of
the flag in the module, which is one of the truth values, and how often these are counted. -/
structure UpToTracing (module : Ref) (truths : List Handle) (first second : World) : Prop where
  plain : second.plain = first.plain
  size : second.spaces.size = first.spaces.size
  roots : ∀ id, (second.space id).roots = (first.space id).roots
  modules : ∀ id, (second.space id).modules = (first.space id).modules
  definitions : ∀ id, (second.space id).definitions = (first.space id).definitions
  live : ∀ id, (second.space id).heap.live = (first.space id).heap.live
  objects : ∀ ref : Ref, second.get? ref = first.get? ref ∨ ref = module ∧
    ∃ (name : String) (globals : Bindings Handle) (value value' : Handle), value ∈ truths ∧ value' ∈ truths ∧
      first.get? ref = some (.moduleObject { name, globals := globals.insert Registry.debugGlobal value }) ∧
      second.get? ref = some (.moduleObject { name, globals := globals.insert Registry.debugGlobal value' })
  counts : ∀ ref : Ref, (ref.space = module.space → ref.handle ∉ truths) →
    (second.space ref.space).heap.count? ref.handle = (first.space ref.space).heap.count? ref.handle

theorem Alike.upToTracing {flag : Flag} {first second : World} (alike : first.Alike flag second) :
    UpToTracing flag.ref flag.values first second where
  plain := alike.plain
  size := alike.size
  roots id := (alike.spaces id).roots
  modules id := (alike.spaces id).modules
  definitions id := (alike.spaces id).definitions
  live id := (alike.spaces id).heap.live
  objects := by
    rintro ⟨id, handle⟩
    have related := (alike.spaces id).heap.get? handle
    unfold World.get?
    generalize (first.space id).heap.get? handle = shown at related ⊢
    generalize (second.space id).heap.get? handle = shown' at related ⊢
    cases related with
    | none => exact Or.inl rfl
    | some related =>
      cases related with
      | same => exact Or.inl rfl
      | @switched name globals value value' listed listed' =>
        have here : id = flag.space := by
          by_contra apart
          simp [Flag.at, apart] at listed
        subst here
        rw [Flag.mem_values] at listed listed'
        exact Or.inr ⟨rfl, name, globals, value, value', listed, listed', rfl, rfl⟩
  counts := by
    rintro ⟨id, handle⟩ apart
    have related := (alike.spaces id).heap.cell? handle
    unfold Guest.Heap.count?
    generalize (first.space id).heap.cell? handle = cell at related ⊢
    generalize (second.space id).heap.cell? handle = cell' at related ⊢
    cases related with
    | none => rfl
    | some related =>
      rcases related.2 with same | free
      · exact congrArg some same.symm
      · have listed : handle ∈ (flag.at id).values := free
        by_cases here : id = flag.space
        · subst here
          exact absurd (Flag.mem_values.mp listed) (apart rfl)
        · simp [Flag.at, here] at listed

end World

namespace Console

open Act Engine Script

def Unasked (heard : Hearing) (depth : Nat) : List Command → World → Prop
  | [], _ => True
  | command :: rest, world =>
    perform (watched ⟨heard, true⟩ depth) command world = perform (watched ⟨heard, false⟩ depth) command world ∧
      Unasked heard depth rest (perform (watched ⟨heard, false⟩ depth) command world).2

/-- Carried out in both worlds, each of the commands has the same result, unless it tells how a session is configured,
and notes the same messages; and after each of them the worlds do not differ in anything but tracing. -/
def SameRuns (engine : Engine) (module : Ref) (truths : List Handle) : List Command → World → World → Prop
  | [], first, second => World.UpToTracing module truths first second
  | command :: rest, first, second =>
    World.UpToTracing module truths first second ∧
      (command.tells = false → (perform engine command second).1.result = (perform engine command first).1.result) ∧
      (perform engine command second).1.log = (perform engine command first).1.log ∧
      SameRuns engine module truths rest (perform engine command first).2 (perform engine command second).2

theorem unasked_of_codeless {heard : Hearing} {depth : Nat} {commands : List Command}
    (codeless : ∀ command ∈ commands, ∀ engine engine', performAction engine command = performAction engine' command)
    (world : World) : Unasked heard depth commands world := by
  induction commands generalizing world with
  | nil => exact trivial
  | cons command rest ih =>
    refine ⟨?_, ih (fun other member => codeless other (List.mem_cons_of_mem _ member)) _⟩
    rw [perform, perform, codeless command List.mem_cons_self (watched ⟨heard, true⟩ depth)]

section Runs

variable {flag : Flag} {loose : Multiset Ref} {first second : World} {command : Command} {engine : Engine}

theorem twins_of_tells (tells : command.tells = true) (twins : first.Twins flag loose second) :
    ((performAction engine command).run first).2.Twins flag loose ((performAction engine command).run second).2 := by
  have asked (name : String) (answer : Session → Answer) :
      let act : Performance Answer := do
        let session ← sessionIn name
        holding session (return answer session)
      (act.run first).2.Twins flag loose (act.run second).2 := by
    intro act
    have missed (world : World) (none : world.registerSession? name = none) :
        act.run world = (.error (.register name), world) := by
      show (sessionIn name >>= _).run world = _
      unfold sessionIn
      rw [bind_assoc, run_get_bind, none]
      rfl
    have looked (world : World) (session : Session) (some : world.registerSession? name = some session) :
        act.run world = (.ok (answer session), (world.holdSession session).dropSession session) := by
      show (sessionIn name >>= _).run world = _
      unfold sessionIn
      rw [bind_assoc, run_get_bind, some]
      rfl
    rcases twins.alike.registerSession_cases name with ⟨none, none'⟩ | ⟨session, debug, some, some'⟩
    · rw [missed first none, missed second none']
      exact twins
    · rw [looked first _ some, looked second _ some']
      exact (twins.holdSession session).dropSession session
  unfold Command.tells at tells
  split at tells
  · rename_i action acts
    unfold performAction
    rw [acts]
    cases action with
    | config => exact asked (command.place.getD "s") fun session => .config session.config
    | isTracing => exact asked (command.place.getD "s") fun session => .flag session.config.debug
    | _ => cases tells
  · cases tells

theorem twins_emptied (twins : first.Twins flag loose second) :
    World.Twins flag loose { first with log := #[], trace := #[] } { second with log := #[], trace := #[] } := by
  refine twins.move ⟨rfl, rfl, .of_same rfl rfl rfl⟩ ⟨rfl, rfl, .of_same rfl rfl rfl⟩ ?_
  show { second.plain with log := #[] } = { first.plain with log := #[] }
  rw [twins.alike.plain]

theorem twins_perform (agrees : engine.Agrees flag) (apart : command.apart = true)
    (twins : first.Twins flag loose second) :
    (perform engine command first).2.Twins flag loose (perform engine command second).2 ∧
      (command.tells = false → (perform engine command second).1.result = (perform engine command first).1.result) ∧
      (perform engine command second).1.log = (perform engine command first).1.log := by
  have emptied := twins_emptied twins
  have logs {after after' : World} (twins : after.Twins flag loose after') : after'.log.toList = after.log.toList := by
    rw [show after'.log = after.log from (congrArg World.log twins.alike.plain :)]
  cases tells : command.tells with
  | true => exact ⟨twins_of_tells tells emptied, nofun, logs (twins_of_tells tells emptied)⟩
  | false =>
    obtain ⟨result, after, after', ran, ran', ended⟩ :=
      agrees_performAction agrees command apart tells _ _ loose (by rwa [zero_add]) (List.forall_mem_nil _)
    rw [left_zero, zero_add] at ended
    refine ⟨?_, fun _ => ?_, ?_⟩ <;> simp only [perform, ran, ran']
    · exact ended
    · exact logs ended

theorem sameRuns_of_twins {heard : Hearing} {depth : Nat} {commands : List Command}
    (apart : ∀ command ∈ commands, command.apart = true) (unasked : Unasked heard depth commands first)
    (unasked' : Unasked heard depth commands second) (twins : first.Twins flag loose second) :
    SameRuns (watched ⟨heard, false⟩ depth) flag.ref flag.values commands first second := by
  induction commands generalizing first second with
  | nil => exact twins.alike.upToTracing
  | cons command rest ih =>
    obtain ⟨same, later⟩ := unasked
    obtain ⟨same', later'⟩ := unasked'
    -- Both runs are those of the wary engine, which come to the same.
    obtain ⟨ended, results, logs⟩ := twins_perform (agrees_watched depth) (apart command List.mem_cons_self) twins
    rw [same, same'] at ended results logs
    exact ⟨twins.alike.upToTracing, results, logs,
      ih (fun other member => apart other (List.mem_cons_of_mem _ member)) later later' ended⟩

end Runs

/-- Whether a session is to trace or not changes nothing else: opening it succeeds or fails alike, and whatever is done
then in sessions and with Host interpreters comes to the same, with the same messages to the Host and the same objects,
as long as nobody asks for the globals of tracing. Only what the sessions tell of how they are configured differs. Where
nothing is heard the engine is the usual one (`Engine.watched_unseen`). -/
theorem tracing_changes_nothing_else (heard : Hearing) (depth : Nat) {world : World} {loose : Multiset Ref}
    {host : Host.HostId} {config : Bridge.Config} (name : String) (exact : world.Exact loose)
    (known : host.index < world.hosts.size)
    (filed : ∀ definition, world.catalogue.get? config.moduleName = some definition →
      definition.name = config.moduleName)
    (unasked : ((watched ⟨heard, true⟩ (depth + 1)).openSession host { config with debug := false }).run world =
      ((watched ⟨heard, false⟩ (depth + 1)).openSession host { config with debug := false }).run world) :
    let engine := watched ⟨heard, false⟩ (depth + 1)
    let opening (debug : Bool) := (engine.openSession host { config with debug }).run world
    (∃ error after, opening false = (.error error, after) ∧ opening true = (.error error, after)) ∨
    ∃ session after after' module roots,
      opening false = (.ok session, after) ∧ opening true = (.ok (session.debugging true), after') ∧
      after.sessionModule? session = some module ∧ (after.space module.space).roots = some roots ∧
      let truths := [roots.trueValue, roots.falseValue]
      World.UpToTracing module truths after after' ∧
      ∀ commands : List Command, (∀ command ∈ commands, command.apart = true) →
        let first := after.store name (.session session)
        let second := after'.store name (.session (session.debugging true))
        Unasked heard (depth + 1) commands first → Unasked heard (depth + 1) commands second →
          SameRuns engine module truths commands first second := by
  intro engine opening
  rcases opens_alike depth exact known filed unasked with failed |
    ⟨flag, session, after, after', roots, opened, opened', twins, module, rooted, values⟩
  · exact Or.inl failed
  · refine Or.inr ⟨session, after, after', flag.ref, roots, opened, opened', module, rooted, ?_⟩
    intro truths
    have listed : flag.values = truths := values
    rw [← listed]
    refine ⟨twins.alike.upToTracing, ?_⟩
    intro commands apart first second unasked unasked'
    have stored : first.Twins flag loose second := by
      have same : (Register.session (session.debugging true)).plain = (Register.session session).plain := rfl
      exact World.Twins.store name same (by simpa [Register.ref?] using twins)
    exact sameRuns_of_twins apart unasked unasked' stored

def withInterpreter : World :=
  after (.ofDepth 1) [{ action := .host .objectClass, place := none, host := "h", result := none, keyed := false }]
    .empty

def inSession (action : SessionAction) (result : Option String) : Command :=
  { action := .session action, place := some "s", host := "h", result, keyed := false }

/-- A text is passed to the Guest and back in a session that traces and in one that does not. -/
theorem tracing_changes_nothing_else_in_conversions :
    let heard : Hearing := fun _ _ name _ => [.note (.text name)]
    let engine := watched ⟨heard, false⟩ 2
    let opening (debug : Bool) := (engine.openSession { index := 0 } (.ofModule "m" debug)).run withInterpreter
    let commands := [inSession (.toGuest (.text "a")) (some "a"), inSession (.toHost (.register "a")) none]
    ∃ session after after' module truths,
      opening false = (.ok session, after) ∧ opening true = (.ok (session.debugging true), after') ∧
      SameRuns engine module truths commands (after.store "s" (.session session))
        (after'.store "s" (.session (session.debugging true))) := by
  intro heard engine opening commands
  have exact : withInterpreter.Exact 0 := exact_after 1 _
  have known : ({ index := 0 } : Host.HostId).index < withInterpreter.hosts.size := by decide +kernel
  let config : Bridge.Config := .ofModule "m" false
  have unlisted : withInterpreter.catalogue.get? config.moduleName = none := rfl
  have filed (definition : Definition) (found : withInterpreter.catalogue.get? config.moduleName = some definition) :
      definition.name = config.moduleName := by
    cases unlisted.symm.trans found
  have plain : (definitionFor withInterpreter config).initializers = [] := by
    rw [definitionFor, unlisted]
    rfl
  have opens : (opening false).1.isOk = true := by decide +kernel
  have codeless (world : World) : Unasked heard 2 commands world := by
    refine unasked_of_codeless ?_ world
    simp only [commands, List.forall_mem_cons]
    exact ⟨fun _ _ => rfl, fun _ _ => rfl, List.forall_mem_nil _⟩
  have unasked (wary : Bool) : opening false =
      ((watched ⟨heard, wary⟩ 2).openSession { index := 0 } { config with debug := false }).run withInterpreter :=
    run_openSession_of_codeless _ _ exact filed plain rfl
  have outcome := tracing_changes_nothing_else heard 1 "s" exact known filed ((unasked true).symm.trans (unasked false))
  rcases outcome with ⟨error, after, failed, -⟩ | ⟨session, after, after', module, roots, quiet, loud, -, -, -, same⟩
  · rw [show opening false = (.error error, after) from failed] at opens
    cases opens
  · exact ⟨session, after, after', module, _, quiet, loud,
      same commands (by decide) (codeless _) (codeless _)⟩

def toldBy (engine : Engine) (asking : Command) : Except Bridge.Error Session × World → Option Bool
  | (.ok session, after) =>
    match (perform engine asking (after.store "s" (.session session))).1.result with
    | .ok (.flag value) => some value
    | _ => none
  | _ => none

/-- What a session tells of how it is configured is not the same. -/
theorem sessions_tell_of_tracing :
    let heard : Hearing := fun _ _ name _ => [.note (.text name)]
    let engine := watched ⟨heard, false⟩ 2
    let opening (debug : Bool) := (engine.openSession { index := 0 } (.ofModule "m" debug)).run withInterpreter
    let asking := inSession .isTracing none
    ∃ session session' after after', opening false = (.ok session, after) ∧ opening true = (.ok session', after') ∧
      let first := after.store "s" (.session session)
      let second := after'.store "s" (.session session')
      asking.apart = true ∧ Unasked heard 2 [asking] first ∧ Unasked heard 2 [asking] second ∧
        (perform engine asking second).1.result ≠ (perform engine asking first).1.result := by
  intro heard engine opening asking
  have told (debug : Bool) : toldBy engine asking (opening debug) = some debug := by
    cases debug <;> decide +kernel
  have opened (debug : Bool) : ∃ session after, opening debug = (.ok session, after) := by
    have told := told debug
    generalize opening debug = ran at told
    obtain ⟨error | session, after⟩ := ran
    · cases told
    · exact ⟨session, after, rfl⟩
  have codeless (world : World) : Unasked heard 2 [asking] world := by
    refine unasked_of_codeless ?_ world
    rw [List.forall_mem_singleton]
    exact fun _ _ => rfl
  obtain ⟨session, after, quiet⟩ := opened false
  obtain ⟨session', after', loud⟩ := opened true
  refine ⟨session, session', after, after', quiet, loud, rfl, codeless _, codeless _, fun same => ?_⟩
  have toldQuiet := told false
  have toldLoud := told true
  rw [quiet, toldBy] at toldQuiet
  rw [loud, toldBy] at toldLoud
  simp only [same] at toldLoud
  cases toldLoud.symm.trans toldQuiet

end Console

end ObjectBridge

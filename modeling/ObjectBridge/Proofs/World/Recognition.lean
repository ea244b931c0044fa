import ObjectBridge.Proofs.Host.Registration
import ObjectBridge.Proofs.World.ProxyMessages

/-!
Recognition of instances. Whether a value is an instance of the class of a name is told by the names in the chain of
its own class. So nothing that is registered later changes it, and a proxy is one for the session that made it
whatever becomes of the class of its proxies.
-/

namespace ObjectBridge

open World (CoversHolders CoversSessions CoversProcess FreeOfSpaces)

namespace Host.Interpreter

variable {μ ν : Type} {first host later : Interpreter μ} {families more : List (Class μ)}

theorem isInstanceOfNamed_of_history (named : host.Named) (history : host.History more later) {value : Value μ ν}
    {name : String} (instanceOf : host.isInstanceOfNamed value name = true) : later.isInstanceOfNamed value name = true := by
  rw [named.isInstanceOfNamed_iff] at instanceOf
  rw [(history.named named).isInstanceOfNamed_iff, history.classOf_eq, history.findClass_isSome]
  exact ⟨Or.inr instanceOf.1, instanceOf.2⟩

end Host.Interpreter

namespace World

/-- The interpreters have the classes that they had, and those that were registered meanwhile. -/
def Enlists (before after : World) : Prop :=
  ∀ id, ∃ families later, (before.host id).History families later ∧ later.classes = (after.host id).classes

theorem Enlists.of_classes {before after : World} (same : ∀ id, (after.host id).classes = (before.host id).classes) :
    Enlists before after :=
  fun id => ⟨[], _, .start, (same id).symm⟩

theorem Enlists.of_hosts {before after : World} (same : after.hosts = before.hosts) : Enlists before after :=
  .of_classes fun id => by rw [host, host, same]

theorem Enlists.trans {first second third : World} (one : Enlists first second) (two : Enlists second third) :
    Enlists first third := by
  intro id
  obtain ⟨families, middle, history, same⟩ := one id
  obtain ⟨more, last, history', same'⟩ := two id
  obtain ⟨late, history'', same''⟩ := history'.of_classes same
  exact ⟨more ++ families, late, history.trans history'', same''.trans same'⟩

theorem host_of_unknown {world : World} {id : Host.HostId} (unknown : ¬id.index < world.hosts.size) :
    world.host id = .start id 0 := by
  rw [host, Array.getElem?_eq_none (Nat.le_of_not_lt unknown), Option.getD_none]

theorem enlists_interpreter (world : World) (name : String) : Enlists world (world.interpreter name).2 := by
  unfold interpreter
  split
  · exact .of_hosts rfl
  · intro id
    by_cases fresh : id.index = world.hosts.size
    · -- A name that was never given stands for a new interpreter.
      have started : world.host id = .start id 0 := host_of_unknown fresh.not_lt
      obtain ⟨families, later, history, same⟩ :=
        Host.Interpreter.exists_history_start id { index := world.hosts.size } 0 world.nextClass
      exact ⟨families, later, started ▸ history, by simp [same, host, fresh]⟩
    · exact ⟨[], _, .start, by simp [host, Array.getElem?_push, fresh]⟩

theorem enlists_register (world : World) (id : Host.HostId) (family : HostClass) :
    Enlists world (world.setHost id ((world.host id).register family)) := by
  intro other
  by_cases known : other.index < world.hosts.size
  · rw [host_setHost known]
    split
    · rename_i same
      exact ⟨[family], _, Host.Interpreter.History.start.register family, by rw [same]⟩
    · exact ⟨[], _, .start, rfl⟩
  · have unknown : ¬other.index < (world.setHost id ((world.host id).register family)).hosts.size := by
      simpa [setHost] using known
    rw [host_of_unknown known, host_of_unknown unknown]
    exact ⟨[], _, .start, rfl⟩

instance : FreeOfSpaces Enlists where
  refl _ := .of_hosts rfl
  trans _ _ _ := .trans
  of_kept kept := .of_classes kept.classes

instance : CoversSessions Enlists where
  hold _ := .of_hosts rfl
  drop world session := .of_hosts (world.hosts_dropSession session)
  close world session := .of_hosts (world.hosts_dropModule session)
  enter _ _ _ := .of_hosts rfl
  record _ := .of_hosts rfl
  clear _ _ := .of_hosts rfl
  forget _ _ := .of_hosts rfl
  start _ := .of_hosts rfl
  interpreter := enlists_interpreter
  register := enlists_register

instance : CoversProcess Enlists :=
  Bridge.coversProcess_of_place fun _ => .of_hosts rfl

end World

namespace Bridge

open Act Guest
open Host.Interpreter (History builtinNames)

variable {world : World} {session : Session}

theorem run_toGuestAt_of_instance {content : Host.Object Method Payload} {reference : OpaqueReference}
    (carried : opaqueReference? (.object content) = some reference)
    (recognized : (world.host session.host).isInstanceOfNamed (Host.Value.object content) session.proxyClass.name = true)
    (depth : Nat) :
    (toGuestAt session depth (.object content)).run world =
      (traceLine session.config depth s!"to_guest {content.family.name}" >>= fun _ : Unit =>
        dereference session reference : BridgeAct Ref).run world := by
  unfold toGuestAt
  obtain ⟨trace, ran⟩ := run_traceLine (ε := Error) session.config depth s!"to_guest {content.family.name}" world
  have same : (traceLine session.config depth s!"to_guest {(Host.Value.object content : HostValue).className}" : BridgeAct Unit).run
    world = (.ok (), { world with trace }) := ran
  rw [run_bind_ok ran, run_bind_ok same, run_get_bind]
  extract_lets host
  have there : host.isInstanceOfNamed (Host.Value.object content) session.proxyClass.name = true := recognized
  simp only [carried, there, if_true]

theorem isInstanceOfNamed_of_enlists {made later : World} {content : Host.Object Method Payload} {name : String}
    (family : content.family = session.proxyClass) (prepared : made.Prepared) (records : made.Records session)
    (enlists : made.Enlists later) (same : Text.equalIgnoringAsciiCase session.proxyClass.name name) :
    (later.host session.host).isInstanceOfNamed (Host.Value.object content) name = true := by
  obtain ⟨families, last, history, classes⟩ := enlists session.host
  have named : (later.host session.host).Named := by
    intro key family found
    exact history.named (prepared.named_host session.host) key family (by rwa [classes])
  have known : ((later.host session.host).findClass name).isSome := by
    obtain ⟨state, recorded, rfl⟩ := records
    have shown := (prepared.proxied _ state recorded).2
    have kept := (history.findClass_isSome state.session.proxyClass.name).mpr (Or.inr shown)
    rw [Text.equalIgnoringAsciiCase, beq_iff_eq] at same
    rwa [Host.Interpreter.findClass, classes, same] at kept
  refine (named.isInstanceOfNamed_iff _ name).mpr ⟨known, content.family.own, ?_, ?_⟩
  · simp [Host.Interpreter.classOf, Host.Class.chain]
  · rw [family]
    exact same

/-- Whether a value is an instance of the class of a name is told by the names in the chain of its class, if the name
is known, and so no registration changes it. Proxies are converted by following where they lead, whatever becomes of
their class. -/
theorem instances_stay_recognized :
    (∀ (maker : Host.HostId) (first : Nat) (families : List HostClass) (host : Host.Interpreter Method),
      (Host.Interpreter.start maker first).History families host → ∀ (value : HostValue) (name : String),
        (host.isInstanceOfNamed value name = true ↔
          (∃ known ∈ families.map (·.name) ++ builtinNames, Text.equalIgnoringAsciiCase known name) ∧
            ∃ level ∈ (host.classOf value).chain, Text.equalIgnoringAsciiCase level.name name) ∧
        (∀ other, Text.equalIgnoringAsciiCase other name →
          host.isInstanceOfNamed value other = host.isInstanceOfNamed value name) ∧
        ∀ more later, host.History more later → later.classOf value = host.classOf value ∧
          (host.isInstanceOfNamed value name = true → later.isInstanceOfNamed value name = true)) ∧
    (∀ (engine : Engine) (session : Session) (value : Ref) (proxy : HostValue) (before made : World)
        (held : Multiset Ref), (engine.makeProxy session value).run before = (.ok proxy, made) → made.Reached held →
      made.Records session → ∃ content reference, proxy = .object content ∧ opaqueReference? proxy = some reference ∧
        ∀ (viewer : Session) (later : World) (depth : Nat), made.Enlists later → viewer.host = session.host →
          Text.equalIgnoringAsciiCase session.proxyClass.name viewer.proxyClass.name →
            (toGuestAt viewer depth proxy).run later =
              (traceLine viewer.config depth s!"to_guest {content.family.name}" >>= fun _ : Unit =>
                dereference viewer reference : BridgeAct Ref).run later) ∧
    ∀ (depth : Nat) (commands : List Console.Command) (world : World),
      world.Enlists (Console.after (.ofDepth depth) commands world) := by
  refine ⟨fun maker first families host history value name => ?_,
    fun engine session value proxy before made held makes reached records => ?_,
    fun depth commands world => Console.covers_after (Engine.respects_ofDepth depth) commands world⟩
  · have named : host.Named := history.named (Host.Interpreter.named_start maker first)
    refine ⟨?_, fun other same => ?_, fun more later since => ⟨since.classOf_eq value, ?_⟩⟩
    · rw [named.isInstanceOfNamed_iff, history.findClass_isSome, Host.Interpreter.findClass_start_isSome]
      simp [or_and_right, exists_or]
    · rw [Text.equalIgnoringAsciiCase, beq_iff_eq] at same
      rw [Bool.eq_iff_iff, named.isInstanceOfNamed_iff, named.isInstanceOfNamed_iff]
      simp only [Host.Interpreter.findClass, Text.equalIgnoringAsciiCase, same]
    · exact Host.Interpreter.isInstanceOfNamed_of_history named since
  · obtain ⟨key, -, -, ⟨content, rfl, family, carried⟩, -⟩ := Engine.proxy_of_run makes
    refine ⟨content, _, rfl, carried, fun viewer later depth enlists host same => ?_⟩
    refine run_toGuestAt_of_instance carried ?_ depth
    rw [host]
    exact isInstanceOfNamed_of_enlists family reached.exact.prepared records enlists same

/-- A dog is an animal and a string an object when other classes have taken these names, and a proxy is one when its
class was replaced by one that has no methods. -/
theorem instances_stay_recognized_replaced :
    let animal : HostClass := .build 4 "Animal" none []
    let dog : HostClass := .build 5 "Dog" (some animal) []
    let host := ((Host.Interpreter.start { index := 0 } 0).register animal).register dog
    let rex : HostValue := .object { maker := { index := 0 }, number := 1, family := dog, payload := none }
    let later := (host.register (.build 6 "ANIMAL" none [])).register (.build 7 "OBJECT" none [])
    later.isInstanceOfNamed rex "aNIMAL" = true ∧ later.isInstanceOfNamed (.text "x" : HostValue) "object" = true ∧
      ∃ session value before content reference made,
        ((Engine.ofDepth 1).makeProxy session value).run before = (.ok (.object content), made) ∧
        made.Reached {value} ∧ made.Records session ∧ opaqueReference? (.object content) = some reference ∧
          let replaced := made.setHost session.host ((made.host session.host).register (.build 8 "PROXY" none []))
          (toGuestAt session 0 (.object content)).run replaced =
            (traceLine session.config 0 s!"to_guest {content.family.name}" >>= fun _ : Unit =>
              dereference session reference : BridgeAct Ref).run replaced := by
  intro animal dog host rex later
  have history : (Host.Interpreter.start { index := 0 } 0).History [dog, animal] host :=
    (Host.Interpreter.History.start.register animal).register dog
  have since : host.History [.build 7 "OBJECT" none [], .build 6 "ANIMAL" none []] later :=
    (Host.Interpreter.History.start.register _).register _
  obtain ⟨tests, converts, -⟩ := instances_stay_recognized
  have survives (value : HostValue) (name : String) := (tests _ _ _ host history value name).2.2 _ later since
  refine ⟨(survives rex "aNIMAL").2 (by decide +kernel), (survives (.text "x") "object").2 (by decide +kernel), ?_⟩
  let start := Console.after (.ofDepth 1)
    [{ action := .host .classCount, place := none, host := "", result := none, keyed := false }] .empty
  let config : Config := { moduleName := "m", debug := false, proxyClass := "Proxy" }
  let make (space : SpaceId) : GuestAct Ref := ownedBy space (Guest.Space.newText "x")
  obtain ⟨known, opens⟩ : (0 : Nat) < start.hosts.size ∧
      ((((Engine.ofDepth 1).openWithProxy { index := 0 } config make).run start).1.toOption.any fun answer =>
        ((((Engine.ofDepth 1).openWithProxy { index := 0 } config make).run start).2.aliveSession? answer.1.id).isSome) =
          true := by
    decide +kernel
  have reached : start.Reached 0 := Console.reached_after 1 _
  clear_value start
  rcases ran : ((Engine.ofDepth 1).openWithProxy { index := 0 } config make).run start with
    ⟨error | ⟨session, value, proxy⟩, made⟩
  all_goals rw [ran] at opens
  · cases opens
  · obtain ⟨opened, before, -, ranProxy, reachedMade, alive⟩ := Engine.reached_openWithProxy reached known
      (fun _ => .ownedBy (Guest.Space.balanced_newText .lasting "x")) (fun _ => .ownedBy _ _) ran opens
    obtain ⟨state, recorded, -, same⟩ := World.aliveSession?_eq_some.mp alive
    have records : made.Records session := ⟨state, recorded, same⟩
    obtain ⟨content, reference, rfl, carried, recognized⟩ :=
      converts _ session value proxy before made _ ranProxy reachedMade records
    exact ⟨session, value, before, content, reference, made, ranProxy, reachedMade, records, carried,
      recognized session _ 0 (World.enlists_register _ _ _) rfl (by simp [Text.equalIgnoringAsciiCase])⟩

end Bridge

end ObjectBridge

import ObjectBridge.Proofs.World.Commands
import ObjectBridge.Proofs.World.Storage

/-!
Identity of proxies. A proxy leads to the object that it was made for as long as that object is there, and
nowhere else at any time: its slot may be vacated and occupied again, but the generation of the slot tells.
The key of a proxy tells its object from all others that the session ever has proxies for.
-/

namespace ObjectBridge

open Guest (Extent Handle)

namespace World

def Records (world : World) (session : Session) : Prop :=
  ∃ state, world.session? session.id = some state ∧ state.session = session

def Keeps (world : World) (session : Session) : Prop :=
  ∃ module globals function, world.Open session module globals ∧ world.Offers module globals .storeObject function

/-- The one world with its loose references comes from the other, and meanwhile the slot of the space was
vacated so many times. -/
structure Later (id : SpaceId) (slot times : Nat) (before after : World × Multiset Ref) : Prop where
  leads : Leads .lasting before after
  course : Guest.Space.Course slot times (before.1.space id, heldIn id (before.2 + before.1.outside))
    (after.1.space id, heldIn id (after.2 + after.1.outside))

section Records

variable {world after : World} {session viewer : Session}

theorem Open.records {module : Ref} {globals : Bindings Handle} (opened : world.Open session module globals) :
    world.Records session := by
  obtain ⟨state, found, same, -⟩ := opened.recorded
  exact ⟨state, found, same⟩

theorem Records.of_steady (records : world.Records session) (steady : Steady world after) :
    after.Records session := by
  obtain ⟨state, found, same⟩ := records
  obtain ⟨state', found', same', -⟩ := steady.sessions session.id state found
  exact ⟨state', found', same'.trans same⟩

theorem Records.eq_of_id (records : world.Records session) (records' : world.Records viewer)
    (same : viewer.id = session.id) : viewer = session := by
  obtain ⟨state, found, rfl⟩ := records
  obtain ⟨state', found', rfl⟩ := records'
  rw [same, found] at found'
  rw [Option.some.inj found']

theorem Records.alive (records : world.Records session) (alive : (world.aliveSession? session.id).isSome) :
    world.aliveSession? session.id = some session := by
  obtain ⟨state, found, same⟩ := records
  simp only [aliveSession?, found] at alive ⊢
  split at alive
  · rename_i held
    rw [if_pos held, same]
  · cases alive

theorem Prepared.isInstance (prepared : world.Prepared) (records : world.Records session)
    {content : Host.Object Method Payload} (family : content.family = session.proxyClass) :
    (world.host session.host).isInstanceOfNamed (Host.Value.object content) session.proxyClass.name := by
  obtain ⟨state, found, rfl⟩ := records
  obtain ⟨-, shown⟩ := prepared.proxied _ state found
  obtain ⟨registered, shown⟩ := Option.isSome_iff_exists.mp shown
  have named := prepared.named_host state.session.host _ registered shown
  unfold Host.Interpreter.isInstanceOfNamed
  rw [shown]
  refine List.any_eq_true.mpr ⟨state.session.proxyClass.own, ?_, ?_⟩
  · simp [Host.Interpreter.classOf, family, Host.Class.chain]
  · simpa [Text.equalIgnoringAsciiCase, Host.Class.name] using named.symm

end Records

section Later

variable {id : SpaceId} {slot times : Nat} {before after : World × Multiset Ref} {value : Ref}

theorem Later.refl (id : SpaceId) (slot : Nat) (state : World × Multiset Ref) : Later id slot 0 state state :=
  ⟨.refl _ _, .refl _⟩

theorem Leads.later_of_held {before after : World} {owned owned' frame : Multiset Ref}
    (leads : Leads .lasting (before, owned) (after, owned')) (exact : before.Exact (owned + frame))
    (held : value ∈ frame) (started : (after.space value.space).roots.isSome) :
    Later value.space value.handle.index 0 (before, owned + frame) (after, owned' + frame) := by
  have known : before.Knows frame := (knows_add.mp (knows_add.mp exact.known).1).2
  have here := known value held
  have path := leads.paths value.space (here.trans_le leads.size)
  rw [origin, if_pos here] at path
  have whole := exact.spaces value.space
  rw [add_right_comm, heldIn_add] at whole
  have course := Guest.Space.Path.course_of_held path whole (mem_heldIn held) started
  rw [← heldIn_add, ← heldIn_add, add_right_comm owned, add_right_comm owned'] at course
  exact ⟨leads.frame known, course⟩

theorem Later.exact (later : Later id slot times before after) (exact : before.1.Exact before.2) :
    after.1.Exact after.2 :=
  later.leads.exact_alone exact

theorem Later.exists_cell (later : Later value.space slot times before after) (live : before.1.Live value)
    (started : (after.1.space value.space).roots.isSome) :
    ∃ cell, (before.1.space value.space).heap.cell? value.handle = some cell := by
  refine live.2 (Option.isSome_iff_ne_none.mpr fun ended => ?_)
  rw [Guest.Space.Path.roots_eq_none later.course.path ended] at started
  cases started

theorem Later.generation (later : Later value.space value.handle.index times before after)
    (live : before.1.Live value) (started : (after.1.space value.space).roots.isSome) :
    (after.1.space value.space).heap.generation? value.handle.index =
      some (value.handle.generation + UInt32.ofNat times) := by
  obtain ⟨cell, here⟩ := later.exists_cell live started
  exact later.course.generation started (Guest.Heap.generation?_of_cell here)

theorem Later.exists_object (later : Later value.space value.handle.index 0 before after)
    (exact : before.1.Exact before.2) (live : before.1.Live value)
    (started : (after.1.space value.space).roots.isSome) : ∃ object, after.1.get? value = some object := by
  obtain ⟨cell, here⟩ := later.exists_cell live started
  have whole : (before.1.space value.space).Exact (heldIn value.space (before.2 + before.1.outside) + 0) := by
    rw [add_zero]
    exact exact.spaces value.space
  obtain ⟨object, found, -⟩ : ∃ object, (after.1.space value.space).heap.get? value.handle = some object ∧ True :=
    later.course.stays (fun _ _ _ _ => trivial) whole started ⟨cell.object, Guest.Heap.get?_of_cell here, trivial⟩
  exact ⟨object, found⟩

end Later

end World

namespace Bridge

open Act

inductive Place
  | here
  | within (before : List HostValue) (inner : Place) (after : List HostValue)

namespace Place

def fill (value : HostValue) : Place → HostValue
  | here => value
  | within before inner after => .array (before ++ inner.fill value :: after)

def Converts (world : World) (session : Session) : Place → Prop
  | here => True
  | within before inner after =>
    (∀ item ∈ before ++ after, Convertible world session item) ∧ inner.Converts world session

def item? (world : World) (space : SpaceId) : Place → Handle → Option Handle
  | here, handle => some handle
  | within before inner _, handle => do
    inner.item? world space (← (← (world.space space).tuple? handle)[before.length]?)

variable {world : World} {session : Session} {value : HostValue}

theorem convertible_fill {place : Place} (converts : place.Converts world session)
    (convertible : Convertible world session value) : Convertible world session (place.fill value) := by
  induction place with
  | here => exact convertible
  | within before inner after ih =>
    obtain ⟨others, inside⟩ := converts
    refine .array fun item member => ?_
    simp only [List.mem_append, List.mem_cons] at member others
    rcases member with listed | rfl | listed
    · exact others item (Or.inl listed)
    · exact ih inside
    · exact others item (Or.inr listed)

theorem item_of_denotes {place : Place} {handle : Handle}
    (denotes : Denotes world session (place.fill value) handle) :
    ∃ item, place.item? world session.space handle = some item ∧ Denotes world session value item := by
  induction place generalizing handle with
  | here => exact ⟨handle, rfl, denotes⟩
  | within before inner after ih =>
    obtain ⟨handles, found, lengths, each⟩ : ∃ handles,
        world.get? { space := session.space, handle } = some (.tuple handles) ∧
          (before ++ inner.fill value :: after).length = handles.length ∧
            ∀ (index : Nat) item handle, (before ++ inner.fill value :: after)[index]? = some item →
              handles[index]? = some handle → Denotes world session item handle := by
      cases denotes
      exact ⟨_, ‹_›, ‹_›, ‹_›⟩
    have below : before.length < handles.length := by
      rw [← lengths]
      simp
    obtain ⟨item, shown, inside⟩ := ih (each before.length _ handles[before.length] (by simp)
      (List.getElem?_eq_getElem below))
    refine ⟨item, ?_, inside⟩
    have tuple : (world.space session.space).tuple? handle = some handles := by
      unfold World.get? at found
      simp [Guest.Space.tuple?, found]
    simp [item?, tuple, List.getElem?_eq_getElem below, shown]

end Place

/-- What it takes for a session to see the object of a proxy: it is the session of the proxy and can still be
used, its space is not finalized, and the object is still there, since its slot was not vacated meanwhile. -/
structure Sees (world : World) (session viewer : Session) (times : Nat) : Prop where
  same : viewer = session
  alive : (world.aliveSession? session.id).isSome
  initialized : (world.space session.space).isInitialized
  unvacated : times = 0

def key? (proxy : HostValue) : Option String :=
  (opaqueReference? proxy).map (·.key)

end Bridge

namespace Registry

open Act

variable {world after : World} {frame : Multiset Ref} {invocation : Invocation} {value issued : Ref}

theorem text_of_keep (exact : world.Exact frame) (ran : (keep invocation value).run world = (.ok issued, after)) :
    after.get? issued = some (.str (keyOf value)) ∧ after.Exact ({issued} + frame) := by
  have balanced : Balanced .lasting [] 0 (keep invocation value) ({·}) := balanced_keep invocation value
  refine ⟨?_, (balanced.leads_ok (by rwa [zero_add]) ran).exact (by rwa [zero_add])⟩
  unfold keep at ran
  obtain ⟨registry, looked, ranRegistry, ran⟩ := run_bind_eq_ok.mp ran
  have balancedRegistry : Balanced .lasting [] 0 (registryOf invocation) ({·}) := balanced_registryOf invocation
  have exactLooked := (balancedRegistry.leads_ok (by rwa [zero_add]) ranRegistry).exact (by rwa [zero_add])
  obtain ⟨_, set, ranSet, ran⟩ := run_bind_eq_ok.mp ran
  have balancedSet : Balanced .lasting [] {registry} (lending [registry]
      (onSpace invocation.space (Guest.Space.dictSet registry.handle (keyOf value) value.handle))) fun _ => 0 :=
    Balanced.lending (Balanced.onSpace (Guest.Space.balanced_dictSet _ _ _)) rfl
  have exactSet := (balancedSet.leads_ok exactLooked ranSet).exact exactLooked
  obtain ⟨_, traced, ranTrace, ran⟩ := run_bind_eq_ok.mp ran
  have balancedTrace : Balanced .lasting [] 0 (traceLine invocation s!"store_object -> {keyOf value}") fun _ => 0 :=
    balanced_traceLine invocation _
  have exactTraced := (balancedTrace.leads_ok exactSet ranTrace).exact exactSet
  rw [zero_add] at exactTraced
  have same : (Guest.Space.newText (keyOf value)).run (traced.space invocation.space) =
      (Guest.Space.allocate (.str (keyOf value))).run ((traced.space invocation.space).retainAll []) := rfl
  exact (Bridge.made_of_run exactTraced same ran).2.1

end Registry

namespace Engine

open Act Bridge

variable {world after : World} {frame : Multiset Ref} {session : Session} {value : Ref} {proxy : HostValue}

theorem proxy_of_run {engine : Engine} (ran : (engine.makeProxy session value).run world = (.ok proxy, after)) :
    ∃ key issued between, ProxyFor session value key proxy ∧
      (engine.registryCall session "store_object" [value]).run world = (.ok issued, between) ∧
        between.get? issued = some (.str key) := by
  obtain ⟨issued, between, ranIssued, ran⟩ := run_bind_eq_ok.mp ran
  obtain ⟨wrapped, ran, -⟩ := run_lending_eq_ok.mp ran
  obtain ⟨text, read, ranText, ran⟩ := run_bind_eq_ok.mp ran
  obtain ⟨rfl, rfl⟩ : (between.space issued.space).text? issued.handle = text ∧ between = read := by
    cases ranText
    exact ⟨rfl, rfl⟩
  split at ran
  · rw [run_get_bind] at ran
    cases ran
  · rename_i key shown
    obtain ⟨_, traced, ranTrace, ran⟩ := run_bind_eq_ok.mp ran
    cases ran
    refine ⟨key, issued, between, ⟨_, rfl, rfl, rfl⟩, ranIssued, ?_⟩
    unfold Guest.Space.text? at shown
    split at shown
    · rename_i text found
      rw [World.get?, found, Option.some.inj shown]
    · cases shown

theorem key_of_run {engine : Engine} {module function : Ref} {globals : Bindings Handle} (exact : world.Exact frame)
    (opened : world.Open session module globals) (offers : world.Offers module globals .storeObject function)
    (live : world.Live value) (ran : (engine.next.makeProxy session value).run world = (.ok proxy, after)) :
    key? proxy = some (Registry.keyOf value) := by
  obtain ⟨key, issued, between, ⟨_, rfl, -, carried⟩, ranIssued, found⟩ := proxy_of_run ran
  let invocation : Invocation :=
    { space := session.space, bound? := some module, arguments := [value], keywords := [] }
  obtain ⟨result, served, ranServed⟩ : ∃ result served, (Registry.serve engine .storeObject invocation).run
      (world.retainAll (heldBy module function [value])) = (result, served) := ⟨_, _, rfl⟩
  obtain ⟨answered, rfl⟩ := Prod.mk.inj
    ((run_registryCall engine opened offers exact [value] ranServed).symm.trans ranIssued)
  have ranKeep : (Registry.keep invocation value).run (world.retainAll (heldBy module function [value])) =
      (.ok issued, served) := by
    obtain rfl : result = .ok issued := by
      rcases result with exception | ref
      · cases answered
      · rw [Except.ok.inj answered]
    rwa [run_serve_storeObject engine rfl] at ranServed
  have lives : ∀ ref ∈ [value], world.Live ref := by simpa using live
  have taken := leads_heldBy .temporary opened offers exact lives
  obtain ⟨written, exactServed⟩ := Registry.text_of_keep (taken.exact (by rwa [zero_add])) ranKeep
  -- What is given back after the call does not include the text.
  rw [← coe_givenBack, add_left_comm, ← add_zero (givenBack module function [value] : Multiset Ref)] at exactServed
  have kept := (World.leads_releaseAll .temporary exactServed).unchanged exactServed
    (World.anchored_of_mem (by simp)) written
  rw [found] at kept
  rw [key?, carried, Option.map_some]
  exact congrArg some (Guest.Object.str.inj (Option.some.inj kept))

theorem keyOf_inj {value other : Ref} (small : value.handle.index < 2 ^ 32) (small' : other.handle.index < 2 ^ 32) :
    Registry.keyOf value = Registry.keyOf other ↔ value.handle = other.handle := by
  refine ⟨fun same => ?_, fun same => by rw [Registry.keyOf, same]; rfl⟩
  -- The number can be read back from its digits.
  have ids : value.handle.id = other.handle.id := by
    have digits := congrArg (Nat.ofDigitChars 10 ·.toList 0) same
    simpa only [Registry.keyOf, Nat.toString_eq_repr, Nat.toList_repr,
      Nat.ofDigitChars_toDigits (by decide : 1 < 10) (by decide : 10 ≤ 10)] using digits
  obtain ⟨_, index, generation⟩ := value
  obtain ⟨_, index', generation'⟩ := other
  simp only [Handle.id, UInt32.size] at ids small small'
  obtain ⟨numbers, rfl⟩ : generation.toNat = generation'.toNat ∧ index = index' := by omega
  rw [UInt32.toNat_inj.mp numbers]

section Identity

variable {engine : Engine} {before made later : World} {held held' : Multiset Ref} {session viewer : Session}
  {times : Nat}

/-- Whatever a session makes of a proxy, it has in the place of the proxy the object that the proxy was made
for, and not one that came to its slot later. -/
theorem sees_of_run (exact : made.Exact held) (live : made.Live value) (home : value.space = session.space)
    (records : later.Records session) {key : String} (proxyFor : ProxyFor session value key proxy)
    (run : World.Later value.space value.handle.index times (made, held) (later, held')) (few : times < 2 ^ 32)
    (viewed : later.Records viewer) {place : Place} {ref : Ref}
    (ran : (toGuest viewer (place.fill proxy)).run later = (.ok ref, after)) :
    Sees later session viewer times ∧ ref.space = value.space ∧
      place.item? after value.space ref.handle = some value.handle ∧ ∃ object, after.get? value = some object := by
  obtain ⟨content, rfl, -, carried⟩ := proxyFor
  have exactLater : later.Exact held' := run.exact exact
  obtain ⟨⟨here, denotes⟩, keeps⟩ := denotes_of_run _ exactLater ran
  have balanced : Act.Balanced .temporary [] 0 (toGuest viewer (place.fill (.object content))) ({·}) :=
    balanced_toGuestAt viewer 0 _ []
  have leads := balanced.leads_ok (by rwa [zero_add]) ran
  obtain ⟨item, shown, inside⟩ := Place.item_of_denotes denotes
  obtain ⟨owner, object, found, rfl⟩ : (after.aliveSession? session.id).map (·.id) = some viewer.id ∧
      ∃ object, after.get? { space := viewer.space, handle := value.handle } = some object ∧ item = value.handle := by
    cases inside with
    | proxy carried' owner found =>
      obtain rfl := Option.some.inj (carried.symm.trans carried')
      exact ⟨owner, _, found, rfl⟩
  rw [World.aliveSession?_of_sessions (leads.extends exactLater).sessions] at owner
  have alive : (later.aliveSession? session.id).isSome := by
    obtain ⟨state, alive, -⟩ := Option.map_eq_some_iff.mp owner
    exact Option.isSome_iff_exists.mpr ⟨state, alive⟩
  obtain rfl : viewer = session := by
    refine records.eq_of_id viewed ?_
    rw [records.alive alive] at owner
    exact (Option.some.inj owner).symm
  obtain ⟨space, handle⟩ := value
  obtain rfl : space = viewer.space := home
  have exactAfter : after.Exact ({ref} + held') := leads.exact (by rwa [zero_add])
  have started : (later.space viewer.space).roots.isSome := by
    rw [← leads.roots_eq]
    exact exactAfter.started_of_get? found
  -- The slot keeps its generation while the value is converted.
  have moved := keeps viewer.space _ _ (run.generation live started)
  rw [Guest.Heap.generation?_of_get? found] at moved
  have unvacated := Guest.Space.eq_zero_of_generation few (Option.some.inj moved).symm
  exact ⟨⟨rfl, alive, started, unvacated⟩, here, shown, object, found⟩

theorem exists_run_of_sees (exact : made.Exact held) (live : made.Live value) (home : value.space = session.space)
    (records : later.Records session) {key : String} (proxyFor : ProxyFor session value key proxy)
    (run : World.Later value.space value.handle.index times (made, held) (later, held'))
    (sees : Sees later session viewer times) {place : Place} (converts : place.Converts later viewer) :
    ∃ ref after, (toGuest viewer (place.fill proxy)).run later = (.ok ref, after) := by
  obtain ⟨content, rfl, family, carried⟩ := proxyFor
  obtain ⟨rfl, alive, started, rfl⟩ := sees
  obtain ⟨space, handle⟩ := value
  obtain rfl : space = viewer.space := home
  have exactLater : later.Exact held' := run.exact exact
  obtain ⟨object, found⟩ := run.exists_object exact live started
  refine exists_run_toGuestAt 0 _ exactLater started (Place.convertible_fill converts ?_)
  refine .proxy carried (exactLater.prepared.isInstance records family) ?_ found
  rw [records.alive alive, Option.map_some]

/-- A proxy denotes one object for ever. A session converts it, by itself or in an array whose other items have a
Guest form, just if the session sees the object, and then what is in its place is that object. As long as the
service that keeps objects is offered, proxies of one session have the same key just if they are for the same
object. -/
theorem proxy_denotes_one (balanced : engine.Balanced) (exact : before.Exact held) (records : before.Records session)
    (given : value ∈ held) (home : value.space = session.space)
    (ran : (engine.next.makeProxy session value).run before = (.ok proxy, made))
    (run : World.Later value.space value.handle.index times (made, held) (later, held')) (few : times < 2 ^ 32) :
    (∀ viewer, later.Records viewer → ∀ place : Place,
      (place.Converts later viewer →
        ((∃ ref after, (toGuest viewer (place.fill proxy)).run later = (.ok ref, after)) ↔
          Sees later session viewer times)) ∧
      ∀ ref after, (toGuest viewer (place.fill proxy)).run later = (.ok ref, after) →
        Sees later session viewer times ∧ ref.space = value.space ∧
          place.item? after value.space ref.handle = some value.handle ∧ ∃ object, after.get? value = some object) ∧
    ∀ value' proxy' after, before.Keeps session → later.Keeps session → value' ∈ held' →
      value'.space = session.space → value.handle.index < 2 ^ 32 → value'.handle.index < 2 ^ 32 →
      (engine.next.makeProxy session value').run later = (.ok proxy', after) →
        (key? proxy = key? proxy' ↔ value = value' ∧ times = 0) := by
  have making : Act.Balanced .lasting held.toList 0 (engine.next.makeProxy session value) fun _ => 0 :=
    balanced_makeProxy (balanced_next balanced) session (Multiset.mem_toList.mpr given)
  have leads := making.leads_ok_of_lent (by rwa [zero_add]) (fun ref member => Multiset.mem_toList.mp member) ran
  have exactMade : made.Exact held := by simpa using leads.exact (by rwa [zero_add])
  have live : made.Live value := exactMade.live (Multiset.mem_add.mpr (Or.inl given))
  have recordsLater : later.Records session := (records.of_steady leads.steady).of_steady run.leads.steady
  obtain ⟨key, -, -, proxyFor, -⟩ := proxy_of_run ran
  refine ⟨fun viewer viewed place => ⟨fun converts => ⟨?_, fun sees => ?_⟩, fun ref after converted => ?_⟩, ?_⟩
  · rintro ⟨ref, after, converted⟩
    exact (sees_of_run exactMade live home recordsLater proxyFor run few viewed converted).1
  · exact exists_run_of_sees exactMade live home recordsLater proxyFor run sees converts
  · exact sees_of_run exactMade live home recordsLater proxyFor run few viewed converted
  · rintro value' proxy' after ⟨module, globals, function, opened, offers⟩ ⟨module', globals', function', opened', offers'⟩
      given' home' small small' ran'
    have exactLater : later.Exact held' := run.exact exactMade
    have live' : later.Live value' := exactLater.live (Multiset.mem_add.mpr (Or.inl given'))
    have alive : before.Live value := exact.live (Multiset.mem_add.mpr (Or.inl given))
    rw [key_of_run exact opened offers alive ran, key_of_run exactLater opened' offers' live' ran',
      Option.some.injEq, keyOf_inj small small']
    constructor
    · intro same
      obtain rfl : value = value' := by
        cases value
        cases value'
        simp_all
      have started : (later.space value.space).roots.isSome := by
        obtain ⟨name, found⟩ := opened'.object
        rw [home, ← opened'.space]
        exact exactLater.started_of_get? found
      obtain ⟨cell, here⟩ := live'.2 started
      have moved := run.generation live started
      rw [Guest.Heap.generation?_of_cell here] at moved
      exact ⟨rfl, Guest.Space.eq_zero_of_generation few (Option.some.inj moved).symm⟩
    · rintro ⟨rfl, -⟩
      rfl

/-- A proxy for a string, as an item of an array. -/
theorem proxy_denotes_one_text :
    let world := Console.opened
    let state := Console.openedState
    let place := Place.within [.text "y"] .here [.nil]
    ∃ value before proxy made ref after,
      (ownedBy state.session.space (Guest.Space.newText "x")).run world = (.ok value, before) ∧
        (exhausted.next.makeProxy state.session value).run before = (.ok proxy, made) ∧
          (toGuest state.session (place.fill proxy)).run made = (.ok ref, after) ∧
            place.item? after value.space ref.handle = some value.handle := by
  intro world state place
  have exact : world.Exact 0 := Console.exact_after 1 _
  have recorded : world.session? { index := 0 } = some state := (Option.some_get _).symm
  have same : state.session.id = { index := 0 } := by decide +kernel
  have stores : world.canStore state.session := by decide +kernel
  have alive : (world.aliveSession? state.session.id).isSome := by decide +kernel
  clear_value state world
  obtain ⟨module, function, registry, globals, stores⟩ := World.exists_stores_of_canStore recorded same stores
  obtain ⟨value, before, ranText, home, leadsText, -, shown⟩ := run_newText exact (stores.started exact) "x"
  have exactBefore : before.Exact {value} := by
    rw [← add_zero ({value} : Multiset Ref)]
    exact leadsText.exact (by rwa [zero_add])
  have storesBefore := stores.of_leads leadsText (by rwa [zero_add])
  obtain ⟨proxy, made, ranProxy, -, leadsProxy, storesMade, sessions⟩ :=
    run_makeProxy exhausted storesBefore exactBefore shown home
  have exactMade : made.Exact {value} := by simpa using leadsProxy.exact (by rwa [zero_add])
  have records : before.Records state.session := storesBefore.opened.records
  obtain ⟨converted, -⟩ := proxy_denotes_one balanced_exhausted exactBefore records (Multiset.mem_singleton_self value)
    home ranProxy (World.Later.refl value.space value.handle.index (made, {value})) (by decide)
  obtain ⟨converts, yields⟩ := converted state.session storesMade.opened.records place
  have sees : Sees made state.session state.session 0 := by
    refine ⟨rfl, ?_, storesMade.started exactMade, rfl⟩
    rwa [World.aliveSession?_of_sessions sessions, World.aliveSession?_of_sessions (leadsText.extends exact).sessions]
  have around : place.Converts made state.session := by
    refine ⟨fun item member => ?_, trivial⟩
    obtain rfl | rfl : item = .text "y" ∨ item = .nil := by simpa using member
    · exact .text "y"
    · exact .nil
  obtain ⟨ref, after, ran⟩ := (converts around).mpr sees
  exact ⟨value, before, proxy, made, ref, after, ranText, ranProxy, ran, (yields ref after ran).2.2.1⟩

end Identity

end Engine

end ObjectBridge

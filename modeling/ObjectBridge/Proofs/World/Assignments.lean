import ObjectBridge.Proofs.Space.Assignments
import ObjectBridge.Proofs.World.Setting

/-!
Attributes that are assigned and read back. What an assignment answers is what the attribute is from then on: its Host
form if it is plain, and else a proxy for it. The next message that asks for the attribute finds it under the spelling
in which it was set, on the object itself, before whatever it inherits.
-/

namespace ObjectBridge

open Guest (Handle)

def World.Secures (world : World) (held : Multiset Ref) (registry object stored : Ref) : Prop :=
  object ∈ held + world.outside ∨ ∃ entries key, world.get? registry = some (.dict entries) ∧
    entries.get? key = some object.handle ∧ (key = Registry.keyOf stored → object = stored)

theorem World.Secures.of_extends {world after : World} {held : Multiset Ref} {registry object stored : Ref}
    (secures : world.Secures held registry object stored) (grown : world.Extends after) :
    after.Secures held registry object stored := by
  rcases secures with listed | ⟨entries, key, dict, kept, apart⟩
  · obtain ⟨_, _, rest⟩ := grown.rest
    rw [rest]
    exact Or.inl listed
  · exact Or.inr ⟨entries, key, grown.get? dict, kept, apart⟩

namespace Bridge

variable {before after : World} {session : Session} {stored : Ref} {answer again : HostValue}

def Answered (world : World) (session : Session) (stored : Ref) (answer : HostValue) : Prop :=
  Mirrors (world.space session.space) stored.handle answer ∨
    ¬(world.space session.space).Plain stored.handle ∧ ProxyFor session stored (Registry.keyOf stored) answer

theorem answered_iff_of_endures (endures : before.Endures after stored) (here : stored.space = session.space) :
    Answered after session stored answer ↔ Answered before session stored answer := by
  have same : (before.space session.space).Endures (after.space session.space) stored.handle := here ▸ endures
  rw [Answered, Answered, mirrors_iff_of_endures same, same.plain_iff]

theorem Answered.mirrors (answered : Answered before session stored answer)
    (plain : (before.space session.space).Plain stored.handle) :
    Mirrors (before.space session.space) stored.handle answer :=
  answered.elim id fun foreign => absurd plain foreign.1

end Bridge

namespace Engine

open Act Bridge

variable {engine : Engine} {world after : World} {frame held : Multiset Ref} {session : Session}
  {module function registry object stored : Ref} {globals : Bindings Handle} {kept contents : Guest.Object Code}
  {key : String} {proxy answer : HostValue}

theorem answers_plain (engine : Engine) (exact : world.Exact frame) (founded : (world.space session.space).Founded)
    (here : stored.space = session.space) (plain : (world.space session.space).Plain stored.handle) :
    ∃ answer, (engine.toHostOrProxy session stored).run world = (.ok answer, world) ∧
      Answered world session stored answer := by
  rw [← here] at founded plain
  obtain ⟨content, ran, mirrors⟩ := run_toHost_plain session exact founded plain
  exact ⟨content, run_toHostOrProxy_ok engine ran, Or.inl (here ▸ mirrors)⟩

theorem run_toHostOrProxy_foreign (engine : Engine) (exact : world.Exact frame)
    (founded : (world.space session.space).Founded) (typed : (world.space session.space).Typed)
    (here : stored.space = session.space) (there : world.get? stored = some kept)
    (foreign : ¬(world.space session.space).Plain stored.handle) :
    (engine.toHostOrProxy session stored).run world = (engine.makeProxy session stored).run world := by
  obtain ⟨alien, name, -, -, ran⟩ := run_toHost_foreign exact founded typed here there foreign
  exact run_toHostOrProxy_error ran

/-- What is left by an answer: at most the registry has an entry more, nobody holds anything else, the session is as it
was, and if a proxy had to be made, more can be. -/
structure Leaves (session : Session) (module function : Ref) (globals : Bindings Handle) (stored : Ref)
    (before after : World) : Prop where
  leads : World.Leads .lasting (before, 0) (after, 0)
  gathers : before.Gathers (Registry.keyOf stored) stored.handle after
  outside : after.outside = before.outside
  sessions : after.sessions = before.sessions
  roots : (after.space session.space).roots = (before.space session.space).roots
  stores : ¬(before.space session.space).Plain stored.handle →
    ∃ registry, after.Stores session module function registry globals
  keeps : ∀ registry, before.Stores session module function registry globals →
    after.Stores session module function registry globals

theorem answers_of_run (exact : world.Exact frame) (founded : (world.space session.space).Founded)
    (typed : (world.space session.space).Typed) (here : stored.space = session.space)
    (there : world.get? stored = some kept) (uncallable : kept.kind.isCallable = false)
    (opened : world.Open session module globals)
    (offers : world.Offers module globals .storeObject function ∨
      globals.get? Registry.Service.storeObject.name = some stored.handle)
    (ran : (engine.next.toHostOrProxy session stored).run world = (.ok answer, after)) :
    Answered world session stored answer ∧ Leaves session module function globals stored world after := by
  by_cases plain : (world.space session.space).Plain stored.handle
  · obtain ⟨content, ranPlain, answered⟩ := engine.next.answers_plain exact founded here plain
    obtain ⟨⟨⟩, rfl⟩ := Prod.mk.inj (ranPlain.symm.trans ran)
    exact ⟨answered, .refl world 0, .refl _ _ world, rfl, rfl, rfl, fun foreign => absurd plain foreign, fun _ => id⟩
  · rw [run_toHostOrProxy_foreign engine.next exact founded typed here there plain] at ran
    rcases offers with offers | bound
    · obtain ⟨⟨registry, stores⟩, gathers, outside⟩ := stores_of_makeProxy opened offers exact there here ran
      obtain ⟨_, _, ranProxy, proxyFor, leads, storesAfter, sessions⟩ := run_makeProxy engine stores exact there here
      obtain ⟨⟨⟩, rfl⟩ := Prod.mk.inj (ran.symm.trans ranProxy)
      have exactAfter : after.Exact frame := by simpa only [zero_add] using leads.exact (by rwa [zero_add])
      have known := World.known_of_started (stores.started exact)
      refine ⟨Or.inr ⟨plain, proxyFor⟩, leads, gathers, outside, sessions,
        leads.roots_eq_of_started known (storesAfter.started exactAfter), fun _ => ⟨registry, storesAfter⟩,
        fun other stores => ?_⟩
      obtain ⟨_, _, ranProxy, -, -, storesAfter, -⟩ := run_makeProxy engine stores exact there here
      obtain ⟨-, rfl⟩ := Prod.mk.inj (ran.symm.trans ranProxy)
      exact storesAfter
    · -- The service is the object itself, which cannot be called.
      obtain ⟨issued, between, ranIssued, -⟩ := run_bind_eq_ok.mp ran
      have refused := not_registryCall_of_uncallable engine opened exact bound
        (here.trans opened.space.symm) there uncallable [stored] issued
      exact absurd (congrArg Prod.fst ranIssued) refused

theorem run_reading (engine : Engine) (exact : world.Exact held) (typed : (world.space session.space).Typed)
    (alive : world.aliveSession? session.id = some session) (proxyFor : ProxyFor session object key proxy)
    (home : object.space = session.space) (live : world.get? object = some contents) {names : List String}
    (listed : (world.space session.space).dir object.handle = .ok names) {name spelling : String}
    (sent : assignedName? name = none) (searched : findAttribute names name = some spelling)
    (found : (world.space session.space).findAttribute object.handle spelling = .ok (.plain stored.handle))
    (here : stored.space = session.space) (there : world.get? stored = some kept)
    (uncallable : kept.kind.isCallable = false) (arguments : List HostValue) :
    ∃ read, World.Leads .temporary (world, 0) (read, {stored} + {object}) ∧
      (engine.callProxy session proxy name arguments).run world =
        (lending [stored, object] (engine.toHostOrProxy session stored)).run read := by
  obtain ⟨between, leads, ran⟩ := engine.run_message exact typed alive proxyFor home live listed name arguments
  rw [sent, Option.elim_none] at ran
  have grown := leads.extends exact
  have exactBetween : between.Exact ({object} + held) := leads.exact (by rwa [zero_add])
  have foundBetween : (between.space object.space).findAttribute object.handle spelling =
      .ok (.plain stored.handle) := by
    have typedHere : (world.space object.space).Typed := home ▸ typed
    rw [grown.findAttribute_eq ((exact.spaces object.space).closed typedHere) live, home]
    exact found
  obtain ⟨_, read, ranAttribute, reads, rfl⟩ :=
    run_getattr_stands exactBetween (leads.typed (home ▸ typed)) foundBetween
  have itself : { object with handle := stored.handle } = stored := by rw [home, ← here]
  rw [itself] at reads ranAttribute
  have ranAttribute : (asBridge (getattr session.space object spelling)).run between = (.ok stored, read) :=
    run_adapt_ok Error.guest (home ▸ ranAttribute)
  have thereRead := (reads.extends exactBetween).get? (grown.get? there)
  have asked : (isCallable stored).run read = (.ok false, read) := by
    rw [isCallable, run_bind_ok (run_kindOf stored), thereRead]
    simp only [Option.map_some, uncallable, Option.getD_some]
    rfl
  have sends : (engine.sendTo session object names name arguments).run between =
      (lending [stored] (engine.toHostOrProxy session stored)).run read := by
    rw [sendTo, searched]
    dsimp only
    rw [run_bind_ok ranAttribute, run_lending, run_bind_ok asked]
    rfl
  exact ⟨read, leads.follow exact reads, ran.trans (run_lending_lending sends [object])⟩

structure ReadsBack (engine : Engine) (session : Session) (proxy : HostValue) (registry object : Ref) (name : String)
    (value : HostValue) (stored : Ref) (changed : Guest.Object Code) (held : Multiset Ref) (world formed : World)
    (answer : HostValue) (after : World) : Prop where
  answered : Answered formed session stored answer
  itself : value.Plain → answer = value
  changed : ∀ now, after.get? object = some now → now = changed
  stays : world.Secures held registry object stored → (after.get? object).isSome
  denotes : (after.get? object).isSome → Denotes after session value stored.handle
  again : (after.get? object).isSome → ∀ arguments, ∃ again last,
    (engine.callProxy session proxy name arguments).run after = (.ok again, last) ∧
      Answered formed session stored again ∧ ((formed.space session.space).Plain stored.handle → again = answer)

/-- What remains of the world in which an attribute was set, once it is answered: the object has that attribute and is
made up of what it was made up of, all types besides are as they were, and the session can be used as before. -/
structure Remains (session : Session) (module function registry : Ref) (globals : Bindings Handle) (object stored : Ref)
    (changed : Guest.Object Code) (formed after : World) : Prop where
  endures : ∀ ref ∈ [stored, object], (after.get? ref).isSome → formed.Endures after ref
  changed : ∀ now, after.get? object = some now → now = changed
  others : ∀ type contents, type ≠ object → after.get? type = some (.typeObject contents) →
    formed.get? type = some (.typeObject contents)
  outside : after.outside = formed.outside
  sessions : after.sessions = formed.sessions
  roots : (after.space session.space).roots = (formed.space session.space).roots
  stores : ¬(formed.space session.space).Plain stored.handle → ∃ module function registry globals,
    after.Stores session module function registry globals
  registered : object ≠ module → after.Stores session module function registry globals ∧
    ∀ entries, after.get? registry = some (.dict entries) → formed.get? registry = some (.dict entries) ∨
      ∃ earlier, formed.get? registry = some (.dict earlier) ∧
        entries = earlier.insert (Registry.keyOf stored) stored.handle

section Remains

variable {names : List String} {name : String} {value : HostValue} {attributes : Bindings Handle}
  {changed : Guest.Object Code} {formed bound left : World}

theorem kind_withSettable (place : Guest.Space.settable contents = some attributes) (others : Bindings Handle) :
    (Guest.Space.withSettable others contents).kind ≠ .dict ∧
      (Guest.Space.withSettable others contents).kind ≠ .str := by
  cases contents with
  | object | moduleObject | typeObject => simp [Guest.Space.withSettable, Guest.Object.kind]
  | _ => cases place

theorem Remains.releaseAll {refs : List Ref}
    (remains : Remains session module function registry globals object stored changed formed left)
    (exact : left.Exact ((refs : Multiset Ref) + frame)) (typed : (left.space session.space).Typed)
    (homes : ∀ ref ∈ [stored, object], ref.space = session.space) :
    Remains session module function registry globals object stored changed formed (left.releaseAll refs) := by
  have framed : left.Exact ((refs : Multiset Ref) + 0 + frame) := by rwa [add_zero]
  have given := World.leads_releaseAll .temporary framed
  obtain ⟨_, _, rest⟩ := given.rest_eq
  refine ⟨fun ref listed there => ?_, fun now found => remains.changed now (World.get?_of_releaseAll found),
    fun type contents other found => remains.others type contents other (World.get?_of_releaseAll found), ?_, ?_,
    (given.roots_eq _).trans remains.roots, fun foreign => ?_, fun other => ?_⟩
  · obtain ⟨object, found⟩ := Option.isSome_iff_exists.mp there
    have earlier := remains.endures ref listed (Option.isSome_iff_exists.mpr ⟨object, World.get?_of_releaseAll found⟩)
    exact earlier.trans (exact.endures_releaseAll (homes ref listed ▸ typed) found)
  · exact (left.quiet_releaseAll refs).outside_eq.trans remains.outside
  · rw [rest]
    exact remains.sessions
  · obtain ⟨module, function, registry, globals, stores⟩ := remains.stores foreign
    exact ⟨module, function, registry, globals, stores.of_leads given framed⟩
  · obtain ⟨stores, registered⟩ := remains.registered other
    exact ⟨stores.of_leads given framed, fun entries found => registered entries (World.get?_of_releaseAll found)⟩

theorem Remains.stays
    (remains : Remains session module function registry globals object stored changed formed after)
    (exact : after.Exact held) (started : (after.space object.space).roots.isSome)
    (opened : formed.Open session module globals) (home : object.space = session.space)
    (secures : formed.Secures held registry object stored) : (after.get? object).isSome := by
  have there (live : after.Live object) : (after.get? object).isSome := by
    obtain ⟨cell, here⟩ := live.2 started
    rw [World.get?, Guest.Heap.get?_of_cell here, Option.isSome_some]
  have outside (listed : object ∈ held + formed.outside) : (after.get? object).isSome := by
    rw [← remains.outside] at listed
    exact there (exact.live listed)
  rcases secures with listed | ⟨earlier, key, dict, kept, apart⟩
  · exact outside listed
  by_cases same : object = module
  · exact outside (Multiset.mem_add.mpr (Or.inr (same ▸ opened.mem_outside)))
  obtain ⟨stores, registered⟩ := remains.registered same
  obtain ⟨entries, found⟩ := stores.dict
  have bound : entries.get? key = some object.handle := by
    rcases registered entries found with unchanged | ⟨earlier', dict', rfl⟩
    · obtain rfl := Guest.Object.dict.inj (Option.some.inj (dict.symm.trans unchanged))
      exact kept
    · obtain rfl := Guest.Object.dict.inj (Option.some.inj (dict.symm.trans dict'))
      rw [Bindings.get?_insert]
      split
      · rename_i own
        rw [apart own]
      · exact kept
  have live := exact.live_of_child found (Bindings.mem_values.mpr ⟨key, bound⟩)
  have itself : ({ registry with handle := object.handle } : Ref) = object := by
    rw [stores.here, stores.opened.space, ← home]
  exact there (itself ▸ live)

theorem Sets.remains {between : World}
    (sets : Sets session object contents names name value stored attributes between formed bound)
    (exact : between.Exact ({object} + held)) (typed : (between.space session.space).Typed)
    (founded : (between.space session.space).Founded) (home : object.space = session.space)
    (live : between.get? object = some contents) (stores : between.Stores session module function registry globals)
    (there : formed.get? stored = some kept) (uncallable : kept.kind.isCallable = false)
    (ran : (engine.next.toHostOrProxy session stored).run bound = (.ok answer, left)) :
    Answered formed session stored answer ∧ World.Leads .lasting (formed, 0) (left, 0) ∧
      Remains session module function registry globals object stored (Guest.Space.withSettable
        (attributes.insert ((findAttribute names name).getD name) stored.handle) contents) formed left := by
  obtain ⟨modifies, shown, others⟩ := sets.modifies exact typed home live
  obtain ⟨place, converted, here, -, -, -⟩ := sets
  have framed : between.Exact (0 + ({object} + held)) := by rwa [zero_add]
  have exactFormed : formed.Exact ({stored} + ({object} + held)) := converted.exact framed
  have framedFormed : formed.Exact (0 + ({stored} + ({object} + held))) := by rwa [zero_add]
  have leads := modifies.leads framedFormed
  have exactBound : bound.Exact ({stored} + ({object} + held)) := by
    simpa only [zero_add] using leads.exact framedFormed
  have startedBound : (bound.space session.space).roots.isSome := home ▸ exactBound.started_of_get? shown
  -- The value is the same object in the world in which it was set.
  have enduresStored : formed.Endures bound stored := leads.endures framedFormed (by simp) (here ▸ startedBound)
  have enduresObject : formed.Endures bound object := leads.endures framedFormed (by simp) (home ▸ startedBound)
  obtain ⟨_, kept', found, thereBound, becomes⟩ := Guest.Space.Endures.exists_object enduresStored
  obtain rfl := Option.some.inj (there.symm.trans found)
  rw [← becomes.kind_eq] at uncallable
  have foundedBound := leads.founded framedFormed (converted.founded framed founded)
  have typedBound := leads.typed (converted.typed typed)
  obtain ⟨globals', openedBound, offers⟩ := modifies.keeps_services exactFormed (stores.of_leads converted framed) place
    ((converted.extends exact).get? live)
  obtain ⟨answered, leaves⟩ := answers_of_run exactBound foundedBound typedBound here thereBound uncallable openedBound
    offers ran
  have enduresLeft {ref : Ref} (listed : ref ∈ {stored} + ({object} + held)) (homeRef : ref.space = session.space) :
      bound.Endures left ref :=
    leaves.leads.endures (by rwa [zero_add]) listed (by rw [homeRef, leaves.roots]; exact startedBound)
  refine ⟨(answered_iff_of_endures enduresStored here).mp answered, leads.trans leaves.leads,
    fun ref listed _ => ?_, fun now foundNow => ?_, fun type contents' other foundType => ?_,
    leaves.outside.trans ?_, leaves.sessions.trans ?_, leaves.roots.trans (modifies.roots_eq _), fun foreign => ?_,
    fun other => ?_⟩
  · have either : ref = stored ∨ ref = object := by simpa using listed
    rcases either with rfl | rfl
    · exact enduresStored.trans (enduresLeft (by simp) here)
    · exact enduresObject.trans (enduresLeft (by simp) home)
  · have kinds := kind_withSettable place (attributes.insert ((findAttribute names name).getD name) stored.handle)
    have becomes := Guest.Space.Endures.becomes (enduresLeft (by simp) home) shown foundNow
    rw [← becomes.kind_eq] at kinds
    exact Option.some.inj ((leaves.gathers.get? kinds.1 kinds.2 foundNow).symm.trans shown)
  · exact others type _ other (leaves.gathers.get? nofun nofun foundType)
  · obtain ⟨_, _, rest⟩ := modifies.rest_eq
    rw [rest]
    rfl
  · obtain ⟨_, _, rest⟩ := modifies.rest_eq
    rw [rest]
  · have same : (formed.space session.space).Endures (bound.space session.space) stored.handle := here ▸ enduresStored
    obtain ⟨registry', storesLeft⟩ := leaves.stores fun plain => foreign (same.plain_iff.mp plain)
    exact ⟨_, _, registry', _, storesLeft⟩
  · obtain ⟨storesBound, same⟩ := modifies.keeps_stores exactFormed (stores.of_leads converted framed) place
      ((converted.extends exact).get? live) other
    obtain ⟨_, there⟩ := openedBound.object
    obtain ⟨_, thereToo⟩ := storesBound.opened.object
    obtain ⟨⟩ := Option.some.inj (there.symm.trans thereToo)
    refine ⟨leaves.keeps registry storesBound, fun entries found => ?_⟩
    rw [← same]
    rcases leaves.gathers registry (.dict entries) nofun found with unchanged | ⟨earlier, dict, more⟩
    · exact Or.inl unchanged
    · exact Or.inr ⟨earlier, dict, Guest.Object.dict.inj more⟩

/-- In the spaces of the two worlds the object has the attribute that was set, and no type besides has other ones. -/
theorem Remains.assigned {spelling : String}
    (remains : Remains session module function registry globals object stored
      (Guest.Space.withSettable (attributes.insert spelling stored.handle) contents) formed after)
    (place : Guest.Space.settable contents = some attributes) (home : object.space = session.space)
    (live : formed.get? object = some contents) (there : (after.get? object).isSome) :
    (formed.space session.space).Assigned (after.space session.space) object.handle contents attributes spelling
      stored.handle := by
  obtain ⟨space, handle⟩ := object
  obtain rfl : space = session.space := home
  obtain ⟨now, found⟩ := Option.isSome_iff_exists.mp there
  obtain rfl := remains.changed now found
  refine ⟨place, live, found, remains.endures _ (by simp) there, fun type other contents' foundType => ?_⟩
  refine remains.others { space := session.space, handle := type } contents' (fun same => ?_) foundType
  exact other (congrArg Ref.handle same)

theorem Remains.reads (engine : Engine) (remains : Remains session module function registry globals object stored
      (Guest.Space.withSettable (attributes.insert ((findAttribute names name).getD name) stored.handle) contents)
      formed after)
    (place : Guest.Space.settable contents = some attributes) (home : object.space = session.space)
    (here : stored.space = session.space) (live : formed.get? object = some contents)
    (started : (formed.space session.space).roots.isSome)
    (listed : (formed.space session.space).dir object.handle = .ok names) (known : formed.get? stored = some kept)
    (uncallable : kept.kind.isCallable = false) (sent : assignedName? name = none)
    (exact : after.Exact held) (typed : (after.space session.space).Typed)
    (founded : (after.space session.space).Founded) (alive : after.aliveSession? session.id = some session)
    (proxyFor : ProxyFor session object key proxy) (there : (after.get? object).isSome) (arguments : List HostValue) :
    formed.Endures after stored ∧ ∃ again last,
      (engine.next.callProxy session proxy name arguments).run after = (.ok again, last) ∧
        Answered formed session stored again := by
  have assigned := remains.assigned place home live there
  have startedAfter : (after.space session.space).roots.isSome := by rwa [remains.roots]
  obtain ⟨_, names', listed', listedAfter, ascending, ascending', more⟩ := assigned.mem_dir started startedAfter
  obtain rfl := Except.ok.inj (listed.symm.trans listed')
  have searched := findAttribute_of_set ascending ascending' rfl more
  have found := assigned.findAttribute_eq startedAfter
  -- The attribute leads to the value, which is there with the object, and is what it was.
  obtain ⟨kept', foundKept⟩ := ((exact.spaces session.space).closed typed).has_attribute found
  have thereAfter : after.get? stored = some kept' := by
    rw [World.get?, here]
    exact foundKept
  have endures := remains.endures stored (by simp) (Option.isSome_iff_exists.mpr ⟨kept', thereAfter⟩)
  have becomes := Guest.Space.Endures.becomes endures known thereAfter
  rw [← becomes.kind_eq] at uncallable
  obtain ⟨now, liveAfter⟩ := Option.isSome_iff_exists.mp there
  obtain ⟨read, leads, ran⟩ := run_reading engine.next exact typed alive proxyFor home liveAfter listedAfter sent
    searched found here thereAfter uncallable arguments
  have framed : after.Exact (0 + held) := by rwa [zero_add]
  have exactRead : read.Exact ({stored} + {object} + held) := leads.exact framed
  have thereRead := (leads.extends exact).get? thereAfter
  have later : after.Endures read stored :=
    ((exact.spaces stored.space).closed (here ▸ typed)).endures_extends ((leads.extends exact).spaces stored.space)
      ⟨kept', thereAfter⟩
  have enduresRead := endures.trans later
  have same : (formed.space session.space).Endures (read.space session.space) stored.handle := here ▸ enduresRead
  have answers : ∃ again last, (engine.next.toHostOrProxy session stored).run read = (.ok again, last) ∧
      Answered read session stored again := by
    by_cases plain : (read.space session.space).Plain stored.handle
    · obtain ⟨again, ranAgain, answered⟩ :=
        engine.next.answers_plain exactRead (leads.founded framed founded) here plain
      exact ⟨again, _, ranAgain, answered⟩
    · obtain ⟨module, function, registry, globals, stores⟩ :=
        remains.stores fun plain' => plain (same.plain_iff.mpr plain')
      obtain ⟨again, last, ranAgain, proxyForAgain, -⟩ :=
        run_makeProxy engine (stores.of_leads leads framed) exactRead thereRead here
      refine ⟨again, last, ?_, Or.inr ⟨plain, proxyForAgain⟩⟩
      rw [run_toHostOrProxy_foreign engine.next exactRead (leads.founded framed founded) (leads.typed typed) here
        thereRead plain]
      exact ranAgain
  obtain ⟨again, last, ranAgain, answered⟩ := answers
  refine ⟨endures, again, _, ran.trans (run_lending_of ranAgain _), ?_⟩
  exact (answered_iff_of_endures enduresRead here).mp answered

end Remains

inductive Assignment (engine : Engine) (session : Session) (proxy : HostValue) (registry object : Ref)
    (contents : Guest.Object Code) (name : String) (arguments : List HostValue) (held : Multiset Ref) (world : World)
    (ran : Except Error HostValue × World) : Prop
  | refused (failed : ∃ error, ran.1 = .error error) (unchanged : world.Resembles ran.2)
  | set {value : HostValue} {rest : List HostValue} {names : List String} {spelling : String}
      {attributes : Bindings Handle} {stored : Ref} {formed bound : World} (given : arguments = value :: rest)
      (listed : (world.space session.space).dir object.handle = .ok names) (spells : Spells names name spelling)
      (place : Guest.Space.settable contents = some attributes)
      (converted : World.Leads .temporary (world, 0) (formed, {stored} + {object}))
      (here : stored.space = session.space) (denotes : Denotes formed session value stored.handle)
      (sets : (setattr session.space object spelling stored).run formed = (.ok (), bound))
      (answers : ran = (lending [stored, object] (engine.toHostOrProxy session stored)).run bound)
      (reads : ∀ kept, formed.get? stored = some kept → kept.kind.isCallable = false → ∀ answer, ran.1 = .ok answer →
        ReadsBack engine session proxy registry object name value stored
          (Guest.Space.withSettable (attributes.insert spelling stored.handle) contents) held world formed answer
          ran.2) :
      Assignment engine session proxy registry object contents name arguments held world ran

/-- An assignment through a proxy sets one attribute of the object or leaves all as it was. -/
theorem assignment_reads_back (engine : Engine) (reached : world.Reached held)
    (stores : world.Stores session module function registry globals)
    (alive : world.aliveSession? session.id = some session) (proxyFor : ProxyFor session object key proxy)
    (home : object.space = session.space) (live : world.get? object = some contents) {name : String}
    (plain : name.toList.getLast? ≠ some '=') (arguments : List HostValue) :
    Assignment engine.next session proxy registry object contents name arguments held world
      ((engine.next.callProxy session proxy (name ++ "=") arguments).run world) := by
  have exact := reached.exact
  have typed : (world.space session.space).Typed := reached.leads.typed (World.typed_empty _)
  have exactEmpty : World.empty.Exact (0 + 0) := World.exact_empty
  have founded : (world.space session.space).Founded := reached.leads.founded exactEmpty (World.founded_empty _)
  have started := stores.started exact
  have liveHere : (world.space session.space).heap.get? object.handle = some contents := by
    rw [← home]
    exact live
  obtain ⟨names, listed, -⟩ := (reached.searchable started).exists_dir liveHere
  rcases engine.next.run_assignment exact typed alive proxyFor home live listed name arguments with
    ⟨failed, unchanged⟩ | ⟨value, rest, attributes, stored, between, formed, bound, given, leads, sets, ran⟩
  · exact .refused failed unchanged
  have framed : world.Exact (0 + held) := by rwa [zero_add]
  have exactBetween : between.Exact ({object} + held) := leads.exact framed
  have framedBetween : between.Exact (0 + ({object} + held)) := by rwa [zero_add]
  have liveBetween := (leads.extends exact).get? live
  have converted := leads.follow exact sets.converted
  have exactFormed : formed.Exact ({stored} + {object} + held) := converted.exact framed
  have foundedFormed := converted.founded framed founded
  have liveFormed := (converted.extends exact).get? live
  refine .set given listed (spells_findAttribute names name) sets.place converted sets.here sets.denotes sets.set ran
    fun kept known uncallable answer answered => ?_
  rw [ran] at answered ⊢
  obtain ⟨left, ranAnswer⟩ : ∃ left, (engine.next.toHostOrProxy session stored).run bound = (.ok answer, left) :=
    ⟨_, Prod.ext answered rfl⟩
  obtain ⟨shows, leadsLeft, remains⟩ := sets.remains exactBetween (leads.typed typed) (leads.founded framed founded)
    home liveBetween (stores.of_leads leads framed) known uncallable ranAnswer
  have framedFormed : formed.Exact (0 + ({stored} + {object} + held)) := by rwa [zero_add]
  have both : (([stored, object] : List Ref) : Multiset Ref) = {stored} + {object} := rfl
  have exactLeft : left.Exact ((([stored, object] : List Ref) : Multiset Ref) + held) := by
    rw [both, ← zero_add ({stored} + {object} + held)]
    exact leadsLeft.exact framedFormed
  have framedLeft : left.Exact ((([stored, object] : List Ref) : Multiset Ref) + 0 + held) := by rwa [add_zero]
  have typedLeft := leadsLeft.typed (converted.typed typed)
  have given := World.leads_releaseAll .temporary framedLeft
  rw [run_lending_of ranAnswer]
  have remainsAfter := remains.releaseAll exactLeft typedLeft (by simp [sets.here, home])
  have exactAfter : (left.releaseAll [stored, object]).Exact held := by
    simpa only [zero_add] using given.exact framedLeft
  have startedFormed : (formed.space session.space).roots.isSome := by rwa [converted.roots_eq]
  have aliveAfter : (left.releaseAll [stored, object]).aliveSession? session.id = some session := by
    rwa [World.aliveSession?_of_sessions (remainsAfter.sessions.trans (converted.extends exact).sessions)]
  have reads := remainsAfter.reads engine sets.place home sets.here liveFormed startedFormed
    ((dir_of_extends exact typed home live (converted.extends exact)).trans listed) known uncallable
    (assignedName?_eq_none plain) exactAfter (given.typed typedLeft)
    (given.founded framedLeft (leadsLeft.founded framedFormed foundedFormed)) aliveAfter proxyFor
  refine ⟨shows, fun plainValue => ?_, remainsAfter.changed, fun secures => ?_, fun there => ?_,
    fun there arguments => ?_⟩
  · have mirrors := sets.denotes.mirrors plainValue foundedFormed
    exact (shows.mirrors mirrors.plain).value_eq mirrors
  · have startedAfter : ((left.releaseAll [stored, object]).space object.space).roots.isSome := by
      rwa [home, remainsAfter.roots]
    exact remainsAfter.stays exactAfter startedAfter (stores.opened.of_leads converted framed) home
      (secures.of_extends (converted.extends exact))
  · obtain ⟨endures, -⟩ := reads there []
    refine sets.denotes.of_endures ?_ remainsAfter.roots fun id => ?_
    · rw [← sets.here]
      exact endures
    · exact World.aliveSession?_of_sessions remainsAfter.sessions id
  · obtain ⟨-, again, last, ranAgain, answeredAgain⟩ := reads there arguments
    refine ⟨again, last, ranAgain, answeredAgain, fun plainStored => ?_⟩
    exact (answeredAgain.mirrors plainStored).value_eq (shows.mirrors plainStored)

theorem eq_ok_text {ran : Except Error HostValue} {content : String}
    (answers : ran.toOption.bind (·.text?) = some content) : ran = .ok (.text content) := by
  rcases ran with error | answer
  · cases answers
  · cases answer with
    | text => exact congrArg _ (congrArg _ (Option.some.inj answers))
    | _ => cases answers

/-- A type, in a session that was just opened, is given a string. -/
theorem assignment_reads_back_text :
    let world := Console.after (.ofDepth 1) [Console.opening "s",
      { action := .guest (.newType "T" [] []), place := some "s", host := "", result := some "type", keyed := false }]
      .empty
    let engine := (ofDepth 0).next
    ∃ session object contents registry proxy made after,
      (engine.makeProxy session object).run world = (.ok proxy, made) ∧ made.Reached 0 ∧
        made.get? object = some (.typeObject contents) ∧
          (engine.callProxy session proxy "n=" [.text "x"]).run made = (.ok (.text "x"), after) ∧
            Assignment engine session proxy registry object (.typeObject contents) "n" [.text "x"] 0 made
              (.ok (.text "x"), after) := by
  intro world engine
  have checked : (world.session? { index := 0 }).any fun state => (world.registerValue? "type").any fun type =>
      let making := (engine.makeProxy state.session type).run world
      let assigning (proxy : HostValue) := (engine.callProxy state.session proxy "n=" [.text "x"]).run making.2
      state.session.id = { index := 0 } && world.canStore state.session &&
        (world.aliveSession? state.session.id).isSome && type.space = state.session.space &&
          (world.get? type).isSome && (making.2.get? type).any (·.kind = .typeObject) &&
            making.1.toOption.any fun proxy => (assigning proxy).1.toOption.bind (·.text?) = some "x" := by
    decide +kernel
  have reached : world.Reached 0 := Console.reached_after 1 _
  have keeps : engine.Respects World.KeepsNames := respects_ofDepth 1
  simp only [Option.any_eq_true, Bool.and_eq_true, decide_eq_true_eq] at checked
  obtain ⟨state, recorded, type, -, ⟨⟨⟨⟨⟨same, stores⟩, alive⟩, home⟩, there⟩, object, live, isType⟩, checked⟩ :=
    checked
  have named := respects_makeProxy keeps state.session type world reached.named
  clear_value world
  obtain ⟨_, there⟩ := Option.isSome_iff_exists.mp there
  obtain ⟨module, function, registry, globals, stores⟩ := World.exists_stores_of_canStore recorded same stores
  have aliveIn := World.Records.alive stores.opened.records alive
  obtain ⟨proxy, made, ran, proxyFor, leads, storesMade, sessions⟩ :=
    run_makeProxy (ofDepth 0) stores reached.exact there home
  rw [ran] at live checked named
  have reachedMade : made.Reached 0 := ⟨reached.leads.trans leads, named⟩
  have aliveMade : made.aliveSession? state.session.id = some state.session := by
    rwa [World.aliveSession?_of_sessions sessions]
  cases object with
  | typeObject contents =>
    simp only [Except.toOption, Option.some.injEq, exists_eq_left'] at checked
    have assigned : (engine.callProxy state.session proxy "n=" [.text "x"]).run made = (.ok (.text "x"), _) :=
      Prod.ext (eq_ok_text checked) rfl
    have goes := assignment_reads_back (ofDepth 0) reachedMade storesMade aliveMade proxyFor home live
      (by decide : "n".toList.getLast? ≠ some '=') [.text "x"]
    rw [show "n" ++ "=" = "n=" by decide, assigned] at goes
    exact ⟨state.session, type, contents, registry, proxy, made, _, ran, reachedMade, live, assigned, goes⟩
  | _ => cases isType

def standsFor (world : World) (session : Session) (proxy : HostValue) : Bool :=
  world.canStore session && (world.aliveSession? session.id).isSome &&
    (opaqueReference? proxy).any fun reference => reference.session = session.id &&
      (world.get? { space := session.space, handle := reference.target }).isSome

/-- The proxy of a string is answered as the string. And an object that was only there as its own attribute is not
there any more when that is assigned. -/
theorem assignment_may_not_read_back :
    let command (action : Console.Action) (result : Option String) : Console.Command :=
      { action, place := some "s", host := "", result, keyed := false }
    let typed := [Console.opening "s", command (.guest (.newType "T" [] [])) (some "type")]
    let proxies := Console.after (.ofDepth 2) (typed ++ [command (.session (.makeProxy (.register "type"))) (some "p"),
      command (.session (.makeProxy (.text "x"))) (some "q")]) .empty
    let cycle := Console.after (.ofDepth 2) (typed ++ [command (.guest (.call (.register "type") [] [])) (some "o"),
      command (.session (.makeProxy (.register "o"))) (some "p"),
      command (.guest (.setattr (.register "o") "n" (.register "o"))) none,
      command (.session (.registryCall "store_object" [.register "o"])) (some "key"),
      command (.session (.registryCall "release_object" [.register "key"])) none, command (.drop "o") none]) .empty
    let engine := (ofDepth 0).next
    (∃ session proxy given, proxies.registerHost? "p" = some proxy ∧ proxies.registerHost? "q" = some given ∧
      standsFor proxies session proxy ∧ (key? given).isSome ∧
        ((engine.callProxy session proxy "n=" [given]).run proxies).1 = .ok (.text "x")) ∧
    ∃ session proxy after, cycle.registerHost? "p" = some proxy ∧ standsFor cycle session proxy ∧
      (engine.callProxy session proxy "n=" [.text "x"]).run cycle = (.ok (.text "x"), after) ∧
        ∀ answer, ((engine.callProxy session proxy "n" []).run after).1 ≠ .ok answer := by
  intro command typed proxies cycle engine
  have proxied : (proxies.session? { index := 0 }).any fun state => (proxies.registerHost? "p").any fun proxy =>
      (proxies.registerHost? "q").any fun given => standsFor proxies state.session proxy && (key? given).isSome &&
        ((engine.callProxy state.session proxy "n=" [given]).run proxies).1.toOption.bind (·.text?) = some "x" := by
    decide +kernel
  have cyclic : (cycle.session? { index := 0 }).any fun state => (cycle.registerHost? "p").any fun proxy =>
      let assigned := (engine.callProxy state.session proxy "n=" [.text "x"]).run cycle
      standsFor cycle state.session proxy && assigned.1.toOption.bind (·.text?) = some "x" &&
        !((engine.callProxy state.session proxy "n" []).run assigned.2).1.isOk := by
    decide +kernel
  clear_value proxies cycle
  simp only [Option.any_eq_true, Bool.and_eq_true, decide_eq_true_eq, Bool.not_eq_true'] at proxied cyclic
  constructor
  · obtain ⟨state, -, proxy, found, given, found', ⟨stands, keyed⟩, answers⟩ := proxied
    exact ⟨state.session, proxy, given, found, found', stands, keyed, eq_ok_text answers⟩
  · obtain ⟨state, -, proxy, found, ⟨stands, answers⟩, lost⟩ := cyclic
    refine ⟨state.session, proxy, _, found, stands, Prod.ext (eq_ok_text answers) rfl, fun answer answered => ?_⟩
    rw [answered] at lost
    cases lost

end Engine

end ObjectBridge

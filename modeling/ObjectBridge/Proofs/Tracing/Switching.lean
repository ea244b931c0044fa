import ObjectBridge.Proofs.Tracing.Machine
import ObjectBridge.Proofs.World.Offered

/-!
The function that sets the flag. What it does is to bind the global to another of its values; besides that it only
takes references and gives them back.
-/

namespace ObjectBridge

open Guest (Handle)

theorem Guest.Switch.Objects.exists_value {β : Type} {switch : Guest.Switch β} {handle : Handle} {name : String}
    {globals : Bindings Handle} {value : Handle} {object : Guest.Object β}
    (related : switch.Objects handle (.moduleObject { name, globals := globals.insert switch.name value }) object)
    (listed : value ∈ switch.values) :
    ∃ value' ∈ switch.values, object = .moduleObject { name, globals := globals.insert switch.name value' } := by
  generalize shown : Guest.Object.moduleObject { name, globals := globals.insert switch.name value } = first at related
  cases related with
  | same => exact ⟨value, listed, shown.symm⟩
  | @switched _ globals' value₁ value₂ _ listed' =>
    obtain ⟨rfl, tables⟩ : name = _ ∧ globals.insert switch.name value = globals'.insert switch.name value₁ := by
      simpa using shown
    have same : globals'.insert switch.name value₂ = globals.insert switch.name value₂ := by
      rw [← Bindings.insert_insert globals' switch.name value₁ value₂, ← tables, Bindings.insert_insert]
    exact ⟨value₂, listed', by rw [same]⟩

namespace Guest.Space

variable {β : Type} {switch : Switch β} {first second : Space β} {held : Multiset Handle} {handle : Handle}

/-- The spaces have the same objects, but for what the switch is set to, however often they are counted. -/
structure Loosely (switch : Switch β) (first second : Space β) : Prop where
  roots : second.roots = first.roots
  modules : second.modules = first.modules
  definitions : second.definitions = first.definitions
  heap : first.heap.Like switch.likeness.loose second.heap

theorem Loosely.refl (switch : Switch β) (space : Space β) : space.Loosely switch space :=
  ⟨rfl, rfl, rfl, .refl _⟩

section Loosely

variable (loosely : first.Loosely switch second)
include loosely

theorem Loosely.own : second.own = first.own := by
  rw [Space.own, Space.own, rootHandles, rootHandles, loosely.roots, loosely.modules]

theorem Loosely.exists_object {object : Object β} (found : first.heap.get? handle = some object) :
    ∃ object', second.heap.get? handle = some object' ∧ switch.Objects handle object object' := by
  have related := loosely.heap.get? handle
  rw [found] at related
  generalize second.heap.get? handle = shown at related ⊢
  cases related with
  | some related => exact ⟨_, rfl, related⟩

theorem Loosely.mem_references {holder : Handle} {object : Object β} (found : first.heap.get? holder = some object)
    (child : handle ∈ object.children) (apart : handle ∉ switch.values) :
    handle ∈ second.heap.references Object.children := by
  obtain ⟨object', found', related⟩ := loosely.exists_object found
  have counted : handle ∈ object'.children := by
    have same := Heap.count_eq_of_forall₂ (switch.likeness.children related) apart
    rw [← List.count_pos_iff, same, List.count_pos_iff]
    exact child
  exact Heap.mem_references found' counted

theorem Loosely.retain (handle : Handle) : first.Loosely switch (second.retain handle) :=
  { loosely with heap := loosely.heap.acquire_second handle }

theorem Loosely.release (exact : second.Exact (handle ::ₘ held))
    (kept : handle ∈ held + second.own ∨ handle ∈ second.heap.references Object.children) :
    first.Loosely switch (second.release handle) := by
  cases started : second.roots with
  | none => rwa [release_of_ended exact started]
  | some roots =>
    have counted := exact.started (by simp [started])
    rw [Multiset.cons_add] at counted
    exact { loosely with heap := loosely.heap.release_second counted kept }

theorem Loosely.set {name : String} {globals : Bindings Handle} {value value' : Handle} {change : Object β → Object β}
    (found : first.heap.get? switch.module = some (.moduleObject { name, globals := globals.insert switch.name value }))
    (listed : value ∈ switch.values) (listed' : value' ∈ switch.values)
    (sets : ∀ object', second.heap.get? switch.module = some object' →
      change object' = .moduleObject { name, globals := globals.insert switch.name value' }) :
    first.Loosely switch (second.update switch.module change) :=
  { loosely with
    heap := loosely.heap.update_second found fun object' found' => by
      rw [sets object' found']
      exact .switched name globals listed listed' }

theorem Loosely.setattr {name : String} {globals : Bindings Handle} {value value' : Handle} {bound : Object β}
    (exact : second.Exact held)
    (found : first.heap.get? switch.module = some (.moduleObject { name, globals := globals.insert switch.name value }))
    (listed : value ∈ switch.values) (listed' : value' ∈ switch.values)
    (values : ∀ value ∈ switch.values, value ∈ first.own) (live : second.heap.get? value' = some bound)
    (typed : ∃ typeName, second.typeNameOf switch.module = .ok typeName) :
    ∃ after, (Space.setattr switch.module switch.name value').run second = .ok ((), after) ∧
      first.Loosely switch after := by
  have started := started_of_get? exact live
  obtain ⟨object', found', related⟩ := loosely.exists_object found
  obtain ⟨earlier, listedEarlier, rfl⟩ := related.exists_value listed
  let change : Object β → Object β := withSettable ((globals.insert switch.name earlier).insert switch.name value')
  have shown := object_eq_ok.mpr ⟨started, found'⟩
  have ran : (Space.setattr switch.module switch.name value').run second = .ok ((), _) :=
    setattr_eq_ok.mpr ⟨⟨bound, object_eq_ok.mpr ⟨started, live⟩⟩, typed, _, _, shown, rfl, rfl⟩
  refine ⟨_, ran, ?_⟩
  have altered : first.Loosely switch ((second.retain value').update switch.module change) := by
    refine (loosely.retain value').set found listed listed' fun object' here => ?_
    have same : object' = _ := Option.some.inj (here.symm.trans ((Heap.get?_acquire _ _ _).trans found'))
    simp only [same, change, withSettable, Bindings.insert_insert]
  have path := path_setattr (by rwa [zero_add] : second.Exact (0 + held)) switch.name
    ⟨bound, object_eq_ok.mpr ⟨started, live⟩⟩ shown rfl
  have exactAltered := Path.exact path (by rwa [zero_add])
  simp only [Bindings.get?_insert, if_true, Option.toList_some] at exactAltered ⊢
  refine altered.release (by simpa using exactAltered) (Or.inl (Multiset.mem_add.mpr (Or.inr ?_)))
  rw [altered.own]
  exact values earlier listedEarlier

theorem Loosely.like (exact : first.Exact held) (exact' : second.Exact held)
    (values : first.roots.isSome → ∀ value ∈ switch.values, value ∈ first.rootHandles) (fixes : first.Fixes switch)
    (listed : switch.module ∈ first.modules.values) : first.Like switch second where
  roots := loosely.roots
  modules := loosely.modules
  definitions := loosely.definitions
  heap := by
    cases started : first.roots with
    | none =>
      rw [(exact.ended started).1, (exact'.ended (loosely.roots.trans started)).1]
      exact .refl _
    | some roots =>
      have counted := exact.started (by simp [started])
      have counted' := exact'.started (by simp [loosely.roots, started])
      rw [loosely.own] at counted'
      exact loosely.heap.counted counted counted'
  sound := ⟨exact.sound, exact'.sound⟩
  held := values
  differ handle different := by
    have related := loosely.heap.get? handle
    generalize first.heap.get? handle = shown at related different
    generalize second.heap.get? handle = shown' at related different
    cases related with
    | none => exact absurd rfl different
    | some related =>
      cases related with
      | same => exact absurd rfl different
      | switched => exact listed
  fixes := fixes

end Loosely

end Guest.Space

theorem Flag.mem_values {flag : Flag} {handle : Handle} :
    handle ∈ (flag.at flag.space).values ↔ handle ∈ flag.values := by
  rw [Flag.at, if_pos rfl]

def Flag.ref (flag : Flag) : Ref :=
  { space := flag.space, handle := flag.module }

namespace World

variable {flag : Flag} {loose : Multiset Ref} {first second : World} {handle : Handle}

structure Aside (flag : Flag) (loose : Multiset Ref) (first second : World) : Prop where
  exact : second.Exact loose
  space : (first.space flag.space).Loosely (flag.at flag.space) (second.space flag.space)
  others : ∀ id, id ≠ flag.space → second.space id = first.space id
  size : second.spaces.size = first.spaces.size
  plain : second.plain = first.plain

theorem Aside.refl (flag : Flag) (exact : first.Exact loose) : first.Aside flag loose first :=
  ⟨exact, .refl _ _, fun _ _ => rfl, rfl, rfl⟩

section Aside

variable (aside : first.Aside flag loose second)
include aside

theorem Aside.outside : second.outside = first.outside := by
  rw [← outside_plain, aside.plain, outside_plain]

theorem Aside.setSpace {loose' : Multiset Ref} {space : Space} (known : flag.space.index < second.spaces.size)
    (leads : Leads .lasting (second, loose) (second.setSpace flag.space space, loose'))
    (loosely : (first.space flag.space).Loosely (flag.at flag.space) space) :
    first.Aside flag loose' (second.setSpace flag.space space) where
  exact := by
    have framed : second.Exact (loose + 0) := by
      rw [add_zero]
      exact aside.exact
    simpa using leads.exact framed
  space := by rwa [space_setSpace known, if_pos rfl]
  others id apart := by
    rw [space_setSpace known, if_neg apart]
    exact aside.others id apart
  size := by rw [size_setSpace, aside.size]
  plain := aside.plain

theorem Aside.live {object : Guest.Object Code} (found : first.get? { space := flag.space, handle } = some object) :
    second.Live { space := flag.space, handle } := by
  obtain ⟨object', found', -⟩ := aside.space.exists_object found
  exact live_of_get? found'

theorem Aside.retain {object : Guest.Object Code} (found : first.get? { space := flag.space, handle } = some object) :
    first.Aside flag ({ space := flag.space, handle } ::ₘ loose) (second.retain { space := flag.space, handle }) := by
  have live := aside.live found
  have framed : second.Exact (loose + 0) := by
    rw [add_zero]
    exact aside.exact
  have leads := leads_retain .lasting framed live
  rw [World.retain, updateSpace_eq_setSpace] at leads ⊢
  exact aside.setSpace live.1 leads (aside.space.retain handle)

theorem Aside.with_trace (trace : Array String) : first.Aside flag loose { second with trace } :=
  ⟨aside.exact.with_trace trace, aside.space, aside.others, aside.size, aside.plain⟩

theorem Aside.twins (exact : first.Exact loose) (alike : first.Alike flag first)
    (listed : flag.module ∈ (first.space flag.space).modules.values) : first.Twins flag loose second where
  exact := exact
  exact' := aside.exact
  alike := by
    refine ⟨fun id => ?_, aside.size, aside.plain⟩
    by_cases here : id = flag.space
    · subst here
      have same := aside.exact.spaces flag.space
      rw [aside.outside] at same
      exact aside.space.like (exact.spaces flag.space) same (alike.spaces flag.space).held
        (alike.spaces flag.space).fixes listed
    · rw [aside.others id here]
      exact alike.spaces id

end Aside

theorem Aside.release (aside : first.Aside flag ({ space := flag.space, handle } ::ₘ loose) second)
    (kept : { space := flag.space, handle } ∈ loose ∨ handle ∈ (first.space flag.space).own ∨
      ∃ holder object, first.get? { space := flag.space, handle := holder } = some object ∧ handle ∈ object.children ∧
        handle ∉ (flag.at flag.space).values) :
    first.Aside flag loose (second.release { space := flag.space, handle }) := by
  have framed : second.Exact ({ space := flag.space, handle } ::ₘ loose + 0) := by
    rw [add_zero]
    exact aside.exact
  have leads := leads_release .lasting framed
  have known : flag.space.index < second.spaces.size := aside.exact.known { space := flag.space, handle } (by simp)
  have exact := aside.exact.spaces flag.space
  rw [Multiset.cons_add, heldIn_cons, if_pos rfl] at exact
  rw [World.release, updateSpace_eq_setSpace] at leads ⊢
  refine aside.setSpace known leads (aside.space.release exact ?_)
  rcases kept with outside | own | ⟨holder, object, found, child, apart⟩
  · exact Or.inl (Multiset.mem_add.mpr (Or.inl (mem_heldIn (Multiset.mem_add.mpr (Or.inl outside)))))
  · refine Or.inl (Multiset.mem_add.mpr (Or.inr ?_))
    rwa [aside.space.own]
  · exact Or.inr (aside.space.mem_references found child apart)

/-- The flag is a global of a module whose function sets it, and is set to one of the truth values of its space. -/
structure Tuned (world : World) (flag : Flag) (roots : Guest.Roots) (name : String) (globals : Bindings Handle)
    (value function : Handle) : Prop where
  rooted : (world.space flag.space).roots = some roots
  typed : (world.space flag.space).Typed
  values : flag.values = [roots.trueValue, roots.falseValue]
  set : value ∈ flag.values
  module : world.get? flag.ref =
    some (.moduleObject { name, globals := globals.insert Registry.debugGlobal value })
  bound : globals.get? Registry.Service.debugOn.name = some function
  function : world.get? { space := flag.space, handle := function } = some (.function
    { name := Registry.Service.debugOn.name, bound := some flag.module, body := .service .debugOn })

section Tuned

variable {roots : Guest.Roots} {name : String} {globals : Bindings Handle} {value function : Handle}
  (tuned : first.Tuned flag roots name globals value function)
include tuned

theorem Tuned.mem_own (root : handle ∈ roots.handles) : handle ∈ (first.space flag.space).own := by
  refine Multiset.mem_add.mpr (Or.inr (Multiset.mem_coe.mpr ?_))
  rwa [Guest.Space.rootHandles, tuned.rooted, Option.map_some, Option.getD_some]

theorem Tuned.exists_object (exact : first.Exact loose) (root : handle ∈ roots.handles) :
    ∃ object, first.get? { space := flag.space, handle } = some object := by
  refine (exact.spaces flag.space).has_root ?_
  rwa [Guest.Space.rootHandles, tuned.rooted, Option.map_some, Option.getD_some]

theorem Tuned.root_of_value (listed : handle ∈ flag.values) : handle ∈ roots.handles := by
  rw [tuned.values] at listed
  rcases List.mem_pair.mp listed with rfl | rfl <;> simp [Guest.Roots.handles]

theorem Tuned.run_setattr (exact : first.Exact loose) {loose' : Multiset Ref} (aside : first.Aside flag loose' second)
    {value' : Handle} (listed : value' ∈ flag.values) :
    ∃ after, (Act.setattr flag.space flag.ref Registry.debugGlobal
        { space := flag.space, handle := value' }).run second = (.ok (), after) ∧ first.Aside flag loose' after := by
  have exactHere := aside.exact.spaces flag.space
  obtain ⟨object, found, -⟩ := aside.space.exists_object tuned.module
  obtain ⟨bound, shown⟩ := tuned.exists_object exact (tuned.root_of_value listed)
  obtain ⟨bound', live, -⟩ := aside.space.exists_object shown
  have typed : ∃ typeName, (second.space flag.space).typeNameOf flag.module = .ok typeName := by
    refine (exactHere.closed fun roots => ?_).exists_typeNameOf ⟨object, found⟩
      (Guest.Space.started_of_get? exactHere found)
    rw [aside.space.roots]
    exact tuned.typed roots
  obtain ⟨space, ran, loosely⟩ := aside.space.setattr exactHere tuned.module (Flag.mem_values.mpr tuned.set)
    (Flag.mem_values.mpr listed)
    (fun value member => tuned.mem_own (tuned.root_of_value (Flag.mem_values.mp member))) live typed
  have done : (Act.setattr flag.space flag.ref Registry.debugGlobal
      { space := flag.space, handle := value' }).run second = (.ok (), second.setSpace flag.space space) := by
    have ranHere : (Guest.Space.setattr flag.ref.handle Registry.debugGlobal value').run (second.space flag.space) =
      .ok ((), space) := ran
    rw [Act.setattr, Act.run_onSpace, ranHere]
  have sets : Act.Balanced .lasting [] 0 (Act.setattr flag.space flag.ref
      Registry.debugGlobal { space := flag.space, handle := value' }) fun _ => 0 := Act.balanced_setattr _ _ _
  have leads := (sets.leads_ok (by rw [zero_add]; exact aside.exact) done).frame
    (knows_add.mp aside.exact.known).1
  rw [zero_add] at leads
  exact ⟨_, done, aside.setSpace (known_of_get? found) leads loosely⟩

theorem Tuned.run_acquire (exact : first.Exact loose) {loose' : Multiset Ref} (aside : first.Aside flag loose' second)
    (pick : Guest.Roots → Handle) (root : pick roots ∈ roots.handles) :
    let ref : Ref := { space := flag.space, handle := pick roots }
    (Act.ownedBy flag.space
      (Guest.Space.read (·.rootsNow) >>= fun roots => Guest.Space.acquire (pick roots))).run second =
        (.ok ref, second.retain ref) ∧ first.Aside flag (ref ::ₘ loose') (second.retain ref) := by
  intro ref
  obtain ⟨object, shown⟩ := tuned.exists_object exact root
  obtain ⟨object', live, -⟩ := aside.space.exists_object shown
  refine ⟨?_, aside.retain shown⟩
  have started := Guest.Space.started_of_get? (aside.exact.spaces flag.space) live
  have rooted : (second.space flag.space).rootsNow = .ok roots :=
    Guest.Space.rootsNow_eq_ok.mpr (aside.space.roots.trans tuned.rooted)
  have taken : (Guest.Space.acquire (pick roots)).run (second.space flag.space) =
      .ok (pick roots, (second.space flag.space).retain (pick roots)) :=
    Guest.Space.acquire_eq_ok.mpr ⟨⟨object', Guest.Space.object_eq_ok.mpr ⟨started, live⟩⟩, rfl, rfl⟩
  have ran : (Guest.Space.read (·.rootsNow) >>= fun roots => Guest.Space.acquire (pick roots)).run
      (second.space flag.space) = .ok (pick roots, (second.space flag.space).retain (pick roots)) :=
    Guest.Op.run_bind_eq_ok.mpr ⟨roots, _, Guest.Op.run_read_eq_ok.mpr ⟨rooted, rfl⟩, taken⟩
  rw [Act.run_ownedBy, ran, World.retain, updateSpace_eq_setSpace]

theorem Tuned.run_setTracing (exact : first.Exact loose) {loose' : Multiset Ref}
    (aside : first.Aside flag loose' second) :
    let invocation : Invocation := { space := flag.space, bound? := some flag.ref, arguments := [], keywords := [] }
    let none : Ref := { space := flag.space, handle := roots.noneValue }
    ∃ after, (Registry.setTracing invocation true).run second = (.ok none, after) ∧
      first.Aside flag (none ::ₘ loose') after := by
  intro invocation none
  let truth : Ref := { space := flag.space, handle := roots.trueValue }
  obtain ⟨ranTruth, taken⟩ := tuned.run_acquire exact aside (·.trueValue) (by simp [Guest.Roots.handles])
  obtain ⟨bound, ranBound, aside⟩ := tuned.run_setattr exact taken
    (show roots.trueValue ∈ flag.values by rw [tuned.values]; simp)
  have released : first.Aside flag loose' (bound.release truth) :=
    aside.release (Or.inr (Or.inl (tuned.mem_own (by simp [Guest.Roots.handles]))))
  obtain ⟨trace, ranTrace⟩ := Engine.run_serviceTrace (bound.release truth) invocation "debug on"
  obtain ⟨ranNone, ended⟩ := tuned.run_acquire exact (released.with_trace trace) (·.noneValue)
    (by simp [Guest.Roots.handles])
  refine ⟨_, ?_, ended⟩
  have ranLending : (Act.lending [truth] (Act.setattr flag.space flag.ref Registry.debugGlobal truth)).run
      (second.retain truth) = (.ok (), bound.release truth) := by
    rw [Act.run_lending, ranBound]
    rfl
  have ranBool : (Act.ownedBy flag.space (Guest.Space.boolValue true)).run second = (.ok truth, second.retain truth) :=
    ranTruth
  have ranModule : (liftM invocation.bound : GuestAct Ref).run second = (.ok flag.ref, second) := rfl
  unfold Registry.setTracing
  rw [Act.run_bind_ok ranModule]
  rw [Act.run_bind_ok ranBool, Act.run_bind_ok ranLending, if_pos rfl, Act.run_bind_ok ranTrace]
  exact ranNone

theorem Tuned.run_callMethod (exact : first.Exact loose) (held : flag.ref ∈ loose) (engine : Engine) :
    let none : Ref := { space := flag.space, handle := roots.noneValue }
    ∃ after, (engine.next.callMethod flag.space flag.ref Registry.Service.debugOn.name []).run first =
      (.ok none, after) ∧
      first.Aside flag (none ::ₘ loose) after := by
  intro none
  let setter : Ref := { space := flag.space, handle := function }
  have global : (globals.insert Registry.debugGlobal value).get? Registry.Service.debugOn.name = some function := by
    rw [Bindings.get?_insert, if_neg (by decide)]
    exact tuned.bound
  -- The function is taken, and the module for it.
  have fetched : (Act.getattr flag.space flag.ref Registry.Service.debugOn.name).run first =
      (.ok setter, first.retain setter) :=
    Act.run_getattr_global setter exact tuned.module global rfl tuned.function
  have taken : first.Aside flag (setter ::ₘ loose) (first.retain setter) :=
    (Aside.refl flag exact).retain tuned.function
  have callable : (first.retain setter).get? setter = some (.function
      { name := Registry.Service.debugOn.name, bound := some flag.module, body := .service .debugOn }) := by
    rw [get?_retain]
    exact tuned.function
  have called := Engine.run_call_function engine taken.exact callable [] []
    (rfl : some flag.ref = _) (rfl : [flag.ref] = _)
  have lent : first.Aside flag (flag.ref ::ₘ setter ::ₘ loose) ((first.retain setter).retain flag.ref) :=
    taken.retain tuned.module
  -- It sets the flag, and both are given back.
  obtain ⟨after, served, ended⟩ := tuned.run_setTracing exact lent
  have ran : (engine.next.call flag.space setter [] []).run (first.retain setter) =
      (.ok none, after.release flag.ref) := by
    have ranBody : (engine.runCode (.service .debugOn)
        { space := flag.space, bound? := some flag.ref, arguments := [], keywords := [] }).run
          ((first.retain setter).retainAll [flag.ref]) = (.ok none, after) := served
    refine called.trans ?_
    rw [Act.run_lending, ranBody]
    rfl
  refine ⟨(after.release flag.ref).release setter, ?_, ?_⟩
  · unfold Engine.callMethod
    rw [Act.run_bind_ok fetched, Act.run_lending, ran]
    rfl
  · rw [Multiset.cons_swap, Multiset.cons_swap none] at ended
    refine (ended.release (Or.inl (Multiset.mem_cons_of_mem (Multiset.mem_cons_of_mem held)))).release (Or.inr ?_)
    by_cases listed : function ∈ flag.values
    · exact Or.inl (tuned.mem_own (tuned.root_of_value listed))
    · refine Or.inr ⟨flag.module, _, tuned.module, ?_, mt Flag.mem_values.mp listed⟩
      exact Bindings.mem_values.mpr ⟨_, global⟩

end Tuned

end World

end ObjectBridge

import ObjectBridge.Guest.Attributes
import ObjectBridge.Guest.Dictionary
import ObjectBridge.Guest.Types
import ObjectBridge.Proofs.Space.Exact

/-!
Operations on a space, seen from the references that are held outside it. An operation is balanced if,
from an exact space, it goes by steps to a space in which the references it was given are replaced by
those it answers. An operation that raises leaves the space as it was, so nothing is asked of it then.
-/

namespace ObjectBridge.Guest

variable {α β γ : Type}

namespace Op

/-- The operation, if it succeeds, takes the references `owned` and leaves those of its answer. A space
that is finalized has none to answer. -/
def Balanced (extent : Extent) (owned : Multiset Handle) (operation : Op β α)
    (answer : α → Multiset Handle) : Prop :=
  ∀ space frame, space.Exact (owned + frame) → ∀ result after,
    operation.run space = .ok (result, after) →
      Space.Path extent (space, owned) (after, answer result) ∧
        (answer result = 0 ∨ after.roots.isSome)

section Run

variable {space : Space β}

theorem run_bind_eq_ok {operation : Op β α} {next : α → Op β γ} {result : γ × Space β} :
    (operation >>= next).run space = .ok result ↔
      ∃ answer middle, operation.run space = .ok (answer, middle) ∧
        (next answer).run middle = .ok result := by
  rw [StateT.run_bind]
  cases operation.run space with
  | error exception => simp [bind, Except.bind]
  | ok pair =>
    obtain ⟨answer, middle⟩ := pair
    simp [bind, Except.bind]

theorem run_pure_eq_ok {value result : α} {after : Space β} :
    (pure value : Op β α).run space = .ok (result, after) ↔ result = value ∧ space = after := by
  rw [StateT.run_pure]
  simp [pure, Except.pure, eq_comm (a := result)]

theorem run_read (reader : Space β → Except Exception α) :
    (Space.read reader).run space = (reader space).map (·, space) := by
  cases found : reader space <;>
    simp [Space.read, StateT.run, get, getThe, MonadStateOf.get, StateT.get, pure, Except.pure,
      found, liftM, monadLift, MonadLift.monadLift, StateT.lift, bind, StateT.bind, Except.bind,
      Except.map]

theorem run_read_eq_ok {reader : Space β → Except Exception α} {result : α} {after : Space β} :
    (Space.read reader).run space = .ok (result, after) ↔
      reader space = .ok result ∧ space = after := by
  rw [run_read]
  cases reader space <;> simp [Except.map]

theorem run_modify_eq_ok {change : Space β → Space β} {result : PUnit} {after : Space β} :
    (modify change : Op β PUnit).run space = .ok (result, after) ↔ after = change space := by
  simp [modify, modifyGet, MonadStateOf.modifyGet, StateT.modifyGet, StateT.run, pure, Except.pure,
    eq_comm]

theorem run_get_eq_ok {result after : Space β} :
    (get : Op β (Space β)).run space = .ok (result, after) ↔ space = result ∧ space = after := by
  simp [get, getThe, MonadStateOf.get, StateT.get, StateT.run, pure, Except.pure]

theorem run_set_eq_ok {state : Space β} {result : PUnit} {after : Space β} :
    (set state : Op β PUnit).run space = .ok (result, after) ↔ after = state := by
  rw [StateT.run_set]
  simp [pure, Except.pure, eq_comm]

theorem run_throw_ne_ok {exception : Exception} {result : α × Space β} :
    (throw exception : Op β α).run space = .ok result ↔ False := by
  simp [throw, throwThe, MonadExceptOf.throw, StateT.run, StateT.lift, bind, Except.bind]

theorem run_map_eq_ok {operation : Op β α} {change : α → γ} {result : γ} {after : Space β} :
    (change <$> operation).run space = .ok (result, after) ↔
      ∃ answer, operation.run space = .ok (answer, after) ∧ result = change answer := by
  rw [map_eq_pure_bind, run_bind_eq_ok]
  constructor
  · rintro ⟨answer, middle, ran, rest⟩
    obtain ⟨rfl, rfl⟩ := run_pure_eq_ok.mp rest
    exact ⟨answer, ran, rfl⟩
  · rintro ⟨answer, ran, rfl⟩
    exact ⟨answer, after, ran, run_pure_eq_ok.mpr ⟨rfl, rfl⟩⟩

theorem run_discard_eq_ok {operation : Op β α} {result : Unit} {after : Space β} :
    (discard operation).run space = .ok (result, after) ↔
      ∃ answer, operation.run space = .ok (answer, after) := by
  rw [Functor.discard, LawfulFunctor.map_const, Function.comp_apply, run_map_eq_ok]
  simp

theorem run_forM_eq_ok {check : α → Op β PUnit} (passes : α → Space β → Prop)
    (each : ∀ item space result after,
      (check item).run space = .ok (result, after) ↔ passes item space ∧ space = after)
    {items : List α} {result : PUnit} {after : Space β} :
    (forM items check).run space = .ok (result, after) ↔
      (∀ item ∈ items, passes item space) ∧ space = after := by
  induction items with
  | nil =>
    rw [List.forM_nil, run_pure_eq_ok]
    simp
  | cons item rest ih =>
    simp only [List.forM_cons, run_bind_eq_ok, each, List.forall_mem_cons]
    constructor
    · rintro ⟨_, _, ⟨passed, rfl⟩, later⟩
      obtain ⟨others, rfl⟩ := ih.mp later
      exact ⟨⟨passed, others⟩, rfl⟩
    · rintro ⟨⟨passed, others⟩, rfl⟩
      exact ⟨⟨⟩, _, ⟨passed, rfl⟩, ih.mpr ⟨others, rfl⟩⟩

end Run

theorem Balanced.read {extent : Extent} {reader : Space β → Except Exception α} :
    Balanced extent 0 (Space.read reader) (fun _ => 0) := by
  intro space frame exact result after ran
  obtain ⟨-, rfl⟩ := run_read_eq_ok.mp ran
  exact ⟨.refl, Or.inl rfl⟩

theorem Balanced.bind {extent : Extent} {owned : Multiset Handle} {operation : Op β α}
    {next : α → Op β γ} {middle : α → Multiset Handle} {answer : γ → Multiset Handle}
    (first : Balanced extent owned operation middle)
    (rest : ∀ value, Balanced extent (middle value) (next value) answer) :
    Balanced extent owned (operation >>= next) answer := by
  intro space frame exact result after ran
  obtain ⟨value, between, ranFirst, ranRest⟩ := run_bind_eq_ok.mp ran
  obtain ⟨path, -⟩ := first space frame exact value between ranFirst
  obtain ⟨later, answered⟩ := rest value between frame (Space.Path.exact path exact) result after ranRest
  exact ⟨path.trans later, answered⟩

theorem Balanced.extends_path {extent : Extent} {owned rest : Multiset Handle} {operation : Op β α}
    {answer : α → Multiset Handle} (balanced : Balanced extent owned operation answer)
    {start : Space β × Multiset Handle} {space after : Space β} {result : α}
    (path : Space.Path extent start (space, owned + rest)) (exact : start.1.Exact start.2)
    (ran : operation.run space = .ok (result, after)) :
    Space.Path extent start (after, answer result + rest) := by
  have here : space.Exact (owned + rest + 0) := Space.Path.exact path (by simpa using exact)
  exact path.trans ((balanced space rest (by simpa using here) result after ran).1.frame rest)

end Op

namespace Space

open Op

section Views

variable {space : Space β}

theorem rootsNow_eq_ok {roots : Roots} : space.rootsNow = .ok roots ↔ space.roots = some roots := by
  unfold rootsNow
  split <;> simp_all

theorem object_eq_ok {handle : Handle} {object : Object β} :
    space.object handle = .ok object ↔ space.roots.isSome ∧ space.heap.get? handle = some object := by
  unfold Space.object rootsNow
  cases space.roots <;> cases space.heap.get? handle <;>
    simp [bind, Except.bind]

theorem exists_cell_of_object {handle : Handle} {object : Object β}
    (found : space.object handle = .ok object) : ∃ cell, space.heap.cell? handle = some cell := by
  obtain ⟨cell, here, -⟩ := Option.map_eq_some_iff.mp (object_eq_ok.mp found).2
  exact ⟨cell, here⟩

end Views

theorem acquire_eq_ok {space after : Space β} {handle result : Handle} :
    (acquire handle).run space = .ok (result, after) ↔
      (∃ object, space.object handle = .ok object) ∧ result = handle ∧ after = space.retain handle := by
  simp only [acquire, run_bind_eq_ok, run_read_eq_ok, run_modify_eq_ok, run_pure_eq_ok]
  constructor
  · rintro ⟨object, _, ⟨found, rfl⟩, _, _, rfl, rfl, rfl⟩
    exact ⟨⟨object, found⟩, rfl, rfl⟩
  · rintro ⟨⟨object, found⟩, rfl, rfl⟩
    exact ⟨object, space, ⟨found, rfl⟩, ⟨⟩, _, rfl, rfl, rfl⟩

theorem allocate_eq_ok {space after : Space β} {object : Object β} {handle : Handle} :
    (allocate object).run space = .ok (handle, after) ↔
      space.roots.isSome ∧ handle = (space.heap.allocate object).1 ∧
        after = { space with heap := (space.heap.allocate object).2 } := by
  simp only [allocate, run_bind_eq_ok, run_read_eq_ok, run_get_eq_ok, run_set_eq_ok, run_pure_eq_ok,
    rootsNow_eq_ok]
  constructor
  · rintro ⟨roots, _, ⟨started, rfl⟩, _, _, ⟨rfl, rfl⟩, _, _, rfl, rfl, rfl⟩
    exact ⟨by simp [started], rfl, rfl⟩
  · rintro ⟨started, rfl, rfl⟩
    obtain ⟨roots, started⟩ := Option.isSome_iff_exists.mp started
    exact ⟨roots, space, ⟨started, rfl⟩, space, space, ⟨rfl, rfl⟩, ⟨⟩, _, rfl, rfl, rfl⟩

theorem balanced_acquire (extent : Extent) (handle : Handle) :
    Op.Balanced (β := β) extent 0 (acquire handle) ({·}) := by
  intro space frame exact result after ran
  obtain ⟨⟨object, found⟩, rfl, rfl⟩ := acquire_eq_ok.mp ran
  exact ⟨path_retain extent exact fun _ => exists_cell_of_object found,
    Or.inr (object_eq_ok.mp found).1⟩

theorem path_allocate (extent : Extent) {space : Space β} (started : space.roots.isSome)
    (object : Object β) (held : Multiset Handle) :
    Path extent (space, (object.children : Multiset Handle) + held)
      ({ space with heap := (space.heap.allocate object).2 },
        (space.heap.allocate object).1 ::ₘ held) :=
  .single (.heap started (.allocate object))

theorem balanced_allocate (extent : Extent) (object : Object β) :
    Op.Balanced extent object.children (allocate object) ({·}) := by
  intro space frame exact handle after ran
  obtain ⟨started, rfl, rfl⟩ := allocate_eq_ok.mp ran
  exact ⟨by simpa using path_allocate extent started object 0, Or.inr started⟩

theorem balanced_noneValue (extent : Extent) :
    Op.Balanced (β := β) extent 0 noneValue ({·}) :=
  Balanced.read.bind fun _ => balanced_acquire extent _

theorem balanced_boolValue (extent : Extent) (value : Bool) :
    Op.Balanced (β := β) extent 0 (boolValue value) ({·}) :=
  Balanced.read.bind fun _ => balanced_acquire extent _

theorem balanced_newInt (extent : Extent) (value : Int64) :
    Op.Balanced (β := β) extent 0 (newInt value) ({·}) :=
  balanced_allocate extent (.int value)

theorem balanced_newText (extent : Extent) (text : String) :
    Op.Balanced (β := β) extent 0 (newText text) ({·}) :=
  balanced_allocate extent (.str text)

theorem run_forM_object_eq_ok {space : Space β} {items : List α} {handle : α → Handle}
    {result : PUnit} {after : Space β} :
    (forM items fun item => discard (read (·.object (handle item)))).run space = .ok (result, after) ↔
      (∀ item ∈ items, ∃ object, space.object (handle item) = .ok object) ∧ space = after := by
  refine run_forM_eq_ok (fun item space => ∃ object, space.object (handle item) = .ok object)
    fun item space result after => ?_
  simp only [run_discard_eq_ok, run_read_eq_ok]
  exact exists_and_right

theorem newTuple_eq_ok {space after : Space β} {items : List Handle} {handle : Handle} :
    (newTuple items).run space = .ok (handle, after) ↔
      (∀ item ∈ items, ∃ object, space.object item = .ok object) ∧
        (allocate (.tuple items)).run (space.retainAll items) = .ok (handle, after) := by
  simp only [newTuple, List.forM_eq_forM, run_bind_eq_ok, run_forM_object_eq_ok, run_modify_eq_ok]
  constructor
  · rintro ⟨_, _, ⟨live, rfl⟩, _, _, rfl, ran⟩
    exact ⟨live, ran⟩
  · rintro ⟨live, ran⟩
    exact ⟨⟨⟩, space, ⟨live, rfl⟩, ⟨⟩, _, rfl, ran⟩

theorem balanced_newTuple (extent : Extent) (items : List Handle) :
    Op.Balanced (β := β) extent 0 (newTuple items) ({·}) := by
  intro space frame exact handle after ran
  obtain ⟨live, ran⟩ := newTuple_eq_ok.mp ran
  have counted := path_retainAll extent exact fun _ item member =>
    exists_cell_of_object (live item member).choose_spec
  rw [add_zero] at counted
  obtain ⟨path, answered⟩ :=
    balanced_allocate extent (.tuple items) _ frame (Path.exact counted exact) _ _ ran
  exact ⟨counted.trans path, answered⟩

theorem newFunction_eq_ok {space after : Space β} {name : String} {bound : Option Handle} {body : β}
    {handle : Handle} :
    (newFunction name bound body).run space = .ok (handle, after) ↔
      (∀ state ∈ bound.toList, ∃ object, space.object state = .ok object) ∧
        (allocate (.function { name, bound, body })).run (space.retainAll bound.toList) =
          .ok (handle, after) := by
  cases bound with
  | none => simp [newFunction, retainAll]
  | some state =>
    simp only [newFunction, Option.forM_eq_forM, Option.forM_some, run_bind_eq_ok, run_discard_eq_ok, acquire_eq_ok]
    constructor
    · rintro ⟨_, _, ⟨_, live, rfl, rfl⟩, ran⟩
      exact ⟨by simpa using live, by simpa [retainAll] using ran⟩
    · rintro ⟨live, ran⟩
      exact ⟨⟨⟩, _, ⟨state, by simpa using live, rfl, rfl⟩, by simpa [retainAll] using ran⟩

theorem run_newFunction {space : Space β} {state : Handle} {object : Object β}
    (live : space.object state = .ok object) (name : String) (body : β) :
    (newFunction name (some state) body).run space =
      (allocate (.function { name, bound := some state, body })).run (space.retainAll [state]) := by
  have acquired := acquire_eq_ok.mpr ⟨⟨object, live⟩, rfl, rfl⟩
  have counted : (discard (acquire state) : Op β PUnit).run space = .ok (⟨⟩, space.retain state) :=
    run_discard_eq_ok.mpr ⟨state, acquired⟩
  rw [newFunction, Option.forM_eq_forM, Option.forM_some, StateT.run_bind, counted]
  rfl

theorem balanced_newFunction (extent : Extent) (name : String) (bound : Option Handle) (body : β) :
    Op.Balanced extent 0 (newFunction name bound body) ({·}) := by
  intro space frame exact handle after ran
  obtain ⟨live, ran⟩ := newFunction_eq_ok.mp ran
  have counted := path_retainAll extent exact fun _ state member =>
    exists_cell_of_object (live state member).choose_spec
  rw [add_zero] at counted
  obtain ⟨path, answered⟩ := balanced_allocate extent _ _ frame (Path.exact counted exact) _ _ ran
  exact ⟨counted.trans path, answered⟩

end Space

end ObjectBridge.Guest

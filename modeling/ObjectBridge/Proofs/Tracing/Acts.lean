import ObjectBridge.Proofs.Tracing.Worlds
import ObjectBridge.Proofs.World.Results

/-!
Acts in twin worlds. Two acts agree if in all twin worlds they come to the same and lead to twin worlds again,
with the references they were given replaced by those of their answer. The two are mostly one and the same; they
are told apart where a session is handed to them, which may be configured otherwise. Acts that are put together
from acts that agree do so themselves.
-/

namespace ObjectBridge

open Guest (Handle)

namespace Act

variable {ε ε' α γ : Type} {flag : Flag} {frame : Multiset Ref}

def Meets (flag : Flag) (frame : Multiset Ref) (world world' : World) (first second : Act ε α)
    (answer : α → Multiset Ref) : Prop :=
  ∃ result after after', first.run world = (result, after) ∧ second.run world' = (result, after') ∧
    after.Twins flag (left answer result + frame) after'

/-- In all twin worlds, if others hold what is borrowed, the acts come to the same and lead to twin worlds. -/
def Agrees (flag : Flag) (borrowed : List Ref) (owned : Multiset Ref) (first second : Act ε α)
    (answer : α → Multiset Ref) : Prop :=
  ∀ world world' frame, world.Twins flag (owned + frame) world' → (∀ ref ∈ borrowed, ref ∈ frame) →
    Meets flag frame world world' first second answer

section Meets

variable {world world' : World} {first second : Act ε α} {answer : α → Multiset Ref}

theorem Meets.pure {value : α} (twins : world.Twins flag (answer value + frame) world') :
    Meets flag frame world world' (pure value : Act ε α) (pure value) answer :=
  ⟨.ok value, world, world', rfl, rfl, twins⟩

theorem Meets.throw (error : ε) (twins : world.Twins flag frame world') :
    Meets flag frame world world' (throw error : Act ε α) (throw error) answer :=
  ⟨.error error, world, world', rfl, rfl, by rwa [left_error, zero_add]⟩

theorem Meets.lift (result : Except ε α) (same : ∀ value, answer value = 0) (twins : world.Twins flag frame world') :
    Meets flag frame world world' (liftM result : Act ε α) (liftM result) answer := by
  refine ⟨result, world, world', rfl, rfl, ?_⟩
  cases result <;> simpa [same] using twins

theorem Meets.lift_bind {result : Except ε α} {next next' : α → Act ε γ} {answer : γ → Multiset Ref}
    (twins : world.Twins flag frame world')
    (rest : ∀ value, result = .ok value → Meets flag frame world world' (next value) (next' value) answer) :
    Meets flag frame world world' (liftM result >>= next) (liftM result >>= next') answer := by
  cases result with
  | error error => exact ⟨.error error, world, world', rfl, rfl, by rwa [left_error, zero_add]⟩
  | ok value => exact rest value rfl

theorem Meets.bind {next next' : α → Act ε γ} {middle : α → Multiset Ref} {answer : γ → Multiset Ref}
    (begun : Meets flag frame world world' first second middle)
    (rest : ∀ value after after', first.run world = (.ok value, after) → second.run world' = (.ok value, after') →
      after.Twins flag (middle value + frame) after' →
        Meets flag frame after after' (next value) (next' value) answer) :
    Meets flag frame world world' (first >>= next) (second >>= next') answer := by
  obtain ⟨result, after, after', ran, ran', twins⟩ := begun
  cases result with
  | error error =>
    exact ⟨.error error, after, after', run_bind_error ran next, run_bind_error ran' next', twins⟩
  | ok value =>
    obtain ⟨result, last, last', went, went', ended⟩ := rest value after after' ran ran' twins
    exact ⟨result, last, last', (run_bind_ok ran next).trans went, (run_bind_ok ran' next').trans went', ended⟩

theorem Meets.get_bind {next next' : World → Act ε α}
    (rest : Meets flag frame world world' (next world) (next' world') answer) :
    Meets flag frame world world' (get >>= next) (get >>= next') answer :=
  rest

theorem Meets.change {update update' : World → World} {answer : Unit → Multiset Ref}
    (twins : (update world).Twins flag (answer () + frame) (update' world')) :
    Meets flag frame world world' (change update : Act ε Unit) (change update') answer :=
  ⟨.ok (), update world, update' world', rfl, rfl, twins⟩

theorem Meets.outcome (meets : Meets flag frame world world' first second answer) :
    Meets flag frame world world' (first.outcome : Act ε' (Except ε α)) second.outcome (left answer) := by
  obtain ⟨result, after, after', ran, ran', twins⟩ := meets
  exact ⟨.ok result, after, after', by rw [run_outcome, ran], by rw [run_outcome, ran'], twins⟩

theorem Meets.adapt (restate : ε → ε') (meets : Meets flag frame world world' first second answer) :
    Meets flag frame world world' (first.adapt restate) (second.adapt restate) answer := by
  obtain ⟨result, after, after', ran, ran', twins⟩ := meets
  refine ⟨result.mapError restate, after, after', by rw [run_adapt, ran], by rw [run_adapt, ran'], ?_⟩
  cases result <;> exact twins

theorem Meets.afterwards {update update' : World → World} {frame' : Multiset Ref}
    (meets : Meets flag frame' world world' first second answer)
    (then_ : ∀ result after after', first.run world = (result, after) → second.run world' = (result, after') →
      after.Twins flag (left answer result + frame') after' →
        (update after).Twins flag (left answer result + frame) (update' after')) :
    Meets flag frame world world' (first.afterwards update) (second.afterwards update') answer := by
  obtain ⟨result, after, after', ran, ran', twins⟩ := meets
  exact ⟨result, update after, update' after', by rw [run_afterwards, ran], by rw [run_afterwards, ran'],
    then_ result after after' ran ran' twins⟩

theorem Meets.lending {refs : List Ref}
    (meets : Meets flag ((refs : Multiset Ref) + frame) world world' first second answer) :
    Meets flag frame world world' (lending refs first) (lending refs second) answer := by
  refine meets.afterwards fun result after after' _ _ twins => ?_
  rw [add_left_comm] at twins
  exact twins.releaseAll

end Meets

section Agrees

variable {borrowed : List Ref} {owned : Multiset Ref} {first second : Act ε α} {answer : α → Multiset Ref}

theorem Agrees.pure {value : α} (same : answer value = owned) :
    Agrees flag borrowed owned (pure value : Act ε α) (pure value) answer :=
  fun _ _ _ twins _ => .pure (by rwa [same])

theorem Agrees.throw (error : ε) : Agrees flag borrowed 0 (throw error : Act ε α) (throw error) answer :=
  fun _ _ _ twins _ => .throw error (by rwa [zero_add] at twins)

theorem Agrees.throw_bind (error : ε) (next next' : α → Act ε γ) {answer : γ → Multiset Ref} :
    Agrees flag borrowed 0 ((MonadExcept.throw error : Act ε α) >>= next)
      ((MonadExcept.throw error : Act ε α) >>= next')
      answer :=
  fun world world' _ twins _ => ⟨.error error, world, world', rfl, rfl, by simpa using twins⟩

theorem Agrees.lift (result : Except ε α) :
    Agrees flag borrowed 0 (liftM result : Act ε α) (liftM result) fun _ => 0 :=
  fun _ _ _ twins _ => .lift result (fun _ => rfl) (by rwa [zero_add] at twins)

theorem Agrees.lift_bind {result : Except ε α} {next next' : α → Act ε γ} {answer : γ → Multiset Ref}
    (rest : ∀ value, result = .ok value → Agrees flag borrowed 0 (next value) (next' value) answer) :
    Agrees flag borrowed 0 (liftM result >>= next) (liftM result >>= next') answer := by
  cases result with
  | error error => exact .throw_bind error next next'
  | ok value => exact rest value rfl

theorem Agrees.view {reader : World → α}
    (same : ∀ world world' : World, world.Alike flag world' → reader world' = reader world) :
    Agrees flag borrowed owned (view reader : Act ε α) (view reader) fun _ => owned :=
  fun world world' _ twins _ =>
    ⟨.ok (reader world), world, world', rfl, by rw [← same world world' twins.alike]; rfl, twins⟩

theorem Agrees.mono {more : List Ref} (agrees : Agrees flag borrowed owned first second answer)
    (within : ∀ ref ∈ borrowed, ref ∈ more) : Agrees flag more owned first second answer :=
  fun world world' frame twins lent => agrees world world' frame twins fun ref member => lent ref (within ref member)

theorem Agrees.congr {owned' : Multiset Ref} {answer' : α → Multiset Ref}
    (agrees : Agrees flag borrowed owned first second answer) (same : owned' = owned)
    (alike : ∀ value, answer' value = answer value) : Agrees flag borrowed owned' first second answer' := by
  obtain rfl := same
  obtain rfl : answer' = answer := funext alike
  exact agrees

theorem Agrees.bind_of {next next' : α → Act ε γ} {property : α → Prop} {middle : α → Multiset Ref}
    {answer : γ → Multiset Ref} (begun : Agrees flag borrowed owned first second middle)
    (answers : Answers first property)
    (rest : ∀ value, property value → Agrees flag borrowed (middle value) (next value) (next' value) answer) :
    Agrees flag borrowed owned (first >>= next) (second >>= next') answer := by
  intro world world' frame twins lent
  refine (begun world world' frame twins lent).bind fun value after after' ran _ twins => ?_
  exact rest value (answers world value (by rw [ran])) after after' frame twins lent

theorem Agrees.bind {next next' : α → Act ε γ} {middle : α → Multiset Ref} {answer : γ → Multiset Ref}
    (begun : Agrees flag borrowed owned first second middle)
    (rest : ∀ value, Agrees flag borrowed (middle value) (next value) (next' value) answer) :
    Agrees flag borrowed owned (first >>= next) (second >>= next') answer :=
  begun.bind_of (.trivial first) fun value _ => rest value

theorem Agrees.get_bind {next next' : World → Act ε α}
    (rest : ∀ world world' frame, world.Twins flag (owned + frame) world' → (∀ ref ∈ borrowed, ref ∈ frame) →
      Meets flag frame world world' (next world) (next' world') answer) :
    Agrees flag borrowed owned (get >>= next) (get >>= next') answer :=
  rest

theorem Agrees.look {next : World → Act ε α}
    (same : ∀ world world' : World, world.Alike flag world' → next world' = next world)
    (rest : ∀ world, Agrees flag borrowed owned (next world) (next world) answer) :
    Agrees flag borrowed owned (get >>= next) (get >>= next) answer := by
  refine .get_bind fun world world' frame twins lent => ?_
  rw [same world world' twins.alike]
  exact rest world world world' frame twins lent

theorem Agrees.outcome (agrees : Agrees flag borrowed owned first second answer) :
    Agrees flag borrowed owned (first.outcome : Act ε' (Except ε α)) second.outcome (left answer) :=
  fun world world' frame twins lent => (agrees world world' frame twins lent).outcome

theorem Agrees.adapt (restate : ε → ε') (agrees : Agrees flag borrowed owned first second answer) :
    Agrees flag borrowed owned (first.adapt restate) (second.adapt restate) answer :=
  fun world world' frame twins lent => (agrees world world' frame twins lent).adapt restate

theorem Agrees.meets_of_held {refs : List Ref} {world world' : World}
    (agrees : Agrees flag (refs ++ borrowed) owned first second answer)
    (twins : world.Twins flag ((refs : Multiset Ref) + owned + frame) world') (lent : ∀ ref ∈ borrowed, ref ∈ frame) :
    Meets flag ((refs : Multiset Ref) + frame) world world' first second answer := by
  refine agrees world world' _ (by rwa [add_left_comm, ← add_assoc]) fun ref member => Multiset.mem_add.mpr ?_
  exact (List.mem_append.mp member).imp Multiset.mem_coe.mpr (lent ref)

theorem Agrees.lendingOwned {refs : List Ref} {total : Multiset Ref}
    (agrees : Agrees flag (refs ++ borrowed) owned first second answer) (sum : total = (refs : Multiset Ref) + owned) :
    Agrees flag borrowed total (lending refs first) (lending refs second) answer :=
  fun _ _ _ twins lent => (agrees.meets_of_held (sum ▸ twins) lent).lending

theorem Agrees.lending {refs : List Ref} {total : Multiset Ref}
    (agrees : Agrees flag (refs ++ borrowed) 0 first second answer) (sum : total = (refs : Multiset Ref)) :
    Agrees flag borrowed total (lending refs first) (lending refs second) answer :=
  agrees.lendingOwned (by rw [sum, add_zero])

theorem Agrees.lendingBoth {refs kept : List Ref}
    (agrees : Agrees flag ((refs ++ kept) ++ borrowed) 0 first second answer) :
    Agrees flag borrowed ((kept : Multiset Ref) + refs) (Act.lending (refs ++ kept) first)
      (Act.lending (refs ++ kept) second) answer :=
  agrees.lending (by rw [← Multiset.coe_add, add_comm])

theorem Agrees.onFailureUndo {refs : List Ref} {total : Multiset Ref} {undo undo' : World → World}
    (agrees : Agrees flag (refs ++ borrowed) owned first second answer) (sum : total = (refs : Multiset Ref) + owned)
    (undone : ∀ world world' frame, world.Twins flag ((refs : Multiset Ref) + frame) world' →
      (undo world).Twins flag frame (undo' world')) :
    Agrees flag borrowed total (first.onFailure undo) (second.onFailure undo')
      fun value => (refs : Multiset Ref) + answer value := by
  intro world world' frame twins lent
  obtain ⟨result, after, after', ran, ran', ended⟩ := agrees.meets_of_held (sum ▸ twins) lent
  cases result with
  | ok value =>
    refine ⟨.ok value, after, after', by rw [run_onFailure, ran], by rw [run_onFailure, ran'], ?_⟩
    rwa [left_ok, add_left_comm, ← add_assoc] at ended
  | error error =>
    refine ⟨.error error, undo after, undo' after', by rw [run_onFailure, ran], by rw [run_onFailure, ran'], ?_⟩
    rw [left_error, zero_add] at ended ⊢
    exact undone after after' frame ended

theorem Agrees.onFailureOwned {refs : List Ref} {total : Multiset Ref}
    (agrees : Agrees flag (refs ++ borrowed) owned first second answer) (sum : total = (refs : Multiset Ref) + owned) :
    Agrees flag borrowed total (first.onFailure (·.releaseAll refs)) (second.onFailure (·.releaseAll refs))
      fun value => (refs : Multiset Ref) + answer value :=
  agrees.onFailureUndo sum fun _ _ _ twins => twins.releaseAll

theorem Agrees.onFailure {refs : List Ref} (agrees : Agrees flag (refs ++ borrowed) 0 first second answer) :
    Agrees flag borrowed refs (first.onFailure (·.releaseAll refs)) (second.onFailure (·.releaseAll refs))
      fun value => (refs : Multiset Ref) + answer value :=
  agrees.onFailureOwned (add_zero _).symm

theorem Agrees.releaseAll (refs : List Ref) :
    Agrees flag borrowed ((refs : Multiset Ref) + owned) (change (·.releaseAll refs) : Act ε Unit)
      (change (·.releaseAll refs)) fun _ => owned := by
  intro world world' frame twins _
  rw [add_assoc] at twins
  exact .change twins.releaseAll

theorem Agrees.release (ref : Ref) :
    Agrees flag borrowed {ref} (change (·.release ref) : Act ε Unit) (change (·.release ref)) fun _ => 0 :=
  fun _ _ _ twins _ => .change (by rw [zero_add]; exact twins.release)

theorem Agrees.retainAll {refs : List Ref} (listed : ∀ ref ∈ refs, ref ∈ borrowed ∨ ref ∈ owned) :
    Agrees flag borrowed owned (change (·.retainAll refs) : Act ε Unit) (change (·.retainAll refs))
      fun _ => (refs : Multiset Ref) + owned := by
  intro world world' frame twins lent
  refine .change (add_assoc (refs : Multiset Ref) owned frame ▸ twins.retainAll fun ref member => twins.exact.live ?_)
  exact Multiset.mem_add.mpr (Or.inl (Multiset.mem_add.mpr ((listed ref member).symm.imp id (lent ref))))

theorem Agrees.retain {ref : Ref} (listed : ref ∈ borrowed) :
    Agrees flag borrowed 0 (change (·.retain ref) : Act ε Unit) (change (·.retain ref)) fun _ => {ref} := by
  have taken : Agrees flag borrowed 0 (change (·.retainAll [ref]) : Act ε Unit)
      (change (·.retainAll [ref])) fun _ => _ :=
    .retainAll fun other member => Or.inl (by rwa [List.mem_singleton.mp member])
  exact taken

theorem Agrees.lendingNew {refs : List Ref} {world world' : World}
    (agrees : Agrees flag (refs ++ borrowed) 0 first second answer) (twins : world.Twins flag frame world')
    (lent : ∀ ref ∈ borrowed, ref ∈ frame) (live : ∀ ref ∈ refs, world.Live ref) :
    Meets flag frame world world' (change (·.retainAll refs) >>= fun _ => Act.lending refs first)
      (change (·.retainAll refs) >>= fun _ => Act.lending refs second) answer := by
  have taken : Meets flag frame world world' (change (·.retainAll refs) : Act ε Unit) (change (·.retainAll refs))
      fun _ => refs := .change (twins.retainAll live)
  refine taken.bind fun _ after after' _ _ twins => ?_
  exact (agrees.meets_of_held (by rwa [add_zero]) lent).lending

theorem Agrees.collect {act act' : γ → Act ε Ref} {items : List γ} (done : Array Ref)
    (each : ∀ item ∈ items, Agrees flag borrowed 0 (act item) (act' item) ({·})) :
    Agrees flag borrowed (done.toList : Multiset Ref) (collect act done items)
      (collect act' done items) fun refs => refs := by
  induction items generalizing done with
  | nil => exact .pure rfl
  | cons item rest ih =>
    have begun : Agrees flag (done.toList ++ borrowed) 0 (act item) (act' item) ({·}) :=
      (each item List.mem_cons_self).mono fun ref member => List.mem_append_right _ member
    refine begun.onFailure.bind fun ref => ?_
    have later := ih (done.push ref) fun other member => each other (List.mem_cons_of_mem _ member)
    rw [Array.toList_push, ← Multiset.coe_add] at later
    exact later

theorem Agrees.mapM {act act' : γ → Act ε α} {items : List γ}
    (each : ∀ item ∈ items, Agrees flag borrowed 0 (act item) (act' item) fun _ => 0) :
    Agrees flag borrowed 0 (items.mapM act) (items.mapM act') fun _ => 0 := by
  induction items with
  | nil => exact .pure rfl
  | cons item rest ih =>
    rw [List.mapM_cons, List.mapM_cons]
    refine (each item List.mem_cons_self).bind fun value => ?_
    exact (ih fun other member => each other (List.mem_cons_of_mem _ member)).bind fun _ => .pure rfl

theorem Agrees.forM {act act' : γ → Act ε PUnit} {items : List γ}
    (each : ∀ item ∈ items, Agrees flag borrowed 0 (act item) (act' item) fun _ => 0) :
    Agrees flag borrowed 0 (items.forM act) (items.forM act') fun _ => 0 := by
  induction items with
  | nil => exact .pure rfl
  | cons item rest ih =>
    rw [List.forM_eq_forM, List.forM_cons, List.forM_cons]
    exact (each item List.mem_cons_self).bind fun _ => ih fun other member => each other (List.mem_cons_of_mem _ member)

theorem Agrees.trace {update update' : World → World} (traces : ∀ world, ∃ trace, update world = { world with trace })
    (traces' : ∀ world, ∃ trace, update' world = { world with trace }) :
    Agrees flag borrowed owned (change update : Act ε Unit) (change update') fun _ => owned := by
  intro world world' frame twins _
  refine .change ?_
  obtain ⟨trace, same⟩ := traces world
  obtain ⟨trace', same'⟩ := traces' world'
  rw [same, same']
  exact ⟨twins.exact.with_trace trace, twins.exact'.with_trace trace', twins.alike.with_trace trace trace'⟩

theorem Agrees.itemsOf (ref : Ref) :
    Agrees flag borrowed owned (itemsOf ref : Act ε (Option (List Ref))) (itemsOf ref)
      fun found => ((found.getD [] : List Ref) : Multiset Ref) + owned := by
  refine .get_bind fun world world' frame twins _ => ?_
  rw [(twins.alike.spaces ref.space).tuple? ref.handle]
  cases found : (world.space ref.space).tuple? ref.handle with
  | none => exact .pure (by simpa using twins)
  | some items =>
    have tuple : (world.space ref.space).heap.get? ref.handle = some (.tuple items) := by
      unfold Guest.Space.tuple? at found
      split at found <;> simp_all
    let refs := items.map fun handle => ({ space := ref.space, handle } : Ref)
    have live : ∀ item ∈ refs, world.Live item := by
      intro item member
      obtain ⟨handle, listed, rfl⟩ := List.mem_map.mp member
      exact twins.exact.live_of_child tuple listed
    have taken : Meets flag frame world world' (change (·.retainAll refs) : Act ε Unit) (change (·.retainAll refs))
        fun _ => (refs : Multiset Ref) + owned :=
          .change (add_assoc (refs : Multiset Ref) owned frame ▸ twins.retainAll live)
    exact taken.bind fun _ _ _ _ _ twins => .pure twins

theorem Agrees.holding {session session' : Session} (same : session'.plain = session.plain)
    (agrees : Agrees flag borrowed owned first second answer) :
    Agrees flag borrowed owned (holding session first) (holding session' second) answer := by
  obtain ⟨debug, rfl⟩ := Session.exists_debugging same
  intro world world' frame twins lent
  have held : Meets flag frame world world' (Act.change (·.holdSession session) : Act ε Unit)
      (Act.change (·.holdSession (session.debugging debug))) fun _ => owned := .change (twins.holdSession session)
  refine held.bind fun _ after after' _ _ twins => ?_
  exact (agrees after after' frame twins lent).afterwards fun _ _ _ _ _ twins => twins.dropSession session

theorem Agrees.step {update : World → α × World}
    (moved : ∀ world, (update world).2.spaces = world.spaces ∧ (update world).2.outside = world.outside ∧
      World.Steady world (update world).2)
    (plain : ∀ world, update world.plain = ((update world).1, (update world).2.plain)) :
    Agrees flag borrowed owned (Act.step update : Act ε α) (Act.step update) fun _ => owned := by
  intro world world' frame twins _
  have same : ((update world').1, (update world').2.plain) = ((update world).1, (update world).2.plain) :=
    (plain world').symm.trans ((congrArg update twins.alike.plain).trans (plain world))
  obtain ⟨answers, plains⟩ := Prod.mk.inj same
  refine ⟨.ok (update world).1, (update world).2, (update world').2, rfl, ?_,
    twins.move (moved world) (moved world') plains⟩
  rw [← answers]
  rfl

theorem Agrees.change {update : World → World}
    (moved : ∀ world, (update world).spaces = world.spaces ∧ (update world).outside = world.outside ∧
      World.Steady world (update world))
    (plain : ∀ world, update world.plain = (update world).plain) :
    Agrees flag borrowed owned (Act.change update : Act ε Unit) (Act.change update) fun _ => owned :=
  fun world world' _ twins _ => .change (twins.move (moved world) (moved world')
    ((plain world').symm.trans ((congrArg update twins.alike.plain).trans (plain world))))

end Agrees

section Space

variable {borrowed : List Ref} {id : SpaceId}

theorem Meets.onSpace {operation : Guest.Op Code α} {answer : α → Multiset Ref} {world world' : World}
    (twins : world.Twins flag frame world') (settles : Settles .lasting world 0 (Act.onSpace id operation) answer)
    (settles' : Settles .lasting world' 0 (Act.onSpace id operation) answer)
    (outcomes : Guest.Outcomes (flag.at id) (operation.run (world.space id)) (operation.run (world'.space id))) :
    Meets flag frame world world' (Act.onSpace id operation) (Act.onSpace id operation) answer := by
  have exact := settles.exact (by rw [zero_add]; exact twins.exact)
  have exact' := settles'.exact (by rw [zero_add]; exact twins.exact')
  unfold Meets
  rw [run_onSpace] at exact exact' ⊢
  rw [run_onSpace]
  rcases ran : operation.run (world.space id) with exception | ⟨value, space⟩ <;>
    rcases ran' : operation.run (world'.space id) with exception' | ⟨value', space'⟩ <;>
      rw [ran] at exact outcomes <;> rw [ran'] at exact' outcomes <;> cases outcomes
  · exact ⟨_, _, _, rfl, rfl, exact, exact', twins.alike⟩
  · exact ⟨_, _, _, rfl, rfl, exact, exact', twins.alike.setSpace ‹_›⟩

theorem Agrees.onSpace {operation : Guest.Op Code α} {answer : α → Multiset Handle}
    (balanced : Guest.Op.Balanced .lasting 0 operation answer) (agrees : Guest.Op.Agrees (flag.at id) operation) :
    Agrees flag borrowed 0 (Act.onSpace id operation) (Act.onSpace id operation)
      fun value => (answer value).map (Ref.mk id) := by
  intro world world' frame twins _
  have settles {world : World} (exact : world.Exact (0 + frame)) :
      Settles .lasting world 0 (Act.onSpace id operation) fun value => (answer value).map (Ref.mk id) :=
    (Balanced.onSpace_counting balanced : Balanced .lasting [] 0 _ _).settles exact
  have balance := settles twins.exact
  have balance' := settles twins.exact'
  rw [zero_add] at twins
  obtain ⟨exact, exact'⟩ := twins.exact_space id
  exact .onSpace twins balance balance' (agrees _ _ _ exact exact' (twins.alike.spaces id))

theorem Agrees.ownedBy {operation : Guest.Op Code Handle} (balanced : Guest.Op.Balanced .lasting 0 operation ({·}))
    (agrees : Guest.Op.Agrees (flag.at id) operation) :
    Agrees flag borrowed 0 (Act.ownedBy id operation) (Act.ownedBy id operation) ({·}) :=
  (Agrees.onSpace balanced agrees).bind fun _ => .pure (by simp)

theorem Meets.onView_bind {reader : Space → Except Guest.Exception α} {next next' : α → GuestAct γ}
    {world world' : World} {answer : γ → Multiset Ref} (twins : world.Twins flag frame world')
    (same : reader (world'.space id) = reader (world.space id))
    (rest : ∀ value, reader (world.space id) = .ok value →
      Meets flag frame world world' (next value) (next' value) answer) :
    Meets flag frame world world' (Act.onView id reader >>= next) (Act.onView id reader >>= next') answer := by
  have looked : Meets flag frame world world' (Act.onView id reader) (Act.onView id reader) fun _ => 0 :=
    ⟨reader (world.space id), world, world', rfl, by rw [run_onView, same], by rwa [left_zero, zero_add]⟩
  refine looked.bind fun value after after' ran ran' _ => ?_
  rw [run_onView] at ran ran'
  obtain ⟨found, rfl⟩ := Prod.mk.inj ran
  obtain ⟨-, rfl⟩ := Prod.mk.inj ran'
  exact rest value found

theorem Agrees.onView {reader : Space → Except Guest.Exception α}
    (same : ∀ first second : Space, first.Like (flag.at id) second → reader second = reader first) :
    Agrees flag borrowed 0 (Act.onView id reader) (Act.onView id reader) fun _ => 0 := by
  refine .get_bind fun world world' frame twins _ => ?_
  rw [same _ _ (twins.alike.spaces id)]
  exact .lift _ (fun _ => rfl) (by rwa [zero_add] at twins)

theorem Agrees.kindOf {owned : Multiset Ref} (ref : Ref) :
    Agrees flag borrowed owned (kindOf ref : Act ε (Option Guest.Kind)) (kindOf ref) fun _ => owned :=
  .view fun _ _ alike => (alike.spaces ref.space).kind? ref.handle

theorem Agrees.textOf {owned : Multiset Ref} (ref : Ref) :
    Agrees flag borrowed owned (textOf ref : Act ε (Option String)) (textOf ref) fun _ => owned :=
  .view fun _ _ alike => (alike.spaces ref.space).text? ref.handle

end Space

end Act

end ObjectBridge

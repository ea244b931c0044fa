import ObjectBridge.Proofs.World.Passing
import ObjectBridge.World.Act

/-!
Balance of acts. An act is balanced if from every exact world it goes to one in which the loose
references it was given are replaced by those of its answer, or by none if it fails. What it borrows
stays with the caller. Acts that are put together from balanced ones are balanced, whatever is shown of
passages.
-/

namespace ObjectBridge

open Guest (Extent Handle)

namespace Act

variable {ε ε' α γ : Type} {extent : Extent}

section Run

variable {world : World}

theorem run_bind (act : Act ε α) (next : α → Act ε γ) :
    (act >>= next).run world =
      match act.run world with
      | (.ok value, after) => (next value).run after
      | (.error error, after) => (.error error, after) := by
  simp only [bind, ExceptT.bind, ExceptT.run, ExceptT.mk, ExceptT.bindCont, StateT.bind]
  rcases act world with ⟨_ | _, _⟩ <;> rfl

theorem run_pure (value : α) : (pure value : Act ε α).run world = (.ok value, world) :=
  rfl

theorem run_lift (result : Except ε α) : (liftM result : Act ε α).run world = (result, world) :=
  rfl

theorem run_get_bind (next : World → Act ε α) : (get >>= next).run world = (next world).run world :=
  rfl

theorem run_change (update : World → World) :
    (change update : Act ε Unit).run world = (.ok (), update world) :=
  rfl

theorem run_step (update : World → α × World) :
    (step update : Act ε α).run world = (.ok (update world).1, (update world).2) :=
  rfl

theorem run_outcome (act : Act ε α) :
    (act.outcome : Act ε' (Except ε α)).run world = (.ok (act.run world).1, (act.run world).2) :=
  rfl

theorem run_adapt (restate : ε → ε') (act : Act ε α) :
    (act.adapt restate).run world = ((act.run world).1.mapError restate, (act.run world).2) :=
  rfl

theorem run_afterwards (act : Act ε α) (update : World → World) :
    (act.afterwards update).run world = ((act.run world).1, update (act.run world).2) :=
  rfl

theorem run_onFailure (act : Act ε α) (update : World → World) :
    (act.onFailure update).run world =
      match act.run world with
      | (.ok value, after) => (.ok value, after)
      | (.error error, after) => (.error error, update after) := by
  simp only [onFailure, bind, ExceptT.run, ExceptT.mk, StateT.bind]
  rcases act world with ⟨_ | _, _⟩ <;> rfl

end Run

def left (answer : α → Multiset Ref) : Except ε α → Multiset Ref
  | .ok value => answer value
  | .error _ => 0

@[simp] theorem left_ok (answer : α → Multiset Ref) (value : α) :
    left answer (.ok value : Except ε α) = answer value :=
  rfl

@[simp] theorem left_error (answer : α → Multiset Ref) (error : ε) :
    left answer (.error error : Except ε α) = 0 :=
  rfl

@[simp] theorem left_zero (result : Except ε α) : left (fun _ => 0) result = 0 := by
  cases result <;> rfl

def Settles [World.Passing] (extent : Extent) (world : World) (owned : Multiset Ref) (act : Act ε α)
    (answer : α → Multiset Ref) : Prop :=
  World.Passing.Passes extent (world, owned) ((act.run world).2, left answer (act.run world).1)

/-- In every exact world, if others hold what is borrowed, the act goes from the references it owns to
those of its answer. -/
def Balanced [World.Passing] (extent : Extent) (borrowed : List Ref) (owned : Multiset Ref) (act : Act ε α)
    (answer : α → Multiset Ref) : Prop :=
  ∀ world frame, world.Exact (owned + frame) → (∀ ref ∈ borrowed, ref ∈ frame) →
    Settles extent world owned act answer

def Answers (act : Act ε α) (property : α → Prop) : Prop :=
  ∀ world value, (act.run world).1 = .ok value → property value

section Answers

variable {property : α → Prop}

theorem Answers.pure {value : α} (holds : property value) : Answers (pure value : Act ε α) property := by
  intro world other same
  rw [run_pure] at same
  cases same
  exact holds

theorem Answers.throw (error : ε) : Answers (throw error : Act ε α) property :=
  nofun

theorem Answers.bind {act : Act ε α} {next : α → Act ε γ} {property' : γ → Prop} (first : Answers act property)
    (rest : ∀ value, property value → Answers (next value) property') : Answers (act >>= next) property' := by
  intro world value same
  rw [run_bind] at same
  rcases ran : act.run world with ⟨_ | middle, after⟩
  · simp [ran] at same
  · rw [ran] at same
    exact rest middle (first world middle (by rw [ran])) after value same

theorem Answers.trivial (act : Act ε α) : Answers act fun _ => True :=
  fun _ _ _ => True.intro

theorem Answers.outcome {act : Act ε α} (answers : Answers act property) :
    Answers (act.outcome : Act ε' (Except ε α)) fun result => ∀ value, result = .ok value → property value := by
  intro world result same value found
  rw [run_outcome] at same
  refine answers world value ?_
  rw [← found]
  exact Except.ok.inj same

theorem Answers.ownedBy (id : SpaceId) (operation : Guest.Op Code Handle) :
    Answers (ownedBy id operation) (·.space = id) :=
  (Answers.trivial _).bind fun _ _ => .pure rfl

end Answers

section Settles

variable [World.Passing] {world : World} {owned : Multiset Ref} {act : Act ε α} {answer : α → Multiset Ref}

theorem Settles.pure {value : α} (same : answer value = owned) :
    Settles extent world owned (pure value : Act ε α) answer := by
  rw [Settles, run_pure, left_ok, same]
  exact World.passes_refl world owned

theorem Settles.throw (error : ε) : Settles extent world 0 (throw error : Act ε α) answer :=
  World.passes_refl world 0

theorem Settles.lift (result : Except ε α) (same : ∀ value, result = .ok value → answer value = 0) :
    Settles extent world 0 (liftM result : Act ε α) answer := by
  rw [Settles, run_lift]
  cases result with
  | ok value =>
    rw [left_ok, same value rfl]
    exact World.passes_refl world 0
  | error error => exact World.passes_refl world 0

theorem Settles.bind {next : α → Act ε γ} {middle : α → Multiset Ref} {answer : γ → Multiset Ref}
    (first : Settles extent world owned act middle)
    (rest : ∀ value, (act.run world).1 = .ok value →
      Settles extent (act.run world).2 (middle value) (next value) answer) :
    Settles extent world owned (act >>= next) answer := by
  unfold Settles at first ⊢
  rw [run_bind]
  rcases ran : act.run world with ⟨result, after⟩
  simp only [ran] at first rest
  cases result with
  | ok value => exact World.Passing.trans first (rest value rfl)
  | error error => exact first

theorem Settles.get_bind {next : World → Act ε α} (rest : Settles extent world owned (next world) answer) :
    Settles extent world owned (get >>= next) answer :=
  rest

theorem Settles.leads (settles : Settles extent world owned act answer) :
    World.Leads extent (world, owned) ((act.run world).2, left answer (act.run world).1) :=
  World.Passing.leads settles

theorem Settles.exact {frame : Multiset Ref} (settles : Settles extent world owned act answer)
    (exact : world.Exact (owned + frame)) :
    (act.run world).2.Exact (left answer (act.run world).1 + frame) :=
  settles.leads.exact exact

end Settles

section Balanced

variable [World.Passing] {borrowed : List Ref} {owned : Multiset Ref} {act : Act ε α} {answer : α → Multiset Ref}

theorem Balanced.pure {value : α} (same : answer value = owned) :
    Balanced extent borrowed owned (pure value : Act ε α) answer :=
  fun _ _ _ _ => .pure same

theorem Balanced.throw (error : ε) : Balanced extent borrowed 0 (throw error : Act ε α) answer :=
  fun _ _ _ _ => .throw error

theorem Balanced.throw_bind (error : ε) (next : α → Act ε γ) {answer : γ → Multiset Ref} :
    Balanced extent borrowed 0 ((MonadExcept.throw error : Act ε α) >>= next) answer :=
  fun _ _ _ _ => Settles.throw error

theorem Balanced.lift (result : Except ε α) :
    Balanced extent borrowed 0 (liftM result : Act ε α) fun _ => 0 :=
  fun _ _ _ _ => .lift result fun _ _ => rfl

theorem Balanced.view (reader : World → α) :
    Balanced extent borrowed owned (view reader : Act ε α) fun _ => owned :=
  fun world _ _ _ => World.passes_refl world owned

theorem Balanced.trace {update : World → World}
    (traces : ∀ world, ∃ trace, update world = { world with trace }) :
    Balanced extent borrowed owned (change update : Act ε Unit) fun _ => owned := by
  intro world _ _ _
  obtain ⟨trace, same⟩ := traces world
  unfold Settles
  rw [run_change, same]
  exact World.passes_trace world owned trace

theorem Balanced.mono {more : List Ref} (balanced : Balanced extent borrowed owned act answer)
    (within : ∀ ref ∈ borrowed, ref ∈ more) : Balanced extent more owned act answer :=
  fun world frame exact lent => balanced world frame exact fun ref member => lent ref (within ref member)

theorem Balanced.congr {owned' : Multiset Ref} {answer' : α → Multiset Ref}
    (balanced : Balanced extent borrowed owned act answer) (same : owned' = owned)
    (alike : ∀ value, answer' value = answer value) : Balanced extent borrowed owned' act answer' := by
  obtain rfl := same
  obtain rfl : answer' = answer := funext alike
  exact balanced

theorem Balanced.bind_of {next : α → Act ε γ} {property : α → Prop} {middle : α → Multiset Ref}
    {answer : γ → Multiset Ref} (first : Balanced extent borrowed owned act middle)
    (answers : Answers act property)
    (rest : ∀ value, property value → Balanced extent borrowed (middle value) (next value) answer) :
    Balanced extent borrowed owned (act >>= next) answer := by
  intro world frame exact lent
  have settles := first world frame exact lent
  refine settles.bind fun value ran => rest value (answers world value ran) _ frame ?_ lent
  have after := settles.exact exact
  rwa [ran, left_ok] at after

theorem Balanced.bind {next : α → Act ε γ} {middle : α → Multiset Ref} {answer : γ → Multiset Ref}
    (first : Balanced extent borrowed owned act middle)
    (rest : ∀ value, Balanced extent borrowed (middle value) (next value) answer) :
    Balanced extent borrowed owned (act >>= next) answer :=
  first.bind_of (.trivial act) fun value _ => rest value

def BalancedOn (host : Host.HostId) (borrowed : List Ref) (owned : Multiset Ref) (act : Act ε α)
    (answer : α → Multiset Ref) : Prop :=
  ∀ world frame, world.Exact (owned + frame) → (∀ ref ∈ borrowed, ref ∈ frame) →
    host.index < world.hosts.size → Settles .lasting world owned act answer

theorem Balanced.on {host : Host.HostId} (balanced : Balanced .lasting borrowed owned act answer) :
    BalancedOn host borrowed owned act answer :=
  fun world frame exact lent _ => balanced world frame exact lent

theorem BalancedOn.bind_of {host : Host.HostId} {next : α → Act ε γ} {property : α → Prop}
    {middle : α → Multiset Ref} {answer : γ → Multiset Ref} (first : BalancedOn host borrowed owned act middle)
    (answers : Answers act property)
    (rest : ∀ value, property value → BalancedOn host borrowed (middle value) (next value) answer) :
    BalancedOn host borrowed owned (act >>= next) answer := by
  intro world frame exact lent known
  have settles := first world frame exact lent known
  refine settles.bind fun value ran => rest value (answers world value ran) _ frame ?_ lent ?_
  · have after := settles.exact exact
    rwa [ran, left_ok] at after
  · exact known.trans_le settles.leads.steady.hosts

theorem BalancedOn.bind {host : Host.HostId} {next : α → Act ε γ} {middle : α → Multiset Ref}
    {answer : γ → Multiset Ref} (first : BalancedOn host borrowed owned act middle)
    (rest : ∀ value, BalancedOn host borrowed (middle value) (next value) answer) :
    BalancedOn host borrowed owned (act >>= next) answer :=
  first.bind_of (.trivial act) fun value _ => rest value

theorem Balanced.get_bind {next : World → Act ε α}
    (rest : ∀ world frame, world.Exact (owned + frame) → (∀ ref ∈ borrowed, ref ∈ frame) →
      Settles extent world owned (next world) answer) :
    Balanced extent borrowed owned (get >>= next) answer :=
  fun world frame exact lent => .get_bind (rest world frame exact lent)

theorem Balanced.lasting (balanced : Balanced extent borrowed owned act answer) :
    Balanced .lasting borrowed owned act answer :=
  fun world frame exact lent => World.Passing.lasting (balanced world frame exact lent) (World.knows_add.mp exact.known).2

theorem Balanced.outcome (balanced : Balanced extent borrowed owned act answer) :
    Balanced extent borrowed owned (act.outcome : Act ε' (Except ε α)) (left answer) :=
  balanced

theorem Settles.adapt {world : World} (restate : ε → ε') (settles : Settles extent world owned act answer) :
    Settles extent world owned (act.adapt restate) answer := by
  unfold Settles at settles ⊢
  rw [run_adapt]
  rcases ran : act.run world with ⟨_ | _, _⟩ <;> simpa [ran, Except.mapError] using settles

theorem Balanced.adapt (restate : ε → ε') (balanced : Balanced extent borrowed owned act answer) :
    Balanced extent borrowed owned (act.adapt restate) answer :=
  fun world frame exact lent => (balanced world frame exact lent).adapt restate

theorem BalancedOn.adapt {host : Host.HostId} (restate : ε → ε')
    (balanced : BalancedOn host borrowed owned act answer) :
    BalancedOn host borrowed owned (act.adapt restate) answer :=
  fun world frame exact lent known => (balanced world frame exact lent known).adapt restate

theorem Settles.keep {refs : List Ref} {world : World} (settles : Settles extent world owned act answer)
    (known : world.Knows (refs : Multiset Ref)) :
    World.Passing.Passes extent (world, (refs : Multiset Ref) + owned)
      ((act.run world).2, (refs : Multiset Ref) + left answer (act.run world).1) := by
  rw [add_comm _ owned, add_comm _ (left _ _)]
  exact World.Passing.frame settles known

theorem Balanced.settles_of_lent {refs : List Ref} (balanced : Balanced extent (refs ++ borrowed) owned act answer)
    {world : World} {frame : Multiset Ref} (exact : world.Exact ((refs : Multiset Ref) + owned + frame))
    (lent : ∀ ref ∈ borrowed, ref ∈ frame) : Settles extent world owned act answer := by
  have rearranged : world.Exact (owned + ((refs : Multiset Ref) + frame)) := by
    rwa [add_left_comm, ← add_assoc]
  exact balanced world _ rearranged fun ref member => Multiset.mem_add.mpr <|
    (List.mem_append.mp member).imp Multiset.mem_coe.mpr (lent ref)

theorem Settles.lendingOwned {refs : List Ref} {world : World} {frame : Multiset Ref}
    (settles : Settles extent world owned act answer) (exact : world.Exact ((refs : Multiset Ref) + owned + frame)) :
    Settles extent world ((refs : Multiset Ref) + owned) (lending refs act) answer := by
  have known := exact.known
  rw [add_assoc, add_assoc] at known
  have kept := settles.keep (World.knows_add.mp known).1
  exact World.Passing.trans kept (World.passes_releaseAll extent ((World.Passing.leads kept).exact exact))

theorem Settles.lending {refs : List Ref} {world : World} {frame : Multiset Ref}
    (settles : Settles extent world 0 act answer) (exact : world.Exact ((refs : Multiset Ref) + frame)) :
    Settles extent world refs (lending refs act) answer := by
  rw [← add_zero (refs : Multiset Ref)] at exact ⊢
  exact settles.lendingOwned exact

theorem Balanced.lendingOwned {refs : List Ref} {total : Multiset Ref}
    (balanced : Balanced extent (refs ++ borrowed) owned act answer)
    (sum : total = (refs : Multiset Ref) + owned) :
    Balanced extent borrowed total (lending refs act) answer := by
  intro world frame exact lent
  rw [sum] at exact ⊢
  exact (balanced.settles_of_lent exact lent).lendingOwned exact

theorem Balanced.lending {refs : List Ref} {total : Multiset Ref}
    (balanced : Balanced extent (refs ++ borrowed) 0 act answer) (sum : total = (refs : Multiset Ref)) :
    Balanced extent borrowed total (lending refs act) answer :=
  balanced.lendingOwned (by rw [sum, add_zero])

theorem Balanced.lendingBoth {refs kept : List Ref}
    (balanced : Balanced extent ((refs ++ kept) ++ borrowed) 0 act answer) :
    Balanced extent borrowed ((kept : Multiset Ref) + refs) (Act.lending (refs ++ kept) act) answer :=
  balanced.lending (by rw [← Multiset.coe_add, add_comm])

theorem Balanced.settles {world : World} {frame : Multiset Ref} (balanced : Balanced extent [] owned act answer)
    (exact : world.Exact (owned + frame)) : Settles extent world owned act answer :=
  balanced world frame exact (List.forall_mem_nil _)

theorem Balanced.settles_bind {world : World} {frame : Multiset Ref} {next : α → Act ε γ}
    {middle : α → Multiset Ref} {answer : γ → Multiset Ref} (balanced : Balanced extent [] owned act middle)
    (exact : world.Exact (owned + frame))
    (rest : ∀ value after, act.run world = (.ok value, after) → after.Exact (middle value + frame) →
      Settles extent after (middle value) (next value) answer) :
    Settles extent world owned (act >>= next) answer := by
  have settles := balanced.settles exact
  have after := settles.exact exact
  refine settles.bind fun value answered => rest value _ (Prod.ext answered rfl) ?_
  rwa [answered] at after

theorem Settles.onFailureUndo {refs : List Ref} {world : World} {frame : Multiset Ref} {undo : World → World}
    (settles : Settles extent world owned act answer)
    (exact : world.Exact ((refs : Multiset Ref) + owned + frame))
    (undone : ∀ world, world.Exact ((refs : Multiset Ref) + frame) →
      World.Passing.Passes extent (world, (refs : Multiset Ref)) (undo world, 0)) :
    Settles extent world ((refs : Multiset Ref) + owned) (act.onFailure undo)
      fun value => (refs : Multiset Ref) + answer value := by
  have known := exact.known
  rw [add_assoc, add_assoc] at known
  have kept := settles.keep (World.knows_add.mp known).1
  have after := (World.Passing.leads kept).exact exact
  unfold Settles
  rw [run_onFailure]
  rcases ran : act.run world with ⟨_ | _, _⟩
  · simp only [ran, left_error, add_zero] at kept after ⊢
    exact World.Passing.trans kept (undone _ after)
  · simpa only [ran, left_ok] using kept

theorem Balanced.onFailureUndo {refs : List Ref} {total : Multiset Ref} {undo : World → World}
    (balanced : Balanced extent (refs ++ borrowed) owned act answer)
    (sum : total = (refs : Multiset Ref) + owned)
    (undone : ∀ world frame, world.Exact ((refs : Multiset Ref) + frame) →
      World.Passing.Passes extent (world, (refs : Multiset Ref)) (undo world, 0)) :
    Balanced extent borrowed total (act.onFailure undo) fun value => (refs : Multiset Ref) + answer value := by
  intro world frame exact lent
  rw [sum] at exact ⊢
  exact (balanced.settles_of_lent exact lent).onFailureUndo exact fun world => undone world frame

theorem passes_releaseAll_zero {refs : List Ref} {world : World} {frame : Multiset Ref}
    (exact : world.Exact ((refs : Multiset Ref) + frame)) :
    World.Passing.Passes extent (world, (refs : Multiset Ref)) (world.releaseAll refs, 0) := by
  rw [← add_zero (refs : Multiset Ref)] at exact ⊢
  exact World.passes_releaseAll extent exact

theorem Balanced.onFailureOwned {refs : List Ref} {total : Multiset Ref}
    (balanced : Balanced extent (refs ++ borrowed) owned act answer)
    (sum : total = (refs : Multiset Ref) + owned) :
    Balanced extent borrowed total (act.onFailure (·.releaseAll refs))
      fun value => (refs : Multiset Ref) + answer value :=
  balanced.onFailureUndo sum fun _ _ exact => passes_releaseAll_zero exact

theorem Balanced.onFailure {refs : List Ref} (balanced : Balanced extent (refs ++ borrowed) 0 act answer) :
    Balanced extent borrowed refs (act.onFailure (·.releaseAll refs))
      fun value => (refs : Multiset Ref) + answer value :=
  balanced.onFailureOwned (add_zero _).symm

theorem Settles.lendingNew {refs : List Ref} {world : World} {frame : Multiset Ref}
    (balanced : Balanced extent (refs ++ borrowed) 0 act answer) (exact : world.Exact (0 + frame))
    (lent : ∀ ref ∈ borrowed, ref ∈ frame) (live : ∀ ref ∈ refs, world.Live ref) :
    Settles extent world 0 (change (·.retainAll refs) >>= fun _ => Act.lending refs act) answer := by
  have taken : Settles extent world 0 (change (·.retainAll refs) : Act ε Unit) fun _ => _ :=
    World.passes_retainAll extent exact live
  exact taken.bind fun _ _ =>
    (balanced.lending (add_zero _)) _ frame (taken.exact exact) lent

theorem Balanced.releaseAll (refs : List Ref) :
    Balanced extent borrowed ((refs : Multiset Ref) + owned) (change (·.releaseAll refs) : Act ε Unit)
      fun _ => owned :=
  fun _ _ exact _ => World.passes_releaseAll extent exact

theorem Balanced.release (ref : Ref) :
    Balanced extent borrowed {ref} (change (·.release ref) : Act ε Unit) fun _ => 0 :=
  fun _ _ exact _ => World.passes_release extent exact

theorem Balanced.retainAll {refs : List Ref} (listed : ∀ ref ∈ refs, ref ∈ borrowed ∨ ref ∈ owned) :
    Balanced extent borrowed owned (change (·.retainAll refs) : Act ε Unit)
      fun _ => (refs : Multiset Ref) + owned := by
  intro world frame exact lent
  refine World.passes_retainAll extent exact fun ref member => exact.live ?_
  rcases listed ref member with others | own
  · exact Multiset.mem_add.mpr (Or.inl (Multiset.mem_add.mpr (Or.inr (lent ref others))))
  · exact Multiset.mem_add.mpr (Or.inl (Multiset.mem_add.mpr (Or.inl own)))

theorem Balanced.retain {ref : Ref} (listed : ref ∈ borrowed) :
    Balanced extent borrowed 0 (change (·.retain ref) : Act ε Unit) fun _ => {ref} := by
  intro world frame exact lent
  refine World.passes_retain extent exact (exact.live ?_)
  exact Multiset.mem_add.mpr (Or.inl (Multiset.mem_add.mpr (Or.inr (lent ref listed))))

theorem Balanced.collect {act : γ → Act ε Ref} {items : List γ} (done : Array Ref)
    (each : ∀ item ∈ items, Balanced extent borrowed 0 (act item) ({·})) :
    Balanced extent borrowed (done.toList : Multiset Ref) (collect act done items) fun refs => refs := by
  induction items generalizing done with
  | nil => exact .pure rfl
  | cons item rest ih =>
    have first : Balanced extent (done.toList ++ borrowed) 0 (act item) ({·}) :=
      (each item List.mem_cons_self).mono fun ref member => List.mem_append_right _ member
    have kept := first.onFailure
    refine kept.bind fun ref => ?_
    have later := ih (done.push ref) fun other member => each other (List.mem_cons_of_mem _ member)
    rw [Array.toList_push, ← Multiset.coe_add] at later
    exact later

theorem Balanced.mapM {act : γ → Act ε α} {items : List γ}
    (each : ∀ item ∈ items, Balanced extent borrowed 0 (act item) fun _ => 0) :
    Balanced extent borrowed 0 (items.mapM act) fun _ => 0 := by
  induction items with
  | nil => exact .pure rfl
  | cons item rest ih =>
    rw [List.mapM_cons]
    refine (each item List.mem_cons_self).bind fun value => ?_
    exact (ih fun other member => each other (List.mem_cons_of_mem _ member)).bind fun _ => .pure rfl

theorem Balanced.forM {act : γ → Act ε PUnit} {items : List γ}
    (each : ∀ item ∈ items, Balanced extent borrowed 0 (act item) fun _ => 0) :
    Balanced extent borrowed 0 (items.forM act) fun _ => 0 := by
  induction items with
  | nil => exact .pure rfl
  | cons item rest ih =>
    rw [List.forM_eq_forM, List.forM_cons]
    exact (each item List.mem_cons_self).bind fun _ =>
      ih fun other member => each other (List.mem_cons_of_mem _ member)

theorem Balanced.itemsOf (ref : Ref) :
    Balanced extent borrowed owned (itemsOf ref : Act ε (Option (List Ref)))
      fun found => ((found.getD [] : List Ref) : Multiset Ref) + owned := by
  refine .get_bind fun world frame exact lent => ?_
  cases found : (world.space ref.space).tuple? ref.handle with
  | none => exact .pure (by simp)
  | some items =>
    have tuple : (world.space ref.space).heap.get? ref.handle = some (.tuple items) := by
      unfold Guest.Space.tuple? at found
      split at found <;> simp_all
    have live : ∀ item ∈ items.map fun handle => ({ space := ref.space, handle } : Ref), world.Live item := by
      intro item member
      obtain ⟨handle, listed, rfl⟩ := List.mem_map.mp member
      exact exact.live_of_child tuple listed
    have kept : Settles extent world owned (change (·.retainAll (items.map fun handle =>
        ({ space := ref.space, handle } : Ref))) : Act ε Unit) fun _ => _ :=
      World.passes_retainAll extent exact live
    exact kept.bind fun _ _ => .pure rfl

end Balanced

section Space

variable {borrowed : List Ref} {id : SpaceId}

theorem run_onSpace (operation : Guest.Op Code α) (world : World) :
    (onSpace id operation).run world =
      match operation.run (world.space id) with
      | .ok (value, space) => (.ok value, world.setSpace id space)
      | .error exception => (.error exception, world) := by
  unfold onSpace
  rw [run_get_bind]
  cases operation.run (world.space id) <;> rfl

theorem run_ownedBy (operation : Guest.Op Code Handle) (world : World) :
    (ownedBy id operation).run world =
      match operation.run (world.space id) with
      | .ok (handle, space) => (.ok { space := id, handle }, world.setSpace id space)
      | .error exception => (.error exception, world) := by
  unfold ownedBy
  rw [run_bind, run_onSpace]
  rcases operation.run (world.space id) with _ | ⟨handle, space⟩ <;> rfl

theorem run_onView (reader : Space → Except Guest.Exception α) (world : World) :
    (onView id reader).run world = (reader (world.space id), world) :=
  rfl

theorem leads_onSpace {operation : Guest.Op Code α} {answer : α → Multiset Handle} {world : World}
    (path : ∀ value space, operation.run (world.space id) = .ok (value, space) →
      Guest.Space.Path extent (world.space id, 0) (space, answer value) ∧
        (answer value = 0 ∨ space.roots.isSome)) :
    World.Leads extent (world, 0) (((onSpace id operation).run world).2,
      left (fun value => (answer value).map (Ref.mk id)) ((onSpace id operation).run world).1) := by
  rw [run_onSpace]
  cases ran : operation.run (world.space id) with
  | error exception => exact .refl world 0
  | ok result =>
    obtain ⟨value, space⟩ := result
    obtain ⟨path, answered⟩ := path value space ran
    by_cases known : id.index < world.spaces.size
    · refine World.leads_setSpace known ?_ fun other different => ?_
      · simpa [heldIn_map] using path
      · simp [heldIn_map_of_ne different.symm]
    · -- Nothing is answered from a space that is not there.
      have ended : space.roots = none := by
        refine Guest.Space.Path.roots_eq_none path ?_
        rw [World.space_of_unknown known]
        rfl
      have nothing : answer value = 0 := by simpa [ended] using answered
      simpa [World.setSpace_of_unknown known, nothing] using World.Leads.refl world 0

theorem Balanced.onSpace_counting {operation : Guest.Op Code α} {answer : α → Multiset Handle}
    (balanced : Guest.Op.Balanced extent 0 operation answer) :
    Balanced extent borrowed 0 (onSpace id operation) fun value => (answer value).map (Ref.mk id) := by
  intro world frame exact lent
  have here := exact.spaces id
  rw [zero_add] at here
  exact leads_onSpace (balanced _ _ (by rwa [zero_add]))

theorem Balanced.ownedBy_counting {operation : Guest.Op Code Handle}
    (balanced : Guest.Op.Balanced extent 0 operation ({·})) :
    Balanced extent borrowed 0 (ownedBy id operation) ({·}) :=
  (Balanced.onSpace_counting balanced).bind fun _ => .pure (by simp)

variable [World.Passing]

theorem Settles.onSpace {operation : Guest.Op Code α} {answer : α → Multiset Handle} {world : World}
    (path : ∀ value space, operation.run (world.space id) = .ok (value, space) →
      Guest.Space.Path extent (world.space id, 0) (space, answer value) ∧
        (answer value = 0 ∨ space.roots.isSome))
    (typed : ∀ held, (world.space id).Exact held → (world.space id).WellTyped → ∀ value space,
      operation.run (world.space id) = .ok (value, space) → space.WellTyped) :
    Settles extent world 0 (onSpace id operation) fun value => (answer value).map (Ref.mk id) := by
  refine World.Passing.of_leads (leads_onSpace path) fun frame exact _ wellTyped => ?_
  rw [run_onSpace]
  cases ran : operation.run (world.space id) with
  | error exception => exact wellTyped
  | ok result => exact World.wellTyped_setSpace wellTyped (typed _ (exact.spaces id) (wellTyped id) _ _ ran)

theorem Balanced.onSpace {operation : Guest.Op Code α} [keeps : operation.KeepsTyping] {answer : α → Multiset Handle}
    (balanced : Guest.Op.Balanced extent 0 operation answer) :
    Balanced extent borrowed 0 (onSpace id operation) fun value => (answer value).map (Ref.mk id) := by
  intro world frame exact lent
  have here := exact.spaces id
  rw [zero_add] at here
  exact .onSpace (balanced _ _ (by rwa [zero_add])) (keeps.wellTyped _)

theorem Settles.ownedBy {operation : Guest.Op Code Handle} {world : World}
    (path : ∀ handle space, operation.run (world.space id) = .ok (handle, space) →
      Guest.Space.Path extent (world.space id, 0) (space, {handle}) ∧
        (({handle} : Multiset Handle) = 0 ∨ space.roots.isSome))
    (typed : ∀ held, (world.space id).Exact held → (world.space id).WellTyped → ∀ handle space,
      operation.run (world.space id) = .ok (handle, space) → space.WellTyped) :
    Settles extent world 0 (ownedBy id operation) ({·}) :=
  (Settles.onSpace path typed).bind fun _ _ => .pure (by simp)

theorem Balanced.ownedBy {operation : Guest.Op Code Handle} [operation.KeepsTyping]
    (balanced : Guest.Op.Balanced extent 0 operation ({·})) :
    Balanced extent borrowed 0 (ownedBy id operation) ({·}) :=
  (Balanced.onSpace balanced).bind fun _ => .pure (by simp)

theorem Settles.onView_bind {reader : Space → Except Guest.Exception α} {next : α → GuestAct γ}
    {world : World} {answer : γ → Multiset Ref}
    (rest : ∀ value, reader (world.space id) = .ok value → Settles extent world 0 (next value) answer) :
    Settles extent world 0 (onView id reader >>= next) answer := by
  unfold Settles
  rw [run_bind, run_onView]
  cases found : reader (world.space id) with
  | ok value => exact rest value found
  | error exception => exact World.passes_refl world 0

theorem Settles.unlessRefused {refused : Prop} [Decidable refused] {reader : Space → Except Guest.Exception α}
    {exception : α → Guest.Exception} {next : Unit → GuestAct γ} {world : World} {owned : Multiset Ref}
    {answer : γ → Multiset Ref} (nothing : refused → owned = 0) (rest : Settles extent world owned (next ()) answer) :
    Settles extent world owned (if refused then do
        let name ← onView id reader
        (MonadExcept.throw (exception name) : GuestAct Unit) >>= next
      else next ()) answer := by
  split
  · rename_i refuses
    obtain rfl := nothing refuses
    exact Settles.onView_bind fun _ _ => .throw _
  · exact rest

theorem Balanced.onView (reader : Space → Except Guest.Exception α) :
    Balanced extent borrowed 0 (onView id reader) fun _ => 0 :=
  .get_bind fun _ _ _ _ => .lift _ fun _ _ => rfl

end Space

end Act

end ObjectBridge

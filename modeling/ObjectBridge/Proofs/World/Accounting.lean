import ObjectBridge.Proofs.World.Commands

/-!
Exact reference accounting. After any run of commands, whatever raised or failed in the course of it, the
count of every live object is the number of references that there are to it.
-/

namespace ObjectBridge

open Guest (Extent Handle)

namespace Guest.Space

variable {β : Type}

/-- There is a reference to the handle from outside, in a live object, in the list of modules or among the
roots. -/
def Referred (space : Space β) (outside : Multiset Handle) (handle : Handle) : Prop :=
  handle ∈ outside ∨ handle ∈ space.heap.references Object.children ∨ handle ∈ space.modules.values ∨
    handle ∈ space.rootHandles

structure Accounted (space : Space β) (outside : Multiset Handle) : Prop where
  counted : ∀ handle count, space.heap.count? handle = some count →
    count = outside.count handle + (space.heap.references Object.children).count handle +
      space.modules.values.count handle + space.rootHandles.count handle
  positive : ∀ handle count, space.heap.count? handle = some count → 1 ≤ count
  fresh : ∀ handle, space.Referred outside handle → (space.heap.get? handle).isSome

theorem Exact.accounted {space : Space β} {outside : Multiset Handle} (exact : space.Exact outside)
    (started : space.roots.isSome) : space.Accounted outside := by
  have kept := exact.started started
  have own : space.own = (space.modules.values : Multiset Handle) + (space.rootHandles : Multiset Handle) := rfl
  refine ⟨fun handle count found => ?_, fun handle count found => kept.positive handle count found,
    fun handle referred => ?_⟩
  · have balance := kept.balance handle
    rw [found, own, Multiset.count_add, Multiset.count_add, Multiset.coe_count, Multiset.coe_count] at balance
    simp only [Option.getD_some] at balance
    omega
  · obtain ⟨cell, found⟩ : ∃ cell, space.heap.cell? handle = some cell := by
      refine kept.exists_cell ?_
      rw [own, Multiset.mem_add, Multiset.mem_add, Multiset.mem_coe, Multiset.mem_coe]
      unfold Referred at referred
      tauto
    simp [Heap.get?, found]

end Guest.Space

namespace World

theorem path_of_leads {world : World} {loose : Multiset Ref} (leads : Leads .lasting (empty, 0) (world, loose))
    {id : SpaceId} (here : id.index < world.spaces.size) :
    Guest.Space.Path .lasting (.start, 0) (world.space id, heldIn id (loose + world.outside)) := by
  have path := leads.paths id here
  have unknown : ¬id.index < empty.spaces.size := Nat.not_lt_zero _
  rw [origin, if_neg unknown] at path
  exact path

end World

namespace Console

theorem accounted_of_balanced {engine : Engine} (balanced : engine.Balanced) (commands : List Command) (id : SpaceId)
    (started : ((after engine commands .empty).space id).roots.isSome) :
    let world := after engine commands .empty
    (world.space id).Accounted (heldIn id world.outside) ∧
      Guest.Space.Path .lasting (.start, 0) (world.space id, heldIn id world.outside) := by
  intro world
  have leads : World.Leads .lasting (.empty, 0) (world, 0) := leads_after balanced commands World.exact_empty
  have exact : world.Exact (0 + 0) := leads.exact World.exact_empty
  have space := exact.spaces id
  rw [zero_add, zero_add] at space
  have path := World.path_of_leads leads (World.known_of_started started)
  rw [zero_add] at path
  exact ⟨space.accounted started, path⟩

/-- After any run of commands every count of a space that is not finalized is the number of references:
those of registers and sessions and the forgotten ones, those in live objects, in the list of modules and
among the roots. It is at least one, and no reference is stale. The space has come from its start by steps
each of which lowers a count above one, or frees an object whose count is one: no count goes below zero. -/
theorem accounted_after (depth : Nat) (commands : List Command) (id : SpaceId)
    (started : ((after (.ofDepth depth) commands .empty).space id).roots.isSome) :
    let world := after (.ofDepth depth) commands .empty
    (world.space id).Accounted (heldIn id world.outside) ∧
      Guest.Space.Path .lasting (.start, 0) (world.space id, heldIn id world.outside) :=
  accounted_of_balanced (Engine.balanced_ofDepth depth) commands id started

/-- A run that makes a value and forgets it. -/
theorem accounted_after_forget :
    let commands : List Command :=
      [{ action := .guest .start, place := none, host := "", result := none, keyed := false },
        { action := .guest (.value (.text "value")), place := none, host := "", result := some "x", keyed := false },
        { action := .forget "x", place := none, host := "", result := none, keyed := false }]
    let world := after (.ofDepth 1) commands .empty
    (world.space { index := 0 }).Accounted (heldIn { index := 0 } world.outside) ∧
      Guest.Space.Path .lasting (.start, 0) (world.space { index := 0 }, heldIn { index := 0 } world.outside) :=
  accounted_after 1 _ { index := 0 } (by rfl)

end Console

end ObjectBridge

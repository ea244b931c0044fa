import ObjectBridge.Proofs.Space.Listing
import ObjectBridge.Proofs.World.Accounting
import ObjectBridge.Proofs.World.Offered
import ObjectBridge.Proofs.World.Traits

/-!
What is listed and what is answered. Whatever runs, types keep their names, so in every world that is come to the
attributes that are listed are those that are answered, each from the place that the look-up order says.
-/

namespace ObjectBridge

open Act
open Guest (Attribute Handle)

namespace World

def Named (world : World) : Prop :=
  ∀ id, (world.space id).Named

theorem named_empty : empty.Named := by
  have holds : empty.Holds .named := holds_empty
  exact holds

def KeepsNames (before after : World) : Prop :=
  before.Named → after.Named

instance : CoversProcess KeepsNames :=
  inferInstanceAs (CoversProcess (KeepsTrait .named))

/-- The world is come to from the empty one by steps that count references, those that are held meanwhile among them,
and types have their names. -/
structure Reached (world : World) (held : Multiset Ref) : Prop where
  leads : Leads .lasting (empty, 0) (world, held)
  named : world.Named

variable {world : World} {held : Multiset Ref}

theorem Reached.exact (reached : world.Reached held) : world.Exact held :=
  reached.leads.exact_alone exact_empty

theorem Reached.path (reached : world.Reached held) {id : SpaceId} (started : (world.space id).roots.isSome) :
    Guest.Space.Path .lasting (.start, 0) (world.space id, heldIn id (held + world.outside)) :=
  path_of_leads reached.leads (known_of_started started)

theorem Reached.searchable (reached : world.Reached held) {id : SpaceId} (started : (world.space id).roots.isSome) :
    (world.space id).Searchable :=
  Guest.Space.searchable_of_path (reached.path started) started (reached.named id)

theorem Reached.run {ε α : Type} {act : Act ε α} {borrowed : List Ref} {owned frame : Multiset Ref}
    {answer : α → Multiset Ref} (reached : world.Reached (owned + frame))
    (balanced : Act.Balanced .lasting borrowed owned act answer) (keeps : Act.Respects KeepsNames act)
    (lent : ∀ ref ∈ borrowed, ref ∈ frame) :
    (act.run world).2.Reached (left answer (act.run world).1 + frame) where
  leads := by
    have leads := balanced world frame reached.exact lent
    exact reached.leads.trans (leads.frame (knows_add.mp (knows_add.mp reached.exact.known).1).2)
  named := keeps world reached.named

theorem Reached.retainAll {refs : List Ref} (reached : world.Reached held) (live : ∀ ref ∈ refs, world.Live ref) :
    (world.retainAll refs).Reached ((refs : Multiset Ref) + held) where
  leads := by
    have exact : world.Exact (held + 0) := by
      rw [add_zero]
      exact reached.exact
    exact reached.leads.trans (leads_retainAll .lasting exact live)
  named := by
    have keeps : KeepsNames world (world.retainAll refs) := CoversObjects.of_quiet (world.quiet_retainAll refs)
    exact keeps reached.named

theorem Reached.call {frame : Multiset Ref} (reached : world.Reached frame) (depth : Nat) (space : SpaceId)
    (callable : Ref) (arguments : List Ref) (keywords : List (String × Ref)) (lent : ∀ ref ∈ arguments, ref ∈ frame)
    (named : ∀ keyword ∈ keywords, keyword.2 ∈ frame) :
    let ran := ((Engine.ofDepth depth).call space callable arguments keywords).run world
    ran.2.Reached (left ({·}) ran.1 + frame) := by
  intro ran
  let borrowed := arguments ++ keywords.map (·.2)
  have balanced : Act.Balanced .lasting borrowed 0 _ ({·}) :=
    (Engine.balanced_ofDepth depth).call space callable arguments keywords
      (fun ref member => List.mem_append_left _ member)
      fun keyword member => List.mem_append_right _ (List.mem_map_of_mem member)
  have keeps : (Engine.ofDepth depth).Respects KeepsNames := Engine.respects_ofDepth depth
  have whole : Reached world (0 + frame) := by rwa [zero_add]
  refine whole.run balanced (keeps.call space callable arguments keywords) fun ref member => ?_
  rcases List.mem_append.mp member with given | given
  · exact lent ref given
  · obtain ⟨keyword, listed, rfl⟩ := List.mem_map.mp given
    exact named keyword listed

/-- What is answered for an attribute, and what is left then: one more reference to it, or a new method, which refers
to the value and to the function. -/
def delivery (world : World) (value : Ref) : Attribute → Ref × World
  | .plain handle =>
    let ref : Ref := { space := value.space, handle }
    (ref, world.retain ref)
  | .method function =>
    let counted := ((world.space value.space).retain value.handle).retain function
    let (handle, heap) := counted.heap.allocate (.boundMethod value.handle function)
    ({ space := value.space, handle }, world.setSpace value.space { counted with heap })

end World

namespace Act

variable {world : World} {value : Ref} {name : String} {object : Guest.Object Code}

theorem run_getattr_of_provides {place : Attribute} (searchable : (world.space value.space).Searchable)
    (live : world.get? value = some object)
    (provides : (world.space value.space).Provides value.handle object name place) :
    (getattr value.space value name).run world = (.ok (world.delivery value place).1, (world.delivery value place).2) := by
  have found := searchable.findAttribute_of_provides live provides
  rw [getattr, run_ownedBy]
  cases place with
  | plain handle =>
    obtain ⟨other, there⟩ := searchable.toClosed.has_attribute found
    have shown := Guest.Space.object_eq_ok.mpr ⟨searchable.started, there⟩
    rw [Guest.Space.run_getattr_plain found, Guest.Space.acquire_eq_ok.mpr ⟨⟨other, shown⟩, rfl, rfl⟩]
    simp only [World.delivery, World.retain, World.updateSpace_eq_setSpace]
  | method function =>
    let counted := ((world.space value.space).retain value.handle).retain function
    have made : (Guest.Space.allocate (.boundMethod value.handle function)).run counted = _ :=
      Guest.Space.allocate_eq_ok.mpr ⟨searchable.started, rfl, rfl⟩
    rw [Guest.Space.run_getattr_method found, made]
    rfl

theorem run_getattr_of_none (searchable : (world.space value.space).Searchable) (live : world.get? value = some object)
    (nothing : ∀ place, ¬(world.space value.space).Provides value.handle object name place) :
    ∃ exception, exception.kind = "AttributeError" ∧
      (getattr value.space value name).run world = (.error exception, world) := by
  obtain ⟨exception, failed, kind⟩ := searchable.findAttribute_of_none live nothing
  refine ⟨exception, kind, ?_⟩
  rw [getattr, run_ownedBy, Guest.Space.run_getattr_error failed]

end Act

theorem Console.reached_after (depth : Nat) (commands : List Command) :
    (after (.ofDepth depth) commands .empty).Reached 0 where
  leads := leads_after (Engine.balanced_ofDepth depth) commands World.exact_empty
  named := by
    have keeps : (Engine.ofDepth depth).Respects World.KeepsNames := Engine.respects_ofDepth depth
    exact covers_after keeps commands .empty World.named_empty

namespace World

/-- In every world that is come to, by commands or by calls in their course, the attributes of a live value are
listed in ascending order, each once. What is listed is answered, from the place to which the name leads, and nothing
else changes. For all other names an `AttributeError` is raised, and nothing changes. -/
theorem listed_iff_answered :
    (∀ depth commands, Reached (Console.after (.ofDepth depth) commands .empty) 0) ∧
    (∀ depth space callable arguments keywords world frame, Reached world frame →
      (∀ ref ∈ arguments, ref ∈ frame) → (∀ keyword ∈ keywords, keyword.2 ∈ frame) →
      let ran := ((Engine.ofDepth depth).call space callable arguments keywords).run world
      Reached ran.2 (left ({·}) ran.1 + frame)) ∧
    ∀ world held, Reached world held → ∀ value object, world.get? value = some object →
      let space := world.space value.space
      ∃ names, (onView value.space (·.dir value.handle)).run world = (.ok names, world) ∧ names.Pairwise (· < ·) ∧
        ∀ name,
          (name ∈ names ∧ ∃ place, space.Provides value.handle object name place ∧
            (∀ other, space.Provides value.handle object name other → other = place) ∧
            (getattr value.space value name).run world =
              (.ok (world.delivery value place).1, (world.delivery value place).2)) ∨
          (name ∉ names ∧ (∀ place, ¬space.Provides value.handle object name place) ∧
            ∃ exception, exception.kind = "AttributeError" ∧
              (getattr value.space value name).run world = (.error exception, world)) := by
  refine ⟨Console.reached_after, ?_, ?_⟩
  · intro depth space callable arguments keywords world frame reached lent named
    exact reached.call depth space callable arguments keywords lent named
  · intro world held reached value object live space
    have started := Guest.Space.started_of_get? (reached.exact.spaces value.space) live
    have searchable := reached.searchable started
    obtain ⟨names, listed, ascending, same⟩ := searchable.exists_dir live
    refine ⟨names, ?_, ascending, fun name => ?_⟩
    · rw [run_onView, listed]
    · by_cases member : name ∈ names
      · obtain ⟨place, provides⟩ := (same name).mp member
        refine Or.inl ⟨member, place, provides, fun other also => ?_, run_getattr_of_provides searchable live provides⟩
        have one := searchable.findAttribute_of_provides live provides
        have two := searchable.findAttribute_of_provides live also
        exact Except.ok.inj (two.symm.trans one)
      · have nothing : ∀ place, ¬space.Provides value.handle object name place :=
          fun place provides => member ((same name).mpr ⟨place, provides⟩)
        exact Or.inr ⟨member, nothing, run_getattr_of_none searchable live nothing⟩

/-- The module of a session that was opened lists its name, which is answered, and no other that is refused. -/
theorem listed_iff_answered_opened :
    let world := Console.opened
    let module := Console.openedModule
    world.Reached 0 ∧ ∃ object names, world.get? module = some object ∧
      (onView module.space (·.dir module.handle)).run world = (.ok names, world) ∧ "__name__" ∈ names ∧
        "absent" ∉ names := by
  intro world module
  have named : ((getattr module.space module "__name__").run world).1.isOk = true := by decide +kernel
  have absent : ((getattr module.space module "absent").run world).1.isOk = false := by decide +kernel
  have live : (world.get? module).isSome := by decide +kernel
  obtain ⟨runs, -, agree⟩ := listed_iff_answered
  have reached : world.Reached 0 := runs 1 [Console.opening "s"]
  clear_value world module
  obtain ⟨object, live⟩ := Option.isSome_iff_exists.mp live
  obtain ⟨names, listed, -, each⟩ := agree world 0 reached module object live
  refine ⟨reached, object, names, live, listed, ?_, ?_⟩
  · rcases each "__name__" with ⟨member, -⟩ | ⟨-, -, exception, -, failed⟩
    · exact member
    · rw [failed] at named
      cases named
  · rcases each "absent" with ⟨-, place, -, -, answered⟩ | ⟨unlisted, -⟩
    · rw [answered] at absent
      cases absent
    · exact unlisted

end World

end ObjectBridge

import ObjectBridge.Proofs.Matching
import ObjectBridge.Proofs.Space.Labels
import ObjectBridge.Proofs.World.Listing
import ObjectBridge.Proofs.World.Resolution

/-!
What names stand for. A name is split at its points. The longest run of leading segments that means a global of the
module leads to its value, or else the first segment leads to a builtin; each segment after that leads to the attribute
that it means. Looking for a name finds what it stands for, and raises a `NameError` if it stands for nothing.
-/

namespace ObjectBridge

open Guest (Handle)

namespace Registry

section Denotes

variable (space : Space)

inductive Steps (found : Found) (segment : String) : Found → Prop
  | intro {names : List String} {known : String} {place : Guest.Attribute} (listed : namesOf space found = .ok names)
      (means : Means names segment known) (leads : attributeOf space known found = .ok place) :
      Steps found segment (found.ofAttribute place)

inductive Follows : Found → List String → Found → Prop
  | done (found : Found) : Follows found [] found
  | along {found next last : Found} {segment : String} {rest : List String} (steps : Steps space found segment next)
      (follows : Follows next rest last) : Follows found (segment :: rest) last

inductive NamesBuiltin (name : String) : Found → Prop
  | intro {known : String} {value : Handle} (means : Means Guest.Space.builtinNames name known)
      (bound : space.builtin? known = some value) : NamesBuiltin name (.object value)

inductive Denotes (globals : Bindings Handle) (name : String) : Found → Prop
  | global {count : Nat} {known : String} {value : Handle} {found : Found} (nonempty : name ≠ "")
      (longest : Longest globals.names (Text.segments name) (Text.segments name).length known count)
      (bound : globals.get? known = some value)
      (follows : Follows space (.object value) ((Text.segments name).drop count) found) : Denotes globals name found
  | builtin {first : String} {rest : List String} {start found : Found} (nonempty : name ≠ "")
      (none : NoGlobal globals.names (Text.segments name) (Text.segments name).length)
      (split : Text.segments name = first :: rest) (names : NamesBuiltin space first start)
      (follows : Follows space start rest found) : Denotes globals name found

inductive Found.Plain : Found → Prop
  | object {handle : Handle} (has : space.Has handle) : Found.Plain (.object handle)
  | method {receiver function : Handle} (hasReceiver : space.Has receiver) (hasFunction : space.Has function) :
      Found.Plain (.method (.object receiver) function)

end Denotes

section Unique

variable {space : Space} {globals : Bindings Handle} {name segment : String} {rest : List String}
  {found next last other : Found}

theorem Steps.unique (steps : Steps space found segment next) (stepsOther : Steps space found segment other) :
    next = other := by
  cases steps with
  | intro listed means leads =>
    cases stepsOther with
    | intro listedToo meansToo leadsToo =>
      obtain rfl := Except.ok.inj (listed.symm.trans listedToo)
      obtain rfl := means.unique meansToo
      obtain rfl := Except.ok.inj (leads.symm.trans leadsToo)
      rfl

theorem follows_cons_iff (steps : Steps space found segment next) :
    Follows space found (segment :: rest) last ↔ Follows space next rest last := by
  constructor
  · intro follows
    cases follows with
    | along stepsToo later =>
      obtain rfl := steps.unique stepsToo
      exact later
  · exact .along steps

theorem Follows.unique (follows : Follows space found rest last) (followsOther : Follows space found rest other) :
    last = other := by
  induction follows with
  | done found =>
    cases followsOther with
    | done => rfl
  | along steps _ ih => exact ih ((follows_cons_iff steps).mp followsOther)

theorem NamesBuiltin.unique (names : NamesBuiltin space name found) (namesOther : NamesBuiltin space name other) :
    found = other := by
  cases names with
  | intro means bound =>
    cases namesOther with
    | intro meansToo boundToo =>
      obtain rfl := means.unique meansToo
      obtain rfl := Option.some.inj (bound.symm.trans boundToo)
      rfl

theorem builtinNamed_answers (space : Space) (name : String) :
    Answers (NamesBuiltin space name) (builtinNamed space name) := by
  have once : Guest.Space.builtinNames.Nodup := by decide
  refine (findName_answers once name).bind ?_ ?_
  · intro known? meant
    cases bound : known?.bind space.builtin? with
    | some value =>
      obtain ⟨known, rfl, here⟩ := Option.bind_eq_some_iff.mp bound
      dsimp only
      exact NamesBuiltin.intro meant here
    | none =>
      dsimp only
      refine ⟨rfl, ?_⟩
      intro found names
      cases names with
      | @intro known value means here =>
        cases known? with
        | some other =>
          obtain rfl := means.unique meant
          simp [here] at bound
        | none => exact means.not_unlike meant
  · intro found names
    cases names with
    | @intro known value means => exact ⟨some known, means⟩

theorem denotes_iff_of_longest {known : String} {count : Nat} {value : Handle} (nonempty : name ≠ "")
    (longest : Longest globals.names (Text.segments name) (Text.segments name).length known count)
    (bound : globals.get? known = some value) :
    Denotes space globals name found ↔ Follows space (.object value) ((Text.segments name).drop count) found := by
  constructor
  · intro denotes
    cases denotes with
    | global _ longestToo boundToo follows =>
      obtain ⟨rfl, rfl⟩ := longest.unique longestToo
      obtain rfl := Option.some.inj (bound.symm.trans boundToo)
      exact follows
    | builtin _ none => exact absurd none longest.not_noGlobal
  · exact .global nonempty longest bound

theorem denotes_iff_of_noGlobal {first : String} (nonempty : name ≠ "")
    (none : NoGlobal globals.names (Text.segments name) (Text.segments name).length)
    (split : Text.segments name = first :: rest) :
    Denotes space globals name found ↔ ∃ start, NamesBuiltin space first start ∧ Follows space start rest found := by
  constructor
  · intro denotes
    cases denotes with
    | global _ longest => exact absurd none longest.not_noGlobal
    | builtin _ _ splitToo names follows =>
      obtain ⟨rfl, rfl⟩ := List.cons_eq_cons.mp (split.symm.trans splitToo)
      exact ⟨_, names, follows⟩
  · rintro ⟨start, names, follows⟩
    exact .builtin nonempty none split names follows

theorem Denotes.unique (denotes : Denotes space globals name found) (denotesOther : Denotes space globals name other) :
    found = other := by
  cases denotes with
  | global nonempty longest bound follows =>
    exact follows.unique ((denotes_iff_of_longest nonempty longest bound).mp denotesOther)
  | builtin nonempty none split names follows =>
    obtain ⟨start, namesToo, followsToo⟩ := (denotes_iff_of_noGlobal nonempty none split).mp denotesOther
    obtain rfl := names.unique namesToo
    exact follows.unique followsToo

theorem Denotes.leading (denotes : Denotes space globals name found) :
    ∃ found?, Leading globals.names (Text.segments name) (Text.segments name).length found? := by
  cases denotes with
  | @global count known _ _ _ longest => exact ⟨some (known, count), longest⟩
  | builtin _ none => exact ⟨Option.none, none⟩

end Unique

structure Legible (space : Space) : Prop extends space.Searchable where
  labels : ∀ roots, space.roots = some roots → ∀ kind name value,
    space.lookup (roots.typeFor kind) name = some value → ∃ text, space.heap.get? value = some (.str text)
  builtins : ∀ name value, space.builtin? name = some value → space.Has value

theorem labelled_start : ∀ roots, (Guest.Space.start : Space).roots = some roots → ∀ type ∈ roots.types.values,
    (Guest.Space.start : Space).Labelled type := by
  have evaluated : ((Guest.Space.start : Space).roots.all fun roots => roots.types.values.all fun type =>
      (((Guest.Space.start : Space).members type).get? "__name__").any fun label =>
        ((Guest.Space.start : Space).text? label).isSome) = true := by
    decide +kernel
  obtain ⟨first, rootedFirst, -, native⟩ := Guest.Space.exists_native_start (β := Code)
  intro roots rooted type member
  obtain rfl := Option.some.inj (rootedFirst.symm.trans rooted)
  rw [rooted, Option.all_some, List.all_eq_true] at evaluated
  have checked := evaluated type member
  unfold Guest.Space.members at checked
  split at checked
  · rename_i contents found
    obtain ⟨builtin, ⟨label, members⟩, -⟩ := native type _ found
    rw [members, Bindings.singleton, Bindings.get?_insert, if_pos rfl, Option.any_some] at checked
    obtain ⟨text, written⟩ := Option.isSome_iff_exists.mp checked
    exact ⟨contents, label, text, found, builtin, members, Guest.Space.text?_eq_some.mp written⟩
  · simp [Bindings.get?_empty] at checked

section Legible

variable {space : Space} (legible : Legible space)
include legible

theorem Legible.exists_namesOf {found : Found} (plain : found.Plain space) :
    ∃ names, namesOf space found = .ok names ∧ names.Nodup ∧ ∀ known ∈ names, ∃ place,
      attributeOf space known found = .ok place ∧ (found.ofAttribute place).Plain space := by
  have closed := legible.toClosed
  cases plain with
  | @object handle has =>
    obtain ⟨object, live⟩ := has
    obtain ⟨names, listed, ascending, each⟩ := legible.toSearchable.exists_dir live
    refine ⟨names, listed, ascending.imp fun less => ?_, fun known member => ?_⟩
    · rintro rfl
      exact absurd less (String.lt_irrefl _)
    · obtain ⟨place, provides⟩ := (each known).mp member
      have found := legible.toSearchable.findAttribute_of_provides live provides
      refine ⟨place, found, ?_⟩
      cases place with
      | plain value => exact .object (closed.has_attribute found)
      | method function =>
        obtain ⟨callable, shown⟩ := Guest.Space.function_of_findAttribute found
        exact .method ⟨object, live⟩ ⟨_, (Guest.Space.object_eq_ok.mp shown).2⟩
  | method hasReceiver hasFunction =>
    obtain ⟨roots, rooted⟩ := Option.isSome_iff_exists.mp legible.started
    have now := Guest.Space.rootsNow_eq_ok.mpr rooted
    refine ⟨_, by simp only [namesOf, now, bind, Except.bind]; rfl, ?_, fun known member => ?_⟩
    · refine (Guest.pairwise_foldr_insertName _).imp fun less => ?_
      rintro rfl
      exact absurd less (String.lt_irrefl _)
    · obtain ⟨value, first⟩ := Guest.Space.mem_inheritedNames.mp (Guest.mem_foldr_insertName.mp member)
      obtain ⟨object, there, inherited⟩ := legible.toSearchable.inheritedAttribute_of_first first
      obtain ⟨text, written⟩ := legible.labels roots rooted _ _ _ (Guest.Space.lookup_eq_some.mpr first)
      obtain rfl := Option.some.inj (there.symm.trans written)
      refine ⟨.plain value, ?_, .object ⟨_, written⟩⟩
      rw [attributeOf_method]
      simp only [now, bind, Except.bind]
      exact inherited

theorem Legible.plain_of_steps {found next : Found} {segment : String} (plain : found.Plain space)
    (steps : Steps space found segment next) : next.Plain space := by
  obtain ⟨names, listed, -, attributes⟩ := legible.exists_namesOf plain
  cases steps with
  | @intro names known place listedToo means leads =>
    obtain rfl := Except.ok.inj (listed.symm.trans listedToo)
    obtain ⟨other, leadsToo, next⟩ := attributes known means.listed
    obtain rfl := Except.ok.inj (leads.symm.trans leadsToo)
    exact next

theorem Legible.stepped_answers {found : Found} (plain : found.Plain space) (name segment : String) :
    Answers (Steps space found segment) (stepped space name segment found) := by
  obtain ⟨names, listed, once, attributes⟩ := legible.exists_namesOf plain
  have exists_means (next : Found) (steps : Steps space found segment next) : ∃ known, Means names segment known := by
    cases steps with
    | intro listedToo means =>
      obtain rfl := Except.ok.inj (listed.symm.trans listedToo)
      exact ⟨_, means⟩
  rw [stepped, listed]
  refine (findName_answers once segment).bind ?_ ?_
  · intro known? meant
    cases known? with
    | some known =>
      obtain ⟨place, leads, -⟩ := attributes known (Means.listed meant)
      simp only [leads, Except.map]
      exact Steps.intro listed meant leads
    | none =>
      refine ⟨rfl, ?_⟩
      intro next steps
      obtain ⟨known, means⟩ := exists_means next steps
      exact means.not_unlike meant
  · intro next steps
    obtain ⟨known, means⟩ := exists_means next steps
    exact ⟨some known, means⟩

theorem Legible.followed_answers {found : Found} (plain : found.Plain space) (name : String) (segments : List String) :
    Answers (Follows space found segments) (followed space name found segments) := by
  -- What is found at each step is plain, so the next step finds what it lists.
  induction segments generalizing found with
  | nil => exact Follows.done found
  | cons segment rest ih =>
    refine (legible.stepped_answers plain name segment).bind ?_ ?_
    · intro next steps
      exact (ih (legible.plain_of_steps plain steps)).congr fun last => (follows_cons_iff steps).symm
    · intro last follows
      cases follows with
      | along steps => exact ⟨_, steps⟩

theorem Legible.plain_of_follows {found last : Found} {segments : List String} (plain : found.Plain space)
    (follows : Follows space found segments last) : last.Plain space := by
  induction follows with
  | done found => exact plain
  | along steps _ ih => exact ih (legible.plain_of_steps plain steps)

theorem Legible.plain_of_namesBuiltin {name : String} {found : Found} (names : NamesBuiltin space name found) :
    found.Plain space := by
  cases names with
  | intro _ bound => exact .object (legible.builtins _ _ bound)

section Module

variable {module : Handle} {contents : Guest.ModuleObject} {name : String}
  (live : space.heap.get? module = some (.moduleObject contents))
include live

theorem Legible.resolved_answers (name : String) :
    Answers (Denotes space contents.globals name) (resolved space module name) := by
  have shown := Guest.Space.object_eq_ok.mpr ⟨legible.started, live⟩
  have listed : namesOf space (.object module) = .ok contents.globals.names := Guest.Space.dir_module shown
  by_cases nonempty : name = ""
  · subst nonempty
    refine ⟨rfl, ?_⟩
    intro found denotes
    cases denotes with
    | global nonempty => exact nonempty rfl
    | builtin nonempty => exact nonempty rfl
  rw [resolved, if_neg (by simpa using nonempty), listed]
  -- Once the longest run is known, the rest of the name leads on from one start.
  refine (longestGlobal_answers contents.globals.nodup_names _ _).bind ?_ fun found => Denotes.leading
  intro found? leading
  cases found? with
  | some found =>
    obtain ⟨known, count⟩ := found
    have longest : Longest contents.globals.names (Text.segments name) (Text.segments name).length known count := leading
    obtain ⟨value, bound⟩ := Bindings.mem_names.mp longest.means.listed
    have leads : attributeOf space known (.object module) = .ok (.plain value) :=
      Guest.Space.findAttribute_global shown bound
    have plain : (Found.object value).Plain space := .object (legible.toClosed.has_attribute leads)
    simp only [leads, Except.map]
    refine (legible.followed_answers plain name _).congr ?_
    intro last
    exact (denotes_iff_of_longest nonempty longest bound).symm
  | none =>
    obtain ⟨first, rest, split⟩ : ∃ first rest, Text.segments name = first :: rest := ⟨_, _, rfl⟩
    have denotes_iff (last : Found) : Denotes space contents.globals name last ↔
        ∃ start, NamesBuiltin space first start ∧ Follows space start rest last :=
      denotes_iff_of_noGlobal nonempty leading split
    simp only [split, List.head?_cons, Option.getD_some, List.drop_succ_cons, List.drop_zero]
    refine (builtinNamed_answers space first).bind ?_ ?_
    · intro start names
      refine (legible.followed_answers (legible.plain_of_namesBuiltin names) name rest).congr ?_
      intro last
      rw [denotes_iff]
      constructor
      · exact fun follows => ⟨start, names, follows⟩
      · rintro ⟨other, namesOther, follows⟩
        rwa [names.unique namesOther]
    · intro last denotes
      obtain ⟨start, names, -⟩ := (denotes_iff last).mp denotes
      exact ⟨start, names⟩

theorem Legible.plain_of_denotes {found : Found} (denotes : Denotes space contents.globals name found) :
    found.Plain space := by
  cases denotes with
  | global _ _ bound follows =>
    have shown := Guest.Space.object_eq_ok.mpr ⟨legible.started, live⟩
    have leads := Guest.Space.findAttribute_global shown bound
    exact legible.plain_of_follows (.object (legible.toClosed.has_attribute leads)) follows
  | builtin _ _ _ names follows => exact legible.plain_of_follows (legible.plain_of_namesBuiltin names) follows

end Module

end Legible

end Registry

namespace Act

variable {ε α γ : Type}

def InSpaces (act : Act ε α) : Prop :=
  ∀ world, ∃ spaces, (act.run world).2 = { world with spaces }

theorem InSpaces.of_same {act : Act ε α} (same : ∀ world, (act.run world).2 = world) : InSpaces act :=
  fun world => ⟨world.spaces, same world⟩

theorem InSpaces.bind {act : Act ε α} {next : α → Act ε γ} (first : InSpaces act)
    (rest : ∀ value, InSpaces (next value)) : InSpaces (act >>= next) := by
  intro world
  obtain ⟨spaces, between⟩ := first world
  rw [run_bind]
  rcases ran : act.run world with ⟨error | value, after⟩
  all_goals
    rw [ran] at between
    obtain rfl : after = { world with spaces } := between
  · exact ⟨spaces, rfl⟩
  · exact rest value { world with spaces }

theorem InSpaces.get_bind {next : World → Act ε α} (rest : ∀ seen, InSpaces (next seen)) :
    InSpaces (get >>= next) :=
  fun world => rest world world

theorem InSpaces.lending {act : Act ε α} (refs : List Ref) (first : InSpaces act) : InSpaces (lending refs act) := by
  have released (world : World) : ∃ spaces, world.releaseAll refs = { world with spaces } := by
    induction refs generalizing world with
    | nil => exact ⟨world.spaces, rfl⟩
    | cons ref rest ih => exact ih (world.release ref)
  intro world
  obtain ⟨spaces, between⟩ := first world
  rw [run_lending, between]
  exact released { world with spaces }

theorem InSpaces.ownedBy (id : SpaceId) (operation : Guest.Op Code Handle) : InSpaces (ownedBy id operation) := by
  intro world
  rw [run_ownedBy]
  rcases operation.run (world.space id) with exception | ⟨handle, space⟩
  · exact ⟨world.spaces, rfl⟩
  · exact ⟨(world.setSpace id space).spaces, rfl⟩

end Act

namespace Registry

open Act

theorem inSpaces_followAttributes (id : SpaceId) (name : String) (current : Ref) (segments : List String) :
    InSpaces (followAttributes id name current segments) := by
  induction segments generalizing current with
  | nil => exact .of_same fun _ => rfl
  | cons segment rest ih =>
    refine (InSpaces.lending _ ?_).bind ih
    refine InSpaces.bind (.of_same fun _ => rfl) fun names => InSpaces.bind (.of_same fun _ => rfl) fun found => ?_
    cases found with
    | some known => exact .ownedBy _ _
    | none => exact .of_same fun _ => rfl

theorem inSpaces_builtinOf (id : SpaceId) (name : String) : InSpaces (builtinOf id name) := by
  refine InSpaces.bind (.of_same fun _ => rfl) fun found => .get_bind fun world => ?_
  split
  · exact .ownedBy _ _
  · exact .of_same fun _ => rfl

theorem inSpaces_resolve (id : SpaceId) (module : Ref) (name : String) : InSpaces (resolve id module name) := by
  unfold resolve
  split
  · exact .of_same fun _ => rfl
  refine InSpaces.bind (.of_same fun _ => rfl) fun globals => InSpaces.bind (.of_same fun _ => rfl) fun found => ?_
  cases found with
  | some found => exact (InSpaces.ownedBy _ _).bind fun start => inSpaces_followAttributes id name start _
  | none => exact (inSpaces_builtinOf id _).bind fun start => inSpaces_followAttributes id name start _

end Registry

namespace World

variable {world after : World} {held : Multiset Ref}

theorem Reached.legible (reached : world.Reached held) {id : SpaceId} (started : (world.space id).roots.isSome) :
    Registry.Legible (world.space id) where
  toSearchable := reached.searchable started
  labels := by
    intro roots rooted kind name value defined
    have path := reached.path started
    have exact : (Guest.Space.start : Space).Exact (0 + 0) := Guest.Space.exact_start
    obtain ⟨-, type, member, bound⟩ := path.lookup_typeFor rooted defined
    have first : (Guest.Space.start : Space).roots = some roots := (path.roots_eq started).symm.trans rooted
    have root : type ∈ (Guest.Space.start : Space).rootHandles := by
      rw [Guest.Space.rootHandles, first, Option.map_some, Option.getD_some]
      exact List.mem_append_right _ member
    obtain ⟨contents, label, text, found, -, members, written⟩ :=
      path.labelled exact root (Registry.labelled_start roots first type member) started
    rw [Guest.Space.members, found] at bound
    dsimp only at bound
    rw [members, Bindings.singleton, Bindings.get?_insert, if_pos rfl] at bound
    obtain rfl := Option.some.inj bound
    exact ⟨text, written⟩
  builtins _ _ builtin := (reached.exact.spaces id).has_builtin builtin

/-- The object of a reference is as it was, and is referred to once more for each time that it is listed. -/
def Gains (before after : World) (refs : List Ref) (ref : Ref) : Prop :=
  after.cell? ref = (before.cell? ref).map fun cell => { cell with count := cell.count + refs.count ref }

/-- The reference is a new one to what is found, and nothing else is new: a bound method, if that is found, is made
for it. -/
inductive Delivers (world after : World) (id : SpaceId) : Registry.Found → Ref → Prop
  | object {handle : Handle} (live : (world.get? { space := id, handle }).isSome)
      (gains : ∀ other, Gains world after [{ space := id, handle }] other) :
      Delivers world after id (.object handle) { space := id, handle }
  | method {receiver function made : Handle} (new : world.get? { space := id, handle := made } = none)
      (cell : after.cell? { space := id, handle := made } =
        some { count := 1, object := .boundMethod receiver function })
      (gains : ∀ other, other ≠ { space := id, handle := made } →
        Gains world after [{ space := id, handle := receiver }, { space := id, handle := function }] other) :
      Delivers world after id (.method (.object receiver) function) { space := id, handle := made }

theorem delivers_of_shows {id : SpaceId} {ref : Ref} {found : Registry.Found}
    (leads : Leads .temporary (world, 0) (after, {ref})) (exact : world.Exact held)
    (plain : found.Plain (world.space id)) (shows : Registry.Shows (world.space id) after id ref found) :
    world.Delivers after id found ref := by
  cases plain with
  | @object handle has =>
    obtain ⟨rfl, object, live⟩ := shows
    have there : (world.get? { space := id, handle }).isSome := Option.isSome_iff_exists.mpr ⟨object, live⟩
    refine .object there fun other => ?_
    rw [Gains, leads.cell?_of_old exact ?_ other, ← Multiset.coe_singleton, Multiset.coe_count]
    intro ref member
    rwa [Multiset.mem_singleton.mp member]
  | @method receiver function hasReceiver hasFunction =>
    obtain ⟨rfl, new, other, shown, same, -⟩ := shows
    obtain rfl : other = receiver := congrArg Ref.handle same
    have old : ∀ child ∈ [other, function], (world.get? { ref with handle := child }).isSome := by
      intro child member
      have either : child = other ∨ child = function := by simpa using member
      rcases either with rfl | rfl
      · exact Option.isSome_iff_exists.mpr hasReceiver
      · exact Option.isSome_iff_exists.mpr hasFunction
    obtain ⟨made, others⟩ := leads.cell?_of_new exact new shown old
    exact .method new made others

/-- In every world that is come to a name is resolved to what it stands for, one thing at most. If it stands for
nothing, that is a `NameError`. Nothing is bound and no object is changed: what is found is referred to once more, or
is a bound method that is made for it. -/
theorem resolve_meets_definition (reached : world.Reached held) {module : Ref} {contents : Guest.ModuleObject}
    (live : world.get? module = some (.moduleObject contents)) (name : String) :
    let space := world.space module.space
    let ran := (Registry.resolve module.space module name).run world
    ((∃ found ref, ran.1 = .ok ref ∧ Registry.Denotes space contents.globals name found ∧
        (∀ other, Registry.Denotes space contents.globals name other → other = found) ∧
        world.Delivers ran.2 module.space found ref) ∨
      ∃ exception, ran.1 = .error exception ∧ exception.kind = "NameError" ∧
        (∀ found, ¬Registry.Denotes space contents.globals name found) ∧ world.SameObjects ran.2) ∧
    (∃ spaces, ran.2 = { world with spaces }) ∧
    ∀ id, (ran.2.space id).roots = (world.space id).roots ∧ (ran.2.space id).modules = (world.space id).modules ∧
      (ran.2.space id).definitions = (world.space id).definitions := by
  intro space ran
  have exact := reached.exact
  have legible := reached.legible (exact.started_of_get? live)
  have has : space.Has module.handle := ⟨_, live⟩
  have finds := Registry.finds_resolve exact legible.toClosed (Leads.refl world 0) rfl has name
  have balanced : Act.Balanced .temporary [] 0 (Registry.resolve module.space module name) ({·}) :=
    Registry.balanced_resolve module.space module name
  have leads : Leads .temporary (world, 0) (ran.2, Act.left ({·}) ran.1) := balanced.settles (by rwa [zero_add])
  refine ⟨?_, Registry.inSpaces_resolve module.space module name world, leads.tables⟩
  have answers := legible.resolved_answers live name
  rcases led : Registry.resolved space module.handle name with exception | found
  all_goals rw [led] at finds answers
  · obtain ⟨kind, nothing⟩ := answers
    have failed : ran.1 = .error exception := finds
    rw [failed, Act.left_error] at leads
    exact Or.inr ⟨exception, failed, kind, nothing, leads.restored exact⟩
  · have denotes : Registry.Denotes space contents.globals name found := answers
    obtain ⟨ref, answered, shows⟩ := finds
    have answered : ran.1 = .ok ref := answered
    rw [answered, Act.left_ok] at leads
    exact Or.inl ⟨found, ref, answered, denotes, fun other also => also.unique denotes,
      delivers_of_shows leads exact (legible.plain_of_denotes live denotes) shows⟩

/-- In a session that was just opened a builtin is found in another spelling, and what is not there is not found. -/
theorem resolve_meets_definition_opened :
    let world := Console.opened
    let module := Console.openedModule
    let ran (name : String) := (Registry.resolve module.space module name).run world
    ∃ contents, world.get? module = some (.moduleObject contents) ∧
      (∃ found ref, (ran "OBJECT").1 = .ok ref ∧
        Registry.Denotes (world.space module.space) contents.globals "OBJECT" found ∧
          world.Delivers (ran "OBJECT").2 module.space found ref) ∧
      ∃ exception, (ran "object.absent").1 = .error exception ∧ exception.kind = "NameError" ∧
        world.SameObjects (ran "object.absent").2 := by
  intro world module ran
  obtain ⟨kind, found, lost⟩ : (world.get? module).map (·.kind) = some .moduleObject ∧
      ((Registry.resolve module.space module "OBJECT").run world).1.isOk ∧
      ((Registry.resolve module.space module "object.absent").run world).1.isOk = false := by
    decide +kernel
  have reached : world.Reached 0 := Console.reached_after 1 [Console.opening "s"]
  clear_value world module
  obtain ⟨object, live, isModule⟩ := Option.map_eq_some_iff.mp kind
  cases object with
  | moduleObject contents =>
    refine ⟨contents, live, ?_, ?_⟩
    · rcases (resolve_meets_definition reached live "OBJECT").1 with
        ⟨found, ref, answered, denotes, -, delivers⟩ | ⟨exception, failed, -⟩
      · exact ⟨found, ref, answered, denotes, delivers⟩
      · simp [failed, Except.isOk, Except.toBool] at found
    · rcases (resolve_meets_definition reached live "object.absent").1 with
        ⟨found, ref, answered, -⟩ | ⟨exception, failed, kind, -, same⟩
      · simp [answered, Except.isOk, Except.toBool] at lost
      · exact ⟨exception, failed, kind, same⟩
  | _ => cases isModule

end World

end ObjectBridge

import ObjectBridge.Call
import ObjectBridge.Proofs.World.Acts

/-!
Balance of calls. If an engine gives back what it takes, whatever it calls, then so do the operations
that use it: a call lends the bound state and the arguments to the body for its duration, and an instance
whose `__init__` fails is given back.
-/

namespace ObjectBridge

open Guest (Extent Handle)

/-- The arguments of a call are borrowed, its answer is a new reference. A message has neither. -/
structure Engine.Balanced [World.Passing] (engine : Engine) : Prop where
  call : ∀ {borrowed : List Ref} (space : SpaceId) (callable : Ref) (arguments : List Ref)
    (keywords : List (String × Ref)), (∀ ref ∈ arguments, ref ∈ borrowed) →
    (∀ keyword ∈ keywords, keyword.2 ∈ borrowed) →
    Act.Balanced .lasting borrowed 0 (engine.call space callable arguments keywords) ({·})
  send : ∀ {borrowed : List Ref} (host : Host.HostId) (receiver : HostValue) (name : String)
    (arguments : List HostValue),
    Act.Balanced .lasting borrowed 0 (engine.send host receiver name arguments) fun _ => 0

namespace Guest.Space

variable {β : Type} {space : Space β} {handle : Handle}

theorem object_of_callee {callee : Callee β} (found : space.callee handle = .ok callee) :
    match callee with
    | .native body bound => ∃ name, space.object handle = .ok (.function { name, bound, body })
    | .method receiver callable => space.object handle = .ok (.boundMethod receiver callable)
    | .typeObject => ∃ contents, space.object handle = .ok (.typeObject contents) := by
  unfold Space.callee at found
  cases here : space.object handle with
  | error exception => simp [here, bind, Except.bind] at found
  | ok object =>
    cases object with
    | function callable =>
      obtain rfl : callee = .native callable.body callable.bound := by
        simpa [here, bind, Except.bind, pure, Except.pure, eq_comm] using found
      exact ⟨callable.name, rfl⟩
    | boundMethod receiver callable =>
      obtain rfl : callee = .method receiver callable := by
        simpa [here, bind, Except.bind, pure, Except.pure, eq_comm] using found
      rfl
    | typeObject contents =>
      obtain rfl : callee = .typeObject := by
        simpa [here, bind, Except.bind, pure, Except.pure, eq_comm] using found
      exact ⟨contents, rfl⟩
    | _ =>
      cases named : space.typeNameOf handle <;>
        simp [here, named, bind, Except.bind, throw, throwThe, MonadExceptOf.throw] at found

theorem typeObject_of_construction {type : Handle} {construction : Construction}
    (found : space.construction type = .ok construction) : ∃ contents, space.object type = .ok (.typeObject contents) := by
  unfold Space.construction at found
  cases here : space.object type with
  | error exception => simp [here, bind, Except.bind] at found
  | ok object =>
    cases object with
    | typeObject contents => exact ⟨contents, rfl⟩
    | _ => simp [here, bind, Except.bind, throw, throwThe, MonadExceptOf.throw] at found

end Guest.Space

namespace Act

variable {extent : Extent} {borrowed : List Ref} {space : SpaceId}

theorem get?_lookup (space : SpaceId) (type : Ref) (name : String) (world : World) (id : SpaceId) (handle : Handle) :
    (((lookup space type name).run world).2.space id).heap.get? handle = (world.space id).heap.get? handle := by
  unfold lookup
  rw [run_get_bind]
  cases (world.space space).lookup type.handle name with
  | none => rfl
  | some found =>
    rw [run_bind, run_ownedBy]
    cases ran : (Guest.Space.acquire found).run (world.space space) with
    | error exception => rfl
    | ok result =>
      obtain ⟨-, -, counted⟩ := Guest.Space.acquire_eq_ok.mp ran
      simp only [run_pure, counted]
      by_cases known : space.index < world.spaces.size
      · rw [World.space_setSpace known]
        split
        · rename_i same
          rw [same, Guest.Space.retain, Guest.Heap.get?_acquire]
        · rfl
      · rw [World.setSpace_of_unknown known]

variable [World.Passing]

theorem balanced_getattr (target : Ref) (name : String) :
    Balanced extent borrowed 0 (getattr space target name) ({·}) :=
  .ownedBy (Guest.Space.balanced_getattr extent target.handle name)

theorem balanced_hasattr (target : Ref) (name : String) :
    Balanced extent borrowed 0 (hasattr space target name) fun _ => 0 := by
  refine (balanced_getattr target name).outcome.bind fun result => ?_
  cases result with
  | ok ref => exact (Balanced.release ref).bind fun _ => .pure rfl
  | error exception =>
    by_cases absent : exception.isAttributeError = true
    · simpa only [absent, if_true] using .pure rfl
    · simpa only [absent] using .throw exception

theorem balanced_setattr (target : Ref) (name : String) (value : Ref) :
    Balanced .lasting borrowed 0 (setattr space target name value) fun _ => 0 :=
  .onSpace (Guest.Space.balanced_setattr target.handle name value.handle)

theorem balanced_lookup (type : Ref) (name : String) :
    Balanced extent borrowed 0 (lookup space type name) fun found => (found.toList : Multiset Ref) := by
  refine .get_bind fun world frame exact lent => ?_
  cases (world.space space).lookup type.handle name with
  | none => exact .pure rfl
  | some handle =>
    have found : Balanced extent borrowed 0 (ownedBy space (Guest.Space.acquire handle)) ({·}) :=
      .ownedBy (Guest.Space.balanced_acquire extent handle)
    exact (found world frame exact lent).bind fun _ _ => .pure rfl

theorem balanced_dictGet (dict : Ref) (key : String) :
    Balanced extent borrowed 0 (dictGet space dict key) fun found => (found.toList : Multiset Ref) :=
  (Balanced.onSpace (Guest.Space.balanced_dictGet extent dict.handle key)).bind fun found =>
    .pure (by cases found <;> simp)

end Act

namespace Engine

open Act

theorem balanced_newInstance {extent : Extent} (type : Handle) :
    Guest.Op.Balanced (β := Code) extent 0 (do
      let type ← Guest.Space.acquire type
      Guest.Space.allocate (.object { type, attributes := .empty })) ({·}) :=
  (Guest.Space.balanced_acquire extent type).bind fun type =>
    Guest.Space.balanced_allocate extent (.object { type, attributes := .empty })

variable [World.Passing] {engine : Engine} (balanced : engine.Balanced) {borrowed : List Ref} {space : SpaceId}
include balanced

theorem balanced_callMethod (target : Ref) (name : String) {arguments : List Ref}
    (lent : ∀ ref ∈ arguments, ref ∈ borrowed) :
    Act.Balanced .lasting borrowed 0 (engine.callMethod space target name arguments) ({·}) := by
  refine (balanced_getattr target name).bind fun method => ?_
  refine (balanced.call space method arguments [] (fun ref member => ?_) (List.forall_mem_nil _)).lending rfl
  exact List.mem_append_right _ (lent ref member)

theorem balanced_str (value : Ref) (lent : value ∈ borrowed) :
    Act.Balanced .lasting borrowed 0 (engine.str space value) fun _ => 0 := by
  unfold str
  refine (Balanced.view _).bind fun kind => ?_
  split
  · refine (Balanced.ownedBy ?_).bind fun type => ?_
    · exact Guest.Op.Balanced.read.bind fun type => Guest.Space.balanced_acquire .lasting type
    · refine Balanced.bind (?_ : Act.Balanced _ _ _ _ fun _ => 0) fun own => ?_
      · refine Balanced.lending ?_ rfl
        refine (balanced_lookup type "__str__").bind fun method => ?_
        cases method with
        | none => exact .pure rfl
        | some method =>
          refine Balanced.lending ?_ rfl
          refine (balanced.call space method [value] [] ?_ (List.forall_mem_nil _)).bind fun result => ?_
          · simpa using Or.inr (Or.inr lent)
          · refine Balanced.lending ?_ rfl
            refine (Balanced.view _).bind fun text => ?_
            cases text with
            | none => exact .throw _
            | some text => exact .pure rfl
      · cases own with
        | none => exact .onView _
        | some text => exact .pure rfl
  · exact .onView _

omit balanced in
theorem settles_newInstance (extent : Extent) {world : World} {frame : Multiset Ref} {type : Handle}
    {contents : Guest.TypeObject} (exact : world.Exact (0 + frame))
    (there : (world.space space).heap.get? type = some (.typeObject contents)) :
    Settles extent world 0 (ownedBy space do
      let type ← Guest.Space.acquire type
      Guest.Space.allocate (.object { type, attributes := .empty })) ({·}) := by
  have here := exact.spaces space
  rw [zero_add] at here
  exact .ownedBy (balanced_newInstance type _ _ (by rwa [zero_add])) fun held exact typed handle after ran =>
    Guest.Space.wellTyped_newInstance exact typed there ran

theorem balanced_callInit (made initializer : Ref) {arguments : List Ref}
    {keywords : List (String × Ref)} (lentKeywords : ∀ keyword ∈ keywords, keyword.2 ∈ borrowed) :
    Act.Balanced .lasting borrowed ({made} + ((made :: arguments ++ [initializer] : List Ref) : Multiset Ref))
      ((lending (made :: arguments ++ [initializer]) do
        let result ← engine.call space initializer (made :: arguments) keywords
        change (·.release result)).onFailure (·.releaseAll [made])) fun _ => {made} := by
  refine (Balanced.onFailureOwned (Balanced.lending ?_ rfl) rfl).congr rfl fun _ => (add_zero _).symm
  refine (balanced.call space initializer _ _ (fun ref member => ?_) fun keyword member => ?_).bind
    fun result => .release result
  · exact List.mem_append_left _ (List.mem_append_left _ member)
  · exact List.mem_append_right _ (List.mem_append_right _ (lentKeywords keyword member))

theorem balanced_initialize (made initializer : Ref) {arguments : List Ref} {keywords : List (String × Ref)}
    (lent : ∀ ref ∈ arguments, ref ∈ borrowed) (lentKeywords : ∀ keyword ∈ keywords, keyword.2 ∈ borrowed) :
    Act.Balanced .lasting borrowed ({initializer} + {made}) (do
      change (·.retainAll (made :: arguments))
      (lending (made :: arguments ++ [initializer]) do
        let result ← engine.call space initializer (made :: arguments) keywords
        change (·.release result)).onFailure (·.releaseAll [made])
      return made) ({·}) := by
  refine (Balanced.retainAll fun ref member => ?_).bind fun _ => ?_
  · rcases List.mem_cons.mp member with rfl | argument
    · simp
    · exact Or.inl (lent ref argument)
  · refine ((balanced_callInit balanced made initializer lentKeywords).congr ?_ fun _ => rfl).bind fun _ => .pure rfl
    rw [← Multiset.coe_add, ← add_assoc]
    exact add_comm _ _

omit balanced in
theorem settles_makeInstance {world : World} {frame : Multiset Ref} {type : Handle} {contents : Guest.TypeObject}
    (initializer : Option Ref) (exact : world.Exact ((initializer.toList : Multiset Ref) + frame))
    (there : (world.space space).heap.get? type = some (.typeObject contents)) {next : Ref → GuestAct Ref}
    (initialized : ∀ made, Act.Balanced .lasting borrowed ((initializer.toList : Multiset Ref) + {made}) (next made) ({·}))
    (lentNow : ∀ ref ∈ borrowed, ref ∈ frame) :
    Settles .lasting world (initializer.toList : Multiset Ref) ((ownedBy space do
      let type ← Guest.Space.acquire type
      Guest.Space.allocate (.object { type, attributes := .empty })).onFailure (·.releaseAll initializer.toList) >>= next)
      ({·}) := by
  have framed : world.Exact ((initializer.toList : Multiset Ref) + 0 + frame) := by rwa [add_zero]
  have made := (settles_newInstance .lasting (by rwa [zero_add]) there).onFailureUndo framed
    fun _ exact => passes_releaseAll_zero exact
  have exactMade := made.exact framed
  rw [add_zero] at made
  refine made.bind fun instanceRef ran => initialized instanceRef _ frame ?_ lentNow
  rwa [ran, left_ok] at exactMade

theorem balanced_instantiate (type : Ref) {arguments : List Ref} {keywords : List (String × Ref)}
    (lent : ∀ ref ∈ arguments, ref ∈ borrowed) (lentKeywords : ∀ keyword ∈ keywords, keyword.2 ∈ borrowed) :
    Act.Balanced .lasting borrowed 0 (engine.instantiate space type arguments keywords) ({·}) := by
  unfold instantiate
  intro world frame exact lentNow
  refine .onView_bind fun construction found => ?_
  extract_lets make
  refine .unlessRefused (fun _ => rfl) ?_
  have settles (made : Act.Balanced .lasting borrowed 0 (make ()) ({·})) : Settles .lasting world 0 (make ()) ({·}) :=
    made world frame exact lentNow
  cases construction with
  | str =>
    refine settles ?_
    rcases arguments with _ | ⟨value, _ | ⟨other, rest⟩⟩
    · exact .ownedBy (Guest.Space.balanced_newText .lasting "")
    · exact (balanced_str balanced value (lent value (by simp))).bind fun text =>
        .ownedBy (Guest.Space.balanced_newText .lasting text)
    · exact .throw _
  | tuple =>
    refine settles ?_
    rcases arguments with _ | ⟨value, _ | ⟨other, rest⟩⟩
    · exact .ownedBy (Guest.Space.balanced_newTuple .lasting [])
    · refine (Balanced.view _).bind fun kind => ?_
      split
      · exact (Balanced.retain (lent value (by simp))).bind fun _ => .pure rfl
      · exact .throw _
    · exact .throw _
  | object =>
    obtain ⟨contents, there⟩ := Guest.Space.typeObject_of_construction found
    have looks : Settles .lasting world 0 (lookup space type "__init__") _ :=
      balanced_lookup type "__init__" world frame exact lentNow
    refine looks.bind fun initializer ran => ?_
    have exactLooked := looks.exact exact
    rw [ran, left_ok] at exactLooked
    -- What was looked up is held, and the type is still one.
    have thereThen := (get?_lookup space type "__init__" world space type.handle).trans (Guest.Space.object_eq_ok.mp there).2
    refine .unlessRefused (fun refused => ?_) ?_
    · obtain ⟨absent, -⟩ := by simpa using refused
      rw [absent]
      rfl
    · refine settles_makeInstance initializer exactLooked thereThen (fun made => ?_) lentNow
      cases initializer with
      | none => exact .pure (by simp)
      | some initializer => exact balanced_initialize balanced made initializer lent lentKeywords

theorem balanced_callObject {run : Code → Invocation → GuestAct Ref}
    (runs : ∀ (lends : List Ref) (code : Code) (invocation : Invocation),
      (∀ ref ∈ invocation.bound?.toList ++ invocation.arguments ++ invocation.keywords.map (·.2), ref ∈ lends) →
        Act.Balanced .lasting lends 0 (run code invocation) ({·}))
    (callable : Ref) {arguments : List Ref} {keywords : List (String × Ref)}
    (lent : ∀ ref ∈ arguments, ref ∈ borrowed) (lentKeywords : ∀ keyword ∈ keywords, keyword.2 ∈ borrowed) :
    Act.Balanced .lasting borrowed 0 (engine.callObject run space callable arguments keywords) ({·}) := by
  unfold callObject
  intro world frame exact lentNow
  refine .onView_bind fun callee found => ?_
  have held (ref : Ref) (listed : ref ∈ arguments) : world.Live ref :=
    exact.live (Multiset.mem_add.mpr (Or.inl (by simpa using lentNow ref (lent ref listed))))
  have heldKeyword (ref : Ref) (listed : ref ∈ keywords.map (·.2)) : world.Live ref := by
    obtain ⟨keyword, member, rfl⟩ := List.mem_map.mp listed
    exact exact.live (Multiset.mem_add.mpr (Or.inl (by simpa using lentNow _ (lentKeywords keyword member))))
  cases callee with
  | native body bound =>
    obtain ⟨name, here⟩ := Guest.Space.object_of_callee found
    refine Settles.lendingNew (runs _ body _ fun ref member => List.mem_append_left _ member) exact lentNow
      fun ref member => ?_
    rcases List.mem_append.mp member with member | keyword
    · rcases List.mem_append.mp member with state | argument
      · obtain ⟨handle, bound, rfl⟩ := Option.map_eq_some_iff.mp (Option.mem_toList.mp state)
        refine exact.live_of_child (Guest.Space.object_eq_ok.mp here).2 ?_
        simpa [Guest.Object.children] using bound
      · exact held ref argument
    · exact heldKeyword ref keyword
  | method receiver function =>
    have here := (Guest.Space.object_eq_ok.mp (Guest.Space.object_of_callee found)).2
    refine Settles.lendingNew (balanced.call _ _ _ _ ?_ ?_) exact lentNow fun ref member => ?_
    · exact fun ref member => List.mem_append_left _ (List.mem_append_left _ member)
    · exact fun keyword member => List.mem_append_right _ (lentKeywords keyword member)
    · rcases List.mem_append.mp member with first | last
      · rcases List.mem_cons.mp first with rfl | argument
        · exact exact.live_of_child here (by simp [Guest.Object.children])
        · exact held ref argument
      · obtain rfl := List.mem_singleton.mp last
        exact exact.live_of_child here (by simp [Guest.Object.children])
  | typeObject => exact balanced_instantiate balanced callable lent lentKeywords world frame exact lentNow

end Engine

end ObjectBridge

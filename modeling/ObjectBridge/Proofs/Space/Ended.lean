import ObjectBridge.Guest.Callee
import ObjectBridge.Guest.Printing
import ObjectBridge.Proofs.Space.Modules

/-!
Spaces that are finalized. Whatever is asked of one is refused: there are no roots, and each operation asks
for the roots before it does anything else.
-/

namespace ObjectBridge.Guest

variable {α β γ : Type}

/-- What is wrong with the names in a new type, if anything is: its own name goes before those of the members. -/
def typeFault? (name : String) (members : List String) : Option Exception :=
  if Text.isIdentifier name then memberFault? [] members else some (.typeNameNotIdentifier name)

theorem kind_memberFault? {seen members : List String} {fault : Exception}
    (found : memberFault? seen members = some fault) : fault.kind = "TypeError" := by
  induction members generalizing seen with
  | nil => cases found
  | cons name rest ih =>
    unfold memberFault? at found
    split at found
    · cases found
      rfl
    · split at found
      · cases found
        rfl
      · split at found
        · cases found
          rfl
        · exact ih found

theorem kind_typeFault? {name : String} {members : List String} {fault : Exception}
    (found : typeFault? name members = some fault) : fault.kind = "TypeError" := by
  unfold typeFault? at found
  split at found
  · exact kind_memberFault? found
  · cases found
    rfl

namespace Op

section Run

variable {space : Space β} {exception : Exception}

theorem run_bind_error {operation : Op β α} (refused : operation.run space = .error exception) (next : α → Op β γ) :
    (operation >>= next).run space = .error exception := by
  rw [StateT.run_bind, refused]
  rfl

theorem run_read_error {reader : Space β → Except Exception α} (refused : reader space = .error exception) :
    (Space.read reader).run space = .error exception := by
  rw [run_read, refused]
  rfl

theorem run_discard_error {operation : Op β α} (refused : operation.run space = .error exception) :
    (discard operation).run space = .error exception := by
  rw [Functor.discard, LawfulFunctor.map_const, Function.comp_apply, map_eq_pure_bind]
  exact run_bind_error refused _

end Run

end Op

namespace Space

section Ended

variable {space : Space β} (ended : space.roots = none)
include ended

theorem rootsNow_of_ended : space.rootsNow = .error .finalized := by
  simp [rootsNow, ended]

theorem builtin?_of_ended (name : String) : space.builtin? name = none := by
  simp [builtin?, ended]

theorem object_of_ended (handle : Handle) : space.object handle = .error .finalized := by
  simp [object, rootsNow_of_ended ended, bind, Except.bind]

theorem typeOf_of_ended (handle : Handle) : space.typeOf handle = .error .finalized := by
  simp [typeOf, rootsNow_of_ended ended, bind, Except.bind]

theorem typeNameOf_of_ended (handle : Handle) : space.typeNameOf handle = .error .finalized := by
  simp [typeNameOf, typeOf_of_ended ended, bind, Except.bind]

theorem isInstance_of_ended (handle type : Handle) : space.isInstance handle type = .error .finalized := by
  simp [isInstance, typeOf_of_ended ended, bind, Except.bind]

theorem findAttribute_of_ended (handle : Handle) (name : String) :
    space.findAttribute handle name = .error .finalized := by
  simp [findAttribute, ownAttribute, object_of_ended ended, bind, Except.bind]

theorem dir_of_ended (handle : Handle) : space.dir handle = .error .finalized := by
  simp [dir, object_of_ended ended, bind, Except.bind]

theorem entries_of_ended (dict : Handle) : space.entries dict = .error .finalized := by
  simp [entries, object_of_ended ended, bind, Except.bind]

theorem callee_of_ended (handle : Handle) : space.callee handle = .error .finalized := by
  simp [callee, object_of_ended ended, bind, Except.bind]

theorem plainText_of_ended (handle : Handle) : space.plainText handle = .error .finalized := by
  simp [plainText, depthBound, format, object_of_ended ended, bind, Except.bind]

theorem repr_of_ended (handle : Handle) : space.repr handle = .error .finalized := by
  simp [repr, depthBound, format, object_of_ended ended, bind, Except.bind]

theorem finalize_of_ended : space.finalize = (.error .notInitialized, space) := by
  simp [finalize, ended]

theorem checkBase_of_ended (base : Handle) : space.checkBase base = .error .finalized := by
  simp [checkBase, object_of_ended ended, bind, Except.bind]

end Ended

def Refuses (operation : Op β α) : Prop :=
  ∀ space : Space β, space.roots = none → operation.run space = .error .finalized

section Refuses

theorem Refuses.bind {operation : Op β α} (refuses : Refuses operation) (next : α → Op β γ) :
    Refuses (operation >>= next) :=
  fun space ended => Op.run_bind_error (refuses space ended) next

theorem refuses_read {reader : Space β → Except Exception α}
    (refused : ∀ space : Space β, space.roots = none → reader space = .error .finalized) :
    Refuses (Space.read reader) :=
  fun space ended => Op.run_read_error (refused space ended)

theorem refuses_acquire (handle : Handle) : Refuses (acquire handle : Op β Handle) :=
  (refuses_read fun _ ended => object_of_ended ended handle).bind _

theorem refuses_allocate (object : Object β) : Refuses (allocate object) :=
  (refuses_read fun _ ended => rootsNow_of_ended ended).bind _

theorem refuses_noneValue : Refuses (noneValue : Op β Handle) :=
  (refuses_read fun _ ended => rootsNow_of_ended ended).bind _

theorem refuses_boolValue (value : Bool) : Refuses (boolValue value : Op β Handle) :=
  (refuses_read fun _ ended => rootsNow_of_ended ended).bind _

theorem refuses_newTuple (items : List Handle) : Refuses (newTuple items : Op β Handle) := by
  intro space ended
  unfold newTuple
  rw [List.forM_eq_forM]
  cases items with
  | nil =>
    rw [List.forM_nil, pure_bind]
    exact refuses_allocate (.tuple []) _ ended
  | cons item rest =>
    rw [List.forM_cons, bind_assoc]
    exact Op.run_bind_error (Op.run_discard_error (Op.run_read_error (object_of_ended ended item))) _

theorem refuses_newFunction (name : String) (bound : Option Handle) (body : β) :
    Refuses (newFunction name bound body) := by
  intro space ended
  unfold newFunction
  cases bound with
  | none => exact refuses_allocate _ _ ended
  | some state => exact Op.run_bind_error (Op.run_discard_error (refuses_acquire state _ ended)) _

theorem refuses_typeOf (handle : Handle) : Refuses (do acquire (← read (·.typeOf handle)) : Op β Handle) :=
  (refuses_read fun _ ended => typeOf_of_ended ended handle).bind _

theorem refuses_getattr (handle : Handle) (name : String) : Refuses (getattr handle name : Op β Handle) :=
  (refuses_read fun _ ended => findAttribute_of_ended ended handle name).bind _

theorem refuses_setattr (target : Handle) (name : String) (value : Handle) :
    Refuses (setattr target name value : Op β Unit) :=
  (refuses_read fun _ ended => object_of_ended ended value).bind _

theorem refuses_dictGet (dict : Handle) (key : String) : Refuses (dictGet dict key : Op β (Option Handle)) :=
  (refuses_read fun _ ended => entries_of_ended ended dict).bind _

theorem refuses_dictSet (dict : Handle) (key : String) (value : Handle) :
    Refuses (dictSet dict key value : Op β Unit) :=
  (refuses_read fun _ ended => object_of_ended ended value).bind _

theorem refuses_dictRemove (dict : Handle) (key : String) : Refuses (dictRemove dict key : Op β Bool) :=
  (refuses_read fun _ ended => entries_of_ended ended dict).bind _

theorem refuses_dictItems (dict : Handle) : Refuses (dictItems dict : Op β (List (String × Handle))) :=
  (refuses_read fun _ ended => entries_of_ended ended dict).bind _

theorem refuses_importedModule (name : String) : Refuses (importedModule name : Op β (Option Handle)) :=
  (refuses_read fun _ ended => rootsNow_of_ended ended).bind _

theorem refuses_createModule (name : String) (definition : Definition β) : Refuses (createModule name definition) :=
  (refuses_allocate _).bind _

theorem refuses_checkBases (bases : List Handle) (other : bases ≠ []) (next : PUnit → Op β α) :
    Refuses (bases.forM (fun base => read (·.checkBase base)) >>= next) := by
  rw [List.forM_eq_forM]
  cases bases with
  | nil => exact absurd rfl other
  | cons base rest =>
    rw [List.forM_cons, bind_assoc]
    exact (refuses_read fun _ ended => checkBase_of_ended ended base).bind _

theorem newType_of_ended {space : Space β} (ended : space.roots = none) (name : String) (bases : List Handle)
    (members : List (String × Handle)) :
    (newType name bases members).run space = .error ((typeFault? name (members.map (·.1))).getD .finalized) := by
  unfold newType typeFault?
  by_cases identifier : Text.isIdentifier name
  · simp only [identifier, Bool.not_true, Bool.false_eq_true, if_false, pure_bind, if_true]
    cases memberFault? [] (members.map (·.1)) with
    | some fault => rfl
    | none =>
      cases bases with
      | nil => exact Op.run_bind_error (Op.run_read_error (rootsNow_of_ended ended)) _
      | cons base rest => exact refuses_checkBases (base :: rest) (List.cons_ne_nil _ _) _ space ended
  · simp only [identifier, Bool.not_false, if_true]
    rfl

end Refuses

end Space

end ObjectBridge.Guest

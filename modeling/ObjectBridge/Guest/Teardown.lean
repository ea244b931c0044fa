import ObjectBridge.Guest.Modules

/-!
The end of a space. The namespaces of all modules are emptied, then the modules and the roots are given
back. What is still alive after that is referred to from outside the space or by a cycle of objects; it
is counted and goes with the rest.

A space is behind a lock, which a thread that has it must not take again. The lock is held during the whole
teardown, and so while the definitions go that were given to the space.
-/

namespace ObjectBridge.Guest

inductive TeardownError where
  | notInitialized
  | leaked (count : Nat)
deriving DecidableEq, Repr

def TeardownError.message : TeardownError → String
  | .notInitialized => "Guest runtime is not initialized"
  | .leaked count => s!"{count} guest objects still referenced at teardown"

def TeardownError.variant : TeardownError → String
  | .notInitialized => "NotInitialized"
  | .leaked _ => "Leaked"

inductive Lock where
  | free
  | held

namespace Space

variable {β : Type}

def dismantle (space : Space β) : Space β :=
  let modules := space.modules.values
  let emptied := modules.foldl clearModule { space with modules := .empty }
  let parted := emptied.releaseAll modules
  match parted.roots with
  | some roots => { parted with roots := none }.releaseAll roots.handles
  | none => parted

def finalize (space : Space β) : Except TeardownError Unit × Space β :=
  match space.roots with
  | none => (.error .notInitialized, space)
  | some _ =>
    let heap := space.dismantle.heap
    (if heap.live = 0 then .ok () else .error (.leaked heap.live),
      { heap := heap.drain.2, roots := none, modules := .empty, definitions := .empty })

/-- A reference from outside is given back, which takes the lock. Whoever holds the lock already waits for it
without end, and then no space comes back. -/
def giveBack (lock : Lock) (space : Space β) (handle : Handle) : Option (Space β) :=
  match lock with
  | .free => some (space.release handle)
  | .held => none

/-- The teardown under the lock, if it ever returns. With a definition go the references `parting`: those that
its functions and initializers own, outside the space, as far as nothing else has the same code. -/
def teardown (parting : Definition β → List Handle) (space : Space β) :
    Option (Except TeardownError Unit × Space β) :=
  match space.roots with
  | none => some space.finalize
  | some _ => do
    let (result, ended) := space.finalize
    let settled ← (space.definitions.values.flatMap parting).foldlM (giveBack .held) ended
    return (result, settled)

end Space

end ObjectBridge.Guest

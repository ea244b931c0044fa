import ObjectBridge.Bridge.Session
import ObjectBridge.Proofs.Bindings

/-!
What stays as it is in all that happens. A session keeps what it is, and its module until it is closed; an
interpreter keeps its classes under their names, so that the class of a session's proxies is always found.
-/

namespace ObjectBridge

namespace Host.Interpreter

variable {μ ν : Type}

def Named (host : Interpreter μ) : Prop :=
  ∀ key family, host.classes.get? key = some family → Text.asciiUppercase family.name = key

theorem Named.register {host : Interpreter μ} (named : host.Named) (family : Class μ) :
    (host.register family).Named := by
  intro key other found
  simp only [Interpreter.register, Bindings.get?_insert] at found
  split at found
  · rename_i same
    obtain rfl : family = other := by simpa using found
    exact same.symm
  · exact named key other found

theorem named_start (id : HostId) (first : Nat) : (start id first : Interpreter μ).Named := by
  unfold start
  refine (((Named.register ?_ _).register _).register _).register _
  intro key family found
  simp [Bindings.get?_empty] at found

theorem findClass_register {host : Interpreter μ} {name : String} (known : (host.findClass name).isSome)
    (family : Class μ) : ((host.register family).findClass name).isSome := by
  simp only [findClass, Interpreter.register, Bindings.get?_insert] at known ⊢
  split
  · rfl
  · exact known

end Host.Interpreter

namespace World

/-- Classes are found under their names, and so is the class of proxies of every session. -/
structure Prepared (world : World) : Prop where
  named : ∀ (index : Nat) (host : Host.Interpreter Method), world.hosts[index]? = some host → host.Named
  interpreters : ∀ name id, world.interpreters.get? name = some id → id.index < world.hosts.size
  proxied : ∀ id state, world.session? id = some state →
    state.session.host.index < world.hosts.size ∧
      ((world.host state.session.host).findClass state.session.proxyClass.name).isSome

structure Steady (before after : World) : Prop where
  prepared : before.Prepared → after.Prepared
  sessions : ∀ id state, before.session? id = some state → ∃ state', after.session? id = some state' ∧
    state'.session = state.session ∧ (state'.module? = none ∨ state'.module? = state.module?)
  hosts : before.hosts.size ≤ after.hosts.size
  classes : ∀ (id : Host.HostId) (name : String), id.index < before.hosts.size →
    ((before.host id).findClass name).isSome → ((after.host id).findClass name).isSome

theorem prepared_empty : empty.Prepared :=
  ⟨fun index host found => by simp [empty] at found, fun name id found => by simp [empty, Bindings.get?_empty] at found,
    fun id state found => by simp [session?, empty] at found⟩

theorem Steady.of_same {before after : World} (sessions : after.sessions = before.sessions)
    (hosts : after.hosts = before.hosts) (interpreters : after.interpreters = before.interpreters) :
    Steady before after where
  prepared prepared := by
    refine ⟨?_, ?_, ?_⟩
    · rw [hosts]
      exact prepared.named
    · rw [hosts, interpreters]
      exact prepared.interpreters
    · simpa only [session?, host, sessions, hosts] using prepared.proxied
  sessions id state found := ⟨state, by simpa only [session?, sessions] using found, rfl, Or.inr rfl⟩
  hosts := by rw [hosts]
  classes id name _ found := by simpa only [host, hosts] using found

theorem Steady.refl (world : World) : Steady world world :=
  .of_same rfl rfl rfl

theorem Steady.trans {first second third : World} (one : Steady first second) (two : Steady second third) :
    Steady first third where
  prepared := two.prepared ∘ one.prepared
  sessions id state found := by
    obtain ⟨middle, there, same, module⟩ := one.sessions id state found
    obtain ⟨last, here, same', module'⟩ := two.sessions id middle there
    refine ⟨last, here, same'.trans same, ?_⟩
    rcases module' with gone | kept
    · exact Or.inl gone
    · rw [kept]
      exact module
  hosts := one.hosts.trans two.hosts
  classes id name known found := two.classes id name (known.trans_le one.hosts) (one.classes id name known found)

theorem host_setHost {world : World} {other : Host.HostId} (known : other.index < world.hosts.size)
    (id : Host.HostId) (host : Host.Interpreter Method) :
    (world.setHost id host).host other = if other = id then host else world.host other := by
  by_cases same : other = id
  · subst same
    simp [World.host, World.setHost, known]
  · have apart : id.index ≠ other.index := fun equal => same (by cases id; cases other; simp_all)
    simp [World.host, World.setHost, same, apart]

theorem Prepared.named_host {world : World} (prepared : world.Prepared) (id : Host.HostId) :
    (world.host id).Named := by
  rcases found : world.hosts[id.index]? with _ | host
  · have unknown : world.host id = .start id 0 := by rw [World.host, found, Option.getD_none]
    rw [unknown]
    exact Host.Interpreter.named_start _ _
  · have here : world.host id = host := by rw [World.host, found, Option.getD_some]
    rw [here]
    exact prepared.named _ host found

theorem Steady.setHost (world : World) (id : Host.HostId) {host : Host.Interpreter Method}
    (named : (world.host id).Named → host.Named)
    (finds : ∀ name, ((world.host id).findClass name).isSome → (host.findClass name).isSome) :
    Steady world (world.setHost id host) := by
  have size : (world.setHost id host).hosts.size = world.hosts.size := by simp [World.setHost]
  refine ⟨fun prepared => ⟨fun index other found => ?_, fun name id found => ?_, fun session state found => ?_⟩,
    fun session state found => ⟨state, found, rfl, Or.inr rfl⟩, size.ge, fun other name known found => ?_⟩
  · rw [World.setHost, Array.getElem?_setIfInBounds] at found
    split at found
    · rename_i same
      split at found
      · rename_i known
        obtain rfl : host = other := by simpa using found
        exact named (prepared.named_host id)
      · simp at found
    · exact prepared.named index other found
  · exact size ▸ prepared.interpreters name id found
  · obtain ⟨known, shown⟩ := prepared.proxied session state found
    refine ⟨size ▸ known, ?_⟩
    rw [host_setHost known]
    split
    · rename_i same
      exact finds _ (same ▸ shown)
    · exact shown
  · rw [host_setHost known]
    split
    · rename_i same
      exact finds name (same ▸ found)
    · exact found

theorem steady_register (world : World) (id : Host.HostId) (family : HostClass) :
    Steady world (world.setHost id ((world.host id).register family)) :=
  .setHost world id (fun named => named.register family) fun _ known =>
    Host.Interpreter.findClass_register known family

theorem steady_newObject (world : World) (id : Host.HostId) (family : HostClass) (payload : Option Payload) :
    Steady world (world.newObject id family payload).2 :=
  .setHost world id (fun named => named) fun _ known => known

theorem steady_interpreter (world : World) (name : String) : Steady world (world.interpreter name).2 := by
  unfold interpreter
  split
  · exact .refl world
  · refine ⟨fun prepared => ⟨fun index host found => ?_, fun other id found => ?_, fun session state found => ?_⟩,
      fun session state found => ⟨state, found, rfl, Or.inr rfl⟩, by simp, fun id name known found => ?_⟩
    · simp only [Array.getElem?_push] at found
      split at found
      · obtain rfl := Option.some.inj found
        exact Host.Interpreter.named_start _ _
      · exact prepared.named index host found
    · simp only [Bindings.get?_insert] at found
      rw [Array.size_push]
      split at found
      · obtain rfl := Option.some.inj found
        exact Nat.lt_succ_self _
      · exact Nat.lt_succ_of_lt (prepared.interpreters other id found)
    · obtain ⟨known, shown⟩ := prepared.proxied session state found
      refine ⟨by simp only [Array.size_push]; omega, ?_⟩
      simpa [World.host, Array.getElem?_push, Nat.ne_of_lt known] using shown
    · simpa [World.host, Array.getElem?_push, Nat.ne_of_lt known] using found

theorem steady_open {world : World} {state : SessionState} (known : state.session.host.index < world.hosts.size)
    (shown : ((world.host state.session.host).findClass state.session.proxyClass.name).isSome) :
    Steady world { world with sessions := world.sessions.push state } where
  prepared prepared := by
    refine ⟨prepared.named, prepared.interpreters, fun id other found => ?_⟩
    simp only [session?, Array.getElem?_push] at found
    split at found
    · obtain rfl := Option.some.inj found
      exact ⟨known, shown⟩
    · exact prepared.proxied id other found
  sessions id other found := by
    have before : id.index < world.sessions.size := (Array.getElem?_eq_some_iff.mp found).1
    exact ⟨other, by simpa [session?, Array.getElem?_push, Nat.ne_of_lt before] using found, rfl, Or.inr rfl⟩
  hosts := Nat.le_refl _
  classes _ _ _ found := found

theorem Prepared.interpreter_known {world : World} (prepared : world.Prepared) (name : String) :
    (world.interpreter name).1.index < (world.interpreter name).2.hosts.size := by
  unfold interpreter
  split
  · rename_i id found
    exact prepared.interpreters name id found
  · simp

end World

end ObjectBridge

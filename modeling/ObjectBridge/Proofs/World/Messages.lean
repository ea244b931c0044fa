import ObjectBridge.Proofs.Spelling
import ObjectBridge.Proofs.World.Proxies
import ObjectBridge.Proofs.World.Results

/-!
Messages to the object of a proxy. A message acts on the attribute that the registry finds for its name, unless the
spellings differ in more than the case of the letters A to Z.
-/

namespace ObjectBridge.Engine

open Act Bridge Registry

variable (engine : Engine) {session : Session} {object : Ref} {names : List String} {message : String}
  (arguments : List HostValue)

theorem run_sendTo_of_none (none : findAttribute names message = none) (world : World) :
    (engine.sendTo session object names message arguments).run world =
      (.error (.functionNotFound s!"{typeNameFor world session object}.{message}"), world) := by
  rw [sendTo, none]
  rfl

theorem sendTo_of_some {known : String} (found : findAttribute names message = some known) (listed : known ∈ names) :
    engine.sendTo session object names message arguments = engine.sendTo session object names known arguments := by
  have itself : findAttribute names known = some known := if_pos listed
  rw [sendTo, found, sendTo, itself]

theorem run_callProxy_listed {proxy : HostValue} {world between : World}
    (led : (target session proxy).run world = (.ok object, between))
    (listed : (between.space session.space).dir object.handle = .ok names) :
    ∃ trace, (engine.callProxy session proxy message arguments).run world =
      (lending [object] ((assignedName? message).elim (engine.sendTo session object names message arguments)
        fun name => engine.assign session object names message name arguments)).run { between with trace } := by
  obtain ⟨trace, traced⟩ :=
    run_traceLine (ε := Error) session.config 0 s!"call_method {message} ({arguments.length} args)" between
  have viewed : (asBridge (onView session.space (·.dir object.handle))).run { between with trace } =
      (.ok names, { between with trace }) := by
    have same : World.space { between with trace } session.space = between.space session.space := rfl
    rw [asBridge, run_adapt, run_onView, same, listed]
    rfl
  refine ⟨trace, ?_⟩
  rw [callProxy, run_bind_ok led, run_lending, run_bind_ok traced, run_bind_ok viewed, run_lending]
  cases assignedName? message <;> rfl

theorem run_callProxy {proxy : HostValue} {world between : World}
    (led : (target session proxy).run world = (.ok object, between))
    (listed : (between.space session.space).dir object.handle = .ok names) (sent : assignedName? message = none) :
    ∃ trace, (engine.callProxy session proxy message arguments).run world =
      (lending [object] (engine.sendTo session object names message arguments)).run { between with trace } := by
  obtain ⟨trace, ran⟩ := run_callProxy_listed engine arguments led listed
  rw [sent] at ran
  exact ⟨trace, ran⟩

theorem callProxy_of_findName {proxy : HostValue} {world between : World}
    (led : (target session proxy).run world = (.ok object, between))
    (listed : (between.space session.space).dir object.handle = .ok names) (once : names.Nodup)
    (sent : assignedName? message = none) :
    let ran := (engine.callProxy session proxy message arguments).run world
    let missed := Error.functionNotFound s!"{typeNameFor between session object}.{message}"
    (findName names message = .ok none → ran.1 = .error missed) ∧
    ∀ known, findName names message = .ok (some known) →
      if Text.equalIgnoringAsciiCase known message then
        ∃ trace, ran = (lending [object] (engine.sendTo session object names known arguments)).run { between with trace }
      else ran.1 = .error missed := by
  intro ran missed
  obtain ⟨trace, ranCall⟩ := engine.run_callProxy arguments led listed sent
  have unfound (none : findAttribute names message = none) : ran.1 = .error missed := by
    unfold ran
    rw [ranCall, run_lending, engine.run_sendTo_of_none arguments none]
    rfl
  have answers := findName_answers once message
  constructor
  · intro finds
    rw [finds] at answers
    exact unfound (findAttribute_of_unlike answers)
  · intro known finds
    rw [finds] at answers
    have means : Means names message known := answers
    have searched := findAttribute_of_means means
    split
    · rename_i equal
      rw [if_pos equal] at searched
      exact ⟨trace, by rw [← engine.sendTo_of_some arguments searched means.listed]; exact ranCall⟩
    · rename_i apart
      rw [if_neg apart] at searched
      exact unfound searched

end ObjectBridge.Engine

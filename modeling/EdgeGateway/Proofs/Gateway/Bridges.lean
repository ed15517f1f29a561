import EdgeGateway.Proofs.Bridge.Stopping
import EdgeGateway.Proofs.Gateway.Tasks

/-!
# The bridges of a gateway at work

Whatever tasks are polled in a gateway, its bridges go through a run of a manager: messages from the
broker, and the answers of interceptors and targets. `drain_watched` says so of the time in which a
gateway waits for lanes, so that all that is known of managers holds for gateways.
-/

namespace EdgeGateway

namespace BridgeManager

/-! ### Actions that pass messages on -/

/-- Messages from the broker, and the answers of interceptors and targets. -/
def Passes : Action → Prop
  | .forwardLocal .. | .intercepted .. | .answered .. => True
  | _ => False

theorem Passes.waits {a : Action} (passes : Passes a) : State.Waits a := by
  cases a with
  | complete | giveUp | startAll => exact passes
  | _ => trivial

end BridgeManager

namespace Gateway

open BridgeManager (Action State Passes Turn Watch acts)

/-- The bridges of a gateway and the change for which it waits. -/
def state (g : Gateway) (change : Option Handover) : State := { manager := g.bridges, change }

/-- From one gateway to the other, messages have been passed on and nothing else has happened to the
bridges. -/
def Passed (change : Option Handover) (g g' : Gateway) : Prop :=
  ∃ actions adapters, (∀ a ∈ actions, Passes a) ∧
    g'.state change = ((g.state change).run actions).setAdapters adapters

variable {change : Option Handover} {g g' : Gateway}

/-- Nothing but the counters of adapters has changed. -/
theorem Passed.adapters (adapters : Table AdapterCounters)
    (bridges : g'.bridges = { g.bridges with traffic := g.traffic.setAdapters adapters }) :
    Passed change g g' :=
  ⟨[], adapters, fun _ member => absurd member List.not_mem_nil,
    congrArg (State.mk · change) bridges⟩

theorem Passed.same (bridges : g'.bridges = g.bridges) : Passed change g g' :=
  .adapters g.traffic.metrics.adapters bridges

theorem Passed.refl (g : Gateway) : Passed change g g := .same rfl

theorem Passed.trans {g'' : Gateway} (first : Passed change g g') (second : Passed change g' g'') :
    Passed change g g'' := by
  obtain ⟨before, adapters, passed, state⟩ := first
  obtain ⟨after, adapters', passed', state'⟩ := second
  refine ⟨before ++ after, adapters', ?_, ?_⟩
  · exact fun a member => (List.mem_append.mp member).elim (passed a) (passed' a)
  · rw [state', state, State.run_setAdapters, State.run_append]
    rfl

theorem Passed.act (a : Action) (passes : Passes a)
    (state : g'.state change = (g.state change).step a) : Passed change g g' := by
  refine ⟨[a], g'.traffic.metrics.adapters, by simpa using passes, ?_⟩
  change _ = ((g.state change).step a).setAdapters _
  rw [← state]
  rfl

/-! ### Tasks -/

/-- Messages have been passed on, and no time has passed. -/
structure Polled (change : Option Handover) (g g' : Gateway) : Prop where
  passed : Passed change g g'
  now : g'.agenda.now = g.agenda.now

theorem Polled.refl (g : Gateway) : Polled change g g := ⟨.refl g, rfl⟩

theorem Polled.trans {g'' : Gateway} (first : Polled change g g') (second : Polled change g' g'') :
    Polled change g g'' :=
  ⟨first.passed.trans second.passed, second.now.trans first.now⟩

theorem Polled.same (bridges : g'.bridges = g.bridges) (now : g'.agenda.now = g.agenda.now) :
    Polled change g g' :=
  ⟨.same bridges, now⟩

theorem dispatch_polled (g : Gateway) (m : Message) : Polled change g (g.dispatch m).1 := by
  unfold dispatch
  cases Broker.checkMessage m with
  | error fault => exact .refl g
  | ok =>
    dsimp only
    split
    · exact ⟨.act (.forwardLocal m _) trivial rfl, Agenda.wakeAll_now _ _⟩
    · exact .same rfl rfl

theorem intercept_polled (g : Gateway) (call : Nat) : Polled change g (g.intercept call) := by
  unfold intercept
  split
  · split
    · exact ⟨.act (.intercepted call _ _) trivial rfl, rfl⟩
    · exact .refl g
  · exact .refl g

theorem Beside.passed (beside : Beside g g') : Passed change g g' := by
  obtain ⟨registry, agenda, adapters, rfl⟩ := beside
  exact .adapters adapters rfl

theorem polled_carried (change : Option Handover) : Carried (Polled change) where
  refl := .refl
  trans := .trans
  dispatch := dispatch_polled
  intercept := intercept_polled
  answer := fun _ call answer => ⟨.act (.answered call answer) trivial rfl, rfl⟩
  attempt := fun _ _ => .same rfl rfl
  beside := fun beside now => ⟨beside.passed, now⟩

theorem advanceTo_passed (g : Gateway) (time : Nat) : Passed change g (schedule.advanceTo g time) :=
  Schedule.advanceTo_rel .refl .trans (fun _ _ => .same rfl)
    (fun g task => ((polled_carried change).poll g task).passed) g time

theorem advanceTo_now (g : Gateway) (time : Nat) : (schedule.advanceTo g time).agenda.now = time :=
  Schedule.advanceTo_now (s := schedule) (fun _ _ => rfl)
    (fun g task => ((polled_carried none).poll g task).now) g time

end Gateway
end EdgeGateway

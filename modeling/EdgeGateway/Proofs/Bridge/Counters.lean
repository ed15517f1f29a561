import EdgeGateway.Proofs.Bridge.Management

/-!
# Bridges beside adapters

Bridges and adapters share one record of metrics. No step of bridges looks at the counters of adapters
or changes them, so a run beside other counters is the same run.
-/

namespace EdgeGateway

/-- The same traffic beside other counters of adapters. -/
def Traffic.setAdapters (t : Traffic) (adapters : Table AdapterCounters) : Traffic :=
  { t with metrics := { t.metrics with adapters } }

namespace Traffic

variable (t : Traffic) (adapters : Table AdapterCounters)

theorem count_setAdapters (lane : Nat) (counter : BridgeCounter) :
    (t.setAdapters adapters).count lane counter = (t.count lane counter).setAdapters adapters := by
  unfold count setAdapters
  dsimp only
  split <;> rfl

theorem countOutcome_setAdapters (lane : Nat) (outcome : ForwardOutcome) :
    (t.setAdapters adapters).countOutcome lane outcome =
      (t.countOutcome lane outcome).setAdapters adapters := by
  unfold countOutcome
  split
  · exact count_setAdapters t adapters lane _
  · rfl

theorem finish_setAdapters (i : Nat) (call : Call) (outcome : ForwardOutcome) :
    (t.setAdapters adapters).finish i call outcome =
      (t.finish i call outcome).setAdapters adapters := by
  have moved := countOutcome_setAdapters
    (t.updateLane call.lane fun l => { l with inflight := l.inflight - 1 }) adapters call.lane outcome
  unfold finish
  exact congrArg (fun t => (t.complete call.ack false).setProgress i (.ended outcome)) moved

/-- No step looks at the counters of adapters or changes them. -/
theorem step_setAdapters (e : Event) :
    (t.setAdapters adapters).step e = (t.step e).setAdapters adapters := by
  cases e with
  | addLane | openMetrics | start | stop => rfl
  | forward lane m ack =>
    simp only [step, forward]
    cases present : t.lanes[lane]? with
    | none => simp [setAdapters, present]
    | some l =>
      simp only [setAdapters, present]
      cases l.forwarder.receive l.running m with
      | accepted candidate =>
        exact congrArg (·.takeIn lane ack candidate) (count_setAdapters t adapters lane .received)
      | ended outcome =>
        have counted := congrArg (·.countOutcome lane outcome)
          (count_setAdapters t adapters lane .received)
        have both := counted.trans (countOutcome_setAdapters _ adapters lane outcome)
        exact congrArg (fun t => (t.complete ack (outcome = .dropped .stopped)).enter
          { lane, ack, progress := .ended outcome }) both
  | intercepted i answer connected =>
    simp only [step, intercepted]
    cases known : t.calls[i]? with
    | none => simp [setAdapters, known]
    | some call =>
      simp only [setAdapters, known]
      cases call.progress with
      | candidate m =>
        cases passedOn answer connected with
        | ok m => rfl
        | error outcome => exact finish_setAdapters t adapters i call outcome
      | handedOver | ended => rfl
  | answered i answer =>
    simp only [step, answered]
    cases known : t.calls[i]? with
    | none => simp [setAdapters, known]
    | some call =>
      simp only [setAdapters, known]
      cases call.progress with
      | handedOver m => exact finish_setAdapters t adapters i call _
      | candidate | ended => rfl
  | abort i =>
    simp only [step, abort]
    cases known : t.calls[i]? with
    | none => simp [setAdapters, known]
    | some call =>
      simp only [setAdapters, known]
      cases call.progress with
      | ended => rfl
      | candidate | handedOver => exact finish_setAdapters t adapters i call .failed

theorem run_setAdapters (es : List Event) :
    (t.setAdapters adapters).run es = (t.run es).setAdapters adapters := by
  induction es generalizing t with
  | nil => rfl
  | cons e es ih => rw [run_cons, run_cons, step_setAdapters, ih]

end Traffic

namespace BridgeManager

/-- The same bridges beside other counters of adapters. -/
def setAdapters (m : BridgeManager) (adapters : Table AdapterCounters) : BridgeManager :=
  { m with traffic := m.traffic.setAdapters adapters }

section
variable (m : BridgeManager) (adapters : Table AdapterCounters)

theorem setRunning_setAdapters (lanes : List Nat) (running : Bool) :
    (m.setAdapters adapters).setRunning lanes running =
      (m.setRunning lanes running).setAdapters adapters := by
  have traffic := Traffic.run_setAdapters m.traffic adapters (lanes.map (switch running))
  rw [← setRunning_traffic] at traffic
  exact congrArg (BridgeManager.mk · m.links) ((setRunning_traffic _ lanes running).trans traffic)

theorem buildLink_setAdapters (config : BridgeConfig) (remote : String) :
    (m.setAdapters adapters).buildLink config remote =
      ((m.buildLink config remote).1.setAdapters adapters, (m.buildLink config remote).2) := by
  have traffic := Traffic.run_setAdapters m.traffic adapters (buildEvents config remote)
  rw [← buildLink_traffic] at traffic
  have built := (buildLink_traffic (m.setAdapters adapters) config remote).trans traffic
  have rest : ((m.setAdapters adapters).buildLink config remote).1.links =
        (m.buildLink config remote).1.links ∧
      ((m.setAdapters adapters).buildLink config remote).2 = (m.buildLink config remote).2 := by
    unfold buildLink
    rcases buildForwarders config .outbound 0 config.localSubscriptions with ⟨out, _ | fault⟩
    · rcases buildForwarders config .inbound 0 config.remoteSubscriptions with ⟨inn, _ | fault⟩ <;>
        exact ⟨rfl, rfl⟩
    · exact ⟨rfl, rfl⟩
  exact Prod.ext (congrArg₂ BridgeManager.mk built rest.1) rest.2

theorem add_setAdapters (config : BridgeConfig) (remote : String) :
    (m.setAdapters adapters).add config remote =
      ((m.add config remote).1.setAdapters adapters, (m.add config remote).2) := by
  unfold add
  rw [buildLink_setAdapters]
  change (if m.links.contains config.id = true then _ else _) = _
  split
  · rfl
  · rcases config.validate with fault | ⟨⟩
    · rfl
    · rcases m.buildLink config remote with ⟨m', fault | link⟩
      · rfl
      · simp only [setRunning_setAdapters]
        rfl

theorem beginUpdate_setAdapters (config : BridgeConfig) (remote : String) :
    (m.setAdapters adapters).beginUpdate config remote =
      ((m.beginUpdate config remote).1.setAdapters adapters, (m.beginUpdate config remote).2) := by
  unfold beginUpdate
  rw [buildLink_setAdapters, show (m.setAdapters adapters).links = m.links from rfl]
  rcases m.links.find? config.id with _ | old
  · rfl
  · rcases config.validate with fault | ⟨⟩
    · rfl
    · rcases m.buildLink config remote with ⟨m', fault | link⟩
      · rfl
      · simp only [setRunning_setAdapters]

theorem beginDelete_setAdapters (id : String) :
    (m.setAdapters adapters).beginDelete id =
      ((m.beginDelete id).1.setAdapters adapters, (m.beginDelete id).2) := by
  unfold beginDelete
  rw [show (m.setAdapters adapters).links = m.links from rfl]
  rcases m.links.find? id with _ | old
  · rfl
  · simp only [setRunning_setAdapters]

theorem complete_setAdapters (h : Handover) :
    (m.setAdapters adapters).complete h = (m.complete h).setAdapters adapters := by
  unfold complete
  rcases h.replacement with link | _
  · exact setRunning_setAdapters (m.putLink link) adapters link.lanes true
  · rfl

theorem offer_setAdapters (t : Traffic) (message : Message) (messageId : Nat) (lanes : List Nat) :
    offer (t.setAdapters adapters) message messageId lanes =
      (offer t message messageId lanes).setAdapters adapters := by
  rw [offer_traffic, offer_traffic]
  exact Traffic.run_setAdapters t adapters _

end

namespace State

def setAdapters (s : State) (adapters : Table AdapterCounters) : State :=
  { s with manager := s.manager.setAdapters adapters }

/-- Nor does any action. -/
theorem step_setAdapters (s : State) (adapters : Table AdapterCounters) (a : Action) :
    (s.setAdapters adapters).step a = (s.step a).setAdapters adapters := by
  obtain ⟨m, change⟩ := s
  have changed (begun : BridgeManager × Except AdminFault Handover) :
      (State.mk (m.setAdapters adapters) change).begin (begun.1.setAdapters adapters, begun.2) =
        ((State.mk m change).begin begun).setAdapters adapters := by
    obtain ⟨m', fault | h⟩ := begun <;> rfl
  simp only [setAdapters]
  cases a with
  | add config remote =>
    simp only [step, add_setAdapters]
    split <;> rfl
  | beginUpdate config remote =>
    simp only [step, beginUpdate_setAdapters, changed]
    split <;> rfl
  | beginDelete id =>
    simp only [step, beginDelete_setAdapters, changed]
    split <;> rfl
  | complete =>
    cases change with
    | none => rfl
    | some h => exact congrArg (State.mk · none) (complete_setAdapters m adapters h)
  | giveUp => rfl
  | startAll => exact congrArg (State.mk · change) (setRunning_setAdapters m adapters _ true)
  | stopAll => exact congrArg (State.mk · change) (setRunning_setAdapters m adapters _ false)
  | forwardLocal message messageId =>
    exact congrArg (fun t => State.mk { m with traffic := t } change)
      (offer_setAdapters adapters m.traffic message messageId m.outboundLanes)
  | forwardRemote id message messageId =>
    simp only [step, BridgeManager.forwardRemote]
    rw [show (m.setAdapters adapters).links = m.links from rfl]
    cases m.links.find? id with
    | none => rfl
    | some link =>
      exact congrArg (fun t => State.mk { m with traffic := t } change)
        (offer_setAdapters adapters m.traffic message messageId link.inbound)
  | intercepted | answered | abort =>
    exact congrArg (fun t => State.mk { m with traffic := t } change)
      (Traffic.step_setAdapters m.traffic adapters _)

theorem run_setAdapters (s : State) (adapters : Table AdapterCounters) (actions : List Action) :
    (s.setAdapters adapters).run actions = (s.run actions).setAdapters adapters := by
  induction actions generalizing s with
  | nil => rfl
  | cons a actions ih =>
    exact (congrArg (State.run · actions) (step_setAdapters s adapters a)).trans (ih (s.step a))

end State

end BridgeManager
end EdgeGateway

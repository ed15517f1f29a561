import EdgeGateway.Bridge.Manager
import EdgeGateway.Proofs.Bridge.History

/-!
# Managers at work

A run of a manager: changes of links, each between its beginning and its end, messages, and the
progress of deliveries, in any order. `run_traffic` shows that a manager only ever does to its
forwarders what `Traffic.step` can do, by naming the events of each action.
-/

namespace EdgeGateway

namespace BridgeManager

open Traffic (Event)

/-! ### What an action does to the forwarders -/

/-- Starts or stops a lane. -/
def switch (running : Bool) (lane : Nat) : Event := if running then .start lane else .stop lane

/-- One message for each of the lanes with a matching filter, under the id of its forwarder. -/
def offerEvents (t : Traffic) (m : Message) (messageId : Nat) (lanes : List Nat) : List Event :=
  lanes.filterMap fun lane =>
    ((t.forwarder? lane).filter (·.matchesTopic m.topic)).map fun f =>
      .forward lane m { queueId := f.id, messageId }

/-- New lanes for all subscriptions of a bridge, or only their counters if one cannot be built. -/
def buildEvents (config : BridgeConfig) (remote : String) : List Event :=
  match buildForwarders config .outbound 0 config.localSubscriptions with
  | (out, some _) => out.map .openMetrics
  | (out, none) =>
    match buildForwarders config .inbound 0 config.remoteSubscriptions with
    | (inn, some _) => (out ++ inn).map .openMetrics
    | (inn, none) => out.map (.addLane · (.remote remote)) ++ inn.map (.addLane · .localBroker)

def addEvents (m : BridgeManager) (config : BridgeConfig) (remote : String) : List Event :=
  if m.links.contains config.id then []
  else match config.validate with
    | .error _ => []
    | .ok () =>
      match (m.buildLink config remote).2 with
      | .error _ => buildEvents config remote
      | .ok link => buildEvents config remote ++ link.lanes.map (switch true)

def beginUpdateEvents (m : BridgeManager) (config : BridgeConfig) (remote : String) : List Event :=
  match m.links.find? config.id with
  | none => []
  | some old =>
    match config.validate with
    | .error _ => []
    | .ok () =>
      match (m.buildLink config remote).2 with
      | .error _ => buildEvents config remote
      | .ok _ => buildEvents config remote ++ old.lanes.map (switch false)

def beginDeleteEvents (m : BridgeManager) (id : String) : List Event :=
  match m.links.find? id with
  | none => []
  | some old => old.lanes.map (switch false)

def completeEvents (h : Handover) : List Event :=
  match h.replacement with
  | .link link => link.lanes.map (switch true)
  | .nothing => []

theorem setRunning_traffic (m : BridgeManager) (lanes : List Nat) (running : Bool) :
    (m.setRunning lanes running).traffic = m.traffic.run (lanes.map (switch running)) := by
  have switched : ∀ (t : Traffic) lane, t.step (switch running lane) = t.setRunning lane running := by
    intro t lane
    cases running <;> rfl
  simp only [setRunning, Traffic.run, List.foldl_map, switched]

theorem openMetrics_traffic (t : Traffic) (fs : List Forwarder) :
    { t with metrics := openMetrics t.metrics fs } = t.run (fs.map .openMetrics) := by
  induction fs generalizing t with
  | nil => rfl
  | cons f fs ih =>
    rw [List.map_cons, Traffic.run_cons, ← ih]
    rfl

theorem buildLink_traffic (m : BridgeManager) (config : BridgeConfig) (remote : String) :
    (m.buildLink config remote).1.traffic = m.traffic.run (buildEvents config remote) := by
  unfold buildLink buildEvents
  rcases buildForwarders config .outbound 0 config.localSubscriptions with ⟨out, _ | fault⟩
  · rcases buildForwarders config .inbound 0 config.remoteSubscriptions with ⟨inn, _ | fault⟩
    · simp only [Traffic.run_append]
      simp only [Traffic.run, List.foldl_map, Traffic.step]
    · exact openMetrics_traffic m.traffic (out ++ inn)
  · exact openMetrics_traffic m.traffic out

theorem add_traffic (m : BridgeManager) (config : BridgeConfig) (remote : String) :
    (m.add config remote).1.traffic = m.traffic.run (m.addEvents config remote) := by
  unfold add addEvents
  split
  · rfl
  · rcases config.validate with fault | ⟨⟩
    · rfl
    · have built := buildLink_traffic m config remote
      generalize m.buildLink config remote = result at built ⊢
      obtain ⟨after, fault | link⟩ := result
      · exact built
      · simp only [putLink, setRunning_traffic, Traffic.run_append]
        rw [← built]

theorem beginUpdate_traffic (m : BridgeManager) (config : BridgeConfig) (remote : String) :
    (m.beginUpdate config remote).1.traffic = m.traffic.run (m.beginUpdateEvents config remote) := by
  unfold beginUpdate beginUpdateEvents
  rcases m.links.find? config.id with _ | old
  · rfl
  · rcases config.validate with fault | ⟨⟩
    · rfl
    · have built := buildLink_traffic m config remote
      generalize m.buildLink config remote = result at built ⊢
      obtain ⟨after, fault | link⟩ := result
      · exact built
      · simp only [setRunning_traffic, Traffic.run_append]
        rw [← built]

theorem beginDelete_traffic (m : BridgeManager) (id : String) :
    (m.beginDelete id).1.traffic = m.traffic.run (m.beginDeleteEvents id) := by
  unfold beginDelete beginDeleteEvents
  rcases m.links.find? id with _ | old
  · rfl
  · exact setRunning_traffic _ _ _

theorem complete_traffic (m : BridgeManager) (h : Handover) :
    (m.complete h).traffic = m.traffic.run (completeEvents h) := by
  unfold complete completeEvents
  rcases h.replacement with link | _
  · exact setRunning_traffic _ _ _
  · rfl

theorem offerEvents_congr {t t' : Traffic} (same : ∀ lane, t'.forwarder? lane = t.forwarder? lane)
    (m : Message) (messageId : Nat) (lanes : List Nat) :
    offerEvents t' m messageId lanes = offerEvents t m messageId lanes := by
  simp only [offerEvents, same]

theorem offer_one (t : Traffic) (m : Message) (messageId lane : Nat) :
    offer t m messageId [lane] = t.run (offerEvents t m messageId [lane]) ∧
      ∀ other, (offer t m messageId [lane]).forwarder? other = t.forwarder? other := by
  cases present : t.lanes[lane]? with
  | none => simp [offer, offerEvents, Traffic.forwarder?, present]
  | some l =>
    have found := Traffic.forwarder?_of_present present
    by_cases wanted : l.forwarder.matchesTopic m.topic = true
    · have offered : offer t m messageId [lane] =
          t.forward lane m { queueId := l.forwarder.id, messageId } := by
        simp [offer, present, wanted]
      have events : offerEvents t m messageId [lane] =
          [.forward lane m { queueId := l.forwarder.id, messageId }] := by
        simp [offerEvents, found, wanted]
      rw [offered, events]
      exact ⟨rfl, (Traffic.forward_change t lane m _).forwarder?_eq (by simp)⟩
    · have offered : offer t m messageId [lane] = t := by simp [offer, present, wanted]
      have events : offerEvents t m messageId [lane] = [] := by simp [offerEvents, found, wanted]
      rw [offered, events]
      exact ⟨rfl, fun _ => rfl⟩

theorem offer_traffic (t : Traffic) (m : Message) (messageId : Nat) (lanes : List Nat) :
    offer t m messageId lanes = t.run (offerEvents t m messageId lanes) := by
  induction lanes generalizing t with
  | nil => rfl
  | cons lane rest ih =>
    have folded : offer t m messageId (lane :: rest) =
        offer (offer t m messageId [lane]) m messageId rest := rfl
    have split : offerEvents t m messageId (lane :: rest) =
        offerEvents t m messageId [lane] ++ offerEvents t m messageId rest :=
      List.filterMap_append (l := [lane])
    obtain ⟨one, same⟩ := offer_one t m messageId lane
    rw [folded, ih, offerEvents_congr same, split, Traffic.run_append, one]

/-! ### Runs -/

/-- What can be asked of a manager, and what can happen to messages meanwhile. A change of a link
takes effect with `complete`; until then it waits, drained or not, and can be given up. -/
inductive Action where
  | add (config : BridgeConfig) (remote : String)
  | beginUpdate (config : BridgeConfig) (remote : String)
  | beginDelete (id : String)
  | complete
  | giveUp
  | startAll
  | stopAll
  | forwardLocal (message : Message) (messageId : Nat)
  | forwardRemote (id : String) (message : Message) (messageId : Nat)
  | intercepted (call : Nat) (answer : Except InterceptFault Interception) (connected : Bool)
  | answered (call : Nat) (answer : Except PublishFault Unit)
  | abort (call : Nat)

/-- A manager and the change under way, for which every further change has to wait. -/
structure State where
  manager : BridgeManager := {}
  change : Option Handover := none

namespace State

def progress (s : State) (e : Event) : State :=
  { s with manager := { s.manager with traffic := s.manager.traffic.step e } }

/-- Begins a change, if it can be begun. -/
def begin (s : State) : BridgeManager × Except AdminFault Handover → State
  | (m, .ok h) => { manager := m, change := some h }
  | (m, .error _) => { s with manager := m }

def step (s : State) : Action → State
  | .add config remote =>
    if s.change.isSome then s else { s with manager := (s.manager.add config remote).1 }
  | .beginUpdate config remote =>
    if s.change.isSome then s else s.begin (s.manager.beginUpdate config remote)
  | .beginDelete id => if s.change.isSome then s else s.begin (s.manager.beginDelete id)
  | .complete =>
    match s.change with
    | some h => { manager := s.manager.complete h }
    | none => s
  | .giveUp => { s with change := none }
  | .startAll => { s with manager := s.manager.startAll }
  | .stopAll => { s with manager := s.manager.stopAll }
  | .forwardLocal m messageId => { s with manager := s.manager.forwardLocal m messageId }
  | .forwardRemote id m messageId =>
    match s.manager.forwardRemote id m messageId with
    | .ok manager => { s with manager }
    | .error _ => s
  | .intercepted call answer connected => s.progress (.intercepted call answer connected)
  | .answered call answer => s.progress (.answered call answer)
  | .abort call => s.progress (.abort call)

def run (s : State) (actions : List Action) : State := actions.foldl step s

def events (s : State) : Action → List Event
  | .add config remote => if s.change.isSome then [] else s.manager.addEvents config remote
  | .beginUpdate config remote =>
    if s.change.isSome then [] else s.manager.beginUpdateEvents config remote
  | .beginDelete id => if s.change.isSome then [] else s.manager.beginDeleteEvents id
  | .complete =>
    match s.change with
    | some h => completeEvents h
    | none => []
  | .giveUp => []
  | .startAll => (s.manager.links.values.flatMap Link.lanes).map (switch true)
  | .stopAll => (s.manager.links.values.flatMap Link.lanes).map (switch false)
  | .forwardLocal m messageId =>
    offerEvents s.manager.traffic m messageId s.manager.outboundLanes
  | .forwardRemote id m messageId =>
    match s.manager.links.find? id with
    | some link => offerEvents s.manager.traffic m messageId link.inbound
    | none => []
  | .intercepted call answer connected => [.intercepted call answer connected]
  | .answered call answer => [.answered call answer]
  | .abort call => [.abort call]

def history (s : State) : List Action → List Event
  | [] => []
  | a :: actions => s.events a ++ (s.step a).history actions

theorem begin_traffic (s : State) (begun : BridgeManager × Except AdminFault Handover) :
    (s.begin begun).manager = begun.1 := by
  obtain ⟨m, fault | h⟩ := begun <;> rfl

theorem step_traffic (s : State) (a : Action) :
    (s.step a).manager.traffic = s.manager.traffic.run (s.events a) := by
  cases a with
  | add config remote =>
    simp only [step, events]
    split
    · rfl
    · exact add_traffic _ _ _
  | beginUpdate config remote =>
    simp only [step, events]
    split
    · rfl
    · rw [begin_traffic]
      exact beginUpdate_traffic _ _ _
  | beginDelete id =>
    simp only [step, events]
    split
    · rfl
    · rw [begin_traffic]
      exact beginDelete_traffic _ _
  | complete =>
    simp only [step, events]
    rcases s.change with _ | h
    · rfl
    · exact complete_traffic _ _
  | giveUp => rfl
  | startAll => exact setRunning_traffic _ _ _
  | stopAll => exact setRunning_traffic _ _ _
  | forwardLocal m messageId => exact offer_traffic _ _ _ _
  | forwardRemote id m messageId =>
    simp only [step, events, forwardRemote]
    cases s.manager.links.find? id with
    | none => rfl
    | some link => exact offer_traffic _ _ _ _
  | intercepted | answered | abort => rfl

/-- A run of a manager is a run of its traffic. -/
theorem run_traffic (s : State) (actions : List Action) :
    (s.run actions).manager.traffic = s.manager.traffic.run (s.history actions) := by
  induction actions generalizing s with
  | nil => rfl
  | cons a actions ih =>
    rw [history, Traffic.run_append, ← step_traffic]
    exact ih (s.step a)

end State
end BridgeManager
end EdgeGateway

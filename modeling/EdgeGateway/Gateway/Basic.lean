import EdgeGateway.Adapter.Registry
import EdgeGateway.Adapter.Scripted
import EdgeGateway.Bridge.Drain
import EdgeGateway.Bridge.Manager
import EdgeGateway.Broker
import EdgeGateway.Remote
import EdgeGateway.Simulation.Trial

/-!
# Gateways

The local broker, the bridges with their remotes and the adapters, put together on one agenda. What
a forwarder publishes goes to a remote or back to the broker; what an adapter publishes goes to the
broker; and the broker offers every message to the bridges.
-/

namespace EdgeGateway

inductive Handler where
  | scripted (adapter : ScriptedAdapter)
  | simulated (device : Simulation.Device)

namespace Handler

def status : Handler → ConnectionStatus
  | .scripted a => a.status
  | .simulated d => d.status

def discover (input : DiscoveryInput) : Handler → Except AdapterFault NodeTree
  | .scripted a => a.discover input
  | .simulated d => .ok (d.discover input)

def handling : Handling Handler where
  create type id config := match type.make with
    | .scripted => (ScriptedAdapter.create id config).map .scripted
    | .simulated => (Simulation.planOf config).map fun plan => .simulated (.ofPlan id plan)
  start
    | .scripted a => (.scripted a.start.1, a.start.2)
    | .simulated d => (.simulated d.start, .ok ())
  stop
    | .scripted a => (.scripted a.stop.1, a.stop.2)
    | .simulated d => (.simulated d.stop, .ok ())

end Handler

namespace Gateway

inductive Task where
  | delivery (call : Nat)
  | device (handler : Nat) (task : Simulation.Task)
  deriving DecidableEq, Repr

end Gateway

structure Gateway where
  broker : Broker
  bridges : BridgeManager := {}
  attached : Bool := true
  remotes : Table Remote := {}
  registry : Registry Handler := {}
  interceptor : Interceptor := Interceptor.passThrough
  /-- How long a change of a bridge waits for messages under way, in milliseconds. -/
  drainTimeout : Nat
  agenda : Agenda Gateway.Task := {}

namespace Gateway

def traffic (g : Gateway) : Traffic := g.bridges.traffic

def metrics (g : Gateway) : Metrics := g.traffic.metrics

def setTraffic (g : Gateway) (t : Traffic) : Gateway :=
  { g with bridges := { g.bridges with traffic := t } }

def setMetrics (g : Gateway) (metrics : Metrics) : Gateway :=
  g.setTraffic { g.traffic with metrics }

def isCandidate (t : Traffic) (call : Nat) : Bool :=
  match t.calls[call]? with
  | some { progress := .candidate _, .. } => true
  | _ => false

/-- The calls from a number on that have been accepted. -/
def accepted (t : Traffic) (first : Nat) : List Nat :=
  (List.range' first (t.calls.length - first)).filter (isCandidate t)

/-- Takes over bridges that may have been given messages, and puts those on the agenda. -/
def setBridges (g : Gateway) (bridges : BridgeManager) : Gateway :=
  let fresh := accepted bridges.traffic g.traffic.calls.length
  { g with bridges, agenda := g.agenda.wakeAll (fresh.map .delivery) }

def remote? (g : Gateway) (name : String) : Option Remote := g.remotes.find? name

def setRemote (g : Gateway) (name : String) (r : Remote) : Gateway :=
  { g with remotes := g.remotes.insert name r }

def isConnected (g : Gateway) : Target → Bool
  | .localBroker => true
  | .remote name => ((g.remote? name).map Remote.isConnected).getD false

/-! ### The broker -/

def dispatch (g : Gateway) (m : Message) : Gateway × Except PublishFault Nat :=
  match Broker.checkMessage m with
  | .error fault => (g, .error fault)
  | .ok () =>
    let (broker, delivered) := g.broker.deliver m
    if g.attached then
      let number := broker.nextMessage
      let g := { g with broker := { broker with nextMessage := number + 1 } }
      (g.setBridges (g.bridges.forwardLocal m number), .ok delivered)
    else ({ g with broker }, .ok delivered)

/-! ### Deliveries -/

def answer (g : Gateway) (call : Nat) (answer : Except PublishFault Unit) : Gateway :=
  g.setTraffic (g.traffic.answered call answer)

def publishLocal (g : Gateway) (call : Nat) (m : Message) : Gateway :=
  let (g, result) := g.dispatch m
  g.answer call (result.map fun _ => ())

def publishAt (g : Gateway) (name : String) (r : Remote) (call : Nat) (m : Message) : Gateway :=
  match r.kind with
  | .localBroker => g.publishLocal call m
  | _ =>
    let (r, attempt) := r.attempt g.agenda.now call m
    let g := g.setRemote name r
    match attempt with
    | .answered result => g.answer call result
    | .asleep time => { g with agenda := g.agenda.sleep (.delivery call) time }
    | .waiting => g

def handOver (g : Gateway) (call : Nat) : Gateway :=
  match g.traffic.calls[call]? with
  | some { lane, progress := .handedOver m, .. } =>
    match (g.traffic.lanes[lane]?).map Lane.target with
    | some (.remote name) =>
      match g.remote? name with
      | some r => g.publishAt name r call m
      | none => g
    | some .localBroker => g.publishLocal call m
    | none => g
  | _ => g

def intercept (g : Gateway) (call : Nat) : Gateway :=
  match g.traffic.calls[call]? with
  | some { lane, progress := .candidate m, .. } =>
    match g.traffic.lanes[lane]? with
    | some l =>
      let result := g.interceptor l.forwarder.context m
      g.setTraffic (g.traffic.intercepted call result (g.isConnected l.target))
    | none => g
  | _ => g

def abort (g : Gateway) (call : Nat) : Gateway :=
  let target : Option Target := do
    let c ← g.traffic.calls[call]?
    let l ← g.traffic.lanes[c.lane]?
    return l.target
  let g := g.setTraffic (g.traffic.abort call)
  match target with
  | some (.remote name) =>
    match g.remote? name with
    | some r =>
      let (r, admitted) := r.forget call
      let g := g.setRemote name r
      { g with agenda := g.agenda.wakeAll (admitted.map .delivery) }
    | none => g
  | _ => g

/-! ### Simulated devices -/

def meetRequests (g : Gateway) (handler : Nat) : Gateway :=
  match g.registry.handlers[handler]? with
  | some (.simulated d) =>
    let handlers := g.registry.handlers.set handler (.simulated { d with requests := [] })
    let metrics := (Simulation.counted d.requests).foldl
      (fun m counter => m.countAdapter d.pipeline.adapterId counter) g.metrics
    { g.setMetrics metrics with
      registry := { g.registry with handlers }
      agenda := Simulation.meet (.device handler) g.agenda d.requests }
  | _ => g

def onDevice (g : Gateway) (handler : Nat) (f : Simulation.Device → Simulation.Device) : Gateway :=
  match g.registry.handlers[handler]? with
  | some (.simulated d) =>
    let handlers := g.registry.handlers.set handler (.simulated (f d))
    meetRequests { g with registry := { g.registry with handlers } } handler
  | _ => g

def sendOf (g : Gateway) (handler number : Nat) : Gateway :=
  match g.registry.handlers[handler]? with
  | some (.simulated d) =>
    match d.sends[number]? with
    | some send =>
      if send.pending then
        let (g, result) := g.dispatch send.publish.message
        g.onDevice handler (·.answered number (result.map fun _ => ()))
      else g
    | none => g
  | _ => g

def pollDevice (g : Gateway) (handler : Nat) (task : Simulation.Task) : Gateway :=
  let now := g.agenda.now
  match task with
  | .generator i => g.onDevice handler (·.runGenerator now i)
  | .consumer i => g.onDevice handler (·.runConsumer now i)
  | .resubscription number => g.onDevice handler (·.runResubscription number)
  | .send number => g.sendOf handler number

/-! ### The agenda -/

def poll (g : Gateway) : Task → Gateway
  | .delivery call => (g.intercept call).handOver call
  | .device handler task => g.pollDevice handler task

def schedule : Schedule Gateway Task where
  agenda := agenda
  setAgenda g agenda := { g with agenda }
  poll := poll

/-- Lets time pass until a drain is over, and says whether all was drained. -/
def drainWithin : Nat → Drain → Gateway → Gateway × Bool
  | 0, _, g => (g, false)
  | fuel + 1, d, g =>
    let d := d.poll g.traffic.inflight g.agenda.now
    if d.isOver then (g, d.drained)
    else drainWithin fuel d (schedule.advanceTo g (d.nextLook g.agenda.now))

def drain (g : Gateway) (lanes : List Nat) (timeout : Nat) : Gateway × Bool :=
  let d : Drain := { lanes, since := g.agenda.now, timeout }
  drainWithin d.looks d g

end Gateway
end EdgeGateway

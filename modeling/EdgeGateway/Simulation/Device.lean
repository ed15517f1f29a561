import EdgeGateway.Adapter.Outbox
import EdgeGateway.Simulation.Client

/-!
# Simulated devices: the adapter

An adapter keeps a subscription for every node while it runs, recreates those that break, and
publishes each value that is taken from a stream. Its tasks are generators, consumers, pending
resubscriptions and sends; `step` takes one event at a time, in any order.
-/

namespace EdgeGateway.Simulation

/-- What an adapter has to do when its turn comes. Streams, resubscriptions and sends are numbered
in the order in which they came up. -/
inductive Task where
  | generator (stream : Nat)
  | consumer (stream : Nat)
  | resubscription (number : Nat)
  | send (number : Nat)
  deriving DecidableEq, Repr

inductive Request where
  | run (task : Task)
  | sleep (task : Task) (time : Nat)
  | count (counter : AdapterCounter)
  deriving DecidableEq, Repr

structure Device where
  pipeline : Pipeline
  plan : Plan
  client : Client
  running : Bool := false
  consumers : Table Nat := {}
  /-- Subscriptions to recreate; those that have had their turn are `none`. -/
  resubscriptions : List (Option FieldSubscription) := []
  sends : List Send := []
  requests : List Request := []

namespace Device

def ofPlan (id : String) (plan : Plan) : Device where
  pipeline := { adapterId := id, protocolId }
  plan := plan
  client := { interval := plan.interval,
              ranges := plan.nodes.map fun n => (n.subscription.nodeId, n.minValue, n.maxValue) }

def ask (d : Device) (requests : List Request) : Device :=
  { d with requests := d.requests ++ requests }

def leaveStream (d : Device) (i : Nat) : Device :=
  match d.client.streams[i]? with
  | some s =>
    let d := { d with client := d.client.updateStream i Stream.leave }
    d.ask (if s.isBlocked then [.run (.generator i)] else [])
  | none => d

def subscribe (d : Device) (s : FieldSubscription) : Device :=
  match d.client.subscribe s with
  | .error _ => d
  | .ok (client, number) =>
    let d := { d with client }
    let d := d.ask [.run (.generator number), .run (.consumer number)]
    let d := match d.consumers.find? s.nodeId with
      | some old => d.leaveStream old
      | none => d
    { d with consumers := d.consumers.insert s.nodeId number }

def start (d : Device) : Device :=
  (d.plan.nodes.map (·.subscription)).foldl subscribe { d with running := true }

def closeClient (d : Device) : Device :=
  let ended := d.client.feeds.values
  let d := { d with client := d.client.close }
  d.ask (ended.map fun i => .run (.consumer i))

def stop (d : Device) : Device :=
  let d := closeClient { d with running := false }
  { d.consumers.values.foldl leaveStream d with consumers := {} }

def failTransfer (d : Device) (node : String) : Device × Bool :=
  match d.client.failTransfer node with
  | none => (d, false)
  | some (client, s) =>
    let ended := (d.client.feeds.find? node).toList
    let d := { d with client }
    let d := d.ask (.count .transfersFailed :: ended.map fun i => .run (.consumer i))
    if d.running then
      let number := d.resubscriptions.length
      let d := { d with resubscriptions := d.resubscriptions ++ [some s] }
      (d.ask [.run (.resubscription number)], true)
    else (d, true)

def publish (d : Device) (now : Nat) (s : FieldSubscription) (v : FieldValue) : Device :=
  match d.pipeline.publish now (.ok []) v s with
  | .error _ => d.ask [.count .publishFailed]
  | .ok made =>
    let number := d.sends.length
    let send : Send := { publish := made }
    let d := { d with sends := d.sends ++ [send] }
    d.ask [.run (.send number)]

def hasEnded (s : Stream) : Bool :=
  match s.pace with
  | .ended => true
  | _ => false

def runGenerator (d : Device) (now i : Nat) : Device :=
  let (client, ticks) := d.client.generate now i
  let after : List Request := match client.streams[i]? with
    | some s =>
      (if s.queue.isEmpty && !hasEnded s then [] else [.run (.consumer i)]) ++
        (s.nextTick?.toList.map fun due => .sleep (.generator i) due)
    | none => []
  let d := { d with client }
  d.ask (List.replicate ticks (.count .keepAlives) ++ after)

/-- Takes all values that wait in a stream. The end of its generator ends the consumer too. -/
def runConsumer (d : Device) (now i : Nat) : Device :=
  match d.client.streams[i]? with
  | some s =>
    if s.attended then
      let d := s.queue.foldl (fun d v => d.publish now s.subscription v) d
      let taken := fun (s : Stream) => { s with queue := [], attended := !hasEnded s }
      let d := { d with client := d.client.updateStream i taken }
      d.ask (if s.isBlocked then [.run (.generator i)] else [])
    else d
  | none => d

/-- Recreates a subscription, unless the adapter has been stopped in the meantime. -/
def runResubscription (d : Device) (number : Nat) : Device :=
  match d.resubscriptions[number]? with
  | some (some s) =>
    let d := { d with resubscriptions := d.resubscriptions.set number none }
    if d.running then d.subscribe s else d
  | _ => d

def answered (d : Device) (number : Nat) (answer : Except PublishFault Unit) : Device :=
  match d.sends[number]? with
  | some send =>
    if send.pending then
      let d := { d with sends := d.sends.set number { send with pending := false } }
      d.ask [.count (.ofAnswer answer)]
    else d
  | none => d

inductive Event where
  | start
  | stop
  | closeClient
  | failTransfer (node : String)
  | generator (now stream : Nat)
  | consumer (now stream : Nat)
  | resubscription (number : Nat)
  | answered (send : Nat) (answer : Except PublishFault Unit)

def step (d : Device) : Event → Device
  | .start => d.start
  | .stop => d.stop
  | .closeClient => d.closeClient
  | .failTransfer node => (d.failTransfer node).1
  | .generator now i => d.runGenerator now i
  | .consumer now i => d.runConsumer now i
  | .resubscription number => d.runResubscription number
  | .answered number answer => d.answered number answer

def status (d : Device) : ConnectionStatus := .ofBool d.running

def discover (d : Device) (input : DiscoveryInput) : NodeTree :=
  d.plan.discover d.pipeline.adapterId input

end Device
end EdgeGateway.Simulation

import EdgeGateway.Bridge.Traffic

/-!
# Bridge management

Each bridge has a link: its configuration, its remote and one forwarder per subscription. A change
of a link that works with old forwarders is in three steps: it stops them, waits until they are
drained and then takes effect. Whatever can be wrong with a change shows before the first step.
-/

namespace EdgeGateway

structure Link where
  config : BridgeConfig
  remote : String
  outbound : List Nat
  inbound : List Nat

def Link.lanes (l : Link) : List Nat := l.outbound ++ l.inbound

inductive Replacement where
  | link (link : Link)
  | nothing

/-- A change under way: the bridge and what will take the place of its link. -/
structure Handover where
  id : String
  replacement : Replacement

structure BridgeManager where
  traffic : Traffic := {}
  links : Table Link := {}
  deriving Inhabited

namespace BridgeManager

def subscriptionField : Direction → String
  | .outbound => "local_subscriptions"
  | .inbound => "remote_subscriptions"

/-- The forwarders of a list of subscriptions, as far as they can be built, and the fault of the
first that cannot. -/
def buildForwarders (config : BridgeConfig) (direction : Direction) (index : Nat) :
    List BridgeSubscription → List Forwarder × Option AdminFault
  | [] => ([], none)
  | s :: rest =>
    match Forwarder.build config direction index s with
    | .ok f =>
      let (fs, fault) := buildForwarders config direction (index + 1) rest
      (f :: fs, fault)
    | .error fault =>
      let field := s!"{subscriptionField direction}[{index}]"
      ([], some (.validation [{ field, message := fault.message }]))

def openMetrics (metrics : Metrics) (fs : List Forwarder) : Metrics :=
  fs.foldl (fun m f => m.openBridge f.bridgeId f.direction.text) metrics

/-- Builds a link with new lanes. Its counters are visible even if it cannot be completed. -/
def buildLink (m : BridgeManager) (config : BridgeConfig) (remote : String) :
    BridgeManager × Except AdminFault Link :=
  let opened (fs : List Forwarder) : BridgeManager :=
    { m with traffic := { m.traffic with metrics := openMetrics m.traffic.metrics fs } }
  match buildForwarders config .outbound 0 config.localSubscriptions with
  | (out, some fault) => (opened out, .error fault)
  | (out, none) =>
    match buildForwarders config .inbound 0 config.remoteSubscriptions with
    | (inn, some fault) => (opened (out ++ inn), .error fault)
    | (inn, none) =>
      let first := m.traffic.lanes.length
      let traffic := out.foldl (·.addLane · (.remote remote)) m.traffic
      ({ m with traffic := inn.foldl (·.addLane · .localBroker) traffic },
        .ok { config, remote, outbound := List.range' first out.length,
              inbound := List.range' (first + out.length) inn.length })

def setRunning (m : BridgeManager) (lanes : List Nat) (running : Bool) : BridgeManager :=
  { m with traffic := lanes.foldl (fun t lane => t.setRunning lane running) m.traffic }

def putLink (m : BridgeManager) (l : Link) : BridgeManager :=
  { m with links := m.links.insert l.config.id l }

def add (m : BridgeManager) (config : BridgeConfig) (remote : String) :
    BridgeManager × Except AdminFault Unit :=
  if m.links.contains config.id then (m, .error (.duplicateId .bridge config.id))
  else match config.validate with
    | .error fault => (m, .error fault)
    | .ok () =>
      match m.buildLink config remote with
      | (m, .error fault) => (m, .error fault)
      | (m, .ok link) => ((m.setRunning link.lanes true).putLink link, .ok ())

def beginUpdate (m : BridgeManager) (config : BridgeConfig) (remote : String) :
    BridgeManager × Except AdminFault Handover :=
  match m.links.find? config.id with
  | none => (m, .error (.notFound .bridge config.id))
  | some old =>
    match config.validate with
    | .error fault => (m, .error fault)
    | .ok () =>
      match m.buildLink config remote with
      | (m, .error fault) => (m, .error fault)
      | (m, .ok link) =>
        (m.setRunning old.lanes false, .ok { id := config.id, replacement := .link link })

def beginDelete (m : BridgeManager) (id : String) : BridgeManager × Except AdminFault Handover :=
  match m.links.find? id with
  | none => (m, .error (.notFound .bridge id))
  | some old => (m.setRunning old.lanes false, .ok { id, replacement := .nothing })

def draining (m : BridgeManager) (h : Handover) : List Nat :=
  match m.links.find? h.id with
  | some old => old.lanes
  | none => []

def complete (m : BridgeManager) (h : Handover) : BridgeManager :=
  match h.replacement with
  | .link link => (m.putLink link).setRunning link.lanes true
  | .nothing => { m with links := m.links.erase h.id }

/-- Offers a message to lanes; those with a matching filter get it under their own ids. -/
def offer (t : Traffic) (m : Message) (messageId : Nat) (lanes : List Nat) : Traffic :=
  lanes.foldl (fun t lane =>
    match t.lanes[lane]? with
    | some l =>
      if l.forwarder.matchesTopic m.topic then
        t.forward lane m { queueId := l.forwarder.id, messageId }
      else t
    | none => t) t

def outboundLanes (m : BridgeManager) : List Nat := m.links.values.flatMap (·.outbound)

def forwardLocal (m : BridgeManager) (message : Message) (messageId : Nat) : BridgeManager :=
  { m with traffic := offer m.traffic message messageId m.outboundLanes }

def forwardRemote (m : BridgeManager) (id : String) (message : Message) (messageId : Nat) :
    Except AdminFault BridgeManager :=
  match m.links.find? id with
  | none => .error (.notFound .bridge id)
  | some link => .ok { m with traffic := offer m.traffic message messageId link.inbound }

def shouldForward (m : BridgeManager) (topic : String) : Bool :=
  m.outboundLanes.any fun lane =>
    match m.traffic.lanes[lane]? with
    | some l => l.forwarder.matchesTopic topic
    | none => false

def linkInflight (m : BridgeManager) (l : Link) : Nat :=
  (l.lanes.map m.traffic.inflight).foldr (· + ·) 0

def find (m : BridgeManager) (id : String) : Except AdminFault Link :=
  match m.links.find? id with
  | some link => .ok link
  | none => .error (.notFound .bridge id)

def startAll (m : BridgeManager) : BridgeManager :=
  m.setRunning (m.links.values.flatMap Link.lanes) true

def stopAll (m : BridgeManager) : BridgeManager :=
  m.setRunning (m.links.values.flatMap Link.lanes) false

end BridgeManager
end EdgeGateway

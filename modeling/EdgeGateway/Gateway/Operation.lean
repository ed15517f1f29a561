import EdgeGateway.Gateway.Basic

/-!
# Operating a gateway

What can be asked of a gateway from outside. After an operation the agenda is left to itself:
`settled` lets everything run until it waits.
-/

namespace EdgeGateway.Gateway

def settled (g : Gateway) : Gateway := schedule.settle g

def advance (g : Gateway) (millis : Nat) : Gateway := schedule.advance g millis

/-! ### Remotes -/

def ensureRemote (g : Gateway) (name : String) (r : Remote) : Gateway :=
  if g.remotes.contains name then g else g.setRemote name r

def adjustRemote (g : Gateway) (name : String) (f : Remote → Remote) : Gateway :=
  { g with remotes := g.remotes.adjust name f }

def release (g : Gateway) (name : String) (permits : Nat) : Gateway :=
  match g.remote? name with
  | some r =>
    let (r, admitted) := r.release permits
    let g := g.setRemote name r
    { g with agenda := g.agenda.wakeAll (admitted.map .delivery) }
  | none => g

def publishDirect (g : Gateway) (name : String) (m : Message) :
    Gateway × Except PublishFault Unit :=
  match g.remote? name with
  | none => (g, .ok ())
  | some r =>
    match r.kind with
    | .localBroker =>
      let (g, result) := g.dispatch m
      (g, result.map fun _ => ())
    | .dryRun _ =>
      match r.attempt g.agenda.now 0 m with
      | (r, .answered result) => (g.setRemote name r, result)
      | (r, _) => (g.setRemote name r, .ok ())
    | .recording _ delay =>
      let g := if delay = 0 then g else g.advance delay
      let r := (g.remote? name).getD r
      let permits := r.permits - 1
      match r.failure with
      | some fault => (g.setRemote name { r with permits }, .error fault)
      | none => (g.setRemote name { r with permits, published := r.published ++ [m] }, .ok ())

def targetName (g : Gateway) : Target → String
  | .localBroker => "local"
  | .remote name =>
    match (g.remote? name).map Remote.kind with
    | some .localBroker => "local"
    | _ => name

/-! ### Bridges -/

def addBridge (g : Gateway) (config : BridgeConfig) (remote : String) :
    Gateway × Except AdminFault Unit :=
  let (bridges, result) := g.bridges.add config remote
  ({ g with bridges }, result)

def carryOut (g : Gateway) (h : Handover) : Gateway :=
  let g := (g.drain (g.bridges.draining h) g.drainTimeout).1
  { g with bridges := g.bridges.complete h }

def updateBridge (g : Gateway) (config : BridgeConfig) (remote : String) :
    Gateway × Except AdminFault Unit :=
  match g.bridges.beginUpdate config remote with
  | (bridges, .error fault) => ({ g with bridges }, .error fault)
  | (bridges, .ok h) => (carryOut { g with bridges } h, .ok ())

def deleteBridge (g : Gateway) (id : String) : Gateway × Except AdminFault Unit :=
  match g.bridges.beginDelete id with
  | (bridges, .error fault) => ({ g with bridges }, .error fault)
  | (bridges, .ok h) => (carryOut { g with bridges } h, .ok ())

def forwardLocal (g : Gateway) (m : Message) (messageId : Nat) : Gateway × List Nat :=
  let first := g.traffic.calls.length
  let g := g.setBridges (g.bridges.forwardLocal m messageId)
  (g, List.range' first (g.traffic.calls.length - first))

def forwardRemote (g : Gateway) (id : String) (m : Message) (messageId : Nat) :
    Except AdminFault (Gateway × List Nat) :=
  match g.bridges.forwardRemote id m messageId with
  | .error fault => .error fault
  | .ok bridges =>
    let first := g.traffic.calls.length
    .ok (g.setBridges bridges, List.range' first (bridges.traffic.calls.length - first))

def forwardTo (g : Gateway) (lane : Nat) (m : Message) (ack : AckToken) : Gateway × Nat :=
  let bridges := { g.bridges with traffic := g.traffic.forward lane m ack }
  (g.setBridges bridges, g.traffic.calls.length)

def bridgeStatus (g : Gateway) (link : Link) : ConnectionStatus :=
  .ofBool (g.isConnected (.remote link.remote))

def drainAll (g : Gateway) (timeout : Nat) : Gateway × Bool :=
  g.drain (g.bridges.links.values.flatMap Link.lanes) timeout

/-! ### Adapters -/

def setRegistry (g : Gateway) (registry : Registry Handler) : Gateway :=
  (List.range registry.handlers.length).foldl meetRequests { g with registry }

def openCounters (g : Gateway) (id : String) : Gateway :=
  match g.registry.handler? id with
  | some (.simulated _) => g.setMetrics (g.metrics.openAdapter id)
  | _ => g

def addAdapter (g : Gateway) (type id : String) (config : Json) :
    Gateway × Except AdminFault Unit :=
  match g.registry.add Handler.handling type id config with
  | (registry, .error fault) => ({ g with registry }, .error fault)
  | (registry, .ok ()) => ((g.setRegistry registry).openCounters id, .ok ())

def updateAdapter (g : Gateway) (id : String) (config : Json) :
    Gateway × Except AdminFault Unit :=
  match g.registry.update Handler.handling id config with
  | (registry, .error fault) => ({ g with registry }, .error fault)
  | (registry, .ok ()) => ((g.setRegistry registry).openCounters id, .ok ())

def deleteAdapter (g : Gateway) (id : String) : Gateway × Except AdminFault Unit :=
  let (registry, result) := g.registry.delete Handler.handling id
  (g.setRegistry registry, result)

def shutdown (g : Gateway) : Gateway := g.setRegistry (g.registry.shutdown Handler.handling)

def adapterHandler (g : Gateway) (id : String) : Except AdminFault Handler :=
  match g.registry.handler? id with
  | some handler => .ok handler
  | none => .error (.notFound .adapter id)

def discover (g : Gateway) (id : String) (input : DiscoveryInput) : Except AdminFault NodeTree :=
  match g.adapterHandler id with
  | .error fault => .error fault
  | .ok handler => (handler.discover input).mapError fun fault => .adapter fault.message

def adapterStatuses (g : Gateway) : List (String × ConnectionStatus) :=
  g.registry.statuses Handler.status

def send (g : Gateway) (p : AdapterPublish) : Gateway × Except PublishFault Unit :=
  let (g, result) := g.dispatch p.message
  (g, result.map fun _ => ())

end EdgeGateway.Gateway

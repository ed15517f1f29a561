import EdgeGateway.Config.Basic
import EdgeGateway.Gateway.Operation
import EdgeGateway.Log
import EdgeGateway.Metrics.Exposition
import EdgeGateway.Text.Quoted

/-!
# Service

A gateway in service: `start` sets it up as a configuration says, `stop` takes it down again. What
cannot be set up is left out. Every remote is a dry run, which tells in the log what it would have
sent.
-/

namespace EdgeGateway

structure Service where
  gateway : Gateway
  log : List LogLine := []

namespace Service

def note (s : Service) (level : LogLevel) (text : String) : Service :=
  { s with log := s.log ++ [{ level, text }] }

def mailboxCapacity : Nat := 1024

def ofConfig (now : Nat) (config : Config) : Service where
  gateway := { broker := .ofCapacity mailboxCapacity, drainTimeout := config.drainTimeout.millis,
               agenda := { now } }

def forwarders (g : Gateway) (lanes : List Nat) : List Forwarder :=
  (lanes.filterMap (g.traffic.lanes[·]?)).map Lane.forwarder

def noteForwarders (s : Service) (lanes : List Nat) (happening : String) : Service :=
  (forwarders s.gateway lanes).foldl
    (fun s f => s.note .debug s!"Forwarder '{f.id}': {happening}") s

def noteLink (s : Service) (l : Link) : Service :=
  let s := s.noteForwarders l.lanes "started"
  s.note .info (s!"Bridge manager: Added bridge '{l.config.id}' to {l.config.endpoint} " ++
    s!"({l.outbound.length} outbound, {l.inbound.length} inbound forwarder(s))")

def addBridge (s : Service) (b : BridgeConfig) : Service :=
  let s := s.note .info (s!"    - {b.id} -> {b.endpoint} ({b.localSubscriptions.length} local, " ++
    s!"{b.remoteSubscriptions.length} remote subscription(s))")
  let g := s.gateway.ensureRemote b.id { kind := .dryRun b.endpoint }
  match g.addBridge b b.id with
  | (g, .error fault) =>
    { s with gateway := g }.note .error s!"Bridge '{b.id}' not started: {fault.message}"
  | (g, .ok ()) =>
    let s := { s with gateway := g }
    match g.bridges.links.find? b.id with
    | some link => s.noteLink link
    | none => s

def registerType (s : Service) (type : AdapterType) : Service :=
  match s.gateway.registry.register type with
  | .error _ => s
  | .ok registry =>
    { s with gateway := { s.gateway with registry } }.note .info
      s!"Registered protocol adapter type '{type.protocolId}' ({type.name} {type.version})"

def noteStart (s : Service) (id : String) (i : AdapterInstance) : Service :=
  let s := match s.gateway.registry.handler? id with
    | some (.simulated d) =>
      s.note .info (s!"Adapter '{id}': simulating {d.plan.nodes.length} data point(s) " ++
        s!"every {d.plan.interval}ms")
    | _ => s
  match i.lastError with
  | none => s.note .info s!"Adapter '{id}': started"
  | some text => s.note .error s!"Adapter '{id}': failed to start: {text}"

def addAdapter (s : Service) (a : AdapterConfig) : Service :=
  let s := s.note .info s!"    - {a.id} ({a.type})"
  match s.gateway.addAdapter a.type a.id a.config with
  | (g, .error fault) =>
    { s with gateway := g }.note .error s!"Adapter '{a.id}' not started: {fault.message}"
  | (g, .ok ()) =>
    let s := { s with gateway := g }
    let s := match g.registry.instances.find? a.id with
      | some i => s.noteStart a.id i
      | none => s
    s.note .info s!"Added protocol adapter of type '{a.type}' with id '{a.id}'"

def start (now : Nat) (path : String) (config : Config) : Service :=
  let s := (ofConfig now config).note .info "Starting EdgeBridge"
  let s := s.note .info s!"  Configuration: {Text.quoted path}"
  let s := s.note .info s!"  Drain timeout: {config.drainTimeout.text}"
  let s := s.note .info s!"  Bridges: {config.bridges.length} configured"
  let s := config.bridges.foldl addBridge s
  let s := s.registerType Simulation.adapterType
  let s := s.note .info s!"  Adapters: {config.adapters.length} configured"
  config.adapters.foldl addAdapter s

/-! ### In service -/

def dryRunText (name endpoint : String) (m : Message) : String :=
  s!"Bridge '{name}': [dry-run] {m.topic} -> {endpoint} " ++
    s!"(qos={m.qos.toNat}, retain={m.retain}, {m.payload.size} bytes)"

def dryRunLines (earlier : Gateway) (name : String) (r : Remote) : List LogLine :=
  match r.kind with
  | .dryRun endpoint =>
    let known := ((earlier.remote? name).map (·.published.length)).getD 0
    (r.published.drop known).map fun m => { level := .info, text := dryRunText name endpoint m }
  | _ => []

/-- Goes on to a later state of the gateway and tells what the remotes have got by then. -/
def goOn (s : Service) (g : Gateway) : Service :=
  { gateway := g,
    log := s.log ++ g.remotes.entries.flatMap fun (name, r) => dryRunLines s.gateway name r }

def settled (s : Service) : Service := s.goOn s.gateway.settled

def advance (s : Service) (millis : Nat) : Service := s.goOn (s.gateway.advance millis)

def stop (s : Service) : Service :=
  let s := s.note .info "Shutting down"
  let ids := s.gateway.registry.instances.keys
  let s := { s with gateway := s.gateway.shutdown }
  let s := ids.foldl (fun s id => s.note .debug s!"Adapter '{id}': stopped for shutdown") s
  let s := { s with gateway := { s.gateway with bridges := s.gateway.bridges.stopAll } }
  let lanes := s.gateway.bridges.links.values.flatMap Link.lanes
  let s := s.noteForwarders lanes "stopped"
  let (g, drained) := s.gateway.drainAll s.gateway.drainTimeout
  let s := s.goOn g
  let s := if drained then s else s.note .error "Shut down with messages still in flight"
  s.note .debug s!"Final metrics:\n{s.gateway.metrics.text}"

end Service

end EdgeGateway

import EdgeGateway.Proofs.Broker.Delivery
import EdgeGateway.Proofs.Gateway.Drain
import EdgeGateway.Proofs.Topic

/-!
# Gateways at work

What can happen in a gateway, one thing at a time and in any order: subscribers come and go, messages
enter at the broker and from remotes, bridges change, the interceptor is asked and remotes take
messages and answer. Messages of the broker only get to the bridges, and to the interceptor, as the
gateway itself passes them on. `Moves` lists what an act does to the bridges.
-/

namespace EdgeGateway.Gateway

open BridgeManager (Action State)

/-- A gateway, and the change of a bridge that it is carrying out. -/
structure Stage where
  gateway : Gateway
  change : Option Handover := none

/-- Whether an action can come from outside. The gateway itself offers the messages of its broker and
asks its interceptor. -/
def FromOutside : Action → Bool
  | .forwardLocal .. | .intercepted .. => false
  | _ => true

/-- What a remote has published. -/
def publishedAt (g : Gateway) (name : String) : List Message :=
  ((g.remote? name).map Remote.published).getD []

/-- An operation at the broker, which offers what is dispatched to the bridges. -/
def atBroker (g : Gateway) : Broker.Operation → Gateway
  | .dispatch m => (g.dispatch m).1
  | op => { g with broker := g.broker.step op }

inductive Act where
  | broker (op : Broker.Operation)
  | bridges (a : Action)
  | intercept (call : Nat)
  /-- A remote publishes the message of a call, whatever becomes of it otherwise. -/
  | publish (call : Nat) (r : Remote)
  /-- A remote becomes another one but for what it has published. -/
  | setRemote (name : String) (r : Remote)
  | adjustRemote (name : String) (f : Remote → Remote)
  /-- Whatever happens to adapters and tasks, which is nothing to bridges and remotes. -/
  | beside (registry : Registry Handler) (agenda : Agenda Task) (adapters : Table AdapterCounters)

namespace Stage

def state (s : Stage) : State := s.gateway.state s.change

def enter (s : Stage) (after : State) : Stage :=
  { gateway := { s.gateway with bridges := after.manager }, change := after.change }

def step (s : Stage) : Act → Stage
  | .broker op => { s with gateway := s.gateway.atBroker op }
  | .bridges a => if FromOutside a then s.enter (s.state.step a) else s
  | .intercept call => { s with gateway := s.gateway.intercept call }
  | .publish call r =>
    match s.gateway.atRemote? call with
    | some (name, m) =>
      let published := s.gateway.publishedAt name ++ [m]
      { s with gateway := s.gateway.setRemote name { r with published } }
    | none => s
  | .setRemote name r =>
    let published := s.gateway.publishedAt name
    { s with gateway := s.gateway.setRemote name { r with published } }
  | .adjustRemote name f =>
    { s with gateway := s.gateway.adjustRemote name fun r => { f r with published := r.published } }
  | .beside registry agenda adapters =>
    { s with gateway :=
      { s.gateway with registry, agenda, bridges := s.gateway.bridges.setAdapters adapters } }

def run (s : Stage) (acts : List Act) : Stage := acts.foldl step s

theorem run_concat (s : Stage) (acts : List Act) (act : Act) :
    s.run (acts ++ [act]) = (s.run acts).step act := List.foldl_concat ..

theorem run_append (s : Stage) (acts acts' : List Act) :
    s.run (acts ++ acts') = (s.run acts).run acts' := List.foldl_append

end Stage

/-! ### The bridges through an act -/

/-- What an act does to the bridges, and the number of the next message after it. -/
inductive Moves (s : Stage) : Act → State → Nat → Prop where
  | rest {act : Act} : Moves s act s.state s.gateway.broker.nextMessage
  | beside {registry : Registry Handler} {agenda : Agenda Task} (adapters : Table AdapterCounters) :
      Moves s (.beside registry agenda adapters) (s.state.setAdapters adapters)
        s.gateway.broker.nextMessage
  | outside {a : Action} (outside : FromOutside a = true) :
      Moves s (.bridges a) (s.state.step a) s.gateway.broker.nextMessage
  | intercepted {call : Nat} {c : Call} {m : Message} {l : Lane} (connected : Bool)
      (known : s.gateway.traffic.calls[call]? = some c) (waiting : c.progress = .candidate m)
      (present : s.gateway.traffic.lanes[c.lane]? = some l) :
      Moves s (.intercept call) (s.state.step (.intercepted call
        (s.gateway.interceptor l.forwarder.context m) connected)) s.gateway.broker.nextMessage
  | dispatched {m : Message} (valid : Topic.ValidName m.topic) :
      Moves s (.broker (.dispatch m))
        (s.state.step (.forwardLocal m s.gateway.broker.nextMessage))
        (s.gateway.broker.nextMessage + 1)

/-- Subscribers do not see the numbers of messages. -/
theorem step_nextMessage (b : Broker) (op : Broker.Operation) :
    (b.step op).nextMessage = b.nextMessage := by
  rcases b.step_cases op with same | ⟨n, f, update⟩ | ⟨m, deliver⟩ | ⟨filter, b', n, _, done, same⟩
  · rw [same]
  · rw [update]
    rfl
  · rw [deliver]
    rfl
  · unfold Broker.subscribe at done
    split at done <;> cases done
    rw [same]

theorem dispatch_moves (s : Stage) (m : Message) :
    Moves s (.broker (.dispatch m)) ((s.gateway.dispatch m).1.state s.change)
      (s.gateway.dispatch m).1.broker.nextMessage := by
  unfold dispatch
  cases checked : Broker.checkMessage m with
  | error fault => exact .rest
  | ok =>
    have valid := Topic.checkName_iff.mp (Broker.checkMessage_eq_ok.mp checked)
    dsimp only
    split
    next attached => exact .dispatched valid
    next alone => exact .rest

theorem step_moves (s : Stage) (act : Act) :
    Moves s act (s.step act).state (s.step act).gateway.broker.nextMessage := by
  cases act with
  | broker op =>
    have quiet (unnumbered : Broker) (same : unnumbered.nextMessage = s.gateway.broker.nextMessage) :
        Moves s (.broker op) s.state unnumbered.nextMessage := by
      rw [same]
      exact .rest
    cases op with
    | dispatch m => exact dispatch_moves s m
    | subscribe | unsubscribe | leave | take => exact quiet _ (step_nextMessage s.gateway.broker _)
  | bridges a =>
    unfold Stage.step
    dsimp only
    split
    next outside => exact .outside outside
    next => exact .rest
  | intercept call =>
    simp only [Stage.step, Stage.state, Gateway.intercept]
    split
    next lane ack m known =>
      split
      next l present => exact .intercepted _ known rfl present
      next => exact .rest
    next => exact .rest
  | publish call r =>
    unfold Stage.step
    dsimp only
    split <;> exact .rest
  | setRemote name r => exact .rest
  | adjustRemote name f => exact .rest
  | beside registry agenda adapters => exact .beside adapters

/-! ### The rest of a gateway through an act -/

theorem atBroker_rest (g : Gateway) (op : Broker.Operation) :
    (g.atBroker op).broker.mailboxes = (g.broker.step op).mailboxes ∧
      (g.atBroker op).remotes = g.remotes ∧ (g.atBroker op).interceptor = g.interceptor := by
  cases op with
  | dispatch m =>
    refine ⟨(g.dispatched m).broker.2, ?_⟩
    change (g.dispatch m).1.remotes = g.remotes ∧ (g.dispatch m).1.interceptor = g.interceptor
    unfold dispatch
    cases Broker.checkMessage m with
    | error fault => exact ⟨rfl, rfl⟩
    | ok =>
      dsimp only
      split <;> exact ⟨rfl, rfl⟩
  | _ => exact ⟨rfl, rfl, rfl⟩

/-- What an act does to everything but the bridges. -/
inductive Touches (s : Stage) : Act → Gateway → Prop where
  | broker (op : Broker.Operation) : Touches s (.broker op) (s.gateway.atBroker op)
  | beside {act : Act} (registry : Registry Handler) (agenda : Agenda Task) (bridges : BridgeManager) :
      Touches s act { s.gateway with registry, agenda, bridges }
  | publish {call : Nat} {r : Remote} {name : String} {m : Message}
      (here : s.gateway.atRemote? call = some (name, m)) :
      Touches s (.publish call r) (s.gateway.setRemote name
        { r with published := s.gateway.publishedAt name ++ [m] })
  | setRemote (name : String) (r : Remote) :
      Touches s (.setRemote name r) (s.gateway.setRemote name
        { r with published := s.gateway.publishedAt name })
  | adjustRemote (name : String) (f : Remote → Remote) :
      Touches s (.adjustRemote name f) (s.gateway.adjustRemote name
        fun r => { f r with published := r.published })

theorem step_touches (s : Stage) (act : Act) : Touches s act (s.step act).gateway := by
  have same : Touches s act s.gateway :=
    .beside s.gateway.registry s.gateway.agenda s.gateway.bridges
  cases act with
  | broker op => exact .broker op
  | bridges a =>
    unfold Stage.step
    dsimp only
    split
    next => exact .beside s.gateway.registry s.gateway.agenda _
    next => exact same
  | intercept call =>
    simp only [Stage.step, Gateway.intercept]
    split
    next =>
      split
      next => exact .beside s.gateway.registry s.gateway.agenda _
      next => exact same
    next => exact same
  | publish call r =>
    unfold Stage.step
    dsimp only
    split
    next here => exact .publish here
    next => exact same
  | setRemote name r => exact .setRemote name r
  | adjustRemote name f => exact .adjustRemote name f
  | beside registry agenda adapters => exact .beside registry agenda _

/-! ### Runs -/

/-- A gateway before anything has happened in it. -/
structure Fresh (g : Gateway) : Prop where
  mailboxes : g.broker.mailboxes = []
  nextMessage : g.broker.nextMessage = 1
  bridges : g.bridges = {}
  remotes : ∀ name, g.publishedAt name = []

end EdgeGateway.Gateway

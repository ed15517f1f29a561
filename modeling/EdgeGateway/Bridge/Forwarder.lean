import EdgeGateway.Bridge.HopGuard
import EdgeGateway.Bridge.Interceptor
import EdgeGateway.Config.Bridge
import EdgeGateway.Metrics.Basic

/-!
# Forwarders

A forwarder moves the messages of one subscription of a bridge in one direction. `receive` decides
at once what becomes of a message: it is refused while the forwarder does not run, it ends here, or
it is accepted in the form in which the other side is to get it.
-/

namespace EdgeGateway

/-- Names a message towards whoever gave it: the queue it came from and its number there. -/
structure AckToken where
  queueId : String
  messageId : Nat
  deriving DecidableEq, Repr

inductive DropReason where
  | stopped
  | loopPrevention
  | interceptor
  | disconnected
  deriving DecidableEq, Repr

inductive ForwardOutcome where
  | forwarded
  | dropped (reason : DropReason)
  | excluded
  | failed
  deriving DecidableEq, Repr

/-- The counter of an outcome; a message that was refused is in none. -/
def ForwardOutcome.counter? : ForwardOutcome → Option BridgeCounter
  | .forwarded => some .forwardSuccess
  | .failed => some .forwardFailed
  | .excluded => some .excluded
  | .dropped .loopPrevention => some .loopPreventionDrops
  | .dropped .interceptor => some .interceptDropped
  | .dropped .disconnected => some .disconnectedDrops
  | .dropped .stopped => none

structure Forwarder where
  id : String
  bridgeId : String
  direction : Direction
  filters : List String
  /-- Topic filters of messages that stay. -/
  excludes : List String
  template : Topic.Template
  maxQos : QoS
  preserveRetain : Bool
  customProperties : List (String × String)
  guard : HopGuard
  deriving Repr

namespace Forwarder

def idOf (bridgeId : String) (direction : Direction) (index : Nat) : String :=
  s!"{bridgeId}-{direction.text}-{index}"

def build (bridge : BridgeConfig) (direction : Direction) (index : Nat) (s : BridgeSubscription) :
    Except TransformFault Forwarder :=
  match QoS.ofNat? s.maxQos with
  | none => .error (.qosCeiling s.maxQos)
  | some maxQos =>
    match Topic.Template.parse s.destination with
    | .error fault => .error (.badTemplate s.destination fault)
    | .ok template =>
      .ok { id := idOf bridge.id direction index, bridgeId := bridge.id, direction,
            filters := s.filters, excludes := s.excludes, template, maxQos,
            preserveRetain := s.preserveRetain, customProperties := s.customProperties,
            guard := { enabled := bridge.loopPrevention, limit := bridge.hopLimit } }

def context (f : Forwarder) : BridgeContext := { bridgeId := f.bridgeId, direction := f.direction }

def matchesTopic (f : Forwarder) (topic : String) : Bool :=
  f.filters.any (Topic.matchesFilter topic)

def isExcluded (f : Forwarder) (topic : String) : Bool :=
  f.excludes.any (Topic.matchesFilter topic)

def bridgeNameToken : String := "bridge.name"

/-- The user properties of the outgoing message: those of the message without any hop count, the
custom ones, and the new hop count. -/
def outgoingProperties (f : Forwarder) (m : Message) (hops : Nat) : List UserProperty :=
  m.properties.filter (·.name ≠ hopProperty) ++
    f.customProperties.map (fun (name, value) => UserProperty.mk name value) ++
    if f.guard.enabled then [{ name := hopProperty, value := toString (HopGuard.next hops) }]
    else []

def transform (f : Forwarder) (m : Message) (hops : Nat) : Except TransformFault Message :=
  match f.template.expand m.topic [(bridgeNameToken, f.bridgeId)] with
  | .error fault => .error (.noExpansion f.template.source fault)
  | .ok topic =>
    .ok { m with
          topic, qos := m.qos.weaker f.maxQos, retain := f.preserveRetain && m.retain,
          properties := f.outgoingProperties m hops }

inductive Reception where
  | ended (outcome : ForwardOutcome)
  | accepted (candidate : Message)

def receive (f : Forwarder) (running : Bool) (m : Message) : Reception :=
  let hops := f.guard.hops m
  if !running then .ended (.dropped .stopped)
  else if f.guard.decision hops = .drop then .ended (.dropped .loopPrevention)
  else if f.isExcluded m.topic then .ended .excluded
  else match f.transform m hops with
    | .ok candidate => .accepted candidate
    | .error _ => .ended .failed

end Forwarder
end EdgeGateway

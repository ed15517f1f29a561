import EdgeGateway.Adapter.Value
import EdgeGateway.Fault
import EdgeGateway.Message

/-!
# Publishes of adapters

A subscription ties a node of a field device to a topic. A pipeline turns the values of a node into
publishes on that topic, each with context about its source. Every publish that is built has a
valid topic.
-/

namespace EdgeGateway

structure FieldSubscription where
  nodeId : String
  topic : String
  qos : QoS
  expiry : Option UInt32 := none
  deriving DecidableEq, Repr, Inhabited

structure AdapterPublish where
  topic : String
  payload : ByteArray
  qos : QoS
  expiry : Option UInt32
  context : Table String
  properties : List UserProperty

namespace AdapterPublish

structure Draft where
  topic : Option String := none
  payload : ByteArray := .empty
  qos : QoS := .atMostOnce
  expiry : Option UInt32 := none
  context : Table String := {}
  properties : List UserProperty := []

/-- Adds context; a later value of a key replaces the earlier one. -/
def Draft.withContext (d : Draft) (entries : List (String × String)) : Draft :=
  { d with context := entries.foldl (fun t (k, v) => t.insert k v) d.context }

def Draft.build (d : Draft) : Except PublishFault AdapterPublish :=
  match d.topic with
  | none => .error (.conversion "publish has no topic")
  | some topic =>
    match Topic.checkName topic with
    | .error fault => .error (.conversion (invalidTopicText topic fault))
    | .ok () =>
      .ok { topic, payload := d.payload, qos := d.qos, expiry := d.expiry, context := d.context,
            properties := d.properties }

/-- The message, whose user properties end with the context in key order. -/
def message (p : AdapterPublish) : Message where
  topic := p.topic
  payload := p.payload
  qos := p.qos
  expiry := p.expiry
  properties := p.properties ++ p.context.entries.map fun (name, value) => { name, value }

end AdapterPublish

def nodeIdContext : String := "node-id"

def protocolIdProperty : String := "adapter.id"

def instanceIdProperty : String := "adapter.instance.id"

structure Pipeline where
  adapterId : String
  protocolId : String
  mode : PayloadMode := .json

abbrev ContextAnswer := Except AdapterFault (List (String × String))

/-- The publish of a value read now. Context that cannot be had is left out. -/
def Pipeline.publish (p : Pipeline) (now : Nat) (context : ContextAnswer) (v : FieldValue)
    (s : FieldSubscription) : Except PublishFault AdapterPublish :=
  let further := match context with
    | .ok entries => entries
    | .error _ => []
  let draft : AdapterPublish.Draft :=
    { topic := s.topic, payload := p.mode.encode now v, qos := s.qos, expiry := s.expiry,
      properties := [⟨protocolIdProperty, p.protocolId⟩, ⟨instanceIdProperty, p.adapterId⟩] }
  (draft.withContext ((nodeIdContext, s.nodeId) :: further)).build

end EdgeGateway

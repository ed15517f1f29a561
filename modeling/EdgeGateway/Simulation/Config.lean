import EdgeGateway.Adapter.Node
import EdgeGateway.Adapter.Publish

/-!
# Simulated devices: configuration

A simulated device has one node per configured subscription, which yields a random number from a
range at a fixed interval. `Config.plan` turns a configuration into nodes or says what is wrong
with it.
-/

namespace EdgeGateway.Simulation

open Decode

/-- The protocol id of simulated devices, which is also the id of their root node. -/
def protocolId : String := "simulation"

structure Source where
  destination : String
  qos : Nat := 0
  minValue : Double := .ofInt 0
  maxValue : Double := .ofInt 1000
  expiry : Option Nat := none
  deriving DecidableEq, Repr

structure Config where
  interval : Nat := 1000
  sources : List Source
  deriving DecidableEq, Repr

def Source.read : Json → Result Source :=
  json.record "SimulationSubscription" 5 fun r =>
    Part.of Source.mk
      |>.ap (r.field 0 "destination" json.string .refused)
      |>.ap (r.field 1 "qos" (json.word 8) (.anywhere 0))
      |>.ap (r.field 2 "min_value" json.double (.anywhere (.ofInt 0)))
      |>.ap (r.field 3 "max_value" json.double (.anywhere (.ofInt 1000)))
      |>.ap (r.field 4 "message_expiry_interval" (json.optional (json.word 32)) (.anywhere none))

def Config.read : Json → Result Config :=
  json.record "SimulationConfig" 2 fun r =>
    Part.of Config.mk
      |>.ap (r.field 0 "polling_interval_millis" (json.word 64) (.anywhere 1000))
      |>.ap (r.field 1 "subscriptions" (json.list Source.read) .refused)

def minInterval : Nat := 100

def maxInterval : Nat := 86400000

def closedObject (required : List String) (properties : List (String × Json)) : Json :=
  .ofMembers [("type", .string "object"), ("required", .array (required.map .string)),
    ("additionalProperties", .bool false), ("properties", .ofMembers properties)]

def typed (type : String) (keywords : List (String × Json) := []) : Json :=
  .ofMembers (("type", .string type) :: keywords)

def schema : Json :=
  let source := closedObject ["destination"] [
    ("destination", typed "string" [("minLength", .ofNat 1)]),
    ("qos", typed "integer" [("minimum", .ofNat 0), ("maximum", .ofNat 2)]),
    ("min_value", typed "number"),
    ("max_value", typed "number"),
    ("message_expiry_interval", typed "integer" [("minimum", .ofNat 0)])]
  closedObject ["subscriptions"] [
    ("polling_interval_millis", typed "integer" [("minimum", .ofNat minInterval),
      ("maximum", .ofNat maxInterval), ("default", .ofNat 1000)]),
    ("subscriptions", typed "array" [("items", source)])]

structure Node where
  subscription : FieldSubscription
  minValue : Double
  maxValue : Double
  deriving DecidableEq, Repr

structure Plan where
  interval : Nat
  nodes : List Node
  deriving DecidableEq, Repr

def nodeId (index : Nat) : String := s!"sim-{index}"

/-- A range from which values can be drawn has finite ends in ascending order. -/
def isRange (low high : Double) : Bool := low.isFinite && high.isFinite && !high.lt low

def Source.node (index : Nat) (s : Source) : Except AdapterFault Node :=
  match QoS.ofNat? s.qos with
  | none => .error (.config s!"subscriptions[{index}].qos must be 0, 1 or 2")
  | some qos =>
    if isRange s.minValue s.maxValue then
      .ok { subscription := { nodeId := nodeId index, topic := s.destination, qos,
                              expiry := s.expiry.map Nat.toUInt32 },
            minValue := s.minValue, maxValue := s.maxValue }
    else
      .error (.config
        s!"subscriptions[{index}]: min_value must be finite and not exceed max_value")

def nodesFrom (index : Nat) : List Source → Except AdapterFault (List Node)
  | [] => .ok []
  | s :: rest => do
    let node ← s.node index
    let nodes ← nodesFrom (index + 1) rest
    return node :: nodes

def Config.plan (c : Config) : Except AdapterFault Plan :=
  if minInterval ≤ c.interval ∧ c.interval ≤ maxInterval then do
    let nodes ← nodesFrom 0 c.sources
    return { interval := c.interval, nodes }
  else
    .error (.config
      s!"polling_interval_millis must be between {minInterval} and {maxInterval}")

def planOf (document : Json) : Except AdapterFault Plan :=
  match Config.read document with
  | .ok c => c.plan
  | .error fault => .error (.config fault.message)

def Node.tree (n : Node) : NodeTree where
  nodeId := n.subscription.nodeId
  name := n.subscription.topic
  metadata := .ofList [("min_value", n.minValue.plainText), ("max_value", n.maxValue.plainText),
    ("qos", toString n.subscription.qos.toNat)]

/-- The nodes below the root, which is where a search starts by default. -/
def Plan.discover (p : Plan) (adapterId : String) (input : DiscoveryInput) : NodeTree :=
  let root := input.root.getD protocolId
  { nodeId := root, name := adapterId,
    children := if root = protocolId then p.nodes.map Node.tree else [] }

end EdgeGateway.Simulation

import EdgeGateway.Text.Numeral

/-!
# Messages

The parts of a publish that the bridges and adapters read or change.
-/

namespace EdgeGateway

inductive QoS where
  | atMostOnce
  | atLeastOnce
  | exactlyOnce
  deriving DecidableEq, Repr, Inhabited

namespace QoS

def toNat : QoS → Nat
  | .atMostOnce => 0
  | .atLeastOnce => 1
  | .exactlyOnce => 2

def ofNat? : Nat → Option QoS
  | 0 => some .atMostOnce
  | 1 => some .atLeastOnce
  | 2 => some .exactlyOnce
  | _ => none

def weaker (a b : QoS) : QoS := if a.toNat < b.toNat then a else b

def stronger (a b : QoS) : QoS := if a.toNat ≤ b.toNat then b else a

end QoS

structure UserProperty where
  name : String
  value : String
  deriving DecidableEq, Repr

instance payloadDecidableEq : DecidableEq ByteArray := ByteArray.instDecidableEq

structure Message where
  topic : String
  payload : ByteArray := .empty
  qos : QoS := .atMostOnce
  retain : Bool := false
  /-- In wire order; names may repeat. -/
  properties : List UserProperty := []
  /-- Seconds after which the message is worthless. -/
  expiry : Option UInt32 := none
  contentType : Option String := none
  responseTopic : Option String := none
  correlationData : Option ByteArray := none
  payloadFormat : Option UInt8 := none
  deriving DecidableEq, Inhabited

def Message.property? (m : Message) (name : String) : Option String :=
  (m.properties.find? (·.name = name)).map (·.value)

end EdgeGateway

import EdgeGateway.Table

/-!
# Metrics

Counters per bridge and direction and per adapter. Asking for the counters of a label creates its
series; all forwarders of a bridge and direction share one series, also across replacements.
-/

namespace EdgeGateway

structure BridgeCounters where
  received : Nat := 0
  forwardSuccess : Nat := 0
  forwardFailed : Nat := 0
  loopPreventionDrops : Nat := 0
  excluded : Nat := 0
  interceptDropped : Nat := 0
  disconnectedDrops : Nat := 0
  deriving DecidableEq, Repr, Inhabited

structure AdapterCounters where
  publishSuccess : Nat := 0
  publishFailed : Nat := 0
  keepAlives : Nat := 0
  transfersFailed : Nat := 0
  deriving DecidableEq, Repr, Inhabited

inductive BridgeCounter where
  | received
  | forwardSuccess
  | forwardFailed
  | loopPreventionDrops
  | excluded
  | interceptDropped
  | disconnectedDrops
  deriving DecidableEq, Repr

inductive AdapterCounter where
  | publishSuccess
  | publishFailed
  | keepAlives
  | transfersFailed
  deriving DecidableEq, Repr

namespace BridgeCounters

def add (c : BridgeCounters) (amount : Nat) : BridgeCounter → BridgeCounters
  | .received => { c with received := c.received + amount }
  | .forwardSuccess => { c with forwardSuccess := c.forwardSuccess + amount }
  | .forwardFailed => { c with forwardFailed := c.forwardFailed + amount }
  | .loopPreventionDrops => { c with loopPreventionDrops := c.loopPreventionDrops + amount }
  | .excluded => { c with excluded := c.excluded + amount }
  | .interceptDropped => { c with interceptDropped := c.interceptDropped + amount }
  | .disconnectedDrops => { c with disconnectedDrops := c.disconnectedDrops + amount }

def get (c : BridgeCounters) : BridgeCounter → Nat
  | .received => c.received
  | .forwardSuccess => c.forwardSuccess
  | .forwardFailed => c.forwardFailed
  | .loopPreventionDrops => c.loopPreventionDrops
  | .excluded => c.excluded
  | .interceptDropped => c.interceptDropped
  | .disconnectedDrops => c.disconnectedDrops

def toList (c : BridgeCounters) : List Nat :=
  [c.received, c.forwardSuccess, c.forwardFailed, c.loopPreventionDrops, c.excluded,
    c.interceptDropped, c.disconnectedDrops]

end BridgeCounters

namespace AdapterCounters

def add (c : AdapterCounters) (amount : Nat) : AdapterCounter → AdapterCounters
  | .publishSuccess => { c with publishSuccess := c.publishSuccess + amount }
  | .publishFailed => { c with publishFailed := c.publishFailed + amount }
  | .keepAlives => { c with keepAlives := c.keepAlives + amount }
  | .transfersFailed => { c with transfersFailed := c.transfersFailed + amount }

def get (c : AdapterCounters) : AdapterCounter → Nat
  | .publishSuccess => c.publishSuccess
  | .publishFailed => c.publishFailed
  | .keepAlives => c.keepAlives
  | .transfersFailed => c.transfersFailed

def toList (c : AdapterCounters) : List Nat :=
  [c.publishSuccess, c.publishFailed, c.keepAlives, c.transfersFailed]

end AdapterCounters

structure Metrics where
  /-- By bridge id and, below it, by direction. -/
  bridges : Table (Table BridgeCounters) := {}
  adapters : Table AdapterCounters := {}
  deriving Inhabited

namespace Metrics

def bridgeCounters (m : Metrics) (bridge direction : String) : BridgeCounters :=
  (((m.bridges.find? bridge).getD {}).find? direction).getD {}

def adapterCounters (m : Metrics) (adapter : String) : AdapterCounters :=
  (m.adapters.find? adapter).getD {}

/-- Changes the counters of a bridge and direction, whose series then exists. -/
def updateBridge (m : Metrics) (bridge direction : String) (f : BridgeCounters → BridgeCounters) :
    Metrics :=
  let directions := (m.bridges.find? bridge).getD {}
  let counters := f ((directions.find? direction).getD {})
  { m with bridges := m.bridges.insert bridge (directions.insert direction counters) }

def updateAdapter (m : Metrics) (adapter : String) (f : AdapterCounters → AdapterCounters) :
    Metrics :=
  { m with adapters := m.adapters.insert adapter (f (m.adapterCounters adapter)) }

def openBridge (m : Metrics) (bridge direction : String) : Metrics :=
  m.updateBridge bridge direction id

def openAdapter (m : Metrics) (adapter : String) : Metrics := m.updateAdapter adapter id

def countBridge (m : Metrics) (bridge direction : String) (counter : BridgeCounter)
    (amount : Nat := 1) : Metrics :=
  m.updateBridge bridge direction (·.add amount counter)

def countAdapter (m : Metrics) (adapter : String) (counter : AdapterCounter) (amount : Nat := 1) :
    Metrics :=
  m.updateAdapter adapter (·.add amount counter)

end Metrics
end EdgeGateway

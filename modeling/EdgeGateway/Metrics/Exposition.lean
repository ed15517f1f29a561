import EdgeGateway.Double.Text
import EdgeGateway.Metrics.Basic

/-!
# Prometheus text

The text exposition of all counters: families in the order of their names, the series of a family
in the order of their labels, and no family without a series.
-/

namespace EdgeGateway.Metrics

structure Family where
  name : String
  help : String
  series : List (List (String × String) × Nat)

/-- Label values have the backslash, the line feed and the quote escaped. -/
def escapeLabel (value : String) : String :=
  String.ofList (value.toList.flatMap fun c =>
    if c = '\\' then ['\\', '\\'] else if c = '\n' then ['\\', 'n']
    else if c = '"' then ['\\', '"'] else [c])

def labelText (label : String × String) : String := s!"{label.1}=\"{escapeLabel label.2}\""

/-- Counters are words of 64 bits, written as the nearest double. -/
def valueText (value : Nat) : String := (Double.ofInt (value % pow2 64 : Nat)).plainText

def Family.lines (f : Family) : List String :=
  if f.series.isEmpty then []
  else
    s!"# HELP {f.name} {f.help}" :: s!"# TYPE {f.name} counter" ::
      f.series.map fun (labels, value) =>
        f.name ++ "\x7b" ++ ",".intercalate (labels.map labelText) ++ "\x7d " ++ valueText value

def bridgeFamily (m : Metrics) (name help : String) (counter : BridgeCounter) : Family where
  name
  help
  series := m.bridges.entries.flatMap fun (bridge, directions) =>
    directions.entries.map fun (direction, counters) =>
      ([("bridge", bridge), ("direction", direction)], counters.get counter)

def adapterFamily (m : Metrics) (name help : String) (counter : AdapterCounter) : Family where
  name
  help
  series := m.adapters.entries.map fun (adapter, counters) =>
    ([("adapter", adapter)], counters.get counter)

def families (m : Metrics) : List Family :=
  [ m.adapterFamily "edgebridge_adapter_publish_failed_total"
      "Adapter values that could not be published" .publishFailed,
    m.adapterFamily "edgebridge_adapter_publish_success_total"
      "Adapter values published to the local broker" .publishSuccess,
    m.adapterFamily "edgebridge_adapter_subscription_keepalive_total"
      "Field-protocol subscription keep-alives observed" .keepAlives,
    m.adapterFamily "edgebridge_adapter_subscription_transfer_failed_total"
      "Field-protocol subscription transfers that failed" .transfersFailed,
    m.bridgeFamily "edgebridge_bridge_disconnected_drops_total"
      "Messages dropped because the destination was disconnected" .disconnectedDrops,
    m.bridgeFamily "edgebridge_bridge_excluded_total"
      "Messages skipped by an exclude filter" .excluded,
    m.bridgeFamily "edgebridge_bridge_forward_failed_total"
      "Messages a bridge forwarder failed to transform or publish" .forwardFailed,
    m.bridgeFamily "edgebridge_bridge_forward_success_total"
      "Messages successfully published by a bridge forwarder" .forwardSuccess,
    m.bridgeFamily "edgebridge_bridge_intercept_dropped_total"
      "Messages dropped by a bridge interceptor" .interceptDropped,
    m.bridgeFamily "edgebridge_bridge_loop_prevention_drops_total"
      "Messages dropped because the hop limit was reached" .loopPreventionDrops,
    m.bridgeFamily "edgebridge_bridge_messages_received_total"
      "Messages handed to a bridge forwarder" .received ]

def text (m : Metrics) : String :=
  String.join (m.families.flatMap fun f => f.lines.map (· ++ "\n"))

end EdgeGateway.Metrics

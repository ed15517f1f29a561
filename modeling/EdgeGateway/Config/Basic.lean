import EdgeGateway.Config.Bridge
import EdgeGateway.Config.Duration
import EdgeGateway.Json.Basic

/-!
# Gateway configuration

Logging, forwarding, bridges and adapter instances. `Config.validate` accepts a configuration whose
bridges and adapters are each well formed and have ids of their own.
-/

namespace EdgeGateway

structure AdapterConfig where
  type : String
  id : String
  config : Json := .object []

structure Config where
  logLevel : String := "info"
  /-- How long a stopped forwarder waits for its messages in flight. -/
  drainTimeout : Duration := { seconds := 5 }
  bridges : List BridgeConfig := []
  adapters : List AdapterConfig := []

namespace Config

inductive Fault where
  | duplicateBridge (id : String)
  | bridge (id : String) (fault : AdminFault)
  | adapterId (id : String)
  | duplicateAdapter (id : String)
  deriving DecidableEq, Repr

def Fault.message : Fault → String
  | .duplicateBridge id => s!"Duplicate bridge id '{id}'"
  | .bridge id fault => s!"Bridge '{id}': {fault.message}"
  | .adapterId id => s!"Adapter id '{id}' {idRule}"
  | .duplicateAdapter id => s!"Duplicate adapter id '{id}'"

def checkBridges (seen : List String) : List BridgeConfig → Except Fault Unit
  | [] => .ok ()
  | b :: rest =>
    if seen.contains b.id then .error (.duplicateBridge b.id)
    else match b.validate with
      | .error fault => .error (.bridge b.id fault)
      | .ok () => checkBridges (b.id :: seen) rest

def checkAdapters (seen : List String) : List AdapterConfig → Except Fault Unit
  | [] => .ok ()
  | a :: rest =>
    if !isValidId a.id then .error (.adapterId a.id)
    else if seen.contains a.id then .error (.duplicateAdapter a.id)
    else checkAdapters (a.id :: seen) rest

/-- Reports the first offending bridge or else the first offending adapter. -/
def validate (c : Config) : Except Fault Unit := do
  checkBridges [] c.bridges
  checkAdapters [] c.adapters

end Config
end EdgeGateway

import EdgeGateway.Adapter.Node
import EdgeGateway.Fault
import EdgeGateway.Json.Basic

/-!
# Scripted adapters

Adapters without a device, whose configuration says which of their operations fail and how.
-/

namespace EdgeGateway

structure ScriptedAdapter where
  id : String
  config : Json
  running : Bool := false

namespace ScriptedAdapter

def setting? (config : Json) (name : String) : Option String :=
  (config.member? name).bind Json.string?

def create (id : String) (config : Json) : Except AdapterFault ScriptedAdapter :=
  match setting? config "create_error" with
  | some text => .error (.config text)
  | none => .ok { id, config }

def tag (a : ScriptedAdapter) : String := (setting? a.config "tag").getD "-"

def start (a : ScriptedAdapter) : ScriptedAdapter × Except AdapterFault Unit :=
  match setting? a.config "start_error" with
  | some text => (a, .error (.connection text))
  | none => ({ a with running := true }, .ok ())

/-- Stops in any case, and may then complain. -/
def stop (a : ScriptedAdapter) : ScriptedAdapter × Except AdapterFault Unit :=
  ({ a with running := false },
    match setting? a.config "stop_error" with
    | some text => .error (.subscription text)
    | none => .ok ())

def discover (a : ScriptedAdapter) (input : DiscoveryInput) : Except AdapterFault NodeTree :=
  match setting? a.config "discover_error" with
  | some text => .error (.discovery text)
  | none =>
    .ok { nodeId := input.root.getD "", name := a.id,
          metadata := .ofList [("depth", toString input.depth)] }

def status (a : ScriptedAdapter) : ConnectionStatus := .ofBool a.running

end ScriptedAdapter
end EdgeGateway

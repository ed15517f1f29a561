import EdgeGateway.Fault

/-!
# Bridge configuration

A bridge links the local broker to one remote broker. Its local subscriptions select messages to
send out, its remote subscriptions messages to take in. `BridgeConfig.faults` lists everything in a
configuration that its author has to correct.
-/

namespace EdgeGateway

/-- Bridge and adapter ids consist of ASCII letters, digits, underscores and hyphens. -/
def isIdChar (c : Char) : Bool := c.isAlphanum || c = '_' || c = '-'

def isValidId (id : String) : Bool := !id.isEmpty && id.toList.all isIdChar

def idRule : String := "must be non-empty and contain only letters, digits, '_' or '-'"

def maxHopLimit : Nat := 100

structure BridgeSubscription where
  filters : List String
  destination : String := Topic.Template.passThrough
  excludes : List String := []
  customProperties : List (String × String) := []
  preserveRetain : Bool := false
  maxQos : Nat := 1
  deriving DecidableEq, Repr

structure TlsConfig where
  caCert : Option String := none
  clientCert : Option String := none
  clientKey : Option String := none
  insecure : Bool := false
  serverName : Option String := none
  deriving DecidableEq, Repr

structure BridgeConfig where
  id : String
  host : String
  port : Nat := 1883
  clientId : Option String := none
  /-- In seconds. -/
  keepAlive : Nat := 60
  /-- In seconds. -/
  sessionExpiry : Nat := 3600
  cleanStart : Bool := true
  username : Option String := none
  password : Option String := none
  loopPrevention : Bool := true
  hopLimit : Nat := 1
  localSubscriptions : List BridgeSubscription := []
  remoteSubscriptions : List BridgeSubscription := []
  tls : Option TlsConfig := none
  deriving DecidableEq, Repr

/-- The fault of each filter that is malformed, under the name of its list. -/
def filterFaults (listName : String) (filters : List String) : List FieldFault :=
  filters.zipIdx.filterMap fun (filter, i) =>
    match Topic.checkFilter filter with
    | .ok () => none
    | .error fault => some { field := s!"{listName}[{i}]", message := fault.message }

def faultIf (condition : Bool) (field message : String) : List FieldFault :=
  if condition then [{ field, message }] else []

/-- The faults of the subscription that is called `name` in messages. -/
def BridgeSubscription.faults (s : BridgeSubscription) (name : String) : List FieldFault :=
  faultIf s.filters.isEmpty s!"{name}.filters" "At least one topic filter is required" ++
    filterFaults s!"{name}.filters" s.filters ++
    filterFaults s!"{name}.excludes" s.excludes ++
    faultIf s.destination.isEmpty s!"{name}.destination" "Destination pattern cannot be empty" ++
    faultIf (2 < s.maxQos) s!"{name}.max_qos" "max_qos must be 0, 1, or 2"

def subscriptionFaults (listName : String) (subscriptions : List BridgeSubscription) :
    List FieldFault :=
  subscriptions.zipIdx.flatMap fun (s, i) => s.faults s!"{listName}[{i}]"

namespace BridgeConfig

def default : BridgeConfig := { id := "default", host := "localhost" }

def endpoint (c : BridgeConfig) : String := s!"{c.host}:{c.port}"

def effectiveClientId (c : BridgeConfig) : String := c.clientId.getD c.id

/-- One fault for each violated constraint, in the order of the fields. -/
def faults (c : BridgeConfig) : List FieldFault :=
  faultIf (!isValidId c.id) "id" s!"Bridge id {idRule}" ++
    faultIf c.host.isEmpty "host" "Host cannot be empty" ++
    faultIf (c.port = 0) "port" "Port must be between 1 and 65535" ++
    faultIf (maxHopLimit < c.hopLimit) "loop_prevention_hop_count"
      s!"Loop prevention hop count must be between 0 and {maxHopLimit}" ++
    subscriptionFaults "local_subscriptions" c.localSubscriptions ++
    subscriptionFaults "remote_subscriptions" c.remoteSubscriptions

def validate (c : BridgeConfig) : Except AdminFault Unit :=
  if c.faults.isEmpty then .ok () else .error (.validation c.faults)

end BridgeConfig
end EdgeGateway

import EdgeGateway.Topic.Template

/-!
# Faults

Administrative faults go to whoever manages bridges and adapters. Faults of a single message never
leave the forwarding and publishing machinery; they are counted.
-/

namespace EdgeGateway

structure FieldFault where
  field : String
  message : String
  deriving DecidableEq, Repr

def FieldFault.text (f : FieldFault) : String := s!"{f.field}: {f.message}"

inductive Subject where
  | bridge
  | adapter
  | adapterType
  deriving DecidableEq, Repr

def Subject.text : Subject → String
  | .bridge => "bridge"
  | .adapter => "adapter"
  | .adapterType => "adapter type"

inductive AdminFault where
  | validation (fields : List FieldFault)
  | notFound (subject : Subject) (id : String)
  | duplicateId (subject : Subject) (id : String)
  | unknownType (type : String)
  | typeAlreadyRegistered (type : String)
  | adapter (text : String)
  deriving DecidableEq, Repr

def AdminFault.message : AdminFault → String
  | .validation fields => "validation failed: " ++ "; ".intercalate (fields.map FieldFault.text)
  | .notFound subject id => s!"{subject.text} not found: {id}"
  | .duplicateId subject id => s!"{subject.text} id must be unique: {id}"
  | .unknownType type => s!"unknown adapter type: {type}"
  | .typeAlreadyRegistered type => s!"adapter type already registered: {type}"
  | .adapter text => s!"adapter error: {text}"

inductive TransformFault where
  | badTemplate (source : String) (fault : Topic.Template.ParseFault)
  | noExpansion (source : String) (fault : Topic.Template.ExpandFault)
  | qosCeiling (level : Nat)
  deriving DecidableEq, Repr

def TransformFault.message : TransformFault → String
  | .badTemplate source fault => s!"invalid topic pattern '{source}': {fault.message}"
  | .noExpansion source fault => fault.message source
  | .qosCeiling level => s!"invalid QoS ceiling {level}"

inductive PublishFault where
  | rejected (text : String)
  | connectionLost (text : String)
  | interceptor (text : String)
  | conversion (text : String)
  | aborted
  deriving DecidableEq, Repr

def PublishFault.message : PublishFault → String
  | .rejected text => s!"publish rejected: {text}"
  | .connectionLost text => s!"connection lost: {text}"
  | .interceptor text => s!"interceptor failed: {text}"
  | .conversion text => s!"payload conversion failed: {text}"
  | .aborted => "publish task aborted"

def invalidTopicText (topic : String) (fault : Topic.Fault) : String :=
  s!"invalid topic '{topic}': {fault.message}"

inductive AdapterFault where
  | config (text : String)
  | connection (text : String)
  | subscription (text : String)
  | discovery (text : String)
  deriving DecidableEq, Repr

def AdapterFault.message : AdapterFault → String
  | .config text => s!"Invalid configuration: {text}"
  | .connection text => s!"Connection failed: {text}"
  | .subscription text => s!"Subscription failed: {text}"
  | .discovery text => s!"Discovery failed: {text}"

inductive ConnectionStatus where
  | connected
  | disconnected
  deriving DecidableEq, Repr

def ConnectionStatus.ofBool (connected : Bool) : ConnectionStatus :=
  if connected then .connected else .disconnected

def ConnectionStatus.text : ConnectionStatus → String
  | .connected => "CONNECTED"
  | .disconnected => "DISCONNECTED"

end EdgeGateway

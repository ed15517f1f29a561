import EdgeGateway.Fault
import EdgeGateway.Json.Basic

/-!
# Fault documents

Faults as JSON: the kind of a fault and its message. An administrative fault also shows the
payload that goes to whoever asked for the operation.
-/

namespace EdgeGateway

def faultDocument (kind message : String) : Json :=
  .ofMembers [("error", .string kind), ("message", .string message)]

def Topic.Fault.kind : Topic.Fault → String
  | .empty => "Empty"
  | .tooLong => "TooLong"
  | .nullCharacter => "NullCharacter"
  | .wildcardInName => "WildcardInName"
  | .misplacedMultiWildcard => "MisplacedMultiWildcard"
  | .misplacedSingleWildcard => "MisplacedSingleWildcard"

def Topic.Fault.document (f : Topic.Fault) : Json := faultDocument f.kind f.message

/-- A template that yields a topic that may not be published has an invalid topic; all else is
wrong with its pattern. -/
def TransformFault.kind : TransformFault → String
  | .noExpansion _ (.invalid ..) => "InvalidTopic"
  | .badTemplate .. => "InvalidPattern"
  | .noExpansion .. => "InvalidPattern"
  | .qosCeiling _ => "InvalidQos"

def TransformFault.document (f : TransformFault) : Json := faultDocument f.kind f.message

def PublishFault.kind : PublishFault → String
  | .rejected _ => "Rejected"
  | .connectionLost _ => "ConnectionLost"
  | .interceptor _ => "Interceptor"
  | .conversion _ => "Conversion"
  | .aborted => "Aborted"

def PublishFault.document (f : PublishFault) : Json := faultDocument f.kind f.message

def AdapterFault.kind : AdapterFault → String
  | .config _ => "Config"
  | .connection _ => "Connection"
  | .subscription _ => "Subscription"
  | .discovery _ => "Discovery"

def AdapterFault.document (f : AdapterFault) : Json := faultDocument f.kind f.message

def AdminFault.kind : AdminFault → String
  | .validation _ => "Validation"
  | .notFound .. => "NotFound"
  | .duplicateId .. => "DuplicateId"
  | .unknownType _ => "UnknownType"
  | .typeAlreadyRegistered _ => "TypeAlreadyRegistered"
  | .adapter _ => "Adapter"

def FieldFault.document (f : FieldFault) : Json :=
  .ofMembers [("field", .string f.field), ("message", .string f.message)]

/-- The payload of a failed operation: one entry per field, or else the message alone. -/
def AdminFault.payload : AdminFault → Json
  | .validation fields => .ofMembers [("errors", .array (fields.map FieldFault.document))]
  | other => .ofMembers [("message", .string other.message)]

def AdminFault.document (f : AdminFault) : Json :=
  .ofMembers [("error", .string f.kind), ("message", .string f.message), ("payload", f.payload)]

end EdgeGateway

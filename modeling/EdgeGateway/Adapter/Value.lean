import EdgeGateway.Decode.Json
import EdgeGateway.Json.Printer

/-!
# Field values

What an adapter reads from a field device, and the payload it becomes: the bare value as text, or
a JSON object with the value and the time it was read. A null value has an empty payload.
-/

namespace EdgeGateway

/-- A value and, if the device gives it, its time in milliseconds. -/
structure FieldValue where
  value : Json
  timestamp : Option Nat := none

inductive PayloadMode where
  | text
  | json
  deriving DecidableEq, Repr, Inhabited

namespace PayloadMode

def plain : Json → String
  | .string s => s
  | v => v.text

def stamped (v : Json) (time : Nat) : String :=
  "\x7b\"value\":" ++ v.text ++ s!",\"timestamp\":{time}" ++ "\x7d"

/-- The payload of a value. A value without a time of its own was read now. -/
def encode (mode : PayloadMode) (now : Nat) (v : FieldValue) : ByteArray :=
  if v.value.isNull then .empty
  else match mode with
    | .text => (plain v.value).toUTF8
    | .json => (stamped v.value (v.timestamp.getD now)).toUTF8

open Decode in
def named (name : String) : Result PayloadMode :=
  match name with
  | "string" => .ok .text
  | "json" => .ok .json
  | other => .error { cause := .unknownVariant other ["string", "json"] }

open Decode in
/-- Reads the name of a mode, which may also be the only member of an object and then holds null. -/
def read : Json → Result PayloadMode
  | .string name => named name
  | .object [(name, content)] => do
    let mode ← named name
    if content.isNull then return mode else typeFault (describeJson content) "unit"
  | .object _ => .error { cause := .value "map" "map with a single key" }
  | v => typeFault (describeJson v) "string or map"

end PayloadMode
end EdgeGateway

import EdgeGateway.Decode.Basic

/-!
# Typed reading of JSON

Nothing is converted: an integer field takes integers in range and no whole doubles.
-/

namespace EdgeGateway.Decode

def describeNumber : Json.Number → String
  | .int i => describeInt i
  | .double d => s!"floating point `{d.jsonText}`"

def jsonShape : Json → Shape Json
  | .object members => .members members
  | .array items => .items items
  | .null => .scalar "null"
  | .bool b => .scalar (describeBool b)
  | .number n => .scalar (describeNumber n)
  | .string s => .scalar (describeText s)

def describeJson (v : Json) : String :=
  match jsonShape v with
  | .members _ => "map"
  | .items _ => "sequence"
  | .scalar description => description

def jsonWord (bits : Nat) : Json → Result Nat
  | .number (.int i) =>
    if 0 ≤ i ∧ i < pow2 bits then .ok i.toNat
    else .error { cause := .value (describeInt i) s!"u{bits}" }
  | v => typeFault (describeJson v) s!"u{bits}"

def json : Format Json where
  shape := jsonShape
  text v expected := match v with
    | .string s => .ok s
    | v => typeFault (describeJson v) expected
  flag
    | .bool b => .ok b
    | v => typeFault (describeJson v) "a boolean"
  word := jsonWord
  double
    | .number n => .ok n.toDouble
    | v => typeFault (describeJson v) "f64"
  isAbsent := Json.isNull
  opaqueValue v := v
  limitsItems := true

end EdgeGateway.Decode

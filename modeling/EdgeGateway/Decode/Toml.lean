import EdgeGateway.Decode.Basic
import EdgeGateway.Toml.Basic

/-!
# Typed reading of TOML

Nothing is converted. A point in time shows itself as a table with one reserved member.
-/

namespace EdgeGateway.Decode

/-- The reserved member under which a point in time shows its text. -/
def momentMember : String := "$__toml_private_datetime"

def describeDouble (d : Double) : String := s!"floating point `{d.quotedText}`"

def tomlShape : Toml → Shape Toml
  | .table members => .members members
  | .array items => .items items
  | .moment text => .members [(momentMember, .string text)]
  | .string s => .scalar (describeText s)
  | .integer i => .scalar (describeInt i)
  | .float d => .scalar (describeDouble d)
  | .boolean b => .scalar (describeBool b)

def describeToml (v : Toml) : String :=
  match tomlShape v with
  | .members _ => "map"
  | .items _ => "sequence"
  | .scalar description => description

/-- A double as a JSON value, which has no infinities. -/
def finiteNumber (d : Double) : Json := if d.isFinite then .number (.double d) else .null

mutual

def tomlJson : Toml → Json
  | .string s => .string s
  | .integer i => .number (.int i)
  | .float d => finiteNumber d
  | .boolean b => .bool b
  | .moment text => .object [(momentMember, .string text)]
  | .array items => .array (tomlJsonItems items)
  | .table members => .ofMembers (tomlJsonMembers members)

def tomlJsonItems : List Toml → List Json
  | [] => []
  | v :: rest => tomlJson v :: tomlJsonItems rest

def tomlJsonMembers : List (String × Toml) → List (String × Json)
  | [] => []
  | (name, v) :: rest => (name, tomlJson v) :: tomlJsonMembers rest

end

def toml : Format Toml where
  shape := tomlShape
  text v expected := match v with
    | .string s => .ok s
    | v => typeFault (describeToml v) expected
  flag
    | .boolean b => .ok b
    | v => typeFault (describeToml v) "a boolean"
  word bits v := match v with
    | .integer i =>
      if 0 ≤ i ∧ i < pow2 bits then .ok i.toNat
      else .error { cause := .value (describeInt i) s!"u{bits}" }
    | v => typeFault (describeToml v) s!"u{bits}"
  double
    | .float d => .ok d
    | .integer i => .ok (.ofInt i)
    | v => typeFault (describeToml v) "f64"
  isAbsent _ := false
  opaqueValue := tomlJson
  limitsItems := false

end EdgeGateway.Decode

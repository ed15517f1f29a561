import EdgeGateway.Decode.Toml
import EdgeGateway.Double.Parse
import EdgeGateway.Settings.Basic
import EdgeGateway.Text.Lowercase

/-!
# Typed reading of settings

Scalars are converted to the type that is expected, as far as they make sense as such: a number is
a text, a text may be a number, and `yes` is true.
-/

namespace EdgeGateway.Decode

def scalarText : Scalar → String
  | .unset => "unit value"
  | .boolean b => describeBool b
  | .integer i => describeInt i
  | .float d => describeDouble d
  | .text s => describeText s

def settingShape : Setting → Shape Setting
  | .table members => .members members
  | .list items => .items items
  | .scalar _ s => .scalar (scalarText s)

def layerText : Layer → Option String
  | .document => none
  | .environment => some "the environment"

def notKept {α : Type} (s : Setting) (expected : String) : Result α :=
  .error { cause := match s with
    | .scalar layer value => .notKept (scalarText value) expected (layerText layer)
    | .list _ => .notKept "sequence" expected none
    | .table _ => .notKept "map" expected none }

def settingText (s : Setting) : Result String :=
  match s with
  | .scalar _ (.text t) => .ok t
  | .scalar _ (.boolean b) => .ok (toString b)
  | .scalar _ (.integer i) => .ok (toString i)
  | .scalar _ (.float d) => .ok d.plainText
  | _ => notKept s "a string"

def switch? (word : String) : Option Bool :=
  match word with
  | "true" | "on" | "yes" => some true
  | "false" | "off" | "no" => some false
  | _ => none

def settingFlag (s : Setting) : Result Bool :=
  match s with
  | .scalar _ (.boolean b) => .ok b
  | .scalar _ (.integer i) => .ok (i ≠ 0)
  | .scalar _ (.float d) => .ok (!d.same (.ofInt 0))
  | .scalar layer (.text t) =>
    let word := Text.lowercase t
    match word with
    | "1" => .ok true
    | "0" => .ok false
    | _ =>
      match switch? word with
      | some b => .ok b
      | none => notKept (.scalar layer (.text word)) "a boolean"
  | _ => notKept s "a boolean"

def saturate (d : Double) : Nat :=
  match d with
  | .nan => 0
  | .infinite negative => if negative then 0 else pow2 64 - 1
  | d => min d.round.toNat (pow2 64 - 1)

def settingNumber (s : Setting) : Result Nat :=
  match s with
  | .scalar layer (.integer i) =>
    if 0 ≤ i then .ok i.toNat
    else .error { cause := .notKept s!"64-bit integer `{i}`"
                    "an unsigned 64 bit or less integer" (layerText layer) }
  | .scalar _ (.boolean b) => .ok b.toNat
  | .scalar _ (.float d) => .ok (saturate d)
  | .scalar _ (.text t) =>
    match switch? (Text.lowercase t) with
    | some b => .ok b.toNat
    | none =>
      match Text.numberBelow? (pow2 64) t.toList with
      | some n => .ok n
      | none => notKept s "an integer"
  | _ => notKept s "an integer"

def settingWord (bits : Nat) (s : Setting) : Result Nat := do
  let n ← settingNumber s
  if n < pow2 bits then return n
  else
    .error { cause := .notKept s!"64-bit unsigned integer `{n}`"
               s!"an unsigned {bits} bit integer" none }

def settingDouble (s : Setting) : Result Double :=
  match s with
  | .scalar _ (.float d) => .ok d
  | .scalar _ (.integer i) => .ok (.ofInt i)
  | .scalar _ (.boolean b) => .ok (.ofInt (if b then 1 else 0))
  | .scalar _ (.text t) =>
    match switch? (Text.lowercase t) with
    | some b => .ok (.ofInt (if b then 1 else 0))
    | none =>
      match Double.parse? t with
      | some d => .ok d
      | none => notKept s "a floating point"
  | _ => notKept s "a floating point"

mutual

def settingJson : Setting → Json
  | .scalar _ .unset => .null
  | .scalar _ (.boolean b) => .bool b
  | .scalar _ (.integer i) => .number (.int i)
  | .scalar _ (.float d) => finiteNumber d
  | .scalar _ (.text t) => .string t
  | .list items => .array (settingJsonItems items)
  | .table members => .ofMembers (settingJsonMembers members)

def settingJsonItems : List Setting → List Json
  | [] => []
  | s :: rest => settingJson s :: settingJsonItems rest

def settingJsonMembers : List (String × Setting) → List (String × Json)
  | [] => []
  | (name, s) :: rest => (name, settingJson s) :: settingJsonMembers rest

end

def settings : Format Setting where
  shape := settingShape
  text s _ := settingText s
  flag := settingFlag
  word := settingWord
  double := settingDouble
  isAbsent
    | .scalar _ .unset => true
    | _ => false
  opaqueValue := settingJson
  limitsItems := false

/-- A path as messages show it: a dot before each name but the first and those behind an index. -/
def pathText : List Step → String
  | [] => ""
  | .item index :: rest => s!"[{index}]" ++ pathText rest
  | [.field name] => name
  | .field name :: .item index :: rest => name ++ s!"[{index}]" ++ pathText rest
  | .field name :: rest => name ++ "." ++ pathText rest

def Fault.placedMessage (f : Fault) : String :=
  match f.cause with
  | .missing name =>
    s!"missing configuration field {Text.quoted (pathText (f.path ++ [.field name]))}"
  | cause =>
    let place := if f.path.isEmpty then "" else s!" for key `{pathText f.path}`"
    let layer := match cause with
      | .notKept _ _ (some layer) => s!" in {layer}"
      | _ => ""
    cause.message ++ place ++ layer

end EdgeGateway.Decode

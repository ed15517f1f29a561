import EdgeGateway.Fault
import EdgeGateway.Json.Printer
import EdgeGateway.Pattern.Parser

/-!
# Configuration schemas

A schema is a JSON value that restricts the configurations of an adapter type. `Schema.check` lists
every violation: at each position the type first, and the other keywords only where the type holds.
Keywords that are unknown or malformed restrict nothing.
-/

namespace EdgeGateway.Schema

inductive Step where
  | member (name : String)
  | item (index : Nat)
  deriving DecidableEq, Repr

abbrev Path := List Step

def Step.text : Step → String
  | .member name => s!".{name}"
  | .item index => s!"[{index}]"

def pathText (path : Path) : String := "$" ++ String.join (path.map Step.text)

inductive Mismatch where
  | type (found : String) (expected : List String)
  | enumeration (allowed : List Json)
  | required (name : String)
  | additional (name : String)
  | minItems (bound : Nat)
  | maxItems (bound : Nat)
  | minimum (bound : Double)
  | maximum (bound : Double)
  | minLength (bound : Nat)
  | maxLength (bound : Nat)
  | pattern (source : String)

structure Violation where
  path : Path
  mismatch : Mismatch

namespace Mismatch

def keyword : Mismatch → String
  | .type .. => "type"
  | .enumeration _ => "enum"
  | .required _ => "required"
  | .additional _ => "additionalProperties"
  | .minItems _ => "minItems"
  | .maxItems _ => "maxItems"
  | .minimum _ => "minimum"
  | .maximum _ => "maximum"
  | .minLength _ => "minLength"
  | .maxLength _ => "maxLength"
  | .pattern _ => "pattern"

def args : Mismatch → List String
  | .type found expected => [found, ", ".intercalate expected]
  | .enumeration allowed => [", ".intercalate (allowed.map Json.text)]
  | .required name | .additional name => [name]
  | .minItems bound | .maxItems bound | .minLength bound | .maxLength bound => [toString bound]
  | .minimum bound | .maximum bound => [bound.plainText]
  | .pattern source => [source]

def text : Mismatch → String
  | .type found expected => found ++ " found, " ++ ", ".intercalate expected ++ " expected"
  | .enumeration allowed =>
    "does not have a value in the enumeration [" ++ ", ".intercalate (allowed.map Json.text) ++ "]"
  | .required _ => "is missing but it is required"
  | .additional _ =>
    "is not defined in the schema and the schema does not allow additional properties"
  | .minItems bound => s!"there must be a minimum of {bound} items in the array"
  | .maxItems bound => s!"there must be a maximum of {bound} items in the array"
  | .minimum bound => s!"must have a minimum value of {bound.plainText}"
  | .maximum bound => s!"must have a maximum value of {bound.plainText}"
  | .minLength bound => s!"must be at least {bound} characters long"
  | .maxLength bound => s!"may only be {bound} characters long"
  | .pattern source => s!"does not match the regex pattern {source}"

end Mismatch

def Violation.message (v : Violation) : String := s!"{pathText v.path}: {v.mismatch.text}"

def Violation.fault (v : Violation) : FieldFault where
  field := pathText v.path
  message := s!"{v.message}, args=[" ++ ", ".intercalate v.mismatch.args ++
    s!"], type={v.mismatch.keyword}"

def typeName : Json → String
  | .null => "null"
  | .bool _ => "boolean"
  | .number (.int _) => "integer"
  | .number (.double _) => "number"
  | .string _ => "string"
  | .array _ => "array"
  | .object _ => "object"

/-- Every number is a `number`, and a whole double is an `integer` too. -/
def hasType (value : Json) (type : String) : Bool :=
  match type, value with
  | "number", .number _ => true
  | "number", _ => false
  | "integer", .number (.int _) => true
  | "integer", .number (.double d) => d.isWhole
  | "integer", _ => false
  | type, value => typeName value = type

/-- The types a schema allows; none means any. -/
def allowedTypes (schema : List (String × Json)) : List String :=
  match Json.lookup "type" schema with
  | some (.string type) => [type]
  | some (.array types) => types.filterMap Json.string?
  | _ => []

def enumFaults (value : Json) (schema : List (String × Json)) : List Mismatch :=
  match (Json.lookup "enum" schema).bind Json.array? with
  | some allowed => if allowed.any fun a => a.same value then [] else [.enumeration allowed]
  | none => []

def wordAt? (keyword : String) (schema : List (String × Json)) : Option Nat :=
  match Json.lookup keyword schema with
  | some (.number n) => n.word?
  | _ => none

def doubleAt? (keyword : String) (schema : List (String × Json)) : Option Double :=
  match Json.lookup keyword schema with
  | some (.number n) => some n.toDouble
  | _ => none

def boundFault {α : Type} (bound : Option α) (exceeded : α → Bool) (fault : α → Mismatch) :
    List Mismatch :=
  match bound with
  | some b => if exceeded b then [fault b] else []
  | none => []

/-- Bounds are compared as doubles. -/
def numberFaults (n : Json.Number) (schema : List (String × Json)) : List Mismatch :=
  boundFault (doubleAt? "minimum" schema) (fun b => n.toDouble.lt b) .minimum ++
    boundFault (doubleAt? "maximum" schema) (fun b => b.lt n.toDouble) .maximum

/-- A malformed pattern matches every text. -/
def matchesPattern (source text : String) : Bool := (Pattern.search? source text).getD true

/-- Lengths count characters. -/
def stringFaults (s : String) (schema : List (String × Json)) : List Mismatch :=
  boundFault (wordAt? "minLength" schema) (fun b => s.length < b) .minLength ++
    boundFault (wordAt? "maxLength" schema) (fun b => b < s.length) .maxLength ++
    boundFault ((Json.lookup "pattern" schema).bind Json.string?) (fun p => !matchesPattern p s)
      .pattern

def sizeFaults (size : Nat) (schema : List (String × Json)) : List Mismatch :=
  boundFault (wordAt? "minItems" schema) (fun b => size < b) .minItems ++
    boundFault (wordAt? "maxItems" schema) (fun b => b < size) .maxItems

def missingNames (members schema : List (String × Json)) : List String :=
  (((Json.lookup "required" schema).bind Json.array?).getD []).filterMap Json.string?
    |>.filter fun name => !members.any (·.1 = name)

def isClosed (schema : List (String × Json)) : Bool :=
  match Json.lookup "additionalProperties" schema with
  | some (.bool false) => true
  | _ => false

def property? (name : String) (schema : List (String × Json)) : Option Json :=
  ((Json.lookup "properties" schema).bind Json.object?).bind (Json.lookup name)

mutual

def checkAt (path : Path) : Json → Json → List Violation
  | value, .object schema =>
    let types := allowedTypes schema
    if !types.isEmpty && !types.any (hasType value) then
      [⟨path, .type (typeName value) types⟩]
    else
      let here := enumFaults value schema
      let faults := match value with
        | .number n => numberFaults n schema
        | .string s => stringFaults s schema
        | .array items => sizeFaults items.length schema
        | _ => []
      let missing := match value with
        | .object members => (missingNames members schema).map fun name =>
          (⟨path ++ [.member name], .required name⟩ : Violation)
        | _ => []
      let below := match value with
        | .object members => checkMembers path schema members
        | .array items =>
          match Json.lookup "items" schema with
          | some itemSchema => checkItems path itemSchema 0 items
          | none => []
        | _ => []
      (here ++ faults).map (⟨path, ·⟩) ++ missing ++ below
  | _, _ => []

def checkMembers (path : Path) (schema : List (String × Json)) :
    List (String × Json) → List Violation
  | [] => []
  | (name, value) :: rest =>
    let here := match property? name schema with
      | some declared => checkAt (path ++ [.member name]) value declared
      | none =>
        if isClosed schema then [⟨path ++ [.member name], .additional name⟩] else []
    here ++ checkMembers path schema rest

def checkItems (path : Path) (schema : Json) (index : Nat) : List Json → List Violation
  | [] => []
  | item :: rest =>
    checkAt (path ++ [.item index]) item schema ++ checkItems path schema (index + 1) rest

end

def check (config schema : Json) : List Violation := checkAt [] config schema

end EdgeGateway.Schema

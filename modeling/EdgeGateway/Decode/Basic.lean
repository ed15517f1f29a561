import EdgeGateway.Double.Text
import EdgeGateway.Json.Basic
import EdgeGateway.Text.Quoted

/-!
# Typed reading of documents

A `Format` says how the values of a document format show themselves to a reader that expects a
type. Records are read member by member in the order of the document, so of several faults the one
that stands first is reported, and members that are missing come last.
-/

namespace EdgeGateway.Decode

inductive Step where
  | field (name : String)
  | item (index : Nat)
  deriving DecidableEq, Repr

/-- Why a value is not of the expected type. The texts are those of the message. -/
inductive Cause where
  | type (found expected : String)
  | value (found expected : String)
  | length (length : Nat) (expected : String)
  | missing (name : String)
  | unknownVariant (found : String) (known : List String)
  | notKept (found expected : String) (origin : Option String)
  deriving DecidableEq, Repr

structure Fault where
  path : List Step := []
  cause : Cause
  deriving DecidableEq, Repr

def Fault.under (step : Step) (f : Fault) : Fault := { f with path := step :: f.path }

def Cause.message : Cause → String
  | .type found expected | .notKept found expected _ =>
    s!"invalid type: {found}, expected {expected}"
  | .value found expected => s!"invalid value: {found}, expected {expected}"
  | .length n expected => s!"invalid length {n}, expected {expected}"
  | .missing name => s!"missing field `{name}`"
  | .unknownVariant found known =>
    s!"unknown variant `{found}`, expected " ++ " or ".intercalate (known.map fun k => s!"`{k}`")

def Fault.message (f : Fault) : String := f.cause.message

abbrev Result (α : Type) := Except Fault α

def typeFault {α : Type} (found expected : String) : Result α :=
  .error { cause := .type found expected }

inductive Shape (ν : Type) where
  | members (members : List (String × ν))
  | items (items : List ν)
  | scalar (description : String)

structure Format (ν : Type) where
  shape : ν → Shape ν
  /-- A text, in a place where a message would call it by the second argument. -/
  text : ν → String → Result String
  flag : ν → Result Bool
  word : Nat → ν → Result Nat
  double : ν → Result Double
  isAbsent : ν → Bool
  /-- The value as it is, for readers that know its type only later. -/
  opaqueValue : ν → Json
  /-- Whether a list in place of a record may not be longer than the record. -/
  limitsItems : Bool

def describeText (s : String) : String := s!"string {Text.quoted s}"

def describeInt (i : Int) : String := s!"integer `{i}`"

def describeBool (b : Bool) : String := s!"boolean `{b}`"

/-- Parts of a record, with the rank of a fault: its place in the document. -/
abbrev Part (α : Type) := Except (Nat × Fault) α

def Part.of {α : Type} (a : α) : Part α := .ok a

/-- Combines two parts; of two faults the earlier one in the document counts. -/
def Part.ap {α β : Type} (f : Part (α → β)) (a : Part α) : Part β :=
  match f, a with
  | .ok f, .ok a => .ok (f a)
  | .error e, .ok _ => .error e
  | .ok _, .error e => .error e
  | .error e, .error e' => .error (if e'.1 < e.1 then e' else e)

inductive Absent (α : Type) where
  | refused
  /-- A named member may be left out, but a listed one may not. -/
  | named (value : α)
  | anywhere (value : α)

structure Record (ν : Type) where
  name : String
  size : Nat
  content : List (String × ν) ⊕ List ν

namespace Format

variable {ν α : Type}

def describe (f : Format ν) (v : ν) : String :=
  match f.shape v with
  | .members _ => "map"
  | .items _ => "sequence"
  | .scalar description => description

def string (f : Format ν) (v : ν) : Result String := f.text v "a string"

def optional (f : Format ν) (read : ν → Result α) (v : ν) : Result (Option α) :=
  if f.isAbsent v then .ok none else (read v).map some

def readItems (read : ν → Result α) (index : Nat) : List ν → Result (List α)
  | [] => .ok []
  | v :: rest => do
    let a ← (read v).mapError (·.under (.item index))
    let as ← readItems read (index + 1) rest
    return a :: as

def list (f : Format ν) (read : ν → Result α) (v : ν) : Result (List α) :=
  match f.shape v with
  | .items items => readItems read 0 items
  | _ => typeFault (f.describe v) "a sequence"

end Format

def Record.field {ν α : Type} (r : Record ν) (index : Nat) (name : String)
    (read : ν → Result α) (absent : Absent α) : Part α :=
  match r.content with
  | .inl members =>
    match members.zipIdx.find? (·.1.1 = name) with
    | some ((_, v), place) => (read v).mapError fun e => (place, e.under (.field name))
    | none =>
      match absent with
      | .refused => .error (members.length + index, { cause := .missing name })
      | .named value | .anywhere value => .ok value
  | .inr items =>
    match items[index]? with
    | some v => (read v).mapError fun e => (index, e.under (.item index))
    | none =>
      match absent with
      | .anywhere value => .ok value
      | _ =>
        .error (index, { cause := .length index s!"struct {r.name} with {r.size} elements" })

/-- Reads a record that is written as members or as a list in the order of its fields. -/
def Format.record {ν α : Type} (f : Format ν) (name : String) (size : Nat)
    (read : Record ν → Part α) (v : ν) : Result α :=
  match f.shape v with
  | .members members => (read { name, size, content := .inl members }).mapError (·.2)
  | .items items =>
    match read { name, size, content := .inr items } with
    | .error e => .error e.2
    | .ok a =>
      if f.limitsItems && size < items.length then
        .error { cause := .length items.length "fewer elements in array" }
      else .ok a
  | .scalar description => typeFault description s!"struct {name}"

end EdgeGateway.Decode

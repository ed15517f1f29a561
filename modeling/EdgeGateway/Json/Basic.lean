import EdgeGateway.Double.Basic
import EdgeGateway.Table

/-!
# JSON values

Integers and doubles are different numbers: `1` and `1.0` are not the same value. The members of
an object are in ascending order of their names.
-/

namespace EdgeGateway

inductive Json.Number where
  | int (value : Int)
  | double (value : Double)
  deriving DecidableEq, Repr, Inhabited

inductive Json where
  | null
  | bool (value : Bool)
  | number (value : Json.Number)
  | string (value : String)
  | array (items : List Json)
  | object (members : List (String × Json))
  deriving Inhabited, Repr

namespace Json

/-- Integers from `-2 ^ 63` to `2 ^ 64 - 1` are kept exactly. -/
def Number.isExactInteger (i : Int) : Bool := -(pow2 63 : Int) ≤ i && i < pow2 64

def Number.toDouble : Number → Double
  | .int i => .ofInt i
  | .double d => d

def Number.word? : Number → Option Nat
  | .int i => if 0 ≤ i ∧ i < pow2 64 then some i.toNat else none
  | .double _ => none

def ofInt (i : Int) : Json := .number (.int i)

def ofNat (n : Nat) : Json := .number (.int n)

/-- An object of the given members; of two with one name the later counts. -/
def ofMembers (members : List (String × Json)) : Json := .object (Table.ofList members).entries

def ofOption {α : Type} (f : α → Json) : Option α → Json
  | some a => f a
  | none => .null

def ofStrings (ss : List String) : Json := .array (ss.map .string)

def ofPairs (ps : List (String × String)) : Json :=
  .array (ps.map fun (a, b) => .array [.string a, .string b])

def ofTable (t : Table Json) : Json := .object t.entries

def isNull : Json → Bool
  | .null => true
  | _ => false

def string? : Json → Option String
  | .string s => some s
  | _ => none

def array? : Json → Option (List Json)
  | .array items => some items
  | _ => none

def object? : Json → Option (List (String × Json))
  | .object members => some members
  | _ => none

def lookup (name : String) (members : List (String × Json)) : Option Json :=
  (members.find? (·.1 = name)).map (·.2)

def member? (name : String) : Json → Option Json
  | .object members => lookup name members
  | _ => none

mutual

/-- Equality of values; zeros of either sign are equal doubles. -/
def same : Json → Json → Bool
  | .null, .null => true
  | .bool a, .bool b => a = b
  | .number (.int a), .number (.int b) => a = b
  | .number (.double a), .number (.double b) => a.same b
  | .string a, .string b => a = b
  | .array as, .array bs => sameItems as bs
  | .object as, .object bs => sameMembers as bs
  | _, _ => false

def sameItems : List Json → List Json → Bool
  | [], [] => true
  | a :: as, b :: bs => same a b && sameItems as bs
  | _, _ => false

def sameMembers : List (String × Json) → List (String × Json) → Bool
  | [], [] => true
  | (k, a) :: as, (l, b) :: bs => k = l && same a b && sameMembers as bs
  | _, _ => false

end

end Json
end EdgeGateway

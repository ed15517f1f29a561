import EdgeGateway.Text.Numeral
import EdgeGateway.Toml.Basic

/-!
# Numbers

Integers of 64 bits in four bases and doubles. Underscores may stand between two digits, and a
decimal number has no zero in front.
-/

namespace EdgeGateway.Toml

/-- The digits of a run in which single underscores may stand between digits. -/
def digitRun? (isDigit : Char → Bool) : List Char → Option (List Char)
  | [] => none
  | [c] => if isDigit c then some [c] else none
  | c :: '_' :: rest => if isDigit c then (digitRun? isDigit rest).map (c :: ·) else none
  | c :: rest => if isDigit c then (digitRun? isDigit rest).map (c :: ·) else none

def decimal? (cs : List Char) : Option (List Char) := do
  let digits ← digitRun? Char.isDigit cs
  if digits.length > 1 ∧ digits.head? = some '0' then none else return digits

def sign : List Char → Bool × List Char
  | '-' :: rest => (true, rest)
  | '+' :: rest => (false, rest)
  | rest => (false, rest)

def inBase (base : Nat) (digits : List Char) : Nat :=
  digits.foldl (fun n c => n * base + (Text.hexValue? c).getD 0) 0

def isDigitOf (base : Nat) (c : Char) : Bool :=
  match Text.hexValue? c with
  | some n => n < base
  | none => false

/-- The magnitude of an integer, and whether it is negative. -/
def magnitude? (cs : List Char) : Option (Bool × Nat) :=
  let based (base : Nat) (rest : List Char) :=
    (digitRun? (isDigitOf base) rest).map fun digits => (false, inBase base digits)
  match cs with
  | '0' :: 'x' :: rest => based 16 rest
  | '0' :: 'o' :: rest => based 8 rest
  | '0' :: 'b' :: rest => based 2 rest
  | cs =>
    let (negative, rest) := sign cs
    (decimal? rest).map fun digits => (negative, Text.decimalValue digits)

def integer? (cs : List Char) : Option Int := do
  let (negative, n) ← magnitude? cs
  let i : Int := if negative then -n else n
  if -(pow2 63 : Int) ≤ i ∧ i < pow2 63 then return i else none

def exponent? (cs : List Char) : Option Int := do
  let (negative, rest) := sign cs
  let digits ← digitRun? Char.isDigit rest
  let n : Int := Text.decimalValue digits
  return if negative then -n else n

def isExponentMark (c : Char) : Bool := c = 'e' || c = 'E'

def decimalFloat? (cs : List Char) : Option Double := do
  let (negative, rest) := sign cs
  let mantissa := rest.takeWhile (!isExponentMark ·)
  let exponent ← match rest.dropWhile (!isExponentMark ·) with
    | [] => some none
    | _ :: digits => (exponent? digits).map some
  let whole ← decimal? (mantissa.takeWhile (· ≠ '.'))
  let fraction ← match mantissa.dropWhile (· ≠ '.') with
    | [] => if exponent.isNone then none else some []
    | _ :: digits => digitRun? Char.isDigit digits
  return .ofDecimal negative (Text.decimalValue (whole ++ fraction))
    (exponent.getD 0 - fraction.length)

/-- A double written as a decimal or by name. A decimal out of range is refused. -/
def float? (d : Dialect) (cs : List Char) : Option Double :=
  let (negative, rest) := sign cs
  if rest = "inf".toList then some (.infinite negative)
  else if rest = "nan".toList then some .nan
  else match decimalFloat? cs with
    | some (.infinite below) =>
      if below && d.admitsNegativeOverflow then some (.infinite true) else none
    | other => other

end EdgeGateway.Toml

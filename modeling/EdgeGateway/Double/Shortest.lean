import EdgeGateway.Double.Basic

/-!
# Shortest digits

The fewest decimal digits that read back as a given double, and of those the digits nearest to it.
A grid of decimals meets the interval of reals that round to the double only if one of the two grid
points beside the double does, so two candidates are tried for each number of digits.
-/

namespace EdgeGateway.Double

structure Decimal where
  digits : Nat
  power : Int
  deriving DecidableEq, Repr

namespace Decimal

def strip (digits : Nat) (power : Int) : Nat → Decimal
  | 0 => ⟨digits, power⟩
  | fuel + 1 =>
    if digits ≠ 0 ∧ digits % 10 = 0 then strip (digits / 10) (power + 1) fuel else ⟨digits, power⟩

end Decimal

/-- The reals that round to a positive double, in quarters of its last binary place, as
numerators over one denominator. -/
structure Rounding where
  low : Nat
  value : Nat
  high : Nat
  den : Nat
  closed : Bool

/-- Half a place lies on each side, a quarter below a power of two that starts a binade. -/
def rounding (significand : Nat) (exponent : Int) : Rounding :=
  let below := if significand = pow2 52 ∧ minExponent < exponent then 1 else 2
  let (unit, den) := if 2 ≤ exponent then (pow2 (exponent - 2).toNat, 1)
    else (1, pow2 (2 - exponent).toNat)
  { low := (4 * significand - below) * unit
    value := 4 * significand * unit
    high := (4 * significand + 2) * unit
    den
    closed := significand % 2 = 0 }

def Rounding.holds (r : Rounding) (digits : Nat) (power : Int) : Bool :=
  let (n, d) := if 0 ≤ power then (digits * pow10 power.toNat * r.den, 1)
    else (digits * r.den, pow10 (-power).toNat)
  if r.closed then r.low * d ≤ n && n ≤ r.high * d else r.low * d < n && n < r.high * d

/-- The power of ten at or below `num / den`. -/
def powerBelow (num den : Nat) : Int :=
  if den ≤ num then (Nat.toDigits 10 (num / den)).length - 1
  else
    let j := (Nat.toDigits 10 (den / num)).length
    if den ≤ num * pow10 (j - 1) then -((j : Int) - 1) else -(j : Int)

/-- The nearest decimal with digits at `power` and above, if one rounds to the double. -/
def Rounding.onGrid (r : Rounding) (power : Int) : Option Nat :=
  let (n, d) := if 0 ≤ power then (r.value, r.den * pow10 power.toNat)
    else (r.value * pow10 (-power).toNat, r.den)
  let under := n / d
  let twice := 2 * (n % d)
  let nearest := if twice < d then under else if d < twice then under + 1 else under + under % 2
  let other := if nearest = under then under + 1 else under
  if r.holds nearest power then some nearest
  else if r.holds other power then some other
  else none

/-- Tries ever finer grids, down to the seventeenth digit. -/
def Rounding.search (r : Rounding) (power : Int) : Nat → Decimal
  | 0 => ⟨0, 0⟩
  | fuel + 1 =>
    match r.onGrid power with
    | some digits => Decimal.strip digits power 20
    | none => r.search (power - 1) fuel

/-- The shortest decimal that reads back as the finite double `significand * 2 ^ exponent`. -/
def shortest (significand : Nat) (exponent : Int) : Decimal :=
  if significand = 0 then ⟨0, 0⟩
  else
    let r := rounding significand exponent
    r.search (powerBelow r.value r.den) 17

end EdgeGateway.Double

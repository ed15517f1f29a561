import EdgeGateway.Power

/-!
# Binary64 numbers

A `Double` is sign, significand and power of two, so that a fact about it is a fact about `Nat`
and `Int`. `ofRatio` rounds a quotient to the nearest double, ties to the even significand.
-/

namespace EdgeGateway

/-- A binary64 number. A finite one is `±significand * 2 ^ exponent`. -/
inductive Double where
  | finite (negative : Bool) (significand : Nat) (exponent : Int)
  | infinite (negative : Bool)
  | nan
  deriving DecidableEq, Repr, Inhabited

namespace Double

/-- Exponent of the subnormal numbers, the least there is. -/
def minExponent : Int := -1074

/-- Exponent of the largest finite numbers. -/
def maxExponent : Int := 971

/-- Significands are below this bound; the normal ones are at least half of it. -/
def significandBound : Nat := pow2 53

def zero : Double := .finite false 0 minExponent

/-- The integer nearest to `num / den`, a half going to the even neighbour. -/
def roundHalfEven (num den : Nat) : Nat :=
  let q := num / den
  let twice := 2 * (num % den)
  if twice < den then q else if den < twice then q + 1 else q + q % 2

def scale (num den : Nat) (exponent : Int) : Nat × Nat :=
  if 0 ≤ exponent then (num, den * pow2 exponent.toNat) else (num * pow2 (-exponent).toNat, den)

/-- The exponent at which `num / den` has a significand of 53 bits, or the least exponent. -/
def exponentFor (num den : Nat) : Int :=
  let guess : Int := (num.log2 : Int) - den.log2 - 52
  let (n, d) := scale num den guess
  max minExponent (if n < pow2 52 * d then guess - 1 else guess)

/-- The double nearest to `num / den`, a tie going to the even significand. -/
def ofRatio (negative : Bool) (num den : Nat) : Double :=
  if num = 0 then .finite negative 0 minExponent
  else
    let exponent := exponentFor num den
    let (n, d) := scale num den exponent
    let rounded := roundHalfEven n d
    let (significand, exponent) :=
      if rounded = significandBound then (pow2 52, exponent + 1) else (rounded, exponent)
    if maxExponent < exponent then .infinite negative else .finite negative significand exponent

def ofInt (i : Int) : Double := ofRatio (i < 0) i.natAbs 1

/-- The double nearest to `±digits * 10 ^ power`. Powers far outside the range of doubles are
answered without building the number. -/
def ofDecimal (negative : Bool) (digits : Nat) (power : Int) : Double :=
  let magnitude := (Nat.toDigits 10 digits).length + power
  if digits = 0 || magnitude ≤ -324 then .finite negative 0 minExponent
  else if 310 ≤ magnitude then .infinite negative
  else if 0 ≤ power then ofRatio negative (digits * pow10 power.toNat) 1
  else ofRatio negative digits (pow10 (-power).toNat)

def isFinite : Double → Bool
  | .finite .. => true
  | _ => false

def units : Double → Int
  | .finite negative significand exponent =>
    let n : Int := significand * pow2 (exponent - minExponent).toNat
    if negative then -n else n
  | _ => 0

/-- Numerical order: false as soon as one side is not a number. -/
def lt : Double → Double → Bool
  | .nan, _ => false
  | _, .nan => false
  | .infinite a, .infinite b => a && !b
  | .infinite a, _ => a
  | _, .infinite b => !b
  | a, b => a.units < b.units

/-- Numerical equality: the zeros are equal and `nan` differs from itself. -/
def same : Double → Double → Bool
  | .nan, _ => false
  | _, .nan => false
  | .infinite a, .infinite b => a = b
  | .infinite _, _ => false
  | _, .infinite _ => false
  | a, b => a.units = b.units

def le (a b : Double) : Bool := a.lt b || a.same b

def isWhole (x : Double) : Bool := x.isFinite && x.units % pow2 1074 = 0

/-- The nearest integer of a finite double, a half going away from zero. -/
def round (x : Double) : Int :=
  let magnitude : Nat := (2 * x.units.natAbs + pow2 1074) / pow2 1075
  if x.units < 0 then -(magnitude : Int) else magnitude

def sub (a b : Double) : Double :=
  let d := a.units - b.units
  ofRatio (d < 0) d.natAbs (pow2 1074)

end Double
end EdgeGateway

import EdgeGateway.Double.Basic
import EdgeGateway.Text.Numeral

/-!
# Reading doubles

A double in free notation: digits on at least one side of an optional point, an optional exponent
and an optional sign, or the name of an infinity or of the value that is no number.
-/

namespace EdgeGateway.Double

def dropSign : List Char → Bool × List Char
  | '-' :: rest => (true, rest)
  | '+' :: rest => (false, rest)
  | rest => (false, rest)

def exponent? (cs : List Char) : Option Int :=
  let (negative, digits) := dropSign cs
  if Text.isNumeral digits then
    let n : Int := Text.decimalValue digits
    some (if negative then -n else n)
  else none

def isExponentMark (c : Char) : Bool := c = 'e' || c = 'E'

def decimal? (negative : Bool) (cs : List Char) : Option Double := do
  let mantissa := cs.takeWhile (!isExponentMark ·)
  let exponent ← match cs.dropWhile (!isExponentMark ·) with
    | [] => some 0
    | _ :: digits => exponent? digits
  let whole := mantissa.takeWhile (· ≠ '.')
  let fraction := (mantissa.dropWhile (· ≠ '.')).drop 1
  if Text.isNumeral (whole ++ fraction) then
    return ofDecimal negative (Text.decimalValue (whole ++ fraction)) (exponent - fraction.length)
  else none

def parse? (text : String) : Option Double :=
  let (negative, cs) := dropSign text.toList
  let name := String.ofList (cs.map Char.toLower)
  if name = "inf" ∨ name = "infinity" then some (.infinite negative)
  else if name = "nan" then some .nan
  else decimal? negative cs

end EdgeGateway.Double

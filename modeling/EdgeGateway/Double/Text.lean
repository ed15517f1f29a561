import EdgeGateway.Double.Shortest

/-!
# Written doubles

Two layouts of the shortest digits. `plainText` never uses an exponent and drops a zero fraction;
`jsonText` always shows that the number is a double, by a fraction or by an exponent.
-/

namespace EdgeGateway.Double

def digitsOf (n : Nat) : List Char := Nat.toDigits 10 n

def Decimal.split (d : Decimal) : List Char × List Char :=
  let ds := digitsOf d.digits
  if 0 ≤ d.power then (ds ++ List.replicate d.power.toNat '0', [])
  else
    let places := (-d.power).toNat
    if places < ds.length then (ds.take (ds.length - places), ds.drop (ds.length - places))
    else (['0'], List.replicate (places - ds.length) '0' ++ ds)

def Decimal.order (d : Decimal) : Int := (digitsOf d.digits).length - 1 + d.power

def signText (negative : Bool) : String := if negative then "-" else ""

/-- Shortest digits, never an exponent, no fraction for whole numbers. -/
def plainText : Double → String
  | .nan => "NaN"
  | .infinite negative => signText negative ++ "inf"
  | .finite negative significand exponent =>
    let (whole, fraction) := (shortest significand exponent).split
    let tail := if fraction.isEmpty then [] else '.' :: fraction
    signText negative ++ String.ofList (whole ++ tail)

/-- Shortest digits, positional for powers of ten from -5 to 15 and then always with a fraction,
else scientific with a signed exponent. -/
def jsonText : Double → String
  | .nan | .infinite _ => "null"
  | .finite negative significand exponent =>
    let d := shortest significand exponent
    if significand = 0 ∨ (-5 ≤ d.order ∧ d.order ≤ 15) then
      let (whole, fraction) := d.split
      let fraction := if fraction.isEmpty then ['0'] else fraction
      signText negative ++ String.ofList (whole ++ '.' :: fraction)
    else
      let mantissa := match digitsOf d.digits with
        | first :: second :: rest => first :: '.' :: second :: rest
        | short => short
      let sign := if d.order < 0 then "-" else "+"
      signText negative ++ String.ofList mantissa ++ "e" ++ sign ++ toString d.order.natAbs

/-- As `plainText`, but a whole number keeps a zero fraction: the form in which error messages
quote a number. -/
def quotedText (x : Double) : String :=
  let text := x.plainText
  if x.isFinite && !text.toList.contains '.' then text ++ ".0" else text

end EdgeGateway.Double

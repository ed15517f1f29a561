import EdgeGateway.Power

/-!
# Decimal numerals

Natural numbers written in decimal digits, as they stand in templates, hop counts and documents.
-/

namespace EdgeGateway.Text

def digitValue (c : Char) : Nat := c.toNat - '0'.toNat

def decimalValue (digits : List Char) : Nat := digits.foldl (fun n d => 10 * n + digitValue d) 0

def hexValue? (c : Char) : Option Nat :=
  if '0' ≤ c ∧ c ≤ '9' then some (c.toNat - '0'.toNat)
  else if 'a' ≤ c ∧ c ≤ 'f' then some (c.toNat - 'a'.toNat + 10)
  else if 'A' ≤ c ∧ c ≤ 'F' then some (c.toNat - 'A'.toNat + 10)
  else none

def dropPlus : List Char → List Char
  | '+' :: rest => rest
  | text => text

def isNumeral (text : List Char) : Bool := !text.isEmpty && text.all Char.isDigit

/-- A decimal number below `bound`, after at most one plus sign. -/
def numberBelow? (bound : Nat) (text : List Char) : Option Nat :=
  let digits := dropPlus text
  if isNumeral digits && decimalValue digits < bound then some (decimalValue digits) else none

end EdgeGateway.Text

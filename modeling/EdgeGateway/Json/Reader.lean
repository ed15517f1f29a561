import EdgeGateway.Json.Basic
import EdgeGateway.Text.Numeral

/-!
# Reading JSON text

`Json.read?` reads one value that fills the whole text. An integer literal that fits 64 bits is an
integer, every other number is the nearest double, and a number beyond the doubles is refused.
-/

namespace EdgeGateway.Json

def isBlank (c : Char) : Bool := c = ' ' || c = '\n' || c = '\t' || c = '\r'

def skipBlanks (cs : List Char) : List Char := cs.dropWhile isBlank

def unit16? : List Char → Option (Nat × List Char)
  | a :: b :: c :: d :: rest => do
    let a ← Text.hexValue? a
    let b ← Text.hexValue? b
    let c ← Text.hexValue? c
    let d ← Text.hexValue? d
    return (((a * 16 + b) * 16 + c) * 16 + d, rest)
  | _ => none

/-- The character after `\u`, which is a pair of surrogates beyond the first plane. -/
def escapedUnit? (cs : List Char) : Option (Char × List Char) := do
  let (high, rest) ← unit16? cs
  if 0xD800 ≤ high ∧ high < 0xDC00 then
    let '\\' :: 'u' :: rest := rest | none
    let (low, rest) ← unit16? rest
    if 0xDC00 ≤ low ∧ low < 0xE000 then
      return (Char.ofNat (0x10000 + (high - 0xD800) * 0x400 + (low - 0xDC00)), rest)
    else none
  else if 0xDC00 ≤ high ∧ high < 0xE000 then none
  else return (Char.ofNat high, rest)

def escaped? : List Char → Option (Char × List Char)
  | '"' :: rest => some ('"', rest)
  | '\\' :: rest => some ('\\', rest)
  | '/' :: rest => some ('/', rest)
  | 'b' :: rest => some ('\x08', rest)
  | 'f' :: rest => some ('\x0c', rest)
  | 'n' :: rest => some ('\n', rest)
  | 'r' :: rest => some ('\r', rest)
  | 't' :: rest => some ('\t', rest)
  | 'u' :: rest => escapedUnit? rest
  | _ => none

def readString (acc : List Char) : Nat → List Char → Option (String × List Char)
  | 0, _ => none
  | fuel + 1, cs =>
    match cs with
    | '"' :: rest => some (String.ofList acc.reverse, rest)
    | '\\' :: rest =>
      match escaped? rest with
      | some (c, rest) => readString (c :: acc) fuel rest
      | none => none
    | c :: rest => if c.toNat < 0x20 then none else readString (c :: acc) fuel rest
    | [] => none

def number? (negative : Bool) (whole fraction : List Char) (exponent : Option Int) :
    Option Number :=
  let magnitude : Int := Text.decimalValue whole
  let i := if negative then -magnitude else magnitude
  if fraction.isEmpty && exponent.isNone && Number.isExactInteger i && !(negative && i = 0) then
    some (.int i)
  else
    let d := Double.ofDecimal negative (Text.decimalValue (whole ++ fraction))
      (exponent.getD 0 - fraction.length)
    if d.isFinite then some (.double d) else none

def readExponent : List Char → Option (Option Int × List Char)
  | e :: rest =>
    if e = 'e' ∨ e = 'E' then
      let (negative, rest) := match rest with
        | '-' :: rest => (true, rest)
        | '+' :: rest => (false, rest)
        | rest => (false, rest)
      let digits := rest.takeWhile Char.isDigit
      if digits.isEmpty then none
      else
        let n : Int := Text.decimalValue digits
        some (some (if negative then -n else n), rest.dropWhile Char.isDigit)
    else some (none, e :: rest)
  | [] => some (none, [])

def readFraction : List Char → Option (List Char × List Char)
  | '.' :: rest =>
    let digits := rest.takeWhile Char.isDigit
    if digits.isEmpty then none else some (digits, rest.dropWhile Char.isDigit)
  | rest => some ([], rest)

def readNumber (cs : List Char) : Option (Number × List Char) := do
  let (negative, rest) := match cs with
    | '-' :: rest => (true, rest)
    | rest => (false, rest)
  let whole := rest.takeWhile Char.isDigit
  if whole.isEmpty ∨ (whole.length > 1 ∧ whole.head? = some '0') then none
  else
    let (fraction, rest) ← readFraction (rest.dropWhile Char.isDigit)
    let (exponent, rest) ← readExponent rest
    let n ← number? negative whole fraction exponent
    return (n, rest)

def afterWord? (word : String) (cs : List Char) : Option (List Char) :=
  let w := word.toList
  if w.isPrefixOf cs then some (cs.drop w.length) else none

mutual

/-- One value, its leading blanks skipped. -/
def readValue : Nat → List Char → Option (Json × List Char)
  | 0, _ => none
  | fuel + 1, cs =>
    match skipBlanks cs with
    | '"' :: rest => (readString [] (rest.length + 1) rest).map fun (s, rest) => (.string s, rest)
    | '[' :: rest =>
      match skipBlanks rest with
      | ']' :: rest => some (.array [], rest)
      | rest => readItems [] fuel rest
    | '\x7b' :: rest =>
      match skipBlanks rest with
      | '\x7d' :: rest => some (.object [], rest)
      | rest => readMembers [] fuel rest
    | 't' :: rest => (afterWord? "rue" rest).map (.bool true, ·)
    | 'f' :: rest => (afterWord? "alse" rest).map (.bool false, ·)
    | 'n' :: rest => (afterWord? "ull" rest).map (.null, ·)
    | rest => (readNumber rest).map fun (n, rest) => (.number n, rest)

def readItems (acc : List Json) : Nat → List Char → Option (Json × List Char)
  | 0, _ => none
  | fuel + 1, cs =>
    match readValue fuel cs with
    | none => none
    | some (item, rest) =>
      match skipBlanks rest with
      | ',' :: rest => readItems (item :: acc) fuel rest
      | ']' :: rest => some (.array (item :: acc).reverse, rest)
      | _ => none

def readMembers (acc : List (String × Json)) : Nat → List Char → Option (Json × List Char)
  | 0, _ => none
  | fuel + 1, cs =>
    match skipBlanks cs with
    | '"' :: rest =>
      match readString [] (rest.length + 1) rest with
      | none => none
      | some (name, rest) =>
        match skipBlanks rest with
        | ':' :: rest =>
          match readValue fuel rest with
          | none => none
          | some (value, rest) =>
            match skipBlanks rest with
            | ',' :: rest => readMembers ((name, value) :: acc) fuel rest
            | '\x7d' :: rest => some (ofMembers ((name, value) :: acc).reverse, rest)
            | _ => none
        | _ => none
    | _ => none

end

def read? (text : String) : Option Json :=
  let cs := text.toList
  match readValue (2 * cs.length + 2) cs with
  | some (value, rest) => if (skipBlanks rest).isEmpty then some value else none
  | none => none

end EdgeGateway.Json

import EdgeGateway.Text.Numeral
import EdgeGateway.Toml.Basic

/-!
# Points in time

Dates, times of day and both together, with or without an offset from UTC. `moment?` checks a
written point in time and gives its normal form.
-/

namespace EdgeGateway.Toml

def digits? (n low high : Nat) (cs : List Char) : Option (Nat × List Char) :=
  let digits := cs.take n
  let value := Text.decimalValue digits
  if digits.length = n && digits.all Char.isDigit && low ≤ value && value ≤ high then
    some (value, cs.drop n)
  else none

def char? (c : Char) : List Char → Option (List Char)
  | d :: rest => if c = d then some rest else none
  | [] => none

def padded (width n : Nat) : String :=
  let digits := toString n
  "".pushn '0' (width - digits.length) ++ digits

def isLeapYear (year : Nat) : Bool := year % 4 = 0 && (year % 100 ≠ 0 || year % 400 = 0)

def daysInMonth (year month : Nat) : Nat :=
  if month = 2 then (if isLeapYear year then 29 else 28)
  else if month = 4 ∨ month = 6 ∨ month = 9 ∨ month = 11 then 30
  else 31

def date? (cs : List Char) : Option (String × List Char) := do
  let (year, cs) ← digits? 4 0 9999 cs
  let cs ← char? '-' cs
  let (month, cs) ← digits? 2 1 12 cs
  let cs ← char? '-' cs
  let (day, cs) ← digits? 2 1 (daysInMonth year month) cs
  return (s!"{padded 4 year}-{padded 2 month}-{padded 2 day}", cs)

def dropTrailingZeros (cs : List Char) : List Char := (cs.reverse.dropWhile (· = '0')).reverse

/-- A fraction of a second, of which nine digits count. -/
def fraction? (d : Dialect) (cs : List Char) : Option (String × List Char) :=
  match cs with
  | '.' :: rest =>
    let digits := rest.takeWhile Char.isDigit
    if digits.isEmpty then none
    else
      let shown := dropTrailingZeros (digits.take 9)
      let shown := if shown.isEmpty && d.keepsZeroFraction then ['0'] else shown
      let text := if shown.isEmpty then "" else "." ++ String.ofList shown
      some (text, rest.dropWhile Char.isDigit)
  | rest => some ("", rest)

def seconds? (d : Dialect) (cs : List Char) : Option (String × List Char) :=
  match cs with
  | ':' :: rest => do
    let (second, rest) ← digits? 2 0 60 rest
    let (fraction, rest) ← fraction? d rest
    return (s!":{padded 2 second}{fraction}", rest)
  | rest => if d.optionalSeconds then some ("", rest) else none

def time? (d : Dialect) (cs : List Char) : Option (String × List Char) := do
  let (hour, cs) ← digits? 2 0 23 cs
  let cs ← char? ':' cs
  let (minute, cs) ← digits? 2 0 59 cs
  let (seconds, cs) ← seconds? d cs
  return (s!"{padded 2 hour}:{padded 2 minute}{seconds}", cs)

/-- An offset from UTC, which may be missing. No offset has a plus sign. -/
def offset? : List Char → Option (String × List Char)
  | c :: rest =>
    if c = 'Z' ∨ c = 'z' then some ("Z", rest)
    else if c = '+' ∨ c = '-' then do
      let (hour, rest) ← digits? 2 0 23 rest
      let rest ← char? ':' rest
      let (minute, rest) ← digits? 2 0 59 rest
      let sign := if hour = 0 ∧ minute = 0 then '+' else c
      return (s!"{sign}{padded 2 hour}:{padded 2 minute}", rest)
    else some ("", c :: rest)
  | [] => some ("", [])

def timeOfDate? (d : Dialect) : List Char → Option (String × List Char)
  | c :: rest =>
    if c = 'T' ∨ c = 't' ∨ c = ' ' then do
      let (time, rest) ← time? d rest
      let (offset, rest) ← offset? rest
      return (s!"T{time}{offset}", rest)
    else none
  | [] => some ("", [])

def moment? (d : Dialect) (cs : List Char) : Option String :=
  match date? cs with
  | some (date, rest) =>
    match timeOfDate? d rest with
    | some (time, []) => some (date ++ time)
    | _ => none
  | none =>
    match time? d cs with
    | some (time, []) => some time
    | _ => none

end EdgeGateway.Toml

import EdgeGateway.Text.Category
import EdgeGateway.Text.Numeral

/-!
# Durations

Spans of time as they stand in a configuration, such as `1m 30s` or `1.5h`: numbers, each with a
unit, added up. Blanks may stand anywhere but inside a unit.
-/

namespace EdgeGateway

structure Duration where
  seconds : Nat
  nanos : Nat := 0
  deriving DecidableEq, Repr

namespace Duration

def nanosPerSecond : Nat := 1000000000

def ofNanos (n : Nat) : Duration := ⟨n / nanosPerSecond, n % nanosPerSecond⟩

def totalNanos (d : Duration) : Nat := d.seconds * nanosPerSecond + d.nanos

def millis (d : Duration) : Nat := d.totalNanos / 1000000

/-- The nanoseconds of a unit; a month is 30.44 days and a year 365.25. -/
def unitNanos? (unit : String) : Option Nat :=
  match unit with
  | "nanos" | "nsec" | "ns" => some 1
  | "usec" | "us" | "µs" => some 1000
  | "millis" | "msec" | "ms" => some 1000000
  | "seconds" | "second" | "secs" | "sec" | "s" => some nanosPerSecond
  | "minutes" | "minute" | "min" | "mins" | "m" => some (60 * nanosPerSecond)
  | "hours" | "hour" | "hr" | "hrs" | "h" => some (3600 * nanosPerSecond)
  | "days" | "day" | "d" => some (86400 * nanosPerSecond)
  | "weeks" | "week" | "wk" | "wks" | "w" => some (604800 * nanosPerSecond)
  | "months" | "month" | "M" => some (2630016 * nanosPerSecond)
  | "years" | "year" | "yr" | "yrs" | "y" => some (31557600 * nanosPerSecond)
  | _ => none

def isUnitChar (c : Char) : Bool := c.isAlpha || c = 'µ'

/-- Numbers must fit 64 bits. -/
def fits (n : Nat) : Option Nat := if n < pow2 64 then some n else none

structure Term where
  whole : Nat
  /-- Digits after the point, as numerator and denominator. -/
  fraction : Option (Nat × Nat) := none
  unit : List Char := []

def Term.nanos? (t : Term) : Option Nat := do
  let unit ← unitNanos? (String.ofList t.unit.reverse)
  let perUnit := if unit < nanosPerSecond then unit else unit / nanosPerSecond
  let _ ← fits (t.whole * perUnit)
  let part := match t.fraction with
    | none => 0
    | some (n, d) => n * unit / d
  return t.whole * unit + part

inductive Phase where
  | start
  | whole
  | fraction
  | unit

/-- Reads on, given the nanoseconds of the terms before and the term being read. -/
def readTerms (total : Nat) (t : Term) : Phase → List Char → Option Nat
  | .start, [] => some total
  | .start, c :: rest =>
    if c.isDigit then readTerms total { whole := Text.digitValue c } .whole rest
    else if Text.isWhitespace c then readTerms total t .start rest
    else none
  | .whole, [] => none
  | .whole, c :: rest =>
    if c.isDigit then
      match fits (t.whole * 10 + Text.digitValue c) with
      | some whole => readTerms total { t with whole } .whole rest
      | none => none
    else if Text.isWhitespace c then readTerms total t .whole rest
    else if isUnitChar c then readTerms total { t with unit := [c] } .unit rest
    else if c = '.' then readTerms total { t with fraction := some (0, 1) } .fraction rest
    else none
  | .fraction, [] => none
  | .fraction, c :: rest =>
    let (n, d) := t.fraction.getD (0, 1)
    if c.isDigit then
      match fits (n * 10 + Text.digitValue c), fits (d * 10) with
      | some n, some d => readTerms total { t with fraction := some (n, d) } .fraction rest
      | _, _ => none
    else if Text.isWhitespace c then readTerms total t .fraction rest
    else if isUnitChar c && d ≠ 1 then readTerms total { t with unit := [c] } .unit rest
    else none
  | .unit, [] => do
    let nanos ← t.nanos?
    return total + nanos
  | .unit, c :: rest =>
    if isUnitChar c then readTerms total { t with unit := c :: t.unit } .unit rest
    else if c.isDigit then
      match t.nanos? with
      | some nanos => readTerms (total + nanos) { whole := Text.digitValue c } .whole rest
      | none => none
    else if Text.isWhitespace c then
      match t.nanos? with
      | some nanos => readTerms (total + nanos) { whole := 0 } .start rest
      | none => none
    else none

/-- The duration a text denotes. A lone zero needs no unit. -/
def parse? (text : String) : Option Duration :=
  if text = "0" then some ⟨0, 0⟩
  else if text.toList.all Text.isWhitespace then none
  else do
    let nanos ← readTerms 0 { whole := 0 } .start text.toList
    if nanos / nanosPerSecond < pow2 64 then return ofNanos nanos else none

/-- A number of `unit`s with as many decimals as the remainder needs. -/
def unitText (n unit width : Nat) (suffix : String) : String :=
  let digits := Nat.toDigits 10 (n % unit)
  let padded := List.replicate (width - digits.length) '0' ++ digits
  let decimals := (padded.reverse.dropWhile (· = '0')).reverse
  let point := if decimals.isEmpty || n % unit = 0 then "" else "." ++ String.ofList decimals
  s!"{n / unit}{point}{suffix}"

/-- The duration in the largest unit of which it has one at least. -/
def text (d : Duration) : String :=
  let n := d.totalNanos
  if 0 < d.seconds then unitText n nanosPerSecond 9 "s"
  else if 1000000 ≤ n then unitText n 1000000 6 "ms"
  else if 1000 ≤ n then unitText n 1000 3 "µs"
  else s!"{n}ns"

end Duration
end EdgeGateway

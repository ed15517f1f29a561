import EdgeGateway.Text.Category

/-!
# Patterns

Regular expressions over characters, and the search for a match anywhere in a text. A pattern takes
a set of positions to the positions at which its matches from there end, so repetition is a closure
of sets and needs no backtracking.
-/

namespace EdgeGateway

open Text (Ranges)

inductive Pattern.Look where
  | textStart
  | textEnd
  | lineStart (crlf : Bool)
  | lineEnd (crlf : Bool)
  | boundary (unicode : Bool)
  | notBoundary (unicode : Bool)
  | wordStart (unicode : Bool)
  | wordEnd (unicode : Bool)
  | wordStartHalf (unicode : Bool)
  | wordEndHalf (unicode : Bool)
  deriving DecidableEq, Repr

inductive Pattern where
  | empty
  | chars (ranges : Ranges)
  | look (look : Pattern.Look)
  | seq (first second : Pattern)
  | alt (first second : Pattern)
  | between (least : Nat) (most : Option Nat) (inner : Pattern)
  deriving Inhabited, Repr

namespace Pattern

def isWord (unicode : Bool) (word : Ranges) (c : Char) : Bool :=
  c.isAlphanum || c = '_' || (unicode && 0x7F < c.toNat && word.contains c.toNat)

def Look.holds (word : Ranges) (before after : Option Char) : Look → Bool
  | .textStart => before.isNone
  | .textEnd => after.isNone
  | .lineStart crlf =>
    before.isNone || before = some '\n' || (crlf && before = some '\r' && after ≠ some '\n')
  | .lineEnd crlf =>
    after.isNone || (crlf && after = some '\r') ||
      (after = some '\n' && !(crlf && before = some '\r'))
  | .boundary u => before.any (isWord u word) != after.any (isWord u word)
  | .notBoundary u => before.any (isWord u word) == after.any (isWord u word)
  | .wordStart u => !before.any (isWord u word) && after.any (isWord u word)
  | .wordEnd u => before.any (isWord u word) && !after.any (isWord u word)
  | .wordStartHalf u => !before.any (isWord u word)
  | .wordEndHalf u => !after.any (isWord u word)

def union (a b : List Bool) : List Bool := List.zipWith (· || ·) a b

def iterate {α : Type} (f : α → α) : Nat → α → α
  | 0, a => a
  | n + 1, a => iterate f n (f a)

/-- Adds what is reached from the set, at most so many times and until nothing is new. -/
def close (reach : List Bool → List Bool) : Nat → List Bool → List Bool
  | 0, reached => reached
  | n + 1, reached =>
    let more := union reached (reach reached)
    if more = reached then reached else close reach n more

def step (ranges : Ranges) (text : List Char) (starts : List Bool) : List Bool :=
  false :: List.zipWith (fun c start => start && ranges.contains c.toNat) text starts

def filterLook (word : Ranges) (look : Look) (before : Option Char) :
    List Char → List Bool → List Bool
  | _, [] => []
  | text, start :: starts =>
    (start && look.holds word before text.head?) ::
      filterLook word look text.head? text.tail starts

/-- Where the matches of a pattern that begin at the given positions end. A position set has one
entry for each place between characters, so a closure is complete after as many rounds. -/
def ends (word : Ranges) (text : List Char) : Pattern → List Bool → List Bool
  | .empty, starts => starts
  | .chars ranges, starts => step ranges text starts
  | .look condition, starts => filterLook word condition none text starts
  | .seq first second, starts => ends word text second (ends word text first starts)
  | .alt first second, starts => union (ends word text first starts) (ends word text second starts)
  | .between least most inner, starts =>
    let places := text.length + 1
    let required := iterate (ends word text inner) least starts
    let rounds := match most with
      | none => places
      | some most => min (most - least) places
    close (ends word text inner) rounds required

def matchesIn (word : Ranges) (p : Pattern) (text : String) : Bool :=
  let cs := text.toList
  (ends word cs p (List.replicate (cs.length + 1) true)).contains true

/-! ### Size -/

def utf8Width (n : Nat) : Nat :=
  if n < 0x80 then 1 else if n < 0x800 then 2 else if n < 0x10000 then 3 else 4

/-- States of an automaton for a pattern over UTF-8 bytes, counted up to a bound. -/
def states (bound : Nat) : Pattern → Nat
  | .empty => 1
  | .look _ => 1
  | .chars [(low, high)] => if low = high then utf8Width low else if high < 0x80 then 1 else 6
  | .chars ranges =>
    if ranges.all (·.2 < 0x80) then 1 else 4 + (ranges.filter (0x80 ≤ ·.2)).length / 2
  | .seq first second => min bound (states bound first + states bound second)
  | .alt first second => min bound (states bound first + states bound second + 1)
  | .between least most inner =>
    let one := states bound inner
    match most with
    | none => min bound (max least 1 * one + 2)
    | some most => min bound (least * one + (most - least) * (one + 1) + 1)

def maxStates : Nat := 300000

end Pattern
end EdgeGateway

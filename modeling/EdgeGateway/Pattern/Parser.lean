import EdgeGateway.Pattern.Basic
import EdgeGateway.Pattern.CharSet
import EdgeGateway.Pattern.Property

/-!
# Pattern syntax

The written form of patterns: alternatives, groups, flags, counted repetition, character classes
with set operations, Unicode properties and word boundaries. There are no back references and no
look around. `parse?` has no value for a text that is no pattern.
-/

namespace EdgeGateway.Pattern

open EdgeGateway.Text (Ranges maxCodePoint whitespaceRanges isWhitespace)

/-- What flags change the meaning of the pattern from their place on. -/
structure Flags where
  ignoreCase : Bool := false
  multiLine : Bool := false
  dotAll : Bool := false
  unicode : Bool := true
  crlf : Bool := false
  verbose : Bool := false

structure Reading where
  flags : Flags := {}
  names : List (List Char) := []

def digitRanges (flags : Flags) : Ranges :=
  if flags.unicode then Text.categoryRanges ["Nd"] else [(0x30, 0x39)]

def spaceRanges (flags : Flags) : Ranges :=
  if flags.unicode then whitespaceRanges else [(0x9, 0xD), (0x20, 0x20)]

def wordSet (flags : Flags) : Ranges :=
  if flags.unicode then CharSet.normalize (wordRanges ())
  else [(0x30, 0x39), (0x41, 0x5A), (0x5F, 0x5F), (0x61, 0x7A)]

/-- Outside Unicode mode a class may not reach beyond ASCII, for it would match single bytes. -/
def restricted (flags : Flags) (ranges : Ranges) : Option Ranges :=
  if flags.unicode || ranges.all (·.2 < 0x80) then some ranges else none

def shorthand? (flags : Flags) (c : Char) : Option Ranges :=
  match c with
  | 'd' => some (digitRanges flags)
  | 's' => some (spaceRanges flags)
  | 'w' => some (wordSet flags)
  | 'D' => restricted flags (CharSet.complement (digitRanges flags))
  | 'S' => restricted flags (CharSet.complement (spaceRanges flags))
  | 'W' => restricted flags (CharSet.complement (wordSet flags))
  | _ => none

def posixClass? (name : List Char) : Option Ranges :=
  match String.ofList name with
  | "alnum" => some [(0x30, 0x39), (0x41, 0x5A), (0x61, 0x7A)]
  | "alpha" => some [(0x41, 0x5A), (0x61, 0x7A)]
  | "ascii" => some [(0, 0x7F)]
  | "blank" => some [(0x9, 0x9), (0x20, 0x20)]
  | "cntrl" => some [(0, 0x1F), (0x7F, 0x7F)]
  | "digit" => some [(0x30, 0x39)]
  | "graph" => some [(0x21, 0x7E)]
  | "lower" => some [(0x61, 0x7A)]
  | "print" => some [(0x20, 0x7E)]
  | "punct" => some [(0x21, 0x2F), (0x3A, 0x40), (0x5B, 0x60), (0x7B, 0x7E)]
  | "space" => some [(0x9, 0xD), (0x20, 0x20)]
  | "upper" => some [(0x41, 0x5A)]
  | "word" => some [(0x30, 0x39), (0x41, 0x5A), (0x5F, 0x5F), (0x61, 0x7A)]
  | "xdigit" => some [(0x30, 0x39), (0x41, 0x46), (0x61, 0x66)]
  | _ => none

def upTo? (stop : Char) (cs : List Char) : Option (List Char × List Char) :=
  match cs.dropWhile (· ≠ stop) with
  | [] => none
  | _ :: rest => some (cs.takeWhile (· ≠ stop), rest)

def hexNumber? (digits : List Char) : Option Nat :=
  if digits.isEmpty then none
  else digits.foldlM (fun n d => (Text.hexValue? d).map (16 * n + ·)) 0

def scalar? (n : Nat) : Option Char := if n.isValidChar then some (Char.ofNat n) else none

/-- A hexadecimal escape of a fixed number of digits, or of any number between braces. -/
def hexEscape? (width : Nat) : List Char → Option (Char × List Char)
  | '\x7b' :: rest => do
    let (digits, rest) ← upTo? '\x7d' rest
    let c ← scalar? (← hexNumber? digits)
    return (c, rest)
  | rest =>
    if rest.length < width then none
    else do
      let c ← scalar? (← hexNumber? (rest.take width))
      return (c, rest.drop width)

inductive Escape where
  | char (c : Char)
  | set (ranges : Ranges)
  | look (look : Look)

def propertyEscape? (flags : Flags) (negated : Bool) (cs : List Char) :
    Option (Ranges × List Char) := do
  if !flags.unicode then none
  let (negated, ranges, rest) ← match cs with
    | '\x7b' :: rest => do
      let (body, rest) ← upTo? '\x7d' rest
      let (negated, body) := match body with
        | '^' :: body => (!negated, body)
        | body => (negated, body)
      let name := body.takeWhile fun c => !(c = '=' || c = ':' || c = '!')
      let ranges ← match body.dropWhile fun c => !(c = '=' || c = ':' || c = '!') with
        | [] => (property? body none).map (negated, ·)
        | '!' :: '=' :: value => (property? name (some value)).map (!negated, ·)
        | _ :: value => (property? name (some value)).map (negated, ·)
      pure (ranges.1, ranges.2, rest)
    | c :: rest => (property? [c] none).map fun ranges => (negated, ranges, rest)
    | [] => none
  let ranges := CharSet.folded flags.ignoreCase ranges
  return (if negated then CharSet.complement ranges else ranges, rest)

def boundaryName? (flags : Flags) (name : List Char) : Option Look :=
  match String.ofList name with
  | "start" => some (.wordStart flags.unicode)
  | "end" => some (.wordEnd flags.unicode)
  | "start-half" => some (.wordStartHalf flags.unicode)
  | "end-half" => some (.wordEndHalf flags.unicode)
  | _ => none

def boundaryEscape? (flags : Flags) (cs : List Char) : Option (Escape × List Char) :=
  match cs with
  | '\x7b' :: c :: rest =>
    if c.isAlpha || c = '-' then do
      let (name, rest) ← upTo? '\x7d' (c :: rest)
      let condition ← boundaryName? flags name
      return (.look condition, rest)
    else some (.look (.boundary flags.unicode), cs)
  | cs => some (.look (.boundary flags.unicode), cs)

/-- The escape after a backslash. Letters and digits without a meaning are refused. -/
def escape? (flags : Flags) : List Char → Option (Escape × List Char)
  | [] => none
  | c :: rest =>
    match c with
    | 'p' => (propertyEscape? flags false rest).map fun (s, rest) => (.set s, rest)
    | 'P' => (propertyEscape? flags true rest).map fun (s, rest) => (.set s, rest)
    | 'x' => (hexEscape? 2 rest).map fun (c, rest) => (.char c, rest)
    | 'u' => (hexEscape? 4 rest).map fun (c, rest) => (.char c, rest)
    | 'U' => (hexEscape? 8 rest).map fun (c, rest) => (.char c, rest)
    | 'a' => some (.char '\x07', rest)
    | 'f' => some (.char '\x0c', rest)
    | 't' => some (.char '\t', rest)
    | 'n' => some (.char '\n', rest)
    | 'r' => some (.char '\r', rest)
    | 'v' => some (.char '\x0b', rest)
    | 'A' => some (.look .textStart, rest)
    | 'z' => some (.look .textEnd, rest)
    | 'b' => boundaryEscape? flags rest
    | 'B' => some (.look (.notBoundary flags.unicode), rest)
    | '<' => some (.look (.wordStart flags.unicode), rest)
    | '>' => some (.look (.wordEnd flags.unicode), rest)
    | c =>
      match shorthand? flags c with
      | some set => some (.set set, rest)
      | none => if c.toNat < 0x80 && !c.isAlphanum then some (.char c, rest) else none

/-! ### Character classes -/

def skipVerbose (flags : Flags) : Nat → List Char → List Char
  | 0, cs => cs
  | fuel + 1, cs =>
    if !flags.verbose then cs
    else match cs with
      | '#' :: rest => skipVerbose flags fuel (rest.dropWhile (· ≠ '\n'))
      | c :: rest => if isWhitespace c then skipVerbose flags fuel rest else cs
      | [] => []

def classItem? (flags : Flags) : List Char → Option ((Char ⊕ Ranges) × List Char)
  | '\\' :: rest =>
    match escape? flags rest with
    | some (.char c, rest) => some (.inl c, rest)
    | some (.set s, rest) => some (.inr s, rest)
    | _ => none
  | c :: rest => some (.inl c, rest)
  | [] => none

def classRange? (flags : Flags) (cs : List Char) : Option (Ranges × List Char) := do
  let (item, rest) ← classItem? flags cs
  let single := match item with
    | .inl c => [(c.toNat, c.toNat)]
    | .inr set => set
  let after := skipVerbose flags rest.length rest
  match after with
  | '-' :: tail =>
    let tail := skipVerbose flags tail.length tail
    match tail.head? with
    | none => none
    | some ']' => return (single, after)
    | some '-' => return (single, after)
    | some _ =>
      let (last, rest) ← classItem? flags tail
      match item, last with
      | .inl a, .inl b => if a.toNat ≤ b.toNat then return ([(a.toNat, b.toNat)], rest) else none
      | _, _ => none
  | _ => return (single, rest)

/-- A class such as `[:alpha:]`, if one stands after the opening bracket. -/
def posixItem? (flags : Flags) : List Char → Option (Ranges × List Char)
  | ':' :: rest =>
    let (negated, rest) := match rest with
      | '^' :: rest => (true, rest)
      | rest => (false, rest)
    match rest.dropWhile (· ≠ ':') with
    | ':' :: ']' :: after => do
      let set ← posixClass? (rest.takeWhile (· ≠ ':'))
      let set := CharSet.folded flags.ignoreCase set
      return (if negated then CharSet.complement set else set, after)
    | _ => none
  | _ => none

inductive SetOp where
  | inter
  | diff
  | symmDiff

def SetOp.apply : SetOp → Ranges → Ranges → Ranges
  | .inter => CharSet.inter
  | .diff => CharSet.diff
  | .symmDiff => CharSet.symmDiff

/-- The parts of a class read so far: an operation with its left side, and the union being read. -/
structure ClassParts where
  left : Option (Ranges × SetOp) := none
  current : Ranges := []

def ClassParts.value (flags : Flags) (parts : ClassParts) : Ranges :=
  let right := CharSet.folded flags.ignoreCase parts.current
  match parts.left with
  | none => right
  | some (left, op) => op.apply left right

/-- The start of a class: a negation, then hyphens, or else a bracket, that stand for themselves. -/
def classStart (flags : Flags) (cs : List Char) : Bool × Ranges × List Char :=
  let cs := skipVerbose flags cs.length cs
  let (negated, cs) := match cs with
    | '^' :: rest => (true, skipVerbose flags rest.length rest)
    | cs => (false, cs)
  match cs with
  | '-' :: _ => (negated, [(0x2D, 0x2D)], cs.dropWhile (· = '-'))
  | ']' :: rest => (negated, [(0x5D, 0x5D)], rest)
  | cs => (negated, [], cs)

mutual

def readClass (flags : Flags) : Nat → List Char → Option (Ranges × List Char)
  | 0, _ => none
  | fuel + 1, cs =>
    let (negated, initial, rest) := classStart flags cs
    match readClassItems flags { current := initial } fuel rest with
    | none => none
    | some (set, rest) =>
      (restricted flags (if negated then CharSet.complement set else set)).map (·, rest)

def readClassItems (flags : Flags) (parts : ClassParts) : Nat → List Char →
    Option (Ranges × List Char)
  | 0, _ => none
  | fuel + 1, cs =>
    match skipVerbose flags cs.length cs with
    | [] => none
    | ']' :: rest => some (parts.value flags, rest)
    | '[' :: rest =>
      match posixItem? flags rest with
      | some (set, rest) =>
        readClassItems flags { parts with current := parts.current ++ set } fuel rest
      | none =>
        match readClass flags fuel rest with
        | none => none
        | some (set, rest) =>
          readClassItems flags { parts with current := parts.current ++ set } fuel rest
    | '&' :: '&' :: rest =>
      readClassItems flags { left := some (parts.value flags, .inter) } fuel rest
    | '-' :: '-' :: rest =>
      readClassItems flags { left := some (parts.value flags, .diff) } fuel rest
    | '~' :: '~' :: rest =>
      readClassItems flags { left := some (parts.value flags, .symmDiff) } fuel rest
    | rest =>
      match classRange? flags rest with
      | none => none
      | some (set, rest) =>
        readClassItems flags { parts with current := parts.current ++ set } fuel rest

end

/-! ### Repetition -/

def count? (cs : List Char) : Option (Nat × List Char) :=
  let cs := cs.dropWhile isWhitespace
  let digits := cs.takeWhile Char.isDigit
  if digits.isEmpty || pow2 32 ≤ Text.decimalValue digits then none
  else
    some (Text.decimalValue digits,
      (cs.dropWhile Char.isDigit).dropWhile isWhitespace)

def counts? (cs : List Char) : Option (Nat × Option Nat × List Char) := do
  let (least, rest) ← count? cs
  match rest with
  | '\x7d' :: rest => return (least, some least, rest)
  | ',' :: rest =>
    match rest.dropWhile isWhitespace with
    | '\x7d' :: rest => return (least, none, rest)
    | rest =>
      let (most, rest) ← count? rest
      match rest with
      | '\x7d' :: rest => if least ≤ most then return (least, some most, rest) else none
      | _ => none
  | _ => none

/-- Drops the mark of a reluctant repetition, which does not change what matches. -/
def dropReluctant : List Char → List Char
  | '?' :: rest => rest
  | rest => rest

def repeated? (flags : Flags) (item : Pattern) : Nat → List Char → Option (Pattern × List Char)
  | 0, _ => none
  | fuel + 1, cs =>
    match skipVerbose flags cs.length cs with
    | '*' :: rest => repeated? flags (.between 0 none item) fuel (dropReluctant rest)
    | '+' :: rest => repeated? flags (.between 1 none item) fuel (dropReluctant rest)
    | '?' :: rest => repeated? flags (.between 0 (some 1) item) fuel (dropReluctant rest)
    | '\x7b' :: rest =>
      match counts? rest with
      | none => none
      | some (least, most, rest) =>
        repeated? flags (.between least most item) fuel (dropReluctant rest)
    | rest => some (item, rest)

/-! ### Groups and flags -/

def setFlag? (flags : Flags) (value : Bool) : Char → Option Flags
  | 'i' => some { flags with ignoreCase := value }
  | 'm' => some { flags with multiLine := value }
  | 's' => some { flags with dotAll := value }
  | 'U' => some flags
  | 'u' => some { flags with unicode := value }
  | 'R' => some { flags with crlf := value }
  | 'x' => some { flags with verbose := value }
  | _ => none

/-- The flags up to a colon or a closing parenthesis, which is returned with the rest. No flag may
be named twice, and a minus must be followed by a flag. -/
def readFlags (flags : Flags) (value dangling : Bool) (seen : List Char) :
    List Char → Option (Flags × List Char)
  | [] => none
  | c :: rest =>
    if c = ':' || c = ')' then if dangling then none else some (flags, c :: rest)
    else if seen.contains c then none
    else if c = '-' then readFlags flags false true (c :: seen) rest
    else match setFlag? flags value c with
      | none => none
      | some flags => readFlags flags value false (c :: seen) rest

def isNameStart (c : Char) : Bool :=
  c = '_' || c.isAlpha || (0x7F < c.toNat && (flagRanges alphabeticRuns).contains c.toNat)

def isNameRest (c : Char) : Bool :=
  isNameStart c || c.isDigit || c = '.' || c = '[' || c = ']' ||
    (0x7F < c.toNat && (Text.categoryRanges ["N"]).contains c.toNat)

def groupName? (cs : List Char) : Option (List Char × List Char) := do
  let (name, rest) ← upTo? '>' cs
  match name with
  | [] => none
  | first :: more => if isNameStart first && more.all isNameRest then return (name, rest) else none

def literalSet (flags : Flags) (c : Char) : Pattern :=
  .chars (CharSet.folded flags.ignoreCase [(c.toNat, c.toNat)])

/-- What the dot stands for. Outside Unicode mode it would match single bytes. -/
def dotSet? (flags : Flags) : Option Ranges :=
  if !flags.unicode then none
  else if flags.dotAll then some [(0, maxCodePoint)]
  else some (CharSet.complement (if flags.crlf then [(0xA, 0xA), (0xD, 0xD)] else [(0xA, 0xA)]))

def maxNesting : Nat := 250

mutual

/-- Alternatives up to a closing parenthesis, which is left, or the end of the text. -/
def readAlternatives (state : Reading) (depth : Nat) : Nat → List Char →
    Option (Pattern × Reading × List Char)
  | 0, _ => none
  | fuel + 1, cs =>
    match readSequence state depth .empty fuel cs with
    | none => none
    | some (first, state, '|' :: rest) =>
      match readAlternatives state depth fuel rest with
      | none => none
      | some (others, state, rest) => some (.alt first others, state, rest)
    | some (first, state, rest) => some (first, state, rest)
termination_by structural fuel _ => fuel

def readSequence (state : Reading) (depth : Nat) (done : Pattern) : Nat → List Char →
    Option (Pattern × Reading × List Char)
  | 0, _ => none
  | fuel + 1, cs =>
    match skipVerbose state.flags cs.length cs with
    | [] => some (done, state, [])
    | '|' :: rest => some (done, state, '|' :: rest)
    | ')' :: rest => some (done, state, ')' :: rest)
    | '(' :: rest =>
      if maxNesting < depth then none
      else match readGroup state (depth + 1) fuel rest with
        | none => none
        | some (none, state, rest) =>
          match skipVerbose state.flags rest.length rest with
          | '*' :: _ | '+' :: _ | '?' :: _ | '\x7b' :: _ => none
          | rest => readSequence state depth done fuel rest
        | some (some item, state, rest) => readItem state depth done item fuel rest
    | '*' :: _ | '+' :: _ | '?' :: _ | '\x7b' :: _ => none
    | '[' :: rest =>
      match readClass state.flags fuel rest with
      | none => none
      | some (set, rest) => readItem state depth done (.chars set) fuel rest
    | '.' :: rest =>
      match dotSet? state.flags with
      | none => none
      | some set => readItem state depth done (.chars set) fuel rest
    | '^' :: rest =>
      let condition := if state.flags.multiLine then .lineStart state.flags.crlf else .textStart
      readItem state depth done (.look condition) fuel rest
    | '$' :: rest =>
      let condition := if state.flags.multiLine then .lineEnd state.flags.crlf else .textEnd
      readItem state depth done (.look condition) fuel rest
    | '\\' :: rest =>
      match escape? state.flags rest with
      | none => none
      | some (.char c, rest) =>
        readItem state depth done (literalSet state.flags c) fuel rest
      | some (.set set, rest) => readItem state depth done (.chars set) fuel rest
      | some (.look condition, rest) => readItem state depth done (.look condition) fuel rest
    | c :: rest => readItem state depth done (literalSet state.flags c) fuel rest
termination_by structural fuel _ => fuel

def readItem (state : Reading) (depth : Nat) (done item : Pattern) : Nat → List Char →
    Option (Pattern × Reading × List Char)
  | 0, _ => none
  | fuel + 1, rest =>
    match repeated? state.flags item (rest.length + 1) rest with
    | none => none
    | some (item, rest) => readSequence state depth (.seq done item) fuel rest
termination_by structural fuel _ => fuel

/-- A group after its opening parenthesis; no pattern if it only sets flags. -/
def readGroup (state : Reading) (depth : Nat) : Nat → List Char →
    Option (Option Pattern × Reading × List Char)
  | 0, _ => none
  | fuel + 1, cs =>
    match cs with
    | '?' :: 'P' :: '<' :: rest | '?' :: '<' :: rest =>
      match groupName? rest with
      | none => none
      | some (name, rest) =>
        if state.names.contains name then none
        else readBody { state with names := name :: state.names } state.flags depth fuel rest
    | '?' :: rest =>
      match readFlags state.flags true false [] rest with
      | none => none
      | some (flags, ')' :: after) =>
        if rest.head? = some ')' then none else some (none, { state with flags }, after)
      | some (flags, rest) => readBody { state with flags } state.flags depth fuel (rest.drop 1)
    | rest => readBody state state.flags depth fuel rest
termination_by structural fuel _ => fuel

/-- The inside of a group and its closing parenthesis; the flags from before it come back. -/
def readBody (state : Reading) (outer : Flags) (depth : Nat) : Nat → List Char →
    Option (Option Pattern × Reading × List Char)
  | 0, _ => none
  | fuel + 1, cs =>
    match readAlternatives state depth fuel cs with
    | some (inner, state, ')' :: rest) => some (some inner, { state with flags := outer }, rest)
    | _ => none
termination_by structural fuel _ => fuel

end

def parse? (source : String) : Option Pattern :=
  let cs := source.toList
  match readAlternatives {} 0 (4 * cs.length + 4) cs with
  | some (p, _, []) => if p.states (maxStates + 1) ≤ maxStates then some p else none
  | _ => none

def search? (source text : String) : Option Bool :=
  (parse? source).map fun p => p.matchesIn (CharSet.normalize (wordRanges ())) text

end EdgeGateway.Pattern

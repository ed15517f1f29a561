import EdgeGateway.Text.Numeral
import EdgeGateway.Toml.Basic

/-!
# Strings

Strings in double quotes know escapes, strings in single quotes do not. Both may be written on one
line in single delimiters or over several lines in triple ones. All readers start behind the
opening delimiter.
-/

namespace EdgeGateway.Toml

def isPlain (c : Char) : Bool := c = '\t' || (0x20 ≤ c.toNat && c.toNat ≠ 0x7f)

def isBlank (c : Char) : Bool := c = ' ' || c = '\t'

def skipBlanks (cs : List Char) : List Char := cs.dropWhile isBlank

def afterNewline? : List Char → Option (List Char)
  | '\n' :: rest => some rest
  | '\r' :: '\n' :: rest => some rest
  | _ => none

def codePoint? (n : Nat) (cs : List Char) : Option (Char × List Char) := do
  let digits := cs.take n
  let values ← digits.mapM Text.hexValue?
  let point := values.foldl (fun p v => p * 16 + v) 0
  if digits.length = n ∧ point.isValidChar then return (Char.ofNat point, cs.drop n) else none

def escape? (d : Dialect) : List Char → Option (Char × List Char)
  | 'b' :: rest => some ('\x08', rest)
  | 't' :: rest => some ('\t', rest)
  | 'n' :: rest => some ('\n', rest)
  | 'f' :: rest => some ('\x0c', rest)
  | 'r' :: rest => some ('\r', rest)
  | '"' :: rest => some ('"', rest)
  | '\\' :: rest => some ('\\', rest)
  | 'u' :: rest => codePoint? 4 rest
  | 'U' :: rest => codePoint? 8 rest
  | 'e' :: rest => if d.shortEscapes then some ('\x1b', rest) else none
  | 'x' :: rest => if d.shortEscapes then codePoint? 2 rest else none
  | _ => none

/-- A string on one line; the text read so far is given last character first. -/
def readBasic (d : Dialect) (acc : List Char) : Nat → List Char → Option (String × List Char)
  | 0, _ => none
  | fuel + 1, cs =>
    match cs with
    | '"' :: rest => some (String.ofList acc.reverse, rest)
    | '\\' :: rest =>
      match escape? d rest with
      | some (c, rest) => readBasic d (c :: acc) fuel rest
      | none => none
    | c :: rest => if isPlain c then readBasic d (c :: acc) fuel rest else none
    | [] => none

def readLiteral (acc : List Char) : List Char → Option (String × List Char)
  | '\'' :: rest => some (String.ofList acc.reverse, rest)
  | c :: rest => if isPlain c then readLiteral (c :: acc) rest else none
  | [] => none

def skipSpace : List Char → List Char
  | '\r' :: '\n' :: rest => skipSpace rest
  | c :: rest => if c = '\n' || isBlank c then skipSpace rest else c :: rest
  | [] => []

/-- Ends a string of several lines at a run of quotes: the last three close it, and at most two
before them belong to it. A shorter run belongs to the string as a whole. -/
def closing? (quote : Char) (cs : List Char) : Option (Nat × Bool) :=
  let run := (cs.takeWhile (· = quote)).length
  if run < 3 then some (run, false)
  else if run ≤ 5 then some (run - 3, true)
  else none

/-- Several lines in triple double quotes. A backslash at the end of a line joins it with what
stands on the next lines. -/
def readLongBasic (d : Dialect) (acc : List Char) : Nat → List Char → Option (String × List Char)
  | 0, _ => none
  | fuel + 1, cs =>
    match cs with
    | [] => none
    | '"' :: _ =>
      match closing? '"' cs with
      | some (kept, true) =>
        some (String.ofList (List.replicate kept '"' ++ acc).reverse, cs.drop (kept + 3))
      | some (kept, false) => readLongBasic d (List.replicate kept '"' ++ acc) fuel (cs.drop kept)
      | none => none
    | '\\' :: rest =>
      match afterNewline? (skipBlanks rest) with
      | some rest => readLongBasic d acc fuel (skipSpace rest)
      | none =>
        match escape? d rest with
        | some (c, rest) => readLongBasic d (c :: acc) fuel rest
        | none => none
    | '\n' :: rest => readLongBasic d ('\n' :: acc) fuel rest
    | '\r' :: '\n' :: rest => readLongBasic d ('\n' :: acc) fuel rest
    | c :: rest => if isPlain c then readLongBasic d (c :: acc) fuel rest else none

def readLongLiteral (acc : List Char) : Nat → List Char → Option (String × List Char)
  | 0, _ => none
  | fuel + 1, cs =>
    match cs with
    | [] => none
    | '\'' :: _ =>
      match closing? '\'' cs with
      | some (kept, true) =>
        some (String.ofList (List.replicate kept '\'' ++ acc).reverse, cs.drop (kept + 3))
      | some (kept, false) => readLongLiteral (List.replicate kept '\'' ++ acc) fuel (cs.drop kept)
      | none => none
    | '\n' :: rest => readLongLiteral ('\n' :: acc) fuel rest
    | '\r' :: '\n' :: rest => readLongLiteral ('\n' :: acc) fuel rest
    | c :: rest => if isPlain c then readLongLiteral (c :: acc) fuel rest else none

def dropNewline (cs : List Char) : List Char := (afterNewline? cs).getD cs

def readText (d : Dialect) (cs : List Char) : Option (String × List Char) :=
  let fuel := cs.length + 1
  match cs with
  | '"' :: '"' :: '"' :: rest => readLongBasic d [] fuel (dropNewline rest)
  | '\'' :: '\'' :: '\'' :: rest => readLongLiteral [] fuel (dropNewline rest)
  | '"' :: rest => readBasic d [] fuel rest
  | '\'' :: rest => readLiteral [] rest
  | _ => none

end EdgeGateway.Toml

import EdgeGateway.Toml.Moment
import EdgeGateway.Toml.Number
import EdgeGateway.Toml.Table
import EdgeGateway.Toml.Text

/-!
# Reading documents

`Toml.read?` reads the text of a document in a dialect. A text that is no document has no value.
-/

namespace EdgeGateway.Toml

/-! ### Keys -/

def isBareKeyChar (c : Char) : Bool := c.isAlphanum || c = '_' || c = '-'

def readKeyPart (d : Dialect) (cs : List Char) : Option (String × List Char) :=
  match cs with
  | '"' :: rest => readBasic d [] (rest.length + 1) rest
  | '\'' :: rest => readLiteral [] rest
  | cs =>
    let bare := cs.takeWhile isBareKeyChar
    if bare.isEmpty then none else some (String.ofList bare, cs.dropWhile isBareKeyChar)

/-- A dotted key as its path and its last part. Blanks may stand around each part. -/
def readKey (d : Dialect) (path : List String) :
    Nat → List Char → Option (List String × String × List Char)
  | 0, _ => none
  | fuel + 1, cs =>
    match readKeyPart d (skipBlanks cs) with
    | none => none
    | some (key, rest) =>
      match skipBlanks rest with
      | '.' :: rest => readKey d (path ++ [key]) fuel rest
      | rest => some (path, key, rest)

/-! ### Values -/

def isWordChar (c : Char) : Bool :=
  c.isAlphanum || c = '_' || c = '-' || c = '+' || c = '.' || c = ':'

/-- A word; a date and a time of day with a blank between them are one word. -/
def readWord (cs : List Char) : List Char × List Char :=
  let word := cs.takeWhile isWordChar
  let rest := cs.dropWhile isWordChar
  match date? word, rest with
  | some (_, []), ' ' :: a :: b :: ':' :: more =>
    if a.isDigit && b.isDigit then
      let time := a :: b :: ':' :: more
      (word ++ ' ' :: time.takeWhile isWordChar, time.dropWhile isWordChar)
    else (word, rest)
  | _, _ => (word, rest)

def wordValue? (d : Dialect) (word : List Char) : Option Toml :=
  if word = "true".toList then some (.boolean true)
  else if word = "false".toList then some (.boolean false)
  else match moment? d word with
    | some text => some (.moment text)
    | none =>
      match integer? word with
      | some i => some (.integer i)
      | none => (float? d word).map .float

def skipComment : List Char → List Char
  | '#' :: rest => rest.dropWhile isPlain
  | cs => cs

def skipFiller : Nat → List Char → List Char
  | 0, cs => cs
  | fuel + 1, cs =>
    match skipBlanks cs with
    | '#' :: rest => skipFiller fuel (rest.dropWhile isPlain)
    | cs =>
      match afterNewline? cs with
      | some rest => skipFiller fuel rest
      | none => cs

def skipInline (d : Dialect) (cs : List Char) : List Char :=
  if d.looseInlineTables then skipFiller (cs.length + 1) cs else skipBlanks cs

mutual

def readValue (d : Dialect) (depth : Nat) : Nat → List Char → Option (Toml × List Char)
  | 0, _ => none
  | fuel + 1, cs =>
    match cs with
    | '"' :: _ => (readText d cs).map fun (s, rest) => (.string s, rest)
    | '\'' :: _ => (readText d cs).map fun (s, rest) => (.string s, rest)
    | '[' :: rest =>
      if depth + 1 < depthLimit then readItems d (depth + 1) [] fuel rest else none
    | '\x7b' :: rest =>
      if depth + 1 < depthLimit then readMembers d (depth + 1) true [] fuel rest else none
    | cs =>
      let (word, rest) := readWord cs
      (wordValue? d word).map (·, rest)

def readItems (d : Dialect) (depth : Nat) (items : List Toml) :
    Nat → List Char → Option (Toml × List Char)
  | 0, _ => none
  | fuel + 1, cs =>
    match skipFiller (cs.length + 1) cs with
    | ']' :: rest => some (.array items, rest)
    | cs =>
      match readValue d depth fuel cs with
      | none => none
      | some (item, rest) =>
        match skipFiller (rest.length + 1) rest with
        | ',' :: rest => readItems d depth (items ++ [item]) fuel rest
        | ']' :: rest => some (.array (items ++ [item]), rest)
        | _ => none

/-- The members of an inline table up to its end; those before are given. -/
def readMembers (d : Dialect) (depth : Nat) (mayEnd : Bool) (members : Members) :
    Nat → List Char → Option (Toml × List Char)
  | 0, _ => none
  | fuel + 1, cs =>
    match skipInline d cs with
    | '\x7d' :: rest => if mayEnd then some (.table (tomlMembers members), rest) else none
    | cs =>
      match readKey d [] (cs.length + 1) cs with
      | some (path, key, '=' :: rest) =>
        if path.length + 1 < depthLimit then
          match readValue d depth fuel (skipBlanks rest) with
          | none => none
          | some (v, rest) =>
            match addMember path key (.value v) .header members with
            | none => none
            | some members =>
              match skipInline d rest with
              | ',' :: rest => readMembers d depth d.looseInlineTables members fuel rest
              | '\x7d' :: rest => some (.table (tomlMembers members), rest)
              | _ => none
        else none
      | _ => none

end

/-! ### Documents -/

def endLine? (cs : List Char) : Option (List Char) :=
  match skipComment (skipBlanks cs) with
  | [] => some []
  | cs => afterNewline? cs

def readHeader (d : Dialect) (repeated : Bool) (cs : List Char) : Option (Header × List Char) := do
  let (path, key, rest) ← readKey d [] (cs.length + 1) cs
  if path.length + 1 < depthLimit then
    match repeated, rest with
    | true, ']' :: ']' :: rest => return ({ path, key, repeated }, rest)
    | false, ']' :: rest => return ({ path, key, repeated }, rest)
    | _, _ => none
  else none

def readAssignment (d : Dialect) (draft : Draft) (cs : List Char) : Option (Draft × List Char) := do
  let (path, key, rest) ← readKey d [] (cs.length + 1) cs
  let rest ← char? '=' rest
  let (v, rest) ← readValue d 0 (rest.length + 1) (skipBlanks rest)
  if path.length + 1 < depthLimit then
    let members ← addMember path key (.value v) .header draft.members
    return ({ draft with members }, rest)
  else none

def readLines (d : Dialect) (draft : Draft) : Nat → List Char → Option Draft
  | 0, _ => none
  | fuel + 1, cs =>
    match skipFiller (cs.length + 1) cs with
    | [] => some draft
    | cs =>
      let line := match cs with
        | '[' :: '[' :: rest => (readHeader d true rest).bind fun (h, rest) =>
          (draft.begin h).map (·, rest)
        | '[' :: rest => (readHeader d false rest).bind fun (h, rest) =>
          (draft.begin h).map (·, rest)
        | cs => readAssignment d draft cs
      match line with
      | none => none
      | some (draft, rest) =>
        match endLine? rest with
        | some rest => readLines d draft fuel rest
        | none => none

def dropByteOrderMark : List Char → List Char
  | '\ufeff' :: rest => rest
  | cs => cs

def read? (d : Dialect) (text : String) : Option (List (String × Toml)) := do
  let cs := dropByteOrderMark text.toList
  let draft ← readLines d {} (cs.length + 1) cs
  let members ← draft.finish
  return tomlMembers members

end EdgeGateway.Toml

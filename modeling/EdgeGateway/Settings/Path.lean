import EdgeGateway.Settings.Basic
import EdgeGateway.Text.Numeral

/-!
# Paths to settings

A path such as `bridge[0].port` leads from the root through members and items to one setting. What
is missing on the way is created, and what is of the wrong kind is replaced.
-/

namespace EdgeGateway.Setting

inductive Step where
  | member (name : String)
  /-- A negative index counts from the end. -/
  | item (index : Int)
  deriving DecidableEq, Repr

def isNameChar (c : Char) : Bool := c.isAlphanum || c = '_' || c = '-'

def readName? (cs : List Char) : Option (String × List Char) :=
  let name := cs.takeWhile isNameChar
  if name.isEmpty then none else some (String.ofList name, cs.dropWhile isNameChar)

def skipSpaces (cs : List Char) : List Char := cs.dropWhile fun c => c = ' ' || c = '\t'

def readIndex? (cs : List Char) : Option (Int × List Char) :=
  let cs := skipSpaces cs
  let (negative, cs) := match cs with
    | '-' :: rest => (true, rest)
    | '+' :: rest => (false, rest)
    | cs => (false, cs)
  let digits := cs.takeWhile Char.isDigit
  let n := Text.decimalValue digits
  let bound := if negative then pow2 63 + 1 else pow2 63
  match skipSpaces (cs.dropWhile Char.isDigit) with
  | ']' :: rest =>
    if !digits.isEmpty && n < bound then some (if negative then -n else n, rest) else none
  | _ => none

def readSteps : Nat → List Char → Option (List Step)
  | _, [] => some []
  | 0, _ => none
  | fuel + 1, '.' :: cs => do
    let (name, rest) ← readName? cs
    let steps ← readSteps fuel rest
    return .member name :: steps
  | fuel + 1, '[' :: cs => do
    let (index, rest) ← readIndex? cs
    let steps ← readSteps fuel rest
    return .item index :: steps
  | _, _ => none

/-- The path that a name denotes. A name that is not written as a path is one member. -/
def path (name : String) : List Step :=
  let cs := name.toList
  let steps : Option (List Step) := do
    let (first, rest) ← readName? cs
    let steps ← readSteps rest.length rest
    return .member first :: steps
  steps.getD [.member name]

/-- Changes the item with the given index. Lists grow as need be, at the end or, for an index
before the first item, at the front. -/
def updateItem (index : Int) (f : Setting → Setting) (items : List Setting) : List Setting :=
  let position := if 0 ≤ index then index else items.length + index
  if 0 ≤ position then
    let place := position.toNat
    let items := items ++ List.replicate (place + 1 - items.length) unset
    items.modify place f
  else
    (List.replicate (-position).toNat unset ++ items).modify 0 f

def update (f : Setting → Setting) : List Step → Setting → Setting
  | [], s => f s
  | .member name :: steps, s => .table (updateMember name (update f steps) s.members)
  | .item index :: steps, s => .list (updateItem index (update f steps) s.items)

def put (root : Setting) (name : String) (s : Setting) : Setting :=
  root.update s.overlay (path name)

def putAll (root : Setting) (entries : List (String × Setting)) : Setting :=
  entries.foldl (fun root (name, s) => root.put name s) root

end EdgeGateway.Setting

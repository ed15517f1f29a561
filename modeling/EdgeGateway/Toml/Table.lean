import EdgeGateway.Toml.Basic

/-!
# Building tables

A document names its tables by headers and dotted keys, in any order but each only once. A `Node`
is a table under construction; what is written as one value is closed to later additions.
-/

namespace EdgeGateway.Toml

inductive Origin where
  | header
  | implicit
  | dotted
  deriving DecidableEq, Repr

inductive Node where
  | value (value : Toml)
  | table (origin : Origin) (members : List (String × Node))
  /-- Tables with one repeated header, the last of which is open. -/
  | tables (done : List (List (String × Node))) (last : List (String × Node))
  /-- A repeated header before its first table. -/
  | noTables
  deriving Inhabited

abbrev Members := List (String × Node)

namespace Members

def find? (ms : Members) (key : String) : Option Node :=
  (List.find? (·.1 = key) ms).map (·.2)

def erase (ms : Members) (key : String) : Members := ms.filter (·.1 ≠ key)

def replace (ms : Members) (key : String) (node : Node) : Members :=
  ms.map fun (k, n) => if k = key then (k, node) else (k, n)

end Members

/-- Applies an action to the table at the end of a path and creates tables on the way. Dotted keys
do not lead into a table with a header of its own. -/
def descend {α : Type} (dotted : Bool) (action : Origin → Members → Option (Members × α)) :
    List String → Origin → Members → Option (Members × α)
  | [], origin, ms => action origin ms
  | key :: path, _, ms =>
    match ms.find? key with
    | none => do
      let origin := if dotted then .dotted else .implicit
      let (inner, a) ← descend dotted action path origin []
      return (ms ++ [(key, .table origin inner)], a)
    | some (.table origin inner) =>
      if dotted && origin = .header then none
      else do
        let (inner, a) ← descend dotted action path origin inner
        return (ms.replace key (.table origin inner), a)
    | some (.tables done last) => do
      let (last, a) ← descend dotted action path .header last
      return (ms.replace key (.tables done last), a)
    | some _ => none

def addMember (path : List String) (key : String) (node : Node) (origin : Origin) (ms : Members) :
    Option Members :=
  let add (origin : Origin) (ms : Members) : Option (Members × Unit) :=
    if decide (origin = .dotted) = path.isEmpty then none
    else if (ms.find? key).isSome then none
    else some (ms ++ [(key, node)], ())
  (descend (!path.isEmpty) add path origin ms).map (·.1)

structure Header where
  path : List String
  key : String
  repeated : Bool

structure Draft where
  root : Members := []
  header : Option Header := none
  members : Members := []

def takeTable (key : String) (_ : Origin) (ms : Members) : Option (Members × Members) :=
  match ms.find? key with
  | none => some (ms, [])
  | some (.table .implicit inner) => some (ms.erase key, inner)
  | some _ => none

def openTables (key : String) (_ : Origin) (ms : Members) : Option (Members × Members) :=
  match ms.find? key with
  | none => some (ms ++ [(key, .noTables)], [])
  | some (.tables ..) => some (ms, [])
  | some _ => none

def putTable (h : Header) (members : Members) (_ : Origin) (ms : Members) :
    Option (Members × Unit) :=
  match h.repeated, ms.find? h.key with
  | true, some .noTables => some (ms.replace h.key (.tables [] members), ())
  | true, some (.tables done last) =>
    some (ms.replace h.key (.tables (done ++ [last]) members), ())
  | false, none => some (ms ++ [(h.key, .table .header members)], ())
  | _, _ => none

def Draft.finish (d : Draft) : Option Members :=
  match d.header with
  | none => some d.members
  | some h => (descend false (putTable h d.members) h.path .header d.root).map (·.1)

def Draft.begin (d : Draft) (h : Header) : Option Draft := do
  let root ← d.finish
  let take := if h.repeated then openTables h.key else takeTable h.key
  let (root, members) ← descend false take h.path .header root
  return { root, header := h, members }

mutual

def Node.toml : Node → Toml
  | .value v => v
  | .table _ members => .table (tomlMembers members)
  | .tables done last => .array (tomlTables done ++ [.table (tomlMembers last)])
  | .noTables => .array []

def tomlMembers : List (String × Node) → List (String × Toml)
  | [] => []
  | (key, node) :: rest => (key, node.toml) :: tomlMembers rest

def tomlTables : List (List (String × Node)) → List Toml
  | [] => []
  | members :: rest => .table (tomlMembers members) :: tomlTables rest

end

end EdgeGateway.Toml

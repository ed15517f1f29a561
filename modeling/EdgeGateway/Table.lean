import EdgeGateway.Text.Order

/-!
# Tables

A table holds one value per key, its entries in ascending order of their keys. Every listing that
the gateway shows by id is the entry list of a table.
-/

namespace EdgeGateway

structure Table (α : Type) where
  entries : List (String × α) := []

namespace Table

variable {α β : Type}

instance : Inhabited (Table α) := ⟨{}⟩

def empty : Table α := {}

def isEmpty (t : Table α) : Bool := t.entries.isEmpty

def size (t : Table α) : Nat := t.entries.length

def keys (t : Table α) : List String := t.entries.map (·.1)

def values (t : Table α) : List α := t.entries.map (·.2)

def find? (t : Table α) (key : String) : Option α :=
  (t.entries.find? (·.1 = key)).map (·.2)

def contains (t : Table α) (key : String) : Bool := t.entries.any (·.1 = key)

/-- Puts an entry before the first larger key, in place of an entry with the same key. -/
def insertEntry (key : String) (value : α) : List (String × α) → List (String × α)
  | [] => [(key, value)]
  | (k, v) :: rest =>
    if k = key then (key, value) :: rest
    else if Text.lt key k then (key, value) :: (k, v) :: rest
    else (k, v) :: insertEntry key value rest

def insert (t : Table α) (key : String) (value : α) : Table α := ⟨insertEntry key value t.entries⟩

def erase (t : Table α) (key : String) : Table α := ⟨t.entries.filter (·.1 ≠ key)⟩

def adjust (t : Table α) (key : String) (f : α → α) : Table α :=
  ⟨t.entries.map fun (k, v) => if k = key then (k, f v) else (k, v)⟩

def map (t : Table α) (f : α → β) : Table β := ⟨t.entries.map fun (k, v) => (k, f v)⟩

/-- A later entry replaces an earlier one with the same key. -/
def ofList (entries : List (String × α)) : Table α :=
  entries.foldl (fun t (k, v) => t.insert k v) {}

end Table
end EdgeGateway

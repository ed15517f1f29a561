import EdgeGateway.Pattern.CaseFold

/-!
# Sets of code points

Ranges in ascending order that neither touch nor overlap, and the operations of character classes
on them.
-/

namespace EdgeGateway.Pattern.CharSet

open EdgeGateway.Text (Ranges maxCodePoint)

/-- Joins ranges that touch or overlap; the starts must be ascending. -/
def join : Ranges → Ranges
  | [] => []
  | r :: rest =>
    match join rest with
    | [] => [r]
    | s :: later => if s.1 ≤ r.2 + 1 then (r.1, max r.2 s.2) :: later else r :: s :: later

def isSorted : Ranges → Bool
  | r :: s :: rest => r.1 ≤ s.1 && isSorted (s :: rest)
  | _ => true

def normalize (ranges : Ranges) : Ranges :=
  join (if isSorted ranges then ranges else ranges.mergeSort fun r s => r.1 ≤ s.1)

/-- The code points from `start` on that are in none of the ranges. -/
def gaps (start : Nat) : Ranges → Ranges
  | [] => if start ≤ maxCodePoint then [(start, maxCodePoint)] else []
  | r :: rest =>
    if start < r.1 then (start, r.1 - 1) :: gaps (r.2 + 1) rest else gaps (r.2 + 1) rest

def complement (ranges : Ranges) : Ranges := gaps 0 (normalize ranges)

def union (a b : Ranges) : Ranges := normalize (a ++ b)

def inter (a b : Ranges) : Ranges := complement (union (complement a) (complement b))

def diff (a b : Ranges) : Ranges := inter a (complement b)

def symmDiff (a b : Ranges) : Ranges := union (diff a b) (diff b a)

def folded (ignoreCase : Bool) (ranges : Ranges) : Ranges :=
  if ignoreCase then normalize (foldClosure ranges) else normalize ranges

end EdgeGateway.Pattern.CharSet

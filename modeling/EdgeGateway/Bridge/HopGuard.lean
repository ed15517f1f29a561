import EdgeGateway.Message

/-!
# Loop prevention

Forwarded messages carry in a user property how many bridges they have crossed. A guard drops a
message whose count has reached the limit of its bridge.
-/

namespace EdgeGateway

def hopProperty : String := "x-edgebridge-hop-count"

/-- The largest hop count that is told apart from larger ones. -/
def maxHops : Nat := pow2 32 - 1

structure HopGuard where
  enabled : Bool
  limit : Nat
  deriving DecidableEq, Repr

inductive HopDecision where
  | allow
  | drop
  deriving DecidableEq, Repr

namespace HopGuard

/-- A message without hops is never dropped, whatever the limit. -/
def decision (guard : HopGuard) (hops : Nat) : HopDecision :=
  if guard.enabled && 0 < hops && guard.limit ≤ hops then .drop else .allow

/-- The decision on a hop count, and the number of drops with it, given the drops before. -/
def check (guard : HopGuard) (drops hops : Nat) : HopDecision × Nat :=
  match guard.decision hops with
  | .drop => (.drop, drops + 1)
  | .allow => (.allow, drops)

/-- The hop count a message carries. A count that is missing, no number or beyond `maxHops`
counts as none, and so does every count while the guard is off. -/
def hops (guard : HopGuard) (m : Message) : Nat :=
  if guard.enabled then
    ((m.property? hopProperty).bind fun text => Text.numberBelow? (maxHops + 1) text.toList).getD 0
  else 0

def next (hops : Nat) : Nat := min (hops + 1) maxHops

end HopGuard
end EdgeGateway

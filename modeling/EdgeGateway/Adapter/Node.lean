import EdgeGateway.Power
import EdgeGateway.Table

/-!
# Trees of nodes

What an adapter finds when it is asked which values its device offers.
-/

namespace EdgeGateway

structure NodeTree where
  nodeId : String
  name : String
  children : List NodeTree := []
  metadata : Table String := {}
  deriving Inhabited

namespace NodeTree

mutual

def depth : NodeTree → Nat
  | ⟨_, _, children, _⟩ => depthBelow children

def depthBelow : List NodeTree → Nat
  | [] => 0
  | child :: rest => max (child.depth + 1) (depthBelow rest)

end

end NodeTree

structure DiscoveryInput where
  root : Option String
  depth : Nat
  deriving DecidableEq, Repr

/-- A depth that is missing or not positive means one level. -/
def DiscoveryInput.of (root : Option String) (depth : Option Int) : DiscoveryInput where
  root := root
  depth := match depth with
    | some d => if 0 < d then min d.toNat (pow2 32 - 1) else 1
    | none => 1

end EdgeGateway

/-!
# Draining

Waiting until nothing is in flight. The count is looked at when the waiting begins and then every
ten milliseconds; it fails if that never shows zero up to the timeout. Several counts are waited
for one after the other, each with the whole timeout.
-/

namespace EdgeGateway

def drainInterval : Nat := 10

structure Drain where
  /-- The lanes that have not been drained; the first is waited for. -/
  lanes : List Nat
  /-- When the wait for the first lane began. -/
  since : Nat
  timeout : Nat
  drained : Bool := true
  deriving Repr

namespace Drain

/-- Looks at the counts of lanes, the first of which is waited for since the given time. -/
def look (inflight : Nat → Nat) (timeout now : Nat) (drained : Bool) (since : Nat) :
    List Nat → Drain
  | [] => { lanes := [], since, timeout, drained }
  | lane :: rest =>
    if (now - since) % drainInterval = 0 ∧ inflight lane = 0 then
      look inflight timeout now drained now rest
    else if since + timeout ≤ now then look inflight timeout now false now rest
    else { lanes := lane :: rest, since, timeout, drained }

def poll (d : Drain) (inflight : Nat → Nat) (now : Nat) : Drain :=
  look inflight d.timeout now d.drained d.since d.lanes

def isOver (d : Drain) : Bool := d.lanes.isEmpty

def nextLook (d : Drain) (now : Nat) : Nat :=
  min (d.since + ((now - d.since) / drainInterval + 1) * drainInterval) (d.since + d.timeout)

/-- More looks than a drain takes that begins now: time passes between two of them, and no lane is
waited for beyond the timeout. -/
def looks (d : Drain) : Nat := d.lanes.length * (d.timeout + 1) + 1

end Drain
end EdgeGateway

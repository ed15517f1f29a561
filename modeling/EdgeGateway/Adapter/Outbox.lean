import EdgeGateway.Adapter.Publish
import EdgeGateway.Metrics.Basic

/-!
# Outboxes

The publishes that a pipeline has made and the counters that they raise. A value that cannot be
published is counted at once, a publish when it is answered; answers may come in any order.
-/

namespace EdgeGateway

structure Send where
  publish : AdapterPublish
  pending : Bool := true

def AdapterCounter.ofAnswer : Except PublishFault Unit → AdapterCounter
  | .ok () => .publishSuccess
  | .error _ => .publishFailed

structure Outbox where
  pipeline : Pipeline
  sends : List Send := []
  counters : AdapterCounters := {}

namespace Outbox

def count (o : Outbox) (counter : AdapterCounter) : Outbox :=
  { o with counters := o.counters.add 1 counter }

def publish (o : Outbox) (now : Nat) (context : ContextAnswer) (v : FieldValue)
    (s : FieldSubscription) : Outbox × Except PublishFault Nat :=
  match o.pipeline.publish now context v s with
  | .error fault => (o.count .publishFailed, .error fault)
  | .ok made => ({ o with sends := o.sends ++ [{ publish := made }] }, .ok o.sends.length)

/-- Takes the answer to a publish; only the first one counts. -/
def answered (o : Outbox) (number : Nat) (answer : Except PublishFault Unit) : Outbox :=
  match o.sends[number]? with
  | some send =>
    if send.pending then
      { o with sends := o.sends.set number { send with pending := false } }.count (.ofAnswer answer)
    else o
  | none => o

inductive Event where
  | publish (now : Nat) (context : ContextAnswer) (value : FieldValue)
      (subscription : FieldSubscription)
  | answered (number : Nat) (answer : Except PublishFault Unit)

def step (o : Outbox) : Event → Outbox
  | .publish now context v s => (o.publish now context v s).1
  | .answered number answer => o.answered number answer

def run (o : Outbox) (events : List Event) : Outbox := events.foldl step o

end Outbox
end EdgeGateway

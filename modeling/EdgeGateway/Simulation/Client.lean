import EdgeGateway.Adapter.Monitor
import EdgeGateway.Simulation.Config

/-!
# Simulated devices: the client

A client produces values for the nodes that are subscribed to. Each subscription is a stream with a
generator, which ticks once at the start and then at a fixed interval, and a queue from which the
values are taken. A generator that finds the queue full waits until there is room and then makes up
for the ticks it has missed.
-/

namespace EdgeGateway.Simulation

/-- How far a generator is. Times are in milliseconds. -/
inductive Pace where
  | fresh
  | ticking (due : Nat)
  /-- Waiting for room in the queue; the next tick may be due already. -/
  | blocked (value : FieldValue) (due : Nat)
  | ended

structure Stream where
  subscription : FieldSubscription
  minValue : Double
  maxValue : Double
  pace : Pace := .fresh
  queue : List FieldValue := []
  attended : Bool := true

def queueCapacity : Nat := 64

/-- A value from a range, if the width of the range is a finite double. Which value it is does not
matter to anything else, so it is the least. -/
def sample? (minValue maxValue : Double) : Option FieldValue :=
  if (maxValue.sub minValue).isFinite then
    some { value := .number (.double (minValue.sub (.ofInt 0))) }
  else none

namespace Stream

/-- Puts a value into the queue and waits for the next tick, waits for room, or ends because nobody
takes values any more. -/
def put (s : Stream) (value : FieldValue) (due : Nat) : Stream :=
  if !s.attended then { s with pace := .ended }
  else if s.queue.length < queueCapacity then
    { s with queue := s.queue ++ [value], pace := .ticking due }
  else { s with pace := .blocked value due }

/-- What a generator does next at a time, and whether that is a tick. -/
def move (s : Stream) (interval now : Nat) : Option (Stream × Bool) :=
  match s.pace with
  | .fresh => some ({ s with pace := .ticking now }, false)
  | .ticking due =>
    if due ≤ now then
      match sample? s.minValue s.maxValue with
      | some value => some (s.put value (due + interval), true)
      | none => some ({ s with pace := .ended }, true)
    else none
  | .blocked value due =>
    if !s.attended || s.queue.length < queueCapacity then some (s.put value due, false) else none
  | .ended => none

def generate (interval now : Nat) : Nat → Stream → Stream × Nat
  | 0, s => (s, 0)
  | fuel + 1, s =>
    match s.move interval now with
    | none => (s, 0)
    | some (s, tick) =>
      let (s, ticks) := generate interval now fuel s
      (s, if tick then ticks + 1 else ticks)

/-- Enough moves for a generator to fill an empty queue and get blocked. -/
def moves : Nat := queueCapacity + 3

def nextTick? (s : Stream) : Option Nat :=
  match s.pace with
  | .ticking due => some due
  | _ => none

def isBlocked (s : Stream) : Bool :=
  match s.pace with
  | .blocked .. => true
  | _ => false

def stopGenerator (s : Stream) : Stream := { s with pace := .ended }

def leave (s : Stream) : Stream := { s with attended := false, queue := [] }

end Stream

structure Client where
  interval : Nat
  ranges : List (String × Double × Double)
  /-- All streams there ever were. -/
  streams : List Stream := []
  feeds : Table Nat := {}

namespace Client

def updateStream (c : Client) (i : Nat) (f : Stream → Stream) : Client :=
  { c with streams := c.streams.modify i f }

/-- Opens a stream, in place of one that the node may have had, and gives its number. -/
def subscribe (c : Client) (s : FieldSubscription) : Except AdapterFault (Client × Nat) :=
  match c.ranges.find? (·.1 = s.nodeId) with
  | none => .error (.subscription s!"unknown node '{s.nodeId}'")
  | some (_, minValue, maxValue) =>
    let c := match c.feeds.find? s.nodeId with
      | some old => c.updateStream old Stream.stopGenerator
      | none => c
    let number := c.streams.length
    .ok ({ c with streams := c.streams ++ [{ subscription := s, minValue, maxValue }],
                  feeds := c.feeds.insert s.nodeId number }, number)

def failTransfer (c : Client) (node : String) : Option (Client × FieldSubscription) := do
  let number ← c.feeds.find? node
  let stream ← c.streams[number]?
  return ({ c.updateStream number Stream.stopGenerator with feeds := c.feeds.erase node },
    stream.subscription)

def close (c : Client) : Client :=
  { c.feeds.values.foldl (fun c i => c.updateStream i Stream.stopGenerator) c with feeds := {} }

def subscriptionCount (c : Client) : Nat := c.feeds.size

def generate (c : Client) (now i : Nat) : Client × Nat :=
  match c.streams[i]? with
  | some s =>
    let (s, ticks) := s.generate c.interval now Stream.moves
    ({ c with streams := c.streams.set i s }, ticks)
  | none => (c, 0)

end Client
end EdgeGateway.Simulation

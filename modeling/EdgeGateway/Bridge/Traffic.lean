import EdgeGateway.Bridge.Forwarder

/-!
# Traffic

All messages that forwarders have been given, and how far each has come. A message is accepted as a
candidate, passes the interceptor, is handed over to the target and ends when the target answers;
it can end at every point before. `step` takes these events in any order, one at a time. With its
end a message is counted and reported back to whoever gave it.
-/

namespace EdgeGateway

inductive Target where
  | localBroker
  | remote (name : String)
  deriving DecidableEq, Repr

/-- A forwarder at work, and how many messages it has under way. -/
structure Lane where
  forwarder : Forwarder
  target : Target
  running : Bool := false
  inflight : Nat := 0
  deriving Repr

inductive Progress where
  /-- Accepted, in the form in which the interceptor is to see it. -/
  | candidate (message : Message)
  | handedOver (message : Message)
  | ended (outcome : ForwardOutcome)
  deriving DecidableEq

def Progress.outcome? : Progress → Option ForwardOutcome
  | .ended outcome => some outcome
  | _ => none

/-- One message given to one lane. -/
structure Call where
  lane : Nat
  ack : AckToken
  progress : Progress
  deriving DecidableEq

/-- The report that a message is done with. -/
structure Completion where
  ack : AckToken
  /-- Whether the message was refused, so that it may be offered elsewhere. -/
  permanentFailure : Bool
  deriving DecidableEq, Repr

structure Traffic where
  lanes : List Lane := []
  /-- In the order in which the messages were given. -/
  calls : List Call := []
  completions : List Completion := []
  metrics : Metrics := {}
  deriving Inhabited

namespace Traffic

def count (t : Traffic) (lane : Nat) (counter : BridgeCounter) : Traffic :=
  match t.lanes[lane]? with
  | some l =>
    let f := l.forwarder
    { t with metrics := t.metrics.countBridge f.bridgeId f.direction.text counter }
  | none => t

def countOutcome (t : Traffic) (lane : Nat) (outcome : ForwardOutcome) : Traffic :=
  match outcome.counter? with
  | some counter => t.count lane counter
  | none => t

def updateLane (t : Traffic) (lane : Nat) (f : Lane → Lane) : Traffic :=
  { t with lanes := t.lanes.modify lane f }

def complete (t : Traffic) (ack : AckToken) (permanentFailure : Bool) : Traffic :=
  { t with completions := t.completions ++ [{ ack, permanentFailure }] }

def enter (t : Traffic) (call : Call) : Traffic := { t with calls := t.calls ++ [call] }

def setProgress (t : Traffic) (i : Nat) (progress : Progress) : Traffic :=
  { t with calls := t.calls.modify i fun c => { c with progress } }

def turnAway (t : Traffic) (lane : Nat) (ack : AckToken) (outcome : ForwardOutcome) : Traffic :=
  ((t.countOutcome lane outcome).complete ack (outcome = .dropped .stopped)).enter
    { lane, ack, progress := .ended outcome }

def takeIn (t : Traffic) (lane : Nat) (ack : AckToken) (candidate : Message) : Traffic :=
  (t.updateLane lane fun l => { l with inflight := l.inflight + 1 }).enter
    { lane, ack, progress := .candidate candidate }

def forward (t : Traffic) (lane : Nat) (m : Message) (ack : AckToken) : Traffic :=
  match t.lanes[lane]? with
  | none => t
  | some l =>
    match l.forwarder.receive l.running m with
    | .accepted candidate => (t.count lane .received).takeIn lane ack candidate
    | .ended outcome => (t.count lane .received).turnAway lane ack outcome

def finish (t : Traffic) (i : Nat) (call : Call) (outcome : ForwardOutcome) : Traffic :=
  let t := t.updateLane call.lane fun l => { l with inflight := l.inflight - 1 }
  ((t.countOutcome call.lane outcome).complete call.ack false).setProgress i (.ended outcome)

/-- The message to be handed over after the answer of the interceptor, or the outcome without
one. -/
def passedOn (answer : Except InterceptFault Interception) (connected : Bool) :
    Except ForwardOutcome Message :=
  match answer with
  | .error _ => .error .failed
  | .ok .drop => .error (.dropped .interceptor)
  | .ok (.pass m) => if connected then .ok m else .error (.dropped .disconnected)

/-- Takes the answer of the interceptor to a candidate, and goes on as the connection of the target
allows at that moment. -/
def intercepted (t : Traffic) (i : Nat) (answer : Except InterceptFault Interception)
    (connected : Bool) : Traffic :=
  match t.calls[i]? with
  | some call =>
    match call.progress with
    | .candidate _ =>
      match passedOn answer connected with
      | .ok m => t.setProgress i (.handedOver m)
      | .error outcome => t.finish i call outcome
    | _ => t
  | none => t

def settlement : Except PublishFault Unit → ForwardOutcome
  | .ok () => .forwarded
  | .error _ => .failed

def answered (t : Traffic) (i : Nat) (answer : Except PublishFault Unit) : Traffic :=
  match t.calls[i]? with
  | some call =>
    match call.progress with
    | .handedOver _ => t.finish i call (settlement answer)
    | _ => t
  | none => t

/-- Gives up a message that is under way. -/
def abort (t : Traffic) (i : Nat) : Traffic :=
  match t.calls[i]? with
  | some call =>
    match call.progress with
    | .ended _ => t
    | _ => t.finish i call .failed
  | none => t

def setRunning (t : Traffic) (lane : Nat) (running : Bool) : Traffic :=
  t.updateLane lane fun l => { l with running }

def addLane (t : Traffic) (f : Forwarder) (target : Target) : Traffic :=
  { t with lanes := t.lanes ++ [{ forwarder := f, target }],
           metrics := t.metrics.openBridge f.bridgeId f.direction.text }

def openMetrics (t : Traffic) (f : Forwarder) : Traffic :=
  { t with metrics := t.metrics.openBridge f.bridgeId f.direction.text }

inductive Event where
  | addLane (forwarder : Forwarder) (target : Target)
  | openMetrics (forwarder : Forwarder)
  | start (lane : Nat)
  | stop (lane : Nat)
  | forward (lane : Nat) (message : Message) (ack : AckToken)
  | intercepted (call : Nat) (answer : Except InterceptFault Interception) (connected : Bool)
  | answered (call : Nat) (answer : Except PublishFault Unit)
  | abort (call : Nat)

def step (t : Traffic) : Event → Traffic
  | .addLane f target => t.addLane f target
  | .openMetrics f => t.openMetrics f
  | .start lane => t.setRunning lane true
  | .stop lane => t.setRunning lane false
  | .forward lane m ack => t.forward lane m ack
  | .intercepted call answer connected => t.intercepted call answer connected
  | .answered call answer => t.answered call answer
  | .abort call => t.abort call

def run (t : Traffic) (events : List Event) : Traffic := events.foldl step t

def inflight (t : Traffic) (lane : Nat) : Nat := ((t.lanes[lane]?).map (·.inflight)).getD 0

def outcome? (t : Traffic) (i : Nat) : Option ForwardOutcome :=
  t.calls[i]?.bind fun call => call.progress.outcome?

end Traffic
end EdgeGateway

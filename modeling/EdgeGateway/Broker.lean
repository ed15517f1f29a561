import EdgeGateway.Fault
import EdgeGateway.Message

/-!
# Local broker

Local subscribers have a mailbox each, in which messages with a matching topic wait to be taken. A
full mailbox loses further messages; one whose subscriber has gone is taken off the list with the
next message for it.
-/

namespace EdgeGateway

structure Mailbox where
  filter : String
  registered : Bool := true
  attended : Bool := true
  queue : List Message := []

namespace Mailbox

def wants (box : Mailbox) (topic : String) : Bool :=
  box.registered && Topic.matchesFilter topic box.filter

def accepts (box : Mailbox) (capacity : Nat) (topic : String) : Bool :=
  box.wants topic && box.attended && box.queue.length < capacity

def put (box : Mailbox) (capacity : Nat) (m : Message) : Mailbox :=
  if box.accepts capacity m.topic then { box with queue := box.queue ++ [m] }
  else if box.wants m.topic && !box.attended then { box with registered := false }
  else box

end Mailbox

structure Broker where
  capacity : Nat
  /-- All mailboxes there ever were; the first has the number 1. -/
  mailboxes : List Mailbox := []
  nextMessage : Nat := 1

namespace Broker

/-- A broker whose mailboxes hold so many messages, but at least one. -/
def ofCapacity (capacity : Nat) : Broker := { capacity := max capacity 1 }

def subscribe (b : Broker) (filter : String) : Except Topic.Fault (Broker × Nat) :=
  match Topic.checkFilter filter with
  | .error fault => .error fault
  | .ok () => .ok ({ b with mailboxes := b.mailboxes ++ [{ filter }] }, b.mailboxes.length + 1)

def mailbox? (b : Broker) (number : Nat) : Option Mailbox :=
  if number = 0 then none else b.mailboxes[number - 1]?

def updateMailbox (b : Broker) (number : Nat) (f : Mailbox → Mailbox) : Broker :=
  { b with mailboxes := b.mailboxes.modify (number - 1) f }

def unsubscribe (b : Broker) (number : Nat) : Broker × Bool :=
  match b.mailbox? number with
  | some box => (b.updateMailbox number fun box => { box with registered := false }, box.registered)
  | none => (b, false)

/-- The subscriber goes; what was waiting is lost. -/
def leave (b : Broker) (number : Nat) : Broker × Bool :=
  match b.mailbox? number with
  | some box =>
    (b.updateMailbox number fun box => { box with attended := false, queue := [] }, box.attended)
  | none => (b, false)

/-- Takes all messages out of an attended mailbox. -/
def receive (b : Broker) (number : Nat) : Broker × Option (List Message) :=
  match b.mailbox? number with
  | some box =>
    if box.attended then
      (b.updateMailbox number fun box => { box with queue := [] }, some box.queue)
    else (b, none)
  | none => (b, none)

def subscriberCount (b : Broker) : Nat := (b.mailboxes.filter (·.registered)).length

def deliver (b : Broker) (m : Message) : Broker × Nat :=
  ({ b with mailboxes := b.mailboxes.map (·.put b.capacity m) },
    (b.mailboxes.filter (·.accepts b.capacity m.topic)).length)

def checkMessage (m : Message) : Except PublishFault Unit :=
  match Topic.checkName m.topic with
  | .ok () => .ok ()
  | .error fault => .error (.rejected (invalidTopicText m.topic fault))

end Broker
end EdgeGateway

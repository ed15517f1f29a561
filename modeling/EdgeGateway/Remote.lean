import EdgeGateway.Fault
import EdgeGateway.Message

/-!
# Remotes

Stand-ins for remote brokers. A recording remote may let messages in one by one as permits become
available, take its time, and fail; a dry run only counts. A remote may also be the local broker
itself, which then takes its messages in.
-/

namespace EdgeGateway

inductive RemoteKind where
  | recording (gated : Bool) (delay : Nat)
  | dryRun (endpoint : String)
  | localBroker
  deriving DecidableEq, Repr

inductive Visit where
  | waiting
  | admitted
  | asleep (time : Nat)
  deriving DecidableEq, Repr

structure Remote where
  kind : RemoteKind
  connected : Bool := true
  failure : Option PublishFault := none
  permits : Nat := 0
  /-- Publishes at the remote, by the numbers of their calls, in the order of arrival. -/
  visits : List (Nat × Visit) := []
  published : List Message := []

inductive Attempt where
  | answered (answer : Except PublishFault Unit)
  | asleep (time : Nat)
  | waiting

namespace Remote

def isConnected (r : Remote) : Bool :=
  match r.kind with
  | .localBroker => true
  | _ => r.connected

def status (r : Remote) : ConnectionStatus := .ofBool r.isConnected

def setVisit (r : Remote) (call : Nat) (visit : Visit) : Remote :=
  if r.visits.any (·.1 = call) then
    { r with visits := r.visits.map fun (c, v) => (c, if c = call then visit else v) }
  else { r with visits := r.visits ++ [(call, visit)] }

def endVisit (r : Remote) (call : Nat) : Remote :=
  { r with visits := r.visits.filter (·.1 ≠ call) }

def record (r : Remote) (call : Nat) (m : Message) : Remote × Attempt :=
  let r := r.endVisit call
  match r.failure with
  | some fault => (r, .answered (.error fault))
  | none => ({ r with published := r.published ++ [m] }, .answered (.ok ()))

def letIn (r : Remote) (delay now call : Nat) (m : Message) : Remote × Attempt :=
  if delay = 0 then r.record call m
  else (r.setVisit call (.asleep (now + delay)), .asleep (now + delay))

def attempt (r : Remote) (now call : Nat) (m : Message) : Remote × Attempt :=
  match r.kind with
  | .localBroker => (r, .waiting)
  | .dryRun endpoint =>
    if r.connected then ({ r with published := r.published ++ [m] }, .answered (.ok ()))
    else (r, .answered (.error (.connectionLost endpoint)))
  | .recording gated delay =>
    match r.visits.lookup call with
    | some .waiting => (r, .waiting)
    | some .admitted => r.letIn delay now call m
    | some (.asleep time) => if time ≤ now then r.record call m else (r, .waiting)
    | none =>
      if !gated then r.letIn delay now call m
      else if 0 < r.permits then ({ r with permits := r.permits - 1 }.letIn delay now call m)
      else (r.setVisit call .waiting, .waiting)

/-- Admits publishes that wait, in order, while there are permits. -/
def admitWaiting (r : Remote) : List (Nat × Visit) → Remote × List Nat
  | [] => (r, [])
  | (call, .waiting) :: rest =>
    if 0 < r.permits then
      let r := { r with permits := r.permits - 1 }.setVisit call .admitted
      let (r, admitted) := admitWaiting r rest
      (r, call :: admitted)
    else (r, [])
  | _ :: rest => admitWaiting r rest

def release (r : Remote) (permits : Nat) : Remote × List Nat :=
  let r := { r with permits := r.permits + permits }
  r.admitWaiting r.visits

/-- Forgets a publish that has been given up. A permit that it has not used is given back. -/
def forget (r : Remote) (call : Nat) : Remote × List Nat :=
  match r.visits.lookup call with
  | some .admitted => (r.endVisit call).release 1
  | _ => (r.endVisit call, [])

end Remote
end EdgeGateway

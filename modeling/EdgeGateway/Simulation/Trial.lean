import EdgeGateway.Agenda
import EdgeGateway.Simulation.Device

/-!
# Simulated devices on their own

A client or an adapter with its own agenda and nothing around it but counters and a place where
publishes end up.
-/

namespace EdgeGateway.Simulation

def meet {τ : Type} [DecidableEq τ] (lift : Task → τ) (a : Agenda τ) (requests : List Request) :
    Agenda τ :=
  requests.foldl (fun a r => match r with
    | .run task => a.wake (lift task)
    | .sleep task time => a.sleep (lift task) time
    | .count _ => a) a

def counted (requests : List Request) : List AdapterCounter :=
  requests.filterMap fun r => match r with
    | .count counter => some counter
    | _ => none

/-! ### An adapter -/

structure Trial where
  device : Device
  counters : AdapterCounters := {}
  agenda : Agenda Task := {}
  failure : Option PublishFault := none
  published : List AdapterPublish := []

namespace Trial

def meetRequests (t : Trial) : Trial :=
  { t with
    agenda := meet id t.agenda t.device.requests
    counters := (counted t.device.requests).foldl (fun c counter => c.add 1 counter) t.counters
    device := { t.device with requests := [] } }

def onDevice (t : Trial) (f : Device → Device) : Trial :=
  meetRequests { t with device := f t.device }

def send (t : Trial) (number : Nat) : Trial :=
  match t.device.sends[number]?, t.failure with
  | some _, some fault => t.onDevice (·.answered number (.error fault))
  | some send, none =>
    let t := { t with published := t.published ++ [send.publish] }
    t.onDevice (·.answered number (.ok ()))
  | none, _ => t

def poll (t : Trial) (task : Task) : Trial :=
  let now := t.agenda.now
  match task with
  | .generator i => t.onDevice (·.runGenerator now i)
  | .consumer i => t.onDevice (·.runConsumer now i)
  | .resubscription number => t.onDevice (·.runResubscription number)
  | .send number => t.send number

def schedule : Schedule Trial Task where
  agenda := agenda
  setAgenda t agenda := { t with agenda }
  poll := poll

end Trial

/-! ### A client -/

structure ClientTrial where
  client : Client
  counters : AdapterCounters := {}
  agenda : Agenda Nat := {}
  receivers : Table Nat := {}
  recreated : List FieldSubscription := []

namespace ClientTrial

def ofRanges (interval : Nat) (ranges : List (String × Double × Double)) : ClientTrial :=
  { client := { interval, ranges } }

def report (t : ClientTrial) (r : SourceReport) : ClientTrial :=
  { t with counters := t.counters.add 1 r.counter,
           recreated := t.recreated ++ r.recreated.toList }

def poll (t : ClientTrial) (i : Nat) : ClientTrial :=
  let (client, ticks) := t.client.generate t.agenda.now i
  let t := { t with client, counters := t.counters.add ticks .keepAlives }
  match (client.streams[i]?).bind Stream.nextTick? with
  | some due => { t with agenda := t.agenda.sleep i due }
  | none => t

def schedule : Schedule ClientTrial Nat where
  agenda := agenda
  setAgenda t agenda := { t with agenda }
  poll := poll

def leave (t : ClientTrial) (i : Nat) : ClientTrial :=
  { t with client := t.client.updateStream i Stream.leave, agenda := t.agenda.wake i }

def subscribe (t : ClientTrial) (s : FieldSubscription) : ClientTrial × Except AdapterFault Unit :=
  match t.client.subscribe s with
  | .error fault => (t, .error fault)
  | .ok (client, number) =>
    let t := { t with client, agenda := t.agenda.wake number }
    let t := match t.receivers.find? s.nodeId with
      | some old => t.leave old
      | none => t
    ({ t with receivers := t.receivers.insert s.nodeId number }, .ok ())

def failTransfer (t : ClientTrial) (node : String) : ClientTrial × Bool :=
  match t.client.failTransfer node with
  | none => (t, false)
  | some (client, s) => (report { t with client } (.transferFailed s), true)

def close (t : ClientTrial) : ClientTrial := { t with client := t.client.close }

def dropReceiver (t : ClientTrial) (node : String) : ClientTrial × Bool :=
  match t.receivers.find? node with
  | none => (t, false)
  | some i => ({ t.leave i with receivers := t.receivers.erase node }, true)

def waiting (t : ClientTrial) (i : Nat) : List FieldValue :=
  ((t.client.streams[i]?).map (·.queue)).getD []

def receive (t : ClientTrial) (node : String) : ClientTrial × Option (List FieldValue) :=
  match t.receivers.find? node with
  | none => (t, none)
  | some i =>
    ({ t with client := t.client.updateStream i fun s => { s with queue := [] },
              agenda := t.agenda.wake i }, some (t.waiting i))

end ClientTrial
end EdgeGateway.Simulation

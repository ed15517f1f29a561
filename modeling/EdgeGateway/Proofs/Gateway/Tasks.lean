import EdgeGateway.Gateway.Operation
import EdgeGateway.Proofs.Agenda
import EdgeGateway.Proofs.Bridge.Counters
import EdgeGateway.Proofs.Bridge.Lanes

/-!
# What tasks do in a gateway

However a task goes, it asks the interceptor, hands a message to the broker or to a remote, answers a
call, or does something that is nothing to bridges and remotes. A relation that holds across each of
these is `Carried`, and holds across everything tasks do.
-/

namespace EdgeGateway.Gateway

variable {g g' : Gateway}

/-! ### Adapters -/

/-- Only adapters and tasks are others. -/
def Beside (g g' : Gateway) : Prop :=
  ∃ registry agenda adapters,
    g' = { g with registry, agenda, bridges := g.bridges.setAdapters adapters }

theorem Beside.refl (g : Gateway) : Beside g g :=
  ⟨g.registry, g.agenda, g.traffic.metrics.adapters, rfl⟩

theorem Beside.trans {g'' : Gateway} (first : Beside g g') (second : Beside g' g'') :
    Beside g g'' := by
  obtain ⟨_, _, _, rfl⟩ := first
  obtain ⟨registry, agenda, adapters, rfl⟩ := second
  exact ⟨registry, agenda, adapters, rfl⟩

theorem Beside.agenda (g : Gateway) (agenda : Agenda Task) : Beside g { g with agenda } :=
  ⟨g.registry, agenda, g.traffic.metrics.adapters, rfl⟩

theorem Beside.registry (g : Gateway) (registry : Registry Handler) : Beside g { g with registry } :=
  ⟨registry, g.agenda, g.traffic.metrics.adapters, rfl⟩

theorem countAdapters (metrics : Metrics) (adapter : String) (counters : List AdapterCounter) :
    ∃ adapters, counters.foldl (fun m counter => m.countAdapter adapter counter) metrics =
      { metrics with adapters } := by
  induction counters generalizing metrics with
  | nil => exact ⟨metrics.adapters, rfl⟩
  | cons counter counters ih =>
    obtain ⟨adapters, counted⟩ := ih (metrics.countAdapter adapter counter)
    exact ⟨adapters, counted⟩

theorem meetRequests_beside (g : Gateway) (handler : Nat) : Beside g (g.meetRequests handler) := by
  unfold meetRequests
  split
  next d _ =>
    obtain ⟨adapters, counted⟩ :=
      countAdapters g.metrics d.pipeline.adapterId (Simulation.counted d.requests)
    dsimp only
    rw [counted]
    exact ⟨_, _, adapters, rfl⟩
  next => exact .refl g

theorem onDevice_beside (g : Gateway) (handler : Nat) (f : Simulation.Device → Simulation.Device) :
    Beside g (g.onDevice handler f) := by
  unfold onDevice
  split
  next d _ => exact (Beside.registry g _).trans (meetRequests_beside _ handler)
  next => exact .refl g

theorem meet_now (lift : Simulation.Task → Task) (a : Agenda Task)
    (requests : List Simulation.Request) : (Simulation.meet lift a requests).now = a.now := by
  unfold Simulation.meet
  induction requests generalizing a with
  | nil => rfl
  | cons request requests ih =>
    rw [List.foldl_cons, ih]
    cases request with
    | run task => exact Agenda.wake_now a _
    | sleep | count => rfl

theorem meetRequests_now (g : Gateway) (handler : Nat) :
    (g.meetRequests handler).agenda.now = g.agenda.now := by
  unfold meetRequests
  split
  next d _ => exact meet_now _ _ _
  next => rfl

theorem onDevice_now (g : Gateway) (handler : Nat) (f : Simulation.Device → Simulation.Device) :
    (g.onDevice handler f).agenda.now = g.agenda.now := by
  unfold onDevice
  split
  next d _ => exact meetRequests_now _ handler
  next => rfl

/-! ### Remotes -/

/-- The message of a call and the name of the remote to which it has been handed over. -/
def atRemote? (g : Gateway) (call : Nat) : Option (String × Message) :=
  match g.traffic.calls[call]? with
  | some c =>
    match c.progress, (g.traffic.post? c.lane).map Prod.snd with
    | .handedOver m, some (.remote name) => some (name, m)
    | _, _ => none
  | none => none

/-! ### Tasks -/

/-- A relation that holds across whatever a task does next. -/
structure Carried (R : Gateway → Gateway → Prop) : Prop where
  refl : ∀ g, R g g
  trans : ∀ {g g' g''}, R g g' → R g' g'' → R g g''
  dispatch : ∀ g m, R g (g.dispatch m).1
  intercept : ∀ g call, R g (g.intercept call)
  answer : ∀ g call answer, R g (g.answer call answer)
  attempt : ∀ {g : Gateway} {name : String} {r : Remote} {call : Nat} {m : Message},
    g.remote? name = some r → g.atRemote? call = some (name, m) →
      R g (g.setRemote name (r.attempt g.agenda.now call m).1)
  /-- No time passes in a task. -/
  beside : ∀ {g g'}, Beside g g' → g'.agenda.now = g.agenda.now → R g g'

namespace Carried

variable {R : Gateway → Gateway → Prop} (carried : Carried R)

include carried

theorem publishLocal (g : Gateway) (call : Nat) (m : Message) : R g (g.publishLocal call m) :=
  carried.trans (carried.dispatch g m) (carried.answer _ call _)

theorem publishAt {name : String} {r : Remote} {call : Nat} {m : Message}
    (known : g.remote? name = some r) (here : g.atRemote? call = some (name, m)) :
    R g (g.publishAt name r call m) := by
  unfold Gateway.publishAt
  split
  · exact carried.publishLocal g call m
  · have attempted := carried.attempt known here
    generalize r.attempt g.agenda.now call m = result at attempted ⊢
    obtain ⟨r', attempt⟩ := result
    cases attempt with
    | answered answer => exact carried.trans attempted (carried.answer _ call answer)
    | asleep time => exact carried.trans attempted (carried.beside (.agenda _ _) rfl)
    | waiting => exact attempted

theorem handOver (g : Gateway) (call : Nat) : R g (g.handOver call) := by
  unfold Gateway.handOver
  split
  next lane ack m known =>
    split
    next name target =>
      split
      next r there =>
        refine carried.publishAt there ?_
        have post : (g.traffic.post? lane).map Prod.snd = some (.remote name) := by
          rw [Traffic.post?, Option.map_map]
          exact target
        rw [atRemote?, known]
        simp only [post]
      next => exact carried.refl g
    next => exact carried.publishLocal g call m
    next => exact carried.refl g
  next => exact carried.refl g

theorem onDevice (g : Gateway) (handler : Nat) (f : Simulation.Device → Simulation.Device) :
    R g (g.onDevice handler f) :=
  carried.beside (onDevice_beside g handler f) (onDevice_now g handler f)

theorem sendOf (g : Gateway) (handler number : Nat) : R g (g.sendOf handler number) := by
  unfold Gateway.sendOf
  split
  · split
    · split
      · exact carried.trans (carried.dispatch g _) (carried.onDevice _ handler _)
      · exact carried.refl g
    · exact carried.refl g
  · exact carried.refl g

theorem poll (g : Gateway) (task : Task) : R g (g.poll task) := by
  cases task with
  | delivery call => exact carried.trans (carried.intercept g call) (carried.handOver _ call)
  | device handler task =>
    cases task with
    | generator | consumer | resubscription => exact carried.onDevice g handler _
    | send number => exact carried.sendOf g handler number

end Carried

end EdgeGateway.Gateway

import EdgeGateway.Proofs.Gateway.Bridges

/-!
# A gateway that waits

While a gateway waits for lanes its tasks go on. `drain_watched` shows the wait as turns of a `Watch`, in
which nothing but messages comes between two looks, and which comes to an end. `Awaited` says the same
of the gateway itself and of its clock: no lane is left before it is empty or its time is up.
-/

namespace EdgeGateway

namespace BridgeManager.Watch

/-- The counters of adapters are beside a wait as well. -/
theorem run_setAdapters (s : State) (d : Drain) (adapters : Table AdapterCounters)
    (turns : List Turn) :
    Watch.run ⟨s.setAdapters adapters, d⟩ turns =
      ⟨(Watch.run ⟨s, d⟩ turns).state.setAdapters adapters, (Watch.run ⟨s, d⟩ turns).drain⟩ := by
  induction turns generalizing s d with
  | nil => rfl
  | cons turn turns ih =>
    cases turn with
    | act a =>
      have rest := ih (s.step a) d
      rw [← State.step_setAdapters] at rest
      exact rest
    | look now => exact ih s _

end BridgeManager.Watch

namespace Gateway

open BridgeManager (Action State Passes Turn Watch acts acts_append)
open BridgeManager.State (AtRest Waits)

/-! ### The course of a wait -/

/-- Lanes have been waited for one after the other, the first of them since the given moment, and these
are the actions that took place meanwhile.

The wait for a lane ends when the lane is found empty, or when the whole timeout has passed since it
began, and then the wait for the next one begins. Until then time passes, with the messages that it
brings. -/
inductive Awaited (change : Option Handover) (timeout : Nat) :
    Nat → Gateway → List Nat → List Action → Gateway → Prop
  | done (since : Nat) (g : Gateway) : Awaited change timeout since g [] [] g
  | empty {since lane : Nat} {rest : List Nat} {during : List Action} {g g' : Gateway}
      (nothing : g.traffic.inflight lane = 0)
      (later : Awaited change timeout g.agenda.now g rest during g') :
      Awaited change timeout since g (lane :: rest) during g'
  | late {since lane : Nat} {rest : List Nat} {during : List Action} {g g' : Gateway}
      (passed : since + timeout ≤ g.agenda.now)
      (later : Awaited change timeout g.agenda.now g rest during g') :
      Awaited change timeout since g (lane :: rest) during g'
  | pass {since time lane : Nat} {rest : List Nat} {before after : List Action} {g g' : Gateway}
      {adapters : Table AdapterCounters}
      (forth : g.agenda.now < time) (due : time ≤ since + timeout)
      (passes : ∀ a ∈ before, Passes a)
      (state : (schedule.advanceTo g time).state change =
        ((g.state change).run before).setAdapters adapters)
      (later : Awaited change timeout since (schedule.advanceTo g time) (lane :: rest) after g') :
      Awaited change timeout since g (lane :: rest) (before ++ after) g'

/-- What is left to be waited for after a look has been waited for before it as well. -/
theorem Awaited.of_poll {change : Option Handover} {d : Drain} {during : List Action} {g g' : Gateway}
    (later : Awaited change d.timeout (d.poll g.traffic.inflight g.agenda.now).since g
      (d.poll g.traffic.inflight g.agenda.now).lanes during g') :
    Awaited change d.timeout d.since g d.lanes during g' := by
  obtain ⟨lanes, since, timeout, drained⟩ := d
  unfold Drain.poll at later
  dsimp only at later ⊢
  induction lanes generalizing since drained with
  | nil => exact later
  | cons lane rest ih =>
    unfold Drain.look at later
    split at later
    next seen => exact .empty seen.2 (ih _ _ later)
    next =>
      split at later
      next passed => exact .late passed (ih _ _ later)
      next => exact later

/-- A wait does not go back in time. -/
theorem Awaited.now_le {change : Option Handover} {timeout since : Nat} {lanes : List Nat}
    {during : List Action} {g g' : Gateway} (awaited : Awaited change timeout since g lanes during g') :
    g.agenda.now ≤ g'.agenda.now := by
  induction awaited with
  | done => exact Nat.le_refl _
  | empty _ _ ih | late _ _ ih => exact ih
  | pass forth _ _ _ _ ih =>
    rw [advanceTo_now] at ih
    exact Nat.le_trans (Nat.le_of_lt forth) ih

/-- What is true of a drain that ends with a look, and of one that goes on if it is true of the rest, is
true of every drain with enough looks. A drain that goes on lets some time pass, but not more than is left
for the lane that it waits for. -/
theorem drainWithin_induction {P : Drain → Gateway → Gateway × Bool → Prop}
    (stop : ∀ d g, (d.poll g.traffic.inflight g.agenda.now).lanes = [] →
      P d g (g, (d.poll g.traffic.inflight g.agenda.now).drained))
    (goOn : ∀ d g lane rest time result, let d' := d.poll g.traffic.inflight g.agenda.now
      d'.timeout = d.timeout → d'.lanes = lane :: rest → g.agenda.now < time →
      time ≤ d'.since + d'.timeout → P d' (schedule.advanceTo g time) result → P d g result)
    {fuel : Nat} {d : Drain} {g : Gateway} (positive : 0 < fuel)
    (timely : g.agenda.now ≤ d.since + d.timeout) (enough : d.deadline < g.agenda.now + fuel) :
    P d g (drainWithin fuel d g) := by
  induction fuel generalizing d g with
  | zero => cases positive
  | succ fuel ih =>
    obtain ⟨timeout, sooner, going⟩ := Drain.poll_deadline timely g.traffic.inflight
    have stop := stop d g
    have goOn := goOn d g
    unfold drainWithin
    dsimp only at goOn ⊢
    generalize d.poll g.traffic.inflight g.agenda.now = d' at timeout sooner going stop goOn ⊢
    cases lanes : d'.lanes with
    | nil =>
      have finished : d'.isOver = true := List.isEmpty_iff.mpr lanes
      rw [if_pos finished]
      exact stop lanes
    | cons lane rest =>
      have busy : d'.lanes ≠ [] := by rw [lanes]; exact List.cons_ne_nil _ _
      have unfinished : ¬ d'.isOver = true := fun finished => busy (List.isEmpty_iff.mp finished)
      rw [if_neg unfinished]
      have early : g.agenda.now < d'.since + d'.timeout := timeout ▸ going.resolve_left busy
      obtain ⟨later, bound⟩ := Drain.nextLook_bounds early
      -- The lane that is waited for has its time left, so the next look is not the last one that there is.
      have ahead : d'.since + d'.timeout < d'.deadline := by
        simp only [Drain.deadline, lanes, List.length_cons, Nat.add_mul]
        omega
      refine goOn lane rest _ _ timeout lanes later bound (ih ?_ ?_ ?_)
      · omega
      · rw [advanceTo_now]
        exact bound
      · rw [advanceTo_now]
        omega

variable (change : Option Handover)

/-- A drain with this result is made of messages and of looks, and comes to its end. -/
def Watched (d : Drain) (g : Gateway) (result : Gateway × Bool) : Prop :=
  ∃ turns adapters, (∀ a ∈ acts turns, Passes a) ∧
    Awaited change d.timeout d.since g d.lanes (acts turns) result.1 ∧
    let w := Watch.run ⟨g.state change, d⟩ turns
    w.drain.lanes = [] ∧ result.2 = w.drain.drained ∧
      result.1.state change = w.state.setAdapters adapters

variable {change}

theorem watched_of_finished {d : Drain} {g : Gateway}
    (finished : (d.poll g.traffic.inflight g.agenda.now).lanes = []) :
    Watched change d g (g, (d.poll g.traffic.inflight g.agenda.now).drained) := by
  have looked := Watch.run_looks ⟨g.state change, d⟩ g.agenda.now
  refine ⟨List.replicate d.lanes.length (.look g.agenda.now), g.traffic.metrics.adapters, ?_, ?_, ?_⟩
  · rw [BridgeManager.acts_look]
    exact fun _ member => absurd member List.not_mem_nil
  · rw [BridgeManager.acts_look]
    exact .of_poll (finished ▸ .done _ g)
  · dsimp only at looked ⊢
    rw [looked]
    exact ⟨finished, rfl, rfl⟩

/-- Between two looks time passes, with the messages that it brings. -/
theorem Watched.pass {d : Drain} {g : Gateway} {lane time : Nat} {rest : List Nat}
    {result : Gateway × Bool}
    (timeout : (d.poll g.traffic.inflight g.agenda.now).timeout = d.timeout)
    (lanes : (d.poll g.traffic.inflight g.agenda.now).lanes = lane :: rest)
    (forth : g.agenda.now < time)
    (due : time ≤ (d.poll g.traffic.inflight g.agenda.now).since +
      (d.poll g.traffic.inflight g.agenda.now).timeout)
    (watched : Watched change (d.poll g.traffic.inflight g.agenda.now) (schedule.advanceTo g time)
      result) :
    Watched change d g result := by
  have looked := Watch.run_looks ⟨g.state change, d⟩ g.agenda.now
  obtain ⟨actions, adapters, passed, state⟩ := @advanceTo_passed change g time
  obtain ⟨turns, adapters', passed', awaited, finished, answer, state'⟩ := watched
  rw [lanes] at awaited
  rw [state, Watch.run_setAdapters] at finished answer state'
  have during : acts (List.replicate d.lanes.length (.look g.agenda.now) ++
      (actions.map .act ++ turns)) = actions ++ acts turns := by
    rw [acts_append, acts_append, BridgeManager.acts_look, BridgeManager.acts_act, List.nil_append]
  refine ⟨List.replicate d.lanes.length (.look g.agenda.now) ++ (actions.map .act ++ turns), adapters',
    ?_, ?_, ?_⟩
  · rw [during]
    exact fun a member => (List.mem_append.mp member).elim (passed a) (passed' a)
  · rw [during]
    refine .of_poll ?_
    rw [lanes, ← timeout]
    exact .pass forth due passed state awaited
  · dsimp only at looked ⊢
    rw [Watch.run_append, looked, Watch.run_append, Watch.run_acts]
    exact ⟨finished, answer, state'⟩

theorem drain_watched (g : Gateway) (lanes : List Nat) (timeout : Nat) :
    Watched change { lanes, since := g.agenda.now, timeout } g (g.drain lanes timeout) := by
  refine drainWithin_induction (fun _ _ => watched_of_finished) ?_ (Nat.succ_pos _)
    (Nat.le_add_right _ _) ?_
  · exact fun _ _ _ _ _ _ => Watched.pass
  · exact Nat.add_lt_add_left (Nat.lt_succ_self _) _

/-! ### Gateways that can be reached -/

/-- The bridges of a gateway are where these actions lead to. -/
def Reached (g : Gateway) (actions : List Action) (change : Option Handover) : Prop :=
  ∃ adapters, g.state change = (State.run {} actions).setAdapters adapters

variable {g g' : Gateway} {actions : List Action}

theorem Reached.links (reached : Reached g actions change) :
    g.bridges.links = (State.run {} actions).manager.links := by
  obtain ⟨adapters, state⟩ := reached
  exact congrArg (fun s => s.manager.links) state

theorem Reached.pending (reached : Reached g actions change) :
    (State.run {} actions).change = change := by
  obtain ⟨adapters, state⟩ := reached
  exact (congrArg State.change state).symm

theorem Reached.lanes (reached : Reached g actions change) :
    g.traffic.lanes = (State.run {} actions).manager.traffic.lanes := by
  obtain ⟨adapters, state⟩ := reached
  exact congrArg (fun s => s.manager.traffic.lanes) state

theorem Reached.draining (reached : Reached g actions change) (h : Handover) :
    g.bridges.draining h = (State.run {} actions).manager.draining h := by
  rw [BridgeManager.draining, BridgeManager.draining, reached.links]

theorem Reached.step (reached : Reached g actions change) {a : Action} {change' : Option Handover}
    (state : g'.state change' = (g.state change).step a) : Reached g' (actions ++ [a]) change' := by
  obtain ⟨adapters, before⟩ := reached
  refine ⟨adapters, ?_⟩
  rw [state, before, State.step_setAdapters, State.run_append]
  rfl

theorem Reached.run (reached : Reached g actions change) {more : List Action}
    {adapters : Table AdapterCounters}
    (state : g'.state change = ((g.state change).run more).setAdapters adapters) :
    Reached g' (actions ++ more) change := by
  obtain ⟨before, there⟩ := reached
  refine ⟨adapters, ?_⟩
  rw [state, there, State.run_setAdapters, State.run_append]
  rfl

/-- Each lane that has been waited for was empty on the way, or the whole timeout has passed. -/
theorem Awaited.each {timeout since start lane : Nat} {lanes : List Nat} {during : List Action}
    (awaited : Awaited change timeout since g lanes during g') (reached : Reached g actions change)
    (begun : start ≤ since) (past : start ≤ g.agenda.now) (member : lane ∈ lanes) :
    ∃ before after g₁, during = before ++ after ∧ Reached g₁ (actions ++ before) change ∧
      start ≤ g₁.agenda.now ∧ g₁.agenda.now ≤ g'.agenda.now ∧
      (g₁.traffic.inflight lane = 0 ∨ start + timeout ≤ g₁.agenda.now) := by
  induction awaited generalizing actions with
  | done => cases member
  | @empty since first rest during g g' nothing later ih =>
    rcases List.mem_cons.mp member with rfl | behind
    · exact ⟨[], during, g, rfl, (List.append_nil actions).symm ▸ reached, past, later.now_le,
        .inl nothing⟩
    · exact ih reached past past behind
  | @late since first rest during g g' passed later ih =>
    rcases List.mem_cons.mp member with rfl | behind
    · exact ⟨[], during, g, rfl, (List.append_nil actions).symm ▸ reached, past, later.now_le,
        .inr (Nat.le_trans (Nat.add_le_add_right begun timeout) passed)⟩
    · exact ih reached past past behind
  | @pass since time first rest before after g g' adapters forth _ _ state _ ih =>
    have now : start ≤ (schedule.advanceTo g time).agenda.now := by
      rw [advanceTo_now]
      exact Nat.le_trans past (Nat.le_of_lt forth)
    obtain ⟨earlier, rest, g₁, split, there, timely⟩ := ih (reached.run state) begun now member
    rw [List.append_assoc] at there
    exact ⟨before ++ earlier, rest, g₁, by rw [split, List.append_assoc], there, timely⟩

theorem Reached.drain (reached : Reached g actions change) (lanes : List Nat) (timeout : Nat) :
    ∃ turns, (∀ a ∈ acts turns, Passes a) ∧
      Awaited change timeout g.agenda.now g lanes (acts turns) (g.drain lanes timeout).1 ∧
      let w := Watch.run ⟨State.run {} actions, { lanes, since := g.agenda.now, timeout }⟩ turns
      w.drain.lanes = [] ∧ (g.drain lanes timeout).2 = w.drain.drained ∧
        Reached (g.drain lanes timeout).1 (actions ++ acts turns) change := by
  obtain ⟨turns, adapters, passes, awaited, finished, result, state⟩ :=
    drain_watched g lanes timeout
  rw [Watch.run_state] at state
  have after := reached.run state
  obtain ⟨adapters', before⟩ := reached
  rw [before, Watch.run_setAdapters] at finished result
  exact ⟨turns, passes, awaited, finished, result, after⟩

/-- A gateway that carries a change out waits for the lanes of the link in its place. -/
theorem Reached.carryOut {h : Handover} (reached : Reached g actions (some h)) :
    ∃ turns, (∀ a ∈ acts turns, Passes a) ∧
      Awaited (some h) g.drainTimeout g.agenda.now g ((State.run {} actions).manager.draining h)
        (acts turns) (g.drain (g.bridges.draining h) g.drainTimeout).1 ∧
      let w := Watch.run ⟨State.run {} actions, { lanes := (State.run {} actions).manager.draining h,
                                                  since := g.agenda.now,
                                                  timeout := g.drainTimeout }⟩ turns
      w.drain.lanes = [] ∧ (g.drain (g.bridges.draining h) g.drainTimeout).2 = w.drain.drained ∧
        (State.run {} (actions ++ acts turns)).change = some h ∧
        Reached (g.carryOut h) (actions ++ acts turns ++ [.complete]) none := by
  have same := reached.draining h
  obtain ⟨turns, passes, awaited, finished, result, after⟩ :=
    reached.drain (g.bridges.draining h) g.drainTimeout
  rw [← same]
  exact ⟨turns, passes, awaited, finished, result, after.pending, after.step rfl⟩

/-- While a gateway waits it starts nothing. -/
theorem quiet_of_passes {s : State} (passes : ∀ a ∈ actions, Passes a) : s.Quiet actions := by
  induction actions generalizing s with
  | nil => trivial
  | cons a actions ih =>
    refine ⟨?_, ih fun a' member => passes a' (List.mem_cons_of_mem a member)⟩
    have first := passes a List.mem_cons_self
    cases a with
    | forwardLocal | intercepted | answered => exact not_false
    | _ => cases first

/-! ### What a successful wait means -/

theorem drainAll_atRest {past between : List Action} {timeout : Nat}
    (reached : Reached g (past ++ .stopAll :: between) change)
    (quiet : (State.run {} (past ++ [.stopAll])).Quiet between)
    (drained : (g.drainAll timeout).2 = true) :
    ∃ more, (∀ a ∈ more, Passes a) ∧
      Reached (g.drainAll timeout).1 (past ++ .stopAll :: between ++ more) change ∧
      ∀ id link, (g.drainAll timeout).1.bridges.links.find? id = some link →
        ∀ lane ∈ link.lanes, AtRest (past ++ .stopAll :: between ++ more) lane := by
  obtain ⟨turns, passes, _, finished, result, after⟩ :=
    reached.drain (g.bridges.links.values.flatMap Link.lanes) timeout
  refine ⟨acts turns, passes, after, fun id link installed lane member => ?_⟩
  have done := result.symm.trans drained
  rw [reached.links] at finished done
  have still := BridgeManager.State.quiet_append.mpr ⟨quiet, quiet_of_passes passes⟩
  have left := after.links ▸ installed
  rw [State.run_append] at left
  exact BridgeManager.State.drained_stopAll rfl still finished done (.inr left) member

theorem carryOut_atRest {past : List Action} {a : Action} {h : Handover}
    (idle : (State.run {} past).change = none) (reached : Reached g (past ++ [a]) (some h))
    (drained : (g.drain (g.bridges.draining h) g.drainTimeout).2 = true) :
    ∃ old more, (State.run {} past).manager.links.find? h.id = some old ∧ (∀ a ∈ more, Passes a) ∧
      Reached (g.carryOut h) (past ++ [a] ++ more ++ [.complete]) none ∧
      ∀ lane ∈ old.lanes, AtRest (past ++ [a] ++ more ++ [.complete]) lane := by
  obtain ⟨turns, passes, _, finished, result, _, after⟩ := reached.carryOut
  obtain ⟨old, before, _, rest⟩ := BridgeManager.State.drained_change idle reached.pending
    (fun a member => (passes a member).waits) finished (result.symm.trans drained)
  exact ⟨old, acts turns, before, passes, after, fun lane member => (rest lane member).2⟩

/-- What a successful drain tells, whatever else happens while it lasts.

After a stop of all forwarders, with none started again, a drain of all of them leaves every lane of
every link at rest. A drain between the beginning of an update or a removal and its end leaves the old
link at rest. Both because the count of a stopped lane does not go up, and both also when it is a
gateway that waits. -/
theorem drained_lanes_are_at_rest :
    (∀ (past between : List Action) (turns : List Turn) (since timeout : Nat),
      let begun := State.run {} (past ++ .stopAll :: between)
      let w := Watch.run ⟨begun,
        { lanes := begun.manager.links.values.flatMap Link.lanes, since, timeout }⟩ turns
      (State.run {} (past ++ [.stopAll])).Quiet (between ++ acts turns) →
      w.drain.isOver = true → w.drain.drained = true →
      ∀ id link, begun.manager.links.find? id = some link ∨
          w.state.manager.links.find? id = some link →
        ∀ lane ∈ link.lanes, AtRest (past ++ .stopAll :: between ++ acts turns) lane) ∧
    (∀ (past : List Action) (a : Action) (h : Handover) (turns : List Turn) (since timeout : Nat),
      let begun := State.run {} (past ++ [a])
      let w := Watch.run ⟨begun, { lanes := begun.manager.draining h, since, timeout }⟩ turns
      (State.run {} past).change = none → begun.change = some h →
      (∀ a ∈ acts turns, Waits a) → w.drain.isOver = true → w.drain.drained = true →
      ∃ old, (State.run {} past).manager.links.find? h.id = some old ∧
        w.state.manager.links.find? h.id = some old ∧
        ∀ lane ∈ old.lanes, AtRest (past ++ [a] ++ acts turns) lane ∧
          AtRest (past ++ [a] ++ acts turns ++ [.complete]) lane) ∧
    (∀ (t : Traffic) (lane : Nat), t.Stopped lane →
      ∀ e, (t.step e).inflight lane ≤ t.inflight lane) ∧
    (∀ (g : Gateway) (change : Option Handover) (past between : List Action) (timeout : Nat),
      Reached g (past ++ .stopAll :: between) change →
      (State.run {} (past ++ [.stopAll])).Quiet between → (g.drainAll timeout).2 = true →
      ∃ more, (∀ a ∈ more, Passes a) ∧
        Reached (g.drainAll timeout).1 (past ++ .stopAll :: between ++ more) change ∧
        ∀ id link, (g.drainAll timeout).1.bridges.links.find? id = some link →
          ∀ lane ∈ link.lanes, AtRest (past ++ .stopAll :: between ++ more) lane) ∧
    ∀ (g : Gateway) (past : List Action) (a : Action) (h : Handover),
      (State.run {} past).change = none → Reached g (past ++ [a]) (some h) →
      (g.drain (g.bridges.draining h) g.drainTimeout).2 = true →
      ∃ old more, (State.run {} past).manager.links.find? h.id = some old ∧
        (∀ a ∈ more, Passes a) ∧
        Reached (g.carryOut h) (past ++ [a] ++ more ++ [.complete]) none ∧
        ∀ lane ∈ old.lanes, AtRest (past ++ [a] ++ more ++ [.complete]) lane := by
  refine ⟨?_, ?_, fun t lane stopped e => stopped.step_inflight e, ?_, ?_⟩
  · intro past between turns since timeout begun w quiet finished drained id link installed lane member
    rw [Watch.run_state] at installed
    exact BridgeManager.State.drained_stopAll rfl quiet (List.isEmpty_iff.mp finished) drained installed
      member
  · intro past a h turns since timeout begun w idle pending waits finished drained
    obtain ⟨old, before, now, rest⟩ := BridgeManager.State.drained_change idle pending waits
      (List.isEmpty_iff.mp finished) drained
    refine ⟨old, before, ?_, rest⟩
    rw [Watch.run_state, ← BridgeManager.State.run_append]
    exact now
  · intro g change past between timeout reached quiet drained
    exact drainAll_atRest reached quiet drained
  · intro g past a h idle reached drained
    exact carryOut_atRest idle reached drained

def plainBridge : BridgeConfig :=
  { id := "b", host := "h", localSubscriptions := [{ filters := ["t"] }] }

def plainLink (lane : Nat) : Link :=
  { config := plainBridge, remote := "r", outbound := [lane], inbound := [] }

def plainChange (lane : Nat) : Handover := { id := "b", replacement := .link (plainLink lane) }

/-- A bridge is added and given a message. -/
def busy : List Action := [.add plainBridge "r", .forwardLocal { topic := "t" } 1]

/-- The message is delivered, after the bridge has refused another one. -/
def delivery : List Turn :=
  [.act (.intercepted 0 (.ok (.pass { topic := "t" })) true), .look 0,
    .act (.forwardLocal { topic := "t" } 2), .act (.answered 0 (.ok ())), .look 10]

theorem delivery_waits : ∀ a ∈ acts delivery, Waits a := by
  simp only [acts, delivery, Turn.action?, List.filterMap_cons, List.filterMap_nil,
    List.forall_mem_cons]
  exact ⟨trivial, trivial, trivial, fun _ member => absurd member List.not_mem_nil⟩

def busyGateway : Gateway :=
  let g : Gateway := { broker := .ofCapacity 1, drainTimeout := 20,
                       remotes := Table.empty.insert "r" { kind := .dryRun "h" } }
  ((g.addBridge plainBridge "r").1.forwardLocal { topic := "t" } 1).1

def stoppedGateway : Gateway := { busyGateway with bridges := busyGateway.bridges.stopAll }

def changingGateway : Gateway :=
  { busyGateway with bridges := (busyGateway.bridges.beginUpdate plainBridge "r").1 }

/-- The one lane of the bridge comes to rest in each of these ways. -/
theorem busy_lane_comes_to_rest :
    AtRest (busy ++ .stopAll :: [] ++ acts delivery) 0 ∧
      AtRest (busy ++ [.beginUpdate plainBridge "r"] ++ acts delivery) 0 ∧
      (∃ more, AtRest (busy ++ .stopAll :: [] ++ more) 0) ∧
      ∃ more, AtRest (busy ++ [.beginUpdate plainBridge "r"] ++ more ++ [.complete]) 0 := by
  obtain ⟨all, change, _, gateway, update⟩ := drained_lanes_are_at_rest
  have installed : (State.run {} busy).manager.links.find? "b" = some (plainLink 0) := rfl
  have pending : (State.run {} (busy ++ [.beginUpdate plainBridge "r"])).change =
      some (plainChange 1) := rfl
  refine ⟨?_, ?_, ?_, ?_⟩
  · have quiet : (State.run {} (busy ++ [.stopAll])).Quiet ([] ++ acts delivery) :=
      ⟨not_false, not_false, not_false, trivial⟩
    exact all busy [] delivery 0 100 quiet rfl rfl "b" _ (.inl installed) 0 List.mem_cons_self
  · obtain ⟨link, there, _, rest⟩ :=
      change busy _ _ delivery 0 100 rfl pending delivery_waits (by rfl) (by rfl)
    obtain rfl := Option.some.inj (there.symm.trans installed)
    exact (rest 0 List.mem_cons_self).1
  · obtain ⟨more, _, after, rest⟩ := gateway stoppedGateway none busy [] 20 ⟨{}, rfl⟩ trivial (by rfl)
    exact ⟨more, rest "b" _ (by rfl) 0 List.mem_cons_self⟩
  · obtain ⟨link, more, there, _, _, rest⟩ :=
      update changingGateway busy (.beginUpdate plainBridge "r") (plainChange 1) rfl ⟨{}, rfl⟩ (by rfl)
    obtain rfl := Option.some.inj (there.symm.trans installed)
    exact ⟨more, rest 0 List.mem_cons_self⟩

end Gateway
end EdgeGateway

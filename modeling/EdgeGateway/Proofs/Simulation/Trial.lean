import EdgeGateway.Proofs.Agenda
import EdgeGateway.Proofs.Metrics
import EdgeGateway.Proofs.Simulation.Device

/-!
# Runs of a simulated adapter

An adapter is started, stopped and made to fail any number of times, and between these its tasks take
turns in any order, also tasks that were made ready before it was stopped. `Tracked` holds in the
course of every run. Time that passes on the agenda of the adapter is such a run too.
-/

namespace EdgeGateway.Simulation

open Device (hasEnded)

/-! ### Requests -/

theorem ready_meet {τ : Type} [DecidableEq τ] {lift : Task → τ} {a : Agenda τ}
    {requests : List Request} {other : τ} :
    other ∈ (meet lift a requests).ready ↔
      other ∈ a.ready ∨ ∃ task, .run task ∈ requests ∧ lift task = other := by
  induction requests generalizing a with
  | nil => simp [meet]
  | cons r rest ih =>
    cases r with
    | run task =>
      change other ∈ (meet lift (a.wake (lift task)) rest).ready ↔ _
      rw [ih, Agenda.mem_wake]
      simp [or_assoc, eq_comm]
    | sleep task time =>
      change other ∈ (meet lift (a.sleep (lift task) time) rest).ready ↔ _
      rw [ih]
      simp [Agenda.sleep]
    | count counter =>
      change other ∈ (meet lift a rest).ready ↔ _
      rw [ih]
      simp

theorem mem_counted {requests : List Request} {k : AdapterCounter} :
    k ∈ counted requests ↔ .count k ∈ requests := by
  rw [counted, List.mem_filterMap]
  constructor
  · rintro ⟨r, member, found⟩
    cases r with
    | count counter =>
      cases found
      exact member
    | run task => cases found
    | sleep task time => cases found
  · exact fun member => ⟨_, member, rfl⟩

namespace Trial

/-! ### Acts -/

/-- What can happen to an adapter. -/
inductive Act where
  | start
  | stop
  | failTransfer (node : String)
  | turn (task : Task)
  | pass (time : Nat)
  /-- How publishes are answered from now on. -/
  | answer (failure : Option PublishFault)

/-- The agenda, less the task whose turn it is. -/
def agendaFor (t : Trial) : Act → Agenda Task
  | .turn task => { t.agenda with ready := t.agenda.ready.erase task }
  | .pass time => t.agenda.moveTo time
  | _ => t.agenda

def act (t : Trial) (a : Act) : Trial :=
  let t := { t with agenda := t.agendaFor a }
  match a with
  | .start => t.onDevice Device.start
  | .stop => t.onDevice Device.stop
  | .failTransfer node => t.onDevice fun d => (d.failTransfer node).1
  | .turn task => t.poll task
  | .pass _ => t
  | .answer failure => { t with failure }

def run (t : Trial) (acts : List Act) : Trial := acts.foldl act t

theorem run_concat (t : Trial) (acts : List Act) (a : Act) :
    t.run (acts ++ [a]) = (t.run acts).act a := by
  rw [run, List.foldl_append]
  rfl

/-- What an act is to the adapter. -/
def event? (t : Trial) : Act → Option Device.Event
  | .start => some .start
  | .stop => some .stop
  | .failTransfer node => some (.failTransfer node)
  | .turn (.generator i) => some (.generator t.agenda.now i)
  | .turn (.consumer i) => some (.consumer t.agenda.now i)
  | .turn (.resubscription number) => some (.resubscription number)
  | .turn (.send number) => some (.answered number (t.failure.elim (.ok ()) .error))
  | .pass _ => none
  | .answer _ => none

variable {t : Trial} {a : Act}

theorem act_idle (idle : t.event? a = none) :
    (t.act a).device = t.device ∧ (t.act a).agenda = t.agendaFor a ∧
      (t.act a).counters = t.counters := by
  cases a with
  | pass time => exact ⟨rfl, rfl, rfl⟩
  | answer failure => exact ⟨rfl, rfl, rfl⟩
  | turn task => cases task <;> cases idle
  | start => cases idle
  | stop => cases idle
  | failTransfer node => cases idle

/-- An act is an event for the adapter, whose requests are then met. -/
theorem act_event {e : Device.Event} (event : t.event? a = some e) (met : t.device.requests = []) :
    (t.act a).device = { t.device.step e with requests := [] } ∧
      (t.act a).agenda = meet id (t.agendaFor a) (t.device.step e).requests ∧
      (t.act a).counters = (counted (t.device.step e).requests).foldl
        (fun c counter => c.add 1 counter) t.counters := by
  cases a with
  | turn task =>
    cases task with
    | send number =>
      cases event
      cases there : t.device.sends[number]? with
      | none =>
        have same : t.device.step (.answered number (t.failure.elim (.ok ()) .error)) = t.device := by
          simp [Device.step, Device.answered, there]
        have idle : t.act (.turn (.send number)) =
            { t with agenda := t.agendaFor (.turn (.send number)) } := by
          simp [act, poll, send, there]
        rw [same, idle, met]
        exact ⟨by rw [← met], rfl, rfl⟩
      | some s =>
        cases failing : t.failure with
        | none =>
          have sent : t.act (.turn (.send number)) =
              ({ t with agenda := t.agendaFor (.turn (.send number))
                        published := t.published ++ [s.publish] } : Trial).onDevice
                (·.answered number (.ok ())) := by
            simp [act, poll, send, there, failing]
          rw [sent]
          exact ⟨rfl, rfl, rfl⟩
        | some fault =>
          have sent : t.act (.turn (.send number)) =
              ({ t with agenda := t.agendaFor (.turn (.send number)) } : Trial).onDevice
                (·.answered number (.error fault)) := by
            simp [act, poll, send, there, failing]
          rw [sent]
          exact ⟨rfl, rfl, rfl⟩
    | generator i =>
      cases event
      exact ⟨rfl, rfl, rfl⟩
    | consumer i =>
      cases event
      exact ⟨rfl, rfl, rfl⟩
    | resubscription number =>
      cases event
      exact ⟨rfl, rfl, rfl⟩
  | pass time => cases event
  | answer failure => cases event
  | start =>
    cases event
    exact ⟨rfl, rfl, rfl⟩
  | stop =>
    cases event
    exact ⟨rfl, rfl, rfl⟩
  | failTransfer node =>
    cases event
    exact ⟨rfl, rfl, rfl⟩

/-! ### What every run keeps -/

/-- The adapter is steady, and what is to be subscribed again will have its turn. -/
structure Tracked (p : Plan) (t : Trial) : Prop where
  steady : t.device.Steady
  plan : t.device.plan = p
  met : t.device.requests = []
  scheduled : ∀ (k : Nat) (s : FieldSubscription), t.device.resubscriptions[k]? = some (some s) →
    .resubscription k ∈ t.agenda.ready

theorem tracked_ofPlan (id : String) {c : Config} {p : Plan} (planned : c.plan = .ok p) :
    Tracked p { device := .ofPlan id p } where
  steady := Device.steady_ofPlan id planned
  plan := rfl
  met := rfl
  scheduled := by intro k s due; cases due

/-- A task stays ready until its turn. -/
theorem ready_agendaFor {task : Task} (ready : task ∈ t.agenda.ready) (other : a ≠ .turn task) :
    task ∈ (t.agendaFor a).ready := by
  cases a with
  | turn task' =>
    have different : task ≠ task' := fun same => other (same ▸ rfl)
    exact (List.mem_erase_of_ne different).mpr ready
  | pass time => exact Agenda.mem_moveTo ready time
  | start => exact ready
  | stop => exact ready
  | failTransfer node => exact ready
  | answer failure => exact ready

theorem event?_ne_closeClient {e : Device.Event} (event : t.event? a = some e) :
    e ≠ .closeClient := by
  rintro rfl
  cases a with
  | turn task => cases task <;> cases event
  | start => cases event
  | stop => cases event
  | failTransfer node => cases event
  | pass time => cases event
  | answer failure => cases event

variable {p : Plan}

theorem Tracked.act (tracked : Tracked p t) (a : Act) : Tracked p (t.act a) := by
  cases event : t.event? a with
  | none =>
    obtain ⟨device, agenda, _⟩ := act_idle event
    refine ⟨device ▸ tracked.steady, device ▸ tracked.plan, device ▸ tracked.met, ?_⟩
    intro k s due
    rw [device] at due
    rw [agenda]
    refine ready_agendaFor (tracked.scheduled k s due) ?_
    rintro rfl
    cases event
  | some e =>
    obtain ⟨device, agenda, _⟩ := act_event event tracked.met
    have stepped := tracked.steady.step (event?_ne_closeClient event)
    refine ⟨?_, ?_, ?_, ?_⟩
    · rw [device]
      exact stepped.onward (stepped.toWired.onward rfl rfl (fun _ => id) (.refl _) rfl rfl)
        rfl rfl rfl rfl rfl
    · rw [device]
      exact (t.device.step_plan e).trans tracked.plan
    · rw [device]
    · intro k s due
      rw [device] at due
      rw [agenda, ready_meet]
      rcases tracked.steady.due_step due with ⟨before, other⟩ | asked
      · refine .inl (ready_agendaFor (tracked.scheduled k s before) ?_)
        rintro rfl
        exact other (Option.some.inj event).symm
      · exact .inr ⟨_, asked, rfl⟩

theorem run_tracked (tracked : Tracked p t) (acts : List Act) : Tracked p (t.run acts) := by
  induction acts using List.reverseRecOn with
  | nil => exact tracked
  | append_singleton acts a ih =>
    rw [run_concat]
    exact ih.act a

/-! ### Failed transfers -/

/-- What an act answers that lets a transfer fail. -/
def failures (t : Trial) : Act → List Bool
  | .failTransfer node => [(t.device.failTransfer node).2]
  | _ => []

theorem count_asksOnly {d d' : Device} (asks : d.AsksOnly d') (met : d.requests = []) :
    (counted d'.requests).count .transfersFailed = 0 := by
  obtain ⟨more, requests, quiet⟩ := asks
  rw [requests, met, List.nil_append, List.count_eq_zero, mem_counted]
  exact quiet

/-- A transfer that fails is counted once, and nothing else is counted as one. -/
theorem Tracked.count_step (tracked : Tracked p t) {e : Device.Event}
    (event : t.event? a = some e) :
    (counted (t.device.step e).requests).count .transfersFailed = (t.failures a).count true := by
  have calm (calm : ∀ node, a ≠ .failTransfer node)
      (asks : t.device.AsksOnly (t.device.step e)) :
      (counted (t.device.step e).requests).count .transfersFailed = (t.failures a).count true := by
    have none_failed : t.failures a = [] := by
      unfold failures
      split
      next node => exact absurd rfl (calm node)
      next => rfl
    rw [count_asksOnly asks tracked.met, none_failed]
    rfl
  cases a with
  | failTransfer node =>
    cases event
    change (counted (t.device.failTransfer node).1.requests).count .transfersFailed = _
    rw [failures]
    cases found : t.device.client.feeds.find? node with
    | none =>
      rw [Device.failTransfer_absent found, tracked.met]
      rfl
    | some i =>
      obtain ⟨_, _, failed, _⟩ := tracked.steady.fed.failTransfer found
      rw [Device.failTransfer_shape found failed, tracked.met]
      cases t.device.running <;> rfl
  | turn task =>
    refine calm (by simp) ?_
    cases task with
    | resubscription number =>
      cases event
      exact t.device.runResubscription_asksOnly number
    | generator i =>
      cases event
      exact (t.device.step_calm (by simp) (by simp)).2
    | consumer i =>
      cases event
      exact (t.device.step_calm (by simp) (by simp)).2
    | send number =>
      cases event
      exact (t.device.step_calm (by simp) (by simp)).2
  | start =>
    cases event
    exact calm (by simp) (t.device.step_calm (by simp) (by simp)).2
  | stop =>
    cases event
    exact calm (by simp) (t.device.step_calm (by simp) (by simp)).2
  | pass time => cases event
  | answer failure => cases event

theorem Tracked.act_transfersFailed (tracked : Tracked p t) (a : Act) :
    (t.act a).counters.transfersFailed =
      t.counters.transfersFailed + (t.failures a).count true := by
  cases event : t.event? a with
  | none =>
    obtain ⟨_, _, counters⟩ := act_idle event
    rw [counters]
    cases a with
    | failTransfer node => cases event
    | _ => rfl
  | some e =>
    obtain ⟨_, _, counters⟩ := act_event event tracked.met
    rw [counters, ← tracked.count_step event]
    exact AdapterCounters.get_foldl_add _ _ .transfersFailed

theorem run_transfersFailed (tracked : Tracked p t) (none_yet : t.counters.transfersFailed = 0)
    (acts : List Act) :
    (t.run acts).counters.transfersFailed = (yielded act failures t acts).count true := by
  induction acts using List.reverseRecOn with
  | nil => exact none_yet
  | append_singleton acts a ih =>
    rw [run_concat, (run_tracked tracked acts).act_transfersFailed, ih, yielded_concat,
      List.count_append]
    rfl

/-! ### While an adapter does not run -/

theorem Tracked.streams_off (tracked : Tracked p t) (off : t.device.running = false) :
    ∀ s ∈ t.device.client.streams, hasEnded s = true ∧ s.attended = false := by
  obtain ⟨feeds, consumers⟩ := tracked.steady.off off
  intro s member
  obtain ⟨i, there⟩ := List.mem_iff_getElem?.mp member
  constructor
  · rw [← Bool.not_eq_false]
    intro running
    have feed := tracked.steady.fed.live i s there running
    rw [feeds] at feed
    cases feed
  · rw [Bool.eq_false_iff]
    intro attended
    have consumer := tracked.steady.consumed i s there attended
    rw [consumers] at consumer
    cases consumer

/-- The turn of a consumer is without effect. -/
theorem Tracked.consumer_off (tracked : Tracked p t) (off : t.device.running = false) (i : Nat) :
    (t.act (.turn (.consumer i))).device = t.device ∧
      (t.act (.turn (.consumer i))).counters = t.counters := by
  obtain ⟨device, _, counters⟩ :=
    act_event (t := t) (a := .turn (.consumer i)) rfl tracked.met
  have same : t.device.step (.consumer t.agenda.now i) = t.device :=
    tracked.steady.runConsumer_off off t.agenda.now i
  rw [same] at device counters
  rw [tracked.met] at counters
  refine ⟨device.trans ?_, counters⟩
  rw [← tracked.met]

theorem Tracked.publishes_off (tracked : Tracked p t) (off : t.device.running = false) (a : Act) :
    (t.act a).device.publishes = t.device.publishes := by
  cases event : t.event? a with
  | none => rw [(act_idle event).1]
  | some e =>
    rw [(act_event event tracked.met).1]
    change (t.device.step e).publishes = t.device.publishes
    by_cases consumer : ∃ now i, e = .consumer now i
    · obtain ⟨now, i, rfl⟩ := consumer
      have same : t.device.step (.consumer now i) = t.device :=
        tracked.steady.runConsumer_off off now i
      rw [same]
    · refine t.device.step_publishes fun now i same => consumer ⟨now, i, same⟩

/-! ### While it runs -/

/-- When nothing is to be subscribed again each node has its feed. -/
theorem Tracked.subscriptionCount (tracked : Tracked p t) (on : t.device.running = true)
    (idle : ∀ k, .resubscription k ∉ t.agenda.ready)
    (once : (p.subscriptions.map FieldSubscription.nodeId).Nodup) :
    t.device.client.subscriptionCount = p.subscriptions.length := by
  have steady := tracked.steady
  have same : t.device.client.feeds.keys.Perm (p.subscriptions.map FieldSubscription.nodeId) := by
    rw [List.perm_ext_iff_of_nodup steady.fed.feeds.nodup once]
    intro node
    constructor
    · intro member
      obtain ⟨i, found⟩ := Option.isSome_iff_exists.mp (Table.mem_keys.mp member)
      obtain ⟨s, there, rfl⟩ := steady.fed.fed node i found
      exact List.mem_map_of_mem (tracked.plan ▸ steady.planned i s there)
    · intro member
      obtain ⟨s, planned, rfl⟩ := List.mem_map.mp member
      refine Table.mem_keys.mpr ((steady.on on s (tracked.plan ▸ planned)).resolve_right ?_)
      intro due
      obtain ⟨k, there⟩ := List.mem_iff_getElem?.mp due
      exact idle k (tracked.scheduled k s there)
  have lengths := same.length_eq
  rw [List.length_map] at lengths
  rw [← lengths, Client.subscriptionCount, Table.size, Table.keys, List.length_map]

/-! ### The passing of time -/

/-- An adapter that is left to itself takes the turns of ready tasks and lets time pass. -/
theorem advanceTo_run (t : Trial) (time : Nat) :
    ∃ acts, schedule.advanceTo t time = t.run acts ∧
      ∀ a ∈ acts, (∃ task, a = .turn task) ∨ ∃ time, a = .pass time := by
  refine Schedule.advanceTo_turns (s := schedule)
    (R := fun t t' => ∃ acts, t' = t.run acts ∧
      ∀ a ∈ acts, (∃ task, a = .turn task) ∨ ∃ time, a = .pass time) ?_ ?_ ?_ ?_ t time
  · exact fun t => ⟨[], rfl, by simp⟩
  · rintro u v w ⟨first, rfl, quiet⟩ ⟨second, rfl, quiet'⟩
    refine ⟨first ++ second, (List.foldl_append ..).symm, fun a member => ?_⟩
    exact (List.mem_append.mp member).elim (quiet a) (quiet' a)
  · intro t task rest ready
    refine ⟨[.turn task], ?_, fun a member => .inl ⟨task, List.mem_singleton.mp member⟩⟩
    have erased : t.agenda.ready.erase task = rest := by
      change t.agenda.ready = task :: rest at ready
      rw [ready, List.erase_cons_head]
    rw [← erased]
    rfl
  · intro t time
    exact ⟨[.pass time], rfl, fun a member => .inr ⟨time, List.mem_singleton.mp member⟩⟩

/-! ### Subscriptions -/

/-- The subscriptions of an adapter with an accepted configuration, in every run. A node has at most
one live generator, which is its feed. While the adapter does not run there are no feeds and no
consumers, and nothing publishes, whatever task has its turn; while it runs each node has a feed or
is about to be subscribed again, so that in the end there are as many feeds as there are sources.
Failed transfers are counted. Time that passes leads from one run to a longer one. -/
theorem nodes_stay_subscribed (id : String) (c : Config) (p : Plan) (planned : c.plan = .ok p)
    (acts : List Act) :
    let start : Trial := { device := .ofPlan id p }
    let t := start.run acts
    let d := t.device
    (∀ i s, d.client.streams[i]? = some s → s.subscription ∈ p.subscriptions ∧
      (hasEnded s = false → d.client.feeds.find? s.subscription.nodeId = some i)) ∧
    (d.running = false →
      d.client.feeds = {} ∧ d.consumers = {} ∧
      (∀ s ∈ d.client.streams, hasEnded s = true ∧ s.attended = false) ∧
      (∀ i, (t.act (.turn (.consumer i))).device = d ∧
        (t.act (.turn (.consumer i))).counters = t.counters) ∧
      ∀ a, (t.act a).device.publishes = d.publishes) ∧
    (d.running = true →
      (∀ s ∈ p.subscriptions, (d.client.feeds.find? s.nodeId).isSome = true ∨
        ∃ k : Nat, d.resubscriptions[k]? = some (some s) ∧
          .resubscription k ∈ t.agenda.ready) ∧
      ((∀ k, .resubscription k ∉ t.agenda.ready) →
        d.client.subscriptionCount = c.sources.length)) ∧
    t.counters.transfersFailed = (yielded act failures start acts).count true ∧
    ∀ time, ∃ more, schedule.advanceTo t time = start.run (acts ++ more) ∧
      ∀ a ∈ more, (∃ task, a = .turn task) ∨ ∃ time, a = .pass time := by
  intro start t d
  have fresh : Tracked p start := tracked_ofPlan id planned
  have tracked : Tracked p t := run_tracked fresh acts
  refine ⟨fun i s there => ⟨?_, fun running => ?_⟩, fun off => ?_, fun on => ⟨?_, fun idle => ?_⟩, ?_,
    fun time => ?_⟩
  · exact tracked.plan ▸ tracked.steady.planned i s there
  · exact tracked.steady.fed.live i s there running
  · obtain ⟨feeds, consumers⟩ := tracked.steady.off off
    exact ⟨feeds, consumers, tracked.streams_off off, tracked.consumer_off off,
      tracked.publishes_off off⟩
  · intro s member
    refine (tracked.steady.on on s (tracked.plan ▸ member)).imp_right fun due => ?_
    obtain ⟨k, there⟩ := List.mem_iff_getElem?.mp due
    exact ⟨k, there, tracked.scheduled k s there⟩
  · have sources := congrArg List.length (Config.plan_ids planned)
    rw [List.length_map, List.length_map, List.length_range] at sources
    rw [tracked.subscriptionCount on idle (Config.plan_nodup planned), sources]
  · exact run_transfersFailed fresh rfl acts
  · obtain ⟨more, left, quiet⟩ := t.advanceTo_run time
    exact ⟨more, left.trans (List.foldl_append ..).symm, quiet⟩

/-- A node that yields numbers below 1000. -/
def plainConfig : Config := { sources := [{ destination := "d" }] }

def plainPlan : Plan where
  interval := 1000
  nodes := [{ subscription := { nodeId := nodeId 0, topic := "d", qos := .atMostOnce }
              minValue := .ofInt 0, maxValue := .ofInt 1000 }]

/-- An adapter with one node, whose subscription fails, and which is stopped before it is made again. -/
def plainTrial (acts : List Act) : Trial := run { device := .ofPlan "p" plainPlan } acts

theorem plain_node_stays_subscribed :
    plainConfig.plan = .ok plainPlan ∧
      (plainTrial [.start]).device.client.subscriptionCount = 1 ∧
      (plainTrial [.start, .failTransfer (nodeId 0)]).counters.transfersFailed = 1 ∧
      (plainTrial [.start, .failTransfer (nodeId 0), .stop]).device.client.feeds = {} ∧
      ((plainTrial [.start, .failTransfer (nodeId 0), .stop]).act
        (.turn (.resubscription 0))).device.publishes = [] := by
  have planned : plainConfig.plan = .ok plainPlan := by decide +kernel
  obtain ⟨_, _, on, _⟩ := nodes_stay_subscribed "p" plainConfig plainPlan planned [.start]
  obtain ⟨_, _, _, count, _⟩ := nodes_stay_subscribed "p" plainConfig plainPlan planned
    [.start, .failTransfer (nodeId 0)]
  obtain ⟨_, off, _⟩ := nodes_stay_subscribed "p" plainConfig plainPlan planned
    [.start, .failTransfer (nodeId 0), .stop]
  obtain ⟨_, subscribed⟩ := on rfl
  obtain ⟨feeds, _, _, _, publishes⟩ := off rfl
  refine ⟨planned, subscribed ?_, count, feeds, publishes (.turn (.resubscription 0))⟩
  intro k due
  have ready : (plainTrial [.start]).agenda.ready = [.generator 0, .consumer 0] := rfl
  change Task.resubscription k ∈ (plainTrial [.start]).agenda.ready at due
  simp [ready] at due

end Trial
end EdgeGateway.Simulation

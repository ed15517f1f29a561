import EdgeGateway.Proofs.Simulation.Waiting

/-!
# Samples of a simulated adapter

An adapter is started, stopped and made to fail, and time passes, only when it has come to rest. Its
tasks take turns in any order meanwhile, and publishes may be answered late or never. `Balanced` holds
in the course of all such runs: each tick of a generator has been taken as a sample, or waits in its
stream and will be taken. At rest nothing waits, so that there is a publish for each tick.
-/

namespace EdgeGateway.Simulation

open Device (hasEnded)

namespace Trial

variable {t : Trial} {a : Act} {p : Plan}

/-! ### Orderly runs -/

/-- What is done to an adapter, and not by its tasks or by those that answer its publishes. -/
def Act.FromOutside : Act → Prop
  | .start | .stop | .failTransfer _ | .pass _ => True
  | .turn _ | .answer _ => False

/-- All tasks wait, except for publishes that have not been answered. -/
def Settled (t : Trial) : Prop := ∀ task ∈ t.agenda.ready, ∃ number, task = .send number

/-- An adapter is left alone until it has settled. -/
def Orderly : Trial → List Act → Prop
  | _, [] => True
  | t, a :: acts => (a.FromOutside → t.Settled) ∧ Orderly (t.act a) acts

theorem event_fromOutside {e : Device.Event} (event : t.event? a = some e) (outside : e.FromOutside) :
    a.FromOutside := by
  cases a with
  | turn task =>
    cases task <;>
    · cases event
      cases outside
  | pass time => exact trivial
  | answer failure => cases event
  | start | stop | failTransfer => exact trivial

/-- Tasks are ready from when they are asked for until their turn. -/
theorem ready_act {e : Device.Event} (event : t.event? a = some e) (met : t.device.requests = [])
    {task : Task} (either : task ∈ t.agenda.ready ∧ t.event? (.turn task) ≠ some e ∨
      .run task ∈ (t.device.step e).requests) : task ∈ (t.act a).agenda.ready := by
  obtain ⟨_, agenda, _⟩ := act_event event met
  rw [agenda, ready_meet]
  rcases either with ⟨ready, other⟩ | asked
  · refine .inl (ready_agendaFor ready ?_)
    rintro rfl
    exact other event
  · exact .inr ⟨task, asked, rfl⟩

/-! ### What all runs keep -/

theorem Tracked.served_act (tracked : Tracked p t) (served : t.device.Served) (a : Act) :
    (t.act a).device.Served := by
  cases event : t.event? a with
  | none =>
    rw [(act_idle event).1]
    exact served
  | some e =>
    rw [(act_event event tracked.met).1]
    exact (served.step tracked.steady.toWired (event?_ne_closeClient event)).congr rfl rfl

theorem run_served (tracked : Tracked p t) (served : t.device.Served) (acts : List Act) :
    (t.run acts).device.Served := by
  induction acts using List.reverseRecOn with
  | nil => exact served
  | append_singleton acts a ih =>
    rw [run_concat]
    exact (run_tracked tracked acts).served_act ih a

/-! ### What orderly runs keep -/

/-- Each tick is a sample that has been taken or waits. -/
structure Balanced (p : Plan) (ticks : List (Nat × FieldSubscription))
    (samples : List (Nat × Sample)) (t : Trial) : Prop extends Tracked p t where
  served : t.device.Served
  lone : t.device.Lone
  awake : ∀ (i : Nat) (s : Stream), t.device.client.streams[i]? = some s →
    Device.Awake t.agenda.ready i s
  balance : ∀ i, valuesAt ticks i = (valuesAt samples i).map (·.subscription) ++ t.device.left i
  planned : ∀ x ∈ samples, x.2.subscription ∈ p.subscriptions

variable {ticks : List (Nat × FieldSubscription)} {samples : List (Nat × Sample)}

/-- An adapter that has settled is at rest. -/
theorem Balanced.atRest (balanced : Balanced p ticks samples t) (settled : t.Settled) :
    t.device.AtRest where
  idle := by
    intro s member
    obtain ⟨i, there⟩ := List.mem_iff_getElem?.mp member
    have awake := balanced.awake i s there
    have empty : s.queue = [] := by
      by_contra waits
      obtain ⟨_, ready⟩ := awake.consumer waits
      obtain ⟨_, send⟩ := settled _ ready
      cases send
    refine Stream.backlog_eq_zero.mpr ⟨empty, ?_⟩
    rw [Bool.eq_false_iff]
    intro blocked
    rcases awake.generator blocked with ready | waits
    · obtain ⟨_, send⟩ := settled _ ready
      cases send
    · exact waits empty
  done := by
    intro k s due
    obtain ⟨_, send⟩ := settled _ (balanced.scheduled k s due)
    cases send

theorem Balanced.idle (balanced : Balanced p ticks samples t) (idle : t.event? a = none) :
    Balanced p (ticks ++ t.ticks a) (samples ++ t.samples a) (t.act a) := by
  obtain ⟨device, agenda, _⟩ := act_idle idle
  have no_ticks : t.ticks a = [] := by rw [Trial.ticks, idle]; rfl
  have no_samples : t.samples a = [] := by rw [Trial.samples, idle]; rfl
  rw [no_ticks, no_samples, List.append_nil, List.append_nil]
  refine ⟨balanced.toTracked.act a, device ▸ balanced.served, device ▸ balanced.lone, ?_,
    device ▸ balanced.balance, balanced.planned⟩
  intro i s there
  rw [device] at there
  have stays (task : Task) (ready : task ∈ t.agenda.ready) : task ∈ (t.act a).agenda.ready := by
    rw [agenda]
    refine ready_agendaFor ready ?_
    rintro rfl
    cases task <;> cases idle
  have awake := balanced.awake i s there
  exact ⟨fun waits => (awake.consumer waits).imp_right (stays _),
    fun blocked => (awake.generator blocked).imp_left (stays _)⟩

theorem Balanced.act (balanced : Balanced p ticks samples t) (a : Act)
    (orderly : a.FromOutside → t.Settled) :
    Balanced p (ticks ++ t.ticks a) (samples ++ t.samples a) (t.act a) := by
  cases event : t.event? a with
  | none => exact balanced.idle event
  | some e =>
    obtain ⟨device, _⟩ := act_event event balanced.met
    have wired := balanced.steady.toWired
    have live := event?_ne_closeClient event
    have rest (outside : e.FromOutside) : t.device.AtRest :=
      balanced.atRest (orderly (event_fromOutside event outside))
    -- whatever is torn down is empty, by an operation at rest or for a node that is subscribed again
    have calm := balanced.lone.calm rest
    have ticked : t.ticks a = t.device.ticks e := by rw [Trial.ticks, event]; rfl
    have taken : t.samples a = t.device.samples e := by rw [Trial.samples, event]; rfl
    have lone := balanced.lone.step balanced.served wired live rest
    rw [ticked, taken]
    refine ⟨balanced.toTracked.act a, balanced.toTracked.served_act balanced.served a, ?_, ?_,
      fun i => ?_, fun x member => ?_⟩
    · rw [device]
      exact ⟨lone.alone, lone.unfed, lone.empty⟩
    · intro i s there
      rw [device] at there
      have met := balanced.met
      refine Device.Awake.step balanced.served wired live calm (balanced.awake i)
        (fun other waits => ready_act event met (.inl ⟨waits, fun turn => ?_⟩))
        (fun other waits => ready_act event met (.inl ⟨waits, fun turn => ?_⟩))
        (fun task asked => ready_act event met (.inr asked)) there
      · exact other _ (Option.some.inj turn).symm
      · exact other _ (Option.some.inj turn).symm
    · have law := Device.step_left balanced.served wired live calm i
      have left : (t.act a).device.left i = (t.device.step e).left i := by
        rw [device]
        rfl
      rw [valuesAt_append, balanced.balance i, List.append_assoc, law, valuesAt_append,
        List.map_append, left, List.append_assoc]
    · rcases List.mem_append.mp member with before | new
      · exact balanced.planned x before
      · obtain ⟨now, s, _, there, _, same⟩ := Device.sample_source new
        rw [same, ← balanced.plan]
        exact wired.planned _ s there

theorem run_balanced (balanced : Balanced p ticks samples t) {acts : List Act}
    (orderly : Orderly t acts) : Balanced p (ticks ++ yielded Trial.act Trial.ticks t acts)
      (samples ++ yielded Trial.act Trial.samples t acts) (t.run acts) := by
  induction acts generalizing t ticks samples with
  | nil =>
    rw [yielded, yielded, List.append_nil, List.append_nil]
    exact balanced
  | cons a acts ih =>
    obtain ⟨first, rest⟩ := orderly
    have done := ih (balanced.act a first) rest
    rw [List.append_assoc, List.append_assoc] at done
    exact done

theorem balanced_ofPlan (id : String) {c : Config} {p : Plan} (planned : c.plan = .ok p)
    (sampled : ∀ node ∈ p.nodes, (sample? node.minValue node.maxValue).isSome = true) :
    Balanced p [] [] { device := .ofPlan id p } where
  toTracked := tracked_ofPlan id planned
  served := Device.served_ofPlan id sampled
  lone := Device.lone_of_done (by intro k s due; cases due)
  awake := by intro i s there; cases there
  balance := fun _ => rfl
  planned := by simp

/-- At rest each tick has been taken as a sample. -/
theorem Balanced.perm (balanced : Balanced p ticks samples t) (settled : t.Settled) :
    (ticks.map Prod.snd).Perm ((samples.map Prod.snd).map (·.subscription)) := by
  have empty (i : Nat) : t.device.left i = [] := by
    unfold Device.left
    cases there : t.device.client.streams[i]? with
    | none => rfl
    | some s => simp [(balanced.atRest settled).idle s (List.mem_of_getElem? there)]
  have same : ∀ i, valuesAt ticks i =
      valuesAt (samples.map fun x => (x.1, x.2.subscription)) i := by
    intro i
    rw [balanced.balance i, empty i, List.append_nil]
    simp [valuesAt, List.filter_map, Function.comp_def]
  have perm := perm_of_valuesAt same
  rw [List.map_map] at perm ⊢
  exact perm

/-- Samples that are of the nodes of a plan have the subscription that the plan has for the node. -/
theorem Balanced.apart (balanced : Balanced p ticks samples t) {s : FieldSubscription}
    (member : s ∈ p.subscriptions) :
    ∀ x ∈ samples.map Prod.snd, x.subscription.nodeId = s.nodeId → x.subscription = s := by
  intro x there node
  obtain ⟨y, taken, rfl⟩ := List.mem_map.mp there
  have apart := balanced.steady.apart
  rw [balanced.plan] at apart
  exact apart _ (balanced.planned y taken) s member node

/-- At rest the samples of a node are as many as its ticks. -/
theorem Balanced.ticks_count (balanced : Balanced p ticks samples t) (settled : t.Settled)
    {s : FieldSubscription} (member : s ∈ p.subscriptions) :
    ((samples.map Prod.snd).map (·.subscription)).count s =
      (ticks.map Prod.snd).countP (·.nodeId = s.nodeId) := by
  rw [(balanced.perm settled).countP_eq]
  refine List.countP_congr fun s' there => ?_
  obtain ⟨x, taken, rfl⟩ := List.mem_map.mp there
  have same : x.subscription.nodeId = s.nodeId ↔ x.subscription = s :=
    ⟨balanced.apart member x taken, fun same => same ▸ rfl⟩
  simp [same]

variable {pipeline : Pipeline}

/-- At rest each tick has been published, and answered or not, or its topic was not a valid name. -/
theorem Balanced.resolved (balanced : Balanced p ticks samples t)
    (tallied : Tallied pipeline ticks samples t) (settled : t.Settled) :
    ∃ rejected,
      t.counters.publishSuccess + rejected + t.device.pending = t.device.publishes.length ∧
      t.counters.publishFailed =
        rejected + (ticks.map Prod.snd).countP (fun s => ¬ Topic.ValidName s.topic) ∧
      t.device.publishes.length +
        (ticks.map Prod.snd).countP (fun s => ¬ Topic.ValidName s.topic) = ticks.length := by
  have taken := balanced.perm settled
  obtain ⟨rejected, resolved, failed⟩ := tallied.resolved
  rw [countP_isNone, ← taken.countP_eq] at failed
  have all := publishes_length pipeline (samples.map Prod.snd)
  rw [← tallied.publishes, ← taken.countP_eq, ← taken.length_eq, List.length_map] at all
  exact ⟨rejected, resolved, failed, all⟩

/-- At rest a node has as many publishes as ticks, if its topic is a valid name. -/
theorem Balanced.fromNode (balanced : Balanced p ticks samples t)
    (tallied : Tallied pipeline ticks samples t) (settled : t.Settled) {s : FieldSubscription}
    (member : s ∈ p.subscriptions) :
    (∀ made ∈ Simulation.fromNode s.nodeId t.device.publishes, From pipeline s made) ∧
      (Simulation.fromNode s.nodeId t.device.publishes).length =
        if Topic.ValidName s.topic then (ticks.map Prod.snd).countP (·.nodeId = s.nodeId) else 0 := by
  rw [tallied.publishes, ← balanced.ticks_count settled member]
  have apart := balanced.apart member
  refine ⟨fun made there => from_of_mem apart there, ?_⟩
  split
  next valid => exact fromNode_length apart valid
  next invalid => rw [fromNode_invalid apart invalid, List.length_nil]

/-- No sample of an adapter with an accepted configuration is lost or published twice, if values can
be drawn from all its ranges and it is left alone until it has settled. Each tick is counted as a
publish that was accepted, one that failed, or one that has not been answered. A node has as many
publishes as ticks, all of them as its subscription asks for them, unless its topic is not a valid
name: then it has none, and its ticks are counted as publishes that failed. -/
theorem samples_are_published (id : String) (c : Config) (p : Plan) (planned : c.plan = .ok p)
    (sampled : ∀ node ∈ p.nodes, (sample? node.minValue node.maxValue).isSome = true)
    (acts : List Act) (orderly : Orderly { device := .ofPlan id p } acts) :
    let start : Trial := { device := .ofPlan id p }
    let t := start.run acts
    let ticks := (yielded act Trial.ticks start acts).map Prod.snd
    let publishes := t.device.publishes
    t.Settled →
      t.counters.keepAlives = ticks.length ∧
      t.counters.keepAlives =
        t.counters.publishSuccess + t.counters.publishFailed + t.device.pending ∧
      (∀ made ∈ publishes, ∃ s ∈ p.subscriptions, From { adapterId := id, protocolId } s made) ∧
      (∀ s ∈ p.subscriptions,
        (∀ made ∈ fromNode s.nodeId publishes, From { adapterId := id, protocolId } s made) ∧
        (fromNode s.nodeId publishes).length =
          if Topic.ValidName s.topic then ticks.countP (·.nodeId = s.nodeId) else 0) ∧
      ∃ rejected,
        t.counters.publishSuccess + rejected + t.device.pending = publishes.length ∧
        t.counters.publishFailed = rejected + ticks.countP fun s => ¬ Topic.ValidName s.topic := by
  intro start t ticks publishes settled
  have balanced : Balanced p _ _ t := run_balanced (balanced_ofPlan id planned sampled) orderly
  have tallied : Tallied _ _ _ t := run_tallied (tallied_ofPlan id p) (tracked_ofPlan id planned) acts
  rw [List.nil_append, List.nil_append] at balanced tallied
  have keepAlives := tallied.keepAlives
  obtain ⟨rejected, resolved, failed, all⟩ := balanced.resolved tallied settled
  refine ⟨keepAlives.trans (List.length_map _).symm, by omega, fun made member => ?_,
    fun s member => balanced.fromNode tallied settled member, rejected, resolved, failed⟩
  have published : publishes = _ := tallied.publishes
  rw [published] at member
  obtain ⟨x, there, source⟩ := exists_from member
  obtain ⟨y, taken, rfl⟩ := List.mem_map.mp there
  exact ⟨_, balanced.planned y taken, source⟩

theorem settled_of_ready (numbers : List Nat) (ready : t.agenda.ready = numbers.map .send) :
    t.Settled := by
  intro task member
  rw [ready] at member
  obtain ⟨number, _, rfl⟩ := List.mem_map.mp member
  exact ⟨number, rfl⟩

/-- A tick before the transfer fails and one after the node has been subscribed again, while the
publishes are not answered. -/
def interruptedRun : List Act :=
  [.start, .turn (.generator 0), .turn (.consumer 0), .failTransfer (nodeId 0),
    .turn (.resubscription 0), .turn (.generator 1), .turn (.consumer 0), .turn (.consumer 1)]

theorem interruptedRun_orderly : Orderly { device := .ofPlan "p" plainPlan } interruptedRun := by
  have first : (plainTrial (interruptedRun.take 3)).agenda.ready = [0].map .send := by
    decide +kernel
  exact ⟨fun _ => settled_of_ready [] rfl, nofun, nofun,
    fun _ => settled_of_ready [0] first, nofun, nofun, nofun, nofun, trivial⟩

theorem plain_samples_are_published :
    plainConfig.plan = .ok plainPlan ∧
      (∀ node ∈ plainPlan.nodes, (sample? node.minValue node.maxValue).isSome = true) ∧
      Orderly { device := .ofPlan "p" plainPlan } interruptedRun ∧
      (plainTrial interruptedRun).Settled ∧
      (plainTrial interruptedRun).device.pending = 2 ∧
      (fromNode (nodeId 0) (plainTrial interruptedRun).device.publishes).length = 2 := by
  have planned : plainConfig.plan = .ok plainPlan := by decide +kernel
  have sampled : ∀ node ∈ plainPlan.nodes, (sample? node.minValue node.maxValue).isSome = true := by
    decide +kernel
  have last : (plainTrial interruptedRun).agenda.ready = [0, 1].map .send := by decide +kernel
  have settled : (plainTrial interruptedRun).Settled := settled_of_ready [0, 1] last
  obtain ⟨_, balance, _, nodes, _⟩ := samples_are_published "p" plainConfig plainPlan planned sampled
    interruptedRun interruptedRun_orderly settled
  obtain ⟨_, length⟩ := nodes _ List.mem_cons_self
  have counted : (run { device := .ofPlan "p" plainPlan } interruptedRun).counters =
      { keepAlives := 2, transfersFailed := 1 } := by decide +kernel
  refine ⟨planned, sampled, interruptedRun_orderly, settled, ?_, length.trans (by decide +kernel)⟩
  simp only [counted] at balance
  unfold plainTrial
  omega

/-- A node whose destination has a wildcard, which the plan does not forbid. -/
def wildcardPlan : Plan where
  interval := 1000
  nodes := [{ subscription := { nodeId := nodeId 0, topic := "a/#", qos := .atMostOnce }
              minValue := .ofInt 0, maxValue := .ofInt 1000 }]

theorem not_every_tick_is_published :
    ¬ ∀ (id : String) (c : Config) (p : Plan) (acts : List Act), c.plan = .ok p →
      Orderly { device := .ofPlan id p } acts →
        let t := run { device := .ofPlan id p } acts
        let ticks := (yielded act Trial.ticks { device := .ofPlan id p } acts).map Prod.snd
        t.Settled →
          t.counters.keepAlives =
            t.counters.publishSuccess + t.counters.publishFailed + t.device.pending ∧
          ∀ s ∈ p.subscriptions,
            (fromNode s.nodeId t.device.publishes).length = ticks.countP (·.nodeId = s.nodeId) ∧
            ∀ made ∈ fromNode s.nodeId t.device.publishes,
              From { adapterId := id, protocolId } s made := by
  intro all
  have planned : ({ sources := [{ destination := "a/#" }] } : Config).plan = .ok wildcardPlan := by
    decide +kernel
  have ready : (run { device := .ofPlan "p" wildcardPlan }
      [.start, .turn (.generator 0), .turn (.consumer 0)]).agenda.ready = [] := by decide +kernel
  obtain ⟨_, nodes⟩ := all "p" _ wildcardPlan [.start, .turn (.generator 0), .turn (.consumer 0)]
    planned ⟨fun _ => settled_of_ready [] rfl, nofun, nofun, trivial⟩
    (settled_of_ready [] ready)
  obtain ⟨length, _⟩ := nodes _ List.mem_cons_self
  revert length
  decide +kernel

end Trial

end EdgeGateway.Simulation

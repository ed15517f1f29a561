import EdgeGateway.Proofs.Adapter.Outbox
import EdgeGateway.Proofs.Simulation.Trial
import EdgeGateway.Proofs.Topic

/-!
# Publishes of a simulated adapter

Each sample that a consumer takes is published or, if its topic is not a valid name, refused. `Tallied`
says what the counters show of this in every run: the ticks, the samples that were refused, and for
each publish how it was answered, if it has been.
-/

namespace EdgeGateway.Simulation

/-! ### One publish -/

/-- A value as it is taken from a stream. -/
structure Sample where
  time : Nat
  subscription : FieldSubscription
  value : FieldValue

def Sample.publish? (p : Pipeline) (x : Sample) : Option AdapterPublish :=
  (p.publish x.time (.ok []) x.value x.subscription).toOption

/-- A publish as its subscription asks for it, with the node and the adapter it is from. -/
structure From (p : Pipeline) (s : FieldSubscription) (made : AdapterPublish) : Prop where
  topic : made.topic = s.topic
  qos : made.qos = s.qos
  expiry : made.expiry = s.expiry
  context : made.context.entries = [(nodeIdContext, s.nodeId)]
  properties : made.properties = [⟨protocolIdProperty, p.protocolId⟩, ⟨instanceIdProperty, p.adapterId⟩]

theorem publish_cases (p : Pipeline) (x : Sample) :
    (Topic.ValidName x.subscription.topic ∧ ∃ made, x.publish? p = some made ∧
      p.publish x.time (.ok []) x.value x.subscription = .ok made ∧ From p x.subscription made) ∨
    (¬ Topic.ValidName x.subscription.topic ∧ x.publish? p = none ∧
      ∃ fault, p.publish x.time (.ok []) x.value x.subscription = .error fault) := by
  rw [← Topic.checkName_iff]
  unfold Sample.publish? Pipeline.publish AdapterPublish.Draft.build
  dsimp only [AdapterPublish.Draft.withContext]
  cases Topic.checkName x.subscription.topic with
  | ok => exact .inl ⟨rfl, _, rfl, rfl, rfl, rfl, rfl, rfl, rfl⟩
  | error fault => exact .inr ⟨by simp, rfl, _, rfl⟩

/-! ### The publishes of a node -/

/-- Those publishes that say that they are from a node. -/
def fromNode (node : String) (publishes : List AdapterPublish) : List AdapterPublish :=
  publishes.filter fun made => made.context.find? nodeIdContext = some node

section Nodes
variable {p : Pipeline} {s : FieldSubscription} {made : AdapterPublish}

theorem From.node (source : From p s made) : made.context.find? nodeIdContext = some s.nodeId := by
  rw [Table.find?, source.context]
  simp

/-- If no other subscription is of the same node, all its publishes are as it asks for them. -/
theorem from_of_mem {samples : List Sample}
    (apart : ∀ x ∈ samples, x.subscription.nodeId = s.nodeId → x.subscription = s)
    (member : made ∈ fromNode s.nodeId (samples.filterMap (·.publish? p))) : From p s made := by
  obtain ⟨there, node⟩ := List.mem_filter.mp member
  obtain ⟨x, taken, published⟩ := List.mem_filterMap.mp there
  rcases publish_cases p x with ⟨_, other, same, _, source⟩ | ⟨_, refused, _⟩
  · obtain rfl := Option.some.inj (same.symm.trans published)
    rw [decide_eq_true_eq, source.node, Option.some.injEq] at node
    exact apart x taken node ▸ source
  · rw [refused] at published
    cases published

/-- Each of its samples is published, if its topic is a valid name. -/
theorem fromNode_length {samples : List Sample}
    (apart : ∀ x ∈ samples, x.subscription.nodeId = s.nodeId → x.subscription = s)
    (valid : Topic.ValidName s.topic) :
    (fromNode s.nodeId (samples.filterMap (·.publish? p))).length =
      (samples.map (·.subscription)).count s := by
  induction samples with
  | nil => rfl
  | cons x samples ih =>
    obtain ⟨here, others⟩ := List.forall_mem_cons.mp apart
    rw [List.map_cons, List.count_cons, ← ih others]
    by_cases same : x.subscription = s
    · rcases publish_cases p x with ⟨_, made, published, _, source⟩ | ⟨invalid, _⟩
      · have node : made.context.find? nodeIdContext = some s.nodeId := same ▸ source.node
        simp [fromNode, published, node, same]
      · exact absurd (same ▸ valid) invalid
    · have other : x.subscription.nodeId ≠ s.nodeId := fun node => same (here node)
      rcases publish_cases p x with ⟨_, made, published, _, source⟩ | ⟨_, refused, _⟩
      · simp [fromNode, published, source.node, other, same]
      · simp [fromNode, refused, same]

theorem publish?_isNone (x : Sample) :
    (x.publish? p).isNone = true ↔ ¬ Topic.ValidName x.subscription.topic := by
  rcases publish_cases p x with ⟨valid, _, published, _⟩ | ⟨invalid, refused, _⟩
  · simp [published, valid]
  · simp [refused, invalid]

theorem exists_from {samples : List Sample} (member : made ∈ samples.filterMap (·.publish? p)) :
    ∃ x ∈ samples, From p x.subscription made := by
  obtain ⟨x, taken, published⟩ := List.mem_filterMap.mp member
  rcases publish_cases p x with ⟨_, other, same, _, source⟩ | ⟨_, refused, _⟩
  · obtain rfl := Option.some.inj (same.symm.trans published)
    exact ⟨x, taken, source⟩
  · rw [refused] at published
    cases published

theorem countP_isNone (p : Pipeline) (samples : List Sample) :
    samples.countP (fun x => (x.publish? p).isNone) =
      (samples.map (·.subscription)).countP fun s => ¬ Topic.ValidName s.topic := by
  rw [List.countP_map]
  refine List.countP_congr fun x _ => ?_
  rw [publish?_isNone]
  simp

/-- Samples that are not published are those whose topics are not valid names. -/
theorem publishes_length (p : Pipeline) (samples : List Sample) :
    (samples.filterMap (·.publish? p)).length +
      (samples.map (·.subscription)).countP (fun s => ¬ Topic.ValidName s.topic) =
        (samples.map (·.subscription)).length := by
  rw [← countP_isNone p, List.length_map]
  induction samples with
  | nil => rfl
  | cons x samples ih =>
    cases published : x.publish? p with
    | none =>
      simp only [List.filterMap_cons, List.countP_cons, List.length_cons, published]
      exact congrArg (· + 1) ih
    | some made =>
      simp only [List.filterMap_cons, List.countP_cons, List.length_cons, published]
      rw [Nat.add_right_comm]
      exact congrArg (· + 1) ih

theorem fromNode_invalid {samples : List Sample}
    (apart : ∀ x ∈ samples, x.subscription.nodeId = s.nodeId → x.subscription = s)
    (invalid : ¬ Topic.ValidName s.topic) :
    fromNode s.nodeId (samples.filterMap (·.publish? p)) = [] := by
  rw [List.eq_nil_iff_forall_not_mem]
  intro made member
  obtain ⟨there, _⟩ := List.mem_filter.mp member
  obtain ⟨x, _, published⟩ := List.mem_filterMap.mp there
  have source := from_of_mem apart member
  rcases publish_cases p x with ⟨valid, other, same, _, source'⟩ | ⟨_, refused, _⟩
  · obtain rfl := Option.some.inj (same.symm.trans published)
    rw [← source'.topic, source.topic] at valid
    exact invalid valid
  · rw [refused] at published
    cases published

end Nodes

/-! ### What events publish and count -/

theorem counted_append (requests more : List Request) :
    counted (requests ++ more) = counted requests ++ counted more :=
  List.filterMap_append ..

namespace Device

/-- The ticks of generators, each under the number of its stream. -/
def ticks (d : Device) : Event → List (Nat × FieldSubscription)
  | .generator now i => d.client.streams[i]?.elim [] fun s =>
    List.replicate (d.client.generate now i).2 (i, s.subscription)
  | _ => []

/-- The samples that consumers take, each under the number of its stream. -/
def samples (d : Device) : Event → List (Nat × Sample)
  | .consumer now i => d.client.streams[i]?.elim [] fun s =>
    if s.attended then s.queue.map fun v => (i, ⟨now, s.subscription, v⟩) else []
  | _ => []

/-- Publishes that have not been answered yet. -/
def pending (d : Device) : Nat := d.sends.countP (·.pending)

/-- A number of ticks is counted, samples are published or counted as failed, and publishes that are
answered are counted. -/
structure Accounts (d d' : Device) (ticks : Nat) (samples : List Sample) : Prop where
  pipeline : d'.pipeline = d.pipeline
  publishes : d'.publishes = d.publishes ++ samples.filterMap (·.publish? d.pipeline)
  counters : ∃ more rejected, counted d'.requests = counted d.requests ++ more ∧
    more.count .keepAlives = ticks ∧
    more.count .publishSuccess + rejected + d'.pending =
      d.pending + (samples.filterMap (·.publish? d.pipeline)).length ∧
    more.count .publishFailed = rejected + samples.countP fun x => (x.publish? d.pipeline).isNone

variable {d d' d'' : Device}

theorem Accounts.quiet {more : List Request} (pipeline : d'.pipeline = d.pipeline)
    (sends : d'.sends = d.sends) (requests : d'.requests = d.requests ++ more)
    (others : ∀ k, .count k ∈ more → k = .transfersFailed) : Accounts d d' 0 [] where
  pipeline := pipeline
  publishes := by simp [Device.publishes, sends]
  counters := by
    have absent {k : AdapterCounter} (other : k ≠ .transfersFailed) : (counted more).count k = 0 := by
      rw [List.count_eq_zero, mem_counted]
      exact fun member => other (others k member)
    refine ⟨counted more, 0, by rw [requests, counted_append], absent (by decide), ?_, ?_⟩
    · simp [absent, pending, sends]
    · simp [absent]

theorem Accounts.trans {ticks ticks' : Nat} {samples samples' : List Sample}
    (first : Accounts d d' ticks samples) (second : Accounts d' d'' ticks' samples') :
    Accounts d d'' (ticks + ticks') (samples ++ samples') where
  pipeline := second.pipeline.trans first.pipeline
  publishes := by
    rw [second.publishes, first.publishes, first.pipeline, List.filterMap_append,
      List.append_assoc]
  counters := by
    obtain ⟨more, rejected, requests, keepAlives, resolved, failed⟩ := first.counters
    obtain ⟨more', rejected', requests', keepAlives', resolved', failed'⟩ := second.counters
    rw [first.pipeline] at resolved' failed'
    refine ⟨more ++ more', rejected + rejected', ?_, ?_, ?_, ?_⟩
    · rw [requests', requests, List.append_assoc]
    · rw [List.count_append, keepAlives, keepAlives']
    · rw [List.count_append, List.filterMap_append, List.length_append]
      omega
    · rw [List.count_append, List.countP_append]
      omega

theorem publish_accounts (d : Device) (x : Sample) :
    Accounts d (d.publish x.time x.subscription x.value) 0 [x] := by
  rcases publish_cases d.pipeline x with ⟨_, made, some_made, done, _⟩ | ⟨_, refused, fault, failed⟩
  · unfold publish
    rw [done]
    refine ⟨rfl, ?_, [], 0, ?_, rfl, ?_, ?_⟩
    · simp [publishes, some_made, ask]
    · simp [ask, counted]
    · simp [pending, ask, some_made]
    · simp [some_made]
  · unfold publish
    rw [failed]
    refine ⟨rfl, ?_, [.publishFailed], 0, ?_, rfl, ?_, ?_⟩
    · simp [publishes, refused, ask]
    · simp [ask, counted]
    · simp [pending, ask, refused]
    · simp [refused]

theorem Accounts.refl (d : Device) : Accounts d d 0 [] :=
  .quiet rfl rfl (List.append_nil _).symm (by simp)

theorem foldl_publish_accounts (d : Device) (now : Nat) (s : FieldSubscription)
    (values : List FieldValue) : Accounts d (values.foldl (fun d v => d.publish now s v) d) 0
      (values.map fun v => ⟨now, s, v⟩) := by
  induction values generalizing d with
  | nil => exact .refl d
  | cons v values ih =>
    exact (publish_accounts d ⟨now, s, v⟩).trans (ih _)

theorem runConsumer_accounts (d : Device) (now i : Nat) :
    Accounts d (d.runConsumer now i) 0 ((d.samples (.consumer now i)).map Prod.snd) := by
  simp only [runConsumer, samples]
  cases d.client.streams[i]? with
  | none => exact .refl d
  | some s =>
    simp only [Option.elim_some]
    by_cases attended : s.attended = true
    · rw [if_pos attended, if_pos attended, List.map_map]
      have published := foldl_publish_accounts d now s.subscription s.queue
      generalize s.queue.foldl (fun d v => d.publish now s.subscription v) d = d₁ at published
      have after : Accounts d₁ (({ d₁ with client := d₁.client.updateStream i fun s =>
          { s with queue := [], attended := !hasEnded s } } : Device).ask
            (if s.isBlocked then [.run (.generator i)] else [])) 0 [] :=
        .quiet rfl rfl rfl (by split <;> simp)
      have both := published.trans after
      rw [List.append_nil] at both
      exact both
    · rw [if_neg attended, if_neg attended]
      exact .refl d

theorem ticks_length (d : Device) (now i : Nat) :
    (d.ticks (.generator now i)).length = (d.client.generate now i).2 := by
  simp only [ticks, Client.generate]
  cases d.client.streams[i]? with
  | none => rfl
  | some s => exact List.length_replicate

theorem runGenerator_accounts (d : Device) (now i : Nat) :
    Accounts d (d.runGenerator now i) (d.ticks (.generator now i)).length [] := by
  have ticked : Accounts d ({ d with client := (d.client.generate now i).1 }.ask
      (List.replicate (d.client.generate now i).2 (.count .keepAlives)))
      (d.client.generate now i).2 [] := by
    refine ⟨rfl, by simp [Device.publishes, ask],
      List.replicate (d.client.generate now i).2 .keepAlives, 0, ?_, ?_, ?_, ?_⟩
    · simp [ask, counted]
    · simp
    · simp [pending, ask, List.count_replicate]
    · simp [List.count_replicate]
  rw [ticks_length, ← Nat.add_zero (d.client.generate now i).2, ← List.append_nil []]
  refine ticked.trans (.quiet rfl rfl (List.append_assoc ..).symm fun k member => ?_)
  split at member
  · simp at member
  · cases member

theorem answered_accounts (d : Device) (number : Nat) (answer : Except PublishFault Unit) :
    Accounts d (d.answered number answer) 0 [] := by
  unfold answered
  split
  next send there =>
    by_cases waiting : send.pending = true
    · rw [if_pos waiting]
      have set_eq : d.sends.set number { send with pending := false } =
          d.sends.modify number fun s => { s with pending := false } := by
        rw [List.modify_eq_set_getElem?, there]
        rfl
      have publishes : (d.sends.set number { send with pending := false }).map Send.publish =
          d.publishes := by
        rw [List.map_set]
        exact set_of_getElem? (by rw [List.getElem?_map, there]; rfl)
      have one_less : (d.sends.set number { send with pending := false }).countP (·.pending) + 1 =
          d.pending := by
        rw [set_eq]
        exact Outbox.countP_pending there waiting
      cases answer with
      | ok =>
        refine ⟨rfl, ?_, [.publishSuccess], 0, by simp [ask, counted]; rfl, rfl, ?_, rfl⟩
        · exact publishes.trans (List.append_nil _).symm
        · show 1 + 0 + (d.sends.set number { send with pending := false }).countP (·.pending) =
            d.pending + 0
          omega
      | error fault =>
        refine ⟨rfl, ?_, [.publishFailed], 1, by simp [ask, counted]; rfl, rfl, ?_, rfl⟩
        · exact publishes.trans (List.append_nil _).symm
        · show 0 + 1 + (d.sends.set number { send with pending := false }).countP (·.pending) =
            d.pending + 0
          omega
    · rw [if_neg waiting]
      exact .refl d
  · exact .refl d

/-- What every event publishes and counts. -/
theorem step_accounts (d : Device) (e : Event) :
    Accounts d (d.step e) (d.ticks e).length ((d.samples e).map Prod.snd) := by
  have tasks {d' : Device} {tasks : List Task} (pipeline : d'.pipeline = d.pipeline)
      (sends : d'.sends = d.sends) (requests : d'.requests = d.requests ++ tasks.map .run) :
      Accounts d d' 0 [] := .quiet pipeline sends requests (by simp)
  cases e with
  | start =>
    obtain ⟨_, _, _, shape⟩ := start_shape d
    show Accounts d d.start 0 []
    rw [shape]
    exact tasks rfl rfl rfl
  | stop =>
    obtain ⟨_, shape⟩ := stop_shape d
    show Accounts d d.stop 0 []
    rw [shape]
    exact tasks rfl rfl rfl
  | closeClient =>
    exact .quiet rfl rfl rfl (by simp)
  | failTransfer node =>
    show Accounts d (d.failTransfer node).1 0 []
    unfold Device.failTransfer
    cases d.client.failTransfer node with
    | none => exact .refl d
    | some failed =>
      dsimp only
      split
      · exact .quiet rfl rfl (List.append_assoc ..) (by simp)
      · exact .quiet rfl rfl rfl (by simp)
  | generator now i => exact runGenerator_accounts d now i
  | consumer now i => exact runConsumer_accounts d now i
  | resubscription number =>
    obtain ⟨_, _, _, shape⟩ := runResubscription_shape d number
    show Accounts d (d.runResubscription number) 0 []
    rw [shape]
    exact tasks rfl rfl rfl
  | answered number answer => exact answered_accounts d number answer

end Device

/-! ### What runs publish and count -/

namespace Trial

def ticks (t : Trial) (a : Act) : List (Nat × FieldSubscription) :=
  (t.event? a).elim [] t.device.ticks

def samples (t : Trial) (a : Act) : List (Nat × Sample) :=
  (t.event? a).elim [] t.device.samples

/-- The counters and publishes of an adapter after some ticks and samples. -/
structure Tallied (p : Pipeline) (ticks : List (Nat × FieldSubscription))
    (samples : List (Nat × Sample)) (t : Trial) : Prop where
  pipeline : t.device.pipeline = p
  keepAlives : t.counters.keepAlives = ticks.length
  publishes : t.device.publishes = (samples.map Prod.snd).filterMap (·.publish? p)
  resolved : ∃ rejected,
    t.counters.publishSuccess + rejected + t.device.pending = t.device.publishes.length ∧
    t.counters.publishFailed =
      rejected + (samples.map Prod.snd).countP fun x => (x.publish? p).isNone

variable {t : Trial} {plan : Plan} {p : Pipeline} {ticks : List (Nat × FieldSubscription)}
  {samples : List (Nat × Sample)}

theorem Tallied.act (tallied : Tallied p ticks samples t) (tracked : Tracked plan t) (a : Act) :
    Tallied p (ticks ++ t.ticks a) (samples ++ t.samples a) (t.act a) := by
  unfold Trial.ticks Trial.samples
  cases event : t.event? a with
  | none =>
    obtain ⟨device, _, counters⟩ := act_idle event
    dsimp only [Option.elim_none]
    rw [List.append_nil, List.append_nil]
    exact { pipeline := device ▸ tallied.pipeline
            keepAlives := counters ▸ tallied.keepAlives
            publishes := device ▸ tallied.publishes
            resolved := by
              rw [device, counters]
              exact tallied.resolved }
  | some e =>
    obtain ⟨device, _, counters⟩ := act_event event tracked.met
    obtain ⟨pipeline, publishes, more, newlyRejected, requests, keepAlives, resolved, failed⟩ :=
      t.device.step_accounts e
    obtain ⟨rejected, resolved_before, failed_before⟩ := tallied.resolved
    have counter (k : AdapterCounter) : (t.act a).counters.get k = t.counters.get k + more.count k := by
      rw [tracked.met] at requests
      rw [counters, requests]
      exact AdapterCounters.get_foldl_add more t.counters k
    have published : (t.act a).device.publishes = (t.device.step e).publishes := by
      rw [device]
      rfl
    have waiting : (t.act a).device.pending = (t.device.step e).pending := by
      rw [device]
      rfl
    dsimp only [Option.elim_some]
    rw [tallied.pipeline] at publishes resolved failed
    refine ⟨by rw [device]; exact pipeline.trans tallied.pipeline, ?_, ?_, rejected + newlyRejected,
      ?_, ?_⟩
    · rw [List.length_append, ← keepAlives, ← tallied.keepAlives]
      exact counter .keepAlives
    · rw [published, publishes, tallied.publishes, List.map_append, List.filterMap_append]
    · have success := counter .publishSuccess
      change (t.act a).counters.publishSuccess = t.counters.publishSuccess + _ at success
      rw [success, waiting, published, publishes, List.length_append]
      omega
    · have failure := counter .publishFailed
      change (t.act a).counters.publishFailed = t.counters.publishFailed + _ at failure
      rw [failure, List.map_append, List.countP_append]
      omega

theorem run_tallied (tallied : Tallied p ticks samples t) (tracked : Tracked plan t)
    (acts : List Act) : Tallied p (ticks ++ yielded Trial.act Trial.ticks t acts)
      (samples ++ yielded Trial.act Trial.samples t acts) (t.run acts) := by
  induction acts generalizing t ticks samples with
  | nil =>
    rw [yielded, yielded, List.append_nil, List.append_nil]
    exact tallied
  | cons a acts ih =>
    have rest := ih (tallied.act tracked a) (tracked.act a)
    rw [List.append_assoc, List.append_assoc] at rest
    exact rest

theorem tallied_ofPlan (id : String) (plan : Plan) :
    Tallied { adapterId := id, protocolId } [] [] { device := .ofPlan id plan } where
  pipeline := rfl
  keepAlives := rfl
  publishes := rfl
  resolved := ⟨0, rfl, rfl⟩

end Trial

end EdgeGateway.Simulation

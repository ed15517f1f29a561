import EdgeGateway.Proofs.Double
import EdgeGateway.Proofs.Simulation.Samples

/-!
# Ranges that values can be drawn from

A plan has ordered ranges with finite ends, but nothing is said about how far apart these are. Values
can be drawn from such a range exactly if its width is a finite double too (`narrow_iff`). If all
ranges are narrow no generator ever fails, and a generator whose range is not fails at its first tick
(`generators_fail_on_wide_ranges_only`).
-/

namespace EdgeGateway.Simulation

open Device (hasEnded)

/-! ### Widths -/

/-- The exact width of the range of a node is not rounded to an infinity. -/
def Node.Narrow (n : Node) : Prop :=
  n.maxValue.units - n.minValue.units < (Double.overflowThreshold * pow2 1074 : Nat)

instance (n : Node) : Decidable n.Narrow := inferInstanceAs (Decidable (_ < _))

theorem isRange_ordered {low high : Double} (range : isRange low high = true) :
    low.units ≤ high.units := by
  simp only [isRange, Bool.and_eq_true, Bool.not_eq_true'] at range
  obtain ⟨⟨finite, finite'⟩, ordered⟩ := range
  rw [Double.lt_of_finite finite' finite, decide_eq_false_iff_not] at ordered
  exact Int.not_lt.mp ordered

theorem sample?_isSome {low high : Double} :
    (sample? low high).isSome = (high.sub low).isFinite := by
  unfold sample?
  split
  next finite => rw [finite]; rfl
  next infinite => rw [Bool.not_eq_true] at infinite; rw [infinite]; rfl

theorem node_range {index : Nat} {s : Source} {node : Node} (made : s.node index = .ok node) :
    isRange node.minValue node.maxValue = true := by
  unfold Source.node at made
  split at made
  · cases made
  · split at made
    next range =>
      cases made
      exact range
    · cases made

theorem nodesFrom_made {index : Nat} {sources : List Source} {nodes : List Node}
    (made : nodesFrom index sources = .ok nodes) :
    ∀ node ∈ nodes, ∃ index, ∃ s ∈ sources, s.node index = .ok node := by
  induction sources generalizing index nodes with
  | nil =>
    cases made
    simp
  | cons s rest ih =>
    unfold nodesFrom at made
    cases first : s.node index with
    | error fault => simp [first, bind, Except.bind] at made
    | ok node =>
      cases others : nodesFrom (index + 1) rest with
      | error fault => simp [first, others, bind, Except.bind] at made
      | ok more =>
        simp only [first, others, bind, Except.bind, pure, Except.pure, Except.ok.injEq] at made
        rw [← made, List.forall_mem_cons]
        refine ⟨⟨index, s, List.mem_cons_self, first⟩, fun other member => ?_⟩
        obtain ⟨place, source, there, same⟩ := ih others other member
        exact ⟨place, source, List.mem_cons_of_mem _ there, same⟩

theorem Config.plan_ranges {c : Config} {p : Plan} (planned : c.plan = .ok p) :
    ∀ node ∈ p.nodes, isRange node.minValue node.maxValue = true := by
  unfold Config.plan at planned
  split at planned
  · cases made : nodesFrom 0 c.sources with
    | error fault => simp [made, bind, Except.bind] at planned
    | ok nodes =>
      simp only [made, bind, Except.bind, pure, Except.pure, Except.ok.injEq] at planned
      intro node member
      rw [← planned] at member
      obtain ⟨_, _, _, same⟩ := nodesFrom_made made node member
      exact node_range same
  · cases planned

/-- Values can be drawn from an accepted range exactly if it is narrow. -/
theorem narrow_iff {c : Config} {p : Plan} (planned : c.plan = .ok p) {node : Node}
    (member : node ∈ p.nodes) :
    node.Narrow ↔ (sample? node.minValue node.maxValue).isSome = true := by
  have ordered := isRange_ordered (Config.plan_ranges planned node member)
  rw [sample?_isSome, Double.sub_finite_iff, Node.Narrow]
  generalize Double.overflowThreshold * pow2 1074 = threshold
  omega

/-! ### Generators -/

namespace Stream

variable {s s' : Stream} {interval now : Nat} {tick : Bool}

theorem put_live (attended : s.attended = true) (value : FieldValue) (due : Nat) :
    hasEnded (s.put value due) = false := by
  unfold put
  rw [attended]
  split
  next out => cases out
  next => split <;> rfl

theorem move_live (attended : s.attended = true) (sampled : s.Sampled)
    (moved : s.move interval now = some (s', tick)) : hasEnded s' = false := by
  unfold move at moved
  split at moved
  · cases moved
    rfl
  · obtain ⟨value, drawn⟩ := Option.isSome_iff_exists.mp sampled
    rw [drawn] at moved
    split at moved
    · cases moved
      exact put_live attended _ _
    · cases moved
  · split at moved
    · cases moved
      exact put_live attended _ _
    · cases moved
  · cases moved

/-- A generator goes on as long as its values can be drawn and are taken. -/
theorem generate_live (attended : s.attended = true) (sampled : s.Sampled)
    (live : hasEnded s = false) (fuel : Nat) : hasEnded (s.generate interval now fuel).1 = false := by
  induction fuel generalizing s with
  | zero => exact live
  | succ fuel ih =>
    unfold generate
    split
    · exact live
    next s' tick moved =>
      obtain ⟨pace, queue, same⟩ := move_shape moved
      have attended' : s'.attended = true := by rw [same, attended]
      have sampled' : s'.Sampled := by rw [same]; exact sampled
      exact ih attended' sampled' (move_live attended sampled moved)

/-- A generator that can draw nothing fails at its first tick. -/
theorem generate_unsampled (fresh : s.pace = .fresh) (unsampled : ¬ s.Sampled) (fuel : Nat) :
    s.generate interval now (fuel + 2) = ({ s with pace := .ended }, 1) := by
  have first : s.move interval now = some ({ s with pace := .ticking now }, false) := by
    rw [move, fresh]
  have nothing : sample? s.minValue s.maxValue = none := Option.not_isSome_iff_eq_none.mp unsampled
  have second : ({ s with pace := .ticking now } : Stream).move interval now =
      some ({ s with pace := .ended }, true) := by
    simp [move, nothing]
  rw [generate, first]
  dsimp only
  rw [generate, second]
  dsimp only
  rw [generate_ended rfl]
  rfl

end Stream

/-! ### The first start -/

/-- The stream that a node has at first. -/
def Node.stream (n : Node) : Stream := .fresh n.subscription (n.minValue, n.maxValue)

namespace Device

variable {d : Device} {n : Node} {nodes : List Node}

theorem subscribe_new
    (known : d.client.ranges.find? (·.1 = n.subscription.nodeId) =
      some (n.subscription.nodeId, n.minValue, n.maxValue))
    (unfed : d.client.feeds.find? n.subscription.nodeId = none)
    (idle : d.consumers.find? n.subscription.nodeId = none) :
    (d.subscribe n.subscription).client = { d.client with
        streams := d.client.streams ++ [n.stream]
        feeds := d.client.feeds.insert n.subscription.nodeId d.client.streams.length } ∧
      (d.subscribe n.subscription).consumers =
        d.consumers.insert n.subscription.nodeId d.client.streams.length := by
  have opened : d.client.subscribe n.subscription = .ok ({ d.client with
      streams := d.client.streams ++ [n.stream]
      feeds := d.client.feeds.insert n.subscription.nodeId d.client.streams.length },
        d.client.streams.length) := by
    rw [Client.subscribe, known, unfed]
    rfl
  obtain ⟨tasks, subscribed⟩ := subscribe_eq opened
  rw [subscribed, idle]
  exact ⟨rfl, rfl⟩

theorem foldl_subscribe_new
    (known : ∀ n ∈ nodes, d.client.ranges.find? (·.1 = n.subscription.nodeId) =
      some (n.subscription.nodeId, n.minValue, n.maxValue))
    (once : (nodes.map (·.subscription.nodeId)).Nodup)
    (unfed : ∀ n ∈ nodes, d.client.feeds.find? n.subscription.nodeId = none)
    (idle : ∀ n ∈ nodes, d.consumers.find? n.subscription.nodeId = none) :
    ((nodes.map (·.subscription)).foldl subscribe d).client.streams =
      d.client.streams ++ nodes.map Node.stream := by
  induction nodes generalizing d with
  | nil => exact (List.append_nil _).symm
  | cons n rest ih =>
    rw [List.forall_mem_cons] at known unfed idle
    obtain ⟨fresh, once⟩ := List.nodup_cons.mp once
    obtain ⟨client, consumers⟩ := subscribe_new known.1 unfed.1 idle.1
    have other (m : Node) (member : m ∈ rest) : m.subscription.nodeId ≠ n.subscription.nodeId :=
      fun same => fresh (List.mem_map.mpr ⟨m, member, same⟩)
    rw [List.map_cons, List.foldl_cons, ih]
    · rw [client, List.append_assoc]
      rfl
    · rw [client]
      exact known.2
    · exact once
    · intro m member
      rw [client, Table.find?_insert, if_neg (other m member)]
      exact unfed.2 m member
    · intro m member
      rw [consumers, Table.find?_insert, if_neg (other m member)]
      exact idle.2 m member

theorem find?_range (once : (nodes.map (·.subscription.nodeId)).Nodup) (member : n ∈ nodes) :
    (nodes.map fun n => (n.subscription.nodeId, n.minValue, n.maxValue)).find?
        (·.1 = n.subscription.nodeId) = some (n.subscription.nodeId, n.minValue, n.maxValue) := by
  rw [List.find?_map]
  exact congrArg (Option.map _) (find?_of_nodup once member)

/-- When an adapter is started for the first time each node has its stream, in order. -/
theorem start_streams (id : String) {c : Config} {p : Plan} (planned : c.plan = .ok p) :
    (ofPlan id p).start.client.streams = p.nodes.map Node.stream := by
  have once : (p.nodes.map (·.subscription.nodeId)).Nodup := by
    have ids := Config.plan_nodup planned
    rwa [Plan.subscriptions, List.map_map] at ids
  exact foldl_subscribe_new (d := { ofPlan id p with running := true })
    (fun n member => find?_range once member) once (fun _ _ => rfl) (fun _ _ => rfl)

end Device

/-! ### Runs -/

namespace Trial

variable {t : Trial} {p : Plan} {i : Nat} {s : Stream}

/-- What generators draw in an act, for each tick a value or, where that fails, nothing. -/
def draws (t : Trial) (a : Act) : List (Option FieldValue) :=
  (t.ticks a).map fun x =>
    t.device.client.streams[x.1]?.bind fun s => sample? s.minValue s.maxValue

/-- No generator that has its turn ends by it. -/
def GoesOn (t : Trial) : Prop :=
  ∀ (i : Nat) (s : Stream), t.device.client.streams[i]? = some s → hasEnded s = false →
    ∃ s', (t.act (.turn (.generator i))).device.client.streams[i]? = some s' ∧ hasEnded s' = false

theorem generator_stream (there : t.device.client.streams[i]? = some s) :
    (t.act (.turn (.generator i))).device.client.streams[i]? =
      some (s.generate t.device.client.interval t.agenda.now Stream.moves).1 := by
  have turned : (t.act (.turn (.generator i))).device =
      { t.device.runGenerator t.agenda.now i with requests := [] } := rfl
  obtain ⟨more, shape, _⟩ := t.device.runGenerator_shape t.agenda.now i
  rw [turned, shape]
  dsimp only
  rw [Client.generate_streams, List.getElem?_modify, there, Option.map_eq_map, Option.map_some,
    if_pos rfl]

theorem generator_draws (there : t.device.client.streams[i]? = some s) :
    t.draws (.turn (.generator i)) =
      List.replicate (s.generate t.device.client.interval t.agenda.now Stream.moves).2
        (sample? s.minValue s.maxValue) := by
  have ticks : t.ticks (.turn (.generator i)) = List.replicate
      (s.generate t.device.client.interval t.agenda.now Stream.moves).2 (i, s.subscription) := by
    change t.device.ticks (.generator t.agenda.now i) = _
    rw [Device.ticks, there, Option.elim_some, Client.generate_ticks, there, Option.elim_some]
  rw [draws, ticks, List.map_replicate, there, Option.bind_some]

theorem goesOn (served : t.device.Served) : t.GoesOn := by
  intro i s there live
  have member := List.mem_of_getElem? there
  exact ⟨_, generator_stream there,
    Stream.generate_live (served.live s member live) (served.sampled s member) live _⟩

theorem isSome_of_drawn (served : t.device.Served) (a : Act) :
    ∀ drawn ∈ t.draws a, drawn.isSome = true := by
  intro drawn member
  obtain ⟨x, ticked, rfl⟩ := List.mem_map.mp member
  rw [ticks] at ticked
  cases event : t.event? a with
  | none =>
    rw [event] at ticked
    cases ticked
  | some e =>
    rw [event] at ticked
    obtain ⟨_, s, _, there⟩ := Device.tick_source ticked
    rw [there]
    exact served.sampled s (List.mem_of_getElem? there)

theorem run_draws (tracked : Tracked p t) (served : t.device.Served) (acts : List Act) :
    ∀ drawn ∈ yielded act draws t acts, drawn.isSome = true := by
  induction acts generalizing t with
  | nil => simp [yielded]
  | cons a acts ih =>
    intro drawn member
    rcases List.mem_append.mp member with first | rest
    · exact isSome_of_drawn served a drawn first
    · exact ih (tracked.act a) (tracked.served_act served a) drawn rest

/-- The generator of a node whose range is too wide fails when it has its first turn. -/
theorem wide_fails (id : String) {c : Config} (planned : c.plan = .ok p) {k : Nat} {node : Node}
    (there : p.nodes[k]? = some node) (wide : ¬ node.Narrow) :
    let t : Trial := run { device := .ofPlan id p } [.start]
    t.draws (.turn (.generator k)) = [none] ∧ ¬ t.GoesOn := by
  intro t
  have unsampled : ¬ node.stream.Sampled :=
    mt (narrow_iff planned (List.mem_of_getElem? there)).mpr wide
  have opened : t.device.client.streams[k]? = some node.stream := by
    change (Device.ofPlan id p).start.client.streams[k]? = _
    rw [Device.start_streams id planned, List.getElem?_map, there, Option.map_some]
  have failed : node.stream.generate t.device.client.interval t.agenda.now Stream.moves =
      ({ node.stream with pace := .ended }, 1) :=
    Stream.generate_unsampled rfl unsampled (queueCapacity + 1)
  constructor
  · rw [generator_draws opened, failed]
    exact congrArg ([·]) (Option.not_isSome_iff_eq_none.mp unsampled)
  · intro goes
    obtain ⟨s', after, live⟩ := goes k node.stream opened rfl
    rw [generator_stream opened, failed, Option.some.injEq] at after
    rw [← after] at live
    cases live

/-- No generator of an adapter with an accepted configuration ever fails, in whatever order its tasks
take turns, if all its ranges are narrow: each tick draws a value, and the generator goes on. A node
whose range is not narrow draws nothing at its first tick, and that is the end of its generator. -/
theorem generators_fail_on_wide_ranges_only (id : String) (c : Config) (p : Plan)
    (planned : c.plan = .ok p) :
    let start : Trial := { device := .ofPlan id p }
    ((∀ node ∈ p.nodes, node.Narrow) → ∀ acts,
      (∀ drawn ∈ yielded act draws start acts, drawn.isSome = true) ∧ (start.run acts).GoesOn) ∧
    ∀ (k : Nat) (node : Node), p.nodes[k]? = some node → ¬ node.Narrow →
      (start.run [.start]).draws (.turn (.generator k)) = [none] ∧ ¬ (start.run [.start]).GoesOn := by
  intro start
  refine ⟨fun narrow acts => ?_, fun k node there wide => wide_fails id planned there wide⟩
  have tracked : Tracked p start := tracked_ofPlan id planned
  have served : start.device.Served := Device.served_ofPlan id fun node member =>
    (narrow_iff planned member).mp (narrow node member)
  exact ⟨run_draws tracked served acts, goesOn (run_served tracked served acts)⟩

/-- A node with a range around zero. Its ends are powers of two, and its width is the next one. -/
def aroundZero (exponent : Int) : Node where
  subscription := { nodeId := nodeId 0, topic := "d", qos := .atMostOnce }
  minValue := .finite true (pow2 52) exponent
  maxValue := .finite false (pow2 52) exponent

def aroundZeroConfig (exponent : Int) : Config where
  sources := [{ destination := "d"
                minValue := (aroundZero exponent).minValue
                maxValue := (aroundZero exponent).maxValue }]

def aroundZeroPlan (exponent : Int) : Plan := { interval := 1000, nodes := [aroundZero exponent] }

/-- The width is the largest power of two among the doubles, or the least beyond them. -/
theorem only_the_wider_range_fails :
    (aroundZeroConfig 970).plan = .ok (aroundZeroPlan 970) ∧
      (aroundZeroConfig 971).plan = .ok (aroundZeroPlan 971) ∧
      (∀ acts, (run { device := .ofPlan "p" (aroundZeroPlan 970) } acts).GoesOn) ∧
      (run { device := .ofPlan "p" (aroundZeroPlan 971) } [.start]).draws (.turn (.generator 0)) =
        [none] := by
  have planned : (aroundZeroConfig 970).plan = .ok (aroundZeroPlan 970) := by decide +kernel
  have planned_wide : (aroundZeroConfig 971).plan = .ok (aroundZeroPlan 971) := by decide +kernel
  have narrow : ∀ node ∈ (aroundZeroPlan 970).nodes, node.Narrow := by decide +kernel
  have wide : ¬ (aroundZero 971).Narrow := by decide +kernel
  obtain ⟨goes, _⟩ := generators_fail_on_wide_ranges_only "p" _ _ planned
  obtain ⟨_, fails⟩ := generators_fail_on_wide_ranges_only "p" _ _ planned_wide
  exact ⟨planned, planned_wide, fun acts => (goes narrow acts).2, (fails 0 _ rfl wide).1⟩

/-- A range with finite ends that is too wide is accepted, and fails. -/
theorem not_every_accepted_range_can_be_drawn_from :
    (¬ ∀ (c : Config) (p : Plan), c.plan = .ok p → ∀ node ∈ p.nodes, node.Narrow) ∧
      (¬ ∀ (id : String) (c : Config) (p : Plan) (acts : List Act), c.plan = .ok p →
        ∀ drawn ∈ yielded act draws { device := .ofPlan id p } acts, drawn.isSome = true) ∧
      ¬ ∀ (id : String) (c : Config) (p : Plan) (acts : List Act), c.plan = .ok p →
        (run { device := .ofPlan id p } acts).GoesOn := by
  have planned : (aroundZeroConfig 971).plan = .ok (aroundZeroPlan 971) := by decide +kernel
  have wide : ¬ (aroundZero 971).Narrow := by decide +kernel
  obtain ⟨nothing, ends⟩ := wide_fails "p" planned (k := 0) rfl wide
  refine ⟨fun all => ?_, fun all => ?_, fun all => ?_⟩
  · exact wide (all _ _ planned _ List.mem_cons_self)
  · have drawn := all "p" _ _ ([.start] ++ [.turn (.generator 0)]) planned none
    rw [yielded_concat] at drawn
    cases drawn (List.mem_append_right _ (nothing ▸ List.mem_cons_self))
  · exact ends (all "p" _ _ [.start] planned)

end Trial

end EdgeGateway.Simulation

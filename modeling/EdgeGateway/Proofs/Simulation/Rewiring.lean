import EdgeGateway.Proofs.Simulation.Device
import EdgeGateway.Proofs.Simulation.Streams

/-!
# What an adapter makes of its streams

`Becomes` says what an event makes of each stream: a generator or a consumer has its turn, or streams
are torn down and others opened. `Served` is what follows for all of them, in whatever order things
happen: a stream whose generator goes on has a consumer.
-/

namespace EdgeGateway.Simulation

open Device (hasEnded)
open EdgeGateway.Simulation.Stream (Onward)

namespace Device

variable {d d' : Device}

/-! ### What events make of streams -/

/-- Consumers have streams of their nodes, streams that go on are attended, and values can be drawn
from all ranges. -/
structure Served (d : Device) : Prop where
  consumers : ∀ node i, d.consumers.find? node = some i →
    ∃ s, d.client.streams[i]? = some s ∧ s.subscription.nodeId = node
  live : ∀ s ∈ d.client.streams, hasEnded s = false → s.attended = true
  sampled : ∀ s ∈ d.client.streams, s.Sampled
  ranges : ∀ range ∈ d.client.ranges, (sample? range.2.1 range.2.2).isSome = true

/-- Streams of some nodes are torn down, and others opened. -/
structure Rewires (nodes : String → Prop) (d d' : Device) : Prop where
  ranges : d'.client.ranges = d.client.ranges
  length : d.client.streams.length ≤ d'.client.streams.length
  streams : ∀ (i : Nat) (s' : Stream), d'.client.streams[i]? = some s' →
    Stream.Rewired nodes d.client.streams[i]? s'

theorem Rewires.of_streams {nodes : String → Prop} (ranges : d'.client.ranges = d.client.ranges)
    (streams : d'.client.streams = d.client.streams) : Rewires nodes d d' where
  ranges := ranges
  length := by rw [streams]
  streams := by
    intro i s' there
    rw [streams] at there
    rw [there]
    exact .same s'

theorem Rewires.mono {nodes nodes' : String → Prop} (rewires : Rewires nodes d d')
    (more : ∀ node, nodes node → nodes' node) : Rewires nodes' d d' where
  ranges := rewires.ranges
  length := rewires.length
  streams := fun i s' there => (rewires.streams i s' there).mono more

theorem Rewires.trans {nodes : String → Prop} {d'' : Device} (first : Rewires nodes d d')
    (second : Rewires nodes d' d'') : Rewires nodes d d'' where
  ranges := second.ranges.trans first.ranges
  length := Nat.le_trans first.length second.length
  streams := by
    intro i s'' there
    have last := second.streams i s'' there
    cases middle : d'.client.streams[i]? with
    | none =>
      rw [middle] at last
      cases last with
      | opened blank =>
        have absent : d.client.streams[i]? = none :=
          List.getElem?_eq_none (Nat.le_trans first.length (List.getElem?_eq_none_iff.mp middle))
        rw [absent]
        exact .opened blank
    | some s' =>
      rw [middle] at last
      exact (first.streams i s' middle).trans last

theorem subscribe_streams {s : FieldSubscription} {c : Client} {number : Nat}
    (opened : d.client.subscribe s = .ok (c, number)) :
    ∃ range ∈ d.client.ranges, number = d.client.streams.length ∧
      (d.subscribe s).consumers = d.consumers.insert s.nodeId number ∧
      (d.subscribe s).client.ranges = d.client.ranges ∧
      (d.subscribe s).client.streams = modify? (d.consumers.find? s.nodeId) Stream.leave
        (modify? (d.client.feeds.find? s.nodeId) Stream.stopGenerator d.client.streams ++
          [.fresh s range.2]) := by
  obtain ⟨rfl, range, member, rfl⟩ := Client.subscribe_eq_ok opened
  obtain ⟨tasks, subscribed⟩ := subscribe_eq opened
  rw [subscribed]
  refine ⟨range, member, rfl, rfl, ?_, ?_⟩
  · cases d.consumers.find? s.nodeId <;> rfl
  · cases d.consumers.find? s.nodeId <;> rfl

/-- The streams of a node that is subscribed are torn down, and a new one is opened. -/
theorem subscribe_rewires (served : d.Served) (fed : d.client.Fed) (s : FieldSubscription) :
    Rewires (· = s.nodeId) d (d.subscribe s) := by
  cases opened : d.client.subscribe s with
  | error fault =>
    have same : d.subscribe s = d := by simp [Device.subscribe, opened]
    rw [same]
    exact .of_streams rfl rfl
  | ok result =>
    obtain ⟨c, number⟩ := result
    obtain ⟨range, member, rfl, _, ranges, streams⟩ := subscribe_streams opened
    refine ⟨ranges, by simp [streams, length_modify?], fun i s' there => ?_⟩
    rw [streams, getElem?_modify?] at there
    obtain ⟨s₁, between, rfl⟩ := Option.map_eq_some_iff.mp there
    by_cases last : i = d.client.streams.length
    · have absent : d.client.streams[i]? = none := List.getElem?_eq_none (Nat.le_of_eq last.symm)
      have free : d.consumers.find? s.nodeId ≠ some i := by
        intro consumer
        obtain ⟨_, there, _⟩ := served.consumers _ _ consumer
        rw [absent] at there
        cases there
      rw [← length_modify? (d.client.feeds.find? s.nodeId) Stream.stopGenerator] at last
      rw [last, List.getElem?_concat_length, Option.some.injEq] at between
      rw [if_neg free, absent, ← between]
      exact .opened (Stream.fresh_blank s (served.ranges range member))
    · rw [getElem?_concat_ne _ _ (by rwa [length_modify?]), getElem?_modify?] at between
      obtain ⟨s₀, before, rfl⟩ := Option.map_eq_some_iff.mp between
      rw [before]
      have stopped : Stream.Rewired (· = s.nodeId) (some s₀)
          (if d.client.feeds.find? s.nodeId = some i then s₀.stopGenerator else s₀) := by
        split
        next feed =>
          obtain ⟨_, there, node⟩ := fed.fed _ _ feed
          obtain rfl := Option.some.inj (before.symm.trans there)
          exact .torn node s₀.stopGenerator_torn
        next => exact .same s₀
      refine stopped.trans ?_
      by_cases consumer : d.consumers.find? s.nodeId = some i
      · obtain ⟨_, there, node⟩ := served.consumers _ _ consumer
        obtain rfl := Option.some.inj (before.symm.trans there)
        rw [if_pos consumer]
        refine .torn ?_ (Stream.leave_torn ?_)
        · split <;> exact node
        · split
          next => rfl
          next other =>
            -- if its generator went on it would be the feed of the node
            rw [← Bool.not_eq_false]
            intro running
            exact other (node ▸ fed.live i s₀ before running)
      · rw [if_neg consumer]
        exact .same _

theorem Served.rewired {nodes : String → Prop} (served : d.Served) (rewires : Rewires nodes d d')
    (consumers : ∀ node i, d'.consumers.find? node = some i →
      ∃ s, d'.client.streams[i]? = some s ∧ s.subscription.nodeId = node) : d'.Served where
  consumers := consumers
  live := by
    intro s' member
    obtain ⟨i, there⟩ := List.mem_iff_getElem?.mp member
    exact (rewires.streams i s' there).live fun s before =>
      served.live s (List.mem_of_getElem? before)
  sampled := by
    intro s' member
    obtain ⟨i, there⟩ := List.mem_iff_getElem?.mp member
    exact (rewires.streams i s' there).sampled fun s before =>
      served.sampled s (List.mem_of_getElem? before)
  ranges := by
    rw [rewires.ranges]
    exact served.ranges

/-- A stream keeps its place and its subscription. -/
theorem Rewires.kept {nodes : String → Prop} (rewires : Rewires nodes d d') {i : Nat} {s : Stream}
    (there : d.client.streams[i]? = some s) :
    ∃ s', d'.client.streams[i]? = some s' ∧ s'.subscription = s.subscription := by
  have below : i < d.client.streams.length := (List.getElem?_eq_some_iff.mp there).1
  obtain ⟨s', present⟩ : ∃ s', d'.client.streams[i]? = some s' :=
    ⟨_, List.getElem?_eq_getElem (Nat.lt_of_lt_of_le below rewires.length)⟩
  have rewired := rewires.streams i s' present
  rw [there] at rewired
  exact ⟨s', present, rewired.subscription⟩

theorem Served.subscribe (served : d.Served) (fed : d.client.Fed) (s : FieldSubscription) :
    (d.subscribe s).Served := by
  have rewires := subscribe_rewires served fed s
  refine served.rewired rewires fun node i consumer => ?_
  have kept (consumer : d.consumers.find? node = some i) :
      ∃ st, (d.subscribe s).client.streams[i]? = some st ∧ st.subscription.nodeId = node := by
    obtain ⟨_, there, same⟩ := served.consumers node i consumer
    obtain ⟨st, present, subscription⟩ := rewires.kept there
    exact ⟨st, present, subscription ▸ same⟩
  cases opened : d.client.subscribe s with
  | error fault =>
    have same : d.subscribe s = d := by simp [Device.subscribe, opened]
    rw [same] at consumer
    exact kept consumer
  | ok result =>
    obtain ⟨c, number⟩ := result
    obtain ⟨range, _, rfl, consumers, _, streams⟩ := subscribe_streams opened
    rw [consumers] at consumer
    rcases Table.find?_insert_eq_some.mp consumer with ⟨rfl, rfl⟩ | ⟨_, before⟩
    · rw [streams, getElem?_modify?]
      have last : d.client.streams.length =
          (modify? (d.client.feeds.find? s.nodeId) Stream.stopGenerator d.client.streams).length :=
        (length_modify? ..).symm
      rw [last, List.getElem?_concat_length]
      refine ⟨_, rfl, ?_⟩
      dsimp only
      split <;> rfl
    · exact kept before

/-- All nodes are subscribed one after the other. -/
theorem Served.foldl_subscribe (served : d.Served) (wired : d.Wired) (ss : List FieldSubscription)
    (planned : ∀ s ∈ ss, s ∈ d.plan.subscriptions) :
    (ss.foldl Device.subscribe d).Served ∧
      Rewires (fun _ => True) d (ss.foldl Device.subscribe d) := by
  induction ss generalizing d with
  | nil => exact ⟨served, .of_streams rfl rfl⟩
  | cons s ss ih =>
    have plan : (d.subscribe s).plan = d.plan := by
      obtain ⟨_, _, _, shape⟩ := subscribe_shape d s
      rw [shape]
    have first := (subscribe_rewires served wired.fed s).mono fun _ _ => trivial
    obtain ⟨subscribed, _⟩ := wired.subscribe (planned s List.mem_cons_self)
    obtain ⟨done, rest⟩ := ih (served.subscribe wired.fed s) subscribed fun s' member =>
      plan ▸ planned s' (List.mem_cons_of_mem s member)
    exact ⟨done, first.trans rest⟩

/-- A client that is closed has torn down all its streams. -/
theorem close_torn {c : Client} (fed : c.Fed) {i : Nat} {s' : Stream}
    (there : c.close.streams[i]? = some s') : ∃ s, c.streams[i]? = some s ∧ s.Torn s' := by
  have ended := fed.close_ended there
  have stop_stop (s : Stream) : s.stopGenerator.stopGenerator = s.stopGenerator := rfl
  rw [Client.close_eq] at there
  dsimp only at there
  rw [getElem?_foldl_modify stop_stop] at there
  split at there
  · obtain ⟨s, before, rfl⟩ := Option.map_eq_some_iff.mp there
    exact ⟨s, before, s.stopGenerator_torn⟩
  · exact ⟨s', there, rfl, rfl, rfl, ended, Nat.le_refl _⟩

theorem stop_rewires (fed : d.client.Fed) : Rewires (fun _ => True) d d.stop := by
  obtain ⟨tasks, stopped⟩ := stop_shape d
  rw [Client.foldl_updateStream] at stopped
  have leave_leave (s : Stream) : s.leave.leave = s.leave := rfl
  have closed := (Client.close_onward d.client).length_eq
  have left := ((Onward.refl d.client.close.streams).foldl_modify Stream.leave_later
    d.consumers.values).length_eq
  rw [stopped]
  refine ⟨by rw [Client.close_eq], Nat.le_of_eq (closed.trans left), fun i s' there => ?_⟩
  dsimp only at there
  rw [getElem?_foldl_modify leave_leave] at there
  split at there
  · obtain ⟨s₁, between, rfl⟩ := Option.map_eq_some_iff.mp there
    obtain ⟨s, before, torn⟩ := close_torn fed between
    rw [before]
    exact .torn trivial (torn.trans (Stream.leave_torn torn.ended))
  · obtain ⟨s, before, torn⟩ := close_torn fed there
    rw [before]
    exact .torn trivial torn

theorem failTransfer_rewires (d : Device) (node : String) :
    Rewires (fun _ => True) d (d.failTransfer node).1 := by
  unfold Device.failTransfer
  cases failed : d.client.failTransfer node with
  | none => exact .of_streams rfl rfl
  | some result =>
    obtain ⟨c, s⟩ := result
    obtain ⟨j, _, rfl⟩ := Client.failTransfer_eq_some failed
    have torn : Rewires (fun _ => True) d { d with client := { d.client with
        streams := d.client.streams.modify j Stream.stopGenerator
        feeds := d.client.feeds.erase node } } := by
      refine ⟨rfl, Nat.le_of_eq (List.length_modify ..).symm, fun i s' there => ?_⟩
      dsimp only at there
      rw [List.getElem?_modify] at there
      obtain ⟨s, before, made⟩ := Option.map_eq_some_iff.mp there
      rw [before, ← made]
      split
      · exact .torn trivial s.stopGenerator_torn
      · exact .same s
    refine torn.trans ?_
    dsimp only
    split <;> exact .of_streams rfl rfl

/-! ### Events -/

/-- The events that tear down streams of a node. -/
def Tears (d : Device) (node : String) : Event → Prop
  | .start | .stop | .closeClient | .failTransfer _ => True
  | .resubscription number =>
    ∃ s, d.resubscriptions[number]? = some (some s) ∧ node = s.nodeId
  | .generator .. | .consumer .. | .answered .. => False

/-- What becomes of a stream in an event. -/
inductive Becomes (d : Device) (e : Event) (i : Nat) : Option Stream → Stream → Prop
  | rewired {s? : Option Stream} {s' : Stream} (generator : ∀ now, e ≠ .generator now i)
      (consumer : ∀ now s, e = .consumer now i → s? = some s → s.attended = false)
      (rewired : Stream.Rewired (d.Tears · e) s? s') : Becomes d e i s? s'
  | generated {s : Stream} {now : Nat} (turn : e = .generator now i) :
    Becomes d e i (some s) (s.generate d.client.interval now Stream.moves).1
  | taken {s : Stream} {now : Nat} (turn : e = .consumer now i) (attended : s.attended = true) :
    Becomes d e i (some s) { s with queue := [], attended := !hasEnded s }

theorem runConsumer_idle {now i : Nat}
    (idle : ∀ s, d.client.streams[i]? = some s → s.attended = false) : d.runConsumer now i = d := by
  unfold runConsumer
  split
  next s there => rw [idle s there, if_neg Bool.false_ne_true]
  next => rfl

theorem runConsumer_streams {now i : Nat} {s : Stream} (there : d.client.streams[i]? = some s)
    (attended : s.attended = true) : (d.runConsumer now i).client.streams =
      d.client.streams.modify i fun s => { s with queue := [], attended := !hasEnded s } := by
  obtain ⟨_, _, published, _⟩ := foldl_publish_shape d now s.subscription s.queue
  unfold runConsumer
  rw [there]
  dsimp only
  rw [if_pos attended, published]
  rfl

/-- What is to be done again or not does not matter to streams. -/
theorem Served.congr (served : d.Served) (client : d'.client = d.client)
    (consumers : d'.consumers = d.consumers) : d'.Served where
  consumers := by rw [client, consumers]; exact served.consumers
  live := by rw [client]; exact served.live
  sampled := by rw [client]; exact served.sampled
  ranges := by rw [client]; exact served.ranges

theorem Served.start (served : d.Served) (wired : d.Wired) :
    d.start.Served ∧ Rewires (fun _ => True) d d.start := by
  have running : ({ d with running := true } : Device).Wired :=
    wired.onward rfl rfl (fun _ => id) (.refl _) rfl rfl
  have same : ({ d with running := true } : Device).Served := served.congr rfl rfl
  have first : Rewires (fun _ => True) d { d with running := true } := .of_streams rfl rfl
  obtain ⟨done, all⟩ := same.foldl_subscribe running d.plan.subscriptions fun _ => id
  exact ⟨done, first.trans all⟩

theorem Served.runResubscription (served : d.Served) (wired : d.Wired) (number : Nat) :
    (d.runResubscription number).Served ∧
      Rewires (d.Tears · (.resubscription number)) d (d.runResubscription number) := by
  by_cases due : ∃ s, d.resubscriptions[number]? = some (some s)
  · obtain ⟨s, there⟩ := due
    have same : ({ d with resubscriptions := d.resubscriptions.set number none } : Device).Served :=
      served.congr rfl rfl
    have first : Rewires (d.Tears · (.resubscription number)) d
        { d with resubscriptions := d.resubscriptions.set number none } := .of_streams rfl rfl
    have node : ∀ node, node = s.nodeId → d.Tears node (.resubscription number) :=
      fun _ same => ⟨s, there, same⟩
    rw [runResubscription_due there]
    split
    · exact ⟨same.subscribe wired.fed s, first.trans ((subscribe_rewires same wired.fed s).mono node)⟩
    · exact ⟨same, first⟩
  · rw [runResubscription_done (not_exists.mp due)]
    exact ⟨served, .of_streams rfl rfl⟩

/-- Whatever is no turn of a generator or a consumer only tears down streams and opens some. -/
theorem step_rewires (served : d.Served) (wired : d.Wired) {e : Event} (live : e ≠ .closeClient)
    (generator : ∀ now i, e ≠ .generator now i) (consumer : ∀ now i, e ≠ .consumer now i) :
    Rewires (d.Tears · e) d (d.step e) := by
  cases e with
  | start => exact (served.start wired).2
  | stop => exact stop_rewires wired.fed
  | closeClient => exact absurd rfl live
  | failTransfer node => exact failTransfer_rewires d node
  | generator now i => exact absurd rfl (generator now i)
  | consumer now i => exact absurd rfl (consumer now i)
  | resubscription number => exact (served.runResubscription wired number).2
  | answered number answer =>
    obtain ⟨_, _, shape, _⟩ := answered_shape d number answer
    show Rewires _ d (d.answered number answer)
    rw [shape]
    exact .of_streams rfl rfl

theorem step_length (served : d.Served) (wired : d.Wired) {e : Event} (live : e ≠ .closeClient) :
    d.client.streams.length ≤ (d.step e).client.streams.length := by
  cases e with
  | generator now i =>
    show _ ≤ (d.client.generate now i).1.streams.length
    rw [Client.generate_streams, List.length_modify]
  | consumer now i =>
    show _ ≤ (d.runConsumer now i).client.streams.length
    rcases runConsumer_shape d now i with same | ⟨_, _, _, _, _, shape, _⟩
    · rw [same]
    · rw [shape]
      exact Nat.le_of_eq (List.length_modify ..).symm
  | start | stop | closeClient | failTransfer | resubscription | answered =>
    exact (step_rewires served wired live (by simp) (by simp)).length

theorem step_becomes (served : d.Served) (wired : d.Wired) {e : Event} (live : e ≠ .closeClient)
    {i : Nat} {s' : Stream} (there : (d.step e).client.streams[i]? = some s') :
    Becomes d e i d.client.streams[i]? s' := by
  cases e with
  | generator now j =>
    change (d.client.generate now j).1.streams[i]? = some s' at there
    rw [Client.generate_streams, List.getElem?_modify] at there
    obtain ⟨s, before, made⟩ := Option.map_eq_some_iff.mp there
    rw [before, ← made]
    split
    next here => exact here ▸ .generated rfl
    next other =>
      have different (now') : Event.generator now j ≠ .generator now' i :=
        fun same => other (Event.generator.inj same).2
      exact .rewired different (fun _ _ same => by cases same) (.same s)
  | consumer now j =>
    change (d.runConsumer now j).client.streams[i]? = some s' at there
    by_cases attended : ∃ st, d.client.streams[j]? = some st ∧ st.attended = true
    · obtain ⟨st, present, attended⟩ := attended
      rw [runConsumer_streams present attended, List.getElem?_modify] at there
      obtain ⟨s, before, made⟩ := Option.map_eq_some_iff.mp there
      rw [before, ← made]
      split
      next here =>
        subst here
        obtain rfl := Option.some.inj (before.symm.trans present)
        exact .taken rfl attended
      next other =>
        have different (now') : Event.consumer now j ≠ .consumer now' i :=
          fun same => other (Event.consumer.inj same).2
        exact .rewired (by simp) (fun now' _ same => absurd same (different now')) (.same s)
    · have idle : ∀ s, d.client.streams[j]? = some s → s.attended = false := fun s present =>
        Bool.eq_false_iff.mpr fun on => attended ⟨s, present, on⟩
      rw [runConsumer_idle idle] at there
      rw [there]
      refine .rewired (by simp) (fun now' s same present => ?_) (.same s')
      cases same
      exact idle s (there.trans present)
  | start | stop | closeClient | failTransfer | resubscription | answered =>
    exact .rewired (by simp) (by simp)
      ((step_rewires served wired live (by simp) (by simp)).streams i s' there)

/-! ### What every event keeps -/

theorem step_ranges (served : d.Served) (wired : d.Wired) {e : Event} (live : e ≠ .closeClient) :
    (d.step e).client.ranges = d.client.ranges := by
  cases e with
  | generator now i => exact (d.client.generate_onward now i).2.2
  | consumer now i =>
    show (d.runConsumer now i).client.ranges = _
    rcases runConsumer_shape d now i with same | ⟨_, _, _, _, _, shape, _⟩
    · rw [same]
    · rw [shape]
      rfl
  | start | stop | closeClient | failTransfer | resubscription | answered =>
    exact (step_rewires served wired live (by simp) (by simp)).ranges

theorem step_kept (served : d.Served) (wired : d.Wired) {e : Event} (live : e ≠ .closeClient)
    {i : Nat} {s : Stream} (there : d.client.streams[i]? = some s) :
    ∃ s', (d.step e).client.streams[i]? = some s' ∧ s'.subscription = s.subscription ∧
      Becomes d e i (some s) s' := by
  have below : i < d.client.streams.length := (List.getElem?_eq_some_iff.mp there).1
  obtain ⟨s', present⟩ : ∃ s', (d.step e).client.streams[i]? = some s' :=
    ⟨_, List.getElem?_eq_getElem (Nat.lt_of_lt_of_le below (step_length served wired live))⟩
  have becomes := step_becomes served wired live present
  rw [there] at becomes
  refine ⟨s', present, ?_, becomes⟩
  cases becomes with
  | rewired _ _ rewired => exact rewired.subscription
  | generated => exact (s.generate_later ..).subscription
  | taken => rfl

/-- Where the streams after an event come from. -/
theorem step_cases (served : d.Served) (wired : d.Wired) {e : Event} (live : e ≠ .closeClient)
    {s' : Stream} (member : s' ∈ (d.step e).client.streams) :
    ∃ i, (d.step e).client.streams[i]? = some s' ∧ Becomes d e i d.client.streams[i]? s' := by
  obtain ⟨i, there⟩ := List.mem_iff_getElem?.mp member
  exact ⟨i, there, step_becomes served wired live there⟩

theorem Becomes.live {e : Event} {i : Nat} {s? : Option Stream} {s' : Stream}
    (becomes : Becomes d e i s? s')
    (before : ∀ s, s? = some s → hasEnded s = false → s.attended = true) :
    hasEnded s' = false → s'.attended = true := by
  intro running
  cases becomes with
  | rewired _ _ rewired => exact rewired.live before running
  | @generated s now =>
    have later := s.generate_later d.client.interval now Stream.moves
    have was_running : hasEnded s = false := by
      rw [Bool.eq_false_iff] at running ⊢
      exact fun ended => running (later.ended ended)
    rw [(s.generate_same d.client.interval now Stream.moves).2.2]
    exact before s rfl was_running
  | taken =>
    change (!hasEnded _) = true
    rw [Bool.not_eq_true']
    exact running

theorem Becomes.sampled {e : Event} {i : Nat} {s? : Option Stream} {s' : Stream}
    (becomes : Becomes d e i s? s') (before : ∀ s, s? = some s → s.Sampled) : s'.Sampled := by
  cases becomes with
  | rewired _ _ rewired => exact rewired.sampled before
  | @generated s now =>
    obtain ⟨low, high, _⟩ := s.generate_same d.client.interval now Stream.moves
    exact (before s rfl).congr low high
  | @taken s => exact (before s rfl).congr rfl rfl

/-- The table of consumers only changes where streams are opened, and is empty after a stop. -/
theorem step_consumers (d : Device) {e : Event} (start : e ≠ .start) (stop : e ≠ .stop)
    (other : ∀ number, e ≠ .resubscription number) : (d.step e).consumers = d.consumers := by
  cases e with
  | start => exact absurd rfl start
  | stop => exact absurd rfl stop
  | closeClient => rfl
  | failTransfer node =>
    show (d.failTransfer node).1.consumers = d.consumers
    unfold Device.failTransfer
    split
    · rfl
    · dsimp only
      split <;> rfl
  | generator now i => rfl
  | consumer now i =>
    show (d.runConsumer now i).consumers = d.consumers
    rcases runConsumer_shape d now i with same | ⟨_, _, _, _, _, shape, _⟩
    · rw [same]
    · rw [shape]
  | resubscription number => exact absurd rfl (other number)
  | answered number answer =>
    obtain ⟨_, _, shape, _⟩ := answered_shape d number answer
    exact (congrArg Device.consumers shape).trans rfl

theorem Served.stop (served : d.Served) (wired : d.Wired) : d.stop.Served := by
  refine served.rewired (stop_rewires wired.fed) fun node i consumer => ?_
  obtain ⟨_, shape⟩ := stop_shape d
  rw [shape] at consumer
  cases consumer

theorem Served.step (served : d.Served) (wired : d.Wired) {e : Event} (live : e ≠ .closeClient) :
    (d.step e).Served := by
  by_cases start : e = .start
  · exact start ▸ (served.start wired).1
  by_cases stop : e = .stop
  · exact stop ▸ served.stop wired
  by_cases again : ∃ number, e = .resubscription number
  · obtain ⟨number, rfl⟩ := again
    exact (served.runResubscription wired number).1
  refine ⟨fun node i consumer => ?_, fun s' member => ?_, fun s' member => ?_, ?_⟩
  · rw [step_consumers d start stop (not_exists.mp again)] at consumer
    obtain ⟨s, there, named⟩ := served.consumers node i consumer
    obtain ⟨s', there', subscription, _⟩ := step_kept served wired live there
    exact ⟨s', there', subscription ▸ named⟩
  · obtain ⟨i, _, becomes⟩ := step_cases served wired live member
    exact becomes.live fun s before => served.live s (List.mem_of_getElem? before)
  · obtain ⟨i, _, becomes⟩ := step_cases served wired live member
    exact becomes.sampled fun s before => served.sampled s (List.mem_of_getElem? before)
  · rw [step_ranges served wired live]
    exact served.ranges

theorem served_ofPlan (id : String) {p : Plan}
    (sampled : ∀ node ∈ p.nodes, (sample? node.minValue node.maxValue).isSome = true) :
    (ofPlan id p).Served where
  consumers := by intro node i consumer; cases consumer
  live := by intro s member; cases member
  sampled := by intro s member; cases member
  ranges := by
    intro range member
    obtain ⟨node, there, rfl⟩ := List.mem_map.mp member
    exact sampled node there

end Device

end EdgeGateway.Simulation

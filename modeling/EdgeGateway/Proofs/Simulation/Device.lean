import EdgeGateway.Proofs.Simulation.Client
import EdgeGateway.Proofs.Text.Numeral
import EdgeGateway.Simulation.Trial

/-!
# Subscriptions of a simulated adapter

While an adapter runs each of its nodes has a feed or is about to be subscribed again, and while it
does not run there are neither feeds nor consumers. `Steady` says so, and `Steady.step` that every
event keeps it, whatever is still to be done from before.
-/

namespace EdgeGateway.Simulation

open Device (hasEnded)
open EdgeGateway.Simulation.Stream (Onward)

/-! ### Plans -/

def Plan.subscriptions (p : Plan) : List FieldSubscription := p.nodes.map (·.subscription)

theorem nodeId_inj {i j : Nat} (same : nodeId i = nodeId j) : i = j :=
  Text.toString_inj (by simpa [nodeId] using same)

theorem node_id {index : Nat} {s : Source} {node : Node} (made : s.node index = .ok node) :
    node.subscription.nodeId = nodeId index := by
  unfold Source.node at made
  split at made
  · cases made
  · split at made
    · cases made
      rfl
    · cases made

theorem nodesFrom_ids {index : Nat} {sources : List Source} {nodes : List Node}
    (made : nodesFrom index sources = .ok nodes) :
    nodes.map (·.subscription.nodeId) = (List.range' index sources.length).map nodeId := by
  induction sources generalizing index nodes with
  | nil =>
    cases made
    rfl
  | cons s rest ih =>
    unfold nodesFrom at made
    cases first : s.node index with
    | error fault => simp [first, bind, Except.bind] at made
    | ok node =>
      cases others : nodesFrom (index + 1) rest with
      | error fault => simp [first, others, bind, Except.bind] at made
      | ok more =>
        simp only [first, others, bind, Except.bind, pure, Except.pure, Except.ok.injEq] at made
        rw [← made, List.map_cons, node_id first, ih others]
        rfl

/-- A plan has a node for each configured source, numbered in order. -/
theorem Config.plan_ids {c : Config} {p : Plan} (planned : c.plan = .ok p) :
    p.subscriptions.map FieldSubscription.nodeId = (List.range c.sources.length).map nodeId := by
  unfold Config.plan at planned
  split at planned
  · cases made : nodesFrom 0 c.sources with
    | error fault => simp [made, bind, Except.bind] at planned
    | ok nodes =>
      simp only [made, bind, Except.bind, pure, Except.pure, Except.ok.injEq] at planned
      rw [← planned, Plan.subscriptions, List.map_map, List.range_eq_range']
      exact nodesFrom_ids made
  · cases planned

theorem Config.plan_nodup {c : Config} {p : Plan} (planned : c.plan = .ok p) :
    (p.subscriptions.map FieldSubscription.nodeId).Nodup := by
  rw [Config.plan_ids planned]
  exact List.nodup_range.map fun _ _ => nodeId_inj

namespace Device

variable {d : Device}

/-! ### What the parts of an adapter leave alone -/

theorem leaveStream_shape (d : Device) (i : Nat) :
    ∃ tasks : List Task, d.leaveStream i = { d with
      client := d.client.updateStream i Stream.leave
      requests := d.requests ++ tasks.map .run } := by
  unfold leaveStream
  cases there : d.client.streams[i]? with
  | none =>
    refine ⟨[], ?_⟩
    have same : d.client.updateStream i Stream.leave = d.client := by
      rw [Client.updateStream, List.modify_eq_self (List.getElem?_eq_none_iff.mp there)]
    rw [same, List.map_nil, List.append_nil]
  | some s =>
    by_cases blocked : s.isBlocked = true
    · exact ⟨[.generator i], by simp [ask, blocked]⟩
    · exact ⟨[], by simp [ask, blocked]⟩

theorem foldl_leaveStream_shape (d : Device) (is : List Nat) :
    ∃ tasks : List Task, is.foldl leaveStream d = { d with
      client := is.foldl (fun c i => c.updateStream i Stream.leave) d.client
      requests := d.requests ++ tasks.map .run } := by
  induction is generalizing d with
  | nil => exact ⟨[], by simp⟩
  | cons i is ih =>
    obtain ⟨first, left⟩ := leaveStream_shape d i
    obtain ⟨rest, done⟩ := ih (d.leaveStream i)
    refine ⟨first ++ rest, ?_⟩
    rw [List.foldl_cons, done, left, List.foldl_cons, List.map_append, ← List.append_assoc]

/-- The new stream has a consumer; the one that the node had before leaves its stream. -/
theorem subscribe_eq {s : FieldSubscription} {client : Client} {number : Nat}
    (opened : d.client.subscribe s = .ok (client, number)) :
    ∃ tasks : List Task, d.subscribe s = { d with
      client := (d.consumers.find? s.nodeId).elim client fun old =>
        client.updateStream old Stream.leave
      consumers := d.consumers.insert s.nodeId number
      requests := d.requests ++ tasks.map .run } := by
  unfold subscribe
  rw [opened]
  dsimp only [ask]
  cases d.consumers.find? s.nodeId with
  | none => exact ⟨[.generator number, .consumer number], rfl⟩
  | some old =>
    obtain ⟨tasks, left⟩ := leaveStream_shape { d with
      client, requests := d.requests ++ [.run (.generator number), .run (.consumer number)] } old
    refine ⟨.generator number :: .consumer number :: tasks, ?_⟩
    dsimp only
    rw [left, List.append_assoc]
    rfl

theorem subscribe_shape (d : Device) (s : FieldSubscription) :
    ∃ (client : Client) (consumers : Table Nat) (tasks : List Task), d.subscribe s = { d with
      client, consumers, requests := d.requests ++ tasks.map .run } := by
  cases opened : d.client.subscribe s with
  | error fault => exact ⟨d.client, d.consumers, [], by simp [subscribe, opened]⟩
  | ok result =>
    obtain ⟨tasks, subscribed⟩ := subscribe_eq opened
    exact ⟨_, _, tasks, subscribed⟩

theorem foldl_subscribe_shape (d : Device) (ss : List FieldSubscription) :
    ∃ (client : Client) (consumers : Table Nat) (tasks : List Task), ss.foldl subscribe d = { d with
      client, consumers, requests := d.requests ++ tasks.map .run } := by
  induction ss generalizing d with
  | nil => exact ⟨d.client, d.consumers, [], by simp⟩
  | cons s ss ih =>
    obtain ⟨_, _, first, subscribed⟩ := subscribe_shape d s
    obtain ⟨client, consumers, rest, done⟩ := ih (d.subscribe s)
    refine ⟨client, consumers, first ++ rest, ?_⟩
    rw [List.foldl_cons, done, subscribed, List.map_append, ← List.append_assoc]

theorem start_shape (d : Device) :
    ∃ (client : Client) (consumers : Table Nat) (tasks : List Task), d.start = { d with
      running := true, client, consumers, requests := d.requests ++ tasks.map .run } :=
  foldl_subscribe_shape { d with running := true } d.plan.subscriptions

theorem stop_shape (d : Device) :
    ∃ tasks : List Task, d.stop = { d with
      running := false
      client := d.consumers.values.foldl (fun c i => c.updateStream i Stream.leave) d.client.close
      consumers := {}
      requests := d.requests ++ tasks.map .run } := by
  obtain ⟨tasks, left⟩ := foldl_leaveStream_shape (closeClient { d with running := false })
    d.consumers.values
  refine ⟨d.client.feeds.values.map .consumer ++ tasks, ?_⟩
  change { d.consumers.values.foldl leaveStream (closeClient { d with running := false }) with
    consumers := {} } = _
  rw [left]
  simp [closeClient, ask]

theorem publish_shape (d : Device) (now : Nat) (s : FieldSubscription) (v : FieldValue) :
    ∃ (sends : List Send) (more : List Request), d.publish now s v = { d with
      sends, requests := d.requests ++ more } ∧ .count .transfersFailed ∉ more := by
  unfold publish
  split
  · exact ⟨d.sends, _, rfl, by simp⟩
  · exact ⟨_, _, rfl, by simp⟩

theorem foldl_publish_shape (d : Device) (now : Nat) (s : FieldSubscription) (vs : List FieldValue) :
    ∃ (sends : List Send) (more : List Request),
      vs.foldl (fun d v => d.publish now s v) d = { d with
        sends, requests := d.requests ++ more } ∧ .count .transfersFailed ∉ more := by
  induction vs generalizing d with
  | nil => exact ⟨d.sends, [], by simp, List.not_mem_nil⟩
  | cons v vs ih =>
    obtain ⟨_, first, published, quiet⟩ := publish_shape d now s v
    obtain ⟨sends, rest, done, quiet_rest⟩ := ih (d.publish now s v)
    refine ⟨sends, first ++ rest, ?_, ?_⟩
    · rw [List.foldl_cons, done, published, ← List.append_assoc]
    · rw [List.mem_append]
      exact not_or.mpr ⟨quiet, quiet_rest⟩

theorem runGenerator_shape (d : Device) (now i : Nat) :
    ∃ more : List Request, d.runGenerator now i = { d with
      client := (d.client.generate now i).1
      requests := d.requests ++ more } ∧ .count .transfersFailed ∉ more := by
  refine ⟨_, rfl, ?_⟩
  rw [List.mem_append]
  rintro (counted | after)
  · cases (List.mem_replicate.mp counted).2
  · split at after
    · simp at after
    · cases after

/-- Only a stream that is attended has a consumer to do anything. -/
theorem runConsumer_shape (d : Device) (now i : Nat) :
    d.runConsumer now i = d ∨
      ∃ s, d.client.streams[i]? = some s ∧ s.attended = true ∧
        ∃ (sends : List Send) (more : List Request), d.runConsumer now i = { d with
          client := d.client.updateStream i fun s =>
            { s with queue := [], attended := !hasEnded s }
          sends, requests := d.requests ++ more } ∧ .count .transfersFailed ∉ more := by
  unfold runConsumer
  cases there : d.client.streams[i]? with
  | none => exact .inl rfl
  | some s =>
    dsimp only
    by_cases attended : s.attended = true
    · obtain ⟨sends, more, published, quiet⟩ := foldl_publish_shape d now s.subscription s.queue
      rw [if_pos attended, published]
      refine .inr ⟨s, rfl, attended, sends,
        more ++ if s.isBlocked then [.run (.generator i)] else [], ?_, ?_⟩
      · rw [← List.append_assoc]
        rfl
      · rw [List.mem_append, not_or]
        refine ⟨quiet, ?_⟩
        split <;> simp
    · rw [if_neg attended]
      exact .inl rfl

theorem answered_shape (d : Device) (number : Nat) (answer : Except PublishFault Unit) :
    ∃ (sends : List Send) (more : List Request), d.answered number answer = { d with
      sends, requests := d.requests ++ more } ∧ .count .transfersFailed ∉ more ∧
      sends.map Send.publish = d.sends.map Send.publish := by
  unfold answered
  split
  next send there =>
    split
    · refine ⟨_, [.count (.ofAnswer answer)], rfl, ?_, ?_⟩
      · cases answer <;> simp [AdapterCounter.ofAnswer]
      · rw [List.map_set]
        refine set_of_getElem? ?_
        rw [List.getElem?_map, there]
        rfl
    · exact ⟨d.sends, [], by simp, List.not_mem_nil, rfl⟩
  · exact ⟨d.sends, [], by simp, List.not_mem_nil, rfl⟩

theorem runResubscription_due {number : Nat} {s : FieldSubscription}
    (due : d.resubscriptions[number]? = some (some s)) :
    d.runResubscription number =
      if d.running then
        ({ d with resubscriptions := d.resubscriptions.set number none } : Device).subscribe s
      else { d with resubscriptions := d.resubscriptions.set number none } := by
  rw [runResubscription, due]

theorem runResubscription_done {number : Nat}
    (done : ∀ s, d.resubscriptions[number]? ≠ some (some s)) :
    d.runResubscription number = d := by
  unfold runResubscription
  split
  next s due => exact absurd due (done s)
  next => rfl

theorem runResubscription_shape (d : Device) (number : Nat) :
    ∃ (client : Client) (consumers : Table Nat) (tasks : List Task),
      d.runResubscription number = { d with
        client, consumers
        resubscriptions := d.resubscriptions.set number none
        requests := d.requests ++ tasks.map .run } := by
  cases found : d.resubscriptions[number]? with
  | none =>
    have same : d.resubscriptions.set number none = d.resubscriptions :=
      List.set_eq_of_length_le (List.getElem?_eq_none_iff.mp found)
    rw [runResubscription_done (by simp [found]), same]
    exact ⟨d.client, d.consumers, [], by simp⟩
  | some entry =>
    cases entry with
    | none =>
      rw [runResubscription_done (by simp [found]), set_of_getElem? found]
      exact ⟨d.client, d.consumers, [], by simp⟩
    | some s =>
      rw [runResubscription_due found]
      split
      · exact subscribe_shape _ s
      · exact ⟨d.client, d.consumers, [], by simp⟩

theorem failTransfer_absent {node : String} (absent : d.client.feeds.find? node = none) :
    d.failTransfer node = (d, false) := by
  rw [failTransfer, Client.failTransfer_none absent]

theorem failTransfer_shape {node : String} {client : Client} {s : FieldSubscription} {i : Nat}
    (found : d.client.feeds.find? node = some i)
    (failed : d.client.failTransfer node = some (client, s)) :
    d.failTransfer node = ({ d with
      client
      resubscriptions := d.resubscriptions ++ if d.running then [some s] else []
      requests := d.requests ++ .count .transfersFailed :: .run (.consumer i) ::
        if d.running then [.run (.resubscription d.resubscriptions.length)] else [] }, true) := by
  unfold failTransfer
  rw [failed, found]
  dsimp only [ask]
  cases d.running <;> simp

/-! ### Streams, feeds and consumers -/

/-- All streams are of nodes of the plan, and one that is attended is that of the consumer of its
node. -/
structure Wired (d : Device) : Prop where
  apart : ∀ s ∈ d.plan.subscriptions, ∀ s' ∈ d.plan.subscriptions, s.nodeId = s'.nodeId → s = s'
  fed : d.client.Fed
  ranged : ∀ s ∈ d.plan.subscriptions, ∃ range ∈ d.client.ranges, range.1 = s.nodeId
  planned : ∀ (i : Nat) (s : Stream), d.client.streams[i]? = some s →
    s.subscription ∈ d.plan.subscriptions
  consumed : ∀ (i : Nat) (s : Stream), d.client.streams[i]? = some s → s.attended = true →
    d.consumers.find? s.subscription.nodeId = some i
  due : ∀ s, some s ∈ d.resubscriptions → s ∈ d.plan.subscriptions

theorem wired_ofPlan (id : String) {c : Config} {p : Plan} (planned : c.plan = .ok p) :
    (ofPlan id p).Wired where
  apart := by
    intro s member s' member' same
    exact List.inj_on_of_nodup_map (Config.plan_nodup planned) member member' same
  fed := Client.fed_empty p.interval _
  ranged := by
    intro s member
    obtain ⟨node, there, rfl⟩ := List.mem_map.mp member
    exact ⟨_, List.mem_map_of_mem there, rfl⟩
  planned := by intro i s there; cases there
  consumed := by intro i s there; cases there
  due := by intro s member; cases member

theorem Wired.onward {d' : Device} (wired : d.Wired) (plan : d'.plan = d.plan)
    (consumers : d'.consumers = d.consumers)
    (due : ∀ s, some s ∈ d'.resubscriptions → some s ∈ d.resubscriptions)
    (onward : Onward d.client.streams d'.client.streams)
    (feeds : d'.client.feeds = d.client.feeds) (ranges : d'.client.ranges = d.client.ranges) :
    d'.Wired where
  apart := by
    rw [plan]
    exact wired.apart
  fed := wired.fed.onward onward feeds
  ranged := by
    rw [plan, ranges]
    exact wired.ranged
  planned := by
    intro i s there
    obtain ⟨old, before, later⟩ := onward.before there
    rw [plan, later.subscription]
    exact wired.planned i old before
  consumed := by
    intro i s there attended
    obtain ⟨old, before, later⟩ := onward.before there
    rw [consumers, later.subscription]
    exact wired.consumed i old before (later.attended attended)
  due := by
    intro s member
    rw [plan]
    exact wired.due s (due s member)

/-- What is left of a client when a consumer leaves, if there is one. -/
theorem left_onward (c : Client) (old? : Option Nat) :
    let c' := old?.elim c fun old => c.updateStream old Stream.leave
    Onward c.streams c'.streams ∧ c'.feeds = c.feeds ∧ c'.ranges = c.ranges ∧
      ∀ i s, old? = some i → c'.streams[i]? = some s → s.attended = false := by
  cases old? with
  | none => exact ⟨.refl _, rfl, rfl, by intro i s none_old; cases none_old⟩
  | some old =>
    refine ⟨(Onward.refl _).modify fun s _ => s.leave_later, rfl, rfl, fun i s same there => ?_⟩
    obtain rfl := Option.some.inj same
    change (c.streams.modify old Stream.leave)[old]? = some s at there
    rw [List.getElem?_modify] at there
    obtain ⟨_, _, rfl⟩ := Option.map_eq_some_iff.mp there
    rw [if_pos rfl]
    rfl

/-- A node is subscribed, again or for the first time. -/
theorem Wired.subscribe (wired : d.Wired) {s : FieldSubscription}
    (planned : s ∈ d.plan.subscriptions) :
    (d.subscribe s).Wired ∧ (d.subscribe s).client.feeds =
      d.client.feeds.insert s.nodeId d.client.streams.length := by
  obtain ⟨c, done, opened⟩ := Client.subscribe_opened (wired.ranged s planned)
  obtain ⟨tasks, subscribed⟩ := subscribe_eq done
  obtain ⟨onward, feeds, ranges, left⟩ := left_onward c (d.consumers.find? s.nodeId)
  have before : ∀ i st, (d.subscribe s).client.streams[i]? = some st →
      (i = d.client.streams.length ∧ st.subscription = s) ∨
        ∃ old, d.client.streams[i]? = some old ∧ old.Later st := by
    intro i st there
    rw [subscribed] at there
    obtain ⟨middle, between, later⟩ := onward.before there
    rcases opened.stream between with ⟨last, named⟩ | ⟨old, earlier, first, _⟩
    · exact .inl ⟨last, later.subscription.trans named⟩
    · exact .inr ⟨old, earlier, first.trans later⟩
  have plan : (d.subscribe s).plan = d.plan := by rw [subscribed]
  refine ⟨⟨?_, ?_, ?_, ?_, ?_, ?_⟩, ?_⟩
  · rw [plan]
    exact wired.apart
  · rw [subscribed]
    exact (wired.fed.opened opened).onward onward feeds
  · rw [plan, subscribed]
    dsimp only
    rw [ranges, opened.ranges]
    exact wired.ranged
  · intro i st there
    rw [plan]
    rcases before i st there with ⟨_, named⟩ | ⟨old, earlier, later⟩
    · rw [named]
      exact planned
    · rw [later.subscription]
      exact wired.planned i old earlier
  · intro i st there attended
    have consumers : (d.subscribe s).consumers =
        d.consumers.insert s.nodeId d.client.streams.length := by rw [subscribed]
    rw [consumers, Table.find?_insert]
    rcases before i st there with ⟨last, named⟩ | ⟨old, earlier, later⟩
    · rw [named, if_pos rfl, last]
    · have found := wired.consumed i old earlier (later.attended attended)
      rw [← later.subscription] at found
      -- the consumer of the same node has left
      have other : st.subscription.nodeId ≠ s.nodeId := by
        intro same
        rw [same] at found
        rw [subscribed] at there
        rw [left i st found there] at attended
        cases attended
      rw [if_neg other]
      exact found
  · rw [plan, subscribed]
    exact wired.due
  · rw [subscribed]
    exact feeds.trans opened.feeds

theorem Wired.foldl_subscribe (wired : d.Wired) (ss : List FieldSubscription)
    (planned : ∀ s ∈ ss, s ∈ d.plan.subscriptions) :
    (ss.foldl Device.subscribe d).Wired ∧
      ∀ node, (d.client.feeds.find? node).isSome = true ∨ node ∈ ss.map FieldSubscription.nodeId →
        ((ss.foldl Device.subscribe d).client.feeds.find? node).isSome = true := by
  induction ss generalizing d with
  | nil => exact ⟨wired, fun node had => had.resolve_right List.not_mem_nil⟩
  | cons s ss ih =>
    obtain ⟨subscribed, feeds⟩ := wired.subscribe (planned s List.mem_cons_self)
    have plan : (d.subscribe s).plan = d.plan := by
      obtain ⟨_, _, _, shape⟩ := subscribe_shape d s
      rw [shape]
    obtain ⟨done, fed⟩ := ih subscribed fun s' member =>
      plan ▸ planned s' (List.mem_cons_of_mem s member)
    refine ⟨done, fun node had => fed node ?_⟩
    rw [feeds, Table.find?_insert]
    by_cases here : node = s.nodeId
    · simp [here]
    · simpa [here] using had

theorem Wired.stop (wired : d.Wired) : d.stop.Wired := by
  obtain ⟨tasks, stopped⟩ := stop_shape d
  have closed := Client.close_onward d.client
  have left : Onward d.client.close.streams
      (d.consumers.values.foldl (fun xs i => xs.modify i Stream.leave) d.client.close.streams) :=
    (Onward.refl _).foldl_modify Stream.leave_later _
  rw [Client.foldl_updateStream] at stopped
  constructor
  · rw [stopped]
    exact wired.apart
  · rw [stopped]
    exact wired.fed.close.onward left rfl
  · rw [stopped]
    dsimp only
    rw [Client.close_eq]
    exact wired.ranged
  · intro i s there
    rw [stopped] at there ⊢
    obtain ⟨middle, between, later⟩ := left.before there
    obtain ⟨old, earlier, first⟩ := closed.before between
    rw [later.subscription, first.subscription]
    exact wired.planned i old earlier
  · -- nothing is attended any more
    intro i s there attended
    have idempotent (s : Stream) : s.leave.leave = s.leave := rfl
    rw [stopped] at there
    dsimp only at there
    rw [getElem?_foldl_modify idempotent] at there
    split at there
    · obtain ⟨_, _, rfl⟩ := Option.map_eq_some_iff.mp there
      cases attended
    next out =>
      obtain ⟨old, earlier, first⟩ := closed.before there
      have found := wired.consumed i old earlier (first.attended attended)
      exact absurd (List.mem_map_of_mem (Table.entry_of_find? found)) out
  · rw [stopped]
    exact wired.due

/-! ### What every event keeps -/

/-- An adapter that runs has a feed for each node or is about to subscribe it again; one that does
not has neither feeds nor consumers. -/
structure Steady (d : Device) : Prop extends Wired d where
  off : d.running = false → d.client.feeds = {} ∧ d.consumers = {}
  on : d.running = true → ∀ s ∈ d.plan.subscriptions,
    (d.client.feeds.find? s.nodeId).isSome = true ∨ some s ∈ d.resubscriptions

theorem steady_ofPlan (id : String) {c : Config} {p : Plan} (planned : c.plan = .ok p) :
    (ofPlan id p).Steady where
  toWired := wired_ofPlan id planned
  off := fun _ => ⟨rfl, rfl⟩
  on := by intro on; cases on

theorem Steady.onward {d' : Device} (steady : d.Steady) (wired : d'.Wired) (plan : d'.plan = d.plan)
    (running : d'.running = d.running) (feeds : d'.client.feeds = d.client.feeds)
    (consumers : d'.consumers = d.consumers) (due : d'.resubscriptions = d.resubscriptions) :
    d'.Steady where
  toWired := wired
  off := by
    rw [running, feeds, consumers]
    exact steady.off
  on := by
    rw [running, plan, feeds, due]
    exact steady.on

theorem Steady.start (steady : d.Steady) : d.start.Steady := by
  have wired : ({ d with running := true } : Device).Wired :=
    steady.toWired.onward rfl rfl (fun _ => id) (.refl _) rfl rfl
  obtain ⟨started, fed⟩ := wired.foldl_subscribe d.plan.subscriptions fun _ => id
  obtain ⟨client, consumers, tasks, shape⟩ := start_shape d
  have eq : d.start = d.plan.subscriptions.foldl Device.subscribe { d with running := true } := rfl
  rw [← eq] at started fed
  refine ⟨started, fun off => ?_, fun _ s member => .inl ?_⟩
  · rw [shape] at off
    cases off
  · rw [shape] at member
    exact fed s.nodeId (.inr (List.mem_map_of_mem member))

theorem Steady.stop (steady : d.Steady) : d.stop.Steady := by
  obtain ⟨tasks, stopped⟩ := stop_shape d
  refine ⟨steady.toWired.stop, fun _ => ?_, fun on => ?_⟩
  · rw [stopped]
    dsimp only
    rw [Client.foldl_updateStream]
    exact ⟨rfl, rfl⟩
  · rw [stopped] at on
    cases on

theorem Steady.failTransfer (steady : d.Steady) (node : String) : (d.failTransfer node).1.Steady := by
  cases found : d.client.feeds.find? node with
  | none =>
    rw [failTransfer_absent found]
    exact steady
  | some i =>
    obtain ⟨s, client, failed, named, ⟨st, member, same⟩, ranges, feeds, onward, fed⟩ :=
      steady.fed.failTransfer found
    obtain ⟨j, there⟩ := List.mem_iff_getElem?.mp member
    have planned : s ∈ d.plan.subscriptions := same ▸ steady.planned j st there
    have running : d.running = true := by
      rw [← Bool.not_eq_false]
      intro off
      rw [(steady.off off).1] at found
      cases found
    rw [failTransfer_shape found failed, running]
    refine ⟨⟨steady.apart, fed, ?_, ?_, ?_, ?_⟩, ?_, ?_⟩
    · exact ranges ▸ steady.ranged
    · intro i' s' there'
      obtain ⟨old, before, later⟩ := onward.before there'
      rw [later.subscription]
      exact steady.planned i' old before
    · intro i' s' there' attended
      obtain ⟨old, before, later⟩ := onward.before there'
      rw [later.subscription]
      exact steady.consumed i' old before (later.attended attended)
    · intro s' member'
      rcases List.mem_append.mp member' with old | new
      · exact steady.due s' old
      · obtain rfl := Option.some.inj (List.mem_singleton.mp new)
        exact planned
    · intro off
      cases off
    · intro _ s' member'
      dsimp only
      rw [feeds, Table.find?_erase, List.mem_append]
      by_cases here : s'.nodeId = node
      · have broken : s' = s := steady.apart s' member' s planned (here.trans named.symm)
        rw [broken]
        exact .inr (.inr List.mem_cons_self)
      · rw [if_neg here]
        exact (steady.on running s' member').imp_right .inl

theorem Steady.runGenerator (steady : d.Steady) (now i : Nat) : (d.runGenerator now i).Steady := by
  obtain ⟨more, shape, _⟩ := runGenerator_shape d now i
  obtain ⟨onward, feeds, ranges⟩ := d.client.generate_onward now i
  rw [shape]
  exact steady.onward (steady.toWired.onward rfl rfl (fun _ => id) onward feeds ranges)
    rfl rfl feeds rfl rfl

theorem Steady.runConsumer (steady : d.Steady) (now i : Nat) : (d.runConsumer now i).Steady := by
  rcases runConsumer_shape d now i with same | ⟨s, there, attended, sends, more, shape, _⟩
  · rw [same]
    exact steady
  · have taken : Onward d.client.streams (d.client.streams.modify i fun s =>
        { s with queue := [], attended := !hasEnded s }) := by
      refine (Onward.refl _).modify fun s' there' => ⟨rfl, id, fun _ => ?_⟩
      rw [there, Option.some.injEq] at there'
      exact there' ▸ attended
    rw [shape]
    exact steady.onward (steady.toWired.onward rfl rfl (fun _ => id) taken rfl rfl)
      rfl rfl rfl rfl rfl

theorem Steady.answered (steady : d.Steady) (number : Nat) (answer : Except PublishFault Unit) :
    (d.answered number answer).Steady := by
  obtain ⟨sends, more, shape, _⟩ := answered_shape d number answer
  rw [shape]
  exact steady.onward (steady.toWired.onward rfl rfl (fun _ => id) (.refl _) rfl rfl)
    rfl rfl rfl rfl rfl

theorem Steady.runResubscription (steady : d.Steady) (number : Nat) :
    (d.runResubscription number).Steady := by
  by_cases due : ∃ s, d.resubscriptions[number]? = some (some s)
  case neg =>
    rw [runResubscription_done (not_exists.mp due)]
    exact steady
  obtain ⟨s, there⟩ := due
  have planned := steady.due s (List.mem_of_getElem? there)
  have fewer : ∀ s', some s' ∈ d.resubscriptions.set number none → some s' ∈ d.resubscriptions := by
    intro s' member
    exact (List.mem_or_eq_of_mem_set member).resolve_right (by simp)
  have wired : ({ d with resubscriptions := d.resubscriptions.set number none } : Device).Wired :=
    steady.toWired.onward rfl rfl fewer (.refl _) rfl rfl
  rw [runResubscription_due there]
  by_cases running : d.running = true
  · obtain ⟨subscribed, feeds⟩ := wired.subscribe planned
    obtain ⟨client, consumers, tasks, after⟩ := subscribe_shape
      { d with resubscriptions := d.resubscriptions.set number none } s
    rw [if_pos running]
    refine ⟨subscribed, fun off => ?_, fun _ s' member => ?_⟩
    · rw [after] at off
      cases running.symm.trans off
    · have plan : s' ∈ d.plan.subscriptions := by
        rw [after] at member
        exact member
      rw [feeds, Table.find?_insert]
      by_cases here : s'.nodeId = s.nodeId
      · exact .inl (by rw [if_pos here]; rfl)
      · rw [if_neg here, after]
        refine (steady.on running s' plan).imp_right fun due => ?_
        -- it is another resubscription that has had its turn
        obtain ⟨k, later⟩ := List.mem_iff_getElem?.mp due
        have different : number ≠ k := by
          rintro rfl
          rw [there, Option.some.injEq, Option.some.injEq] at later
          exact here (congrArg _ later.symm)
        refine List.mem_of_getElem? (i := k) ?_
        rw [List.getElem?_set_ne different]
        exact later
  · rw [if_neg running]
    exact ⟨wired, steady.off, fun on => absurd on running⟩

/-- Every event but the end of the client behind the back of its adapter keeps an adapter steady. -/
theorem Steady.step (steady : d.Steady) {e : Event} (live : e ≠ .closeClient) :
    (d.step e).Steady := by
  cases e with
  | start => exact steady.start
  | stop => exact steady.stop
  | closeClient => exact absurd rfl live
  | failTransfer node => exact steady.failTransfer node
  | generator now i => exact steady.runGenerator now i
  | consumer now i => exact steady.runConsumer now i
  | resubscription number => exact steady.runResubscription number
  | answered number answer => exact steady.answered number answer

/-! ### What events do -/

/-- No consumer does anything while the adapter does not run. -/
theorem Steady.runConsumer_off (steady : d.Steady) (off : d.running = false) (now i : Nat) :
    d.runConsumer now i = d := by
  rcases runConsumer_shape d now i with same | ⟨s, there, attended, _⟩
  · exact same
  · have found := steady.consumed i s there attended
    rw [(steady.off off).2] at found
    cases found

theorem step_plan (d : Device) (e : Event) : (d.step e).plan = d.plan := by
  cases e with
  | start =>
    obtain ⟨_, _, _, shape⟩ := start_shape d
    exact (congrArg Device.plan shape).trans rfl
  | stop =>
    obtain ⟨_, shape⟩ := stop_shape d
    exact (congrArg Device.plan shape).trans rfl
  | closeClient => rfl
  | failTransfer node =>
    change (d.failTransfer node).1.plan = d.plan
    unfold failTransfer
    split
    · rfl
    · dsimp only
      split <;> rfl
  | generator now i => rfl
  | consumer now i =>
    change (d.runConsumer now i).plan = d.plan
    rcases runConsumer_shape d now i with same | ⟨_, _, _, _, _, shape, _⟩
    · rw [same]
    · rw [shape]
  | resubscription number =>
    obtain ⟨_, _, _, shape⟩ := runResubscription_shape d number
    exact (congrArg Device.plan shape).trans rfl
  | answered number answer =>
    obtain ⟨_, _, shape, _⟩ := answered_shape d number answer
    exact (congrArg Device.plan shape).trans rfl

def publishes (d : Device) : List AdapterPublish := d.sends.map Send.publish

/-- Only consumers publish. -/
theorem step_publishes (d : Device) {e : Event} (other : ∀ now i, e ≠ .consumer now i) :
    (d.step e).publishes = d.publishes := by
  cases e with
  | start =>
    obtain ⟨_, _, _, shape⟩ := start_shape d
    exact (congrArg publishes shape).trans rfl
  | stop =>
    obtain ⟨_, shape⟩ := stop_shape d
    exact (congrArg publishes shape).trans rfl
  | closeClient => rfl
  | failTransfer node =>
    change (d.failTransfer node).1.publishes = d.publishes
    unfold failTransfer
    split
    · rfl
    · dsimp only
      split <;> rfl
  | generator now i => rfl
  | consumer now i => exact absurd rfl (other now i)
  | resubscription number =>
    obtain ⟨_, _, _, shape⟩ := runResubscription_shape d number
    exact (congrArg publishes shape).trans rfl
  | answered number answer =>
    obtain ⟨sends, _, shape, _, same⟩ := answered_shape d number answer
    change (d.answered number answer).publishes = d.publishes
    rw [shape]
    exact same

/-- Requests are made one after the other; no failed transfer is counted by them. -/
def AsksOnly (d d' : Device) : Prop :=
  ∃ more, d'.requests = d.requests ++ more ∧ .count .transfersFailed ∉ more

theorem asksOnly_of_tasks {d' : Device} {tasks : List Task}
    (requests : d'.requests = d.requests ++ tasks.map .run) : d.AsksOnly d' :=
  ⟨tasks.map .run, requests, by simp⟩

/-- Only a failed transfer and its resubscription touch what is to be subscribed again. -/
theorem step_calm (d : Device) {e : Event} (calm : ∀ node, e ≠ .failTransfer node)
    (other : ∀ number, e ≠ .resubscription number) :
    (d.step e).resubscriptions = d.resubscriptions ∧ d.AsksOnly (d.step e) := by
  cases e with
  | start =>
    obtain ⟨_, _, _, shape⟩ := start_shape d
    change d.start.resubscriptions = d.resubscriptions ∧ d.AsksOnly d.start
    rw [shape]
    exact ⟨rfl, asksOnly_of_tasks rfl⟩
  | stop =>
    obtain ⟨_, shape⟩ := stop_shape d
    change d.stop.resubscriptions = d.resubscriptions ∧ d.AsksOnly d.stop
    rw [shape]
    exact ⟨rfl, asksOnly_of_tasks rfl⟩
  | closeClient =>
    exact ⟨rfl, _, rfl, by simp⟩
  | failTransfer node => exact absurd rfl (calm node)
  | generator now i =>
    obtain ⟨more, shape, quiet⟩ := runGenerator_shape d now i
    change (d.runGenerator now i).resubscriptions = d.resubscriptions ∧
      d.AsksOnly (d.runGenerator now i)
    rw [shape]
    exact ⟨rfl, more, rfl, quiet⟩
  | consumer now i =>
    change (d.runConsumer now i).resubscriptions = d.resubscriptions ∧
      d.AsksOnly (d.runConsumer now i)
    rcases runConsumer_shape d now i with same | ⟨_, _, _, _, more, shape, quiet⟩
    · rw [same]
      exact ⟨rfl, [], (List.append_nil _).symm, List.not_mem_nil⟩
    · rw [shape]
      exact ⟨rfl, more, rfl, quiet⟩
  | resubscription number => exact absurd rfl (other number)
  | answered number answer =>
    obtain ⟨_, more, shape, quiet, _⟩ := answered_shape d number answer
    change (d.answered number answer).resubscriptions = d.resubscriptions ∧
      d.AsksOnly (d.answered number answer)
    rw [shape]
    exact ⟨rfl, more, rfl, quiet⟩

theorem runResubscription_asksOnly (d : Device) (number : Nat) :
    d.AsksOnly (d.runResubscription number) := by
  obtain ⟨_, _, _, shape⟩ := runResubscription_shape d number
  rw [shape]
  exact asksOnly_of_tasks rfl

/-- A resubscription that has had its turn is not due any more, and the others are left alone. -/
theorem due_of_runResubscription {number k : Nat} {s : FieldSubscription}
    (due : (d.runResubscription number).resubscriptions[k]? = some (some s)) :
    k ≠ number ∧ d.resubscriptions[k]? = some (some s) := by
  obtain ⟨_, _, _, shape⟩ := runResubscription_shape d number
  rw [shape] at due
  dsimp only at due
  rw [List.getElem?_set] at due
  split at due
  · split at due <;> cases due
  next different => exact ⟨Ne.symm different, due⟩

/-- Whatever is to be subscribed again was so before and has not had its turn, or is asked to be run. -/
theorem Wired.due_step (wired : d.Wired) {e : Event} {k : Nat} {s : FieldSubscription}
    (due : (d.step e).resubscriptions[k]? = some (some s)) :
    (d.resubscriptions[k]? = some (some s) ∧ e ≠ .resubscription k) ∨
      .run (.resubscription k) ∈ (d.step e).requests := by
  by_cases failed : ∃ node, e = .failTransfer node
  · obtain ⟨node, rfl⟩ := failed
    change (d.failTransfer node).1.resubscriptions[k]? = some (some s) at due
    change _ ∨ _ ∈ (d.failTransfer node).1.requests
    cases found : d.client.feeds.find? node with
    | none =>
      rw [failTransfer_absent found] at due
      exact .inl ⟨due, by simp⟩
    | some i =>
      obtain ⟨_, _, failed, _⟩ := wired.fed.failTransfer found
      rw [failTransfer_shape found failed] at due ⊢
      dsimp only at due ⊢
      by_cases last : k = d.resubscriptions.length
      · by_cases running : d.running = true
        · exact .inr (by simp [running, last])
        · simp [running, last] at due
      · by_cases running : d.running = true
        · rw [if_pos running, getElem?_concat_ne _ _ last] at due
          exact .inl ⟨due, by simp⟩
        · rw [if_neg running, List.append_nil] at due
          exact .inl ⟨due, by simp⟩
  · by_cases turn : ∃ number, e = .resubscription number
    · obtain ⟨number, rfl⟩ := turn
      obtain ⟨other, before⟩ := due_of_runResubscription due
      exact .inl ⟨before, by simpa using Ne.symm other⟩
    · have calm := (step_calm d (not_exists.mp failed) (not_exists.mp turn)).1
      rw [calm] at due
      exact .inl ⟨due, fun here => turn ⟨k, here⟩⟩

end Device
end EdgeGateway.Simulation

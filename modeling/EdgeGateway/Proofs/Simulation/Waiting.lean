import EdgeGateway.Proofs.Simulation.Publishes
import EdgeGateway.Proofs.Simulation.Rewiring

/-!
# Samples that wait

`Device.left` is what waits in a stream. An event adds its ticks to it and takes its samples from it,
as long as no stream is torn down in which something waits (`step_left`). Operations keep to that if
the adapter is at rest, and a subscription that is made again does so by itself (`Lone`).
-/

namespace EdgeGateway.Simulation

open Device (hasEnded)

namespace Device

variable {d d' : Device} {e : Event}

/-! ### Ticks and samples of one stream -/

theorem tick_source {x : Nat × FieldSubscription} (member : x ∈ d.ticks e) :
    ∃ now s, e = .generator now x.1 ∧ d.client.streams[x.1]? = some s := by
  cases e with
  | generator now i =>
    dsimp only [ticks] at member
    cases there : d.client.streams[i]? with
    | none => simp [there] at member
    | some s =>
      rw [there] at member
      obtain rfl := (List.mem_replicate.mp member).2
      exact ⟨now, s, rfl, there⟩
  | _ => cases member

theorem sample_source {x : Nat × Sample} (member : x ∈ d.samples e) :
    ∃ now s, e = .consumer now x.1 ∧ d.client.streams[x.1]? = some s ∧ s.attended = true ∧
      x.2.subscription = s.subscription := by
  cases e with
  | consumer now i =>
    dsimp only [samples] at member
    cases there : d.client.streams[i]? with
    | none => simp [there] at member
    | some s =>
      rw [there, Option.elim_some] at member
      split at member
      next attended =>
        obtain ⟨value, _, rfl⟩ := List.mem_map.mp member
        exact ⟨now, s, rfl, there, attended, rfl⟩
      next => cases member
  | _ => cases member

theorem ticks_other {i : Nat} (other : ∀ now s, e = .generator now i →
    d.client.streams[i]? ≠ some s) : valuesAt (d.ticks e) i = [] := by
  refine valuesAt_of_ne fun x member here => ?_
  obtain ⟨now, s, turn, there⟩ := tick_source member
  rw [here] at turn there
  exact other now s turn there

theorem samples_other {i : Nat} (other : ∀ now s, e = .consumer now i →
    d.client.streams[i]? = some s → s.attended = false) : valuesAt (d.samples e) i = [] := by
  refine valuesAt_of_ne fun x member here => ?_
  obtain ⟨now, s, turn, there, attended, _⟩ := sample_source member
  rw [here] at turn there
  rw [other now s turn there] at attended
  cases attended

section Turns
variable {i : Nat} {s : Stream} (there : d.client.streams[i]? = some s) (now : Nat)
include there

theorem ticks_turn : valuesAt (d.ticks (.generator now i)) i =
    List.replicate (s.generate d.client.interval now Stream.moves).2 s.subscription := by
  rw [ticks, there, Option.elim_some, Client.generate_ticks, there, Option.elim_some,
    ← List.map_replicate, valuesAt_map, if_pos rfl]

theorem samples_turn (attended : s.attended = true) :
    (valuesAt (d.samples (.consumer now i)) i).map (·.subscription) =
      List.replicate s.queue.length s.subscription := by
  have numbered : d.samples (.consumer now i) =
      (s.queue.map fun v => ⟨now, s.subscription, v⟩).map (i, ·) := by
    simp [samples, there, attended]
  rw [numbered, valuesAt_map, if_pos rfl, List.map_map]
  exact List.map_const

end Turns

/-! ### What waits -/

/-- What waits in a stream until it is taken. -/
def left (d : Device) (i : Nat) : List FieldSubscription :=
  d.client.streams[i]?.elim [] fun s => List.replicate s.backlog s.subscription

theorem Served.generate_backlog (served : d.Served) {s : Stream} (member : s ∈ d.client.streams)
    (now : Nat) : (s.generate d.client.interval now Stream.moves).1.backlog =
      s.backlog + (s.generate d.client.interval now Stream.moves).2 := by
  cases ended : hasEnded s with
  | true =>
    rw [Stream.generate_ended ended]
    rfl
  | false =>
    have attended := served.live s member ended
    exact Stream.generate_backlog attended (served.sampled s member) Stream.moves

/-- Ticks are added to what waits in a stream, and samples are taken from it. -/
theorem step_left (served : d.Served) (wired : d.Wired) (live : e ≠ .closeClient)
    (calm : ∀ s ∈ d.client.streams, d.Tears s.subscription.nodeId e → s.backlog = 0) (i : Nat) :
    d.left i ++ valuesAt (d.ticks e) i =
      (valuesAt (d.samples e) i).map (·.subscription) ++ (d.step e).left i := by
  unfold left
  cases after : (d.step e).client.streams[i]? with
  | none =>
    have few := Nat.le_trans (step_length served wired live) (List.getElem?_eq_none_iff.mp after)
    have absent : d.client.streams[i]? = none := List.getElem?_eq_none few
    rw [ticks_other (by simp [absent]), samples_other (by simp [absent]), absent]
    rfl
  | some s' =>
    have becomes := step_becomes served wired live after
    generalize before : d.client.streams[i]? = s? at becomes
    cases becomes with
    | rewired generator consumer rewired =>
      rw [ticks_other fun now s turn => absurd turn (generator now),
        samples_other fun now s turn there => consumer now s turn (before.symm.trans there)]
      cases rewired with
      | same => simp
      | @torn s _ node torn =>
        have empty := calm s (List.mem_of_getElem? before) node
        have empty' : s'.backlog = 0 := Nat.le_zero.mp (empty ▸ torn.backlog)
        simp [empty, empty']
      | opened blank => simp [blank.empty]
    | @generated s now turn =>
      subst turn
      have ticked := served.generate_backlog (List.mem_of_getElem? before) now
      have same := (s.generate_later d.client.interval now Stream.moves).subscription
      rw [ticks_turn before, samples_other (by simp)]
      simp only [Option.elim_some]
      rw [ticked, same, List.replicate_append_replicate]
      rfl
    | @taken s now turn attended =>
      subst turn
      rw [ticks_other (by simp), samples_turn before now attended]
      have rest : Stream.backlog { s with queue := [], attended := !hasEnded s } =
          if s.isBlocked then 1 else 0 := Nat.zero_add _
      simp only [Option.elim_some, List.append_nil]
      rw [rest, List.replicate_append_replicate]
      rfl

/-- Nothing waits where nothing has waited, unless a generator has its turn that goes on. -/
theorem Becomes.empty {i : Nat} {s? : Option Stream} {s' : Stream} (becomes : Becomes d e i s? s')
    (before : ∀ s, s? = some s → s.backlog = 0)
    (ended : ∀ now s, e = .generator now i → s? = some s → hasEnded s = true) : s'.backlog = 0 := by
  cases becomes with
  | rewired _ _ rewired =>
    cases rewired with
    | same => exact before s' rfl
    | @torn s _ _ torn => exact Nat.le_zero.mp (before s rfl ▸ torn.backlog)
    | opened blank => exact blank.empty
  | @generated s now turn =>
    rw [Stream.generate_ended (ended now s turn rfl)]
    exact before s rfl
  | @taken s =>
    obtain ⟨_, room⟩ := Stream.backlog_eq_zero.mp (before s rfl)
    exact Stream.backlog_eq_zero.mpr ⟨rfl, room⟩

/-! ### Tasks for what waits -/

/-- Of what waits in a stream, a consumer will take the queue, and the generator will add the rest. -/
structure Awake (ready : List Task) (i : Nat) (s : Stream) : Prop where
  consumer : s.queue ≠ [] → s.attended = true ∧ .consumer i ∈ ready
  generator : s.isBlocked = true → .generator i ∈ ready ∨ s.queue ≠ []

theorem awake_of_empty {ready : List Task} {i : Nat} {s : Stream} (empty : s.backlog = 0) :
    Awake ready i s := by
  obtain ⟨none_waits, room⟩ := Stream.backlog_eq_zero.mp empty
  refine ⟨fun some_waits => absurd none_waits some_waits, fun blocked => ?_⟩
  rw [room] at blocked
  cases blocked

theorem runGenerator_asks {now i : Nat} {s : Stream}
    (there : (d.step (.generator now i)).client.streams[i]? = some s) (waits : s.queue ≠ []) :
    .run (.consumer i) ∈ (d.step (.generator now i)).requests := by
  change (d.client.generate now i).1.streams[i]? = some s at there
  have waiting : s.queue.isEmpty = false := by simpa using waits
  simp [step, runGenerator, ask, there, waiting]

theorem runConsumer_asks {now i : Nat} {s : Stream} (there : d.client.streams[i]? = some s)
    (attended : s.attended = true) (blocked : s.isBlocked = true) :
    .run (.generator i) ∈ (d.step (.consumer now i)).requests := by
  simp [step, runConsumer, ask, there, attended, blocked]

/-- Tasks that are ready are so until their turn, and those that are asked for are made so. -/
theorem Awake.step {ready ready' : List Task} {i : Nat} {s' : Stream} (served : d.Served)
    (wired : d.Wired) (live : e ≠ .closeClient)
    (calm : ∀ s ∈ d.client.streams, d.Tears s.subscription.nodeId e → s.backlog = 0)
    (awake : ∀ s, d.client.streams[i]? = some s → Awake ready i s)
    (generator : (∀ now, e ≠ .generator now i) → .generator i ∈ ready → .generator i ∈ ready')
    (consumer : (∀ now, e ≠ .consumer now i) → .consumer i ∈ ready → .consumer i ∈ ready')
    (asked : ∀ task, .run task ∈ (d.step e).requests → task ∈ ready')
    (there : (d.step e).client.streams[i]? = some s') : Awake ready' i s' := by
  have becomes := step_becomes served wired live there
  generalize before : d.client.streams[i]? = s? at becomes
  cases becomes with
  | rewired no_generator no_consumer rewired =>
    cases rewired with
    | same =>
      have was := awake s' before
      refine ⟨fun waits => ?_, fun blocked => ?_⟩
      · obtain ⟨attended, ready⟩ := was.consumer waits
        refine ⟨attended, consumer (fun now turn => ?_) ready⟩
        rw [no_consumer now s' turn rfl] at attended
        cases attended
      · exact (was.generator blocked).imp_left (generator no_generator)
    | @torn s _ node torn =>
      have empty := calm s (List.mem_of_getElem? before) node
      exact awake_of_empty (Nat.le_zero.mp (empty ▸ torn.backlog))
    | opened blank => exact awake_of_empty blank.empty
  | @generated s now turn =>
    subst turn
    cases ended : hasEnded s with
    | true =>
      rw [Stream.generate_ended ended] at there ⊢
      refine ⟨fun waits => ⟨((awake s before).consumer waits).1, ?_⟩, fun blocked => ?_⟩
      · exact asked _ (runGenerator_asks there waits)
      · rw [Stream.isBlocked_of_ended ended] at blocked
        cases blocked
    | false =>
      have attended := served.live s (List.mem_of_getElem? before) ended
      have same := (s.generate_same d.client.interval now Stream.moves).2.2
      refine ⟨fun waits => ⟨same.trans attended, ?_⟩, fun blocked => .inr ?_⟩
      · exact asked _ (runGenerator_asks there waits)
      · exact Stream.generate_blocked attended _ blocked
  | @taken s now turn attended =>
    subst turn
    refine ⟨fun waits => absurd rfl waits, fun blocked => .inl ?_⟩
    exact asked _ (runConsumer_asks before attended blocked)

/-! ### Subscriptions that are made again -/

/-- Nothing waits, and nothing is to be subscribed again. -/
structure AtRest (d : Device) : Prop where
  idle : ∀ s ∈ d.client.streams, s.backlog = 0
  done : ∀ (k : Nat) (s : FieldSubscription), d.resubscriptions[k]? ≠ some (some s)

/-- What is done to an adapter, and not by it. -/
def Event.FromOutside : Event → Prop
  | .start | .stop | .closeClient | .failTransfer _ => True
  | .generator .. | .consumer .. | .resubscription _ | .answered .. => False

/-- At most one node is to be subscribed again. It has no feed, and nothing waits in its streams. -/
structure Lone (d : Device) : Prop where
  alone : ∀ (k k' : Nat) (s s' : FieldSubscription), d.resubscriptions[k]? = some (some s) →
    d.resubscriptions[k']? = some (some s') → k = k'
  unfed : ∀ (k : Nat) (s : FieldSubscription), d.resubscriptions[k]? = some (some s) →
    d.client.feeds.find? s.nodeId = none
  empty : ∀ (k : Nat) (s : FieldSubscription), d.resubscriptions[k]? = some (some s) →
    ∀ st ∈ d.client.streams, st.subscription.nodeId = s.nodeId → st.backlog = 0

theorem lone_of_done (done : ∀ (k : Nat) (s : FieldSubscription),
    d.resubscriptions[k]? ≠ some (some s)) : d.Lone where
  alone := fun k _ s _ due => absurd due (done k s)
  unfed := fun k s due => absurd due (done k s)
  empty := fun k s due => absurd due (done k s)

theorem Lone.calm (lone : d.Lone) (rest : e.FromOutside → d.AtRest) :
    ∀ s ∈ d.client.streams, d.Tears s.subscription.nodeId e → s.backlog = 0 := by
  intro s member tears
  cases e with
  | resubscription number =>
    obtain ⟨again, due, node⟩ := tears
    exact lone.empty number again due s member node
  | generator now i => cases tears
  | consumer now i => cases tears
  | answered number answer => cases tears
  | start | stop | closeClient | failTransfer => exact (rest trivial).idle s member

/-- Only the node whose transfer fails is to be subscribed again that was not before. -/
theorem due_of_failTransfer (fed : d.client.Fed) {node : String} {k : Nat} {s : FieldSubscription}
    (due : (d.failTransfer node).1.resubscriptions[k]? = some (some s)) :
    d.resubscriptions[k]? = some (some s) ∨
      k = d.resubscriptions.length ∧ (d.failTransfer node).1.client.feeds.find? s.nodeId = none := by
  cases found : d.client.feeds.find? node with
  | none =>
    rw [failTransfer_absent found] at due
    exact .inl due
  | some i =>
    obtain ⟨s', client, failed, named, _, _, feeds, _⟩ := fed.failTransfer found
    rw [failTransfer_shape found failed] at due ⊢
    dsimp only at due ⊢
    by_cases last : k = d.resubscriptions.length
    · by_cases running : d.running = true
      · rw [if_pos running, last, List.getElem?_concat_length, Option.some.injEq,
          Option.some.injEq] at due
        rw [feeds, ← due, named, Table.find?_erase, if_pos rfl]
        exact .inr ⟨last, rfl⟩
      · simp [running, last] at due
    · split at due
      · rw [getElem?_concat_ne _ _ last] at due
        exact .inl due
      · rw [List.append_nil] at due
        exact .inl due

theorem AtRest.failTransfer (rest : d.AtRest) (served : d.Served) (wired : d.Wired)
    (node : String) : (d.step (.failTransfer node)).Lone := by
  have only {k : Nat} {s : FieldSubscription}
      (due : (d.step (.failTransfer node)).resubscriptions[k]? = some (some s)) :=
    (due_of_failTransfer wired.fed due).resolve_left (rest.done k s)
  refine ⟨fun k k' s s' due due' => (only due).1.trans (only due').1.symm,
    fun k s due => (only due).2, fun _ _ _ st member _ => ?_⟩
  obtain ⟨i, _, becomes⟩ := step_cases served wired (by simp) member
  exact becomes.empty (fun s before => rest.idle s (List.mem_of_getElem? before)) (by simp)

/-- A generator, a consumer and an answer leave the table of feeds alone. -/
theorem step_feeds (d : Device) (inside : ¬ e.FromOutside) (other : ∀ number, e ≠ .resubscription number) :
    (d.step e).client.feeds = d.client.feeds := by
  cases e with
  | generator now i => exact (d.client.generate_onward now i).2.1
  | consumer now i =>
    show (d.runConsumer now i).client.feeds = _
    rcases runConsumer_shape d now i with same | ⟨_, _, _, _, _, shape, _⟩
    · rw [same]
    · rw [shape]
      rfl
  | answered number answer =>
    obtain ⟨_, _, shape, _⟩ := answered_shape d number answer
    exact (congrArg (·.client.feeds) shape).trans rfl
  | resubscription number => exact absurd rfl (other number)
  | start | stop | closeClient | failTransfer => exact absurd trivial inside

theorem Lone.step (lone : d.Lone) (served : d.Served) (wired : d.Wired) (live : e ≠ .closeClient)
    (rest : e.FromOutside → d.AtRest) : (d.step e).Lone := by
  by_cases failed : ∃ node, e = .failTransfer node
  · obtain ⟨node, rfl⟩ := failed
    exact (rest trivial).failTransfer served wired node
  by_cases again : ∃ number, e = .resubscription number
  · obtain ⟨number, rfl⟩ := again
    by_cases here : ∃ s, d.resubscriptions[number]? = some (some s)
    · obtain ⟨s, here⟩ := here
      refine lone_of_done fun k s' due => ?_
      obtain ⟨other, before⟩ := due_of_runResubscription due
      exact other (lone.alone k number s' s before here)
    · have same : d.step (.resubscription number) = d := runResubscription_done (not_exists.mp here)
      rw [same]
      exact lone
  have same := (step_calm d (not_exists.mp failed) (not_exists.mp again)).1
  by_cases outside : e.FromOutside
  · refine lone_of_done ?_
    rw [same]
    exact (rest outside).done
  refine ⟨by rw [same]; exact lone.alone, ?_, fun k s due st' member node => ?_⟩
  · rw [same, step_feeds d outside (not_exists.mp again)]
    exact lone.unfed
  · rw [same] at due
    obtain ⟨i, there, becomes⟩ := step_cases served wired live member
    have of_node : ∀ st, d.client.streams[i]? = some st → st.subscription.nodeId = s.nodeId := by
      intro st before
      obtain ⟨_, there', subscription, _⟩ := step_kept served wired live before
      obtain rfl := Option.some.inj (there.symm.trans there')
      exact subscription ▸ node
    refine becomes.empty (fun st before => ?_) fun _ st _ before => ?_
    · exact lone.empty k s due st (List.mem_of_getElem? before) (of_node st before)
    · rw [← Bool.not_eq_false]
      intro running
      have feed := wired.fed.live i st before running
      rw [of_node st before, lone.unfed k s due] at feed
      cases feed

end Device

end EdgeGateway.Simulation

import EdgeGateway.Proofs.Bridge.Calls
import EdgeGateway.Proofs.Gateway.Operations

/-!
# Topics that leave a gateway

Remotes may send anything, and a template that leaves topics as they are checks nothing. Still no
message with an invalid topic leaves: what comes from a remote goes back to the broker, which checks
it, and for remotes there are only messages of the broker. `Traffic.Clean` is what a step keeps.
-/

namespace EdgeGateway

namespace Traffic

/-! ### Messages under way -/

/-- A message on a lane is for the broker, which checks its topic, or the topic is valid. -/
def Admits (t : Traffic) (lane : Nat) (topic : String) : Prop :=
  Topic.ValidName topic ∨ ∃ f, t.post? lane = some (f, .localBroker)

/-- So are all messages under way. -/
def Clean (t : Traffic) : Prop :=
  ∀ (i : Nat) c m, t.calls[i]? = some c → c.progress = .candidate m ∨ c.progress = .handedOver m →
    t.Admits c.lane m.topic

variable {t : Traffic} {lane : Nat} {topic : String} {e : Event} {es : List Event}

theorem Admits.step (admits : t.Admits lane topic) (e : Event) : (t.step e).Admits lane topic := by
  rcases admits with valid | ⟨f, there⟩
  · exact .inl valid
  · exact .inr ⟨f, step_post e there⟩

theorem clean_empty : Clean {} := by
  intro i c m known
  cases known

/-- A step keeps all messages clean if it offers none that is not, and if the interceptor keeps
topics. -/
theorem Clean.step (clean : t.Clean)
    (offered : ∀ lane m ack, e = .forward lane m ack → t.Admits lane m.topic)
    (kept : ∀ (i : Nat) answer connected c candidate m, e = .intercepted i answer connected →
      t.calls[i]? = some c → c.progress = .candidate candidate →
      passedOn answer connected = .ok m → m.topic = candidate.topic) : (t.step e).Clean := by
  intro i c' m known waiting
  rcases step_call known with
    ⟨c, returned, handed, before, change⟩ | ⟨lane, m', ack, l, given, present, rfl⟩
  · rw [change.lane]
    refine Admits.step ?_ e
    cases change with
    | rest => exact clean i _ m before waiting
    | @handOver answer connected candidate m' event asked passed =>
      obtain rfl : m' = m := by
        rcases waiting with waiting | waiting <;> cases waiting
        rfl
      rw [kept i answer connected c candidate m' event before asked passed]
      exact clean i c candidate before (.inl asked)
    | decline | settle | abandon => rcases waiting with waiting | waiting <;> cases waiting
  · refine Admits.step ?_ e
    rcases offered lane m' ack given with valid | back
    · left
      cases reception : l.forwarder.receive l.running m' with
      | ended o =>
        rw [reception] at waiting
        rcases waiting with waiting | waiting <;> cases waiting
      | accepted candidate =>
        obtain rfl : candidate = m := by
          rw [reception] at waiting
          rcases waiting with waiting | waiting <;> cases waiting
          rfl
        have made := (Forwarder.receive_accepted_iff.mp reception).2.2.2
        exact Topic.Template.expand_valid (Forwarder.transform_iff.mp made).topic valid
    · exact .inr back

theorem Clean.run (clean : t.Clean)
    (offered : ∀ e ∈ es, ∀ lane m ack, e = .forward lane m ack → t.Admits lane m.topic)
    (plain : ∀ e ∈ es, ∀ i answer connected, e ≠ .intercepted i answer connected) :
    (t.run es).Clean := by
  induction es generalizing t with
  | nil => exact clean
  | cons e es ih =>
    have first : (t.step e).Clean := by
      refine clean.step (offered e List.mem_cons_self) ?_
      intro i answer connected _ _ _ asked
      exact absurd asked (plain e List.mem_cons_self i answer connected)
    refine ih first ?_ fun e' later => plain e' (List.mem_cons_of_mem e later)
    intro e' later lane m ack given
    exact (offered e' (List.mem_cons_of_mem e later) lane m ack given).step e

end Traffic

namespace BridgeManager.State

variable {s : State} {a : Action}

/-- Messages from remotes are for the broker. So only those that the broker itself offers have to be
valid. -/
theorem Consistent.clean (consistent : Consistent s) (clean : s.manager.traffic.Clean)
    (valid : ∀ m messageId, a = .forwardLocal m messageId → Topic.ValidName m.topic)
    (plain : ∀ call answer connected, a ≠ .intercepted call answer connected) :
    (s.step a).manager.traffic.Clean := by
  rw [step_traffic]
  apply clean.run
  · rintro e member lane m ack rfl
    have happens := consistent.happens member
    cases happens with
    | fromBroker action => exact .inl (valid m ack.messageId action)
    | fromRemote action installed within =>
      obtain ⟨f, there, _⟩ := (consistent.furnished installed).inbound.bridge within
      exact .inr ⟨f, there⟩
  · rintro e member i answer connected rfl
    have happens := consistent.happens member
    cases happens with
    | intercepted action => exact plain i answer connected action

theorem Consistent.setAdapters (consistent : Consistent s) (adapters : Table AdapterCounters) :
    Consistent (s.setAdapters adapters) := by
  obtain ⟨ascending, keyed, furnished, installed, replacement⟩ := consistent
  have still {l : Link} (there : Furnished s.manager.traffic l) :
      Furnished (s.setAdapters adapters).manager.traffic l :=
    there.mono fun _ _ present => present
  exact ⟨ascending, keyed, fun found => still (furnished found), installed,
    fun pending new => (replacement pending new).imp_right still⟩

end BridgeManager.State

namespace Broker

/-! ### Queues of subscribers -/

def QueuesValid (b : Broker) : Prop :=
  ∀ box ∈ b.mailboxes, ∀ m ∈ box.queue, Topic.ValidName m.topic

variable {b : Broker}

theorem QueuesValid.updateMailbox (valid : b.QueuesValid) (number : Nat) {f : Mailbox → Mailbox}
    (fewer : ∀ box, ∀ m ∈ (f box).queue, m ∈ box.queue) : (b.updateMailbox number f).QueuesValid := by
  intro box member m waiting
  obtain ⟨old, there, rfl | rfl⟩ := mem_modify member
  · exact valid box there m waiting
  · exact valid old there m (fewer old m waiting)

theorem QueuesValid.deliver (valid : b.QueuesValid) {m : Message} (name : Topic.ValidName m.topic) :
    (b.deliver m).1.QueuesValid := by
  intro box member m' waiting
  obtain ⟨old, there, rfl⟩ := List.mem_map.mp member
  rw [Mailbox.put_queue, List.mem_append] at waiting
  rcases waiting with before | new
  · exact valid old there m' before
  · split at new
    · obtain rfl := List.mem_singleton.mp new
      exact name
    · cases new

/-- Only dispatching puts messages into queues, and it checks their topics. -/
theorem QueuesValid.step (valid : b.QueuesValid) (op : Operation) : (b.step op).QueuesValid := by
  cases op with
  | subscribe filter =>
    unfold Broker.step
    dsimp only
    split
    next b' number done =>
      unfold subscribe at done
      split at done <;> cases done
      intro box member m waiting
      rcases List.mem_append.mp member with old | new
      · exact valid box old m waiting
      · obtain rfl := List.mem_singleton.mp new
        cases waiting
    next => exact valid
  | unsubscribe number =>
    unfold Broker.step unsubscribe
    dsimp only
    split
    · exact valid.updateMailbox number fun box m waiting => waiting
    · exact valid
  | leave number =>
    unfold Broker.step leave
    dsimp only
    split
    · exact valid.updateMailbox number fun box m waiting => absurd waiting List.not_mem_nil
    · exact valid
  | take number count =>
    unfold Broker.step take
    dsimp only
    split
    · split
      · exact valid.updateMailbox number fun box m waiting => List.mem_of_mem_drop waiting
      · exact valid
    · exact valid
  | dispatch m =>
    unfold Broker.step dispatch
    dsimp only
    split
    · exact valid
    next checked => exact valid.deliver (Topic.checkName_iff.mp (checkMessage_eq_ok.mp checked))

end Broker

namespace Gateway

open BridgeManager (Action State)

variable {g : Gateway} {s : Stage}

/-! ### Remotes -/

theorem publishedAt_setRemote (g : Gateway) (name other : String) (r : Remote) :
    (g.setRemote name r).publishedAt other =
      if other = name then r.published else g.publishedAt other := by
  simp only [publishedAt, remote?, setRemote, Table.find?_insert]
  split <;> rfl

theorem publishedAt_adjustRemote (g : Gateway) (name other : String) {f : Remote → Remote}
    (kept : ∀ r, (f r).published = r.published) :
    (g.adjustRemote name f).publishedAt other = g.publishedAt other := by
  simp only [publishedAt, remote?, adjustRemote, Table.find?_adjust]
  cases g.remotes.find? other with
  | none => rfl
  | some r =>
    simp only [Option.map_some, Option.getD_some]
    split
    next => exact kept r
    next => rfl

/-- What a gateway hands over to remotes and puts into the queues of subscribers has valid topics. -/
structure TopicsValid (g : Gateway) : Prop where
  queued : g.broker.QueuesValid
  handed : ∀ call name m, g.atRemote? call = some (name, m) → Topic.ValidName m.topic
  published : ∀ name, ∀ m ∈ g.publishedAt name, Topic.ValidName m.topic

/-! ### Acts -/

/-- What every act keeps. -/
structure Clean (s : Stage) : Prop where
  plain : s.gateway.interceptor = Interceptor.passThrough
  consistent : s.state.Consistent
  calls : s.gateway.traffic.Clean
  queued : s.gateway.broker.QueuesValid
  published : ∀ name, ∀ m ∈ s.gateway.publishedAt name, Topic.ValidName m.topic

theorem atRemote?_eq_some {call : Nat} {name : String} {m : Message}
    (here : g.atRemote? call = some (name, m)) :
    ∃ c f, g.traffic.calls[call]? = some c ∧ c.progress = .handedOver m ∧
      g.traffic.post? c.lane = some (f, .remote name) := by
  unfold atRemote? at here
  split at here
  next c known =>
    split at here
    next m' name' waiting target =>
      cases here
      obtain ⟨⟨f, _⟩, post, rfl⟩ := Option.map_eq_some_iff.mp target
      exact ⟨c, f, known, waiting, post⟩
    next => cases here
  next => cases here

/-- A message at a remote is not for the broker. -/
theorem atRemote?_valid (clean : g.traffic.Clean) {call : Nat} {name : String} {m : Message}
    (here : g.atRemote? call = some (name, m)) : Topic.ValidName m.topic := by
  obtain ⟨c, f, known, waiting, post⟩ := atRemote?_eq_some here
  rcases clean call c m known (.inr waiting) with valid | ⟨f', back⟩
  · exact valid
  · cases post.symm.trans back

theorem Clean.valid (clean : Clean s) : s.gateway.TopicsValid :=
  ⟨clean.queued, fun _ _ _ here => atRemote?_valid clean.calls here, clean.published⟩

theorem Clean.step_bridges (clean : Clean s) (act : Act) :
    (s.step act).state.Consistent ∧ (s.step act).gateway.traffic.Clean := by
  obtain ⟨plain, consistent, calls, _, _⟩ := clean
  have moves := step_moves s act
  change _ ∧ (s.step act).state.manager.traffic.Clean
  generalize (s.step act).state = s', (s.step act).gateway.broker.nextMessage = next at moves ⊢
  cases moves with
  | rest => exact ⟨consistent, calls⟩
  | beside adapters => exact ⟨consistent.setAdapters adapters, calls⟩
  | outside outside =>
    refine ⟨consistent.step _, consistent.clean calls ?_ ?_⟩
    · rintro m messageId rfl
      cases outside
    · rintro call answer connected rfl
      cases outside
  | @intercepted call c m l connected known waiting present =>
    refine ⟨consistent.step _, ?_⟩
    change (s.gateway.traffic.step _).Clean
    apply calls.step
    · rintro lane m' ack ⟨⟩
    · rintro i answer connected' c' candidate m' ⟨⟩ known' waiting' passed
      obtain rfl := Option.some.inj (known.symm.trans known')
      obtain rfl := Progress.candidate.inj (waiting.symm.trans waiting')
      rw [plain] at passed
      change (if connected = true then Except.ok m else _) = _ at passed
      split at passed <;> cases passed
      rfl
  | @dispatched m valid =>
    refine ⟨consistent.step _, consistent.clean calls ?_ ?_⟩
    · rintro m' messageId ⟨⟩
      exact valid
    · rintro call answer connected ⟨⟩

theorem Clean.step_rest (clean : Clean s) (act : Act) :
    (s.step act).gateway.interceptor = Interceptor.passThrough ∧
      (s.step act).gateway.broker.QueuesValid ∧
      ∀ name, ∀ m ∈ (s.step act).gateway.publishedAt name, Topic.ValidName m.topic := by
  obtain ⟨plain, _, calls, queued, published⟩ := clean
  have touches := step_touches s act
  generalize (s.step act).gateway = g' at touches ⊢
  -- one remote changes, and what it has published is valid
  have set {name : String} {r : Remote} (valid : ∀ m ∈ r.published, Topic.ValidName m.topic) :
      ∀ other, ∀ m ∈ (s.gateway.setRemote name r).publishedAt other, Topic.ValidName m.topic := by
    intro other m member
    rw [publishedAt_setRemote] at member
    split at member
    · exact valid m member
    · exact published other m member
  cases touches with
  | broker op =>
    obtain ⟨mailboxes, remotes, interceptor⟩ := s.gateway.atBroker_rest op
    refine ⟨interceptor.trans plain, ?_, ?_⟩
    · rw [Broker.QueuesValid, mailboxes]
      exact queued.step op
    · intro name
      rw [publishedAt, remote?, remotes]
      exact published name
  | beside => exact ⟨plain, queued, published⟩
  | publish here =>
    refine ⟨plain, queued, set fun m member => ?_⟩
    rcases List.mem_append.mp member with before | now
    · exact published _ m before
    · obtain rfl := List.mem_singleton.mp now
      exact atRemote?_valid calls here
  | setRemote name r => exact ⟨plain, queued, set (published name)⟩
  | adjustRemote name f =>
    refine ⟨plain, queued, fun other => ?_⟩
    rw [publishedAt_adjustRemote]
    · exact published other
    · exact fun _ => rfl

theorem Clean.step (clean : Clean s) (act : Act) : Clean (s.step act) := by
  obtain ⟨consistent, calls⟩ := clean.step_bridges act
  obtain ⟨plain, queued, published⟩ := clean.step_rest act
  exact ⟨plain, consistent, calls, queued, published⟩

theorem Clean.run (clean : Clean s) (acts : List Act) : Clean (s.run acts) := by
  induction acts generalizing s with
  | nil => exact clean
  | cons act acts ih => exact ih (clean.step act)

theorem Fresh.clean (fresh : g.Fresh) (plain : g.interceptor = Interceptor.passThrough) :
    Clean ⟨g, none⟩ where
  plain := plain
  consistent := by
    have state : (Stage.mk g none).state = State.run {} [] := by
      rw [Stage.state, Gateway.state, fresh.bridges]
      rfl
    rw [state]
    exact State.run_consistent []
  calls := by
    change g.bridges.traffic.Clean
    rw [fresh.bridges]
    exact Traffic.clean_empty
  queued := by
    intro box member
    rw [fresh.mailboxes] at member
    cases member
  published := by
    intro name m member
    rw [fresh.remotes] at member
    cases member

/-- Only valid topics leave a gateway, whatever remotes send and wherever templates lead.

With an interceptor that lets everything pass, every message handed over to a remote and every message
in the queue of a subscriber has a valid topic: after any acts in any order, so at every moment of
every run, and after any series of operations. -/
theorem only_valid_topics_leave {g : Gateway} (fresh : g.Fresh)
    (plain : g.interceptor = Interceptor.passThrough) :
    (∀ acts, ((Stage.mk g none).run acts).gateway.TopicsValid) ∧
      ∀ ops, (g.operated ops).TopicsValid := by
  have always (acts : List Act) : ((Stage.mk g none).run acts).gateway.TopicsValid :=
    ((fresh.clean plain).run acts).valid
  refine ⟨always, fun ops => ?_⟩
  obtain ⟨acts, led⟩ := g.operated_leads ops
  have after := always acts
  rw [led] at after
  exact after

/-- A bridge both ways that leaves all topics as they are. -/
def openBridge : BridgeConfig :=
  { id := "b", host := "h", localSubscriptions := [{ filters := ["#"] }],
    remoteSubscriptions := [{ filters := ["#"] }] }

def newGateway : Gateway :=
  { broker := .ofCapacity 8, drainTimeout := 20,
    remotes := Table.empty.insert "r" { kind := .dryRun "h" } }

theorem newGateway_fresh : newGateway.Fresh where
  mailboxes := rfl
  nextMessage := rfl
  bridges := rfl
  remotes := by
    intro name
    rw [publishedAt, remote?, newGateway, Table.find?_insert]
    split <;> rfl

/-- The remote sends a message with a wildcard in its topic and another one, a client sends a third. -/
def visit : List Operation :=
  [.broker (.subscribe "#"), .request (.add openBridge "r"),
    .forwardRemote "b" { topic := "a/+" } 1, .forwardRemote "b" { topic := "a/b" } 2,
    .broker (.dispatch { topic := "c" }), .settle]

/-- All topics stay valid, for the broker refuses the first message and takes the others. -/
theorem visit_leaves_valid_topics :
    (newGateway.operated visit).TopicsValid ∧
      (newGateway.operated visit).broker.mailboxes.map (fun box => box.queue.map Message.topic) =
        [["c", "a/b"]] ∧
      ((newGateway.operated visit).publishedAt "r").map Message.topic = ["c"] := by
  have valid := (only_valid_topics_leave newGateway_fresh rfl).2 visit
  refine ⟨valid, ?_, ?_⟩
  · decide +kernel
  · decide +kernel

end Gateway
end EdgeGateway

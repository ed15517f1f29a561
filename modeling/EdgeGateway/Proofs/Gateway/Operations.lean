import EdgeGateway.Proofs.Gateway.Acts
import EdgeGateway.Proofs.Gateway.Directory

/-!
# Operations as acts

Whatever is asked of a gateway, it goes through a run of acts: an operation that waits, or lets time
pass, is made of all that its tasks do meanwhile. So what holds of every run of acts holds of every
series of operations.
-/

namespace EdgeGateway

namespace Remote

/-! ### What a remote has published -/

variable {r : Remote} {call : Nat} {m : Message}

theorem setVisit_published (r : Remote) (call : Nat) (visit : Visit) :
    (r.setVisit call visit).published = r.published := by
  unfold setVisit
  split <;> rfl

theorem record_published (r : Remote) (call : Nat) (m : Message) :
    (r.record call m).1.published = r.published ∨
      (r.record call m).1.published = r.published ++ [m] := by
  unfold record
  dsimp only
  split
  · exact .inl rfl
  · exact .inr rfl

theorem letIn_published (r : Remote) (delay now call : Nat) (m : Message) :
    (r.letIn delay now call m).1.published = r.published ∨
      (r.letIn delay now call m).1.published = r.published ++ [m] := by
  unfold letIn
  split
  · exact record_published r call m
  · exact .inl (setVisit_published r call _)

/-- A remote publishes the message it is given, or nothing yet. -/
theorem attempt_published (r : Remote) (now call : Nat) (m : Message) :
    (r.attempt now call m).1.published = r.published ∨
      (r.attempt now call m).1.published = r.published ++ [m] := by
  unfold attempt
  split
  · exact .inl rfl
  · split
    · exact .inr rfl
    · exact .inl rfl
  next gated delay _ =>
    split
    · exact .inl rfl
    · exact letIn_published r delay now call m
    · split
      · exact record_published r call m
      · exact .inl rfl
    · split
      · exact letIn_published r delay now call m
      · split
        · exact letIn_published { r with permits := r.permits - 1 } delay now call m
        · exact .inl (setVisit_published r call .waiting)

theorem admitWaiting_published (r : Remote) (visits : List (Nat × Visit)) :
    (r.admitWaiting visits).1.published = r.published := by
  induction visits generalizing r with
  | nil => rfl
  | cons visit rest ih =>
    obtain ⟨call, state⟩ := visit
    cases state with
    | waiting =>
      unfold admitWaiting
      split
      · exact (ih _).trans (setVisit_published _ call .admitted)
      · rfl
    | admitted | asleep => exact ih r

theorem release_published (r : Remote) (permits : Nat) :
    (r.release permits).1.published = r.published :=
  admitWaiting_published _ _

theorem forget_published (r : Remote) (call : Nat) :
    (r.forget call).1.published = r.published := by
  unfold forget
  split
  · exact release_published (r.endVisit call) 1
  · rfl

end Remote

namespace Gateway

open BridgeManager (Action State)

/-! ### Leading from one stage to another -/

/-- From one stage to the other by acts. -/
def Stage.Leads (s s' : Stage) : Prop := ∃ acts, s.run acts = s'

namespace Stage.Leads

variable {s s' s'' : Stage}

theorem refl (s : Stage) : s.Leads s := ⟨[], rfl⟩

theorem trans (first : s.Leads s') (second : s'.Leads s'') : s.Leads s'' := by
  obtain ⟨before, rfl⟩ := first
  obtain ⟨after, rfl⟩ := second
  exact ⟨before ++ after, s.run_append before after⟩

theorem act (act : Act) : s.Leads (s.step act) := ⟨[act], rfl⟩

end Stage.Leads

variable {change : Option Handover} {g g' : Gateway}

/-- From one gateway to the other by acts, while a change waits or none. -/
abbrev Leads (change : Option Handover) (g g' : Gateway) : Prop :=
  Stage.Leads ⟨g, change⟩ ⟨g', change⟩

theorem Beside.leads (beside : Beside g g') : Leads change g g' := by
  obtain ⟨registry, agenda, adapters, rfl⟩ := beside
  exact .act (.beside registry agenda adapters)

theorem setRemote_leads {name : String} {r : Remote} (kept : r.published = g.publishedAt name) :
    Leads change g (g.setRemote name r) := by
  have led : Leads change g (g.setRemote name { r with published := g.publishedAt name }) :=
    .act (.setRemote name r)
  rw [← kept] at led
  exact led

theorem publish_leads {name : String} {r : Remote} {call : Nat} {m : Message}
    (here : g.atRemote? call = some (name, m)) (grown : r.published = g.publishedAt name ++ [m]) :
    Leads change g (g.setRemote name r) := by
  have led := Stage.Leads.act (s := ⟨g, change⟩) (.publish call r)
  simp only [Stage.step, here, ← grown] at led
  exact led

/-! ### Tasks -/

theorem publishedAt_eq {name : String} {r : Remote} (known : g.remote? name = some r) :
    g.publishedAt name = r.published := by
  rw [publishedAt, known]
  rfl

theorem attempt_leads {name : String} {r : Remote} {call : Nat} {m : Message}
    (known : g.remote? name = some r) (here : g.atRemote? call = some (name, m)) :
    Leads change g (g.setRemote name (r.attempt g.agenda.now call m).1) := by
  have published := r.attempt_published g.agenda.now call m
  rw [← publishedAt_eq known] at published
  exact published.elim setRemote_leads (publish_leads here)

theorem leads_carried (change : Option Handover) : Carried (Leads change) where
  refl := fun _ => .refl _
  trans := .trans
  dispatch := fun _ m => .act (.broker (.dispatch m))
  intercept := fun _ call => .act (.intercept call)
  answer := fun _ call answer => .act (.bridges (.answered call answer))
  attempt := attempt_leads
  beside := fun beside _ => beside.leads

theorem advanceTo_leads (g : Gateway) (time : Nat) : Leads change g (schedule.advanceTo g time) :=
  Schedule.advanceTo_rel (R := Leads change) (fun _ => .refl _) .trans
    (fun g a => (Beside.agenda g a).leads) (leads_carried change).poll g time

theorem settled_leads (g : Gateway) : Leads change g g.settled :=
  Schedule.settleWithin_rel (R := Leads change) (fun _ => .refl _) .trans
    (fun g ready => (Beside.agenda g { g.agenda with ready }).leads) (leads_carried change).poll _ g

theorem drainWithin_leads (fuel : Nat) (d : Drain) (g : Gateway) :
    Leads change g (drainWithin fuel d g).1 := by
  induction fuel generalizing d g with
  | zero => exact .refl _
  | succ fuel ih =>
    unfold drainWithin
    dsimp only
    split
    · exact .refl _
    · exact (advanceTo_leads g _).trans (ih _ _)

theorem drain_leads (g : Gateway) (lanes : List Nat) (timeout : Nat) :
    Leads change g (g.drain lanes timeout).1 :=
  drainWithin_leads _ _ g

/-! ### Remotes and bridges -/

theorem wakeAll_leads (g : Gateway) (tasks : List Task) :
    Leads change g { g with agenda := g.agenda.wakeAll tasks } :=
  (Beside.agenda g _).leads

theorem release_leads (g : Gateway) (name : String) (permits : Nat) :
    Leads change g (g.release name permits) := by
  unfold release
  split
  next r there =>
    have kept := (r.release_published permits).trans (publishedAt_eq there).symm
    exact (setRemote_leads kept).trans (wakeAll_leads _ _)
  next => exact .refl _

theorem ensureRemote_leads (g : Gateway) (name : String) {r : Remote} (new : r.published = []) :
    Leads change g (g.ensureRemote name r) := by
  unfold ensureRemote
  split
  next => exact .refl _
  next absent =>
    refine setRemote_leads ?_
    rw [Table.contains_eq, Bool.not_eq_true, Option.isSome_eq_false_iff, Option.isNone_iff_eq_none]
      at absent
    rw [publishedAt, remote?, absent, new]
    rfl

theorem abort_leads (g : Gateway) (call : Nat) : Leads change g (g.abort call) := by
  have given_up : Leads change g (g.setTraffic (g.traffic.abort call)) := .act (.bridges (.abort call))
  unfold abort
  dsimp only
  split
  next name _ =>
    split
    next r there =>
      have kept := (r.forget_published call).trans (publishedAt_eq there).symm
      exact given_up.trans ((setRemote_leads kept).trans (wakeAll_leads _ _))
    next => exact given_up
  next => exact given_up

theorem forwardRemote_leads {id : String} {m : Message} {messageId : Nat} {calls : List Nat}
    (accepted : g.forwardRemote id m messageId = .ok (g', calls)) : Leads change g g' := by
  unfold forwardRemote at accepted
  split at accepted
  next => cases accepted
  next bridges forwarded =>
    cases accepted
    have offered : Leads change g { g with bridges } := by
      have led := Stage.Leads.act (s := ⟨g, change⟩) (.bridges (.forwardRemote id m messageId))
      simp only [Stage.step, FromOutside, ↓reduceIte, Stage.state, Gateway.state, State.step,
        forwarded] at led
      exact led
    exact offered.trans (wakeAll_leads { g with bridges } _)

theorem carryThrough_leads {a : Action} {begun : BridgeManager × Except AdminFault Handover}
    (outside : FromOutside a = true)
    (stepped : (g.state none).step a = (g.state none).begin begun) :
    Leads none g (g.carryThrough begun).1 := by
  have begins : Stage.Leads ⟨g, none⟩ ((Stage.mk g none).enter ((g.state none).begin begun)) := by
    have led := Stage.Leads.act (s := ⟨g, none⟩) (.bridges a)
    simp only [Stage.step, outside, ↓reduceIte, Stage.state, stepped] at led
    exact led
  obtain ⟨bridges, fault | h⟩ := begun
  · exact begins
  · have waited : Leads (some h) { g with bridges } ({ g with bridges }.drain
        (bridges.draining h) g.drainTimeout).1 := drain_leads _ _ _
    exact begins.trans (waited.trans (.act (.bridges .complete)))

theorem request_leads (g : Gateway) (r : Request) : Leads none g (g.request r).1 := by
  cases r with
  | add config remote => exact .act (.bridges (.add config remote))
  | update config remote =>
    rw [request_update]
    exact carryThrough_leads (a := .beginUpdate config remote) rfl rfl
  | delete id =>
    rw [request_delete]
    exact carryThrough_leads (a := .beginDelete id) rfl rfl

/-! ### Adapters -/

theorem setRegistry_beside (g : Gateway) (registry : Registry Handler) :
    Beside g (g.setRegistry registry) := by
  unfold setRegistry
  have set : Beside g { g with registry } := .registry g registry
  generalize List.range registry.handlers.length = handlers
  generalize { g with registry } = g' at set ⊢
  induction handlers generalizing g' with
  | nil => exact set
  | cons handler handlers ih => exact ih _ (set.trans (meetRequests_beside _ handler))

theorem openCounters_beside (g : Gateway) (id : String) : Beside g (g.openCounters id) := by
  unfold openCounters
  split
  · exact ⟨g.registry, g.agenda, _, rfl⟩
  · exact .refl g

theorem addAdapter_beside (g : Gateway) (type id : String) (config : Json) :
    Beside g (g.addAdapter type id config).1 := by
  unfold addAdapter
  split
  · exact ⟨_, g.agenda, g.traffic.metrics.adapters, rfl⟩
  · exact (setRegistry_beside g _).trans (openCounters_beside _ id)

theorem updateAdapter_beside (g : Gateway) (id : String) (config : Json) :
    Beside g (g.updateAdapter id config).1 := by
  unfold updateAdapter
  split
  · exact ⟨_, g.agenda, g.traffic.metrics.adapters, rfl⟩
  · exact (setRegistry_beside g _).trans (openCounters_beside _ id)

/-! ### Operations -/

/-- What can be asked of a gateway. Messages enter by `dispatch` and `send`, which is how adapters
publish, and from remotes. -/
inductive Operation where
  | broker (op : Broker.Operation)
  | send (publish : AdapterPublish)
  | forwardRemote (bridge : String) (m : Message) (messageId : Nat)
  | request (r : Request)
  | startAll
  | stopAll
  | drainAll (timeout : Nat)
  | poll (task : Task)
  | settle
  | advance (millis : Nat)
  | abort (call : Nat)
  | ensureRemote (name : String) (kind : RemoteKind)
  | adjustRemote (name : String) (connected : Bool) (failure : Option PublishFault)
  | release (name : String) (permits : Nat)
  | addAdapter (type id : String) (config : Json)
  | updateAdapter (id : String) (config : Json)
  | deleteAdapter (id : String)
  | shutdown

def operate (g : Gateway) : Operation → Gateway
  | .broker op => g.atBroker op
  | .send publish => (g.send publish).1
  | .forwardRemote bridge m messageId =>
    match g.forwardRemote bridge m messageId with
    | .ok (g, _) => g
    | .error _ => g
  | .request r => (g.request r).1
  | .startAll => { g with bridges := g.bridges.startAll }
  | .stopAll => { g with bridges := g.bridges.stopAll }
  | .drainAll timeout => (g.drainAll timeout).1
  | .poll task => g.poll task
  | .settle => g.settled
  | .advance millis => g.advance millis
  | .abort call => g.abort call
  | .ensureRemote name kind => g.ensureRemote name { kind }
  | .adjustRemote name connected failure =>
    g.adjustRemote name fun r => { r with connected, failure }
  | .release name permits => g.release name permits
  | .addAdapter type id config => (g.addAdapter type id config).1
  | .updateAdapter id config => (g.updateAdapter id config).1
  | .deleteAdapter id => (g.deleteAdapter id).1
  | .shutdown => g.shutdown

/-- A gateway after a series of operations. -/
def operated (g : Gateway) (ops : List Operation) : Gateway := ops.foldl operate g

theorem operate_leads (g : Gateway) (op : Operation) : Leads none g (g.operate op) := by
  cases op with
  | broker op => exact .act (.broker op)
  | send publish => exact .act (.broker (.dispatch publish.message))
  | forwardRemote bridge m messageId =>
    unfold operate
    dsimp only
    split
    next accepted => exact forwardRemote_leads accepted
    next => exact .refl _
  | request r => exact request_leads g r
  | startAll => exact .act (.bridges .startAll)
  | stopAll => exact .act (.bridges .stopAll)
  | drainAll timeout => exact drain_leads g _ timeout
  | poll task => exact (leads_carried none).poll g task
  | settle => exact settled_leads g
  | advance millis => exact advanceTo_leads g _
  | abort call => exact abort_leads g call
  | ensureRemote name kind => exact ensureRemote_leads g name rfl
  | adjustRemote name connected failure =>
    exact .act (.adjustRemote name fun r => { r with connected, failure })
  | release name permits => exact release_leads g name permits
  | addAdapter type id config => exact (addAdapter_beside g type id config).leads
  | updateAdapter id config => exact (updateAdapter_beside g id config).leads
  | deleteAdapter id => exact (setRegistry_beside g _).leads
  | shutdown => exact (setRegistry_beside g _).leads

theorem operated_leads (g : Gateway) (ops : List Operation) : Leads none g (g.operated ops) := by
  induction ops generalizing g with
  | nil => exact .refl _
  | cons op ops ih => exact (operate_leads g op).trans (ih _)

end Gateway
end EdgeGateway

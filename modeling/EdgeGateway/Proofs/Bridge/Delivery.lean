import EdgeGateway.Proofs.Bridge.Calls
import EdgeGateway.Proofs.Bridge.LoopPrevention

/-!
# What reaches a target

Which messages a lane puts into the hands of its target is decided by the message offered, the
interceptor and the connection at the moment the interceptor returns, and by nothing else in a run.
-/

namespace EdgeGateway.Traffic

/-! ### What is due -/

/-- The message that an offer brings into the hands of the target, given whether the target is
connected when the interceptor returns. -/
def due (I : Interceptor) (f : Forwarder) (o : Offer) (connected : Bool) : Option Message :=
  match f.receive o.running o.message with
  | .accepted candidate => (passedOn (I f.context candidate) connected).toOption
  | .ended _ => none

theorem due_accepted {I : Interceptor} {f : Forwarder} {o : Offer} {connected : Bool}
    {candidate : Message} (accepted : f.receive o.running o.message = .accepted candidate) :
    due I f o connected = (passedOn (I f.context candidate) connected).toOption := by
  rw [due, accepted]

/-- The interceptor answers the calls of a lane as the function `I` does. -/
def Event.Obeys (I : Interceptor) (lane : Nat) (t : Traffic) : Event → Prop
  | .intercepted i answer _ => ∀ c candidate f, t.calls[i]? = some c → c.lane = lane →
    c.progress = .candidate candidate → t.forwarder? lane = some f → answer = I f.context candidate
  | _ => True

/-- What has become of an offer: the interceptor has returned it at most once, and handed over is
what was due then. -/
structure Told (I : Interceptor) (f : Forwarder) (o : Offer) (c : Call) (abandoned : Prop)
    (returned : List Bool) (handed : List Message) : Prop where
  waiting : ∀ candidate, c.progress = .candidate candidate →
    f.receive o.running o.message = .accepted candidate ∧ returned = []
  once : returned.length ≤ 1
  passed : ∀ candidate, f.receive o.running o.message = .accepted candidate →
    c.progress.candidate? = none → returned ≠ [] ∨ abandoned
  handed : handed = returned.flatMap fun connected => (due I f o connected).toList

theorem passedOn_toOption {answer : Except InterceptFault Interception} {connected : Bool}
    {m : Message} : (passedOn answer connected).toOption = some m ↔
      answer = .ok (.pass m) ∧ connected = true := by
  unfold passedOn
  split
  · simp [Except.toOption]
  · simp [Except.toOption]
  · cases connected <;> simp [Except.toOption]

theorem Told.change {I : Interceptor} {f : Forwarder} {o : Offer} {c c' : Call} {abandoned : Prop}
    {returned rs : List Bool} {handed ms : List Message} {e : Event} {i : Nat}
    (told : Told I f o c abandoned returned handed) (change : CallChange e i c c' rs ms)
    (obeys : ∀ answer connected candidate, e = .intercepted i answer connected →
      c.progress = .candidate candidate → answer = I f.context candidate) :
    Told I f o c' (abandoned ∨ e = .abort i) (returned ++ rs) (handed ++ ms) := by
  cases change with
  | rest =>
    rw [List.append_nil, List.append_nil]
    exact ⟨told.waiting, told.once,
      fun candidate accepted passed => (told.passed candidate accepted passed).imp_right .inl,
      told.handed⟩
  | @handOver answer connected candidate m event waiting passed =>
    obtain ⟨accepted, none_yet⟩ := told.waiting candidate waiting
    have given := obeys answer connected candidate event waiting
    have due_now : due I f o connected = some m := by
      rw [due_accepted accepted, ← given, passed]
      rfl
    have nothing := told.handed
    rw [none_yet] at nothing ⊢
    rw [nothing]
    exact ⟨by simp, by simp, by simp, by simp [due_now]⟩
  | @decline answer connected candidate outcome event waiting passed =>
    obtain ⟨accepted, none_yet⟩ := told.waiting candidate waiting
    have given := obeys answer connected candidate event waiting
    have due_now : due I f o connected = none := by
      rw [due_accepted accepted, ← given, passed]
      rfl
    have nothing := told.handed
    rw [none_yet] at nothing ⊢
    rw [nothing]
    exact ⟨by simp, by simp, by simp, by simp [due_now]⟩
  | @settle m answer event waiting =>
    rw [List.append_nil, List.append_nil]
    refine ⟨by simp, told.once, fun candidate accepted _ => ?_, told.handed⟩
    exact (told.passed candidate accepted (by rw [waiting]; rfl)).imp_right .inl
  | abandon event =>
    rw [List.append_nil, List.append_nil]
    exact ⟨by simp, told.once, fun _ _ _ => .inr (.inr event), told.handed⟩

theorem told_new (I : Interceptor) (f : Forwarder) (o : Offer) (abandoned : Prop) :
    Told I f o { lane := o.lane, ack := o.ack, progress := opening (f.receive o.running o.message) }
      abandoned [] [] := by
  cases reception : f.receive o.running o.message with
  | ended outcome =>
    refine ⟨fun candidate waiting => ?_, Nat.zero_le 1, fun candidate accepted _ => ?_, rfl⟩
    · cases waiting
    · cases reception.symm.trans accepted
  | accepted candidate =>
    refine ⟨fun candidate' waiting => ?_, Nat.zero_le 1, fun candidate' _ passed => ?_, rfl⟩
    · cases waiting
      exact ⟨reception, rfl⟩
    · cases passed

/-! ### Runs -/

theorem run_told {I : Interceptor} {lane : Nat} {es : List Event}
    (pure : Throughout (fun t e => e.Obeys I lane t) {} es) {i : Nat} {o : Offer}
    (offered : (offers es)[i]? = some o) (here : o.lane = lane) :
    ∃ f c, (run {} es).forwarder? lane = some f ∧ (run {} es).calls[i]? = some c ∧ c.lane = lane ∧
      Told I f o c (.abort i ∈ es) (returnedOn es i) (handedOn es i) := by
  obtain ⟨f, c, present, known, there, told⟩ := run_each
    (R := fun f o c abandoned returned handed => o.lane = lane → Told I f o c abandoned returned handed)
    (fun f o abandoned _ => told_new I f o abandoned)
    (by
      rintro t e i f o c c' abandoned returned handed rs ms obeys known present there told change here
      refine (told here).change change ?_
      rintro answer connected candidate rfl waiting
      exact obeys c candidate f known (there.trans here) waiting (there.trans here ▸ present))
    pure offered
  exact ⟨f, c, here ▸ present, known, there.trans here, told here⟩

/-! ### Deliveries -/

/-- Whether the target was connected when the interceptor returned a call. -/
def connectedAt (es : List Event) (i : Nat) : Bool := returnedOn es i = [true]

def handedAt (es : List Event) (lane : Nat) : List Message :=
  ((handovers es).filter fun p => ((run {} es).calls[p.1]?).any (·.lane = lane)).map Prod.snd

theorem due_disconnected (I : Interceptor) (f : Forwarder) (o : Offer) : due I f o false = none := by
  cases reception : f.receive o.running o.message with
  | accepted candidate =>
    rw [due_accepted reception, Option.eq_none_iff_forall_ne_some]
    intro m handed
    cases (passedOn_toOption.mp handed).2
  | ended outcome => rw [due, reception]

/-- All it takes for an offer to bring a message into the hands of the target. -/
structure Due (I : Interceptor) (f : Forwarder) (o : Offer) (connected : Bool) (m : Message) :
    Prop where
  running : o.running = true
  allowed : f.guard.decision (f.guard.hops o.message) = .allow
  stays : ∀ exclude ∈ f.excludes, Topic.matchesFilter o.message.topic exclude = false
  passed : ∃ t, f.Transformed o.message t ∧ I f.context t = .ok (.pass m)
  connected : connected = true

theorem due_iff {I : Interceptor} {f : Forwarder} {o : Offer} {connected : Bool} {m : Message} :
    due I f o connected = some m ↔ Due I f o connected m := by
  have excluded : f.isExcluded o.message.topic = false ↔
      ∀ exclude ∈ f.excludes, Topic.matchesFilter o.message.topic exclude = false := by
    simp [Forwarder.isExcluded]
  constructor
  · intro handed
    cases reception : f.receive o.running o.message with
    | ended outcome =>
      rw [due, reception] at handed
      cases handed
    | accepted candidate =>
      rw [due_accepted reception] at handed
      obtain ⟨passed, connects⟩ := passedOn_toOption.mp handed
      obtain ⟨running, allowed, stays, made⟩ := Forwarder.receive_accepted_iff.mp reception
      exact ⟨running, allowed, excluded.mp stays,
        ⟨candidate, Forwarder.transform_iff.mp made, passed⟩, connects⟩
  · rintro ⟨running, allowed, stays, ⟨t, transformed, passed⟩, connects⟩
    have reception := Forwarder.receive_accepted_iff.mpr
      ⟨running, allowed, excluded.mpr stays, Forwarder.transform_iff.mpr transformed⟩
    rw [due_accepted reception]
    exact passedOn_toOption.mpr ⟨passed, connects⟩

theorem Told.handed_eq {I : Interceptor} {f : Forwarder} {o : Offer} {c : Call} {abandoned : Prop}
    {es : List Event} {i : Nat}
    (told : Told I f o c abandoned (returnedOn es i) (handedOn es i)) :
    handedOn es i = (due I f o (connectedAt es i)).toList := by
  have once := told.once
  rw [told.handed, connectedAt]
  generalize returnedOn es i = returned at once ⊢
  rcases returned with _ | ⟨connected, _ | _⟩
  · simp [due_disconnected]
  · cases connected <;> simp
  · simp at once

/-- A call that was accepted and has ended without being given up was returned once. -/
theorem Told.returned_eq {I : Interceptor} {f : Forwarder} {o : Offer} {c : Call} {abandoned : Prop}
    {es : List Event} {i : Nat} {handed : List Message} {candidate : Message}
    (told : Told I f o c abandoned (returnedOn es i) handed) (kept : ¬ abandoned)
    (ended : c.progress.hasEnded = true)
    (accepted : f.receive o.running o.message = .accepted candidate) :
    returnedOn es i = [connectedAt es i] := by
  have gone : c.progress.candidate? = none := by
    cases progress : c.progress with
    | candidate m => rw [progress] at ended; cases ended
    | _ => rfl
  have some_return := (told.passed candidate accepted gone).resolve_right kept
  have once := told.once
  rw [connectedAt]
  generalize returnedOn es i = returned at some_return once ⊢
  rcases returned with _ | ⟨connected, _ | _⟩
  · exact absurd rfl some_return
  · cases connected <;> simp
  · simp at once

/-- The messages a lane hands over in a run are those due for the messages offered to it. -/
structure Delivered (I : Interceptor) (f : Forwarder) (es : List Event) (lane : Nat) : Prop where
  exactly : (handedAt es lane).Perm ((offers es).zipIdx.filterMap fun (o, i) =>
    if o.lane = lane then due I f o (connectedAt es i) else none)
  /-- Each offer brings what is due for it, once, and nothing else. -/
  each : ∀ i o, (offers es)[i]? = some o → o.lane = lane →
    handedOn es i = (due I f o (connectedAt es i)).toList
  /-- When all calls have ended and none was given up, the interceptor has returned each accepted
  one once. -/
  returned : (∀ i, .abort i ∉ es) → (∀ c ∈ (run {} es).calls, c.progress.hasEnded = true) →
    ∀ i o candidate, (offers es)[i]? = some o → o.lane = lane →
      f.receive o.running o.message = .accepted candidate → returnedOn es i = [connectedAt es i]

theorem run_delivered {I : Interceptor} {es : List Event} {lane : Nat} {f : Forwarder}
    (present : (run {} es).forwarder? lane = some f)
    (pure : Throughout (fun t e => e.Obeys I lane t) {} es) : Delivered I f es lane := by
  have answers := run_answers es
  have told {i : Nat} {o : Offer} (offered : (offers es)[i]? = some o) (here : o.lane = lane) :
      ∃ c, (run {} es).calls[i]? = some c ∧
        Told I f o c (.abort i ∈ es) (returnedOn es i) (handedOn es i) := by
    obtain ⟨f', c, present', known, _, told⟩ := run_told pure offered here
    obtain rfl := Option.some.inj (present.symm.trans present')
    exact ⟨c, known, told⟩
  constructor
  · have bounded : ∀ p ∈ (handovers es).filter fun p =>
        ((run {} es).calls[p.1]?).any (·.lane = lane), p.1 < (offers es).length := by
      intro p member
      rw [answers.length_eq]
      exact (run_known es).2 p (List.mem_of_mem_filter member)
    refine (perm_valuesAt bounded).trans (.of_eq ?_)
    rw [List.filterMap_eq_flatMap_toList]
    refine flatMap_range_eq_zipIdx fun i o offered => ?_
    obtain ⟨c, known, answer⟩ := forall₂_getElem? answers offered
    rw [valuesAt_filter fun i => ((run {} es).calls[i]?).any (·.lane = lane), known, Option.any_some,
      answer.1]
    by_cases here : o.lane = lane
    · obtain ⟨_, _, told⟩ := told offered here
      simp only [here, decide_true, ↓reduceIte]
      exact told.handed_eq
    · simp [here]
  · intro i o offered here
    obtain ⟨_, _, told⟩ := told offered here
    exact told.handed_eq
  · intro kept ended i o candidate offered here accepted
    obtain ⟨c, known, told⟩ := told offered here
    exact told.returned_eq (kept i) (ended c (List.mem_of_getElem? known)) accepted

/-- The limit of a guard is 32 bits wide, so a hop count it lets pass does not saturate. -/
theorem next_of_allow {g : HopGuard} {n : Nat} (on : g.enabled = true) (limit : g.limit ≤ maxHops)
    (allowed : g.decision n = .allow) : HopGuard.next n = n + 1 := by
  have positive : 1 ≤ maxHops := by decide
  have below := (HopGuard.decision_allow_iff on n).mp allowed
  rw [HopGuard.next]
  omega

theorem Delivered.qos_le {I : Interceptor} {f : Forwarder} {es : List Event} {lane : Nat}
    (delivered : Delivered I f es lane)
    (keeps : ∀ context m m', I context m = .ok (.pass m') → m'.qos = m.qos) {m : Message}
    (member : m ∈ handedAt es lane) : m.qos.toNat ≤ f.maxQos.toNat := by
  obtain ⟨⟨o, i⟩, _, given⟩ := List.mem_filterMap.mp (delivered.exactly.mem_iff.mp member)
  simp only at given
  split at given
  · obtain ⟨t, transformed, passed⟩ := (due_iff.mp given).passed
    rw [keeps _ _ _ passed, transformed.qos]
    exact Nat.min_le_right _ _
  · cases given

/-- In every run the messages handed over to the target of a lane are exactly those due for the
messages offered to it, if its interceptor answers as a function of message and context. So none is
handed over above the QoS of the lane, unless the interceptor raises it. -/
theorem handed_over_exactly {I : Interceptor} {es : List Event} {lane : Nat} {f : Forwarder}
    (present : (run {} es).forwarder? lane = some f)
    (pure : Throughout (fun t e => e.Obeys I lane t) {} es) :
    Delivered I f es lane ∧
      (∀ o connected m, due I f o connected = some m ↔ Due I f o connected m) ∧
      (f.guard.enabled = true → f.guard.limit ≤ maxHops →
        ∀ m, f.guard.decision (f.guard.hops m) = .allow →
          HopGuard.next (f.guard.hops m) = f.guard.hops m + 1) ∧
      ((∀ context m m', I context m = .ok (.pass m') → m'.qos = m.qos) →
        ∀ m ∈ handedAt es lane, m.qos.toNat ≤ f.maxQos.toNat) := by
  have delivered := run_delivered present pure
  refine ⟨delivered, fun _ _ _ => due_iff, ?_, fun keeps m member => delivered.qos_le keeps member⟩
  intro on limit m allowed
  exact next_of_allow on limit allowed

/-- A message is offered to a new lane, passed on as `sent` and taken by the target. -/
def singleRun (f : Forwarder) (m sent : Message) : List Event :=
  [.addLane f .localBroker, .start 0, .forward 0 m { queueId := f.id, messageId := 1 },
    .intercepted 0 (.ok (.pass sent)) true, .answered 0 (.ok ())]

theorem handed_over_once :
    let sent : Message := { topic := "t", properties := [{ name := hopProperty, value := "1" }] }
    Delivered Interceptor.passThrough (Station.plain 1 (by decide)).forwarder
        (singleRun (Station.plain 1 (by decide)).forwarder { topic := "t" } sent) 0 ∧
      handedAt (singleRun (Station.plain 1 (by decide)).forwarder { topic := "t" } sent) 0 =
        [sent] := by
  refine ⟨(handed_over_exactly (f := (Station.plain 1 (by decide)).forwarder) rfl ?_).1, rfl⟩
  refine ⟨trivial, trivial, trivial, ?_, trivial, trivial⟩
  intro c candidate g known _ waiting _
  cases known
  cases waiting
  rfl

end EdgeGateway.Traffic

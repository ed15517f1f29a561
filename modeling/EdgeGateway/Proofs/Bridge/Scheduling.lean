import EdgeGateway.Proofs.Bridge.Conservation
import EdgeGateway.Proofs.Bridge.Delivery

/-!
# Schedules

What forwarders are asked to do is one thing, when the deliveries under way go on is another. Where
interceptor and targets answer by what they are given, two runs of the same requests end alike,
whatever the order of the deliveries in between: `Course` says what can become of an offer, and it
comes to one end only.
-/

namespace EdgeGateway

/-- A lane apart from the number of its messages under way. -/
def Lane.atRest (l : Lane) : Lane := { l with inflight := 0 }

theorem BridgeCounters.ext_get {c c' : BridgeCounters} (same : ∀ k, c.get k = c'.get k) : c = c' := by
  have received := same .received
  have success := same .forwardSuccess
  have failed := same .forwardFailed
  have looped := same .loopPreventionDrops
  have excluded := same .excluded
  have intercepted := same .interceptDropped
  have disconnected := same .disconnectedDrops
  cases c
  cases c'
  simp only [get] at received success failed looped excluded intercepted disconnected
  subst received success failed looped excluded intercepted disconnected
  rfl

theorem ended_of_hasEnded {p : Progress} (ended : p.hasEnded = true) :
    ∃ outcome, p = .ended outcome := by
  cases p with
  | ended outcome => exact ⟨outcome, rfl⟩
  | candidate | handedOver => cases ended

namespace Traffic

/-! ### Requests -/

/-- Whether an event is a request to a forwarder, and not the progress of a message under way. -/
def Event.isRequest : Event → Bool
  | .addLane .. | .openMetrics _ | .start _ | .stop _ | .forward .. => true
  | .intercepted .. | .answered .. | .abort _ => false

def atRest (t : Traffic) : List Lane := t.lanes.map Lane.atRest

/-- What an event makes of lanes at rest. -/
def Event.arrange : Event → List Lane → List Lane
  | .addLane forwarder target, lanes => lanes ++ [{ forwarder, target }]
  | .start lane, lanes => lanes.modify lane fun l => { l with running := true }
  | .stop lane, lanes => lanes.modify lane fun l => { l with running := false }
  | _, lanes => lanes

theorem map_atRest_modify (lanes : List Lane) (lane : Nat) {f : Lane → Lane} (g : Lane → Lane)
    (same : ∀ l, (f l).atRest = g l.atRest) :
    (lanes.modify lane f).map Lane.atRest = (lanes.map Lane.atRest).modify lane g := by
  refine List.ext_getElem? fun i => ?_
  rw [List.getElem?_map, List.getElem?_modify, List.getElem?_modify, List.getElem?_map]
  cases lanes[i]? with
  | none => rfl
  | some l => by_cases here : lane = i <;> simp [here, same]

theorem atRest_of_modify {t t' : Traffic} {lane : Nat} {f : Lane → Lane}
    (lanes : t'.lanes = t.lanes.modify lane f) (same : ∀ l, (f l).atRest = l.atRest) :
    t'.atRest = t.atRest := by
  rw [atRest, lanes, map_atRest_modify _ _ id same, List.modify_id]
  rfl

/-- A message, given or under way, only changes how many a lane has under way. -/
theorem Change.atRest {t t' : Traffic} {e : Event} (change : Change t e t')
    (message : (e.call? t).isSome = true) : t'.atRest = t.atRest := by
  cases change with
  | addLane | openMetrics | start | stop => cases message
  | handOver | ignore => rfl
  | turnAway => rw [Traffic.atRest, turnAway_lanes, count_lanes, Traffic.atRest]
  | takeIn =>
    rw [atRest_of_modify (takeIn_lanes _ _ _ _) fun _ => rfl, Traffic.atRest, count_lanes,
      Traffic.atRest]
  | decline | settle | abandon => exact atRest_of_modify (finish_lanes t _ _ _) fun _ => rfl

theorem step_atRest (t : Traffic) (e : Event) : (t.step e).atRest = e.arrange t.atRest := by
  cases e with
  | addLane f target => exact List.map_append
  | openMetrics f => rfl
  | start lane => exact map_atRest_modify t.lanes lane _ fun _ => rfl
  | stop lane => exact map_atRest_modify t.lanes lane _ fun _ => rfl
  | forward | intercepted | answered | abort => exact (step_change t _).atRest rfl

theorem arrange_of_not_request {e : Event} (progress : e.isRequest = false) (lanes : List Lane) :
    e.arrange lanes = lanes := by
  cases e <;> first | rfl | cases progress

/-- The lanes of a run are, at rest, those of its requests alone. -/
theorem run_atRest (es : List Event) :
    (run {} es).atRest = (run {} (es.filter Event.isRequest)).atRest := by
  induction es using List.reverseRecOn with
  | nil => rfl
  | append_singleton es e ih =>
    rw [run_concat, step_atRest, List.filter_append, ih]
    cases request : e.isRequest with
    | true => rw [List.filter_singleton, request, Bool.cond_true, run_concat, step_atRest]
    | false =>
      rw [arrange_of_not_request request, List.filter_singleton, request, Bool.cond_false,
        List.append_nil]

theorem forwarder?_atRest (t : Traffic) (lane : Nat) :
    t.forwarder? lane = (t.atRest[lane]?).map Lane.forwarder := by
  rw [forwarder?, atRest, List.getElem?_map, Option.map_map]
  rfl

theorem offersOf_atRest (t : Traffic) (lane : Nat) (message : Message) (ack : AckToken) :
    offersOf t (.forward lane message ack) =
      ((t.atRest[lane]?).map fun l => { lane, message, ack, running := l.running }).toList := by
  rw [offersOf, atRest, List.getElem?_map, Option.map_map]
  rfl

/-- The offers of a run are those of its requests alone. -/
theorem offers_requests (es : List Event) : offers es = offers (es.filter Event.isRequest) := by
  induction es using List.reverseRecOn with
  | nil => rfl
  | append_singleton es e ih =>
    rw [offers_concat, List.filter_append, ih, List.filter_singleton]
    cases e with
    | forward lane message ack =>
      rw [Event.isRequest, Bool.cond_true, offers_concat, offersOf_atRest, offersOf_atRest,
        run_atRest es]
    | addLane | openMetrics | start | stop =>
      rw [Event.isRequest, Bool.cond_true, offers_concat]
      rfl
    | intercepted | answered | abort =>
      rw [Event.isRequest, Bool.cond_false, List.append_nil]
      exact List.append_nil _

/-! ### The course of an offer -/

/-- What lies around the forwarders: an interceptor that answers by what it is given, and on each
lane a target that is connected or not and answers by the message. -/
structure Surroundings where
  interceptor : Interceptor
  connected : Nat → Bool
  publish : Nat → Message → Except PublishFault Unit

/-- An event gives the answers of the surroundings, and no message up. -/
def Event.Follows (s : Surroundings) (t : Traffic) : Event → Prop
  | .intercepted i answer connected => ∀ c f candidate, t.calls[i]? = some c →
    t.forwarder? c.lane = some f → c.progress = .candidate candidate →
      answer = s.interceptor f.context candidate ∧ connected = s.connected c.lane
  | .answered i answer => ∀ c m, t.calls[i]? = some c → c.progress = .handedOver m →
    answer = s.publish c.lane m
  | .abort _ => False
  | _ => True

/-- What can become of an offer, and what has been handed over for it. -/
inductive Course (s : Surroundings) (f : Forwarder) (o : Offer) : Progress → List Message → Prop
  | refused {outcome : ForwardOutcome} (received : f.receive o.running o.message = .ended outcome) :
    Course s f o (.ended outcome) []
  | waiting {candidate : Message} (received : f.receive o.running o.message = .accepted candidate) :
    Course s f o (.candidate candidate) []
  | declined {candidate : Message} {outcome : ForwardOutcome}
      (received : f.receive o.running o.message = .accepted candidate)
      (passed : passedOn (s.interceptor f.context candidate) (s.connected o.lane) =
        .error outcome) :
    Course s f o (.ended outcome) []
  | handed {candidate m : Message} (received : f.receive o.running o.message = .accepted candidate)
      (passed : passedOn (s.interceptor f.context candidate) (s.connected o.lane) = .ok m) :
    Course s f o (.handedOver m) [m]
  | settled {candidate m : Message} (received : f.receive o.running o.message = .accepted candidate)
      (passed : passedOn (s.interceptor f.context candidate) (s.connected o.lane) = .ok m) :
    Course s f o (.ended (settlement (s.publish o.lane m))) [m]

section Courses
variable {s : Surroundings} {f : Forwarder} {o : Offer}

theorem course_new (s : Surroundings) (f : Forwarder) (o : Offer) :
    Course s f o (opening (f.receive o.running o.message)) [] := by
  cases received : f.receive o.running o.message with
  | ended outcome => exact .refused received
  | accepted candidate => exact .waiting received

theorem Course.change {t : Traffic} {e : Event} {i : Nat} {c c' : Call} {rs : List Bool}
    {handed ms : List Message} (course : Course s f o c.progress handed)
    (follows : e.Follows s t) (known : t.calls[i]? = some c)
    (present : t.forwarder? c.lane = some f) (there : c.lane = o.lane)
    (change : CallChange e i c c' rs ms) : Course s f o c'.progress (handed ++ ms) := by
  cases change with
  | rest => rwa [List.append_nil]
  | @handOver answer connected candidate m event waiting passed =>
    subst event
    obtain ⟨rfl, rfl⟩ := follows c f candidate known present waiting
    rw [waiting] at course
    rw [there] at passed
    cases course with
    | waiting received => exact .handed received passed
  | @decline answer connected candidate outcome event waiting passed =>
    subst event
    obtain ⟨rfl, rfl⟩ := follows c f candidate known present waiting
    rw [waiting] at course
    rw [there] at passed
    cases course with
    | waiting received => exact .declined received passed
  | @settle m answer event waiting =>
    subst event
    obtain rfl := follows c m known waiting
    rw [waiting] at course
    rw [List.append_nil, there]
    cases course with
    | handed received passed => exact .settled received passed
  | abandon event =>
    subst event
    exact follows.elim

/-- However a message goes on, it comes to one end. -/
theorem Course.unique {end_ end' : ForwardOutcome} {handed handed' : List Message}
    (course : Course s f o (.ended end_) handed) (course' : Course s f o (.ended end') handed') :
    end_ = end' ∧ handed = handed' := by
  cases course with
  | refused received =>
    cases course' with
    | refused received' =>
      cases received.symm.trans received'
      exact ⟨rfl, rfl⟩
    | declined received' | settled received' => cases received.symm.trans received'
  | declined received passed =>
    cases course' with
    | refused received' => cases received.symm.trans received'
    | declined received' passed' =>
      cases received.symm.trans received'
      cases passed.symm.trans passed'
      exact ⟨rfl, rfl⟩
    | settled received' passed' =>
      cases received.symm.trans received'
      cases passed.symm.trans passed'
  | settled received passed =>
    cases course' with
    | refused received' => cases received.symm.trans received'
    | declined received' passed' =>
      cases received.symm.trans received'
      cases passed.symm.trans passed'
    | settled received' passed' =>
      cases received.symm.trans received'
      cases passed.symm.trans passed'
      exact ⟨rfl, rfl⟩

end Courses

theorem run_course {s : Surroundings} {es : List Event}
    (follows : Throughout (fun t e => e.Follows s t) {} es) {i : Nat} {o : Offer}
    (offered : (offers es)[i]? = some o) :
    ∃ f c, (run {} es).forwarder? o.lane = some f ∧ (run {} es).calls[i]? = some c ∧
      c.lane = o.lane ∧ c.ack = o.ack ∧ Course s f o c.progress (handedOn es i) := by
  obtain ⟨f, c, present, known, there, course⟩ := run_each
    (R := fun f o c _ _ handed => Course s f o c.progress handed)
    (fun f o _ => course_new s f o)
    (fun t e i f o c c' _ _ handed rs ms follows known present there course change =>
      course.change follows known present there change)
    follows offered
  obtain ⟨c', known', answers⟩ := forall₂_getElem? (run_answers es) offered
  obtain rfl := Option.some.inj (known.symm.trans known')
  exact ⟨f, c, present, known, there, answers.2.1, course⟩

/-! ### Two schedules -/

/-- A run works off a list of requests. Its deliveries go on in an order of its own, none is given
up, and all have ended. -/
structure WorksOff (s : Surroundings) (requests es : List Event) : Prop where
  requests : es.filter Event.isRequest = requests
  follows : Throughout (fun t e => e.Follows s t) {} es
  done : ∀ c ∈ (run {} es).calls, c.progress.hasEnded = true

/-- Two runs have made the same of every message, and of all of them together. -/
structure SameResults (es es' : List Event) : Prop where
  calls : (run {} es).calls = (run {} es').calls
  outcomes : ∀ i, (run {} es).outcome? i = (run {} es').outcome? i
  completions : (run {} es).completions.Perm (run {} es').completions
  published : ∀ lane, (handedAt es lane).Perm (handedAt es' lane)
  counters : ∀ (bridge : String) (d : Direction), (run {} es).metrics.bridgeCounters bridge d.text =
    (run {} es').metrics.bridgeCounters bridge d.text
  inflight : ∀ lane, (run {} es).inflight lane = (run {} es').inflight lane

section Agreement
variable {s : Surroundings} {requests es es' : List Event}

theorem WorksOff.offers_eq (one : WorksOff s requests es) (other : WorksOff s requests es') :
    offers es = offers es' := by
  rw [offers_requests es, one.requests, ← other.requests, ← offers_requests es']

theorem WorksOff.forwarder?_eq (one : WorksOff s requests es) (other : WorksOff s requests es')
    (lane : Nat) : (run {} es).forwarder? lane = (run {} es').forwarder? lane := by
  rw [forwarder?_atRest, forwarder?_atRest, run_atRest es, one.requests, ← other.requests,
    ← run_atRest es']

/-- Each message has had its course, and that has one end. -/
theorem WorksOff.same_call (one : WorksOff s requests es) (other : WorksOff s requests es') {i : Nat}
    {o : Offer} (offered : (offers es)[i]? = some o) :
    (run {} es).calls[i]? = (run {} es').calls[i]? ∧ handedOn es i = handedOn es' i := by
  obtain ⟨f, c, present, known, there, ack, course⟩ := run_course one.follows offered
  obtain ⟨f', c', present', known', there', ack', course'⟩ :=
    run_course other.follows (one.offers_eq other ▸ offered)
  rw [← one.forwarder?_eq other, present] at present'
  obtain rfl := Option.some.inj present'
  obtain ⟨outcome, ended⟩ := ended_of_hasEnded (one.done c (List.mem_of_getElem? known))
  obtain ⟨outcome', ended'⟩ := ended_of_hasEnded (other.done c' (List.mem_of_getElem? known'))
  rw [ended] at course
  rw [ended'] at course'
  obtain ⟨rfl, handed⟩ := course.unique course'
  have same : c = c' := by
    obtain ⟨lane, token, progress⟩ := c
    obtain ⟨lane', token', progress'⟩ := c'
    simp only at there there' ack ack' ended ended'
    rw [there, there', ack, ack', ended, ended']
  exact ⟨by rw [known, known', same], handed⟩

theorem WorksOff.same_calls (one : WorksOff s requests es) (other : WorksOff s requests es') :
    (run {} es).calls = (run {} es').calls ∧ ∀ i, handedOn es i = handedOn es' i := by
  have each (i : Nat) :
      (run {} es).calls[i]? = (run {} es').calls[i]? ∧ handedOn es i = handedOn es' i := by
    cases offered : (offers es)[i]? with
    | some o => exact one.same_call other offered
    | none =>
      have beyond := List.getElem?_eq_none_iff.mp offered
      have beyond' : (offers es').length ≤ i := by rw [← one.offers_eq other]; exact beyond
      rw [(run_answers es).length_eq] at beyond
      rw [(run_answers es').length_eq] at beyond'
      have unknown : handedOn es i = [] :=
        valuesAt_absent fun p member => Nat.lt_of_lt_of_le ((run_known es).2 p member) beyond
      have unknown' : handedOn es' i = [] :=
        valuesAt_absent fun p member => Nat.lt_of_lt_of_le ((run_known es').2 p member) beyond'
      rw [List.getElem?_eq_none beyond, List.getElem?_eq_none beyond', unknown, unknown']
      exact ⟨rfl, rfl⟩
  exact ⟨List.ext_getElem? fun i => (each i).1, fun i => (each i).2⟩

theorem completions_perm (calls : (run {} es).calls = (run {} es').calls) :
    (run {} es).completions.Perm (run {} es').completions := by
  have one := run_reported es
  have other := run_reported es'
  have same (i : Nat) : valuesAt (reports es) i = valuesAt (reports es') i := by
    rw [one.once, other.once, calls]
  have all := perm_of_valuesAt same
  rwa [one.made, other.made] at all

theorem handedAt_perm (calls : (run {} es).calls = (run {} es').calls)
    (handed : ∀ i, handedOn es i = handedOn es' i) (lane : Nat) :
    (handedAt es lane).Perm (handedAt es' lane) := by
  refine perm_of_valuesAt fun i => ?_
  rw [valuesAt_filter fun i => ((run {} es).calls[i]?).any (·.lane = lane),
    valuesAt_filter fun i => ((run {} es').calls[i]?).any (·.lane = lane), calls]
  have same := handed i
  unfold handedOn at same
  rw [same]

/-- The counters of a run follow from its calls. -/
theorem counters_eq (calls : (run {} es).calls = (run {} es').calls)
    (forwarders : ∀ lane, (run {} es).forwarder? lane = (run {} es').forwarder? lane)
    (bridge : String) (d : Direction) :
    (run {} es).metrics.bridgeCounters bridge d.text =
      (run {} es').metrics.bridgeCounters bridge d.text := by
  refine BridgeCounters.ext_get fun k => ?_
  have one := (run_counted es).counts bridge d k
  have other := (run_counted es').counts bridge d k
  rw [tally_congr (fun lane => (forwarders lane).symm) bridge d calls.symm] at other
  exact one.trans other.symm

theorem WorksOff.idle (one : WorksOff s requests es) (lane : Nat) : (run {} es).inflight lane = 0 := by
  rw [(run_sound es).inflight, underWay, List.countP_eq_zero]
  intro c member
  simp [one.done c member]

/-- Scheduling does not change results. Two runs that work off the same requests, with the same
answers of interceptor and targets to the same questions, end with the same calls, outcomes, reports,
messages handed over, counters and numbers in flight. -/
theorem schedules_agree (one : WorksOff s requests es) (other : WorksOff s requests es') :
    SameResults es es' := by
  obtain ⟨calls, handed⟩ := one.same_calls other
  exact {
    calls
    outcomes := fun i => by rw [outcome?, outcome?, calls]
    completions := completions_perm calls
    published := handedAt_perm calls handed
    counters := counters_eq calls (one.forwarder?_eq other)
    inflight := fun lane => (one.idle lane).trans (other.idle lane).symm }

end Agreement

/-! ### Two messages and a stop in between -/

/-- A target that takes messages of one topic only. -/
def choosy : Surroundings where
  interceptor := Interceptor.passThrough
  connected _ := true
  publish _ m := if m.topic = "t" then .ok () else .error .aborted

def loneForwarder : Forwarder := (Station.plain 1 (by decide)).forwarder

def loneToken (number : Nat) : AckToken := { queueId := loneForwarder.id, messageId := number }

/-- What the forwarder sends on for a message of a topic. -/
def hopped (topic : String) : Message :=
  { topic, properties := [{ name := hopProperty, value := "1" }] }

def threeRequests : List Event :=
  [.addLane loneForwarder (.remote "r"), .start 0, .forward 0 { topic := "t" } (loneToken 1),
    .forward 0 { topic := "u" } (loneToken 2), .stop 0, .forward 0 { topic := "t" } (loneToken 3)]

/-- Each message is delivered before the next request. -/
def oneByOne : List Event :=
  [.addLane loneForwarder (.remote "r"), .start 0, .forward 0 { topic := "t" } (loneToken 1),
    .intercepted 0 (.ok (.pass (hopped "t"))) true, .answered 0 (.ok ()),
    .forward 0 { topic := "u" } (loneToken 2), .intercepted 1 (.ok (.pass (hopped "u"))) true,
    .answered 1 (.error .aborted), .stop 0, .forward 0 { topic := "t" } (loneToken 3)]

/-- The deliveries go on after the stop, the second message first. -/
def inReverse : List Event :=
  [.addLane loneForwarder (.remote "r"), .start 0, .forward 0 { topic := "t" } (loneToken 1),
    .forward 0 { topic := "u" } (loneToken 2), .intercepted 1 (.ok (.pass (hopped "u"))) true,
    .stop 0, .forward 0 { topic := "t" } (loneToken 3), .answered 1 (.error .aborted),
    .intercepted 0 (.ok (.pass (hopped "t"))) true, .answered 0 (.ok ())]

theorem oneByOne_worksOff : WorksOff choosy threeRequests oneByOne where
  requests := rfl
  follows := by
    refine ⟨trivial, trivial, trivial, ?passFirst, ?takeFirst, trivial, ?passSecond, ?takeSecond,
      trivial, trivial, trivial⟩
    case passFirst | passSecond =>
      intro c f candidate known present waiting
      cases known
      cases present
      cases waiting
      exact ⟨rfl, rfl⟩
    case takeFirst | takeSecond =>
      intro c m known waiting
      cases known
      cases waiting
      rfl
  done := List.all_eq_true.mp rfl

theorem inReverse_worksOff : WorksOff choosy threeRequests inReverse where
  requests := rfl
  follows := by
    refine ⟨trivial, trivial, trivial, trivial, ?passSecond, trivial, trivial, ?takeSecond,
      ?passFirst, ?takeFirst, trivial⟩
    case passFirst | passSecond =>
      intro c f candidate known present waiting
      cases known
      cases present
      cases waiting
      exact ⟨rfl, rfl⟩
    case takeFirst | takeSecond =>
      intro c m known waiting
      cases known
      cases waiting
      rfl
  done := List.all_eq_true.mp rfl

theorem two_schedules_agree :
    WorksOff choosy threeRequests oneByOne ∧ WorksOff choosy threeRequests inReverse ∧
      SameResults oneByOne inReverse ∧
      (List.range 3).map (run {} inReverse).outcome? =
        [some .forwarded, some .failed, some (.dropped .stopped)] :=
  ⟨oneByOne_worksOff, inReverse_worksOff, schedules_agree oneByOne_worksOff inReverse_worksOff, rfl⟩

end Traffic
end EdgeGateway

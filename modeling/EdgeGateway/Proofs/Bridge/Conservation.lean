import EdgeGateway.Proofs.Bridge.Labels
import EdgeGateway.Proofs.Metrics

/-!
# Conservation of messages in the counters

All forwarders of a bridge and direction share one set of counters, also across replacements. After
every run of a manager the messages received are those counted with an outcome, those refused and
those in flight.
-/

namespace EdgeGateway

def Forwarder.serves (f : Forwarder) (bridge : String) (d : Direction) : Bool :=
  f.bridgeId = bridge && f.direction = d

/-- Whether a message is counted by a counter. -/
def Progress.counted (k : BridgeCounter) (p : Progress) : Bool :=
  k = .received || p.outcome?.bind ForwardOutcome.counter? = some k

theorem ForwardOutcome.counter?_ne_received (o : ForwardOutcome) : o.counter? ≠ some .received := by
  rcases o with _ | (_ | _ | _ | _) | _ | _ <;> simp [counter?]

theorem ForwardOutcome.counter?_inj {o o' : ForwardOutcome} {k : BridgeCounter}
    (own : o.counter? = some k) (own' : o'.counter? = some k) : o = o' := by
  rcases o with _ | (_ | _ | _ | _) | _ | _ <;> cases own <;>
    rcases o' with _ | (_ | _ | _ | _) | _ | _ <;> cases own' <;> rfl

theorem Progress.counted_waiting {p : Progress} (waiting : p.hasEnded = false) (k : BridgeCounter) :
    p.counted k = decide (k = .received) := by
  cases p with
  | ended o => cases waiting
  | _ => simp [counted, outcome?]

theorem Progress.counted_ended (o : ForwardOutcome) (k : BridgeCounter) :
    (Progress.ended o).counted k = (decide (k = .received) || decide (o.counter? = some k)) := rfl

namespace Traffic

/-! ### What is counted -/

section Counts
variable (t : Traffic) (bridge : String) (d : Direction)

def laneServes (lane : Nat) : Bool := (t.forwarder? lane).any (·.serves bridge d)

/-- How many messages given to forwarders of a bridge and direction are as `p` says. -/
def tally (p : Progress → Bool) : Nat :=
  t.calls.countP fun c => t.laneServes bridge d c.lane && p c.progress

def resolved (o : ForwardOutcome) : Nat := t.tally bridge d (·.outcome? = some o)

/-- The messages in flight at all forwarders there ever were. -/
def inFlight : Nat :=
  ((t.lanes.filter (·.forwarder.serves bridge d)).map Lane.inflight).foldr (· + ·) 0

/-- The reports of a permanent failure under the id of one of these forwarders. -/
def refusals : Nat := t.completions.countP fun c => c.permanentFailure &&
  t.lanes.any fun l => l.forwarder.serves bridge d && l.forwarder.id = c.ack.queueId

def counter (k : BridgeCounter) : Nat := (t.metrics.bridgeCounters bridge d.text).get k

end Counts

/-! ### Counters -/

theorem laneServes_congr {t t' : Traffic} {lane : Nat} (same : t'.forwarder? lane = t.forwarder? lane)
    (bridge : String) (d : Direction) : t'.laneServes bridge d lane = t.laneServes bridge d lane := by
  rw [laneServes, same]
  rfl

theorem count_counter (t : Traffic) (lane : Nat) (k : BridgeCounter) (bridge : String) (d : Direction)
    (k' : BridgeCounter) :
    (t.count lane k).counter bridge d k' =
      t.counter bridge d k' + if t.laneServes bridge d lane && k' = k then 1 else 0 := by
  unfold count laneServes forwarder?
  cases t.lanes[lane]? with
  | none => rfl
  | some l =>
    have labels : (bridge = l.forwarder.bridgeId ∧ d.text = l.forwarder.direction.text) ↔
        l.forwarder.serves bridge d = true := by
      simp only [Forwarder.serves, Bool.and_eq_true, decide_eq_true_eq, eq_comm (a := bridge),
        eq_comm (a := d.text)]
      exact and_congr_right fun _ => ⟨Direction.text_inj, congrArg Direction.text⟩
    simp only [counter, Metrics.get_countBridge, labels, Option.map_some, Option.any_some,
      Bool.and_eq_true, decide_eq_true_eq]

theorem countOutcome_counter (t : Traffic) (lane : Nat) (o : ForwardOutcome) (bridge : String)
    (d : Direction) (k : BridgeCounter) :
    (t.countOutcome lane o).counter bridge d k =
      t.counter bridge d k + if t.laneServes bridge d lane && o.counter? = some k then 1 else 0 := by
  unfold countOutcome
  cases o.counter? with
  | none => simp
  | some k' => simp only [count_counter, Option.some.injEq, eq_comm (a := k)]

theorem turnAway_counter (t : Traffic) (lane : Nat) (ack : AckToken) (o : ForwardOutcome)
    (bridge : String) (d : Direction) (k : BridgeCounter) :
    (t.turnAway lane ack o).counter bridge d k =
      t.counter bridge d k + if t.laneServes bridge d lane && o.counter? = some k then 1 else 0 :=
  countOutcome_counter t lane o bridge d k

theorem finish_counter (t : Traffic) (i : Nat) (call : Call) (o : ForwardOutcome) (bridge : String)
    (d : Direction) (k : BridgeCounter) :
    (t.finish i call o).counter bridge d k = t.counter bridge d k +
      if t.laneServes bridge d call.lane && o.counter? = some k then 1 else 0 := by
  let lowered := t.updateLane call.lane fun l => { l with inflight := l.inflight - 1 }
  have lanes : lowered.lanes =
      t.lanes.modify call.lane fun l => { l with inflight := l.inflight - 1 } := rfl
  have served := laneServes_congr (forwarder?_modify lanes (fun _ => rfl) call.lane) bridge d
  have counted := countOutcome_counter lowered call.lane o bridge d k
  rw [served] at counted
  exact counted

/-! ### Tallies -/

section Tallies
variable {t t' : Traffic} (same : ∀ lane, t'.forwarder? lane = t.forwarder? lane) (bridge : String)
  (d : Direction)
include same

theorem tally_congr (calls : t'.calls = t.calls) (p : Progress → Bool) :
    t'.tally bridge d p = t.tally bridge d p := by
  simp only [tally, calls, laneServes_congr (same _)]

theorem tally_concat {c : Call} (calls : t'.calls = t.calls ++ [c]) (p : Progress → Bool) :
    t'.tally bridge d p =
      t.tally bridge d p + if t.laneServes bridge d c.lane && p c.progress then 1 else 0 := by
  simp only [tally, calls, laneServes_congr (same _), List.countP_append, List.countP_singleton]

theorem tally_modify {i : Nat} {c : Call} {q : Progress} (known : t.calls[i]? = some c)
    (calls : t'.calls = t.calls.modify i fun c => { c with progress := q }) (p : Progress → Bool) :
    t'.tally bridge d p + (if t.laneServes bridge d c.lane && p c.progress then 1 else 0) =
      t.tally bridge d p + if t.laneServes bridge d c.lane && p q then 1 else 0 := by
  simp only [tally, calls, laneServes_congr (same _)]
  exact countP_modify (fun c => t.laneServes bridge d c.lane && p c.progress) _ known

end Tallies

theorem inFlight_modify {t t' : Traffic} {lane : Nat} {l : Lane} {f : Lane → Lane}
    (present : t.lanes[lane]? = some l) (lanes : t'.lanes = t.lanes.modify lane f)
    (same : (f l).forwarder = l.forwarder) (bridge : String) (d : Direction) :
    t'.inFlight bridge d + (if t.laneServes bridge d lane then l.inflight else 0) =
      t.inFlight bridge d + if t.laneServes bridge d lane then (f l).inflight else 0 := by
  have serves : t.laneServes bridge d lane = l.forwarder.serves bridge d := by
    rw [laneServes, forwarder?_of_present present, Option.any_some]
  rw [inFlight, lanes, serves]
  exact sum_filter_modify (·.forwarder.serves bridge d) Lane.inflight f present (by rw [same])

/-- Every counter stands at the number of its messages, and so does the sum of the lanes' counts. -/
structure Counted (t : Traffic) : Prop where
  counts : ∀ bridge d k, t.counter bridge d k = t.tally bridge d (·.counted k)
  inFlight : ∀ bridge d, t.inFlight bridge d = t.tally bridge d (!·.hasEnded)

theorem Counted.turnAway {t : Traffic} (counted : Counted t) (lane : Nat) (ack : AckToken)
    (o : ForwardOutcome) : Counted ((t.count lane .received).turnAway lane ack o) := by
  have same (other : Nat) :
      ((t.count lane .received).turnAway lane ack o).forwarder? other = t.forwarder? other := by
    rw [forwarder?, turnAway_lanes, count_lanes]
    rfl
  have calls : ((t.count lane .received).turnAway lane ack o).calls =
      t.calls ++ [{ lane, ack, progress := .ended o }] := by
    rw [turnAway_calls, count_calls]
  constructor
  · intro bridge d k
    have served : (t.count lane .received).laneServes bridge d lane = t.laneServes bridge d lane :=
      laneServes_congr (by rw [forwarder?, count_lanes]; rfl) bridge d
    have exclusive := o.counter?_ne_received
    rw [turnAway_counter, count_counter, served, tally_concat same bridge d calls, counted.counts,
      Progress.counted_ended]
    cases t.laneServes bridge d lane with
    | false => simp
    | true =>
      by_cases received : k = .received
      · subst received
        simp [exclusive]
      · simp [received]
  · intro bridge d
    rw [tally_concat same bridge d calls, ← counted.inFlight, Traffic.inFlight, turnAway_lanes,
      count_lanes]
    simp [Traffic.inFlight]

theorem Counted.takeIn {t : Traffic} (counted : Counted t) {lane : Nat} {l : Lane} (ack : AckToken)
    (m : Message) (present : t.lanes[lane]? = some l) :
    Counted ((t.count lane .received).takeIn lane ack m) := by
  have lanes : ((t.count lane .received).takeIn lane ack m).lanes =
      t.lanes.modify lane fun l => { l with inflight := l.inflight + 1 } := by
    rw [takeIn_lanes, count_lanes]
  have same := forwarder?_modify lanes fun _ => rfl
  have calls : ((t.count lane .received).takeIn lane ack m).calls =
      t.calls ++ [{ lane, ack, progress := .candidate m }] := by
    rw [takeIn_calls, count_calls]
  constructor
  · intro bridge d k
    have received : ((t.count lane .received).takeIn lane ack m).counter bridge d k =
        (t.count lane .received).counter bridge d k := rfl
    rw [received, count_counter, tally_concat same bridge d calls, counted.counts,
      Progress.counted_waiting (by rfl)]
  · intro bridge d
    have changed := inFlight_modify present lanes rfl bridge d
    rw [tally_concat same bridge d calls, ← counted.inFlight]
    cases served : t.laneServes bridge d lane <;>
      simp only [served, Bool.false_eq_true, ↓reduceIte, Progress.hasEnded_candidate, Bool.not_false,
        Bool.and_self, Bool.and_true] at changed ⊢ <;> omega

theorem Counted.setProgress {t : Traffic} (counted : Counted t) {i : Nat} {call : Call} {p : Progress}
    (known : t.calls[i]? = some call) (waiting : call.progress.hasEnded = false)
    (still : p.hasEnded = false) : Counted (t.setProgress i p) := by
  have same (lane : Nat) : (t.setProgress i p).forwarder? lane = t.forwarder? lane := rfl
  constructor
  · intro bridge d k
    have moved := tally_modify same bridge d known (setProgress_calls t i p) (·.counted k)
    have before := counted.counts bridge d k
    have metrics : (t.setProgress i p).counter bridge d k = t.counter bridge d k := rfl
    rw [Progress.counted_waiting waiting, Progress.counted_waiting still] at moved
    omega
  · intro bridge d
    have moved := tally_modify same bridge d known (setProgress_calls t i p) (!·.hasEnded)
    have before := counted.inFlight bridge d
    have lanes : (t.setProgress i p).inFlight bridge d = t.inFlight bridge d := rfl
    rw [waiting, still] at moved
    omega

theorem Counted.finish {t : Traffic} (counted : Counted t) (sound : Sound t) {i : Nat} {call : Call}
    (o : ForwardOutcome) (known : t.calls[i]? = some call)
    (waiting : call.progress.hasEnded = false) : Counted (t.finish i call o) := by
  have same := forwarder?_modify (finish_lanes t i call o) fun _ => rfl
  constructor
  · intro bridge d k
    have moved := tally_modify same bridge d known (finish_calls t i call o) (·.counted k)
    have before := counted.counts bridge d k
    have exclusive := o.counter?_ne_received
    rw [Progress.counted_waiting waiting, Progress.counted_ended] at moved
    rw [finish_counter]
    cases served : t.laneServes bridge d call.lane with
    | false =>
      simp only [served, Bool.false_and, Bool.false_eq_true, ↓reduceIte] at moved ⊢
      omega
    | true =>
      by_cases received : k = .received
      · subst received
        simp only [served, exclusive, decide_true, decide_false, Bool.and_true, Bool.or_false,
          Bool.and_false, Bool.false_eq_true, ↓reduceIte] at moved ⊢
        omega
      · simp only [served, received, decide_false, Bool.and_false, Bool.false_or,
          Bool.false_eq_true, ↓reduceIte] at moved ⊢
        omega
  · intro bridge d
    have present := List.getElem?_eq_getElem (sound.known call (List.mem_of_getElem? known))
    have positive := sound.inflight_pos known waiting
    rw [Traffic.inflight, present, Option.map_some, Option.getD_some] at positive
    have lowered := inFlight_modify present (finish_lanes t i call o) rfl bridge d
    have moved := tally_modify same bridge d known (finish_calls t i call o) (!·.hasEnded)
    have before := counted.inFlight bridge d
    rw [waiting, Progress.hasEnded_ended] at moved
    cases served : t.laneServes bridge d call.lane <;>
      simp only [served, Bool.not_false, Bool.not_true, Bool.and_true, Bool.and_false,
        Bool.false_eq_true, ↓reduceIte] at lowered moved <;> omega

theorem Counted.addLane {t : Traffic} (counted : Counted t) (sound : Sound t) (f : Forwarder)
    (target : Target) : Counted (t.addLane f target) := by
  have same (bridge : String) (d : Direction) (p : Progress → Bool) :
      (t.addLane f target).tally bridge d p = t.tally bridge d p := by
    refine List.countP_congr fun c member => ?_
    have old : c.lane ≠ t.lanes.length := Nat.ne_of_lt (sound.known c member)
    rw [laneServes, addLane_forwarder?, if_neg old]
    rfl
  constructor
  · intro bridge d k
    rw [same, ← counted.counts]
    exact congrArg (·.get k) (Metrics.bridgeCounters_openBridge t.metrics _ _ bridge d.text)
  · intro bridge d
    rw [same, ← counted.inFlight, Traffic.inFlight, addLane_lanes]
    cases served : f.serves bridge d <;> simp [Traffic.inFlight, served]

theorem Counted.openMetrics {t : Traffic} (counted : Counted t) (f : Forwarder) :
    Counted (t.openMetrics f) := by
  constructor
  · intro bridge d k
    refine Eq.trans ?_ (counted.counts bridge d k)
    exact congrArg (·.get k) (Metrics.bridgeCounters_openBridge t.metrics _ _ bridge d.text)
  · exact counted.inFlight

theorem Counted.setRunning {t : Traffic} (counted : Counted t) (lane : Nat) (running : Bool) :
    Counted (t.setRunning lane running) := by
  have same := forwarder?_modify (setRunning_lanes t lane running) fun _ => rfl
  constructor
  · intro bridge d k
    rw [tally_congr same bridge d rfl]
    exact counted.counts bridge d k
  · intro bridge d
    rw [tally_congr same bridge d rfl, ← counted.inFlight]
    cases present : t.lanes[lane]? with
    | none =>
      have absent := List.getElem?_eq_none_iff.mp present
      rw [Traffic.inFlight, setRunning_lanes, List.modify_eq_self absent]
      rfl
    | some l =>
      have changed := inFlight_modify present (setRunning_lanes t lane running) rfl bridge d
      exact Nat.add_right_cancel changed

theorem Counted.change {t t' : Traffic} {e : Event} (counted : Counted t) (sound : Sound t)
    (change : Change t e t') : Counted t' := by
  cases change with
  | addLane f target => exact counted.addLane sound f target
  | openMetrics f => exact counted.openMetrics f
  | start lane | stop lane => exact counted.setRunning lane _
  | turnAway ack present reception => exact counted.turnAway _ ack _
  | takeIn ack present reception => exact counted.takeIn ack _ present
  | handOver known waiting passed => exact counted.setProgress known (by rw [waiting]; rfl) rfl
  | decline known waiting passed => exact counted.finish sound _ known (by rw [waiting]; rfl)
  | settle answer known waiting => exact counted.finish sound _ known (by rw [waiting]; rfl)
  | abandon known waiting => exact counted.finish sound _ known waiting
  | ignore => exact counted

theorem counted_empty : Counted {} := by
  refine ⟨fun _ _ k => ?_, fun _ _ => rfl⟩
  cases k <;> rfl

theorem run_counted (es : List Event) : Counted (run {} es) := by
  have both := run_invariant (P := fun t => Sound t ∧ Counted t) ⟨sound_empty, counted_empty⟩
    (fun _ _ _ before change => ⟨before.1.change change, before.2.change before.1 change⟩) es
  exact both.2

/-! ### Refusals -/

/-- The reports of permanent failures are those of the refused messages, in order. -/
def Refused (t : Traffic) : Prop :=
  t.completions.filter (·.permanentFailure) =
    (t.calls.filter (·.progress = .ended (.dropped .stopped))).map fun c =>
      { ack := c.ack, permanentFailure := true }

theorem Refused.turnAway {t t' : Traffic} (refused : Refused t) {lane : Nat} {ack : AckToken}
    {o : ForwardOutcome} (calls : t'.calls = t.calls ++ [{ lane, ack, progress := .ended o }])
    (completions : t'.completions =
      t.completions ++ [{ ack, permanentFailure := o = .dropped .stopped }]) : Refused t' := by
  rw [Refused, calls, completions, List.filter_append, List.filter_append, List.map_append, refused]
  by_cases stopped : o = .dropped .stopped <;> simp [stopped]

theorem Refused.setProgress {t t' : Traffic} (refused : Refused t) {i : Nat} {call : Call}
    {p : Progress} (known : t.calls[i]? = some call) (waiting : call.progress.hasEnded = false)
    (accepted : p ≠ .ended (.dropped .stopped))
    (calls : t'.calls = t.calls.modify i fun c => { c with progress := p })
    (completions : t'.completions.filter (·.permanentFailure) =
      t.completions.filter (·.permanentFailure)) : Refused t' := by
  have going : call.progress ≠ .ended (.dropped .stopped) := by
    intro stopped
    rw [stopped] at waiting
    cases waiting
  have same := filter_modify_out (p := fun c : Call => c.progress = .ended (.dropped .stopped))
    (f := fun c => { c with progress := p }) known (by simpa using going) (by simpa using accepted)
  rw [Refused, completions, calls, same]
  exact refused

theorem Refused.change {t t' : Traffic} {e : Event} (refused : Refused t) (change : Change t e t') :
    Refused t' := by
  have finished {i : Nat} {call : Call} {o : ForwardOutcome} (known : t.calls[i]? = some call)
      (waiting : call.progress.hasEnded = false) (accepted : o ≠ .dropped .stopped) :
      Refused (t.finish i call o) :=
    refused.setProgress known waiting (by simpa using accepted) (finish_calls t i call o) (by simp)
  cases change with
  | addLane | openMetrics | start | stop | ignore => exact refused
  | turnAway => exact refused.turnAway (by rw [turnAway_calls, count_calls]) (by simp)
  | takeIn =>
    rw [Refused, takeIn_completions, count_completions, takeIn_calls, count_calls, List.filter_append]
    simpa [Refused] using refused
  | handOver known waiting passed =>
    exact refused.setProgress known (by rw [waiting]; rfl) (by simp) rfl rfl
  | decline known waiting passed =>
    exact finished known (by rw [waiting]; rfl) (passedOn_ne_stopped passed)
  | settle answer known waiting =>
    exact finished known (by rw [waiting]; rfl) (settlement_ne_stopped answer)
  | abandon known waiting => exact finished known waiting (by simp)

theorem run_refused (es : List Event) : Refused (run {} es) :=
  have start : Refused {} := rfl
  run_invariant start (fun _ _ _ refused change => refused.change change) es

/-- The id on a call tells whether its forwarder counts for a bridge and direction. -/
theorem Labelled.serves_iff {t : Traffic} (labelled : Labelled t) {c : Call} (member : c ∈ t.calls)
    (bridge : String) (d : Direction) :
    (t.lanes.any fun l => l.forwarder.serves bridge d && l.forwarder.id = c.ack.queueId) =
      t.laneServes bridge d c.lane := by
  obtain ⟨f, present, id⟩ := labelled.calls c member
  obtain ⟨l, found, rfl⟩ := Option.map_eq_some_iff.mp present
  rw [laneServes, present, Option.any_some, Bool.eq_iff_iff, List.any_eq_true]
  constructor
  · rintro ⟨other, there, both⟩
    obtain ⟨serves, same⟩ := Bool.and_eq_true_iff.mp both
    obtain ⟨lane, found'⟩ := List.mem_iff_getElem?.mp there
    obtain ⟨index, own⟩ := labelled.lanes c.lane l.forwarder present
    obtain ⟨index', other_id⟩ :=
      labelled.lanes lane other.forwarder (forwarder?_of_present found')
    rw [decide_eq_true_eq, id, other_id, own] at same
    obtain ⟨bridges, directions, _⟩ := Forwarder.idOf_inj same
    rwa [Forwarder.serves, ← bridges, ← directions]
  · intro serves
    exact ⟨l, List.mem_of_getElem? found, by simp [serves, id]⟩

theorem Labelled.refusals_eq {t : Traffic} (labelled : Labelled t) (refused : Refused t)
    (bridge : String) (d : Direction) :
    t.refusals bridge d = t.resolved bridge d (.dropped .stopped) := by
  have reports : t.refusals bridge d = (t.completions.filter (·.permanentFailure)).countP fun c =>
      t.lanes.any fun l => l.forwarder.serves bridge d && l.forwarder.id = c.ack.queueId := by
    rw [List.countP_filter]
    exact congrArg (List.countP · t.completions) (funext fun c => Bool.and_comm _ _)
  rw [reports, refused, List.countP_map, List.countP_filter]
  refine List.countP_congr fun c member => ?_
  rw [Function.comp_apply, labelled.serves_iff member]
  cases c.progress <;> simp [Progress.outcome?]

/-! ### Conservation -/

/-- A message is under way or has ended in one of seven ways. -/
theorem tally_partition (t : Traffic) (bridge : String) (d : Direction) :
    t.tally bridge d (·.counted .received) =
      t.resolved bridge d .forwarded + t.resolved bridge d .failed +
        t.resolved bridge d (.dropped .loopPrevention) + t.resolved bridge d .excluded +
        t.resolved bridge d (.dropped .interceptor) + t.resolved bridge d (.dropped .disconnected) +
        t.resolved bridge d (.dropped .stopped) + t.tally bridge d (!·.hasEnded) := by
  unfold resolved tally
  induction t.calls with
  | nil => rfl
  | cons c rest ih =>
    simp only [List.countP_cons, ih]
    cases t.laneServes bridge d c.lane with
    | false => simp
    | true =>
      cases c.progress with
      | candidate | handedOver => simp [Progress.counted, Progress.outcome?]; omega
      | ended o =>
        rcases o with _ | (_ | _ | _ | _) | _ | _ <;>
          simp [Progress.counted, Progress.outcome?] <;> omega

/-- The counters of a bridge and direction add up, and each is the number of messages with its
outcome. -/
structure Conserved (t : Traffic) (bridge : String) (d : Direction) : Prop where
  balance :
    let c := t.metrics.bridgeCounters bridge d.text
    c.received = c.forwardSuccess + c.forwardFailed + c.loopPreventionDrops + c.excluded +
      c.interceptDropped + c.disconnectedDrops + t.refusals bridge d + t.inFlight bridge d
  forwarded : (t.metrics.bridgeCounters bridge d.text).forwardSuccess =
    t.resolved bridge d .forwarded
  failed : (t.metrics.bridgeCounters bridge d.text).forwardFailed = t.resolved bridge d .failed
  looped : (t.metrics.bridgeCounters bridge d.text).loopPreventionDrops =
    t.resolved bridge d (.dropped .loopPrevention)
  excluded : (t.metrics.bridgeCounters bridge d.text).excluded = t.resolved bridge d .excluded
  intercepted : (t.metrics.bridgeCounters bridge d.text).interceptDropped =
    t.resolved bridge d (.dropped .interceptor)
  disconnected : (t.metrics.bridgeCounters bridge d.text).disconnectedDrops =
    t.resolved bridge d (.dropped .disconnected)

theorem Counted.resolved {t : Traffic} (counted : Counted t) (bridge : String) (d : Direction)
    {o : ForwardOutcome} {k : BridgeCounter} (own : o.counter? = some k) :
    t.counter bridge d k = t.resolved bridge d o := by
  rw [counted.counts]
  refine List.countP_congr fun c _ => ?_
  have other : k ≠ .received := fun received => o.counter?_ne_received (received ▸ own)
  have same (o' : ForwardOutcome) : o'.counter? = some k ↔ o' = o :=
    ⟨fun own' => ForwardOutcome.counter?_inj own' own, fun equal => equal ▸ own⟩
  cases c.progress <;> simp [Progress.counted, Progress.outcome?, other, same]

theorem conserved {t : Traffic} (counted : Counted t) (labelled : Labelled t) (refused : Refused t)
    (bridge : String) (d : Direction) : Conserved t bridge d := by
  have received := counted.counts bridge d .received
  have refusals := labelled.refusals_eq refused bridge d
  have inFlight := counted.inFlight bridge d
  have partition := t.tally_partition bridge d
  have forwarded := counted.resolved bridge d (o := .forwarded) rfl
  have failed := counted.resolved bridge d (o := .failed) rfl
  have looped := counted.resolved bridge d (o := .dropped .loopPrevention) rfl
  have excluded := counted.resolved bridge d (o := .excluded) rfl
  have intercepted := counted.resolved bridge d (o := .dropped .interceptor) rfl
  have disconnected := counted.resolved bridge d (o := .dropped .disconnected) rfl
  simp only [counter, BridgeCounters.get]
    at received forwarded failed looped excluded intercepted disconnected
  refine ⟨?_, forwarded, failed, looped, excluded, intercepted, disconnected⟩
  dsimp only
  omega

/-- After every run of a manager the counters of every bridge and direction add up. A message given
up while under way counts as failed, one that had ended keeps its outcome. -/
theorem messages_conserved (actions : List BridgeManager.Action) (bridge : String) (d : Direction) :
    let t := (BridgeManager.State.run {} actions).manager.traffic
    Conserved t bridge d ∧
      ∀ i, (BridgeManager.State.run {} (actions ++ [.abort i])).manager.traffic.outcome? i =
        (t.calls[i]?).map fun call => call.progress.outcome?.getD .failed := by
  refine ⟨?_, fun i => ?_⟩
  · have labelled := BridgeManager.State.run_labelled actions
    rw [BridgeManager.State.run_traffic] at labelled ⊢
    exact conserved (run_counted _) labelled (run_refused _) bridge d
  · rw [← abort_outcome, BridgeManager.State.run, List.foldl_append]
    rfl

end Traffic
end EdgeGateway

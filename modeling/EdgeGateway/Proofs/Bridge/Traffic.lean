import EdgeGateway.Bridge.Traffic
import EdgeGateway.Proofs.Lists

/-!
# Steps of traffic

What an operation does to each part of the state, and `Change`, which lists everything one step can
do. Later modules take a step apart by `step_change` and never unfold `step`.
-/

namespace EdgeGateway

/-- Whether nothing more happens to the message. -/
def Progress.hasEnded (p : Progress) : Bool := p.outcome?.isSome

@[simp] theorem Progress.hasEnded_candidate (m : Message) :
    (Progress.candidate m).hasEnded = false := rfl

@[simp] theorem Progress.hasEnded_handedOver (m : Message) :
    (Progress.handedOver m).hasEnded = false := rfl

@[simp] theorem Progress.hasEnded_ended (o : ForwardOutcome) : (Progress.ended o).hasEnded = true := rfl

namespace Traffic

/-! ### Parts of the state -/

section Parts
variable (t : Traffic) (lane : Nat)

@[simp] theorem count_lanes (c : BridgeCounter) : (t.count lane c).lanes = t.lanes := by
  unfold count; split <;> rfl

@[simp] theorem count_calls (c : BridgeCounter) : (t.count lane c).calls = t.calls := by
  unfold count; split <;> rfl

@[simp] theorem count_completions (c : BridgeCounter) :
    (t.count lane c).completions = t.completions := by
  unfold count; split <;> rfl

@[simp] theorem countOutcome_lanes (o : ForwardOutcome) :
    (t.countOutcome lane o).lanes = t.lanes := by
  unfold countOutcome; split <;> simp

@[simp] theorem countOutcome_calls (o : ForwardOutcome) :
    (t.countOutcome lane o).calls = t.calls := by
  unfold countOutcome; split <;> simp

@[simp] theorem countOutcome_completions (o : ForwardOutcome) :
    (t.countOutcome lane o).completions = t.completions := by
  unfold countOutcome; split <;> simp

@[simp] theorem turnAway_lanes (ack : AckToken) (o : ForwardOutcome) :
    (t.turnAway lane ack o).lanes = t.lanes := by
  simp [turnAway, enter, complete]

@[simp] theorem turnAway_calls (ack : AckToken) (o : ForwardOutcome) :
    (t.turnAway lane ack o).calls = t.calls ++ [{ lane, ack, progress := .ended o }] := by
  simp [turnAway, enter, complete]

@[simp] theorem turnAway_completions (ack : AckToken) (o : ForwardOutcome) :
    (t.turnAway lane ack o).completions =
      t.completions ++ [{ ack, permanentFailure := o = .dropped .stopped }] := by
  simp [turnAway, enter, complete]

@[simp] theorem takeIn_lanes (ack : AckToken) (m : Message) :
    (t.takeIn lane ack m).lanes =
      t.lanes.modify lane fun l => { l with inflight := l.inflight + 1 } := rfl

@[simp] theorem takeIn_calls (ack : AckToken) (m : Message) :
    (t.takeIn lane ack m).calls = t.calls ++ [{ lane, ack, progress := .candidate m }] := rfl

@[simp] theorem takeIn_completions (ack : AckToken) (m : Message) :
    (t.takeIn lane ack m).completions = t.completions := rfl

@[simp] theorem setProgress_lanes (i : Nat) (p : Progress) : (t.setProgress i p).lanes = t.lanes := rfl

@[simp] theorem setProgress_calls (i : Nat) (p : Progress) :
    (t.setProgress i p).calls = t.calls.modify i fun c => { c with progress := p } := rfl

@[simp] theorem setProgress_completions (i : Nat) (p : Progress) :
    (t.setProgress i p).completions = t.completions := rfl

@[simp] theorem finish_lanes (i : Nat) (call : Call) (o : ForwardOutcome) :
    (t.finish i call o).lanes =
      t.lanes.modify call.lane fun l => { l with inflight := l.inflight - 1 } := by
  simp [finish, complete, updateLane]

@[simp] theorem finish_calls (i : Nat) (call : Call) (o : ForwardOutcome) :
    (t.finish i call o).calls = t.calls.modify i fun c => { c with progress := .ended o } := by
  simp [finish, complete, updateLane]

@[simp] theorem finish_completions (i : Nat) (call : Call) (o : ForwardOutcome) :
    (t.finish i call o).completions =
      t.completions ++ [{ ack := call.ack, permanentFailure := false }] := by
  simp [finish, complete, updateLane]

@[simp] theorem setRunning_lanes (running : Bool) :
    (t.setRunning lane running).lanes = t.lanes.modify lane fun l => { l with running } := rfl

@[simp] theorem setRunning_calls (running : Bool) : (t.setRunning lane running).calls = t.calls := rfl

@[simp] theorem addLane_lanes (f : Forwarder) (target : Target) :
    (t.addLane f target).lanes = t.lanes ++ [{ forwarder := f, target }] := rfl

@[simp] theorem addLane_calls (f : Forwarder) (target : Target) :
    (t.addLane f target).calls = t.calls := rfl

@[simp] theorem openMetrics_calls (f : Forwarder) : (t.openMetrics f).calls = t.calls := rfl

end Parts

/-! ### Steps -/

/-- The call that an event is about: a new one for a message, else the one it names. -/
def Event.call? (t : Traffic) : Event → Option Nat
  | .forward .. => some t.calls.length
  | .intercepted i .. | .answered i _ | .abort i => some i
  | _ => none

/-- Everything that one step can do. -/
inductive Change (t : Traffic) : Event → Traffic → Prop where
  | addLane (f : Forwarder) (target : Target) : Change t (.addLane f target) (t.addLane f target)
  | openMetrics (f : Forwarder) : Change t (.openMetrics f) (t.openMetrics f)
  | start (lane : Nat) : Change t (.start lane) (t.setRunning lane true)
  | stop (lane : Nat) : Change t (.stop lane) (t.setRunning lane false)
  | turnAway {lane : Nat} {l : Lane} {m : Message} (ack : AckToken) {o : ForwardOutcome}
      (present : t.lanes[lane]? = some l)
      (reception : l.forwarder.receive l.running m = .ended o) :
      Change t (.forward lane m ack) ((t.count lane .received).turnAway lane ack o)
  | takeIn {lane : Nat} {l : Lane} {m candidate : Message} (ack : AckToken)
      (present : t.lanes[lane]? = some l)
      (reception : l.forwarder.receive l.running m = .accepted candidate) :
      Change t (.forward lane m ack) ((t.count lane .received).takeIn lane ack candidate)
  | handOver {i : Nat} {call : Call} {candidate m : Message}
      {answer : Except InterceptFault Interception} {connected : Bool}
      (known : t.calls[i]? = some call) (waiting : call.progress = .candidate candidate)
      (passed : passedOn answer connected = .ok m) :
      Change t (.intercepted i answer connected) (t.setProgress i (.handedOver m))
  | decline {i : Nat} {call : Call} {candidate : Message}
      {answer : Except InterceptFault Interception} {connected : Bool} {o : ForwardOutcome}
      (known : t.calls[i]? = some call) (waiting : call.progress = .candidate candidate)
      (passed : passedOn answer connected = .error o) :
      Change t (.intercepted i answer connected) (t.finish i call o)
  | settle {i : Nat} {call : Call} {m : Message} (answer : Except PublishFault Unit)
      (known : t.calls[i]? = some call) (waiting : call.progress = .handedOver m) :
      Change t (.answered i answer) (t.finish i call (settlement answer))
  | abandon {i : Nat} {call : Call}
      (known : t.calls[i]? = some call) (waiting : call.progress.hasEnded = false) :
      Change t (.abort i) (t.finish i call .failed)
  /-- A message for no lane, or a word about a call that does not wait for it. -/
  | ignore {e : Event}
      (foreign : ∀ lane m ack, e = .forward lane m ack → t.lanes[lane]? = none)
      (idle : ∀ i answer connected call candidate, e = .intercepted i answer connected →
        t.calls[i]? = some call → call.progress ≠ .candidate candidate) :
      Change t e t

theorem forward_change (t : Traffic) (lane : Nat) (m : Message) (ack : AckToken) :
    Change t (.forward lane m ack) (t.forward lane m ack) := by
  unfold forward
  split
  next absent =>
    exact .ignore (by rintro _ _ _ ⟨⟩; exact absent) (by rintro _ _ _ _ _ ⟨⟩)
  next l present =>
    split
    next candidate reception => exact .takeIn ack present reception
    next o reception => exact .turnAway ack present reception

theorem intercepted_change (t : Traffic) (i : Nat) (answer : Except InterceptFault Interception)
    (connected : Bool) :
    Change t (.intercepted i answer connected) (t.intercepted i answer connected) := by
  unfold intercepted
  split
  next call known =>
    split
    next candidate waiting =>
      split
      next m passed => exact .handOver known waiting passed
      next o passed => exact .decline known waiting passed
    next other =>
      refine .ignore (by rintro _ _ _ ⟨⟩) ?_
      rintro _ _ _ found candidate ⟨⟩ here
      obtain rfl := Option.some.inj (known.symm.trans here)
      exact other candidate
  next absent =>
    refine .ignore (by rintro _ _ _ ⟨⟩) ?_
    rintro _ _ _ found _ ⟨⟩ here
    rw [absent] at here
    cases here

theorem answered_change (t : Traffic) (i : Nat) (answer : Except PublishFault Unit) :
    Change t (.answered i answer) (t.answered i answer) := by
  unfold answered
  split
  next call known =>
    split
    next m waiting => exact .settle answer known waiting
    next => exact .ignore (by rintro _ _ _ ⟨⟩) (by rintro _ _ _ _ _ ⟨⟩)
  next => exact .ignore (by rintro _ _ _ ⟨⟩) (by rintro _ _ _ _ _ ⟨⟩)

theorem abort_change (t : Traffic) (i : Nat) : Change t (.abort i) (t.abort i) := by
  unfold abort
  split
  next call known =>
    split
    next => exact .ignore (by rintro _ _ _ ⟨⟩) (by rintro _ _ _ _ _ ⟨⟩)
    next going =>
      refine .abandon known ?_
      cases progress : call.progress with
      | ended o => exact absurd progress (going o)
      | _ => rfl
  next => exact .ignore (by rintro _ _ _ ⟨⟩) (by rintro _ _ _ _ _ ⟨⟩)

theorem step_change (t : Traffic) (e : Event) : Change t e (t.step e) := by
  cases e with
  | addLane f target => exact .addLane f target
  | openMetrics f => exact .openMetrics f
  | start lane => exact .start lane
  | stop lane => exact .stop lane
  | forward lane m ack => exact forward_change t lane m ack
  | intercepted i answer connected => exact intercepted_change t i answer connected
  | answered i answer => exact answered_change t i answer
  | abort i => exact abort_change t i

/-! ### The forwarders of lanes -/

def forwarder? (t : Traffic) (lane : Nat) : Option Forwarder := (t.lanes[lane]?).map Lane.forwarder

theorem forwarder?_of_present {t : Traffic} {lane : Nat} {l : Lane}
    (present : t.lanes[lane]? = some l) : t.forwarder? lane = some l.forwarder := by
  rw [forwarder?, present]
  rfl

theorem forwarder?_modify {t t' : Traffic} {lane : Nat} {f : Lane → Lane}
    (lanes : t'.lanes = t.lanes.modify lane f) (same : ∀ l, (f l).forwarder = l.forwarder)
    (other : Nat) : t'.forwarder? other = t.forwarder? other := by
  unfold forwarder?
  rw [lanes, List.getElem?_modify]
  cases t.lanes[other]? with
  | none => rfl
  | some l =>
    simp only [Option.map_eq_map, Option.map_some]
    split
    · exact congrArg some (same l)
    · rfl

theorem addLane_forwarder? (t : Traffic) (f : Forwarder) (target : Target) (lane : Nat) :
    (t.addLane f target).forwarder? lane =
      if lane = t.lanes.length then some f else t.forwarder? lane := by
  unfold forwarder?
  rw [addLane_lanes]
  split
  next new => simp [new]
  next old => rw [getElem?_concat_ne _ _ old]

/-- Only a new lane has a new forwarder. -/
theorem Change.forwarder?_eq {t t' : Traffic} {e : Event} (change : Change t e t')
    (still : ∀ f target, e ≠ .addLane f target) (lane : Nat) :
    t'.forwarder? lane = t.forwarder? lane := by
  cases change with
  | addLane f target => exact absurd rfl (still f target)
  | openMetrics | handOver | ignore => rfl
  | start | stop => exact forwarder?_modify (setRunning_lanes t _ _) (fun _ => rfl) lane
  | turnAway => rw [forwarder?, turnAway_lanes, count_lanes]; rfl
  | takeIn =>
    rw [forwarder?_modify (takeIn_lanes _ _ _ _) fun _ => rfl, forwarder?, count_lanes]
    rfl
  | decline | settle | abandon =>
    exact forwarder?_modify (finish_lanes t _ _ _) (fun _ => rfl) lane

/-- No step changes the forwarder of a lane. -/
theorem step_forwarder {t : Traffic} {lane : Nat} {f : Forwarder} (e : Event)
    (present : t.forwarder? lane = some f) : (t.step e).forwarder? lane = some f := by
  cases e with
  | addLane g target =>
    obtain ⟨l, found, _⟩ := Option.map_eq_some_iff.mp present
    have below := (List.getElem?_eq_some_iff.mp found).1
    rw [step, addLane_forwarder?, if_neg (by omega)]
    exact present
  | _ =>
    rw [(step_change t _).forwarder?_eq (by simp)]
    exact present

/-! ### Outcomes -/

/-- A step about another call leaves the outcome of this one alone. -/
theorem Change.outcome?_eq {t t' : Traffic} {e : Event} (change : Change t e t') {i : Nat}
    (other : e.call? t ≠ some i) : t'.outcome? i = t.outcome? i := by
  have apart {j : Nat} (about : e.call? t = some j) : j ≠ i := fun same => other (same ▸ about)
  unfold outcome?
  cases change with
  | addLane | openMetrics | start | stop | ignore => rfl
  | turnAway => rw [turnAway_calls, count_calls, getElem?_concat_ne _ _ (apart rfl).symm]
  | takeIn => rw [takeIn_calls, count_calls, getElem?_concat_ne _ _ (apart rfl).symm]
  | handOver => rw [setProgress_calls, List.getElem?_modify_ne _ _ (apart rfl)]
  | decline | settle | abandon => rw [finish_calls, List.getElem?_modify_ne _ _ (apart rfl)]

/-- An outcome is final. -/
theorem Change.outcome?_some {t t' : Traffic} {e : Event} (change : Change t e t') {i : Nat}
    {o : ForwardOutcome} (ended : t.outcome? i = some o) : t'.outcome? i = some o := by
  by_cases about : e.call? t = some i
  · obtain ⟨c, known, outcome⟩ := Option.bind_eq_some_iff.mp ended
    -- Whatever is done to a call needs one that has not ended.
    have closed {j : Nat} {call : Call} (same : some j = some i) (there : t.calls[j]? = some call)
        (waiting : call.progress.hasEnded = false) : False := by
      obtain rfl := Option.some.inj same
      obtain rfl := Option.some.inj (known.symm.trans there)
      rw [Progress.hasEnded, outcome] at waiting
      cases waiting
    cases change with
    | addLane | openMetrics | start | stop | ignore => exact ended
    | turnAway | takeIn =>
      obtain rfl := Option.some.inj about
      rw [List.getElem?_eq_none (Nat.le_refl _)] at known
      cases known
    | handOver there waiting | decline there waiting | settle _ there waiting =>
      exact (closed about there (by rw [waiting]; rfl)).elim
    | abandon there waiting => exact (closed about there waiting).elim
  · rw [change.outcome?_eq about]
    exact ended

/-- A message that is given up has failed, unless it had ended before. -/
theorem abort_outcome (t : Traffic) (i : Nat) :
    (t.step (.abort i)).outcome? i =
      (t.calls[i]?).map fun call => call.progress.outcome?.getD .failed := by
  rw [step, abort, outcome?]
  cases known : t.calls[i]? with
  | none => simp [known]
  | some call => cases progress : call.progress <;> simp [known, progress, Progress.outcome?]

end Traffic
end EdgeGateway

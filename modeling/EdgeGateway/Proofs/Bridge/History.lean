import EdgeGateway.Proofs.Bridge.Forwarder
import EdgeGateway.Proofs.Bridge.Traffic
import EdgeGateway.Proofs.Lists

/-!
# Histories of traffic

A run of events leaves more behind than its last state: the messages offered, in order, and the
reports made, each with the call it was made for. `Sound`, `Answers` and `Reported` tie the state
to them.
-/

namespace EdgeGateway

/-- A message given to a lane, and whether the lane was running at that moment. -/
structure Offer where
  lane : Nat
  message : Message
  ack : AckToken
  running : Bool

/-- The report that is due for a call once it has ended. -/
def Call.report? (c : Call) : Option Completion :=
  c.progress.outcome?.map fun o => { ack := c.ack, permanentFailure := o = .dropped .stopped }

namespace Traffic

/-! ### Runs -/

@[simp] theorem run_nil (t : Traffic) : t.run [] = t := rfl

@[simp] theorem run_cons (t : Traffic) (e : Event) (es : List Event) :
    t.run (e :: es) = (t.step e).run es := rfl

theorem run_append (t : Traffic) (es fs : List Event) : t.run (es ++ fs) = (t.run es).run fs :=
  List.foldl_append

theorem run_concat (t : Traffic) (es : List Event) (e : Event) :
    t.run (es ++ [e]) = (t.run es).step e := by
  rw [run_append, run_cons, run_nil]

/-- What every step keeps holds after every run. -/
theorem run_invariant {P : Traffic → Prop} {t : Traffic} (start : P t)
    (keep : ∀ t e t', P t → Change t e t' → P t') (es : List Event) : P (t.run es) := by
  induction es using List.reverseRecOn with
  | nil => exact start
  | append_singleton es e ih =>
    rw [run_concat]
    exact keep _ e _ ih (step_change _ e)

theorem run_forwarder {t : Traffic} {lane : Nat} {f : Forwarder} (es : List Event)
    (present : t.forwarder? lane = some f) : (t.run es).forwarder? lane = some f := by
  induction es generalizing t with
  | nil => exact present
  | cons e es ih => exact ih (step_forwarder e present)

/-- What the steps of a run yield, in order. -/
def gather {α : Type} (yield : Traffic → Event → List α) (t : Traffic) : List Event → List α
  | [] => []
  | e :: es => yield t e ++ gather yield (t.step e) es

theorem gather_append {α : Type} (yield : Traffic → Event → List α) (t : Traffic)
    (es fs : List Event) :
    gather yield t (es ++ fs) = gather yield t es ++ gather yield (t.run es) fs := by
  induction es generalizing t with
  | nil => rfl
  | cons e es ih => rw [List.cons_append, gather, gather, ih, run_cons, List.append_assoc]

theorem gather_concat {α : Type} (yield : Traffic → Event → List α) (t : Traffic)
    (es : List Event) (e : Event) :
    gather yield t (es ++ [e]) = gather yield t es ++ yield (t.run es) e := by
  rw [gather_append, gather, gather, List.append_nil]

/-- Every event of a run meets a condition on the state it finds. -/
def Throughout (P : Traffic → Event → Prop) (t : Traffic) : List Event → Prop
  | [] => True
  | e :: es => P t e ∧ Throughout P (t.step e) es

theorem throughout_append {P : Traffic → Event → Prop} {t : Traffic} {es fs : List Event} :
    Throughout P t (es ++ fs) ↔ Throughout P t es ∧ Throughout P (t.run es) fs := by
  induction es generalizing t with
  | nil => simp [Throughout]
  | cons e es ih => simp only [List.cons_append, Throughout, ih, run_cons, and_assoc]

/-- A condition that no step takes away has to be met at the start only. -/
theorem throughout_of_stable {P : Traffic → Event → Prop} {t : Traffic} {es : List Event}
    (stable : ∀ t e e', P t e → P (t.step e') e) (now : ∀ e ∈ es, P t e) : Throughout P t es := by
  induction es generalizing t with
  | nil => trivial
  | cons e es ih =>
    refine ⟨now e List.mem_cons_self, ih fun e' later => ?_⟩
    exact stable t e' e (now e' (List.mem_cons_of_mem e later))

/-- The offer that an event makes, unless its lane does not exist. -/
def offersOf (t : Traffic) : Event → List Offer
  | .forward lane message ack =>
    ((t.lanes[lane]?).map fun l => { lane, message, ack, running := l.running }).toList
  | _ => []

/-- The reports that an event makes, under the number of the call it is about. -/
def reportsOf (t : Traffic) (e : Event) : List (Nat × Completion) :=
  match e.call? t with
  | some i => ((t.step e).completions.drop t.completions.length).map (i, ·)
  | none => []

def offers (es : List Event) : List Offer := gather offersOf {} es

def reports (es : List Event) : List (Nat × Completion) := gather reportsOf {} es

def reportsOn (es : List Event) (i : Nat) : List Completion := valuesAt (reports es) i

theorem offersOf_cases (t : Traffic) (e : Event) :
    offersOf t e = [] ∨ ∃ lane m ack l, e = .forward lane m ack ∧ t.lanes[lane]? = some l ∧
      offersOf t e = [{ lane, message := m, ack, running := l.running }] := by
  cases e with
  | forward lane m ack =>
    cases present : t.lanes[lane]? with
    | none => exact .inl (by simp [offersOf, present])
    | some l => exact .inr ⟨lane, m, ack, l, rfl, present, by simp [offersOf, present]⟩
  | _ => exact .inl rfl

theorem offers_concat (es : List Event) (e : Event) :
    offers (es ++ [e]) = offers es ++ offersOf (run {} es) e :=
  gather_concat offersOf {} es e

theorem reports_concat (es : List Event) (e : Event) :
    reports (es ++ [e]) = reports es ++ reportsOf (run {} es) e :=
  gather_concat reportsOf {} es e

theorem reportsOf_of_completions {t : Traffic} {e : Event} {i : Nat} {made : List Completion}
    (about : e.call? t = some i) (grown : (t.step e).completions = t.completions ++ made) :
    reportsOf t e = made.map (i, ·) := by
  simp only [reportsOf, about, grown, List.drop_left]

/-! ### Soundness of the state -/

/-- How many messages on a lane are under way. -/
def underWay (t : Traffic) (lane : Nat) : Nat :=
  t.calls.countP fun c => c.lane = lane && !c.progress.hasEnded

/-- Every call is on a lane, and every lane counts the calls on it that are under way. -/
structure Sound (t : Traffic) : Prop where
  known : ∀ c ∈ t.calls, c.lane < t.lanes.length
  inflight : ∀ lane, t.inflight lane = t.underWay lane

theorem sound_empty : Sound {} :=
  ⟨fun _ member => (List.not_mem_nil member).elim, fun _ => rfl⟩

/-- A message under way is counted by its lane. -/
theorem Sound.inflight_pos {t : Traffic} (sound : Sound t) {i : Nat} {call : Call}
    (known : t.calls[i]? = some call) (waiting : call.progress.hasEnded = false) :
    0 < t.inflight call.lane := by
  rw [sound.inflight, underWay, List.countP_pos_iff]
  exact ⟨call, List.mem_of_getElem? known, by simp [waiting]⟩

theorem inflight_modify (t t' : Traffic) (lane : Nat) (f : Lane → Lane)
    (lanes : t'.lanes = t.lanes.modify lane f) (other : Nat) :
    t'.inflight other =
      if lane = other then ((t.lanes[lane]?).map fun l => (f l).inflight).getD 0
      else t.inflight other := by
  unfold Traffic.inflight
  rw [lanes, List.getElem?_modify]
  split
  next same => subst same; simp [Option.map_map, Function.comp_def]
  next => simp

theorem Sound.addLane {t : Traffic} (sound : Sound t) (f : Forwarder) (target : Target) :
    Sound (t.addLane f target) := by
  constructor
  · intro c member
    have bound := sound.known c member
    simp only [addLane_lanes, List.length_append]
    omega
  · intro lane
    have before := sound.inflight lane
    simp only [Traffic.inflight, underWay, addLane_lanes, addLane_calls] at before ⊢
    rw [← before]
    rcases Nat.lt_trichotomy lane t.lanes.length with below | same | above
    · rw [List.getElem?_append_left below]
    · subst same; simp
    · rw [List.getElem?_eq_none (by simp; omega), List.getElem?_eq_none (by omega)]

theorem Sound.setRunning {t : Traffic} (sound : Sound t) (lane : Nat) (running : Bool) :
    Sound (t.setRunning lane running) := by
  constructor
  · intro c member
    simpa using sound.known c member
  · intro other
    rw [inflight_modify t _ lane _ (setRunning_lanes t lane running)]
    split
    next same => subst same; exact sound.inflight lane
    next => exact sound.inflight other

theorem Sound.turnAway {t : Traffic} (sound : Sound t) {lane : Nat} (ack : AckToken)
    (o : ForwardOutcome) (present : lane < t.lanes.length) : Sound (t.turnAway lane ack o) := by
  constructor
  · intro c member
    rw [turnAway_calls, List.mem_append, List.mem_singleton] at member
    rw [turnAway_lanes]
    rcases member with old | rfl
    · exact sound.known c old
    · exact present
  · intro other
    have before := sound.inflight other
    simp only [Traffic.inflight, turnAway_lanes, underWay, turnAway_calls] at before ⊢
    simp [before, List.countP_append]

theorem Sound.takeIn {t : Traffic} (sound : Sound t) {lane : Nat} {l : Lane} (ack : AckToken)
    (m : Message) (present : t.lanes[lane]? = some l) : Sound (t.takeIn lane ack m) := by
  constructor
  · intro c member
    rw [takeIn_calls, List.mem_append, List.mem_singleton] at member
    rw [takeIn_lanes, List.length_modify]
    rcases member with old | rfl
    · exact sound.known c old
    · exact (List.getElem?_eq_some_iff.mp present).1
  · intro other
    have before := sound.inflight other
    rw [inflight_modify t _ lane _ (takeIn_lanes t lane ack m)]
    have after : (t.takeIn lane ack m).underWay other =
        t.underWay other + if lane = other then 1 else 0 := by
      simp [underWay, List.countP_append, List.countP_cons]
    rw [after, ← before]
    split
    next same =>
      subst same
      simp [Traffic.inflight, present]
    next => rfl

theorem Sound.setProgress {t : Traffic} (sound : Sound t) {i : Nat} {call : Call} {p : Progress}
    (known : t.calls[i]? = some call) (same : p.hasEnded = call.progress.hasEnded) :
    Sound (t.setProgress i p) := by
  constructor
  · intro c member
    obtain ⟨old, there, rfl | rfl⟩ := mem_modify member
    · exact sound.known c there
    · exact sound.known old there
  · intro other
    have count : (t.setProgress i p).underWay other = t.underWay other :=
      countP_modify_same known (by simp [same])
    rw [count]
    exact sound.inflight other

theorem Sound.finish {t : Traffic} (sound : Sound t) {i : Nat} {call : Call} (o : ForwardOutcome)
    (known : t.calls[i]? = some call) (waiting : call.progress.hasEnded = false) :
    Sound (t.finish i call o) := by
  constructor
  · intro c member
    rw [finish_calls] at member
    rw [finish_lanes, List.length_modify]
    obtain ⟨old, there, rfl | rfl⟩ := mem_modify member
    · exact sound.known c there
    · exact sound.known old there
  · intro other
    have before := sound.inflight other
    have positive := sound.inflight_pos known waiting
    rw [inflight_modify t _ call.lane _ (finish_lanes t i call o)]
    have count : (t.finish i call o).underWay other + (if call.lane = other then 1 else 0) =
        t.underWay other := by
      have changed := countP_modify (fun c => c.lane = other && !c.progress.hasEnded)
        (fun c : Call => { c with progress := .ended o }) known
      simpa [underWay, waiting] using changed
    split
    next same =>
      subst same
      have present := List.getElem?_eq_getElem (sound.known call (List.mem_of_getElem? known))
      simp only [Traffic.inflight, present, Option.map_some, Option.getD_some] at before positive ⊢
      simp only [↓reduceIte] at count
      omega
    next different =>
      simp only [different, ↓reduceIte] at count
      omega

theorem Sound.congr {t t' : Traffic} (sound : Sound t) (lanes : t'.lanes = t.lanes)
    (calls : t'.calls = t.calls) : Sound t' := by
  constructor
  · rw [lanes, calls]
    exact sound.known
  · intro lane
    rw [Traffic.inflight, underWay, lanes, calls]
    exact sound.inflight lane

theorem Sound.change {t t' : Traffic} {e : Event} (sound : Sound t) (change : Change t e t') :
    Sound t' := by
  cases change with
  | addLane f target => exact sound.addLane f target
  | openMetrics f => exact sound.congr rfl rfl
  | start lane | stop lane => exact sound.setRunning lane _
  | @turnAway lane l m ack o present reception =>
    have counted := sound.congr (count_lanes t lane .received) (count_calls t lane .received)
    refine counted.turnAway ack o ?_
    rw [count_lanes]
    exact (List.getElem?_eq_some_iff.mp present).1
  | @takeIn lane l m candidate ack present reception =>
    have counted := sound.congr (count_lanes t lane .received) (count_calls t lane .received)
    exact counted.takeIn ack candidate (by rw [count_lanes]; exact present)
  | handOver known waiting passed => exact sound.setProgress known (by rw [waiting]; rfl)
  | decline known waiting passed => exact sound.finish _ known (by rw [waiting]; rfl)
  | settle answer known waiting => exact sound.finish _ known (by rw [waiting]; rfl)
  | abandon known waiting => exact sound.finish _ known waiting
  | ignore => exact sound

theorem Sound.run {t : Traffic} (sound : Sound t) (es : List Event) : Sound (t.run es) :=
  run_invariant sound (fun _ _ _ sound change => sound.change change) es

theorem run_sound (es : List Event) : Sound (run {} es) := sound_empty.run es

/-! ### Offers and calls -/

/-- How a call stands to the offer it came from: it is refused if the lane did not run. -/
def Answers (o : Offer) (c : Call) : Prop :=
  c.lane = o.lane ∧ c.ack = o.ack ∧ (c.progress = .ended (.dropped .stopped) ↔ o.running = false)

/-- An interceptor makes nobody refuse a message. -/
theorem passedOn_ne_stopped {answer : Except InterceptFault Interception} {connected : Bool}
    {o : ForwardOutcome} (passed : passedOn answer connected = .error o) :
    o ≠ .dropped .stopped := by
  unfold passedOn at passed
  split at passed
  · cases passed; simp
  · cases passed; simp
  · split at passed <;> cases passed
    simp

theorem settlement_ne_stopped (answer : Except PublishFault Unit) :
    settlement answer ≠ .dropped .stopped := by
  unfold settlement
  split <;> simp

theorem Answers.setProgress {o : Offer} {c : Call} {p : Progress} (answers : Answers o c)
    (waiting : c.progress.hasEnded = false) (accepted : p ≠ .ended (.dropped .stopped)) :
    Answers o { c with progress := p } := by
  obtain ⟨lane, ack, refused⟩ := answers
  have running : ¬ o.running = false := by
    rw [← refused]
    intro stopped
    rw [stopped] at waiting
    cases waiting
  exact ⟨lane, ack, by simp [accepted, running]⟩

/-- A step answers the offer it makes with a call and does not touch the answers before. -/
theorem answers_change {t t' : Traffic} {e : Event} {os : List Offer} (change : Change t e t')
    (answers : List.Forall₂ Answers os t.calls) :
    List.Forall₂ Answers (os ++ offersOf t e) t'.calls := by
  have later {i : Nat} {call : Call} {p : Progress} (known : t.calls[i]? = some call)
      (waiting : call.progress.hasEnded = false) (accepted : p ≠ .ended (.dropped .stopped)) :
      List.Forall₂ Answers (os ++ []) (t.calls.modify i fun c => { c with progress := p }) := by
    rw [List.append_nil]
    exact forall₂_modify answers known fun o here => here.setProgress waiting accepted
  cases change with
  | addLane f target | openMetrics f | start lane | stop lane => simpa [offersOf] using answers
  | @turnAway lane l m ack o present reception =>
    simp only [offersOf, present, Option.map_some, Option.toList_some, turnAway_calls, count_calls]
    refine List.rel_append answers (.cons ⟨rfl, rfl, ?_⟩ .nil)
    simpa using Forwarder.receive_stopped_iff reception
  | @takeIn lane l m candidate ack present reception =>
    simp only [offersOf, present, Option.map_some, Option.toList_some, takeIn_calls, count_calls]
    refine List.rel_append answers (.cons ⟨rfl, rfl, ?_⟩ .nil)
    simp [(Forwarder.receive_accepted_iff.mp reception).1]
  | handOver known waiting passed => exact later known (by rw [waiting]; rfl) (by simp)
  | decline known waiting passed =>
    rw [finish_calls]
    exact later known (by rw [waiting]; rfl) (by simpa using passedOn_ne_stopped passed)
  | settle answer known waiting =>
    rw [finish_calls]
    exact later known (by rw [waiting]; rfl) (by simpa using settlement_ne_stopped answer)
  | abandon known waiting =>
    rw [finish_calls]
    exact later known waiting (by simp)
  | @ignore _ foreign idle =>
    have silent : offersOf t e = [] := by
      cases e with
      | forward lane m ack => simp [offersOf, foreign lane m ack rfl]
      | _ => rfl
    rw [silent, List.append_nil]
    exact answers

theorem run_answers (es : List Event) : List.Forall₂ Answers (offers es) (run {} es).calls := by
  induction es using List.reverseRecOn with
  | nil => exact .nil
  | append_singleton es e ih =>
    rw [run_concat, offers_concat]
    exact answers_change (step_change _ e) ih

/-! ### Reports and calls -/

/-- The reports of a history are those of the state, and each call has had its own by now. -/
structure Reported (t : Traffic) (rs : List (Nat × Completion)) : Prop where
  made : rs.map Prod.snd = t.completions
  once : ∀ i, valuesAt rs i = (t.calls[i]?.bind Call.report?).toList

/-- A step without reports, after which no more calls have ended than before. -/
theorem Reported.silent {t t' : Traffic} {rs : List (Nat × Completion)} (reported : Reported t rs)
    (completions : t'.completions = t.completions)
    (ended : ∀ i : Nat, t'.calls[i]?.bind Call.report? = t.calls[i]?.bind Call.report?) :
    Reported t' rs :=
  ⟨reported.made.trans completions.symm, fun i => by rw [ended i]; exact reported.once i⟩

/-- A step that ends one call and makes its report. -/
theorem Reported.report {t t' : Traffic} {rs : List (Nat × Completion)} {i : Nat} {made : Completion}
    (reported : Reported t rs) (completions : t'.completions = t.completions ++ [made])
    (before : t.calls[i]?.bind Call.report? = none)
    (now : t'.calls[i]?.bind Call.report? = some made)
    (others : ∀ j, j ≠ i → t'.calls[j]?.bind Call.report? = t.calls[j]?.bind Call.report?) :
    Reported t' (rs ++ [(i, made)]) := by
  constructor
  · rw [List.map_append, reported.made, completions]
    rfl
  · intro j
    rw [valuesAt_append, valuesAt_singleton, reported.once j]
    by_cases same : j = i
    · subst same
      rw [before, now]
      simp
    · rw [others j same]
      simp [Ne.symm same]

theorem reportsOf_silent {t : Traffic} {e : Event}
    (same : (t.step e).completions = t.completions) : reportsOf t e = [] := by
  unfold reportsOf
  split
  · rw [same, List.drop_length, List.map_nil]
  · rfl

theorem Reported.finish {t : Traffic} {rs : List (Nat × Completion)} {i : Nat} {call : Call}
    {o : ForwardOutcome} (reported : Reported t rs) (known : t.calls[i]? = some call)
    (waiting : call.progress.hasEnded = false) (accepted : o ≠ .dropped .stopped) :
    Reported (t.finish i call o) (rs ++ [(i, { ack := call.ack, permanentFailure := false })]) := by
  refine reported.report (finish_completions t i call o) ?_ ?_ ?_
  · simpa [known, Call.report?, Progress.hasEnded] using waiting
  · simp [known, Call.report?, Progress.outcome?, accepted]
  · intro j different
    simp [List.getElem?_modify_ne _ _ (Ne.symm different)]

theorem Reported.step {t : Traffic} {rs : List (Nat × Completion)} (reported : Reported t rs)
    (e : Event) : Reported (t.step e) (rs ++ reportsOf t e) := by
  have change := step_change t e
  generalize after : t.step e = t' at change
  have quiet (completions : t'.completions = t.completions)
      (ended : ∀ i : Nat, t'.calls[i]?.bind Call.report? = t.calls[i]?.bind Call.report?) :
      Reported t' (rs ++ reportsOf t e) := by
    rw [reportsOf_silent (by rw [after, completions]), List.append_nil]
    exact reported.silent completions ended
  cases change with
  | addLane f target | openMetrics f | start lane | stop lane | ignore =>
    exact quiet rfl fun _ => rfl
  | @turnAway lane l m ack o present reception =>
    rw [reportsOf_of_completions rfl (by rw [after, turnAway_completions, count_completions])]
    refine reported.report ?_ ?_ ?_ ?_
    · rw [turnAway_completions, count_completions]
    · simp
    · simp [Call.report?, Progress.outcome?]
    · intro j different
      rw [turnAway_calls, count_calls, getElem?_concat_ne _ _ different]
  | @takeIn lane l m candidate ack present reception =>
    refine quiet (by rw [takeIn_completions, count_completions]) fun i => ?_
    rw [takeIn_calls, count_calls]
    by_cases new : i = t.calls.length
    · subst new
      simp [Call.report?, Progress.outcome?]
    · rw [getElem?_concat_ne _ _ new]
  | @handOver i call candidate m answer connected known waiting passed =>
    refine quiet rfl fun j => ?_
    rw [setProgress_calls, List.getElem?_modify]
    split
    next same => subst same; simp [known, waiting, Call.report?, Progress.outcome?]
    next => simp
  | @decline i call candidate answer connected o known waiting passed =>
    rw [reportsOf_of_completions rfl (by rw [after, finish_completions])]
    exact reported.finish known (by rw [waiting]; rfl) (passedOn_ne_stopped passed)
  | @settle i call m answer known waiting =>
    rw [reportsOf_of_completions rfl (by rw [after, finish_completions])]
    exact reported.finish known (by rw [waiting]; rfl) (settlement_ne_stopped answer)
  | @abandon i call known waiting =>
    rw [reportsOf_of_completions rfl (by rw [after, finish_completions])]
    exact reported.finish known waiting (by simp)

theorem run_reported (es : List Event) : Reported (run {} es) (reports es) := by
  induction es using List.reverseRecOn with
  | nil => exact ⟨rfl, fun _ => rfl⟩
  | append_singleton es e ih =>
    rw [run_concat, reports_concat]
    exact ih.step e

end Traffic
end EdgeGateway

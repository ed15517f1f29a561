import EdgeGateway.Proofs.Bridge.Drain

/-!
# Stopped links

`Starts` singles out the actions that start forwarders. As long as none of them happens a stopped lane
stays stopped and its count only goes down, whatever messages come. So a drain that has seen it empty
can go on to the next lane.
-/

namespace EdgeGateway.BridgeManager

open Traffic (Event)

namespace State

variable {s : State} {a : Action} {actions : List Action} {lane : Nat}

/-! ### Conditions on runs -/

/-- Every action of a run meets a condition on the state it finds. -/
def Throughout (P : State → Action → Prop) (s : State) : List Action → Prop
  | [] => True
  | a :: actions => P s a ∧ (s.step a).Throughout P actions

theorem throughout_append {P : State → Action → Prop} {before after : List Action} :
    s.Throughout P (before ++ after) ↔
      s.Throughout P before ∧ (s.run before).Throughout P after := by
  induction before generalizing s with
  | nil => exact (and_iff_right trivial).symm
  | cons a before ih => simp only [List.cons_append, Throughout, ih, and_assoc, run, List.foldl_cons]

theorem run_append (s : State) (before after : List Action) :
    s.run (before ++ after) = (s.run before).run after :=
  List.foldl_append

theorem history_append (s : State) (before after : List Action) :
    s.history (before ++ after) = s.history before ++ (s.run before).history after := by
  induction before generalizing s with
  | nil => rfl
  | cons a before ih =>
    rw [List.cons_append, history, history, ih, List.append_assoc]
    rfl

theorem Consistent.run (consistent : Consistent s) (actions : List Action) :
    Consistent (s.run actions) := by
  induction actions generalizing s with
  | nil => exact consistent
  | cons a actions ih => exact ih (consistent.step a)

/-! ### Without a start -/

/-- Whether an action starts forwarders: those of a new bridge, those that take the place of others,
or all. -/
def Starts (s : State) : Action → Prop
  | .add .. => s.change = none
  | .complete => ∃ h link, s.change = some h ∧ h.replacement = .link link
  | .startAll => True
  | _ => False

/-- Nothing is started in a run. -/
def Quiet (s : State) (actions : List Action) : Prop := s.Throughout (fun s a => ¬ s.Starts a) actions

theorem quiet_append {before after : List Action} :
    s.Quiet (before ++ after) ↔ s.Quiet before ∧ (s.run before).Quiet after :=
  throughout_append

theorem not_start_of_quiet (consistent : Consistent s) (quiet : ¬ s.Starts a) {e : Event}
    (member : e ∈ s.events a) : e ≠ .start lane := by
  rintro rfl
  have idle {config : BridgeConfig} {remote : String} (adding : a = .add config remote) :
      s.change = none := by
    subst adding
    cases pending : s.change with
    | none => rfl
    | some h => simp [events, pending] at member
  have happens := consistent.happens member
  cases happens with
  | startNew action new =>
    refine quiet ?_
    rw [action]
    exact idle action
  | startReplacement action pending replacement =>
    refine quiet ?_
    rw [action]
    exact ⟨_, _, pending, replacement⟩
  | startInstalled action =>
    refine quiet ?_
    rw [action]
    trivial

theorem Quiet.history (quiet : s.Quiet actions) (consistent : Consistent s) :
    ∀ e ∈ s.history actions, e ≠ .start lane := by
  induction actions generalizing s with
  | nil => exact fun e member => absurd member List.not_mem_nil
  | cons a actions ih =>
    intro e member
    rcases List.mem_append.mp member with now | later
    · exact not_start_of_quiet consistent quiet.1 now
    · exact ih quiet.2 (consistent.step a) e later

/-- While nothing is started, a stopped lane stays stopped and its count only goes down. -/
theorem Quiet.stopped (quiet : s.Quiet actions) (consistent : Consistent s)
    (stopped : s.manager.traffic.Stopped lane) :
    (s.run actions).manager.traffic.Stopped lane ∧
      (s.run actions).manager.traffic.inflight lane ≤ s.manager.traffic.inflight lane := by
  rw [run_traffic]
  exact stopped.run (quiet.history consistent)

/-- While nothing is started, links can only go. -/
theorem Quiet.links (quiet : s.Quiet actions) {id : String} {link : Link}
    (installed : (s.run actions).manager.links.find? id = some link) :
    s.manager.links.find? id = some link := by
  induction actions generalizing s with
  | nil => exact installed
  | cons a actions ih =>
    have after := ih quiet.2 installed
    have still := quiet.1
    rcases (step_move s a).installed after with
      before | ⟨config, remote, rfl, idle, _⟩ | ⟨h, rfl, pending, replacement, _⟩
    · exact before
    · exact absurd idle still
    · exact absurd ⟨h, _, pending, replacement⟩ still

/-! ### Stopping -/

theorem setRunning_inflight (m : BridgeManager) (lanes : List Nat) (running : Bool) (lane : Nat) :
    (m.setRunning lanes running).traffic.inflight lane = m.traffic.inflight lane := by
  unfold Traffic.inflight
  rw [setRunning_lane]
  cases m.traffic.lanes[lane]? with
  | none => rfl
  | some l =>
    simp only [Option.map_some, Option.getD_some]
    split <;> rfl

theorem setRunning_of_mem {m : BridgeManager} {lanes : List Nat} (member : lane ∈ lanes)
    {f : Forwarder} (present : m.traffic.forwarder? lane = some f) (running : Bool) :
    ∃ l, (m.setRunning lanes running).traffic.lanes[lane]? = some l ∧ l.running = running := by
  obtain ⟨l, there, _⟩ := Option.map_eq_some_iff.mp present
  refine ⟨{ l with running }, ?_, rfl⟩
  rw [setRunning_lane, there, Option.map_some, if_pos member]

theorem Consistent.stopAll (consistent : Consistent s) {id : String} {link : Link}
    (installed : s.manager.links.find? id = some link) (member : lane ∈ link.lanes) :
    (s.step .stopAll).manager.traffic.Stopped lane := by
  obtain ⟨f, present, _⟩ := (consistent.furnished installed).bridge member
  refine setRunning_of_mem (List.mem_flatMap.mpr ⟨link, ?_, member⟩) present false
  exact consistent.ascending.mem_values.mpr ⟨id, installed⟩

/-- A change begins with the stop of the link that it is about. -/
theorem Consistent.begun (consistent : Consistent s) (idle : s.change = none) {h : Handover}
    (begun : (s.step a).change = some h) :
    ∃ old, s.manager.links.find? h.id = some old ∧
      (s.step a).manager.links.find? h.id = some old ∧
      ∀ lane ∈ old.lanes, (s.step a).manager.traffic.Stopped lane := by
  have move := step_move s a
  generalize s.step a = s' at move begun ⊢
  cases move with
  | rest _ change => cases idle.symm.trans (change.symm.trans begun)
  | add => cases idle.symm.trans begun
  | @beginUpdate config remote old m' link _ present built =>
    cases begun
    refine ⟨old, present, built.links ▸ present, fun lane member => ?_⟩
    obtain ⟨f, there, _⟩ := (consistent.furnished present).bridge member
    obtain ⟨l, here, _⟩ := Option.map_eq_some_iff.mp there
    exact setRunning_of_mem member (Traffic.forwarder?_of_present (built.lane_kept here)) false
  | @beginDelete id old _ present =>
    cases begun
    refine ⟨old, present, present, fun lane member => ?_⟩
    obtain ⟨f, there, _⟩ := (consistent.furnished present).bridge member
    exact setRunning_of_mem member there false
  | replace | remove | giveUp => cases begun

/-! ### A change under way -/

/-- What can happen while a change waits: everything but its end and a start of all forwarders. -/
def Waits : Action → Prop
  | .complete | .giveUp | .startAll => False
  | _ => True

theorem step_waits {h : Handover} (pending : s.change = some h) (waits : Waits a) :
    ¬ s.Starts a ∧ (s.step a).change = some h ∧ (s.step a).manager.links = s.manager.links := by
  constructor
  · cases a with
    | add =>
      intro idle
      cases idle.symm.trans pending
    | complete | giveUp | startAll => cases waits
    | _ => exact not_false
  · have move := step_move s a
    generalize s.step a = s' at move ⊢
    cases move with
    | rest links change => exact ⟨change.trans pending, links⟩
    | add idle | beginUpdate idle | beginDelete idle => cases idle.symm.trans pending
    | replace | remove | giveUp => cases waits

/-- While a change waits nothing is started, and all links stay. -/
theorem run_waits {h : Handover} (pending : s.change = some h) (waits : ∀ a ∈ actions, Waits a) :
    s.Quiet actions ∧ (s.run actions).change = some h ∧
      (s.run actions).manager.links = s.manager.links := by
  induction actions generalizing s with
  | nil => exact ⟨trivial, pending, rfl⟩
  | cons a actions ih =>
    obtain ⟨still, change, links⟩ := step_waits pending (waits a List.mem_cons_self)
    obtain ⟨quiet, later, kept⟩ := ih change fun a' member => waits a' (List.mem_cons_of_mem a member)
    exact ⟨⟨still, quiet⟩, later, kept.trans links⟩

/-! ### Lanes at rest -/

/-- After these actions nothing is under way on the lane: every message ever given to it has been done
with and reported once. -/
structure AtRest (actions : List Action) (lane : Nat) : Prop where
  inflight : (run {} actions).manager.traffic.inflight lane = 0
  completed : ∀ i c, (run {} actions).manager.traffic.calls[i]? = some c → c.lane = lane →
    ∃ outcome, c.progress = .ended outcome ∧
      Traffic.reportsOn (history {} actions) i =
        [{ ack := c.ack, permanentFailure := outcome = .dropped .stopped }]

theorem run_atRest (empty : (run {} actions).manager.traffic.inflight lane = 0) :
    AtRest actions lane := by
  refine ⟨empty, fun i c known here => ?_⟩
  rw [run_traffic] at empty known
  have ended : c.progress.hasEnded = true := by
    rw [← Bool.not_eq_false]
    intro waiting
    have counted := (Traffic.run_sound _).inflight_pos known waiting
    rw [here] at counted
    exact absurd empty (Nat.ne_of_gt counted)
  obtain ⟨outcome, result⟩ := Option.isSome_iff_exists.mp ended
  have report := (Traffic.run_reported (history {} actions)).once i
  cases progress : c.progress with
  | candidate | handedOver =>
    rw [progress] at result
    cases result
  | ended outcome =>
    refine ⟨outcome, rfl, report.trans ?_⟩
    rw [known, Option.bind_some, Call.report?, progress]
    rfl

end State

/-- Stopped lanes that a drain has waited for with success are empty in the end. -/
theorem Watch.drained {w : Watch} {turns : List Turn} {lane : Nat}
    (consistent : State.Consistent w.state) (quiet : w.state.Quiet (acts turns))
    (finished : (w.run turns).drain.lanes = []) (drained : (w.run turns).drain.drained = true)
    (member : lane ∈ w.drain.lanes) (stopped : w.state.manager.traffic.Stopped lane) :
    (w.run turns).state.manager.traffic.inflight lane = 0 := by
  obtain ⟨before, now, after, split, _, empty | ⟨_, failed⟩⟩ := run_waited member finished
  · have parts : acts turns = acts before ++ acts after := by
      rw [split, acts_append]
      rfl
    obtain ⟨first, rest⟩ := State.quiet_append.mp (parts ▸ quiet)
    have still := (first.stopped consistent stopped).1
    rw [run_state] at empty
    rw [run_state, parts, State.run_append]
    have later := (rest.stopped (consistent.run _) still).2
    exact Nat.le_zero.mp (empty ▸ later)
  · cases drained.symm.trans failed

namespace State

variable {past between : List Action} {turns : List Turn} {d : Drain} {lane : Nat}

theorem drained_atRest (quiet : (run {} past).Quiet (acts turns))
    (finished : (Watch.run ⟨run {} past, d⟩ turns).drain.lanes = [])
    (drained : (Watch.run ⟨run {} past, d⟩ turns).drain.drained = true) (member : lane ∈ d.lanes)
    (stopped : (run {} past).manager.traffic.Stopped lane) : AtRest (past ++ acts turns) lane := by
  have empty := Watch.drained (w := ⟨run {} past, d⟩) (run_consistent past) quiet finished drained
    member stopped
  rw [Watch.run_state, ← run_append] at empty
  exact run_atRest empty

/-- Since all forwarders were stopped none has been started: those of every link are still stopped. -/
theorem stopped_since_stopAll (quiet : (run {} (past ++ [.stopAll])).Quiet between) {id : String}
    {link : Link}
    (installed : (run {} (past ++ .stopAll :: between)).manager.links.find? id = some link)
    (member : lane ∈ link.lanes) :
    (run {} (past ++ .stopAll :: between)).manager.traffic.Stopped lane := by
  rw [← List.singleton_append, ← List.append_assoc, run_append] at installed ⊢
  have before := quiet.links installed
  rw [run_append] at before quiet
  have stopped := (run_consistent past).stopAll before member
  rw [run_append]
  exact (quiet.stopped ((run_consistent past).step .stopAll) stopped).1

/-- A drain of everything after a stop of everything: if it succeeds, all lanes are at rest of every
link that was there when it began, and so of every link that is left. -/
theorem drained_stopAll {since timeout : Nat} {begun : State}
    (here : begun = run {} (past ++ .stopAll :: between))
    (quiet : (run {} (past ++ [.stopAll])).Quiet (between ++ acts turns))
    (finished : (Watch.run ⟨begun,
      { lanes := begun.manager.links.values.flatMap Link.lanes, since, timeout }⟩
        turns).drain.lanes = [])
    (drained : (Watch.run ⟨begun,
      { lanes := begun.manager.links.values.flatMap Link.lanes, since, timeout }⟩
        turns).drain.drained = true) {id : String} {link : Link}
    (installed : begun.manager.links.find? id = some link ∨
      (begun.run (acts turns)).manager.links.find? id = some link) (member : lane ∈ link.lanes) :
    AtRest (past ++ .stopAll :: between ++ acts turns) lane := by
  subst here
  obtain ⟨first, rest⟩ := quiet_append.mp quiet
  rw [← run_append, List.append_assoc, List.singleton_append] at rest
  have before := installed.elim (fun now => now) rest.links
  refine drained_atRest rest finished drained ?_ (stopped_since_stopAll first before member)
  refine List.mem_flatMap.mpr ⟨link, ?_, member⟩
  exact (run_consistent _).ascending.mem_values.mpr ⟨_, before⟩

theorem complete_inflight (s : State) (lane : Nat) :
    (s.step .complete).manager.traffic.inflight lane = s.manager.traffic.inflight lane := by
  simp only [step]
  split
  next h _ =>
    unfold complete
    split
    · exact setRunning_inflight _ _ _ _
    · rfl
  · rfl

/-- A change whose drain succeeds takes effect when nothing is under way on the old link. -/
theorem drained_change {a : Action} {h : Handover} {since timeout : Nat}
    (idle : (run {} past).change = none) (begun : (run {} (past ++ [a])).change = some h)
    (waits : ∀ a ∈ acts turns, Waits a)
    (finished : (Watch.run ⟨run {} (past ++ [a]),
      { lanes := (run {} (past ++ [a])).manager.draining h, since, timeout }⟩ turns).drain.lanes = [])
    (drained : (Watch.run ⟨run {} (past ++ [a]),
      { lanes := (run {} (past ++ [a])).manager.draining h, since, timeout }⟩ turns).drain.drained) :
    ∃ old, (run {} past).manager.links.find? h.id = some old ∧
      (run {} (past ++ [a] ++ acts turns)).manager.links.find? h.id = some old ∧
      ∀ lane ∈ old.lanes, AtRest (past ++ [a] ++ acts turns) lane ∧
        AtRest (past ++ [a] ++ acts turns ++ [.complete]) lane := by
  have first : run {} (past ++ [a]) = (run {} past).step a := run_append _ _ _
  obtain ⟨old, before, now, stopped⟩ := (run_consistent past).begun idle (first ▸ begun)
  rw [← first] at now stopped
  obtain ⟨quiet, _, links⟩ := run_waits begun waits
  refine ⟨old, before, ?_, fun lane member => ?_⟩
  · rw [run_append, links]
    exact now
  · have within : lane ∈ (run {} (past ++ [a])).manager.draining h := by
      rw [draining, now]
      exact member
    have rest := drained_atRest quiet finished drained within (stopped lane member)
    refine ⟨rest, run_atRest ?_⟩
    rw [run_append]
    exact (complete_inflight _ lane).trans rest.inflight

end State
end EdgeGateway.BridgeManager

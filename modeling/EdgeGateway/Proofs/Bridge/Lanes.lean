import EdgeGateway.Proofs.Bridge.History

/-!
# Lanes through steps of traffic

`LaneChange` lists everything that one step can do to one lane. So a lane keeps its forwarder and its
target for ever, and while it is stopped its count of messages in flight can only go down.
-/

namespace EdgeGateway.Traffic

/-- Everything a step can do to one lane. -/
inductive LaneChange (e : Event) (lane : Nat) (l : Lane) : Lane → Prop where
  | rest : LaneChange e lane l l
  | start (event : e = .start lane) : LaneChange e lane l { l with running := true }
  | stop (event : e = .stop lane) : LaneChange e lane l { l with running := false }
  | takeIn {m : Message} {ack : AckToken} (event : e = .forward lane m ack)
      (running : l.running = true) : LaneChange e lane l { l with inflight := l.inflight + 1 }
  | finish : LaneChange e lane l { l with inflight := l.inflight - 1 }

theorem step_laneChange {t : Traffic} {lane : Nat} {l : Lane} (e : Event)
    (present : t.lanes[lane]? = some l) :
    ∃ l', (t.step e).lanes[lane]? = some l' ∧ LaneChange e lane l l' := by
  have change := step_change t e
  generalize t.step e = t' at change ⊢
  have untouched (same : t'.lanes = t.lanes) :
      ∃ l', t'.lanes[lane]? = some l' ∧ LaneChange e lane l l' := by
    rw [same]
    exact ⟨l, present, .rest⟩
  have modified {other : Nat} {f : Lane → Lane} (lanes : t'.lanes = t.lanes.modify other f)
      (here : other = lane → LaneChange e lane l (f l)) :
      ∃ l', t'.lanes[lane]? = some l' ∧ LaneChange e lane l l' := by
    rw [lanes]
    by_cases same : other = lane
    · refine ⟨f l, ?_, here same⟩
      rw [same, List.getElem?_modify_eq, present]
      rfl
    · exact ⟨l, (List.getElem?_modify_ne _ _ same).trans present, .rest⟩
  cases change with
  | addLane f target =>
    have below := (List.getElem?_eq_some_iff.mp present).1
    refine ⟨l, ?_, .rest⟩
    rw [addLane_lanes, List.getElem?_append_left below]
    exact present
  | openMetrics | handOver | ignore => exact untouched rfl
  | start other =>
    exact modified (setRunning_lanes t other true) fun same => .start (by rw [same])
  | stop other =>
    exact modified (setRunning_lanes t other false) fun same => .stop (by rw [same])
  | turnAway => exact untouched (by rw [turnAway_lanes, count_lanes])
  | @takeIn other l' m candidate ack there reception =>
    refine modified (by rw [takeIn_lanes, count_lanes]) fun same => ?_
    subst same
    obtain rfl := Option.some.inj (present.symm.trans there)
    exact .takeIn rfl (Forwarder.receive_accepted_iff.mp reception).1
  | decline | settle | abandon => exact modified (finish_lanes t _ _ _) fun _ => .finish

section Changes
variable {e : Event} {lane : Nat} {l l' : Lane}

theorem LaneChange.forwarder (change : LaneChange e lane l l') : l'.forwarder = l.forwarder := by
  cases change <;> rfl

theorem LaneChange.target (change : LaneChange e lane l l') : l'.target = l.target := by
  cases change <;> rfl

theorem LaneChange.running (change : LaneChange e lane l l') (kept : e ≠ .start lane)
    (stopped : l.running = false) : l'.running = false := by
  cases change with
  | start event => exact absurd event kept
  | stop => rfl
  | rest | takeIn | finish => exact stopped

/-- The count of a stopped lane does not go up. -/
theorem LaneChange.inflight_le (change : LaneChange e lane l l') (stopped : l.running = false) :
    l'.inflight ≤ l.inflight := by
  cases change with
  | takeIn event running =>
    rw [running] at stopped
    cases stopped
  | finish => exact Nat.sub_le _ _
  | _ => exact Nat.le_refl _

end Changes

/-! ### Runs -/

/-- Forwarder and target of a lane. -/
def post? (t : Traffic) (lane : Nat) : Option (Forwarder × Target) :=
  (t.lanes[lane]?).map fun l => (l.forwarder, l.target)

theorem forwarder?_of_post {t : Traffic} {lane : Nat} {f : Forwarder} {target : Target}
    (there : t.post? lane = some (f, target)) : t.forwarder? lane = some f := by
  obtain ⟨l, present, same⟩ := Option.map_eq_some_iff.mp there
  rw [forwarder?_of_present present, (Prod.mk.inj same).1]

theorem step_post {t : Traffic} {lane : Nat} {post : Forwarder × Target} (e : Event)
    (present : t.post? lane = some post) : (t.step e).post? lane = some post := by
  obtain ⟨l, there, rfl⟩ := Option.map_eq_some_iff.mp present
  obtain ⟨l', after, change⟩ := step_laneChange e there
  rw [post?, after, Option.map_some, change.forwarder, change.target]

theorem run_post {t : Traffic} {lane : Nat} {post : Forwarder × Target} (es : List Event)
    (present : t.post? lane = some post) : (t.run es).post? lane = some post := by
  induction es generalizing t with
  | nil => exact present
  | cons e es ih => exact ih (step_post e present)

def Stopped (t : Traffic) (lane : Nat) : Prop := ∃ l, t.lanes[lane]? = some l ∧ l.running = false

def Running (t : Traffic) (lane : Nat) : Prop := ∃ l, t.lanes[lane]? = some l ∧ l.running = true

theorem inflight_of_present {t : Traffic} {lane : Nat} {l : Lane}
    (present : t.lanes[lane]? = some l) : t.inflight lane = l.inflight := by
  rw [Traffic.inflight, present]
  rfl

theorem Stopped.step_inflight {t : Traffic} {lane : Nat} (stopped : t.Stopped lane) (e : Event) :
    (t.step e).inflight lane ≤ t.inflight lane := by
  obtain ⟨l, present, off⟩ := stopped
  obtain ⟨l', after, change⟩ := step_laneChange e present
  rw [inflight_of_present present, inflight_of_present after]
  exact change.inflight_le off

theorem Stopped.step {t : Traffic} {lane : Nat} (stopped : t.Stopped lane) {e : Event}
    (kept : e ≠ .start lane) : (t.step e).Stopped lane := by
  obtain ⟨l, present, off⟩ := stopped
  obtain ⟨l', after, change⟩ := step_laneChange e present
  exact ⟨l', after, change.running kept off⟩

/-- While a lane is not started again, it stays stopped and its count only goes down. -/
theorem Stopped.run {t : Traffic} {lane : Nat} {es : List Event} (stopped : t.Stopped lane)
    (kept : ∀ e ∈ es, e ≠ .start lane) :
    (t.run es).Stopped lane ∧ (t.run es).inflight lane ≤ t.inflight lane := by
  induction es generalizing t with
  | nil => exact ⟨stopped, Nat.le_refl _⟩
  | cons e es ih =>
    have next := stopped.step (kept e List.mem_cons_self)
    obtain ⟨still, later⟩ := ih next fun e' member => kept e' (List.mem_cons_of_mem e member)
    exact ⟨still, Nat.le_trans later (stopped.step_inflight e)⟩

end EdgeGateway.Traffic

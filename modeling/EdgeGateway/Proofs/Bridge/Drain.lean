import EdgeGateway.Bridge.Drain
import EdgeGateway.Proofs.Bridge.Reachable
import Mathlib.Logic.Function.Iterate

/-!
# Waiting for lanes

A drain looks at one lane after the other while messages come and go. `Watch` puts a manager and a
drain side by side and lets everything happen in any order, also between two looks at the same
moment. When it is over each lane has been seen empty once or has used up the timeout, and a lane
that was stopped before has stayed empty since.
-/

namespace EdgeGateway

namespace Drain

/-- Looks at the count of the lane that is waited for, and at no other. -/
def glance (d : Drain) (inflight : Nat → Nat) (now : Nat) : Drain :=
  match d.lanes with
  | [] => d
  | lane :: rest =>
    if (now - d.since) % drainInterval = 0 ∧ inflight lane = 0 then
      { d with lanes := rest, since := now }
    else if d.since + d.timeout ≤ now then { d with lanes := rest, since := now, drained := false }
    else d

/-- A look at all lanes is as many looks at the one that is waited for. -/
theorem poll_eq_glances (d : Drain) (inflight : Nat → Nat) (now : Nat) :
    d.poll inflight now = (fun d => d.glance inflight now)^[d.lanes.length] d := by
  obtain ⟨lanes, since, timeout, drained⟩ := d
  change look inflight timeout now drained since lanes = _
  induction lanes generalizing since drained with
  | nil => rfl
  | cons lane rest ih =>
    rw [List.length_cons, Function.iterate_succ_apply, look]
    by_cases empty : (now - since) % drainInterval = 0 ∧ inflight lane = 0
    · have seen : glance ⟨lane :: rest, since, timeout, drained⟩ inflight now =
          ⟨rest, now, timeout, drained⟩ := if_pos empty
      rw [if_pos empty, seen]
      exact ih now drained
    · by_cases late : since + timeout ≤ now
      · have left : glance ⟨lane :: rest, since, timeout, drained⟩ inflight now =
            ⟨rest, now, timeout, false⟩ := (if_neg empty).trans (if_pos late)
        rw [if_neg empty, if_pos late, left]
        exact ih now false
      · have still : glance ⟨lane :: rest, since, timeout, drained⟩ inflight now =
            ⟨lane :: rest, since, timeout, drained⟩ := (if_neg empty).trans (if_neg late)
        rw [if_neg empty, if_neg late, still]
        exact (Function.iterate_fixed still rest.length).symm

/-- What one look does to a drain that waits for a lane. -/
theorem glance_cases {d : Drain} {lane : Nat} {rest : List Nat} (waiting : d.lanes = lane :: rest)
    (inflight : Nat → Nat) (now : Nat) :
    (inflight lane = 0 ∧ d.glance inflight now = { d with lanes := rest, since := now }) ∨
      (d.since + d.timeout ≤ now ∧
        d.glance inflight now = { d with lanes := rest, since := now, drained := false }) ∨
      d.glance inflight now = d := by
  unfold glance
  rw [waiting]
  dsimp only
  split
  next empty => exact .inl ⟨empty.2, rfl⟩
  next =>
    split
    next late => exact .inr (.inl ⟨late, rfl⟩)
    next => exact .inr (.inr rfl)

theorem glance_timeout (d : Drain) (inflight : Nat → Nat) (now : Nat) :
    (d.glance inflight now).timeout = d.timeout := by
  unfold glance
  split
  · rfl
  · split
    · rfl
    · split <;> rfl

/-- A drain that has failed does not succeed any more. -/
theorem glance_failed {d : Drain} (failed : d.drained = false) (inflight : Nat → Nat) (now : Nat) :
    (d.glance inflight now).drained = false := by
  unfold glance
  split
  · exact failed
  · split
    · exact failed
    · split
      · rfl
      · exact failed

/-! ### Time -/

/-- When a drain is over at the latest. -/
def deadline (d : Drain) : Nat := d.since + d.lanes.length * (d.timeout + 1)

/-- A look in time does not put off the deadline. If the drain goes on, there is time left for the lane
that it waits for. -/
theorem poll_deadline {d : Drain} {now : Nat} (timely : now ≤ d.since + d.timeout)
    (inflight : Nat → Nat) :
    (d.poll inflight now).timeout = d.timeout ∧ (d.poll inflight now).deadline ≤ d.deadline ∧
      ((d.poll inflight now).lanes = [] ∨ now < (d.poll inflight now).since + d.timeout) := by
  obtain ⟨lanes, since, timeout, drained⟩ := d
  unfold poll
  dsimp only at timely ⊢
  induction lanes generalizing since drained with
  | nil => exact ⟨rfl, Nat.le_refl _, .inl rfl⟩
  | cons lane rest ih =>
    have next (drained : Bool) := ih now drained (Nat.le_add_right now timeout)
    have sooner : deadline ⟨rest, now, timeout, drained⟩ ≤
        deadline ⟨lane :: rest, since, timeout, drained⟩ := by
      simp only [deadline, List.length_cons, Nat.add_mul]
      omega
    unfold look
    split
    · obtain ⟨same, before, going⟩ := next drained
      exact ⟨same, Nat.le_trans before sooner, going⟩
    · split
      · obtain ⟨same, before, going⟩ := next false
        exact ⟨same, Nat.le_trans before sooner, going⟩
      next early => exact ⟨rfl, Nat.le_refl _, .inr (Nat.lt_of_not_le early)⟩

/-- The next look comes after some time, and not after the timeout. -/
theorem nextLook_bounds {d : Drain} {now : Nat} (early : now < d.since + d.timeout) :
    now < d.nextLook now ∧ d.nextLook now ≤ d.since + d.timeout := by
  refine ⟨?_, Nat.min_le_right _ _⟩
  unfold nextLook drainInterval
  omega

end Drain

namespace BridgeManager

open Traffic (Event)

/-! ### Waiting among other things -/

/-- What happens while somebody waits: anything else, or the next look. -/
inductive Turn where
  | act (action : Action)
  | look (now : Nat)

def Turn.action? : Turn → Option Action
  | .act a => some a
  | .look _ => none

/-- The actions among turns. -/
def acts (turns : List Turn) : List Action := turns.filterMap Turn.action?

theorem acts_append (before after : List Turn) : acts (before ++ after) = acts before ++ acts after :=
  List.filterMap_append

@[simp] theorem acts_act (actions : List Action) : acts (actions.map .act) = actions := by
  induction actions with
  | nil => rfl
  | cons a actions ih => exact congrArg (a :: ·) ih

@[simp] theorem acts_look (n now : Nat) : acts (List.replicate n (.look now)) = [] := by
  induction n with
  | zero => rfl
  | succ n ih => exact ih

structure Watch where
  state : State
  drain : Drain

namespace Watch

def turn (w : Watch) : Turn → Watch
  | .act a => { w with state := w.state.step a }
  | .look now => { w with drain := w.drain.glance w.state.manager.traffic.inflight now }

def run (w : Watch) (turns : List Turn) : Watch := turns.foldl turn w

theorem run_append (w : Watch) (before after : List Turn) :
    w.run (before ++ after) = (w.run before).run after :=
  List.foldl_append

theorem run_state (w : Watch) (turns : List Turn) :
    (w.run turns).state = w.state.run (acts turns) := by
  induction turns generalizing w with
  | nil => rfl
  | cons turn turns ih => cases turn <;> exact ih _

theorem run_acts (w : Watch) (actions : List Action) :
    w.run (actions.map .act) = { w with state := w.state.run actions } := by
  induction actions generalizing w with
  | nil => rfl
  | cons a actions ih => exact ih _

theorem run_looks (w : Watch) (now : Nat) :
    w.run (List.replicate w.drain.lanes.length (.look now)) =
      { w with drain := w.drain.poll w.state.manager.traffic.inflight now } := by
  rw [Drain.poll_eq_glances]
  generalize w.drain.lanes.length = n
  induction n generalizing w with
  | zero => rfl
  | succ n ih => exact ih (w.turn (.look now))

theorem run_failed {w : Watch} (failed : w.drain.drained = false) (turns : List Turn) :
    (w.run turns).drain.drained = false := by
  induction turns generalizing w with
  | nil => exact failed
  | cons turn turns ih =>
    cases turn with
    | act a => exact ih failed
    | look now => exact ih (Drain.glance_failed failed _ now)

/-- Among these turns the wait for a lane comes to its end: at a look at it the lane is empty, or the
whole timeout has passed and the drain fails. -/
def Waited (w : Watch) (turns : List Turn) (lane : Nat) : Prop :=
  ∃ before now after, turns = before ++ .look now :: after ∧
    (w.run before).drain.lanes.head? = some lane ∧
    ((w.run before).state.manager.traffic.inflight lane = 0 ∨
      (w.run before).drain.since + w.drain.timeout ≤ now ∧ (w.run turns).drain.drained = false)

theorem turn_timeout (w : Watch) (turn : Turn) : (w.turn turn).drain.timeout = w.drain.timeout := by
  cases turn with
  | act a => rfl
  | look now => exact Drain.glance_timeout w.drain _ now

theorem Waited.turn {w : Watch} {turn : Turn} {turns : List Turn} {lane : Nat}
    (waited : (w.turn turn).Waited turns lane) : w.Waited (turn :: turns) lane := by
  obtain ⟨before, now, after, split, ended⟩ := waited
  rw [turn_timeout] at ended
  exact ⟨turn :: before, now, after, congrArg (turn :: ·) split, ended⟩

/-- Once a drain is over, the wait for each of its lanes has come to its end. -/
theorem run_waited {w : Watch} {turns : List Turn} {lane : Nat} (waiting : lane ∈ w.drain.lanes)
    (finished : (w.run turns).drain.lanes = []) : w.Waited turns lane := by
  induction turns generalizing w with
  | nil =>
    rw [show w.drain.lanes = [] from finished] at waiting
    cases waiting
  | cons turn turns ih =>
    have later (still : lane ∈ (w.turn turn).drain.lanes) : w.Waited (turn :: turns) lane :=
      (ih still finished).turn
    cases turn with
    | act a => exact later waiting
    | look now =>
      cases lanes : w.drain.lanes with
      | nil =>
        rw [lanes] at waiting
        cases waiting
      | cons first rest =>
        have head : (w.run []).drain.lanes.head? = some first := congrArg List.head? lanes
        rw [lanes] at waiting
        rcases Drain.glance_cases lanes w.state.manager.traffic.inflight now with
          ⟨empty, seen⟩ | ⟨late, left⟩ | still
        · rcases List.mem_cons.mp waiting with rfl | behind
          · exact ⟨[], now, turns, rfl, head, .inl empty⟩
          · exact later (by simpa [turn, seen] using behind)
        · rcases List.mem_cons.mp waiting with rfl | behind
          · exact ⟨[], now, turns, rfl, head, .inr ⟨late, run_failed (by simp [turn, left]) turns⟩⟩
          · exact later (by simpa [turn, left] using behind)
        · exact later (by simpa [turn, still, lanes] using waiting)

end Watch
end BridgeManager
end EdgeGateway

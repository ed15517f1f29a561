import EdgeGateway.Proofs.Bridge.Looks
import EdgeGateway.Proofs.Gateway.Bridges

/-!
# What a gateway finds when it looks

While a gateway waits for a lane it looks at it in the `course` of a drain, at the gateway that it has
become by then. Its answer is about the last regular look. A message that ends after that and in time is
reported as still in flight.
-/

namespace EdgeGateway.Gateway

open BridgeManager (Action State Passes)
open Drain (course lastLook lastRegular lookAt single)
open Traffic (Event Sound Stopped)

variable {g g' : Gateway} {lane timeout : Nat}

/-! ### Passing messages on -/

theorem not_start_of_passes {s : State} {a : Action} (passes : Passes a) (lane : Nat) :
    .start lane ∉ s.events a := by
  intro member
  cases a with
  | forwardLocal m messageId =>
    obtain ⟨_, _, made⟩ := List.mem_filterMap.mp member
    obtain ⟨_, _, same⟩ := Option.map_eq_some_iff.mp made
    cases same
  | intercepted | answered => cases List.mem_singleton.mp member
  | _ => cases passes

/-- Where messages are passed on no lane is started. -/
theorem Passed.traffic {change : Option Handover} (passed : Passed change g g') :
    ∃ es adapters, (∀ lane, .start lane ∉ es) ∧ g'.traffic = (g.traffic.run es).setAdapters adapters := by
  obtain ⟨actions, adapters, passes, state⟩ := passed
  refine ⟨(g.state change).history actions, adapters, fun lane => ?_, ?_⟩
  · clear state
    generalize g.state change = s
    induction actions generalizing s with
    | nil => exact List.not_mem_nil
    | cons a actions ih =>
      intro member
      rcases List.mem_append.mp member with now | later
      · exact not_start_of_passes (passes a List.mem_cons_self) lane now
      · exact ih (fun a' member => passes a' (List.mem_cons_of_mem a member)) _ later
  · have traffic := congrArg (fun s => s.manager.traffic) state
    exact traffic.trans (congrArg (Traffic.setAdapters · adapters) (State.run_traffic _ actions))

theorem Passed.sound {change : Option Handover} (passed : Passed change g g')
    (sound : Sound g.traffic) : Sound g'.traffic := by
  obtain ⟨es, adapters, _, traffic⟩ := passed.traffic
  rw [traffic]
  exact (sound.run es).congr rfl rfl

theorem Passed.stopped {change : Option Handover} (passed : Passed change g g')
    (stopped : g.traffic.Stopped lane) :
    g'.traffic.Stopped lane ∧ g'.traffic.inflight lane ≤ g.traffic.inflight lane := by
  obtain ⟨es, adapters, quiet, traffic⟩ := passed.traffic
  rw [traffic]
  exact stopped.run fun e member same => quiet lane (same ▸ member)

/-! ### Looks -/

/-- The gateway at a look of a drain that begins now. -/
def looked (g : Gateway) (timeout : Nat) : Nat → Gateway
  | 0 => g
  | look + 1 => schedule.advanceTo (g.looked timeout look) (g.agenda.now + lookAt timeout (look + 1))

theorem looked_now (g : Gateway) (timeout look : Nat) :
    (g.looked timeout look).agenda.now = g.agenda.now + lookAt timeout look := by
  cases look with
  | zero => rw [Drain.lookAt_zero]; rfl
  | succ look => exact advanceTo_now _ _

theorem looked_passed (g : Gateway) (timeout look : Nat) : Passed none g (g.looked timeout look) := by
  induction look with
  | zero => exact .refl g
  | succ look ih => exact ih.trans (advanceTo_passed _ _)

/-- The counts that a drain finds at its looks. -/
def found (g : Gateway) (timeout look : Nat) : Nat → Nat := (g.looked timeout look).traffic.inflight

/-- While a gateway waits the count of a stopped lane only goes down. -/
theorem found_antitone (stopped : g.traffic.Stopped lane) (timeout : Nat) :
    Antitone fun look => g.found timeout look lane :=
  antitone_nat_of_succ_le fun look =>
    ((@advanceTo_passed none _ _).stopped ((looked_passed g timeout look).stopped stopped).1).2

/-- A gateway that waits for a lane follows the course of the drain, and if it waits in vain it has come to
the last look. -/
theorem drainWithin_course {fuel look : Nat} (due : look ≤ lastLook timeout)
    (enough : lastLook timeout < look + fuel)
    (going : (single lane g.agenda.now timeout).course (g.found timeout) look =
      single lane g.agenda.now timeout) :
    let d := (single lane g.agenda.now timeout).course (g.found timeout) (lastLook timeout + 1)
    let result := drainWithin fuel (single lane g.agenda.now timeout) (g.looked timeout look)
    result.2 = d.drained ∧ (result.2 = false → result.1 = g.looked timeout (lastLook timeout)) := by
  induction fuel generalizing look with
  | zero => exact absurd enough (Nat.not_lt_of_le due)
  | succ fuel ih =>
    have polled : (single lane g.agenda.now timeout).poll (g.looked timeout look).traffic.inflight
        (g.looked timeout look).agenda.now =
          (single lane g.agenda.now timeout).course (g.found timeout) (look + 1) := by
      rw [course, going, looked_now]
      rfl
    have stays (finished : ((single lane g.agenda.now timeout).course (g.found timeout)
        (look + 1)).lanes = []) := Drain.course_over finished (Nat.succ_le_succ due)
    have cases := Drain.course_cases lane g.agenda.now (g.found timeout) (Nat.add_le_add_right due 1)
    have later := @ih (look + 1)
    rw [drainWithin]
    dsimp only at cases ⊢
    rw [polled]
    generalize (single lane g.agenda.now timeout).course (g.found timeout) (look + 1) = d
      at stays cases later ⊢
    rcases cases with ⟨rfl, more, _⟩ | ⟨finished, drained, _⟩ | ⟨finished, failed, last, _⟩
    · have next : (single lane g.agenda.now timeout).nextLook (g.looked timeout look).agenda.now =
          g.agenda.now + lookAt timeout (look + 1) := by
        rw [looked_now]
        exact Drain.nextLook_single more
      rw [next]
      exact later more (by omega) rfl
    · have finish : d.isOver = true := List.isEmpty_iff.mpr finished
      rw [if_pos finish, stays finished]
      exact ⟨rfl, fun failed => absurd (drained.symm.trans failed) (by decide)⟩
    · have finish : d.isOver = true := List.isEmpty_iff.mpr finished
      rw [if_pos finish, stays finished, Nat.succ.inj last]
      exact ⟨rfl, fun _ => rfl⟩

/-- A drain of one lane, and the gateway that it leaves if it fails. -/
theorem drain_course (g : Gateway) (lane timeout : Nat) :
    let d := (single lane g.agenda.now timeout).course (g.found timeout) (lastLook timeout + 1)
    (g.drain [lane] timeout).2 = d.drained ∧
      ((g.drain [lane] timeout).2 = false →
        (g.drain [lane] timeout).1 = g.looked timeout (lastLook timeout)) := by
  refine @drainWithin_course g lane timeout _ 0 (Nat.zero_le _) ?_ rfl
  unfold lastLook drainInterval Drain.looks
  dsimp only [List.length_singleton]
  omega

/-! ### Answers -/

/-- What the answer of a drain tells about a stopped forwarder, whatever happens meanwhile and however long
the drain may last. Traffic is sound after every run (`Traffic.run_sound`).

It is false exactly if a message is in flight at the last full ten milliseconds before the timeout. So it is
false if one is still in flight when the timeout has passed, and only then if the timeout is a multiple of
ten milliseconds; a message that ends later than the last full ten is reported although it has ended in
time. A gateway that waits answers alike, and if it waits in vain it has waited for the whole timeout. -/
theorem drains_answer_for_the_last_look (lane timeout : Nat) :
    (∀ (t : Traffic) (since : Nat) (happens : Nat → List Event),
      Sound t → t.Stopped lane → (∀ millis, .start lane ∉ happens millis) →
      let d := (single lane since timeout).course
        (fun look => (t.after happens (lookAt timeout look)).inflight) (lastLook timeout + 1)
      d.isOver = true ∧
        (d.drained = false ↔ (t.after happens (timeout / drainInterval * drainInterval)).Busy lane) ∧
        ((t.after happens timeout).Busy lane → d.drained = false) ∧
        (drainInterval ∣ timeout → (d.drained = false ↔ (t.after happens timeout).Busy lane))) ∧
    ∀ g : Gateway, Sound g.traffic → g.traffic.Stopped lane →
      let regular := g.looked timeout (lastRegular timeout)
      let last := g.looked timeout (lastLook timeout)
      regular.agenda.now = g.agenda.now + timeout / drainInterval * drainInterval ∧
        last.agenda.now = g.agenda.now + timeout ∧
        ((g.drain [lane] timeout).2 = false ↔ regular.traffic.Busy lane) ∧
        (last.traffic.Busy lane → (g.drain [lane] timeout).2 = false) ∧
        (drainInterval ∣ timeout → ((g.drain [lane] timeout).2 = false ↔ last.traffic.Busy lane)) ∧
        ((g.drain [lane] timeout).2 = false → (g.drain [lane] timeout).1 = last) := by
  refine ⟨fun t since happens sound stopped quiet => ?_, fun g sound stopped => ?_⟩
  · have down := stopped.after_inflight quiet
    obtain ⟨done, answer⟩ := Drain.course_drained since timeout
      (down.comp_monotone (Drain.lookAt_mono timeout))
    have busy (millis : Nat) := (sound.after happens millis).busy_iff lane
    refine ⟨done, ?_, fun still => ?_, fun whole => ?_⟩
    · rw [answer, Drain.lookAt_lastRegular, busy]
    · have before := down (Nat.min_le_right (lastRegular timeout * drainInterval) timeout)
      rw [busy] at still
      exact answer.mpr fun empty => still (Nat.le_zero.mp (empty ▸ before))
    · rw [answer, Drain.lastRegular_of_dvd whole, Drain.lookAt_lastLook, busy]
  · have down := found_antitone stopped timeout
    obtain ⟨result, left⟩ := drain_course g lane timeout
    obtain ⟨_, answer⟩ := Drain.course_drained g.agenda.now timeout down
    rw [← result] at answer
    have busy (look : Nat) := ((looked_passed g timeout look).sound sound).busy_iff lane
    refine ⟨?_, ?_, ?_, fun still => ?_, fun whole => ?_, left⟩
    · rw [looked_now, Drain.lookAt_lastRegular]
    · rw [looked_now, Drain.lookAt_lastLook]
    · rw [answer, busy]
      rfl
    · rw [busy] at still
      exact answer.mpr fun empty =>
        still (Nat.le_zero.mp (empty ▸ down (Drain.lastRegular_le timeout)))
    · rw [answer, Drain.lastRegular_of_dvd whole, busy]
      rfl

def slowBridge : BridgeConfig :=
  { id := "b1", host := "h", localSubscriptions := [{ filters := ["#"] }] }

/-- A bridge has been stopped with a message on its way to a remote that takes its time. -/
def slowGateway : Gateway :=
  let g : Gateway := { broker := .ofCapacity 1, drainTimeout := 0,
                       remotes := Table.empty.insert "h" { kind := .recording false 25 } }
  let g := ((g.addBridge slowBridge "h").1.forwardLocal { topic := "a" } 1).1.settled
  { g with bridges := g.bridges.stopAll }

theorem slowGateway_sound : Sound slowGateway.traffic := by
  have here : slowGateway.traffic = (State.run {} [.add slowBridge "h",
      .forwardLocal { topic := "a" } 1,
      .intercepted 0 (.ok (.pass { topic := "a", properties := [⟨hopProperty, "1"⟩] })) true,
      .stopAll]).manager.traffic := by rfl
  rw [here, State.run_traffic]
  exact Traffic.run_sound _

theorem slowGateway_stopped : slowGateway.traffic.Stopped 0 := ⟨_, rfl, rfl⟩

/-- The remote answers after 25 milliseconds. -/
def slowAnswer (millis : Nat) : List Event := if millis = 25 then [.answered 0 (.ok ())] else []

/-- A message that takes 25 milliseconds is waited for with a timeout of 30, and not with one of 29. -/
theorem slow_message_is_waited_for :
    ((single 0 0 30).course
        (fun look => (slowGateway.traffic.after slowAnswer (lookAt 30 look)).inflight)
        (lastLook 30 + 1)).drained = true ∧
      (slowGateway.drain [0] 30).2 = true ∧ (slowGateway.drain [0] 29).2 = false := by
  obtain ⟨course, answer⟩ := drains_answer_for_the_last_look 0 30
  have quiet (millis : Nat) : .start 0 ∉ slowAnswer millis := by
    unfold slowAnswer
    split <;> simp
  obtain ⟨_, _, _, early⟩ :=
    course slowGateway.traffic 0 slowAnswer slowGateway_sound slowGateway_stopped quiet
  obtain ⟨_, _, _, _, whole, _⟩ := answer slowGateway slowGateway_sound slowGateway_stopped
  obtain ⟨_, _, regular, _⟩ :=
    (drains_answer_for_the_last_look 0 29).2 slowGateway slowGateway_sound slowGateway_stopped
  refine ⟨?_, ?_, regular.mpr (by decide +kernel)⟩
  · refine Bool.eq_true_of_not_eq_false fun failed => ?_
    exact absurd ((early (by decide)).mp failed) (by decide +kernel)
  · refine Bool.eq_true_of_not_eq_false fun failed => ?_
    exact absurd ((whole (by decide)).mp failed) (by decide +kernel)

/-- A drain can fail although no message is in flight any more when the timeout has passed. -/
theorem not_every_failed_drain_leaves_messages :
    ¬ ∀ (g : Gateway) (lane timeout : Nat), Sound g.traffic → g.traffic.Stopped lane →
      ((g.drain [lane] timeout).2 = false ↔
        (g.looked timeout (lastLook timeout)).traffic.Busy lane) := by
  intro all
  have failed : (slowGateway.drain [0] 29).2 = false := by rfl
  have busy := (all slowGateway 0 29 slowGateway_sound slowGateway_stopped).mp failed
  exact absurd busy (by decide +kernel)

end EdgeGateway.Gateway

import EdgeGateway.Proofs.Bridge.Drain
import EdgeGateway.Proofs.Bridge.Lanes
import Mathlib.Order.Monotone.Basic

/-!
# When a drain looks

A drain of one lane looks at it every ten milliseconds and when the timeout has passed, and an empty lane
counts only at the former. `course` follows the drain from look to look, whatever it finds. The count of a
stopped lane only goes down, so all depends on the last look before the timeout.
-/

namespace EdgeGateway

namespace Drain

/-- How long after its beginning a drain has a look. -/
def lookAt (timeout look : Nat) : Nat := min (look * drainInterval) timeout

/-- The last look at which an empty lane counts. -/
def lastRegular (timeout : Nat) : Nat := timeout / drainInterval

/-- The look at which the timeout has passed. -/
def lastLook (timeout : Nat) : Nat := (timeout + (drainInterval - 1)) / drainInterval

theorem lookAt_zero (timeout : Nat) : lookAt timeout 0 = 0 := by
  rw [lookAt, Nat.zero_mul, Nat.zero_min]

theorem lookAt_mono (timeout : Nat) : Monotone (lookAt timeout) := fun _ _ le =>
  min_le_min_right timeout (Nat.mul_le_mul_right _ le)

theorem lookAt_lastRegular (timeout : Nat) :
    lookAt timeout (lastRegular timeout) = timeout / drainInterval * drainInterval :=
  Nat.min_eq_left (Nat.div_mul_le_self _ _)

theorem lastRegular_le (timeout : Nat) : lastRegular timeout ≤ lastLook timeout :=
  Nat.div_le_div_right (Nat.le_add_right _ _)

theorem lastRegular_of_dvd {timeout : Nat} (whole : drainInterval ∣ timeout) :
    lastRegular timeout = lastLook timeout := by
  unfold lastRegular lastLook drainInterval at *
  omega

/-- The timeout has passed from the last look on. -/
theorem timeout_le_lookAt {timeout look : Nat} :
    timeout ≤ lookAt timeout look ↔ lastLook timeout ≤ look := by
  unfold lookAt lastLook drainInterval
  omega

theorem lookAt_lastLook (timeout : Nat) : lookAt timeout (lastLook timeout) = timeout :=
  Nat.le_antisymm (Nat.min_le_right _ _) (timeout_le_lookAt.mpr (Nat.le_refl _))

/-- Up to the last one, the looks at which an empty lane counts are the regular ones. -/
theorem regular_iff {timeout look : Nat} (due : look ≤ lastLook timeout) :
    lookAt timeout look % drainInterval = 0 ↔ look ≤ lastRegular timeout := by
  unfold lookAt lastRegular lastLook drainInterval at *
  omega

/-! ### From look to look -/

/-- A drain after so many looks, each at the counts of its moment. -/
def course (d : Drain) (counts : Nat → Nat → Nat) : Nat → Drain
  | 0 => d
  | look + 1 => (d.course counts look).poll (counts look) (d.since + lookAt d.timeout look)

/-- A drain of one lane. -/
def single (lane since timeout : Nat) : Drain := { lanes := [lane], since, timeout }

theorem poll_over {d : Drain} (done : d.lanes = []) (inflight : Nat → Nat) (now : Nat) :
    d.poll inflight now = d := by
  obtain ⟨lanes, since, timeout, drained⟩ := d
  cases done
  rfl

theorem course_over {d : Drain} {counts : Nat → Nat → Nat} {look later : Nat}
    (done : (d.course counts look).lanes = []) (le : look ≤ later) :
    d.course counts later = d.course counts look := by
  induction le with
  | refl => rfl
  | step _ ih => rw [course, ih, poll_over done]

variable {lane since timeout : Nat}

/-- The next look of a drain that goes on is the next one of its course. -/
theorem nextLook_single {look : Nat} (early : look < lastLook timeout) :
    (single lane since timeout).nextLook (since + lookAt timeout look) =
      since + lookAt timeout (look + 1) := by
  unfold nextLook single lookAt lastLook drainInterval at *
  dsimp only
  omega

/-- What a look does to a drain of one lane that goes on. -/
theorem poll_single (inflight : Nat → Nat) {look : Nat} (due : look ≤ lastLook timeout) :
    (single lane since timeout).poll inflight (since + lookAt timeout look) =
      if look ≤ lastRegular timeout ∧ inflight lane = 0 then
        ⟨[], since + lookAt timeout look, timeout, true⟩
      else if look = lastLook timeout then ⟨[], since + lookAt timeout look, timeout, false⟩
      else single lane since timeout := by
  have late : since + timeout ≤ since + lookAt timeout look ↔ look = lastLook timeout := by
    rw [Nat.add_le_add_iff_left, timeout_le_lookAt]
    exact ⟨Nat.le_antisymm due, fun last => last ▸ Nat.le_refl _⟩
  simp only [poll, single, Drain.look, Nat.add_sub_cancel_left, regular_iff due, late]

/-- A drain of one lane goes on until it finds the lane empty at a regular look, or until the last look. -/
theorem course_cases (lane since : Nat) (counts : Nat → Nat → Nat) {looks : Nat}
    (due : looks ≤ lastLook timeout + 1) :
    let d := (single lane since timeout).course counts looks
    (d = single lane since timeout ∧ looks ≤ lastLook timeout ∧
        ∀ look < looks, look ≤ lastRegular timeout → counts look lane ≠ 0) ∨
      (d.lanes = [] ∧ d.drained = true ∧ ∃ look ≤ lastRegular timeout, counts look lane = 0) ∨
      (d.lanes = [] ∧ d.drained = false ∧ looks = lastLook timeout + 1 ∧
        ∀ look ≤ lastRegular timeout, counts look lane ≠ 0) := by
  induction looks with
  | zero => exact .inl ⟨rfl, Nat.zero_le _, fun look below => absurd below (Nat.not_lt_zero look)⟩
  | succ look ih =>
    have now : look ≤ lastLook timeout := Nat.le_of_succ_le_succ due
    rcases ih (Nat.le_succ_of_le now) with ⟨going, _, before⟩ | ⟨done, found⟩ | ⟨_, _, last, _⟩
    · have busy (other : ¬ (look ≤ lastRegular timeout ∧ counts look lane = 0)) :
          ∀ earlier < look + 1, earlier ≤ lastRegular timeout → counts earlier lane ≠ 0 := by
        intro earlier below regular
        rcases Nat.lt_succ_iff_lt_or_eq.mp below with less | rfl
        · exact before earlier less regular
        · exact fun empty => other ⟨regular, empty⟩
      have next : (single lane since timeout).course counts (look + 1) =
          (single lane since timeout).poll (counts look) (since + lookAt timeout look) := by
        rw [course, going]
        rfl
      dsimp only
      rw [next, poll_single _ now]
      split
      next found => exact .inr (.inl ⟨rfl, rfl, look, found⟩)
      next other =>
        split
        next last =>
          refine .inr (.inr ⟨rfl, rfl, congrArg (· + 1) last, fun earlier regular => ?_⟩)
          exact busy other earlier
            (Nat.lt_succ_of_le (last ▸ Nat.le_trans regular (lastRegular_le timeout))) regular
        next more => exact .inl ⟨rfl, Nat.lt_of_le_of_ne now more, busy other⟩
    · refine .inr (.inl ?_)
      rw [course_over done (Nat.le_succ look)]
      exact ⟨done, found⟩
    · exact absurd last (Nat.ne_of_lt (Nat.lt_succ_of_le now))

/-- A count that only goes down decides the answer at the last regular look. -/
theorem course_drained (since timeout : Nat) {counts : Nat → Nat → Nat}
    (down : Antitone fun look => counts look lane) :
    let d := (single lane since timeout).course counts (lastLook timeout + 1)
    d.isOver = true ∧ (d.drained = false ↔ counts (lastRegular timeout) lane ≠ 0) := by
  dsimp only
  rcases course_cases lane since counts (Nat.le_refl (lastLook timeout + 1)) with
    ⟨_, early, _⟩ | ⟨done, drained, look, regular, empty⟩ | ⟨done, failed, _, busy⟩
  · exact absurd early (Nat.not_succ_le_self _)
  · have last : counts (lastRegular timeout) lane = 0 := Nat.le_zero.mp (empty ▸ down regular)
    exact ⟨List.isEmpty_iff.mpr done, by rw [drained]; simp [last]⟩
  · exact ⟨List.isEmpty_iff.mpr done, by rw [failed]; simp [busy _ (Nat.le_refl _)]⟩

end Drain

namespace Traffic

/-- A message on the lane is under way. -/
def Busy (t : Traffic) (lane : Nat) : Prop :=
  ∃ c ∈ t.calls, c.lane = lane ∧ c.progress.hasEnded = false

instance (t : Traffic) (lane : Nat) : Decidable (t.Busy lane) :=
  inferInstanceAs (Decidable (∃ c ∈ t.calls, c.lane = lane ∧ c.progress.hasEnded = false))

theorem Sound.busy_iff {t : Traffic} (sound : Sound t) (lane : Nat) :
    t.Busy lane ↔ t.inflight lane ≠ 0 := by
  rw [sound.inflight, ← Nat.pos_iff_ne_zero, underWay, List.countP_pos_iff]
  simp only [Busy, Bool.and_eq_true, decide_eq_true_eq, Bool.not_eq_true']

/-! ### Lanes in the course of time -/

/-- Traffic after so many milliseconds, with everything that happens up to the last of them. -/
def after (t : Traffic) (happens : Nat → List Event) (millis : Nat) : Traffic :=
  t.run ((List.range (millis + 1)).flatMap happens)

theorem after_succ (t : Traffic) (happens : Nat → List Event) (millis : Nat) :
    t.after happens (millis + 1) = (t.after happens millis).run (happens (millis + 1)) := by
  unfold after
  rw [List.range_succ, List.flatMap_append, run_append, List.flatMap_singleton]

theorem Sound.after {t : Traffic} (sound : Sound t) (happens : Nat → List Event) (millis : Nat) :
    Sound (t.after happens millis) :=
  sound.run _

variable {t : Traffic} {happens : Nat → List Event} {lane : Nat}

theorem Stopped.after (stopped : t.Stopped lane) (quiet : ∀ millis, .start lane ∉ happens millis)
    (millis : Nat) : (t.after happens millis).Stopped lane := by
  refine (stopped.run fun e member same => ?_).1
  obtain ⟨millis, _, started⟩ := List.mem_flatMap.mp (same ▸ member)
  exact quiet millis started

theorem Stopped.after_inflight (stopped : t.Stopped lane)
    (quiet : ∀ millis, .start lane ∉ happens millis) :
    Antitone fun millis => (t.after happens millis).inflight lane := by
  refine antitone_nat_of_succ_le fun millis => ?_
  rw [after_succ]
  refine ((stopped.after quiet millis).run fun e member same => ?_).2
  exact quiet _ (same ▸ member)

end Traffic
end EdgeGateway

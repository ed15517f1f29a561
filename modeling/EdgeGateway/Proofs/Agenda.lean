import EdgeGateway.Agenda

/-!
# What all turns of a schedule have in common

A schedule only polls its tasks and sets its agenda. A relation that holds across each of these holds
across everything it does.
-/

namespace EdgeGateway

namespace Agenda

variable {τ : Type} [DecidableEq τ]

@[simp] theorem wake_now (a : Agenda τ) (task : τ) : (a.wake task).now = a.now := by
  unfold wake
  split <;> rfl

@[simp] theorem wakeAll_now (a : Agenda τ) (tasks : List τ) : (a.wakeAll tasks).now = a.now := by
  unfold wakeAll
  induction tasks generalizing a with
  | nil => rfl
  | cons task tasks ih => rw [List.foldl_cons, ih, wake_now]

theorem mem_wake {a : Agenda τ} {task other : τ} :
    other ∈ (a.wake task).ready ↔ other ∈ a.ready ∨ other = task := by
  unfold wake
  split
  next there =>
    rw [List.contains_iff_mem] at there
    exact ⟨.inl, fun either => either.elim id fun same => same ▸ there⟩
  next => simp

theorem mem_wakeAll {a : Agenda τ} {tasks : List τ} {other : τ} :
    other ∈ (a.wakeAll tasks).ready ↔ other ∈ a.ready ∨ other ∈ tasks := by
  unfold wakeAll
  induction tasks generalizing a with
  | nil => simp
  | cons task tasks ih => rw [List.foldl_cons, ih, mem_wake, List.mem_cons, or_assoc]

/-- Time only makes more tasks ready. -/
theorem mem_moveTo {a : Agenda τ} {task : τ} (ready : task ∈ a.ready) (time : Nat) :
    task ∈ (a.moveTo time).ready :=
  mem_wakeAll.mpr (.inl ready)

@[simp] theorem moveTo_now (a : Agenda τ) (time : Nat) : (a.moveTo time).now = time := wakeAll_now _ _

end Agenda

namespace Schedule

variable {σ τ : Type} {s : Schedule σ τ} {R : σ → σ → Prop}

/-- Everything settles by turns of ready tasks. -/
theorem settleWithin_turns (refl : ∀ w, R w w) (trans : ∀ {u v w}, R u v → R v w → R u w)
    (turn : ∀ w task rest, (s.agenda w).ready = task :: rest →
      R w (s.poll (s.setAgenda w { s.agenda w with ready := rest }) task)) (fuel : Nat) (w : σ) :
    R w (s.settleWithin fuel w) := by
  induction fuel generalizing w with
  | zero => exact refl w
  | succ fuel ih =>
    unfold settleWithin
    dsimp only
    cases ready : (s.agenda w).ready with
    | nil => exact refl w
    | cons task rest => exact trans (turn w task rest ready) (ih _)

theorem settleWithin_rel (refl : ∀ w, R w w) (trans : ∀ {u v w}, R u v → R v w → R u w)
    (start : ∀ w ready, R w (s.setAgenda w { s.agenda w with ready }))
    (poll : ∀ w task, R w (s.poll w task)) (fuel : Nat) (w : σ) : R w (s.settleWithin fuel w) :=
  settleWithin_turns refl trans (fun w task rest _ => trans (start w rest) (poll _ task)) fuel w

variable [DecidableEq τ]

/-- Time advances by turns of ready tasks and by waking the tasks that are to wake. -/
theorem advanceTo_turns (refl : ∀ w, R w w) (trans : ∀ {u v w}, R u v → R v w → R u w)
    (turn : ∀ w task rest, (s.agenda w).ready = task :: rest →
      R w (s.poll (s.setAgenda w { s.agenda w with ready := rest }) task))
    (pass : ∀ w time, R w (s.setAgenda w ((s.agenda w).moveTo time))) (w : σ) (time : Nat) :
    R w (s.advanceTo w time) := by
  have move (w : σ) (time : Nat) : R w (s.moveTo w time) :=
    trans (pass w time) (settleWithin_turns refl trans turn turns _)
  have advance (fuel : Nat) (w : σ) : R w (s.advanceWithin time fuel w) := by
    induction fuel generalizing w with
    | zero => exact refl w
    | succ fuel ih =>
      unfold advanceWithin
      cases (s.agenda w).nextTime? with
      | none => exact refl w
      | some next =>
        dsimp only
        split
        · exact trans (move w next) (ih _)
        · exact refl w
  exact trans (advance turns w) (move _ time)

theorem advanceTo_rel (refl : ∀ w, R w w) (trans : ∀ {u v w}, R u v → R v w → R u w)
    (set : ∀ w a, R w (s.setAgenda w a)) (poll : ∀ w task, R w (s.poll w task)) (w : σ)
    (time : Nat) : R w (s.advanceTo w time) :=
  advanceTo_turns refl trans (fun w task _ _ => trans (set w _) (poll _ task))
    (fun w _ => set w _) w time

/-- Time passes as far as it was told to, if polling does not touch it. -/
theorem advanceTo_now (setAgenda : ∀ w a, s.agenda (s.setAgenda w a) = a)
    (poll : ∀ w task, (s.agenda (s.poll w task)).now = (s.agenda w).now) (w : σ) (time : Nat) :
    (s.agenda (s.advanceTo w time)).now = time := by
  have settled := settleWithin_rel (R := fun w v => (s.agenda v).now = (s.agenda w).now)
    (fun _ => rfl) (fun first second => second.trans first)
    (fun w ready => by rw [setAgenda]) poll turns
  unfold advanceTo moveTo settle
  rw [settled, setAgenda, Agenda.moveTo_now]

end Schedule
end EdgeGateway

import EdgeGateway.Proofs.Bridge.Calls
import EdgeGateway.Proofs.Bridge.Completion
import EdgeGateway.Proofs.Bridge.Lanes

/-!
# Refused messages

A message offered to a lane that does not run is done with at once: it is reported as refused and no
target ever gets it. What is offered to a stopped lane that is not started meets this end.
-/

namespace EdgeGateway.Traffic

/-! ### Offers of a later part of a run -/

section Later
variable {t : Traffic} {es : List Event} {lane : Nat} {o : Offer}

theorem forward_of_offer (offered : o ∈ gather offersOf t es) :
    ∃ m ack, .forward o.lane m ack ∈ es := by
  induction es generalizing t with
  | nil => cases offered
  | cons e es ih =>
    rcases List.mem_append.mp offered with now | later
    · rcases offersOf_cases t e with none_new | ⟨lane, m, ack, l, rfl, _, one⟩
      · rw [none_new] at now
        cases now
      · rw [one, List.mem_singleton] at now
        subst now
        exact ⟨m, ack, List.mem_cons_self⟩
    · obtain ⟨m, ack, member⟩ := ih later
      exact ⟨m, ack, List.mem_cons_of_mem e member⟩

theorem Stopped.offer (stopped : t.Stopped lane) (kept : ∀ e ∈ es, e ≠ .start lane)
    (offered : o ∈ gather offersOf t es) (here : o.lane = lane) : o.running = false := by
  induction es generalizing t with
  | nil => cases offered
  | cons e es ih =>
    rcases List.mem_append.mp offered with now | later
    · rcases offersOf_cases t e with none_new | ⟨at_lane, m, ack, l, _, present, one⟩
      · rw [none_new] at now
        cases now
      · rw [one, List.mem_singleton] at now
        subst now here
        obtain ⟨l', present', off⟩ := stopped
        obtain rfl := Option.some.inj (present.symm.trans present')
        exact off
    · exact ih (stopped.step (kept e List.mem_cons_self))
        (fun e' member => kept e' (List.mem_cons_of_mem e member)) later

end Later

/-! ### The end of a refused message -/

theorem handoversOf_absent {t : Traffic} {e : Event} {i : Nat} (absent : (t.step e).inHands? i = none) :
    valuesAt (handoversOf t e) i = [] := by
  unfold handoversOf
  split
  next j about =>
    split
    · rw [valuesAt_map]
      split
      next same => rw [same, absent]; rfl
      next => rfl
    · rfl
  · rfl

/-- The target of a lane that did not run when a message was offered never gets it. -/
theorem handedOn_of_refused {es : List Event} {i : Nat} {o : Offer} (offered : (offers es)[i]? = some o)
    (off : o.running = false) : handedOn es i = [] := by
  induction es using List.reverseRecOn with
  | nil => rfl
  | append_singleton es e ih =>
    have before : handedOn es i = [] := by
      rcases Nat.lt_or_ge i (offers es).length with old | new
      · rw [offers_concat, List.getElem?_append_left old] at offered
        exact ih offered
      · rw [(run_answers es).length_eq] at new
        exact valuesAt_absent fun p member => Nat.lt_of_lt_of_le ((run_known es).2 p member) new
    obtain ⟨c, known, _, _, refused⟩ := forall₂_getElem? (run_answers (es ++ [e])) offered
    rw [run_concat] at known
    rw [handedOn_concat, before, List.nil_append]
    refine handoversOf_absent ?_
    rw [inHands?_of_known known, refused.mpr off]
    rfl

/-- An offer that was refused: its call is at an end, it was reported as a permanent failure, and no
target ever gets the message. -/
structure TurnedAway (es : List Event) (i : Nat) (o : Offer) : Prop where
  ended : ∃ c, (run {} es).calls[i]? = some c ∧ c.lane = o.lane ∧
    c.progress = .ended (.dropped .stopped)
  reports : reportsOn es i = [{ ack := o.ack, permanentFailure := true }]
  handedOn : handedOn es i = []

theorem turnedAway_of_stopped {es : List Event} {i : Nat} {o : Offer}
    (offered : (offers es)[i]? = some o) (off : o.running = false) : TurnedAway es i o := by
  obtain ⟨c, known, lane, ack, refused⟩ := forall₂_getElem? (run_answers es) offered
  have ended := refused.mpr off
  refine ⟨⟨c, known, lane, ended⟩, ?_, handedOn_of_refused offered off⟩
  have report := (run_reported es).once i
  rw [known, Option.bind_some, Call.report?, ended, ack] at report
  exact report

end EdgeGateway.Traffic

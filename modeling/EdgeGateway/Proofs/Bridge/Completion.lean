import EdgeGateway.Proofs.Bridge.Management

/-!
# Exactly one report for every message

A message is reported when it is done with, whichever way it ends: refused, dropped, delivered,
failed or given up. `Ends` says what brings it to its end, `ExactlyOnce` that it has been reported then
and not before, and `completed_exactly_once` that both hold after every history.
-/

namespace EdgeGateway.Traffic

/-! ### Ends -/

section Ends
variable {t : Traffic} {i : Nat} {c : Call} {o : ForwardOutcome} {m : Message}

theorem finish_outcome (known : t.calls[i]? = some c) (call : Call) (o : ForwardOutcome) :
    (t.finish i call o).outcome? i = some o := by
  rw [outcome?, finish_calls, List.getElem?_modify_eq, known]
  rfl

theorem answered_of_handedOver (known : t.calls[i]? = some c) (waiting : c.progress = .handedOver m)
    (result : Except PublishFault Unit) :
    t.answered i result = t.finish i c (settlement result) := by
  rw [answered, known]
  simp only [waiting]

theorem answered_of_ended (known : t.calls[i]? = some c) (ended : c.progress = .ended o)
    (result : Except PublishFault Unit) : t.answered i result = t := by
  rw [answered, known]
  simp only [ended]

/-- However far a message has come, the answers of the interceptor and the target bring it to an
end. -/
theorem answers_end (known : t.calls[i]? = some c) (answer : Except InterceptFault Interception)
    (connected : Bool) (result : Except PublishFault Unit) :
    ∃ o, (t.run [.intercepted i answer connected, .answered i result]).outcome? i = some o := by
  change ∃ o, ((t.intercepted i answer connected).answered i result).outcome? i = some o
  rw [intercepted, known]
  dsimp only
  cases progress : c.progress with
  | ended o =>
    rw [answered_of_ended known progress, outcome?, known]
    exact ⟨o, congrArg Progress.outcome? progress⟩
  | handedOver m =>
    rw [answered_of_handedOver known progress]
    exact ⟨_, finish_outcome known c _⟩
  | candidate m =>
    cases passedOn answer connected with
    | ok m =>
      have now : (t.setProgress i (.handedOver m)).calls[i]? =
          some { c with progress := .handedOver m } := by
        rw [setProgress_calls, List.getElem?_modify_eq, known]
        rfl
      exact ⟨_, answered_of_handedOver now rfl result ▸ finish_outcome now _ _⟩
    | error o =>
      have now : (t.finish i c o).calls[i]? = some { c with progress := .ended o } := by
        rw [finish_calls, List.getElem?_modify_eq, known]
        rfl
      exact ⟨o, answered_of_ended now rfl result ▸ finish_outcome known c o⟩

end Ends

/-! ### Reports -/

/-- After these events every message done with has been reported once, every other one not at all,
and each lane counts the others. -/
structure ExactlyOnce (es : List Event) : Prop where
  /-- Every offer has become a call of its own. -/
  calls : List.Forall₂ (fun (o : Offer) (c : Call) => c.lane = o.lane ∧ c.ack = o.ack) (offers es)
    (run {} es).calls
  /-- All reports are among those made for some call. -/
  made : (reports es).map Prod.snd = (run {} es).completions
  /-- A report is a permanent failure if the lane did not run when the message was offered. -/
  once : ∀ i o, (offers es)[i]? = some o →
    reportsOn es i = match (run {} es).outcome? i with
      | some _ => [{ ack := o.ack, permanentFailure := !o.running }]
      | none => []
  others : ∀ i, (offers es).length ≤ i → reportsOn es i = []
  /-- What a lane counts are the messages offered while it ran that are not done with. -/
  inflight : ∀ lane, (run {} es).inflight lane =
    ((offers es).zip (run {} es).calls).countP fun (o, c) =>
      o.lane = lane && o.running && c.progress.outcome?.isNone
  /-- The count that goes down with the end of a message is never zero before. -/
  positive : ∀ i o, (offers es)[i]? = some o → (run {} es).outcome? i = none →
    0 < (run {} es).inflight o.lane

/-- The one report of a call that answers an offer. -/
theorem Answers.report {o : Offer} {c : Call} (answers : Answers o c) :
    c.report?.toList = match c.progress.outcome? with
      | some _ => [{ ack := o.ack, permanentFailure := !o.running }]
      | none => [] := by
  obtain ⟨_, ack, refused⟩ := answers
  cases progress : c.progress with
  | candidate | handedOver => simp [Call.report?, Progress.outcome?, progress]
  | ended outcome =>
    rw [progress, Progress.ended.injEq] at refused
    have flag : decide (outcome = .dropped .stopped) = !o.running := by
      cases running : o.running <;> simp [refused, running]
    simp only [Call.report?, Progress.outcome?, progress, Option.map_some, Option.toList_some, ack,
      flag]

/-- A message under way was offered to a lane that ran. -/
theorem Answers.waiting {o : Offer} {c : Call} (answers : Answers o c) :
    (!c.progress.hasEnded) = (o.running && c.progress.outcome?.isNone) := by
  obtain ⟨_, _, refused⟩ := answers
  cases running : o.running with
  | false => rw [refused.mpr running]; rfl
  | true => cases progress : c.progress <;> rfl

theorem run_exactlyOnce (es : List Event) : ExactlyOnce es := by
  have answers := run_answers es
  have reported := run_reported es
  have sound := run_sound es
  constructor
  · exact answers.imp fun _ _ answer => ⟨answer.1, answer.2.1⟩
  · exact reported.made
  · intro i o offered
    obtain ⟨c, found, answer⟩ := forall₂_getElem? answers offered
    rw [reportsOn, reported.once i, found, Option.bind_some, answer.report, outcome?, found,
      Option.bind_some]
  · intro i beyond
    have absent : (run {} es).calls[i]? = none :=
      List.getElem?_eq_none (answers.length_eq ▸ beyond)
    rw [reportsOn, reported.once i, absent]
    rfl
  · intro lane
    rw [sound.inflight]
    refine countP_zip answers fun o c answer => ?_
    rw [answer.waiting, answer.1]
    exact (Bool.and_assoc _ _ _).symm
  · intro i o offered open_
    obtain ⟨c, found, answer⟩ := forall₂_getElem? answers offered
    rw [outcome?, found, Option.bind_some] at open_
    rw [← answer.1]
    exact sound.inflight_pos found (by rw [Progress.hasEnded, open_]; rfl)

/-- How the messages end that have been offered up to now. -/
structure Ends (es : List Event) : Prop where
  /-- A message is refused at once if its lane does not run, and only then. -/
  refused : ∀ i o, (offers es)[i]? = some o →
    ((run {} es).outcome? i = some (.dropped .stopped) ↔ o.running = false)
  /-- Every message ends with the answers that it may wait for, -/
  answered : ∀ i < (offers es).length, ∀ answer connected result, ∃ outcome,
    (run {} (es ++ [.intercepted i answer connected, .answered i result])).outcome? i = some outcome
  /-- and when it is given up. -/
  givenUp : ∀ i < (offers es).length,
    (run {} (es ++ [.abort i])).outcome? i = some (((run {} es).outcome? i).getD .failed)
  /-- What is about other messages does not end it, -/
  apart : ∀ i e, e.call? (run {} es) ≠ some i →
    (run {} (es ++ [e])).outcome? i = (run {} es).outcome? i
  /-- and once it has ended, nothing changes that. -/
  final : ∀ i outcome, (run {} es).outcome? i = some outcome →
    ∀ more, (run {} (es ++ more)).outcome? i = some outcome

theorem run_ends (es : List Event) : Ends es := by
  have answers := run_answers es
  have call {i : Nat} (known : i < (offers es).length) : ∃ c, (run {} es).calls[i]? = some c :=
    ⟨_, List.getElem?_eq_getElem (answers.length_eq ▸ known)⟩
  constructor
  · intro i o offered
    obtain ⟨c, found, _, _, refused⟩ := forall₂_getElem? answers offered
    rw [← refused, outcome?, found, Option.bind_some]
    cases c.progress <;> simp [Progress.outcome?]
  · intro i known answer connected result
    obtain ⟨c, found⟩ := call known
    rw [run_append]
    exact answers_end found answer connected result
  · intro i known
    obtain ⟨c, found⟩ := call known
    rw [run_concat, abort_outcome, outcome?, found]
    rfl
  · intro i e other
    rw [run_concat]
    exact (step_change _ e).outcome?_eq other
  · intro i outcome ended more
    rw [run_append]
    exact run_invariant ended (fun _ _ _ before change => change.outcome?_some before) more

/-- Every message offered to a forwarder is reported exactly once when it has ended, whatever happens in
whatever order: refused at once, answered or given up. So is every message of a manager's run, also at
forwarders whose link has been replaced or removed while they had messages under way: they stay where
they are. -/
theorem completed_exactly_once :
    (∀ es : List Event, ExactlyOnce es ∧ Ends es) ∧
    ∀ actions : List BridgeManager.Action,
      let s := BridgeManager.State.run {} actions
      s.manager.traffic = run {} (BridgeManager.State.history {} actions) ∧
      ExactlyOnce (BridgeManager.State.history {} actions) ∧
      ∀ lane f more, s.manager.traffic.forwarder? lane = some f →
        (s.run more).manager.traffic.forwarder? lane = some f := by
  refine ⟨fun es => ⟨run_exactlyOnce es, run_ends es⟩, fun actions => ⟨?_, run_exactlyOnce _, ?_⟩⟩
  · exact BridgeManager.State.run_traffic {} actions
  · intro lane f more present
    rw [BridgeManager.State.run_traffic]
    exact run_forwarder _ present

end EdgeGateway.Traffic

import EdgeGateway.Adapter.Outbox
import EdgeGateway.Proofs.Lists
import EdgeGateway.Proofs.Table
import EdgeGateway.Proofs.Topic

/-!
# The account of a pipeline

Each call of a pipeline either fails at once or makes one publish, and each publish is answered once.
`Accounted` compares the counters with the list of the calls and with that of the answers; every event
keeps it (`Accounted.step`), and so does every run.
-/

namespace EdgeGateway

/-! ### One publish -/

/-- A call of a pipeline, with what its context provider answers. -/
structure PublishCall where
  now : Nat
  answer : ContextAnswer
  value : FieldValue
  subscription : FieldSubscription

namespace PublishCall

/-- The node comes first and then what the provider has, which is nothing if it fails. -/
def context (c : PublishCall) : List (String × String) :=
  ("node-id", c.subscription.nodeId) ::
    match c.answer with
    | .ok entries => entries
    | .error _ => []

def Valid (c : PublishCall) : Prop := Topic.ValidName c.subscription.topic

instance (c : PublishCall) : Decidable c.Valid := inferInstanceAs (Decidable (Topic.ValidName _))

end PublishCall

/-- A message as the subscription of a call asks for it. Its context has each key once, in order, with
the last value that was given for it. -/
structure Renders (p : Pipeline) (c : PublishCall) (m : Message) : Prop where
  valid : Topic.ValidName m.topic
  topic : m.topic = c.subscription.topic
  qos : m.qos = c.subscription.qos
  expiry : m.expiry = c.subscription.expiry
  payload : m.payload = p.mode.encode c.now c.value
  null : c.value.value = .null → m.payload = .empty
  properties : ∃ entries : List (String × String),
    m.properties = [⟨"adapter.id", p.protocolId⟩, ⟨"adapter.instance.id", p.adapterId⟩] ++
      entries.map (fun (name, value) => ⟨name, value⟩) ∧
    (entries.map (·.1)).Pairwise (· < ·) ∧
    ∀ key value, (key, value) ∈ entries ↔ Table.LastEntry c.context key value

theorem PayloadMode.encode_of_null (mode : PayloadMode) (now : Nat) {v : FieldValue}
    (null : v.value = .null) : mode.encode now v = .empty := by
  unfold encode
  rw [null]
  rfl

theorem Pipeline.publish_cases (p : Pipeline) (c : PublishCall) :
    (c.Valid ∧ ∃ made, p.publish c.now c.answer c.value c.subscription = .ok made ∧
      Renders p c made.message) ∨
    (¬ c.Valid ∧ ∃ fault, p.publish c.now c.answer c.value c.subscription = .error fault) := by
  unfold PublishCall.Valid
  rw [← Topic.checkName_iff]
  unfold publish AdapterPublish.Draft.build
  dsimp only [AdapterPublish.Draft.withContext]
  cases checked : Topic.checkName c.subscription.topic with
  | error fault => exact .inr ⟨by simp, _, rfl⟩
  | ok =>
    refine .inl ⟨rfl, _, rfl, ?_⟩
    exact {
      valid := Topic.checkName_iff.mp checked
      topic := rfl
      qos := rfl
      expiry := rfl
      payload := rfl
      null := PayloadMode.encode_of_null p.mode c.now
      properties := by
        have ascending := Table.ascending_ofList c.context
        exact ⟨(Table.ofList c.context).entries, rfl, ascending, fun key value =>
          ascending.find?_eq_some.symm.trans Table.find?_ofList⟩ }

namespace Outbox

def call (o : Outbox) (c : PublishCall) : Outbox × Except PublishFault Nat :=
  o.publish c.now c.answer c.value c.subscription

/-- A call either makes one publish or counts as failed. -/
theorem call_cases (o : Outbox) (c : PublishCall) :
    (c.Valid ∧ ∃ made, Renders o.pipeline c made.message ∧
      o.call c = ({ o with sends := o.sends ++ [{ publish := made }] }, .ok o.sends.length)) ∨
    (¬ c.Valid ∧ ∃ fault, o.call c =
      ({ o with counters.publishFailed := o.counters.publishFailed + 1 }, .error fault)) := by
  unfold call publish
  rcases o.pipeline.publish_cases c with ⟨valid, made, done, renders⟩ | ⟨invalid, fault, failed⟩
  · rw [done]
    exact .inl ⟨valid, made, renders, rfl⟩
  · rw [failed]
    exact .inr ⟨invalid, fault, rfl⟩

/-! ### The account -/

def Event.call? : Event → Option PublishCall
  | .publish now answer value subscription => some ⟨now, answer, value, subscription⟩
  | .answered .. => none

/-- The number of a publish that an event answers, with the answer. -/
def answers (o : Outbox) : Event → List (Nat × Except PublishFault Unit)
  | .publish .. => []
  | .answered number answer => match o.sends[number]? with
    | some send => if send.pending then [(number, answer)] else []
    | none => []

def pending (o : Outbox) : Nat := o.sends.countP (·.pending)

/-- What there is after some calls and answers. There is a publish for each call with a valid topic, in
their order; it has been answered, then once, or is pending. Counted are the answers and the other
calls. -/
structure Accounted (p : Pipeline) (calls : List PublishCall)
    (answers : List (Nat × Except PublishFault Unit)) (o : Outbox) : Prop where
  pipeline : o.pipeline = p
  sends : List.Forall₂ (fun c send => Renders p c send.publish.message)
    (calls.filter fun c => c.Valid) o.sends
  once : (answers.map (·.1)).Nodup
  answered : ∀ i, i ∈ answers.map (·.1) ↔ ∃ send, o.sends[i]? = some send ∧ send.pending = false
  pending : answers.length + o.pending = o.sends.length
  success : o.counters.publishSuccess = answers.countP (·.2.isOk)
  failed : o.counters.publishFailed =
    calls.countP (fun c => ¬ c.Valid) + answers.countP (! ·.2.isOk)

variable {p : Pipeline} {calls : List PublishCall} {given : List (Nat × Except PublishFault Unit)} {o : Outbox}

theorem accounted_empty (p : Pipeline) : Accounted p [] [] { pipeline := p } where
  pipeline := rfl
  sends := .nil
  once := .nil
  answered := by simp
  pending := rfl
  success := rfl
  failed := rfl

/-- A new publish is pending. -/
theorem answered_concat {sends : List Send} {made : AdapterPublish} {i : Nat} :
    (∃ send, (sends ++ [{ publish := made }])[i]? = some send ∧ send.pending = false) ↔
      ∃ send, sends[i]? = some send ∧ send.pending = false := by
  by_cases new : i = sends.length
  · subst new
    simp
  · rw [getElem?_concat_ne sends _ new]

theorem Accounted.call (accounted : Accounted p calls given o) (c : PublishCall) :
    Accounted p (calls ++ [c]) given (o.call c).1 := by
  rcases o.call_cases c with ⟨valid, made, renders, done⟩ | ⟨invalid, fault, failed⟩
  · rw [done]
    exact {
      accounted with
      sends := by
        rw [List.filter_append, List.filter_singleton, decide_eq_true valid]
        exact List.rel_append accounted.sends (.cons (accounted.pipeline ▸ renders) .nil)
      answered := fun i => (accounted.answered i).trans answered_concat.symm
      pending := by
        rw [Outbox.pending, List.countP_append, ← Nat.add_assoc, List.length_append]
        exact congrArg (· + 1) accounted.pending
      failed := by
        rw [List.countP_append, List.countP_singleton, decide_eq_false (not_not_intro valid)]
        exact accounted.failed }
  · rw [failed]
    exact {
      accounted with
      sends := by
        rw [List.filter_append, List.filter_singleton, decide_eq_false invalid, cond_false,
          List.append_nil]
        exact accounted.sends
      failed := by
        rw [List.countP_append, List.countP_singleton, decide_eq_true invalid, if_pos rfl,
          Nat.add_right_comm]
        exact congrArg (· + 1) accounted.failed }

/-- An answer that is taken leaves one publish less to wait for. -/
theorem countP_pending {sends : List Send} {number : Nat} {send : Send}
    (there : sends[number]? = some send) (waiting : send.pending = true) :
    (sends.modify number fun s => { s with pending := false }).countP (·.pending) + 1 =
      sends.countP (·.pending) := by
  simpa [waiting] using countP_modify (·.pending) (fun s : Send => { s with pending := false }) there

/-- Only the first answer to a publish counts. -/
theorem answered_cases (o : Outbox) (number : Nat) (answer : Except PublishFault Unit) :
    (∃ send, o.sends[number]? = some send ∧ send.pending = true ∧
      o.answers (.answered number answer) = [(number, answer)] ∧
      o.answered number answer = { o with
        sends := o.sends.modify number fun s => { s with pending := false }
        counters := o.counters.add 1 (.ofAnswer answer) }) ∨
    (o.answers (.answered number answer) = [] ∧ o.answered number answer = o) := by
  unfold answers answered
  dsimp only
  cases there : o.sends[number]? with
  | none => exact .inr ⟨rfl, rfl⟩
  | some send =>
    by_cases waiting : send.pending = true
    · refine .inl ⟨send, rfl, waiting, if_pos waiting, ?_⟩
      dsimp only
      rw [if_pos waiting, List.modify_eq_set_getElem?, there]
      rfl
    · exact .inr ⟨if_neg waiting, if_neg waiting⟩

theorem Accounted.answer (accounted : Accounted p calls given o) (number : Nat)
    (answer : Except PublishFault Unit) :
    Accounted p calls (given ++ o.answers (.answered number answer)) (o.answered number answer) := by
  rcases o.answered_cases number answer with ⟨send, there, waiting, taken, done⟩ | ⟨ignored, same⟩
  · rw [taken, done]
    -- What is pending has not been answered yet.
    have new : number ∉ given.map (·.1) := by
      intro before
      obtain ⟨other, found, settled⟩ := (accounted.answered number).mp before
      obtain rfl := Option.some.inj (there.symm.trans found)
      rw [waiting] at settled
      cases settled
    exact {
      pipeline := accounted.pipeline
      sends := forall₂_modify accounted.sends there fun _ renders => renders
      once := by
        rw [List.map_append, List.map_singleton, ← List.concat_eq_append]
        exact accounted.once.concat new
      answered := fun i => by
        rw [List.map_append, List.mem_append, accounted.answered, List.getElem?_modify]
        by_cases here : number = i
        · subst here
          simp [there]
        · simp [here, Ne.symm here]
      pending := by
        have one_less := countP_pending there waiting
        change _ = o.pending at one_less
        rw [List.length_append, List.length_modify, ← accounted.pending, ← one_less, Nat.add_assoc,
          Nat.add_comm _ 1]
        rfl
      success := by
        rw [List.countP_append, ← accounted.success]
        cases answer <;> rfl
      failed := by
        rw [List.countP_append, ← Nat.add_assoc, ← accounted.failed]
        cases answer <;> rfl }
  · rw [ignored, same, List.append_nil]
    exact accounted

theorem Accounted.step (accounted : Accounted p calls given o) (e : Event) :
    Accounted p (calls ++ e.call?.toList) (given ++ o.answers e) (o.step e) := by
  cases e with
  | publish now answer value subscription =>
    rw [answers, List.append_nil]
    exact accounted.call ⟨now, answer, value, subscription⟩
  | answered number answer =>
    rw [Event.call?, Option.toList_none, List.append_nil]
    exact accounted.answer number answer

theorem run_accounted (p : Pipeline) (events : List Event) :
    Accounted p (events.filterMap Event.call?) (yielded step answers { pipeline := p } events)
      (run { pipeline := p } events) := by
  induction events using List.reverseRecOn with
  | nil => exact accounted_empty p
  | append_singleton events e ih =>
    rw [List.filterMap_append, yielded_concat, run, List.foldl_concat]
    exact ih.step e

/-- Each call is counted, as a success or as a failure, or its publish is pending. -/
theorem Accounted.total (accounted : Accounted p calls given o) :
    calls.length = o.counters.publishSuccess + o.counters.publishFailed + o.pending := by
  have all_calls := List.length_eq_countP_add_countP (fun c : PublishCall => c.Valid) (l := calls)
  have all_answers := List.length_eq_countP_add_countP (fun a => a.2.isOk) (l := given)
  have one_each := accounted.sends.length_eq
  rw [← List.countP_eq_length_filter] at one_each
  have answered := accounted.pending
  rw [accounted.success, accounted.failed]
  simp only [decide_not, Bool.decide_eq_true] at all_calls all_answers ⊢
  omega

/-- In every run of calls and answers, whatever the order of the answers, a further call either makes one
publish or counts as failed. The publishes are those of the calls with a valid topic, each as its
subscription asks for it. None is answered twice. The calls are those counted as successes, those counted
as failures and the publishes that are pending; a success is counted for each publish that was accepted. -/
theorem publishes_are_accounted (p : Pipeline) (events : List Event) :
    let o := run { pipeline := p } events
    let calls := events.filterMap Event.call?
    let given := yielded step answers { pipeline := p } events
    (∀ c : PublishCall,
      (c.Valid ∧ ∃ made, Renders p c made.message ∧
        o.call c = ({ o with sends := o.sends ++ [{ publish := made }] }, .ok o.sends.length)) ∨
      (¬ c.Valid ∧ ∃ fault, o.call c =
        ({ o with counters.publishFailed := o.counters.publishFailed + 1 }, .error fault))) ∧
    List.Forall₂ (fun c send => Renders p c send.publish.message)
      (calls.filter fun c => c.Valid) o.sends ∧
    (given.map (·.1)).Nodup ∧
    (∀ i, i ∈ given.map (·.1) ↔ ∃ send, o.sends[i]? = some send ∧ send.pending = false) ∧
    calls.length = o.counters.publishSuccess + o.counters.publishFailed + o.pending ∧
    o.counters.publishSuccess = given.countP (·.2.isOk) ∧
    o.counters.publishFailed =
      calls.countP (fun c => ¬ c.Valid) + given.countP (! ·.2.isOk) := by
  intro o calls given
  have accounted := run_accounted p events
  refine ⟨fun c => ?_, accounted.sends, accounted.once, accounted.answered, accounted.total,
    accounted.success, accounted.failed⟩
  rcases o.call_cases c with ⟨valid, made, renders, done⟩ | failed
  · exact .inl ⟨valid, made, accounted.pipeline ▸ renders, done⟩
  · exact .inr failed

end Outbox
end EdgeGateway

import EdgeGateway.Broker
import EdgeGateway.Proofs.Lists

/-!
# Mailboxes

Everything that can happen to one mailbox, and its books: what has been taken out of it, what was lost
when its subscriber left and what still waits are together the messages that were due.
-/

namespace EdgeGateway.Mailbox

inductive Event where
  | unsubscribe
  | leave
  | take (count : Nat)
  | dispatch (m : Message)

def step (capacity : Nat) (box : Mailbox) : Event → Mailbox
  | .unsubscribe => { box with registered := false }
  | .leave => { box with attended := false, queue := [] }
  | .take count => if box.attended then { box with queue := box.queue.drop count } else box
  | .dispatch m => if Topic.checkName m.topic = .ok () then box.put capacity m else box

/-- What an event takes out of a mailbox. -/
def taken (box : Mailbox) : Event → List Message
  | .take count => if box.attended then box.queue.take count else []
  | _ => []

/-- What is lost with a subscriber who leaves. -/
def lost (box : Mailbox) : Event → List Message
  | .leave => box.queue
  | _ => []

/-- A message is due if its topic is valid and matches, and if the mailbox is registered, attended
and not full. -/
def due (capacity : Nat) (box : Mailbox) : Event → List Message
  | .dispatch m =>
    if Topic.checkName m.topic = .ok () ∧ Topic.matchesFilter m.topic box.filter = true ∧
        box.registered = true ∧ box.attended = true ∧ box.queue.length < capacity
    then [m] else []
  | _ => []

variable {box : Mailbox} {capacity : Nat}

theorem accepts_iff {topic : String} :
    box.accepts capacity topic = true ↔ Topic.matchesFilter topic box.filter = true ∧
      box.registered = true ∧ box.attended = true ∧ box.queue.length < capacity := by
  simp only [accepts, wants, Bool.and_eq_true, decide_eq_true_eq]
  constructor
  · rintro ⟨⟨⟨registered, fits⟩, attended⟩, room⟩
    exact ⟨fits, registered, attended, room⟩
  · rintro ⟨fits, registered, attended, room⟩
    exact ⟨⟨⟨registered, fits⟩, attended⟩, room⟩

theorem put_queue (box : Mailbox) (capacity : Nat) (m : Message) :
    (box.put capacity m).queue = box.queue ++ if box.accepts capacity m.topic then [m] else [] := by
  unfold put
  split
  · rfl
  · rw [List.append_nil]
    split <;> rfl

theorem put_attended (box : Mailbox) (capacity : Nat) (m : Message) :
    (box.put capacity m).attended = box.attended := by
  unfold put
  split
  · rfl
  · split <;> rfl

/-- A mailbox is taken off the list by a message for it, once its subscriber has left. -/
theorem put_registered (box : Mailbox) (capacity : Nat) (m : Message) :
    (box.put capacity m).registered = true ↔ box.registered = true ∧
      ¬ (Topic.matchesFilter m.topic box.filter = true ∧ box.attended = false) := by
  unfold put
  split
  next accepted =>
    obtain ⟨_, registered, attended, _⟩ := accepts_iff.mp accepted
    simp [registered, attended]
  next =>
    split
    next gone =>
      simp only [wants, Bool.and_eq_true, Bool.not_eq_true'] at gone
      obtain ⟨⟨_, fits⟩, left⟩ := gone
      simp [fits, left]
    next stays =>
      refine ⟨fun registered => ⟨registered, ?_⟩, And.left⟩
      rintro ⟨fits, left⟩
      exact stays (by simp [wants, registered, fits, left])

/-- The books of a mailbox. -/
structure Ledger (box : Mailbox) (taken lost due : List Message) : Prop where
  balance : taken ++ lost ++ box.queue = due
  attended : box.attended = true → lost = []
  left : box.attended = false → box.queue = []

theorem ledger_fresh (filter : String) : Ledger { filter } [] [] [] where
  balance := rfl
  attended := fun _ => rfl
  left := by intro left; cases left

/-- What an event moves in the books. -/
theorem queue_due (capacity : Nat) (left : box.attended = false → box.queue = []) (e : Event) :
    box.queue ++ box.due capacity e = box.taken e ++ box.lost e ++ (box.step capacity e).queue := by
  cases e with
  | unsubscribe => simp [due, taken, lost, step]
  | leave => simp [due, taken, lost, step]
  | take count =>
    cases attended : box.attended with
    | true => simp [due, taken, lost, step, attended]
    | false => simp [due, taken, lost, step, attended, left attended]
  | dispatch m =>
    change box.queue ++ box.due capacity (.dispatch m) = (box.step capacity (.dispatch m)).queue
    rw [due, step]
    by_cases valid : Topic.checkName m.topic = .ok ()
    · rw [if_pos valid, put_queue]
      by_cases accepted : box.accepts capacity m.topic = true
      · rw [if_pos ⟨valid, accepts_iff.mp accepted⟩, if_pos accepted]
      · rw [if_neg fun conditions => accepted (accepts_iff.mpr conditions.2), if_neg accepted]
    · rw [if_neg fun conditions => valid conditions.1, if_neg valid, List.append_nil]

theorem step_attended (e : Event) (attended : (box.step capacity e).attended = true) :
    box.attended = true ∧ box.lost e = [] := by
  cases e with
  | unsubscribe => exact ⟨attended, rfl⟩
  | leave => cases attended
  | take count =>
    refine ⟨?_, rfl⟩
    unfold step at attended
    dsimp only at attended
    split at attended <;> exact attended
  | dispatch m =>
    refine ⟨?_, rfl⟩
    unfold step at attended
    dsimp only at attended
    split at attended
    · rwa [put_attended] at attended
    · exact attended

/-- Nothing gets into or out of a mailbox whose subscriber has left. -/
theorem step_left (capacity : Nat) (left : box.attended = false) (e : Event) :
    (box.step capacity e).attended = false ∧ box.taken e = [] ∧ box.due capacity e = [] := by
  refine ⟨?_, ?_, ?_⟩
  · rw [← Bool.not_eq_true] at left ⊢
    exact fun attended => left (step_attended e attended).1
  · cases e <;> simp [taken, left]
  · cases e <;> simp [due, left]

/-- A mailbox whose subscriber has left is empty. -/
theorem step_queue (left : box.attended = false → box.queue = []) (e : Event)
    (gone : (box.step capacity e).attended = false) : (box.step capacity e).queue = [] := by
  cases attended : box.attended with
  | false =>
    obtain ⟨_, nothing_taken, nothing_due⟩ := step_left capacity attended e
    have moved := queue_due capacity left e
    rw [left attended, nothing_due, nothing_taken] at moved
    exact (List.append_eq_nil_iff.mp moved.symm).2
  | true =>
    cases e with
    | unsubscribe => cases attended.symm.trans gone
    | leave => rfl
    | take count =>
      rw [step, if_pos attended] at gone
      cases attended.symm.trans gone
    | dispatch m =>
      unfold step at gone
      dsimp only at gone
      split at gone
      · rw [put_attended, attended] at gone
        cases gone
      · cases attended.symm.trans gone

theorem Ledger.step {received gone owed : List Message} (ledger : Ledger box received gone owed)
    (e : Event) :
    Ledger (box.step capacity e) (received ++ box.taken e) (gone ++ box.lost e)
      (owed ++ box.due capacity e) where
  balance := by
    -- nothing is taken any more once something is lost
    have apart : box.taken e ++ gone = gone ++ box.taken e := by
      cases attended : box.attended with
      | true => rw [ledger.attended attended, List.append_nil, List.nil_append]
      | false => rw [(step_left capacity attended e).2.1, List.append_nil, List.nil_append]
    calc received ++ box.taken e ++ (gone ++ box.lost e) ++ (box.step capacity e).queue
      _ = received ++ (box.taken e ++ gone) ++ box.lost e ++ (box.step capacity e).queue := by
        simp only [List.append_assoc]
      _ = received ++ gone ++ (box.taken e ++ box.lost e ++ (box.step capacity e).queue) := by
        rw [apart]
        simp only [List.append_assoc]
      _ = received ++ gone ++ box.queue ++ box.due capacity e := by
        rw [← queue_due capacity ledger.left e, ← List.append_assoc]
      _ = owed ++ box.due capacity e := by rw [ledger.balance]
  attended := by
    intro still
    obtain ⟨attended, nothing_lost⟩ := step_attended e still
    rw [ledger.attended attended, nothing_lost]
    rfl
  left := step_queue ledger.left e

/-- The books of a mailbox that was new. -/
theorem run_ledger (capacity : Nat) (filter : String) (es : List Event) :
    Ledger (es.foldl (step capacity) { filter }) (yielded (step capacity) taken { filter } es)
      (yielded (step capacity) lost { filter } es)
      (yielded (step capacity) (due capacity) { filter } es) := by
  induction es using List.reverseRecOn with
  | nil => exact ledger_fresh filter
  | append_singleton es e ih =>
    rw [yielded_concat, yielded_concat, yielded_concat, List.foldl_append]
    exact ih.step e

end EdgeGateway.Mailbox

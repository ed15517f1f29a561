import EdgeGateway.Gateway.Basic
import EdgeGateway.Proofs.Broker.Mailbox

/-!
# Delivery by the local broker

Subscriptions come and go, messages are dispatched and taken, in any order. Each mailbox goes its own
way, as `Mailbox.step` has it, so that of the others a subscriber never sees anything but the messages
that are dispatched; its books are those that `Mailbox.run_ledger` balances.
-/

namespace EdgeGateway.Broker

/-! ### Operations -/

/-- Takes the first messages out of an attended mailbox. -/
def take (b : Broker) (number count : Nat) : Broker × Option (List Message) :=
  match b.mailbox? number with
  | some box =>
    if box.attended then
      (b.updateMailbox number fun box => { box with queue := box.queue.drop count },
        some (box.queue.take count))
    else (b, none)
  | none => (b, none)

def dispatch (b : Broker) (m : Message) : Broker × Except PublishFault Nat :=
  match checkMessage m with
  | .error fault => (b, .error fault)
  | .ok () => ((b.deliver m).1, .ok (b.deliver m).2)

inductive Operation where
  | subscribe (filter : String)
  | unsubscribe (number : Nat)
  | leave (number : Nat)
  | take (number count : Nat)
  | dispatch (m : Message)

def step (b : Broker) : Operation → Broker
  | .subscribe filter =>
    match b.subscribe filter with
    | .ok (b, _) => b
    | .error _ => b
  | .unsubscribe number => (b.unsubscribe number).1
  | .leave number => (b.leave number).1
  | .take number count => (b.take number count).1
  | .dispatch m => (b.dispatch m).1

def run (b : Broker) (ops : List Operation) : Broker := ops.foldl step b

theorem run_append (b : Broker) (ops ops' : List Operation) :
    b.run (ops ++ ops') = (b.run ops).run ops' := List.foldl_append ..

theorem run_concat (b : Broker) (ops : List Operation) (op : Operation) :
    b.run (ops ++ [op]) = (b.run ops).step op := b.run_append ops [op]

/-- What an operation is to the mailbox with a number. -/
def own (number : Nat) : Operation → Option Mailbox.Event
  | .subscribe _ => none
  | .unsubscribe n => if n = number then some .unsubscribe else none
  | .leave n => if n = number then some .leave else none
  | .take n count => if n = number then some (.take count) else none
  | .dispatch m => some (.dispatch m)

/-! ### Mailboxes -/

variable {b : Broker} {number n : Nat} {box : Mailbox}

theorem mailbox?_eq_some :
    b.mailbox? number = some box ↔ number ≠ 0 ∧ b.mailboxes[number - 1]? = some box := by
  unfold mailbox?
  split
  next zero => simp [zero]
  next positive => simp [positive]

theorem mailbox?_updateMailbox (present : b.mailbox? n = some box) (f : Mailbox → Mailbox) :
    (b.updateMailbox n f).mailbox? number = if n = number then some (f box) else b.mailbox? number := by
  obtain ⟨positive, there⟩ := mailbox?_eq_some.mp present
  unfold mailbox? updateMailbox
  by_cases zero : number = 0
  · have different : n ≠ number := fun same => positive (same.trans zero)
    rw [if_pos zero, if_neg different, if_pos zero]
  · rw [if_neg zero, if_neg zero, List.getElem?_modify]
    by_cases same : n = number
    · subst same
      rw [there, if_pos rfl]
      simp
    · have apart : n - 1 ≠ number - 1 := by omega
      simp [same, apart]

theorem updateMailbox_congr (present : b.mailbox? n = some box) {f g : Mailbox → Mailbox}
    (same : f box = g box) : b.updateMailbox n f = b.updateMailbox n g := by
  obtain ⟨_, there⟩ := mailbox?_eq_some.mp present
  rw [updateMailbox, updateMailbox, List.modify_eq_set_getElem?, List.modify_eq_set_getElem?, there]
  simp [same]

/-- To receive is to take everything. -/
theorem receive_eq_take (present : b.mailbox? number = some box) {count : Nat}
    (all : box.queue.length ≤ count) : b.receive number = b.take number count := by
  unfold receive take
  rw [present]
  dsimp only
  rw [List.take_of_length_le all]
  split
  · rw [updateMailbox_congr present (g := fun box => { box with queue := box.queue.drop count })]
    rw [List.drop_of_length_le all]
  · rfl

theorem mailbox?_subscribe {filter : String} {b' : Broker}
    (done : b.subscribe filter = .ok (b', n)) :
    n = b.mailboxes.length + 1 ∧ b'.capacity = b.capacity ∧
      b'.mailboxes.length = b.mailboxes.length + 1 ∧
      ∀ number, b'.mailbox? number = if number = n then some { filter } else b.mailbox? number := by
  unfold subscribe at done
  split at done
  · cases done
  · cases done
    refine ⟨rfl, rfl, List.length_append, fun number => ?_⟩
    unfold mailbox?
    by_cases zero : number = 0
    · simp [zero]
    · rw [if_neg zero, if_neg zero]
      by_cases last : number = b.mailboxes.length + 1
      · simp [last]
      · rw [if_neg last, getElem?_concat_ne _ _ (by omega)]

theorem mailbox?_deliver (b : Broker) (m : Message) (number : Nat) :
    (b.deliver m).1.mailbox? number = (b.mailbox? number).map (·.put b.capacity m) := by
  unfold deliver mailbox?
  split
  · rfl
  · exact List.getElem?_map

theorem mailbox?_above (above : b.mailboxes.length < number) : b.mailbox? number = none := by
  unfold mailbox?
  split
  · rfl
  · exact List.getElem?_eq_none (by omega)

theorem checkMessage_eq_ok {m : Message} :
    checkMessage m = .ok () ↔ Topic.checkName m.topic = .ok () := by
  unfold checkMessage
  cases Topic.checkName m.topic with
  | ok _ => simp
  | error fault => simp

theorem dispatch_valid {m : Message} (valid : Topic.checkName m.topic = .ok ()) :
    b.dispatch m = ((b.deliver m).1, .ok (b.deliver m).2) := by
  rw [dispatch, checkMessage_eq_ok.mpr valid]

theorem dispatch_invalid {m : Message} {fault : Topic.Fault}
    (invalid : Topic.checkName m.topic = .error fault) :
    b.dispatch m = (b, .error (.rejected (invalidTopicText m.topic fault))) := by
  rw [dispatch, checkMessage, invalid]

/-! ### Steps -/

/-- What changes in one mailbox leaves the others alone. -/
theorem mailbox?_changed (present : b.mailbox? number = some box) {box' : Mailbox} {e : Mailbox.Event}
    {f : Mailbox → Mailbox} (at_n : b.mailbox? n = some box') (same : f box' = box'.step b.capacity e) :
    (b.updateMailbox n f).mailbox? number =
      some ((if n = number then some e else none).elim box (box.step b.capacity)) := by
  rw [mailbox?_updateMailbox at_n]
  split
  next here =>
    subst here
    rw [present, Option.some.injEq] at at_n
    rw [same, at_n]
    rfl
  next => exact present

/-- A mailbox goes its own way. -/
theorem step_mailbox (present : b.mailbox? number = some box) (op : Operation) :
    (b.step op).mailbox? number = some ((own number op).elim box (box.step b.capacity)) := by
  have other {n : Nat} (absent : b.mailbox? n = none) (e : Mailbox.Event) : b.mailbox? number =
      some ((if n = number then some e else none).elim box (box.step b.capacity)) := by
    have different : n ≠ number := by
      rintro rfl
      rw [present] at absent
      cases absent
    rw [if_neg different]
    exact present
  cases op with
  | subscribe filter =>
    change (b.step (.subscribe filter)).mailbox? number = some box
    unfold step
    dsimp only
    split
    next b' n done =>
      obtain ⟨last, _, _, mailboxes⟩ := mailbox?_subscribe done
      have different : number ≠ n := by
        rintro rfl
        rw [mailbox?_above (by omega)] at present
        cases present
      rw [mailboxes, if_neg different]
      exact present
    next => exact present
  | unsubscribe n =>
    change (b.unsubscribe n).1.mailbox? number = _
    unfold unsubscribe
    cases at_n : b.mailbox? n with
    | none => exact other at_n .unsubscribe
    | some box' => exact mailbox?_changed present (e := .unsubscribe) at_n rfl
  | leave n =>
    change (b.leave n).1.mailbox? number = _
    unfold leave
    cases at_n : b.mailbox? n with
    | none => exact other at_n .leave
    | some box' => exact mailbox?_changed present (e := .leave) at_n rfl
  | take n count =>
    change (b.take n count).1.mailbox? number = _
    unfold take
    cases at_n : b.mailbox? n with
    | none => exact other at_n (.take count)
    | some box' =>
      dsimp only
      split
      next attended => exact mailbox?_changed present (e := .take count) at_n (if_pos attended).symm
      next left =>
        change b.mailbox? number =
          some ((if n = number then some (.take count) else none).elim box (box.step b.capacity))
        split
        next here =>
          rw [here, present, Option.some.injEq] at at_n
          have same : box.step b.capacity (.take count) = box := if_neg (at_n ▸ left)
          exact present.trans (congrArg some same.symm)
        next => exact present
  | dispatch m =>
    change (b.dispatch m).1.mailbox? number = some (box.step b.capacity (.dispatch m))
    rw [Mailbox.step]
    cases valid : Topic.checkName m.topic with
    | ok _ =>
      rw [dispatch_valid valid, mailbox?_deliver, present, if_pos rfl]
      rfl
    | error fault =>
      rw [dispatch_invalid valid, if_neg (by simp)]
      exact present

/-- What an operation can do to a broker. -/
theorem step_cases (b : Broker) (op : Operation) :
    b.step op = b ∨ (∃ n f, b.step op = b.updateMailbox n f) ∨
      (∃ m, b.step op = (b.deliver m).1) ∨
      ∃ filter b' n, op = .subscribe filter ∧ b.subscribe filter = .ok (b', n) ∧ b.step op = b' := by
  cases op with
  | subscribe filter =>
    cases done : b.subscribe filter with
    | error fault => exact .inl (by simp [step, done])
    | ok result =>
      obtain ⟨b', n⟩ := result
      exact .inr (.inr (.inr ⟨filter, b', n, rfl, done, by simp [step, done]⟩))
  | unsubscribe n =>
    unfold step unsubscribe
    dsimp only
    split
    · exact .inr (.inl ⟨_, _, rfl⟩)
    · exact .inl rfl
  | leave n =>
    unfold step leave
    dsimp only
    split
    · exact .inr (.inl ⟨_, _, rfl⟩)
    · exact .inl rfl
  | take n count =>
    unfold step take
    dsimp only
    split
    · split
      · exact .inr (.inl ⟨_, _, rfl⟩)
      · exact .inl rfl
    · exact .inl rfl
  | dispatch m =>
    unfold step dispatch
    dsimp only
    split
    · exact .inl rfl
    · exact .inr (.inr (.inl ⟨m, rfl⟩))

theorem step_capacity (b : Broker) (op : Operation) : (b.step op).capacity = b.capacity := by
  rcases step_cases b op with same | ⟨n, f, update⟩ | ⟨m, deliver⟩ | ⟨filter, b', n, _, done, same⟩
  · rw [same]
  · rw [update]
    rfl
  · rw [deliver]
    rfl
  · rw [same, (mailbox?_subscribe done).2.1]

theorem run_capacity (b : Broker) (ops : List Operation) : (b.run ops).capacity = b.capacity := by
  induction ops using List.reverseRecOn with
  | nil => rfl
  | append_singleton ops op ih => rw [run_concat, step_capacity, ih]

/-- The numbers that an operation gives out. -/
def numbersOf (b : Broker) : Operation → List Nat
  | .subscribe filter =>
    match b.subscribe filter with
    | .ok (_, number) => [number]
    | .error _ => []
  | _ => []

/-- A new mailbox gets the next number, and no other number is given out. -/
theorem step_numbers (b : Broker) (op : Operation) :
    ((b.step op).mailboxes.length = b.mailboxes.length + 1 ∧
      b.numbersOf op = [b.mailboxes.length + 1]) ∨
    ((b.step op).mailboxes.length = b.mailboxes.length ∧ b.numbersOf op = []) := by
  by_cases subscribes : ∃ filter, op = .subscribe filter
  · obtain ⟨filter, rfl⟩ := subscribes
    cases done : b.subscribe filter with
    | error fault => exact .inr ⟨by simp [step, done], by simp [numbersOf, done]⟩
    | ok result =>
      obtain ⟨b', n⟩ := result
      obtain ⟨rfl, _, length, _⟩ := mailbox?_subscribe done
      have stepped : b.step (.subscribe filter) = b' := by simp [step, done]
      rw [stepped]
      exact .inl ⟨length, by simp [numbersOf, done]⟩
  · refine .inr ⟨?_, ?_⟩
    · rcases step_cases b op with same | ⟨n, f, update⟩ | ⟨m, deliver⟩ | ⟨filter, _, _, same, _⟩
      · rw [same]
      · rw [update]
        exact List.length_modify ..
      · rw [deliver]
        exact List.length_map ..
      · exact absurd ⟨filter, same⟩ subscribes
    · cases op with
      | subscribe filter => exact absurd ⟨filter, rfl⟩ subscribes
      | _ => rfl

theorem step_length (b : Broker) (op : Operation) :
    b.mailboxes.length ≤ (b.step op).mailboxes.length := by
  rcases step_numbers b op with ⟨length, _⟩ | ⟨length, _⟩ <;> omega

/-- The mailboxes are numbered in the order in which they were made. -/
theorem run_numbers (capacity : Nat) (ops : List Operation) :
    yielded step numbersOf (ofCapacity capacity) ops =
      List.range' 1 ((ofCapacity capacity).run ops).mailboxes.length := by
  induction ops using List.reverseRecOn with
  | nil => rfl
  | append_singleton ops op ih =>
    rw [yielded_concat, ih, run_concat]
    change _ ++ numbersOf ((ofCapacity capacity).run ops) op = _
    rcases step_numbers ((ofCapacity capacity).run ops) op with ⟨length, numbers⟩ | ⟨length, numbers⟩
    · rw [length, numbers, List.range'_1_concat, Nat.add_comm 1]
    · rw [length, numbers, List.append_nil]

/-! ### Books -/

/-- What an operation does to the mailbox with a number, by one of the books. -/
def entry (number : Nat) (book : Mailbox → Mailbox.Event → List Message) (b : Broker)
    (op : Operation) : List Message :=
  match b.mailbox? number, own number op with
  | some box, some e => book box e
  | _, _ => []

/-- The messages that the subscriber with a number is given. -/
def receivedOf (number : Nat) (b : Broker) : Operation → List Message
  | .take n count => if n = number then (b.take n count).2.getD [] else []
  | _ => []

theorem entry_absent (absent : b.mailbox? number = none)
    (book : Mailbox → Mailbox.Event → List Message) (op : Operation) : entry number book b op = [] := by
  rw [entry, absent]

theorem entry_present (present : b.mailbox? number = some box)
    (book : Mailbox → Mailbox.Event → List Message) (op : Operation) :
    entry number book b op = (own number op).elim [] (book box) := by
  rw [entry, present]
  cases own number op <;> rfl

theorem receivedOf_eq (number : Nat) : receivedOf number = entry number Mailbox.taken := by
  funext b op
  cases present : b.mailbox? number with
  | none =>
    rw [entry_absent present]
    cases op with
    | take n count =>
      rw [receivedOf]
      split
      next here =>
        subst here
        simp [take, present]
      next => rfl
    | _ => rfl
  | some box =>
    rw [entry_present present]
    cases op with
    | take n count =>
      rw [receivedOf, own]
      split
      next here =>
        subst here
        cases attended : box.attended <;> simp [take, present, attended, Mailbox.taken]
      next => rfl
    | unsubscribe n =>
      rw [own]
      split <;> rfl
    | leave n =>
      rw [own]
      split <;> rfl
    | _ => rfl

/-- Nothing is in the books of a number that has not been given out. -/
theorem entries_above (book : Mailbox → Mailbox.Event → List Message) (b : Broker)
    (ops : List Operation) (above : (b.run ops).mailboxes.length < number) :
    yielded step (entry number book) b ops = [] := by
  induction ops using List.reverseRecOn with
  | nil => rfl
  | append_singleton ops op ih =>
    rw [run_concat] at above
    have earlier := Nat.lt_of_le_of_lt (step_length (b.run ops) op) above
    rw [yielded_concat, ih earlier, List.nil_append]
    exact entry_absent (mailbox?_above earlier) book op

/-- Of a run, a mailbox and its books only get what is its own. -/
theorem run_mailbox (present : b.mailbox? number = some box)
    (book : Mailbox → Mailbox.Event → List Message) (ops : List Operation) :
    (b.run ops).mailbox? number =
        some ((ops.filterMap (own number)).foldl (Mailbox.step b.capacity) box) ∧
      yielded step (entry number book) b ops =
        yielded (Mailbox.step b.capacity) book box (ops.filterMap (own number)) := by
  have along (c : Broker) (box : Mailbox) (op : Operation)
      (same : c.mailbox? number = some box ∧ c.capacity = b.capacity) :
      ((c.step op).mailbox? number =
          some ((own number op).elim box (Mailbox.step b.capacity box)) ∧
        (c.step op).capacity = b.capacity) ∧
      entry number book c op = (own number op).elim [] (book box) := by
    obtain ⟨there, capacity⟩ := same
    refine ⟨⟨?_, ?_⟩, entry_present there book op⟩
    · rw [step_mailbox there, capacity]
    · rw [step_capacity, capacity]
  obtain ⟨⟨after, _⟩, entries⟩ := yielded_filterMap
    (R := fun (c : Broker) box => c.mailbox? number = some box ∧ c.capacity = b.capacity)
    along ⟨present, rfl⟩ ops
  exact ⟨after, entries⟩

/-- A subscription begins with an empty mailbox and empty books. -/
theorem run_subscription {capacity : Nat} {before : List Operation} {filter : String} {b : Broker}
    (accepted : ((ofCapacity capacity).run before).subscribe filter = .ok (b, number))
    (after : List Operation) (book : Mailbox → Mailbox.Event → List Message) :
    ((ofCapacity capacity).run (before ++ .subscribe filter :: after)).mailbox? number =
        some ((after.filterMap (own number)).foldl (Mailbox.step (max capacity 1)) { filter }) ∧
      yielded step (entry number book) (ofCapacity capacity) (before ++ .subscribe filter :: after) =
        yielded (Mailbox.step (max capacity 1)) book { filter } (after.filterMap (own number)) := by
  obtain ⟨last, same_capacity, _, mailboxes⟩ := mailbox?_subscribe accepted
  have stepped : ((ofCapacity capacity).run before).step (.subscribe filter) = b := by
    simp [step, accepted]
  have room : b.capacity = max capacity 1 := by
    rw [same_capacity, run_capacity]
    rfl
  have above : ((ofCapacity capacity).run before).mailboxes.length < number := by omega
  have there : b.mailbox? number = some { filter } := by rw [mailboxes, if_pos rfl]
  obtain ⟨mailbox, entries⟩ := run_mailbox there book after
  rw [room] at mailbox entries
  constructor
  · rw [run_append]
    change (run (((ofCapacity capacity).run before).step (.subscribe filter)) after).mailbox? _ = _
    rw [stepped]
    exact mailbox
  · rw [yielded_append, entries_above book _ _ above, List.nil_append]
    change entry number book ((ofCapacity capacity).run before) _ ++
      yielded step _ (((ofCapacity capacity).run before).step (.subscribe filter)) after = _
    rw [entry_absent (mailbox?_above above), stepped, List.nil_append]
    exact entries

/-- What is dispatched with an operation. -/
def dispatched : Operation → List Message
  | .dispatch m => [m]
  | _ => []

/-- A message is due at most once each time it is dispatched, and in that order. -/
theorem due_sublist (number room : Nat) (b : Broker) (ops : List Operation) :
    (yielded step (entry number (Mailbox.due room)) b ops).Sublist (ops.flatMap dispatched) := by
  induction ops generalizing b with
  | nil => exact List.Sublist.refl []
  | cons op ops ih =>
    refine List.Sublist.append ?_ (ih (b.step op))
    cases present : b.mailbox? number with
    | none =>
      rw [entry_absent present]
      exact List.nil_sublist _
    | some box =>
      rw [entry_present present]
      cases op with
      | dispatch m =>
        change (Mailbox.due room box (.dispatch m)).Sublist [m]
        unfold Mailbox.due
        dsimp only
        split
        · exact List.Sublist.refl [m]
        · exact List.nil_sublist [m]
      | subscribe _ => exact List.nil_sublist _
      | unsubscribe n | leave n | take n _ =>
        rw [own]
        split <;> exact List.nil_sublist _

/-! ### Subscribers -/

/-- What the subscriber with a number is given in a run. -/
def received (capacity number : Nat) (ops : List Operation) : List Message :=
  yielded step (receivedOf number) (ofCapacity capacity) ops

/-- What is still waiting for the subscriber when it leaves. -/
def lost (capacity number : Nat) (ops : List Operation) : List Message :=
  yielded step (entry number Mailbox.lost) (ofCapacity capacity) ops

/-- What is dispatched while it matches and the mailbox is registered, attended and not full. -/
def due (capacity number : Nat) (ops : List Operation) : List Message :=
  yielded step (entry number (Mailbox.due (max capacity 1))) (ofCapacity capacity) ops

/-- How a subscriber has been served. The events are its own doing and what has been dispatched since
it came; nothing depends on the mailboxes of others. -/
structure Served (capacity number : Nat) (ops : List Operation) (filter : String)
    (events : List Mailbox.Event) (box : Mailbox) : Prop where
  mailbox : box = events.foldl (Mailbox.step (max capacity 1)) { filter }
  received_apart : received capacity number ops =
    yielded (Mailbox.step (max capacity 1)) Mailbox.taken { filter } events
  due_apart : due capacity number ops =
    yielded (Mailbox.step (max capacity 1)) (Mailbox.due (max capacity 1)) { filter } events
  in_order : (due capacity number ops).Sublist (ops.flatMap dispatched)
  staying : box.attended = true →
    received capacity number ops ++ box.queue = due capacity number ops
  gone : box.attended = false → box.queue = [] ∧
    received capacity number ops ++ lost capacity number ops = due capacity number ops

theorem served {capacity : Nat} {before : List Operation} {filter : String} {b : Broker}
    (accepted : ((ofCapacity capacity).run before).subscribe filter = .ok (b, number))
    (after : List Operation) :
    ∃ box, ((ofCapacity capacity).run (before ++ .subscribe filter :: after)).mailbox? number =
        some box ∧
      Served capacity number (before ++ .subscribe filter :: after) filter
        (after.filterMap (own number)) box := by
  obtain ⟨mailbox, taken_own⟩ := run_subscription accepted after Mailbox.taken
  obtain ⟨_, lost_own⟩ := run_subscription accepted after Mailbox.lost
  obtain ⟨_, due_own⟩ := run_subscription accepted after (Mailbox.due (max capacity 1))
  rw [← receivedOf_eq] at taken_own
  have ledger := Mailbox.run_ledger (max capacity 1) filter (after.filterMap (own number))
  rw [← taken_own, ← lost_own, ← due_own] at ledger
  refine ⟨_, mailbox, rfl, taken_own, due_own, due_sublist .., fun staying => ?_, fun gone => ?_⟩
  · have balance := ledger.balance
    rw [ledger.attended staying, List.append_nil] at balance
    exact balance
  · have balance := ledger.balance
    rw [ledger.left gone, List.append_nil] at balance
    exact ⟨ledger.left gone, balance⟩

/-! ### Dispatching -/

theorem put_extends (box : Mailbox) (capacity : Nat) (m : Message) :
    box.queue.length < (box.put capacity m).queue.length ↔ box.accepts capacity m.topic = true := by
  rw [Mailbox.put_queue]
  split
  next accepted => simp [accepted]
  next refused => simp [refused]

/-- The number that is returned is that of the queues that have become longer. -/
theorem deliver_count (b : Broker) (m : Message) :
    (b.deliver m).2 = (b.mailboxes.zip (b.deliver m).1.mailboxes).countP
      fun (before, after) => before.queue.length < after.queue.length := by
  change (b.mailboxes.filter (·.accepts b.capacity m.topic)).length =
    (b.mailboxes.zip (b.mailboxes.map (·.put b.capacity m))).countP _
  induction b.mailboxes with
  | nil => rfl
  | cons box boxes ih =>
    rw [List.filter_cons, List.map_cons, List.zip_cons_cons, List.countP_cons, ← ih]
    simp only [decide_eq_true_eq, put_extends]
    split <;> rfl

end EdgeGateway.Broker

namespace EdgeGateway.Gateway

/-- What becomes of a message that is dispatched. -/
structure Dispatched (g : Gateway) (m : Message) : Prop where
  broker : (g.dispatch m).2 = (g.broker.dispatch m).2 ∧
    (g.dispatch m).1.broker.mailboxes = (g.broker.step (.dispatch m)).mailboxes
  extended : Topic.checkName m.topic = .ok () →
    (g.dispatch m).2 = .ok ((g.broker.mailboxes.zip (g.dispatch m).1.broker.mailboxes).countP
      fun (before, after) => before.queue.length < after.queue.length)
  removed : Topic.checkName m.topic = .ok () → ∀ number box, g.broker.mailbox? number = some box →
    ∃ after, (g.dispatch m).1.broker.mailbox? number = some after ∧
      (after.registered = true ↔ box.registered = true ∧
        ¬ (Topic.matchesFilter m.topic box.filter = true ∧ box.attended = false))
  refused : ∀ fault, Topic.checkName m.topic = .error fault →
    g.dispatch m = (g, .error (.rejected (invalidTopicText m.topic fault)))

variable {g : Gateway} {m : Message}

theorem dispatch_refused {fault : Topic.Fault} (invalid : Topic.checkName m.topic = .error fault) :
    g.dispatch m = (g, .error (.rejected (invalidTopicText m.topic fault))) := by
  rw [dispatch, Broker.checkMessage, invalid]

theorem dispatch_accepted (valid : Topic.checkName m.topic = .ok ()) :
    (g.dispatch m).2 = .ok (g.broker.deliver m).2 ∧
      (g.dispatch m).1.broker.mailboxes = (g.broker.deliver m).1.mailboxes := by
  rw [dispatch, Broker.checkMessage_eq_ok.mpr valid]
  dsimp only
  split <;> exact ⟨rfl, rfl⟩

theorem dispatched (g : Gateway) (m : Message) : g.Dispatched m where
  broker := by
    cases valid : Topic.checkName m.topic with
    | ok _ =>
      rw [Broker.step, Broker.dispatch_valid valid]
      exact dispatch_accepted valid
    | error fault =>
      rw [Broker.step, Broker.dispatch_invalid valid, dispatch_refused valid]
      exact ⟨rfl, rfl⟩
  extended := by
    intro valid
    obtain ⟨count, mailboxes⟩ := g.dispatch_accepted valid
    rw [count, mailboxes, Broker.deliver_count]
  removed := by
    intro valid number box present
    obtain ⟨_, mailboxes⟩ := g.dispatch_accepted valid
    refine ⟨box.put g.broker.capacity m, ?_, box.put_registered _ m⟩
    have delivered := g.broker.mailbox?_deliver m number
    rw [present] at delivered
    rw [Broker.mailbox?, mailboxes]
    exact delivered
  refused := fun _ => dispatch_refused

end EdgeGateway.Gateway

namespace EdgeGateway.Broker

/-- Every subscriber is served apart from the others; what it is given and what still waits for it
are the messages that were due, unless it leaves while some are waiting: those are lost. -/
theorem subscribers_are_served (capacity : Nat) (ops : List Operation) :
    (∀ before filter after b number, ops = before ++ .subscribe filter :: after →
      ((ofCapacity capacity).run before).subscribe filter = .ok (b, number) →
      ∃ box, ((ofCapacity capacity).run ops).mailbox? number = some box ∧
        Served capacity number ops filter (after.filterMap (own number)) box) ∧
    (yielded step numbersOf (ofCapacity capacity) ops).Nodup ∧
    (∀ (b : Broker) number box, b.mailbox? number = some box →
      b.receive number = b.take number box.queue.length) ∧
    ∀ (g : Gateway) (m : Message), g.Dispatched m := by
  refine ⟨?_, ?_, ?_, Gateway.dispatched⟩
  · rintro before filter after b number rfl accepted
    exact served accepted after
  · rw [run_numbers]
    exact List.nodup_range'
  · intro b number box present
    exact receive_eq_take present (Nat.le_refl _)

/-- A subscriber takes a message and leaves. -/
theorem first_subscriber_is_served :
    let came : List Operation :=
      [.subscribe "a", .dispatch { topic := "a" }, .take 1 1, .leave 1]
    (∃ b, (ofCapacity 2).subscribe "a" = .ok (b, 1)) ∧
      ∃ box, ((ofCapacity 2).run came).mailbox? 1 = some box ∧
        Served 2 1 came "a" [.dispatch { topic := "a" }, .take 1, .leave] box := by
  intro came
  have accepted : (ofCapacity 2).subscribe "a" =
      .ok ({ capacity := 2, mailboxes := [{ filter := "a" }] }, 1) := rfl
  exact ⟨⟨_, accepted⟩, (subscribers_are_served 2 came).1 [] "a" _ _ 1 rfl accepted⟩

/-- What is waiting for a subscriber that leaves is neither given to it nor in its queue. -/
theorem waiting_messages_are_lost :
    ¬ ∀ (capacity number : Nat) (ops : List Operation) (box : Mailbox),
      ((ofCapacity capacity).run ops).mailbox? number = some box →
      received capacity number ops ++ box.queue = due capacity number ops := by
  intro balance
  let ops : List Operation := [.subscribe "a", .dispatch { topic := "a" }, .leave 1]
  have there : ((ofCapacity 2).run ops).mailbox? 1 = some { filter := "a", attended := false } := rfl
  have nothing_received : received 2 1 ops = [] := by decide +kernel
  have one_due : due 2 1 ops = [{ topic := "a" }] := by decide +kernel
  have balanced := balance 2 1 ops _ there
  rw [nothing_received, one_due] at balanced
  cases balanced

end EdgeGateway.Broker

import EdgeGateway.Proofs.Bridge.History

/-!
# What happens to calls

When a run returns a call from the interceptor, and when it puts a message into the hands of a
target. `CallChange` lists what one step can do to one call.
-/

namespace EdgeGateway

def Progress.candidate? : Progress → Option Message
  | .candidate m => some m
  | _ => none

def Progress.inHands? : Progress → Option Message
  | .handedOver m => some m
  | _ => none

namespace Traffic

/-! ### Handovers and returns -/

def inHands? (t : Traffic) (i : Nat) : Option Message := (t.calls[i]?).bind (·.progress.inHands?)

/-- The message that a step puts into the hands of a target, under the number of its call. -/
def handoversOf (t : Traffic) (e : Event) : List (Nat × Message) :=
  match e.call? t with
  | some i =>
    match t.inHands? i with
    | none => ((t.step e).inHands? i).toList.map (i, ·)
    | some _ => []
  | none => []

/-- Whether the target was connected, if the interceptor returns a call with this step. -/
def returnsOf (t : Traffic) : Event → List (Nat × Bool)
  | .intercepted i _ connected =>
    (((t.calls[i]?).bind (·.progress.candidate?)).map fun _ => connected).toList.map (i, ·)
  | _ => []

def handovers (es : List Event) : List (Nat × Message) := gather handoversOf {} es

def returns (es : List Event) : List (Nat × Bool) := gather returnsOf {} es

/-- The messages of one call that were put into the hands of its target. -/
def handedOn (es : List Event) (i : Nat) : List Message := valuesAt (handovers es) i

/-- Whether the target was connected whenever the interceptor returned a call. -/
def returnedOn (es : List Event) (i : Nat) : List Bool := valuesAt (returns es) i

theorem handedOn_concat (es : List Event) (e : Event) (i : Nat) :
    handedOn (es ++ [e]) i = handedOn es i ++ valuesAt (handoversOf (run {} es) e) i := by
  rw [handedOn, handovers, gather_concat, valuesAt_append]
  rfl

theorem returnedOn_concat (es : List Event) (e : Event) (i : Nat) :
    returnedOn (es ++ [e]) i = returnedOn es i ++ valuesAt (returnsOf (run {} es) e) i := by
  rw [returnedOn, returns, gather_concat, valuesAt_append]
  rfl

theorem handoversOf_old {t : Traffic} {e : Event}
    (old : ∀ i m, e.call? t = some i → (t.step e).inHands? i = some m → t.inHands? i = some m) :
    handoversOf t e = [] := by
  unfold handoversOf
  split
  next i about =>
    split
    next empty =>
      cases now : (t.step e).inHands? i with
      | none => rfl
      | some m => cases empty.symm.trans (old i m about now)
    next => rfl
  next => rfl

theorem handoversOf_new {t : Traffic} {e : Event} {i : Nat} {m : Message}
    (about : e.call? t = some i) (before : t.inHands? i = none)
    (now : (t.step e).inHands? i = some m) : handoversOf t e = [(i, m)] := by
  simp only [handoversOf, about, before, now, Option.toList_some, List.map_cons, List.map_nil]

theorem inHands?_of_known {t : Traffic} {i : Nat} {c : Call} (known : t.calls[i]? = some c) :
    t.inHands? i = c.progress.inHands? := by
  rw [inHands?, known, Option.bind_some]

theorem handoversOf_finished {t t' : Traffic} {e : Event} {i : Nat} {o : ForwardOutcome}
    (after : t.step e = t') (about : e.call? t = some i)
    (calls : t'.calls = t.calls.modify i fun c => { c with progress := .ended o }) :
    handoversOf t e = [] := by
  refine handoversOf_old fun j m here now => ?_
  obtain rfl := Option.some.inj (about.symm.trans here)
  rw [after, inHands?, calls, List.getElem?_modify_eq] at now
  cases known : t.calls[i]? with
  | none => simp [known] at now
  | some c => simp [known, Progress.inHands?] at now

theorem handoversOf_forward (t : Traffic) (lane : Nat) (m : Message) (ack : AckToken) :
    handoversOf t (.forward lane m ack) = [] := by
  have change := step_change t (.forward lane m ack)
  refine handoversOf_old fun i m' about now => ?_
  obtain rfl := Option.some.inj about
  generalize t.step (.forward lane m ack) = t' at change now
  cases change with
  | turnAway => simp [inHands?, Progress.inHands?] at now
  | takeIn => simp [inHands?, Progress.inHands?] at now
  | ignore => exact now

/-! ### Steps of one call -/

/-- Everything a step can do to one call: its new state, the return of the interceptor and the
message put into the hands of the target. -/
inductive CallChange (e : Event) (i : Nat) (c : Call) : Call → List Bool → List Message → Prop where
  | rest : CallChange e i c c [] []
  | handOver {answer : Except InterceptFault Interception} {connected : Bool} {candidate m : Message}
      (event : e = .intercepted i answer connected) (waiting : c.progress = .candidate candidate)
      (passed : passedOn answer connected = .ok m) :
      CallChange e i c { c with progress := .handedOver m } [connected] [m]
  | decline {answer : Except InterceptFault Interception} {connected : Bool} {candidate : Message}
      {o : ForwardOutcome} (event : e = .intercepted i answer connected)
      (waiting : c.progress = .candidate candidate) (passed : passedOn answer connected = .error o) :
      CallChange e i c { c with progress := .ended o } [connected] []
  | settle {m : Message} {answer : Except PublishFault Unit} (event : e = .answered i answer)
      (waiting : c.progress = .handedOver m) :
      CallChange e i c { c with progress := .ended (settlement answer) } [] []
  | abandon (event : e = .abort i) : CallChange e i c { c with progress := .ended .failed } [] []

theorem CallChange.lane {e : Event} {i : Nat} {c c' : Call} {rs : List Bool} {ms : List Message}
    (change : CallChange e i c c' rs ms) : c'.lane = c.lane := by
  cases change <;> rfl

theorem CallChange.ack {e : Event} {i : Nat} {c c' : Call} {rs : List Bool} {ms : List Message}
    (change : CallChange e i c c' rs ms) : c'.ack = c.ack := by
  cases change <;> rfl

theorem step_callChange {t : Traffic} {i : Nat} {c : Call} (e : Event)
    (known : t.calls[i]? = some c) :
    ∃ c', (t.step e).calls[i]? = some c' ∧
      CallChange e i c c' (valuesAt (returnsOf t e) i) (valuesAt (handoversOf t e) i) := by
  have change := step_change t e
  have before : i ≠ t.calls.length := Nat.ne_of_lt (List.getElem?_eq_some_iff.mp known).1
  generalize after : t.step e = t' at change ⊢
  have untouched (same : t'.calls[i]? = t.calls[i]?) (returned : returnsOf t e = [])
      (handed : handoversOf t e = []) : ∃ c', t'.calls[i]? = some c' ∧
        CallChange e i c c' (valuesAt (returnsOf t e) i) (valuesAt (handoversOf t e) i) := by
    rw [returned, handed]
    exact ⟨c, same.trans known, .rest⟩
  have moved {j : Nat} {call : Call} {p : Progress} {rs : List Bool} {ms : List Message}
      (there : t.calls[j]? = some call)
      (calls : t'.calls = t.calls.modify j fun c => { c with progress := p })
      (returned : returnsOf t e = rs.map (j, ·)) (handed : handoversOf t e = ms.map (j, ·))
      (changed : CallChange e j call { call with progress := p } rs ms) :
      ∃ c', t'.calls[i]? = some c' ∧
        CallChange e i c c' (valuesAt (returnsOf t e) i) (valuesAt (handoversOf t e) i) := by
    rw [returned, handed, valuesAt_map, valuesAt_map, calls]
    by_cases same : j = i
    · subst same
      obtain rfl := Option.some.inj (there.symm.trans known)
      rw [if_pos rfl, if_pos rfl, List.getElem?_modify_eq, known]
      exact ⟨_, rfl, changed⟩
    · rw [if_neg same, if_neg same, List.getElem?_modify_ne _ _ same]
      exact ⟨c, known, .rest⟩
  cases change with
  | addLane | openMetrics | start | stop => exact untouched rfl rfl rfl
  | turnAway =>
    refine untouched ?_ rfl (handoversOf_forward t _ _ _)
    rw [turnAway_calls, count_calls, getElem?_concat_ne _ _ before]
  | takeIn =>
    refine untouched ?_ rfl (handoversOf_forward t _ _ _)
    rw [takeIn_calls, count_calls, getElem?_concat_ne _ _ before]
  | @handOver j call candidate m answer connected there waiting passed =>
    refine moved there (setProgress_calls t j _) ?_ ?_ (.handOver rfl waiting passed)
    · simp [returnsOf, there, waiting, Progress.candidate?]
    · refine handoversOf_new rfl ?_ ?_
      · rw [inHands?_of_known there, waiting]
        rfl
      · rw [after, inHands?, setProgress_calls, List.getElem?_modify_eq, there]
        rfl
  | @decline j call candidate answer connected o there waiting passed =>
    refine moved there (finish_calls t j call o) ?_ ?_ (.decline rfl waiting passed)
    · simp [returnsOf, there, waiting, Progress.candidate?]
    · exact handoversOf_finished after rfl (finish_calls t j call o)
  | @settle j call m answer there waiting =>
    refine moved there (finish_calls t j call _) rfl ?_ (.settle rfl waiting)
    exact handoversOf_finished after rfl (finish_calls t j call _)
  | @abandon j call there waiting =>
    refine moved there (finish_calls t j call _) rfl ?_ (.abandon rfl)
    exact handoversOf_finished after rfl (finish_calls t j call _)
  | ignore foreign idle =>
    refine untouched rfl ?_ (handoversOf_old fun j m about now => by rwa [after] at now)
    cases e with
    | intercepted j answer connected =>
      cases there : t.calls[j]? with
      | none => simp [returnsOf, there]
      | some call =>
        have quiet : call.progress.candidate? = none := by
          cases progress : call.progress with
          | candidate m => exact absurd progress (idle j answer connected call m rfl there)
          | _ => rfl
        simp [returnsOf, there, quiet]
    | _ => rfl

/-! ### Runs -/

theorem step_calls_length (t : Traffic) (e : Event) :
    t.calls.length ≤ (t.step e).calls.length := by
  have change := step_change t e
  generalize t.step e = t' at change ⊢
  cases change with
  | turnAway | takeIn => simp
  | handOver => simp
  | decline | settle | abandon => simp
  | _ => exact Nat.le_refl _

theorem returnsOf_known {t : Traffic} {e : Event} {p : Nat × Bool} (member : p ∈ returnsOf t e) :
    p.1 < t.calls.length := by
  cases e with
  | intercepted i answer connected =>
    simp only [returnsOf, List.mem_map, Option.mem_toList] at member
    obtain ⟨b, returned, rfl⟩ := member
    obtain ⟨m, waiting, _⟩ := Option.map_eq_some_iff.mp returned
    obtain ⟨c, known, _⟩ := Option.bind_eq_some_iff.mp waiting
    exact (List.getElem?_eq_some_iff.mp known).1
  | _ => cases member

theorem handoversOf_known {t : Traffic} {e : Event} {p : Nat × Message}
    (member : p ∈ handoversOf t e) : p.1 < (t.step e).calls.length := by
  unfold handoversOf at member
  split at member
  next i about =>
    split at member
    next empty =>
      simp only [List.mem_map, Option.mem_toList] at member
      obtain ⟨m, now, rfl⟩ := member
      obtain ⟨c, known, _⟩ := Option.bind_eq_some_iff.mp now
      exact (List.getElem?_eq_some_iff.mp known).1
    next => cases member
  next => cases member

theorem run_known (es : List Event) :
    (∀ p ∈ returns es, p.1 < (run {} es).calls.length) ∧
      ∀ p ∈ handovers es, p.1 < (run {} es).calls.length := by
  induction es using List.reverseRecOn with
  | nil => simp [returns, handovers, gather]
  | append_singleton es e ih =>
    have longer := step_calls_length (run {} es) e
    simp only [returns, handovers, gather_concat, run_concat, List.mem_append]
    constructor
    · rintro p (before | now)
      · exact Nat.lt_of_lt_of_le (ih.1 p before) longer
      · exact Nat.lt_of_lt_of_le (returnsOf_known now) longer
    · rintro p (before | now)
      · exact Nat.lt_of_lt_of_le (ih.2 p before) longer
      · exact handoversOf_known now

/-! ### The call of an offer -/

/-- How far a call has come when it is made. -/
def opening : Forwarder.Reception → Progress
  | .ended o => .ended o
  | .accepted candidate => .candidate candidate

theorem forward_calls {t : Traffic} {lane : Nat} {l : Lane} (m : Message) (ack : AckToken)
    (present : t.lanes[lane]? = some l) :
    (t.step (.forward lane m ack)).calls =
      t.calls ++ [{ lane, ack, progress := opening (l.forwarder.receive l.running m) }] := by
  have change := step_change t (.forward lane m ack)
  generalize t.step (.forward lane m ack) = t' at change ⊢
  cases change with
  | turnAway _ present' reception =>
    obtain rfl := Option.some.inj (present.symm.trans present')
    rw [turnAway_calls, count_calls, reception]
    rfl
  | takeIn _ present' reception =>
    obtain rfl := Option.some.inj (present.symm.trans present')
    rw [takeIn_calls, count_calls, reception]
    rfl
  | ignore foreign idle => cases present.symm.trans (foreign lane m ack rfl)

/-- A call after a step is one that was there before and has gone on, or the call of an offer. -/
theorem step_call {t : Traffic} {e : Event} {i : Nat} {c' : Call}
    (known : (t.step e).calls[i]? = some c') :
    (∃ c returned handed, t.calls[i]? = some c ∧ CallChange e i c c' returned handed) ∨
      ∃ lane m ack l, e = .forward lane m ack ∧ t.lanes[lane]? = some l ∧
        c' = { lane, ack, progress := opening (l.forwarder.receive l.running m) } := by
  rcases Nat.lt_or_ge i t.calls.length with old | new
  · have there := List.getElem?_eq_getElem old
    obtain ⟨c, known', change⟩ := step_callChange e there
    obtain rfl := Option.some.inj (known'.symm.trans known)
    exact .inl ⟨_, _, _, there, change⟩
  · have offered {lane : Nat} {m : Message} {ack : AckToken} {l : Lane}
        (event : e = .forward lane m ack) (present : t.lanes[lane]? = some l) :
        c' = { lane, ack, progress := opening (l.forwarder.receive l.running m) } := by
      rw [event, forward_calls m ack present, List.getElem?_append_right new] at known
      exact List.mem_singleton.mp (List.mem_of_getElem? known)
    have below := (List.getElem?_eq_some_iff.mp known).1
    have change := step_change t e
    generalize t.step e = t' at below change
    cases change with
    | turnAway _ present | takeIn _ present =>
      exact .inr ⟨_, _, _, _, rfl, present, offered rfl present⟩
    | handOver =>
      rw [setProgress_calls, List.length_modify] at below
      omega
    | decline | settle | abandon =>
      rw [finish_calls, List.length_modify] at below
      omega
    | addLane | openMetrics | start | stop | ignore => exact absurd below (Nat.not_lt.mpr new)

/-- Every offer is followed up in a run that meets a condition: what holds of a call when it is made
and is kept by all that can happen to it holds of the offer and its call. -/
theorem run_each {P : Traffic → Event → Prop}
    {R : Forwarder → Offer → Call → Prop → List Bool → List Message → Prop}
    (new : ∀ f o abandoned, R f o
      { lane := o.lane, ack := o.ack, progress := opening (f.receive o.running o.message) }
      abandoned [] [])
    (keep : ∀ t e i f o c c' abandoned returned handed rs ms, P t e → t.calls[i]? = some c →
      t.forwarder? c.lane = some f → c.lane = o.lane → R f o c abandoned returned handed →
        CallChange e i c c' rs ms → R f o c' (abandoned ∨ e = .abort i) (returned ++ rs) (handed ++ ms))
    {es : List Event} (meets : Throughout P {} es) {i : Nat} {o : Offer}
    (offered : (offers es)[i]? = some o) :
    ∃ f c, (run {} es).forwarder? o.lane = some f ∧ (run {} es).calls[i]? = some c ∧
      c.lane = o.lane ∧ R f o c (.abort i ∈ es) (returnedOn es i) (handedOn es i) := by
  induction es using List.reverseRecOn with
  | nil => simp [offers, gather] at offered
  | append_singleton es e ih =>
    obtain ⟨before, now, _⟩ := throughout_append.mp meets
    have same_length := (run_answers es).length_eq
    rw [run_concat, returnedOn_concat, handedOn_concat]
    rw [offers_concat] at offered
    rcases Nat.lt_or_ge i (offers es).length with old | new_call
    · rw [List.getElem?_append_left old] at offered
      obtain ⟨f, c, present, known, there, holds⟩ := ih before offered
      obtain ⟨c', known', change⟩ := step_callChange e known
      have kept := keep _ e i f o c c' _ _ _ _ _ now known (there ▸ present) there holds change
      refine ⟨f, c', step_forwarder e present, known', change.lane.trans there, ?_⟩
      simpa [List.mem_append, eq_comm] using kept
    · rw [List.getElem?_append_right new_call] at offered
      rcases offersOf_cases (run {} es) e with none_new | ⟨lane, m, ack, l, rfl, present, one⟩
      · rw [none_new, List.getElem?_nil] at offered
        cases offered
      · rw [one] at offered
        have first := (List.getElem?_eq_some_iff.mp offered).1
        rw [List.length_singleton] at first
        obtain rfl : i = (run {} es).calls.length := by omega
        rw [← same_length, Nat.sub_self] at offered
        obtain rfl := Option.some.inj offered
        have not_returned : returnedOn es (run {} es).calls.length = [] :=
          valuesAt_absent (run_known es).1
        have not_handed : handedOn es (run {} es).calls.length = [] :=
          valuesAt_absent (run_known es).2
        rw [not_returned, not_handed, handoversOf_forward]
        refine ⟨l.forwarder, _, step_forwarder _ (forwarder?_of_present present), ?_, rfl,
          new l.forwarder ⟨lane, m, ack, l.running⟩ _⟩
        rw [forward_calls m ack present, List.getElem?_concat_length]

end Traffic
end EdgeGateway

import EdgeGateway.Proofs.Simulation.Client

/-!
# Streams and what waits in them

A stream has its samples from its generator, one for each tick, and loses them to its consumer;
`Stream.backlog` counts those in between. A stream that is torn down has ended and takes its backlog
with it.
-/

namespace EdgeGateway.Simulation

open Device (hasEnded)

/-! ### Streams -/

namespace Stream

/-- The samples in the queue and the one that waits for room. -/
def backlog (s : Stream) : Nat := s.queue.length + if s.isBlocked then 1 else 0

/-- Values can be drawn from the range. -/
def Sampled (s : Stream) : Prop := (sample? s.minValue s.maxValue).isSome = true

theorem backlog_eq_zero {s : Stream} : s.backlog = 0 ↔ s.queue = [] ∧ s.isBlocked = false := by
  unfold backlog
  rw [Nat.add_eq_zero_iff, List.length_eq_zero_iff]
  cases s.isBlocked <;> simp

theorem isBlocked_of_ended {s : Stream} (ended : hasEnded s = true) : s.isBlocked = false := by
  rw [isBlocked, hasEnded_iff.mp ended]

variable {s s' : Stream} {interval now : Nat} {tick : Bool}

/-- Generators only touch their pace and the queue. -/
theorem put_shape (s : Stream) (value : FieldValue) (due : Nat) :
    ∃ pace queue, s.put value due = { s with pace, queue } := by
  unfold put
  split
  · exact ⟨.ended, s.queue, rfl⟩
  · split
    · exact ⟨.ticking due, s.queue ++ [value], rfl⟩
    · exact ⟨.blocked value due, s.queue, rfl⟩

theorem move_shape (moved : s.move interval now = some (s', tick)) :
    ∃ pace queue, s' = { s with pace, queue } := by
  unfold move at moved
  split at moved
  · cases moved
    exact ⟨.ticking now, s.queue, rfl⟩
  · split at moved
    · split at moved
      · cases moved
        exact put_shape s _ _
      · cases moved
        exact ⟨.ended, s.queue, rfl⟩
    · cases moved
  · split at moved
    · cases moved
      exact put_shape s _ _
    · cases moved
  · cases moved

theorem generate_shape (s : Stream) (interval now fuel : Nat) :
    ∃ pace queue, (s.generate interval now fuel).1 = { s with pace, queue } := by
  induction fuel generalizing s with
  | zero => exact ⟨s.pace, s.queue, rfl⟩
  | succ fuel ih =>
    unfold generate
    split
    · exact ⟨s.pace, s.queue, rfl⟩
    next s' tick moved =>
      obtain ⟨_, _, same⟩ := move_shape moved
      obtain ⟨pace, queue, made⟩ := ih s'
      exact ⟨pace, queue, by rw [made, same]⟩

theorem generate_same (s : Stream) (interval now fuel : Nat) :
    let s' := (s.generate interval now fuel).1
    s'.minValue = s.minValue ∧ s'.maxValue = s.maxValue ∧ s'.attended = s.attended := by
  obtain ⟨_, _, shape⟩ := s.generate_shape interval now fuel
  rw [shape]
  exact ⟨rfl, rfl, rfl⟩

theorem Sampled.congr {s s' : Stream} (sampled : s.Sampled) (low : s'.minValue = s.minValue)
    (high : s'.maxValue = s.maxValue) : s'.Sampled := by
  unfold Sampled
  rw [low, high]
  exact sampled

/-- A value that is put goes into the queue or waits before it. -/
theorem put_backlog (attended : s.attended = true) (value : FieldValue) (due : Nat) :
    (s.put value due).backlog = s.queue.length + 1 := by
  unfold put
  rw [attended]
  split
  next out => cases out
  next =>
    split
    · simp [backlog, isBlocked]
    · simp [backlog, isBlocked]

theorem move_backlog (attended : s.attended = true) (sampled : s.Sampled)
    (moved : s.move interval now = some (s', tick)) :
    s'.backlog = s.backlog + if tick then 1 else 0 := by
  unfold move at moved
  split at moved
  next fresh =>
    cases moved
    simp [backlog, isBlocked, fresh]
  next ticking =>
    obtain ⟨value, drawn⟩ := Option.isSome_iff_exists.mp sampled
    rw [drawn] at moved
    split at moved
    · cases moved
      rw [put_backlog attended]
      simp [backlog, isBlocked, ticking]
    · cases moved
  next blocked =>
    split at moved
    · cases moved
      rw [put_backlog attended]
      simp [backlog, isBlocked, blocked]
    · cases moved
  next => cases moved

/-- Every tick of a generator is one sample more. -/
theorem generate_backlog (attended : s.attended = true) (sampled : s.Sampled) (fuel : Nat) :
    (s.generate interval now fuel).1.backlog = s.backlog + (s.generate interval now fuel).2 := by
  induction fuel generalizing s with
  | zero => rfl
  | succ fuel ih =>
    unfold generate
    split
    · rfl
    next s' tick moved =>
      obtain ⟨pace, queue, same⟩ := move_shape moved
      have attended' : s'.attended = true := by rw [same, attended]
      have sampled' : s'.Sampled := by rw [same]; exact sampled
      have one := move_backlog attended sampled moved
      have rest := ih attended' sampled'
      dsimp only
      rw [rest, one]
      cases tick
      · simp
      · simp only [if_true]
        omega

theorem generate_ended (ended : hasEnded s = true) (interval now fuel : Nat) :
    s.generate interval now fuel = (s, 0) := by
  cases fuel with
  | zero => rfl
  | succ fuel =>
    have still : s.move interval now = none := by rw [move, hasEnded_iff.mp ended]
    rw [generate, still]

/-- A generator that has moved waits for room only where there is none. -/
theorem move_blocked (moved : s.move interval now = some (s', tick)) (blocked : s'.isBlocked = true) :
    s'.queue ≠ [] := by
  have full {value : FieldValue} {due : Nat} (blocked : (s.put value due).isBlocked = true) :
      (s.put value due).queue ≠ [] := by
    unfold put at blocked ⊢
    split at blocked
    · cases blocked
    · split at blocked
      · cases blocked
      next out many =>
        rw [if_neg out, if_neg many]
        intro empty
        rw [empty] at many
        exact many (by decide)
  unfold move at moved
  split at moved
  · cases moved
    cases blocked
  · split at moved
    · split at moved
      · cases moved
        exact full blocked
      · cases moved
        cases blocked
    · cases moved
  · split at moved
    · cases moved
      exact full blocked
    · cases moved
  · cases moved

theorem generate_full (full : s.isBlocked = true → s.queue ≠ []) (fuel : Nat)
    (blocked : (s.generate interval now fuel).1.isBlocked = true) :
    (s.generate interval now fuel).1.queue ≠ [] := by
  induction fuel generalizing s with
  | zero => exact full blocked
  | succ fuel ih =>
    unfold generate at blocked ⊢
    split
    next still =>
      rw [still] at blocked
      exact full blocked
    next s' tick moved =>
      rw [moved] at blocked
      exact ih (move_blocked moved) blocked

theorem generate_blocked (attended : s.attended = true) (fuel : Nat)
    (blocked : (s.generate interval now (fuel + 1)).1.isBlocked = true) :
    (s.generate interval now (fuel + 1)).1.queue ≠ [] := by
  unfold generate at blocked ⊢
  split
  next still =>
    -- with room in the queue it would have moved
    rw [still] at blocked
    dsimp only at blocked ⊢
    intro empty
    unfold isBlocked at blocked
    split at blocked
    next waiting => simp [move, waiting, attended, empty, queueCapacity] at still
    next => cases blocked
  next s' tick moved =>
    rw [moved] at blocked
    exact generate_full (move_blocked moved) fuel blocked

/-- A stream that has been torn down. -/
structure Torn (s s' : Stream) : Prop where
  subscription : s'.subscription = s.subscription
  minValue : s'.minValue = s.minValue
  maxValue : s'.maxValue = s.maxValue
  ended : hasEnded s' = true
  backlog : s'.backlog ≤ s.backlog

theorem Torn.trans {s s' s'' : Stream} (first : s.Torn s') (second : s'.Torn s'') : s.Torn s'' where
  subscription := second.subscription.trans first.subscription
  minValue := second.minValue.trans first.minValue
  maxValue := second.maxValue.trans first.maxValue
  ended := second.ended
  backlog := Nat.le_trans second.backlog first.backlog

theorem stopGenerator_torn (s : Stream) : s.Torn s.stopGenerator where
  subscription := rfl
  minValue := rfl
  maxValue := rfl
  ended := rfl
  backlog := Nat.le_add_right s.queue.length _

theorem leave_torn (ended : hasEnded s = true) : s.Torn s.leave where
  subscription := rfl
  minValue := rfl
  maxValue := rfl
  ended := ended
  backlog := by
    have still : s.leave.isBlocked = s.isBlocked := rfl
    rw [backlog, backlog, still]
    exact Nat.add_le_add_right (Nat.zero_le _) _

/-- A stream that nothing has happened to yet, unless it has been torn down already. -/
structure Blank (s : Stream) : Prop where
  live : hasEnded s = false → s.attended = true
  sampled : s.Sampled
  empty : s.backlog = 0

def fresh (s : FieldSubscription) (range : Double × Double) : Stream :=
  { subscription := s, minValue := range.1, maxValue := range.2 }

theorem fresh_blank (s : FieldSubscription) {range : Double × Double}
    (sampled : (sample? range.1 range.2).isSome = true) : (fresh s range).Blank where
  live := fun _ => rfl
  sampled := sampled
  empty := rfl

/-- What becomes of streams when some are torn down, of nodes with a property, and some opened. -/
inductive Rewired (nodes : String → Prop) : Option Stream → Stream → Prop
  | same (s : Stream) : Rewired nodes (some s) s
  | torn {s s' : Stream} (node : nodes s.subscription.nodeId) (torn : s.Torn s') :
    Rewired nodes (some s) s'
  | opened {s : Stream} (blank : s.Blank) : Rewired nodes none s

theorem Rewired.trans {nodes : String → Prop} {s? : Option Stream} {s' s'' : Stream}
    (first : Rewired nodes s? s') (second : Rewired nodes (some s') s'') :
    Rewired nodes s? s'' := by
  cases second with
  | same => exact first
  | torn node torn =>
    cases first with
    | same => exact .torn node torn
    | torn node' torn' => exact .torn node' (torn'.trans torn)
    | opened blank =>
      refine .opened ⟨fun live => ?_, blank.sampled.congr torn.minValue torn.maxValue,
        Nat.le_zero.mp (blank.empty ▸ torn.backlog)⟩
      rw [torn.ended] at live
      cases live

theorem Rewired.mono {nodes nodes' : String → Prop} {s? : Option Stream} {s' : Stream}
    (rewired : Rewired nodes s? s') (more : ∀ node, nodes node → nodes' node) :
    Rewired nodes' s? s' := by
  cases rewired with
  | same => exact .same _
  | torn node torn => exact .torn (more _ node) torn
  | opened blank => exact .opened blank

theorem Rewired.subscription {nodes : String → Prop} {s s' : Stream}
    (rewired : Rewired nodes (some s) s') : s'.subscription = s.subscription := by
  cases rewired with
  | same => rfl
  | torn _ torn => exact torn.subscription

/-- A stream that goes on has its consumer. -/
theorem Rewired.live {nodes : String → Prop} {s? : Option Stream} {s' : Stream}
    (rewired : Rewired nodes s? s')
    (before : ∀ s, s? = some s → hasEnded s = false → s.attended = true)
    (running : hasEnded s' = false) : s'.attended = true := by
  cases rewired with
  | same => exact before s' rfl running
  | torn _ torn =>
    rw [torn.ended] at running
    cases running
  | opened blank => exact blank.live running

theorem Rewired.sampled {nodes : String → Prop} {s? : Option Stream} {s' : Stream}
    (rewired : Rewired nodes s? s') (before : ∀ s, s? = some s → s.Sampled) : s'.Sampled := by
  cases rewired with
  | same => exact before s' rfl
  | @torn s _ _ torn => exact (before s rfl).congr torn.minValue torn.maxValue
  | opened blank => exact blank.sampled

end Stream

/-! ### Clients -/

/-- A change of the element in a place, if there is a place. -/
def modify? {α : Type} (at? : Option Nat) (f : α → α) (xs : List α) : List α :=
  at?.elim xs fun i => xs.modify i f

theorem length_modify? {α : Type} (at? : Option Nat) (f : α → α) (xs : List α) :
    (modify? at? f xs).length = xs.length := by
  cases at? with
  | none => rfl
  | some j => exact List.length_modify ..

theorem getElem?_modify? {α : Type} (at? : Option Nat) (f : α → α) (xs : List α) (i : Nat) :
    (modify? at? f xs)[i]? = xs[i]?.map fun x => if at? = some i then f x else x := by
  cases at? with
  | none => simp [modify?]
  | some j =>
    simp only [modify?, Option.elim_some, List.getElem?_modify, Option.some.injEq]
    rfl

namespace Client

variable {c c' : Client}

theorem subscribe_eq_ok {s : FieldSubscription} {number : Nat}
    (opened : c.subscribe s = .ok (c', number)) : number = c.streams.length ∧
      ∃ range ∈ c.ranges, c' = { c with
        streams := modify? (c.feeds.find? s.nodeId) Stream.stopGenerator c.streams ++
          [.fresh s range.2]
        feeds := c.feeds.insert s.nodeId c.streams.length } := by
  unfold subscribe at opened
  split at opened
  · cases opened
  next name low high found =>
    cases fed : c.feeds.find? s.nodeId with
    | none =>
      rw [fed] at opened
      cases opened
      exact ⟨rfl, _, List.mem_of_find?_eq_some found, rfl⟩
    | some old =>
      rw [fed] at opened
      dsimp only [updateStream] at opened
      rw [List.length_modify] at opened
      cases opened
      exact ⟨rfl, _, List.mem_of_find?_eq_some found, rfl⟩

theorem generate_streams (c : Client) (now i : Nat) :
    (c.generate now i).1.streams =
      c.streams.modify i fun s => (s.generate c.interval now Stream.moves).1 := by
  unfold generate
  cases there : c.streams[i]? with
  | none => rw [List.modify_eq_self (List.getElem?_eq_none_iff.mp there)]
  | some s =>
    rw [List.modify_eq_set_getElem?, there]
    rfl

theorem generate_ticks (c : Client) (now i : Nat) : (c.generate now i).2 =
    c.streams[i]?.elim 0 fun s => (s.generate c.interval now Stream.moves).2 := by
  unfold generate
  cases c.streams[i]? <;> rfl

theorem failTransfer_eq_some {node : String} {s : FieldSubscription}
    (failed : c.failTransfer node = some (c', s)) :
    ∃ i, c.feeds.find? node = some i ∧ c' = { c with
      streams := c.streams.modify i Stream.stopGenerator, feeds := c.feeds.erase node } := by
  unfold failTransfer at failed
  obtain ⟨i, fed, there⟩ := Option.bind_eq_some_iff.mp failed
  obtain ⟨stream, _, made⟩ := Option.bind_eq_some_iff.mp there
  cases made
  exact ⟨i, fed, rfl⟩

end Client

end EdgeGateway.Simulation

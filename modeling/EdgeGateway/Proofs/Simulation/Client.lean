import EdgeGateway.Proofs.Lists
import EdgeGateway.Proofs.Table
import EdgeGateway.Simulation.Device

/-!
# Feeds of a simulated client

A client has no live generator but those that its table of feeds shows, and so at most one for each
node. `Fed` says so; opening a stream, a failed transfer and closing the client keep it, and so does
whatever streams do on their own, for a generator that has ended never comes back.
-/

namespace EdgeGateway.Simulation

open Device (hasEnded)

/-! ### Streams -/

theorem hasEnded_iff {s : Stream} : hasEnded s = true ↔ s.pace = .ended := by
  unfold hasEnded
  cases s.pace <;> simp

/-- What can become of a stream in the course of time. -/
structure Stream.Later (s s' : Stream) : Prop where
  subscription : s'.subscription = s.subscription
  ended : hasEnded s = true → hasEnded s' = true
  attended : s'.attended = true → s.attended = true

namespace Stream

theorem Later.refl (s : Stream) : s.Later s := ⟨rfl, id, id⟩

theorem Later.trans {s s' s'' : Stream} (first : s.Later s') (second : s'.Later s'') : s.Later s'' where
  subscription := second.subscription.trans first.subscription
  ended := second.ended ∘ first.ended
  attended := first.attended ∘ second.attended

theorem stopGenerator_later (s : Stream) : s.Later s.stopGenerator := ⟨rfl, fun _ => rfl, id⟩

theorem leave_later (s : Stream) : s.Later s.leave where
  subscription := rfl
  ended := id
  attended := by intro still; cases still

theorem put_same (s : Stream) (value : FieldValue) (due : Nat) :
    (s.put value due).subscription = s.subscription ∧ (s.put value due).attended = s.attended := by
  unfold put
  split
  · exact ⟨rfl, rfl⟩
  · split <;> exact ⟨rfl, rfl⟩

/-- A generator only moves while it has not ended. -/
theorem move_later {s s' : Stream} {interval now : Nat} {tick : Bool}
    (moved : s.move interval now = some (s', tick)) : s.Later s' := by
  have live : hasEnded s = false := by
    rw [Bool.eq_false_iff]
    intro ended
    rw [move, hasEnded_iff.mp ended] at moved
    cases moved
  have same : s'.subscription = s.subscription ∧ s'.attended = s.attended := by
    unfold move at moved
    split at moved
    · cases moved
      exact ⟨rfl, rfl⟩
    · split at moved
      · split at moved
        · cases moved
          exact put_same s _ _
        · cases moved
          exact ⟨rfl, rfl⟩
      · cases moved
    · split at moved
      · cases moved
        exact put_same s _ _
      · cases moved
    · cases moved
  refine ⟨same.1, fun ended => ?_, fun still => same.2 ▸ still⟩
  rw [live] at ended
  cases ended

theorem generate_later (interval now fuel : Nat) (s : Stream) :
    s.Later (s.generate interval now fuel).1 := by
  induction fuel generalizing s with
  | zero => exact .refl s
  | succ fuel ih =>
    unfold generate
    split
    · exact .refl s
    next s' tick moved => exact (move_later moved).trans (ih s')

/-- Streams in their places, some time later. -/
def Onward (xs ys : List Stream) : Prop := List.Forall₂ Later xs ys

variable {xs ys zs : List Stream}

theorem Onward.refl (xs : List Stream) : Onward xs xs :=
  List.forall₂_same.mpr fun s _ => .refl s

theorem Onward.modify (onward : Onward xs ys) {i : Nat} {f : Stream → Stream}
    (later : ∀ s, ys[i]? = some s → s.Later (f s)) : Onward xs (ys.modify i f) := by
  cases present : ys[i]? with
  | none =>
    rw [List.modify_eq_self (List.getElem?_eq_none_iff.mp present)]
    exact onward
  | some s => exact forall₂_modify onward present fun _ before => before.trans (later s present)

theorem Onward.foldl_modify (onward : Onward xs ys) {f : Stream → Stream}
    (later : ∀ s : Stream, s.Later (f s)) (is : List Nat) :
    Onward xs (is.foldl (fun xs i => xs.modify i f) ys) := by
  induction is generalizing ys with
  | nil => exact onward
  | cons i is ih => exact ih (onward.modify fun s _ => later s)

theorem Onward.before (onward : Onward xs ys) {i : Nat} {s' : Stream} (there : ys[i]? = some s') :
    ∃ s, xs[i]? = some s ∧ s.Later s' :=
  forall₂_getElem? (List.Forall₂.flip onward) there

theorem Onward.after (onward : Onward xs ys) {i : Nat} {s : Stream} (there : xs[i]? = some s) :
    ∃ s', ys[i]? = some s' ∧ s.Later s' :=
  forall₂_getElem? onward there

theorem ended_of_stopped {i : Nat} {s : Stream}
    (there : (xs.modify i stopGenerator)[i]? = some s) : hasEnded s = true := by
  rw [List.getElem?_modify] at there
  obtain ⟨_, _, rfl⟩ := Option.map_eq_some_iff.mp there
  rw [if_pos rfl]
  rfl

end Stream

/-! ### Feeds -/

namespace Client

open EdgeGateway.Simulation.Stream (Onward)

/-- Each feed is a stream of its node, and each generator that has not ended is a feed. -/
structure Fed (c : Client) : Prop where
  feeds : c.feeds.Ascending
  fed : ∀ node i, c.feeds.find? node = some i →
    ∃ s, c.streams[i]? = some s ∧ s.subscription.nodeId = node
  live : ∀ i s, c.streams[i]? = some s → hasEnded s = false →
    c.feeds.find? s.subscription.nodeId = some i

theorem fed_empty (interval : Nat) (ranges : List (String × Double × Double)) :
    ({ interval, ranges } : Client).Fed where
  feeds := Table.ascending_empty
  fed := by intro node i found; cases found
  live := by intro i s there; cases there

variable {c c' : Client}

/-- Streams go on as they like. -/
theorem Fed.onward (fed : c.Fed) (onward : Onward c.streams c'.streams)
    (feeds : c'.feeds = c.feeds) : c'.Fed where
  feeds := by
    rw [feeds]
    exact fed.feeds
  fed := by
    intro node i found
    rw [feeds] at found
    obtain ⟨s, there, same⟩ := fed.fed node i found
    obtain ⟨s', there', later⟩ := onward.after there
    exact ⟨s', there', later.subscription ▸ same⟩
  live := by
    intro i s' there' running
    obtain ⟨s, there, later⟩ := onward.before there'
    rw [feeds, later.subscription]
    refine fed.live i s there ?_
    rw [Bool.eq_false_iff] at running ⊢
    exact fun ended => running (later.ended ended)

theorem generate_onward (c : Client) (now i : Nat) :
    Onward c.streams (c.generate now i).1.streams ∧ (c.generate now i).1.feeds = c.feeds ∧
      (c.generate now i).1.ranges = c.ranges := by
  unfold generate
  cases there : c.streams[i]? with
  | none => exact ⟨.refl _, rfl, rfl⟩
  | some s =>
    refine ⟨?_, rfl, rfl⟩
    have later := s.generate_later c.interval now Stream.moves
    have set_eq : c.streams.set i (s.generate c.interval now Stream.moves).1 =
        c.streams.modify i fun _ => (s.generate c.interval now Stream.moves).1 := by
      rw [List.modify_eq_set_getElem?, there]
      rfl
    change Onward c.streams (c.streams.set i (s.generate c.interval now Stream.moves).1)
    rw [set_eq]
    refine (Onward.refl c.streams).modify fun s' there' => ?_
    rw [there, Option.some.injEq] at there'
    exact there' ▸ later

/-- A client with a new stream, the last one, which takes the place of the one its node may have
had. -/
structure Opened (c : Client) (s : FieldSubscription) (c' : Client) : Prop where
  ranges : c'.ranges = c.ranges
  feeds : c'.feeds = c.feeds.insert s.nodeId c.streams.length
  streams : ∃ before new, c'.streams = before ++ [new] ∧ new.subscription = s ∧
    Onward c.streams before ∧ ∀ i old, c.feeds.find? s.nodeId = some i → before[i]? = some old →
      hasEnded old = true

theorem subscribe_opened {s : FieldSubscription} (known : ∃ range ∈ c.ranges, range.1 = s.nodeId) :
    ∃ c', c.subscribe s = .ok (c', c.streams.length) ∧ c.Opened s c' := by
  obtain ⟨range, member, same⟩ := known
  obtain ⟨⟨_, minValue, maxValue⟩, found⟩ := Option.isSome_iff_exists.mp
    (List.find?_isSome (p := (·.1 = s.nodeId)) |>.mpr ⟨range, member, by simpa using same⟩)
  unfold subscribe
  rw [found]
  cases fed : c.feeds.find? s.nodeId with
  | none =>
    refine ⟨_, rfl, rfl, rfl, c.streams, _, rfl, rfl, .refl _, ?_⟩
    intro i old found
    rw [fed] at found
    cases found
  | some i =>
    dsimp only
    have length : (c.updateStream i Stream.stopGenerator).streams.length = c.streams.length :=
      List.length_modify ..
    rw [length]
    refine ⟨_, rfl, rfl, rfl, c.streams.modify i Stream.stopGenerator, _, rfl, rfl,
      (Onward.refl _).modify fun s _ => s.stopGenerator_later, ?_⟩
    intro j old found there
    rw [fed, Option.some.injEq] at found
    rw [found] at there
    exact Stream.ended_of_stopped there

/-- Where the streams of a client with a new stream come from. -/
theorem Opened.stream {s : FieldSubscription} (opened : c.Opened s c') {i : Nat} {st : Stream}
    (there : c'.streams[i]? = some st) :
    (i = c.streams.length ∧ st.subscription = s) ∨
      ∃ old, c.streams[i]? = some old ∧ old.Later st ∧
        (c.feeds.find? s.nodeId = some i → hasEnded st = true) := by
  obtain ⟨before, new, streams, named, onward, stopped⟩ := opened.streams
  have length : c.streams.length = before.length := onward.length_eq
  rw [streams] at there
  by_cases last : i = before.length
  · rw [last, List.getElem?_concat_length, Option.some.injEq] at there
    exact .inl ⟨last.trans length.symm, there ▸ named⟩
  · rw [getElem?_concat_ne _ _ last] at there
    obtain ⟨old, there_before, later⟩ := onward.before there
    exact .inr ⟨old, there_before, later, fun found => stopped i st found there⟩

theorem Fed.opened (fed : c.Fed) {s : FieldSubscription} (opened : c.Opened s c') : c'.Fed := by
  constructor
  · rw [opened.feeds]
    exact fed.feeds.insert _ _
  · obtain ⟨before, new, streams, named, onward, _⟩ := opened.streams
    intro node i found
    rw [opened.feeds] at found
    rw [streams]
    rcases Table.find?_insert_eq_some.mp found with ⟨here, rfl⟩ | ⟨_, fed_before⟩
    · have length : c.streams.length = before.length := onward.length_eq
      rw [length, List.getElem?_concat_length]
      exact ⟨new, rfl, by rw [named, here]⟩
    · obtain ⟨old, there, same⟩ := fed.fed node i fed_before
      obtain ⟨old', there', later⟩ := onward.after there
      rw [List.getElem?_append_left (List.getElem?_eq_some_iff.mp there').1]
      exact ⟨old', there', later.subscription ▸ same⟩
  · intro i st there running
    rw [opened.feeds, Table.find?_insert]
    rcases opened.stream there with ⟨last, named⟩ | ⟨old, there_before, later, stopped⟩
    · rw [named, if_pos rfl, last]
    · have was_running : hasEnded old = false := by
        rw [Bool.eq_false_iff] at running ⊢
        exact fun ended => running (later.ended ended)
      have found := fed.live i old there_before was_running
      rw [← later.subscription] at found
      -- the generator of the same node has been stopped
      have other : st.subscription.nodeId ≠ s.nodeId := by
        intro same
        rw [same] at found
        rw [stopped found] at running
        cases running
      rw [if_neg other]
      exact found

theorem failTransfer_none {node : String} (absent : c.feeds.find? node = none) :
    c.failTransfer node = none := by
  rw [failTransfer, absent]
  rfl

/-- A transfer fails: the generator of the node is stopped and no feed any more. -/
theorem Fed.failTransfer (fed : c.Fed) {node : String} {i : Nat}
    (found : c.feeds.find? node = some i) :
    ∃ s c', c.failTransfer node = some (c', s) ∧ s.nodeId = node ∧
      (∃ st ∈ c.streams, st.subscription = s) ∧ c'.ranges = c.ranges ∧
      c'.feeds = c.feeds.erase node ∧ Onward c.streams c'.streams ∧ c'.Fed := by
  obtain ⟨st, there, same⟩ := fed.fed node i found
  have result : c.failTransfer node = some
      ({ c.updateStream i Stream.stopGenerator with feeds := c.feeds.erase node },
        st.subscription) := by
    rw [Client.failTransfer, found]
    change (c.streams[i]?).bind _ = _
    rw [there]
    rfl
  have onward : Onward c.streams (c.streams.modify i Stream.stopGenerator) :=
    (Onward.refl _).modify fun s _ => s.stopGenerator_later
  have still : (c.updateStream i Stream.stopGenerator).Fed := fed.onward onward rfl
  refine ⟨_, _, result, same, ⟨st, List.mem_of_getElem? there, rfl⟩, rfl, rfl, onward, ?_⟩
  constructor
  · exact fed.feeds.erase node
  · intro other j found_other
    exact still.fed other j (Table.find?_erase_eq_some.mp found_other).2
  · intro j s' there' running
    rw [Table.find?_erase]
    have feed := still.live j s' there' running
    have different : s'.subscription.nodeId ≠ node := by
      intro here
      rw [here] at feed
      have same_stream : j = i := Option.some.inj (feed.symm.trans found)
      rw [same_stream] at there'
      rw [Stream.ended_of_stopped there'] at running
      cases running
    rw [if_neg different]
    exact feed

theorem foldl_updateStream (is : List Nat) (f : Stream → Stream) (c : Client) :
    is.foldl (fun c i => c.updateStream i f) c =
      { c with streams := is.foldl (fun xs i => xs.modify i f) c.streams } := by
  induction is generalizing c with
  | nil => rfl
  | cons i is ih =>
    rw [List.foldl_cons, ih]
    rfl

theorem close_eq (c : Client) : c.close =
    { c with streams := c.feeds.values.foldl (fun xs i => xs.modify i Stream.stopGenerator) c.streams
             feeds := {} } := by
  rw [close, foldl_updateStream]

theorem close_onward (c : Client) : Onward c.streams c.close.streams := by
  rw [close_eq]
  exact (Onward.refl _).foldl_modify Stream.stopGenerator_later _

/-- A client that is closed has no live generator. -/
theorem Fed.close_ended (fed : c.Fed) {i : Nat} {s : Stream} (there : c.close.streams[i]? = some s) :
    hasEnded s = true := by
  have idempotent (s : Stream) : s.stopGenerator.stopGenerator = s.stopGenerator := rfl
  rw [close_eq] at there
  dsimp only at there
  rw [getElem?_foldl_modify idempotent] at there
  split at there
  · obtain ⟨_, _, rfl⟩ := Option.map_eq_some_iff.mp there
    rfl
  next out =>
    rw [← Bool.not_eq_false]
    intro running
    have feed := fed.live i s there running
    exact out (fed.feeds.mem_values.mpr ⟨_, feed⟩)

theorem Fed.close (fed : c.Fed) : c.close.Fed where
  feeds := Table.ascending_empty
  fed := by intro node i found; cases found
  live := by
    intro i s there running
    rw [fed.close_ended there] at running
    cases running

end Client
end EdgeGateway.Simulation

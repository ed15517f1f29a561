import EdgeGateway.Proofs.Bridge.Forwarder
import Mathlib.Logic.Function.Iterate
import Mathlib.Tactic.Choose

/-!
# Loop prevention along a path

Each bridge on the way of a message raises the hop count that the next one reads. So the guards
compare their limits with the number of bridges crossed, and a path is at most as long as the
largest limit on it.
-/

namespace EdgeGateway

/-! ### Reading hop counts -/

/-- The hop count of a message, as every guard that is on reads it. -/
def Message.hops (m : Message) : Nat :=
  ((m.property? hopProperty).bind fun text => Text.numberBelow? (maxHops + 1) text.toList).getD 0

theorem HopGuard.hops_enabled {g : HopGuard} (on : g.enabled = true) (m : Message) :
    g.hops m = m.hops := by
  rw [HopGuard.hops, if_pos on]
  rfl

theorem Message.hops_le (m : Message) : m.hops ≤ maxHops := by
  unfold hops
  cases read : (m.property? hopProperty).bind fun text =>
      Text.numberBelow? (maxHops + 1) text.toList with
  | none => exact Nat.zero_le maxHops
  | some n =>
    obtain ⟨text, _, number⟩ := Option.bind_eq_some_iff.mp read
    exact Nat.le_of_lt_succ (Text.numberBelow?_lt number)

theorem HopGuard.decision_allow_iff {g : HopGuard} (on : g.enabled = true) (n : Nat) :
    g.decision n = .allow ↔ n = 0 ∨ n < g.limit := by
  unfold HopGuard.decision
  rw [on]
  split
  next dropped => simp at dropped ⊢; omega
  next allowed => simp at allowed ⊢; omega

theorem HopGuard.next_le (n : Nat) : HopGuard.next n ≤ maxHops := Nat.min_le_right _ _

/-! ### One bridge -/

/-- The values of the custom properties that are named like the hop count. -/
def Forwarder.customHops (f : Forwarder) : List String :=
  (f.customProperties.filter (·.1 = hopProperty)).map (·.2)

/-- All copies of the hop count that a message came with are gone. Those among the custom properties
stand before the new one. -/
theorem Forwarder.outgoing_hopProperties {f : Forwarder} (on : f.guard.enabled = true) (m : Message)
    (n : Nat) :
    (f.outgoingProperties m n).filter (·.name = hopProperty) =
      (f.customHops ++ [toString (HopGuard.next n)]).map (UserProperty.mk hopProperty) := by
  have old : (m.properties.filter (·.name ≠ hopProperty)).filter (·.name = hopProperty) = [] := by
    simp [List.filter_filter]
  have own (made : String × String → UserProperty) (same : made = fun p => ⟨p.1, p.2⟩) :
      (f.customProperties.map made).filter (·.name = hopProperty) =
        f.customHops.map (UserProperty.mk hopProperty) := by
    rw [same, List.filter_map, customHops, List.map_map]
    refine List.map_congr_left fun p member => ?_
    have named : p.1 = hopProperty := by simpa using (List.mem_filter.mp member).2
    exact congrArg (UserProperty.mk · p.2) named
  have new : [UserProperty.mk hopProperty (toString (HopGuard.next n))].filter
      (·.name = hopProperty) = [⟨hopProperty, toString (HopGuard.next n)⟩] := by simp
  rw [outgoingProperties, if_pos on, List.filter_append, List.filter_append, old, own _ rfl, new,
    List.nil_append, List.map_append, List.map_singleton]

theorem Forwarder.customHops_eq_nil {f : Forwarder} :
    f.customHops = [] ↔ ∀ p ∈ f.customProperties, p.1 ≠ hopProperty := by
  simp [customHops, List.filter_eq_nil_iff]

theorem Forwarder.transform_properties {f : Forwarder} {m candidate : Message} {n : Nat}
    (made : f.transform m n = .ok candidate) : candidate.properties = f.outgoingProperties m n := by
  unfold transform at made
  split at made <;> cases made
  rfl

/-- Every guard reads the first of the hop counts. -/
theorem Forwarder.transform_hopText {f : Forwarder} (on : f.guard.enabled = true)
    {m candidate : Message} {n : Nat} (made : f.transform m n = .ok candidate) :
    candidate.property? hopProperty =
      some (f.customHops.head?.getD (toString (HopGuard.next n))) := by
  rw [Message.property?, transform_properties made, ← List.head?_filter,
    outgoing_hopProperties on]
  cases f.customHops <;> rfl

theorem Forwarder.transform_hops {f : Forwarder} (on : f.guard.enabled = true)
    (custom : ∀ p ∈ f.customProperties, p.1 ≠ hopProperty) {m candidate : Message} {n : Nat}
    (made : f.transform m n = .ok candidate) : candidate.hops = HopGuard.next n := by
  have found : candidate.property? hopProperty = some (toString (HopGuard.next n)) := by
    rw [transform_hopText on made, customHops_eq_nil.mpr custom]
    rfl
  rw [Message.hops, found, Option.bind_some,
    Text.numberBelow?_toString (Nat.lt_succ_of_le (HopGuard.next_le n))]
  rfl

/-- A forwarder with loop prevention and the interceptor behind it, where nothing but the forwarder
writes hop counts. -/
structure Station where
  forwarder : Forwarder
  interceptor : Interceptor
  enabled : forwarder.guard.enabled = true
  /-- Limits are 32-bit numbers, as hop counts are. -/
  limit_le : forwarder.guard.limit ≤ maxHops
  custom : ∀ p ∈ forwarder.customProperties, p.1 ≠ hopProperty
  keeps : ∀ context m m', interceptor context m = .ok (.pass m') →
    m'.property? hopProperty = m.property? hopProperty

namespace Station

def limit (s : Station) : Nat := s.forwarder.guard.limit

def hops (s : Station) (m : Message) : Nat := s.forwarder.guard.hops m

def allows (s : Station) (m : Message) : Prop := s.forwarder.guard.decision (s.hops m) = .allow

/-- The transformed message goes through the interceptor and comes out as `m'`. -/
def relays (s : Station) (m m' : Message) : Prop :=
  ∃ candidate, s.forwarder.transform m (s.hops m) = .ok candidate ∧
    s.interceptor s.forwarder.context candidate = .ok (.pass m')

/-- The running forwarder accepts a message, and it comes out as `m'`. -/
def forwards (s : Station) (m m' : Message) : Prop :=
  ∃ candidate, s.forwarder.receive true m = .accepted candidate ∧
    s.interceptor s.forwarder.context candidate = .ok (.pass m')

variable {s : Station} {m m' : Message}

theorem hops_eq (s : Station) (m : Message) : s.hops m = m.hops := HopGuard.hops_enabled s.enabled m

theorem allows_iff : s.allows m ↔ m.hops = 0 ∨ m.hops < s.limit := by
  rw [allows, HopGuard.decision_allow_iff s.enabled, hops_eq]
  rfl

theorem forwards.allows (forwarded : s.forwards m m') : s.allows m := by
  obtain ⟨candidate, accepted, _⟩ := forwarded
  exact (Forwarder.receive_accepted_iff.mp accepted).2.1

theorem forwards.relays (forwarded : s.forwards m m') : s.relays m m' := by
  obtain ⟨candidate, accepted, passed⟩ := forwarded
  exact ⟨candidate, (Forwarder.receive_accepted_iff.mp accepted).2.2.2, passed⟩

/-- The next bridge reads the hop count raised by one. -/
theorem relays.hops (relayed : s.relays m m') : m'.hops = HopGuard.next m.hops := by
  obtain ⟨candidate, made, passed⟩ := relayed
  have written := Forwarder.transform_hops s.enabled s.custom made
  rw [Message.hops, s.keeps _ _ _ passed, ← Message.hops, written, hops_eq]

end Station

/-! ### Paths -/

section Paths
variable {stations : Nat → Station} {messages : Nat → Message} {k : Nat}

/-- After `i` bridges a message carries the count it came with and `i` more. -/
theorem hops_along (relayed : ∀ i, i + 1 < k → (stations i).relays (messages i) (messages (i + 1))) :
    ∀ i < k, (messages i).hops = min ((messages 0).hops + i) maxHops := by
  intro i bound
  induction i with
  | zero => exact (Nat.min_eq_left (messages 0).hops_le).symm
  | succ i ih =>
    rw [(relayed i bound).hops, ih (by omega), HopGuard.next]
    omega

/-- The saturation of hop counts is beyond every limit. -/
theorem allows_along (relayed : ∀ i, i + 1 < k → (stations i).relays (messages i) (messages (i + 1)))
    {i : Nat} (bound : i < k) :
    (stations i).allows (messages i) ↔
      (messages 0).hops + i = 0 ∨ (messages 0).hops + i < (stations i).limit := by
  have positive : 0 < maxHops := by decide
  have limit_le : (stations i).limit ≤ maxHops := (stations i).limit_le
  rw [Station.allows_iff, hops_along relayed i bound]
  omega

theorem forwards_length_le {L : Nat} (limits : ∀ i < k, (stations i).limit ≤ L)
    (forwarded : ∀ i < k, (stations i).forwards (messages i) (messages (i + 1))) :
    k ≤ max 1 L := by
  rcases k with _ | k
  · exact Nat.zero_le _
  · have relayed (i : Nat) (bound : i + 1 < k + 1) :=
      (forwarded i (by omega)).relays
    have last := (allows_along relayed (Nat.lt_succ_self k)).mp (forwarded k (by omega)).allows
    have limit_le := limits k (by omega)
    omega

end Paths

/-- A message that came through some bridge has a hop count, so no bridge with a limit of one
forwards it again. -/
theorem Station.relays.turned_away {s s' : Station} {m m' : Message} (relayed : s.relays m m')
    (limit : s'.limit ≤ 1) (running : Bool) :
    s'.forwarder.receive running m' =
      .ended (.dropped (if running then .loopPrevention else .stopped)) := by
  have raised : 0 < m'.hops := by
    rw [relayed.hops, HopGuard.next]
    exact Nat.lt_min.mpr ⟨Nat.succ_pos _, by decide⟩
  have dropped : s'.forwarder.guard.decision (s'.forwarder.guard.hops m') = .drop := by
    have refused : ¬ s'.allows m' := by
      rw [Station.allows_iff]
      omega
    unfold Station.allows Station.hops at refused
    cases decision : s'.forwarder.guard.decision (s'.forwarder.guard.hops m') with
    | allow => exact absurd decision refused
    | drop => rfl
  cases running <;> simp [Forwarder.receive, dropped]

/-- Along every path of bridges the guards let a message pass as long as the hops it came with and
the bridges it crossed are none or below the limit. So a path is no longer than the largest limit
on it, or one bridge, and no message goes on for ever, in cycles or otherwise. Where the limit is
one, a message that came in from a remote is not sent out again. -/
theorem paths_are_bounded (stations : Nat → Station) (messages : Nat → Message) :
    (∀ k, (∀ i, i + 1 < k → (stations i).relays (messages i) (messages (i + 1))) →
      let h := (stations 0).hops (messages 0)
      ((∀ i < k, (stations i).allows (messages i)) ↔
        ∀ i < k, h + i = 0 ∨ h + i < (stations i).limit)) ∧
    (∀ k L, (∀ i < k, (stations i).limit ≤ L) →
      (∀ i < k, (stations i).forwards (messages i) (messages (i + 1))) → k ≤ max 1 L) ∧
    (¬ ∀ i, (stations i).forwards (messages i) (messages (i + 1))) ∧
    ∀ (s s' : Station) (m m' : Message) (running : Bool), s.relays m m' → s'.limit ≤ 1 →
      s'.forwarder.receive running m' =
        .ended (.dropped (if running then .loopPrevention else .stopped)) := by
  refine ⟨?_, ?_, ?_, ?_⟩
  · intro k relayed h
    have start : h = (messages 0).hops := (stations 0).hops_eq (messages 0)
    rw [start]
    exact forall₂_congr fun i bound => allows_along relayed bound
  · intro k L limits forwarded
    exact forwards_length_le limits forwarded
  · intro forwarded
    have length := forwards_length_le (k := max 1 maxHops + 1) (fun i _ => (stations i).limit_le)
      fun i _ => forwarded i
    omega
  · intro s s' m m' running relayed limit
    exact relayed.turned_away limit running

/-- A bridge that changes nothing but the hop count. -/
def Station.plain (limit : Nat) (limit_le : limit ≤ maxHops) : Station where
  forwarder := { id := "plain-outbound-0", bridgeId := "plain", direction := .outbound, filters := [],
                 excludes := [], template := { source := Topic.Template.passThrough, segments := [] },
                 maxQos := .exactlyOnce, preserveRetain := true, customProperties := [],
                 guard := { enabled := true, limit } }
  interceptor := Interceptor.passThrough
  enabled := rfl
  limit_le := limit_le
  custom := by simp
  keeps := by
    intro context m m' passed
    cases passed
    rfl

theorem Station.plain_relays (limit : Nat) (limit_le : limit ≤ maxHops) (m : Message) :
    ∃ m', (plain limit limit_le).relays m m' :=
  ⟨_, _, rfl, rfl⟩

theorem Station.plain_forwards {limit : Nat} {limit_le : limit ≤ maxHops} {m m' : Message}
    (relayed : (plain limit limit_le).relays m m') (allowed : (plain limit limit_le).allows m) :
    (plain limit limit_le).forwards m m' := by
  obtain ⟨candidate, made, passed⟩ := relayed
  exact ⟨candidate, Forwarder.receive_accepted_iff.mpr ⟨rfl, allowed, rfl, made⟩, passed⟩

/-- The bound is exact: some message crosses as many bridges as the limit says, or one. -/
theorem bound_attained (limit : Nat) (limit_le : limit ≤ maxHops) :
    ∃ messages : Nat → Message, ∀ i < max 1 limit,
      (Station.plain limit limit_le).forwards (messages i) (messages (i + 1)) := by
  choose next relayed using Station.plain_relays limit limit_le
  let messages (i : Nat) : Message := next^[i] { topic := "t" }
  have chain (i : Nat) : (Station.plain limit limit_le).relays (messages i) (messages (i + 1)) := by
    simp only [messages, Function.iterate_succ_apply']
    exact relayed _
  refine ⟨messages, fun i bound => Station.plain_forwards (chain i) ?_⟩
  have fresh : (messages 0).hops = 0 := rfl
  have limits : (Station.plain limit limit_le).limit = limit := rfl
  have along := @allows_along (fun _ => Station.plain limit limit_le) messages (max 1 limit)
    (fun i _ => chain i) i bound
  rw [fresh, limits] at along
  exact along.mpr (by omega)

end EdgeGateway

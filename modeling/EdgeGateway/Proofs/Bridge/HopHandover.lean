import EdgeGateway.Proofs.Bridge.Admission
import EdgeGateway.Proofs.Bridge.LoopPrevention

/-!
# Handing over hop counts

A bridge with loop prevention writes the raised hop count behind the custom properties of the
subscription, and the next bridge reads the first property of that name. `hop_counts_are_handed_over`
says what it finds there: the raised count, unless a custom property has taken its name.
-/

namespace EdgeGateway

theorem Forwarder.build_hops {c : BridgeConfig} {d : Direction} {i : Nat} {s : BridgeSubscription}
    {f : Forwarder} (built : build c d i s = .ok f) :
    f.customProperties = s.customProperties ∧
      f.guard = { enabled := c.loopPrevention, limit := c.hopLimit } := by
  unfold build at built
  split at built
  · cases built
  · split at built <;> cases built
    exact ⟨rfl, rfl⟩

/-- The number that a text stands for as a hop count; what is no such number stands for none. -/
def readHops (text : String) : Nat := (Text.numberBelow? (maxHops + 1) text.toList).getD 0

theorem HopGuard.hops_of_property {g : HopGuard} (on : g.enabled = true) {m : Message} {text : String}
    (found : m.property? hopProperty = some text) : g.hops m = readHops text := by
  rw [HopGuard.hops, if_pos on, found, Option.bind_some, readHops]

theorem readHops_toString {n : Nat} (bound : n ≤ maxHops) : readHops (toString n) = n := by
  rw [readHops, Text.numberBelow?_toString (Nat.lt_succ_of_le bound), Option.getD_some]

/-- A message that a bridge with loop prevention has transformed has one hop count more than there are
custom properties of that name. Every guard that is on reads the first of these, or else the hop count
of the message before, raised by one as long as 32 bits last. So the count is handed over, in a single
property, exactly by subscriptions without such a custom property. -/
theorem hop_counts_are_handed_over {c : BridgeConfig} {d : Direction} {i : Nat}
    {s : BridgeSubscription} {f : Forwarder} {m candidate : Message} (on : c.loopPrevention = true)
    (built : Forwarder.build c d i s = .ok f)
    (made : f.transform m (f.guard.hops m) = .ok candidate) :
    let own := s.customProperties.filter (·.1 = hopProperty)
    candidate.properties.countP (·.name = hopProperty) = own.length + 1 ∧
      (∀ g : HopGuard, g.enabled = true → g.hops candidate = match own with
        | [] => min (f.guard.hops m + 1) (2 ^ 32 - 1)
        | p :: _ => readHops p.2) ∧
      (candidate.properties.countP (·.name = hopProperty) = 1 ↔
        ∀ p ∈ s.customProperties, p.1 ≠ hopProperty) := by
  intro own
  obtain ⟨custom, guard⟩ := Forwarder.build_hops built
  have enabled : f.guard.enabled = true := by rw [guard]; exact on
  have hops : f.customHops = own.map (·.2) := by rw [Forwarder.customHops, custom]
  have count : candidate.properties.countP (·.name = hopProperty) = own.length + 1 := by
    rw [List.countP_eq_length_filter, Forwarder.transform_properties made,
      Forwarder.outgoing_hopProperties enabled, hops]
    simp
  refine ⟨count, fun g on => ?_, ?_⟩
  · rw [HopGuard.hops_of_property on (Forwarder.transform_hopText enabled made), hops]
    cases own with
    | nil => exact readHops_toString (HopGuard.next_le _)
    | cons p rest => rfl
  · rw [count, Nat.add_eq_right, List.length_eq_zero_iff, List.filter_eq_nil_iff]
    simp

/-- A subscription with a property of its own. -/
def labelling : BridgeSubscription := { filters := ["#"], customProperties := [("site", "plant-7")] }

/-- A bridge that lets messages cross up to five bridges. -/
def labellingBridge : BridgeConfig where
  id := "b1"
  host := "h"
  hopLimit := 5
  localSubscriptions := [labelling]

/-- A message that has crossed three bridges, with a second hop count that nobody reads. -/
def travelled : Message where
  topic := "a"
  properties := [⟨hopProperty, "3"⟩, ⟨hopProperty, "9"⟩]

theorem fourth_hop_is_handed_over :
    ∃ f candidate, Forwarder.build labellingBridge .outbound 0 labelling = .ok f ∧
      f.guard.decision (f.guard.hops travelled) = .allow ∧
      f.transform travelled (f.guard.hops travelled) = .ok candidate ∧
      candidate.properties.countP (·.name = hopProperty) = 1 ∧
      ({ enabled := true, limit := 1 } : HopGuard).hops candidate = 4 := by
  obtain ⟨f, built⟩ : ∃ f, Forwarder.build labellingBridge .outbound 0 labelling = .ok f := ⟨_, rfl⟩
  have hops : f.guard.hops travelled = 3 := by
    cases built
    rfl
  have allowed : f.guard.decision 3 = .allow := by
    cases built
    rfl
  obtain ⟨candidate, made⟩ : ∃ candidate, f.transform travelled 3 = .ok candidate := by
    cases built
    exact ⟨_, rfl⟩
  rw [← hops] at allowed made
  obtain ⟨_, read, single⟩ := hop_counts_are_handed_over rfl built made
  have next := read { enabled := true, limit := 1 } rfl
  rw [hops] at next
  exact ⟨f, candidate, built, allowed, made, single.mpr (by decide), next⟩

/-- A subscription with a custom property that takes the name of the hop count. -/
def resetting : BridgeSubscription := { filters := ["#"], customProperties := [(hopProperty, "0")] }

def resettingBridge : BridgeConfig where
  id := "b1"
  host := "h"
  localSubscriptions := [resetting]

/-- Validation lets custom properties take the name of the hop count. -/
theorem not_every_hop_count_is_handed_over :
    ¬ ∀ (c : BridgeConfig) (d : Direction) (i : Nat) (s : BridgeSubscription) (f : Forwarder)
        (m candidate : Message), c.validate = .ok () → c.loopPrevention = true →
      s ∈ c.subscriptions → Forwarder.build c d i s = .ok f →
      f.guard.decision (f.guard.hops m) = .allow →
      f.transform m (f.guard.hops m) = .ok candidate →
      candidate.properties.countP (·.name = hopProperty) = 1 ∧
        ∀ g : HopGuard, g.enabled = true →
          g.hops candidate = min (f.guard.hops m + 1) (2 ^ 32 - 1) := by
  intro all
  have valid : resettingBridge.validate = .ok () := rfl
  obtain ⟨single, _⟩ := all resettingBridge .outbound 0 resetting _ { topic := "a" } _ valid rfl
    List.mem_cons_self rfl rfl rfl
  exact absurd single (by decide)

end EdgeGateway

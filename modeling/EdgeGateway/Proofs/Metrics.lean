import EdgeGateway.Metrics.Basic
import EdgeGateway.Proofs.Table

/-!
# Reading counters

Counting raises one counter of one bridge and direction, and looking at counters raises none.
-/

namespace EdgeGateway

theorem BridgeCounters.get_add (c : BridgeCounters) (amount : Nat) (counter other : BridgeCounter) :
    (c.add amount counter).get other = c.get other + if other = counter then amount else 0 := by
  cases counter <;> cases other <;> simp [add, get]

theorem AdapterCounters.get_add (c : AdapterCounters) (amount : Nat) (counter other : AdapterCounter) :
    (c.add amount counter).get other = c.get other + if other = counter then amount else 0 := by
  cases counter <;> cases other <;> simp [add, get]

/-- Counting one after the other is counting how often each counter comes up. -/
theorem AdapterCounters.get_foldl_add (counters : List AdapterCounter) (c : AdapterCounters)
    (other : AdapterCounter) :
    (counters.foldl (fun c counter => c.add 1 counter) c).get other =
      c.get other + counters.count other := by
  induction counters generalizing c with
  | nil => rfl
  | cons counter counters ih =>
    rw [List.foldl_cons, ih, get_add, List.count_cons, Nat.add_assoc, Nat.add_comm (counters.count _)]
    by_cases same : other = counter
    · simp [same]
    · simp [same, Ne.symm same]

namespace Metrics

theorem bridgeCounters_updateBridge (m : Metrics) (bridge direction : String)
    (f : BridgeCounters → BridgeCounters) (bridge' direction' : String) :
    (m.updateBridge bridge direction f).bridgeCounters bridge' direction' =
      if bridge' = bridge ∧ direction' = direction then f (m.bridgeCounters bridge direction)
      else m.bridgeCounters bridge' direction' := by
  simp only [updateBridge, bridgeCounters, Table.find?_insert]
  by_cases here : bridge' = bridge
  · subst here
    by_cases there : direction' = direction <;> simp [there]
  · simp [here]

@[simp] theorem bridgeCounters_openBridge (m : Metrics) (bridge direction : String)
    (bridge' direction' : String) :
    (m.openBridge bridge direction).bridgeCounters bridge' direction' =
      m.bridgeCounters bridge' direction' := by
  rw [openBridge, bridgeCounters_updateBridge]
  split
  next same => rw [same.1, same.2]; rfl
  next => rfl

theorem get_countBridge (m : Metrics) (bridge direction : String) (counter : BridgeCounter)
    (bridge' direction' : String) (other : BridgeCounter) :
    ((m.countBridge bridge direction counter).bridgeCounters bridge' direction').get other =
      (m.bridgeCounters bridge' direction').get other +
        if (bridge' = bridge ∧ direction' = direction) ∧ other = counter then 1 else 0 := by
  rw [countBridge, bridgeCounters_updateBridge]
  by_cases same : bridge' = bridge ∧ direction' = direction
  · obtain ⟨rfl, rfl⟩ := same
    simp [BridgeCounters.get_add]
  · simp [same]

end Metrics
end EdgeGateway

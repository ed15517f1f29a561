import EdgeGateway.Bridge.Forwarder
import EdgeGateway.Proofs.Lists
import EdgeGateway.Proofs.Text.Numeral

/-!
# Forwarders

No two subscriptions of any bridges share a forwarder id. What it takes for a forwarder to accept a
message, and which outcomes a message can have at once.
-/

namespace EdgeGateway

theorem Direction.text_inj {d d' : Direction} (same : d.text = d'.text) : d = d' := by
  cases d <;> cases d' <;> simp_all [Direction.text]

theorem Direction.hyphen_notMem_text (d : Direction) : '-' ∉ d.text.toList := by
  cases d <;> decide

theorem QoS.toNat_weaker (a b : QoS) : (a.weaker b).toNat = min a.toNat b.toNat := by
  unfold weaker
  split <;> omega

theorem QoS.toNat_inj {a b : QoS} (same : a.toNat = b.toNat) : a = b := by
  cases a <;> cases b <;> first | rfl | cases same

namespace Forwarder

/-! ### Ids -/

theorem idOf_toList (bridgeId : String) (direction : Direction) (index : Nat) :
    (idOf bridgeId direction index).toList =
      (bridgeId.toList ++ '-' :: direction.text.toList) ++ '-' :: (toString index).toList := by
  have text : idOf bridgeId direction index =
      bridgeId ++ "-" ++ direction.text ++ "-" ++ toString index := rfl
  simp [text]

/-- An id tells bridge, direction and index, whatever characters the bridge id has. -/
theorem idOf_inj {b b' : String} {d d' : Direction} {i i' : Nat} (same : idOf b d i = idOf b' d' i') :
    b = b' ∧ d = d' ∧ i = i' := by
  have hyphen (n : Nat) : '-' ∉ (toString n).toList := fun member =>
    absurd (Text.isDigit_of_mem_toString member) (by decide)
  have lists := congrArg String.toList same
  rw [idOf_toList, idOf_toList] at lists
  obtain ⟨front, index⟩ := append_separator_inj (hyphen i) (hyphen i') lists
  obtain ⟨bridge, direction⟩ :=
    append_separator_inj d.hyphen_notMem_text d'.hyphen_notMem_text front
  exact ⟨String.toList_inj.mp bridge, Direction.text_inj (String.toList_inj.mp direction),
    Text.toString_inj (String.toList_inj.mp index)⟩

theorem build_id {bridge : BridgeConfig} {d : Direction} {i : Nat} {s : BridgeSubscription}
    {f : Forwarder} (built : build bridge d i s = .ok f) : f.id = idOf f.bridgeId f.direction i := by
  unfold build at built
  split at built
  · cases built
  · split at built <;> cases built
    rfl

theorem build_labels {bridge : BridgeConfig} {d : Direction} {i : Nat} {s : BridgeSubscription}
    {f : Forwarder} (built : build bridge d i s = .ok f) :
    f.id = idOf bridge.id d i ∧ f.bridgeId = bridge.id ∧ f.direction = d ∧ f.filters = s.filters := by
  unfold build at built
  split at built
  · cases built
  · split at built <;> cases built
    exact ⟨rfl, rfl, rfl, rfl⟩

/-! ### Transformation -/

/-- What a forwarder makes of a message: `t` is `m` with the remapped topic, the smaller QoS, the
retain flag if it is preserved, and new user properties. -/
structure Transformed (f : Forwarder) (m t : Message) : Prop where
  topic : f.template.expand m.topic [(bridgeNameToken, f.bridgeId)] = .ok t.topic
  qos : t.qos.toNat = min m.qos.toNat f.maxQos.toNat
  retain : t.retain = (f.preserveRetain && m.retain)
  properties : t.properties = m.properties.filter (·.name ≠ hopProperty) ++
    f.customProperties.map (fun (name, value) => UserProperty.mk name value) ++
    if f.guard.enabled then
      [{ name := hopProperty, value := toString (HopGuard.next (f.guard.hops m)) }]
    else []
  others : t = { m with topic := t.topic, qos := t.qos, retain := t.retain,
                        properties := t.properties }

theorem transform_iff {f : Forwarder} {m t : Message} :
    f.transform m (f.guard.hops m) = .ok t ↔ f.Transformed m t := by
  constructor
  · intro made
    unfold transform at made
    split at made
    · cases made
    · next topic expanded =>
      cases made
      exact ⟨expanded, QoS.toNat_weaker _ _, rfl, rfl, rfl⟩
  · intro spec
    have qos : t.qos = m.qos.weaker f.maxQos :=
      QoS.toNat_inj (spec.qos.trans (QoS.toNat_weaker _ _).symm)
    rw [transform, spec.topic, spec.others, qos, spec.retain, spec.properties]
    rfl

/-! ### Reception -/

variable {f : Forwarder} {running : Bool} {m candidate : Message} {o : ForwardOutcome}

/-- A message is accepted by a running forwarder whose guard lets it pass, which does not exclude
it and can transform it. -/
theorem receive_accepted_iff :
    f.receive running m = .accepted candidate ↔
      running = true ∧ f.guard.decision (f.guard.hops m) = .allow ∧ f.isExcluded m.topic = false ∧
        f.transform m (f.guard.hops m) = .ok candidate := by
  unfold receive
  cases running with
  | false => simp
  | true =>
    cases decision : f.guard.decision (f.guard.hops m) with
    | drop => simp [decision]
    | allow =>
      cases excluded : f.isExcluded m.topic with
      | true => simp [decision]
      | false =>
        cases transformed : f.transform m (f.guard.hops m) <;> simp [decision, transformed]

/-- A message is refused exactly by a forwarder that does not run. -/
theorem receive_stopped_iff (reception : f.receive running m = .ended o) :
    o = .dropped .stopped ↔ running = false := by
  unfold receive at reception
  cases running with
  | false => simpa using reception.symm
  | true =>
    simp only [Bool.not_true, Bool.false_eq_true, ↓reduceIte] at reception
    split at reception
    · cases reception; simp
    · split at reception
      · cases reception; simp
      · split at reception <;> cases reception
        simp

end Forwarder
end EdgeGateway

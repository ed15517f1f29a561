import EdgeGateway.Proofs.Bridge.Calls
import EdgeGateway.Proofs.Bridge.Management

/-!
# Forwarder ids in a manager's runs

A manager gives each forwarder the id of its subscription, and offers every message under the id
of the forwarder that gets it. So a report tells by its queue id where the message was offered.
-/

namespace EdgeGateway

namespace Traffic

/-- New forwarders have the id of a subscription, and messages come under the id of the forwarder
they are given to. -/
def Event.Labelled (t : Traffic) : Event → Prop
  | .addLane f _ => ∃ index, f.id = Forwarder.idOf f.bridgeId f.direction index
  | .forward lane _ ack => ∃ f, t.forwarder? lane = some f ∧ ack.queueId = f.id
  | _ => True

structure Labelled (t : Traffic) : Prop where
  lanes : ∀ lane f, t.forwarder? lane = some f →
    ∃ index, f.id = Forwarder.idOf f.bridgeId f.direction index
  calls : ∀ c ∈ t.calls, ∃ f, t.forwarder? c.lane = some f ∧ c.ack.queueId = f.id

theorem Event.Labelled.step {t : Traffic} {e : Event} (labelled : e.Labelled t) (e' : Event) :
    e.Labelled (t.step e') := by
  cases e with
  | forward lane m ack =>
    obtain ⟨f, present, id⟩ := labelled
    exact ⟨f, step_forwarder e' present, id⟩
  | _ => exact labelled

/-- A call that a step leaves behind was there before under the same label, or is made by the step. -/
theorem step_calls {t : Traffic} {e : Event} {c : Call} (member : c ∈ (t.step e).calls) :
    (∃ old ∈ t.calls, old.lane = c.lane ∧ old.ack = c.ack) ∨ ∃ m, e = .forward c.lane m c.ack := by
  obtain ⟨i, known⟩ := List.mem_iff_getElem?.mp member
  rcases step_call known with ⟨old, _, _, before, change⟩ | ⟨lane, m, ack, l, rfl, _, rfl⟩
  · exact .inl ⟨old, List.mem_of_getElem? before, change.lane.symm, change.ack.symm⟩
  · exact .inr ⟨m, rfl⟩

theorem Labelled.step {t : Traffic} {e : Event} (labelled : Labelled t) (event : e.Labelled t) :
    Labelled (t.step e) := by
  constructor
  · intro lane f present
    cases e with
    | addLane g target =>
      rw [Traffic.step, addLane_forwarder?] at present
      split at present
      · cases present
        exact event
      · exact labelled.lanes lane f present
    | _ =>
      rw [(step_change t _).forwarder?_eq (by simp)] at present
      exact labelled.lanes lane f present
  · intro c member
    rcases step_calls member with ⟨old, before, lane, ack⟩ | ⟨m, rfl⟩
    · obtain ⟨f, present, id⟩ := labelled.calls old before
      rw [lane] at present
      rw [ack] at id
      exact ⟨f, step_forwarder e present, id⟩
    · obtain ⟨f, present, id⟩ := event
      exact ⟨f, step_forwarder _ present, id⟩

theorem run_labelled {t : Traffic} {es : List Event} (labelled : Labelled t)
    (events : Throughout (fun t e => e.Labelled t) t es) : Labelled (t.run es) := by
  induction es generalizing t with
  | nil => exact labelled
  | cons e es ih => exact ih (labelled.step events.1) events.2

end Traffic

namespace BridgeManager

open Traffic (Event)

theorem buildForwarders_id {config : BridgeConfig} {d : Direction} {subs : List BridgeSubscription}
    {first : Nat} {f : Forwarder} (built : f ∈ (buildForwarders config d first subs).1) :
    ∃ index, f.id = Forwarder.idOf f.bridgeId f.direction index := by
  induction subs generalizing first with
  | nil => simp [buildForwarders] at built
  | cons s rest ih =>
    unfold buildForwarders at built
    split at built
    next g here =>
      rcases List.mem_cons.mp built with rfl | later
      · exact ⟨first, Forwarder.build_id here⟩
      · exact ih later
    next => simp at built

theorem buildEvents_labelled {t : Traffic} {config : BridgeConfig} {remote : String} {e : Event}
    (member : e ∈ buildEvents config remote) : e.Labelled t := by
  unfold buildEvents at member
  split at member
  next out fault built =>
    obtain ⟨f, _, rfl⟩ := List.mem_map.mp member
    trivial
  next out built_out =>
    split at member
    next inn fault built_inn =>
      obtain ⟨f, _, rfl⟩ := List.mem_map.mp member
      trivial
    next inn built_inn =>
      rcases List.mem_append.mp member with sent | got
      · obtain ⟨f, there, rfl⟩ := List.mem_map.mp sent
        exact buildForwarders_id (by rw [built_out]; exact there)
      · obtain ⟨f, there, rfl⟩ := List.mem_map.mp got
        exact buildForwarders_id (by rw [built_inn]; exact there)

theorem switch_labelled {t : Traffic} {lanes : List Nat} {running : Bool} {e : Event}
    (member : e ∈ lanes.map (switch running)) : e.Labelled t := by
  obtain ⟨lane, _, rfl⟩ := List.mem_map.mp member
  cases running <;> trivial

theorem offerEvents_labelled {t : Traffic} {m : Message} {messageId : Nat} {lanes : List Nat}
    {e : Event} (member : e ∈ offerEvents t m messageId lanes) : e.Labelled t := by
  obtain ⟨lane, _, made⟩ := List.mem_filterMap.mp member
  obtain ⟨f, wanted, rfl⟩ := Option.map_eq_some_iff.mp made
  exact ⟨f, (Option.filter_eq_some_iff.mp wanted).1, rfl⟩

theorem addEvents_labelled {m : BridgeManager} {config : BridgeConfig} {remote : String} {e : Event}
    (member : e ∈ m.addEvents config remote) : e.Labelled m.traffic := by
  unfold addEvents at member
  split at member
  · cases member
  · split at member
    · cases member
    · split at member
      · exact buildEvents_labelled member
      · rcases List.mem_append.mp member with built | switched
        · exact buildEvents_labelled built
        · exact switch_labelled switched

theorem beginUpdateEvents_labelled {m : BridgeManager} {config : BridgeConfig} {remote : String}
    {e : Event} (member : e ∈ m.beginUpdateEvents config remote) : e.Labelled m.traffic := by
  unfold beginUpdateEvents at member
  split at member
  · cases member
  · split at member
    · cases member
    · split at member
      · exact buildEvents_labelled member
      · rcases List.mem_append.mp member with built | switched
        · exact buildEvents_labelled built
        · exact switch_labelled switched

theorem State.events_labelled {s : State} {a : Action} {e : Event} (member : e ∈ s.events a) :
    e.Labelled s.manager.traffic := by
  cases a with
  | add config remote =>
    simp only [events] at member
    split at member
    · cases member
    · exact addEvents_labelled member
  | beginUpdate config remote =>
    simp only [events] at member
    split at member
    · cases member
    · exact beginUpdateEvents_labelled member
  | beginDelete id =>
    simp only [events, beginDeleteEvents] at member
    split at member
    · cases member
    · split at member
      · cases member
      · exact switch_labelled member
  | complete =>
    simp only [events, completeEvents] at member
    split at member
    · split at member
      · exact switch_labelled member
      · cases member
    · cases member
  | giveUp => cases member
  | startAll | stopAll => exact switch_labelled member
  | forwardLocal m messageId => exact offerEvents_labelled member
  | forwardRemote id m messageId =>
    simp only [events] at member
    split at member
    · exact offerEvents_labelled member
    · cases member
  | intercepted | answered | abort =>
    obtain rfl := List.mem_singleton.mp member
    trivial

theorem State.history_labelled (s : State) (actions : List Action) :
    Traffic.Throughout (fun t e => e.Labelled t) s.manager.traffic (s.history actions) := by
  induction actions generalizing s with
  | nil => trivial
  | cons a actions ih =>
    refine Traffic.throughout_append.mpr ⟨?_, ?_⟩
    · exact Traffic.throughout_of_stable (fun t e e' labelled => labelled.step e')
        fun e member => events_labelled member
    · rw [← step_traffic]
      exact ih (s.step a)

theorem State.run_labelled (actions : List Action) :
    Traffic.Labelled (State.run {} actions).manager.traffic := by
  rw [run_traffic]
  refine Traffic.run_labelled ⟨?_, ?_⟩ (history_labelled {} actions)
  · intro lane f present
    simp [Traffic.forwarder?] at present
  · intro c member
    cases member

end BridgeManager
end EdgeGateway

import EdgeGateway.Proofs.Bridge.Replacement
import EdgeGateway.Proofs.Gateway.Drain

/-!
# Updates of bridges

An update hands a bridge over from its old link to a new one. In between the bridge refuses messages,
afterwards the old link is out of use for good. `HandedOver` is what a gateway does in an update:
between the stop of the old link and the start of the new one it waits, by its own clock, for the old
lanes.
-/

namespace EdgeGateway.Gateway

open BridgeManager (Action State Passes Turn Watch acts)
open BridgeManager.State (Interrupted Succeeded Update Waits update_begun updated updating)

/-- A gateway has updated a bridge, and these were the turns of its wait. -/
structure HandedOver (g g' : Gateway) (past : List Action) (turns : List Turn) (config : BridgeConfig)
    (remote : String) (old new : Link) : Prop where
  update : Update past config remote old new
  waits : ∀ a ∈ acts turns, Waits a
  finished : (Watch.run ⟨State.run {} (updating past config remote),
    { lanes := old.lanes, since := g.agenda.now, timeout := g.drainTimeout }⟩ turns).drain.isOver = true
  /-- The old lanes are waited for from the stop of the old link on, and the new link takes its place
  when that is done. -/
  awaited : ∃ waited,
    Awaited (some { id := config.id, replacement := .link new }) g.drainTimeout g.agenda.now
      { g with bridges := (g.bridges.beginUpdate config remote).1 } old.lanes (acts turns) waited ∧
    g' = { waited with
           bridges := waited.bridges.complete { id := config.id, replacement := .link new } }
  /-- Each old lane was empty at some moment of the wait, or has used up its timeout, -/
  each : ∀ lane ∈ old.lanes, ∃ before after g₁, acts turns = before ++ after ∧
    Reached g₁ (updating past config remote ++ before)
      (some { id := config.id, replacement := .link new }) ∧
    g.agenda.now ≤ g₁.agenda.now ∧ g₁.agenda.now ≤ g'.agenda.now ∧
    (g₁.traffic.inflight lane = 0 ∨ g.agenda.now + g.drainTimeout ≤ g₁.agenda.now)
  /-- and at every moment of it the bridge refuses what it is given and the new link is not used. -/
  interrupted : ∀ before after, acts turns = before ++ after →
    Interrupted (updating past config remote) before config.id old new
  reached : Reached g' (updated past config remote (acts turns)) none
  installed : g'.bridges.links.find? config.id = some new
  running : ∀ lane ∈ new.lanes, g'.traffic.Running lane
  succeeded : ∀ more, Succeeded (updated past config remote (acts turns)) more config.id old new

variable {g g' : Gateway} {past : List Action} {config : BridgeConfig} {remote : String}

/-- A gateway that updates a bridge hands it over. -/
theorem updateBridge_handedOver (reached : Reached g past none)
    (accepted : g.updateBridge config remote = (g', .ok ())) :
    ∃ old new turns, HandedOver g g' past turns config remote old new := by
  have idle := reached.pending
  obtain ⟨adapters, before⟩ := reached
  have begun := BridgeManager.beginUpdate_setAdapters (State.run {} past).manager adapters config remote
  rw [← show g.bridges = (State.run {} past).manager.setAdapters adapters from
    congrArg State.manager before] at begun
  unfold updateBridge at accepted
  generalize result : g.bridges.beginUpdate config remote = outcome at accepted begun
  obtain ⟨bridges, fault | h⟩ := outcome
  · cases (Prod.mk.inj accepted).2
  · obtain ⟨rfl, _⟩ := Prod.mk.inj accepted
    obtain ⟨old, new, rfl, update⟩ := update_begun idle (Prod.mk.inj begun).2.symm
    have started : Reached { g with bridges } (updating past config remote)
        (some { id := config.id, replacement := .link new }) := by
      refine Reached.step ⟨adapters, before⟩ ?_
      change _ = State.begin _ (g.bridges.beginUpdate config remote)
      rw [result]
      rfl
    obtain ⟨turns, passes, awaited, finished, _, _, after⟩ := started.carryOut
    have lanes : (State.run {} (updating past config remote)).manager.draining
        { id := config.id, replacement := .link new } = old.lanes := by
      rw [BridgeManager.draining, update.links, update.present]
    rw [lanes] at awaited finished
    have waits (a : Action) (member : a ∈ acts turns) : Waits a := (passes a member).waits
    have there : Reached _ (updated past config remote (acts turns)) none := after
    refine ⟨old, new, turns, update, waits, List.isEmpty_iff.mpr finished, ⟨_, ?_, rfl⟩, ?_, ?_, there,
      ?_, ?_, update.succeeded waits⟩
    · rw [result]
      exact awaited
    · intro lane member
      exact awaited.each started (Nat.le_refl _) (Nat.le_refl _) member
    · intro before after split
      exact update.interrupted fun a member => waits a (split ▸ List.mem_append_left after member)
    · rw [there.links, update.installed waits, if_pos rfl]
    · intro lane member
      rw [Traffic.Running, there.lanes]
      exact update.running waits member

/-- An accepted update, whatever happens while it waits and whatever comes after it.

It stops the old link first. Until it returns every message for the bridge is refused at once and
never published, and the new link has no message at all; it does not return before each old lane has
been seen empty or has used up its timeout. From then on messages for the bridge go to the new link,
while the old lanes stay stopped and get nothing more, even if all forwarders are stopped or started;
what they still have under way ends and is reported once.

The first part is about a manager, whose update returns when its drain is over, with anything that may
happen between two looks at the old lanes. The second part is about a gateway with any tasks on its agenda,
which waits by itself and by its own clock. -/
theorem update_hands_over :
    (∀ (past : List Action) (config : BridgeConfig) (remote : String) (h : Handover),
      (State.run {} past).change = none →
      ((State.run {} past).manager.beginUpdate config remote).2 = .ok h →
      ∃ old new, h = { id := config.id, replacement := .link new } ∧
        Update past config remote old new ∧
        ∀ (turns : List Turn) (since timeout : Nat), (∀ a ∈ acts turns, Waits a) →
          let w : Watch := ⟨State.run {} (updating past config remote),
            { lanes := old.lanes, since, timeout }⟩
          let done := updated past config remote (acts turns)
          Interrupted (updating past config remote) (acts turns) config.id old new ∧
          ((w.run turns).drain.isOver = true → (∀ lane ∈ old.lanes, w.Waited turns lane) ∧
            (State.run {} done).change = none ∧
            (State.run {} done).manager.links.find? config.id = some new ∧
            (∀ lane ∈ new.lanes, (State.run {} done).manager.traffic.Running lane) ∧
            ∀ more, Succeeded done more config.id old new)) ∧
    ∀ (g g' : Gateway) (past : List Action) (config : BridgeConfig) (remote : String),
      Reached g past none → g.updateBridge config remote = (g', .ok ()) →
      ∃ old new turns, HandedOver g g' past turns config remote old new := by
  constructor
  · intro past config remote h idle accepted
    obtain ⟨old, new, change, update⟩ := update_begun idle accepted
    refine ⟨old, new, change, update, fun turns since timeout waits => ?_⟩
    refine ⟨update.interrupted waits, fun finished => ⟨?_, ?_, ?_, ?_, update.succeeded waits⟩⟩
    · intro lane member
      exact Watch.run_waited member (List.isEmpty_iff.mp finished)
    · rw [update.completed waits]
    · rw [update.installed waits, if_pos rfl]
    · intro lane member
      exact update.running waits member
  · intro g g' past config remote reached accepted
    exact updateBridge_handedOver reached accepted

/-- The busy lane of a bridge is replaced while it delivers its message. A gateway waits for it until the
second look. -/
theorem busy_lane_is_replaced :
    Interrupted (updating busy plainBridge "r") (acts delivery) "b" (plainLink 0) (plainLink 1) ∧
      (∀ more, Succeeded (updated busy plainBridge "r" (acts delivery)) more "b" (plainLink 0)
        (plainLink 1)) ∧
      (∃ turns, HandedOver busyGateway (busyGateway.updateBridge plainBridge "r").1 busy turns
        plainBridge "r" (plainLink 0) (plainLink 1)) ∧
      (busyGateway.updateBridge plainBridge "r").1.agenda.now = busyGateway.agenda.now + 10 := by
  obtain ⟨manager, gateway⟩ := update_hands_over
  have accepted : ((State.run {} busy).manager.beginUpdate plainBridge "r").2 = .ok (plainChange 1) :=
    rfl
  have same {old new : Link} (update : Update busy plainBridge "r" old new) :
      old = plainLink 0 ∧ new = plainLink 1 := by
    have before : some old = some (plainLink 0) := update.present.symm.trans rfl
    have pending : some { id := "b", replacement := .link new } = some (plainChange 1) :=
      update.pending.symm.trans rfl
    exact ⟨Option.some.inj before,
      Replacement.link.inj (congrArg Handover.replacement (Option.some.inj pending))⟩
  obtain ⟨old, new, _, update, rest⟩ := manager busy plainBridge "r" (plainChange 1) rfl accepted
  obtain ⟨rfl, rfl⟩ := same update
  obtain ⟨interrupted, finished⟩ := rest delivery 0 100 delivery_waits
  obtain ⟨_, _, _, _, succeeded⟩ := finished (by rfl)
  obtain ⟨old, new, turns, handed⟩ := gateway busyGateway _ busy plainBridge "r" ⟨{}, rfl⟩ (by rfl)
  obtain ⟨rfl, rfl⟩ := same handed.update
  exact ⟨interrupted, succeeded, ⟨turns, handed⟩, by decide +kernel⟩

end EdgeGateway.Gateway

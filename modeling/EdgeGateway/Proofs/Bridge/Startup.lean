import EdgeGateway.Config.Basic
import EdgeGateway.Proofs.Bridge.Links

/-!
# Starting a configuration

The bridges of a checked configuration are added to an empty manager one after the other. None of
them is a duplicate or has a QoS ceiling out of range; those that do not start are the ones with a
destination that is no template, which `Config.validate` lets pass.
-/

namespace EdgeGateway

/-- What becomes of a bridge with checked fields that is added under an id of its own. -/
def BridgeConfig.started (c : BridgeConfig) : Except AdminFault Unit :=
  match c.templateFault? with
  | some fault => .error (.validation [fault])
  | none => .ok ()

theorem BridgeConfig.started_eq_ok {c : BridgeConfig} :
    c.started = .ok () ↔ ∀ s ∈ c.subscriptions, ∃ t, Topic.Template.parse s.destination = .ok t := by
  rw [← templateFault?_eq_none, started]
  cases c.templateFault? <;> simp

namespace BridgeManager

/-- Adds bridges one after the other, each with its remote. -/
def addAll (m : BridgeManager) (remote : BridgeConfig → String) :
    List BridgeConfig → BridgeManager × List (Except AdminFault Unit)
  | [] => (m, [])
  | b :: rest =>
    let (m, result) := m.add b (remote b)
    let (m, results) := m.addAll remote rest
    (m, result :: results)

/-- Adding a bridge puts no other bridge into the table. -/
theorem contains_add {m : BridgeManager} {config : BridgeConfig} {remote id : String}
    (present : (m.add config remote).1.links.contains id = true) :
    id = config.id ∨ m.links.contains id = true := by
  rcases m.add_cases config remote with
    ⟨m', fault, failed, unchanged⟩ | ⟨m', link, done, absent, built⟩
  · rw [failed] at present
    exact .inr (unchanged.links ▸ present)
  · have links : ((m'.setRunning link.lanes true).putLink link).links =
        m.links.insert config.id link := by
      rw [putLink, built.config, ← built.links]
      rfl
    rw [done, Table.contains_eq, links, Table.find?_insert] at present
    split at present
    next same => exact .inl same
    next => exact .inr ((Table.contains_eq _ _).trans present)

theorem add_of_valid {m : BridgeManager} {config : BridgeConfig} (remote : String)
    (absent : m.links.contains config.id = false) (valid : config.validate = .ok ()) :
    (m.add config remote).2 = config.started := by
  rw [add_result, absent, BridgeConfig.fault?, valid, BridgeConfig.started]
  cases config.templateFault? <;> rfl

/-- The ids seen so far include those in the table, so that no later bridge is a duplicate. -/
theorem addAll_of_checked {m : BridgeManager} (remote : BridgeConfig → String) {seen : List String}
    {bridges : List BridgeConfig} (checked : Config.checkBridges seen bridges = .ok ())
    (known : ∀ id, m.links.contains id = true → id ∈ seen) :
    (m.addAll remote bridges).2 = bridges.map BridgeConfig.started := by
  induction bridges generalizing m seen with
  | nil => rfl
  | cons b rest ih =>
    unfold Config.checkBridges at checked
    split at checked
    next => cases checked
    next fresh =>
      cases valid : b.validate with
      | error fault => simp [valid] at checked
      | ok =>
        simp only [valid] at checked
        have absent : m.links.contains b.id = false := by
          rw [← Bool.not_eq_true]
          intro present
          exact fresh (List.elem_eq_true_of_mem (known b.id present))
        have later := ih (m := (m.add b (remote b)).1) checked fun id present => by
          rcases contains_add present with rfl | before
          · exact List.mem_cons_self
          · exact List.mem_cons_of_mem _ (known id before)
        change (m.add b (remote b)).2 :: ((m.add b (remote b)).1.addAll remote rest).2 = _
        rw [add_of_valid (remote b) absent valid, later, List.map_cons]

end BridgeManager

/-- The bridges of a checked configuration that start are those with templates for destinations;
every other one is refused for the first destination that is none. -/
theorem checked_bridges_start {config : Config} (valid : config.validate = .ok ())
    (remote : BridgeConfig → String) :
    (BridgeManager.addAll {} remote config.bridges).2 = config.bridges.map BridgeConfig.started ∧
      ∀ c ∈ config.bridges, c.started = .ok () ↔
        ∀ s ∈ c.subscriptions, ∃ t, Topic.Template.parse s.destination = .ok t := by
  refine ⟨?_, fun c _ => c.started_eq_ok⟩
  have checked : Config.checkBridges [] config.bridges = .ok () := by
    cases bridges : Config.checkBridges [] config.bridges with
    | ok => rfl
    | error fault => simp [Config.validate, bridges, bind, Except.bind] at valid
  exact BridgeManager.addAll_of_checked remote checked nofun

/-- A bridge whose fields are in order and whose destination is no template. -/
def levelZero : BridgeConfig where
  id := "b1"
  host := "h"
  localSubscriptions := [{ filters := ["a/#"], destination := "\x7b0\x7d" }]

theorem levelZero_started : levelZero.started = .error (.validation [{
    field := "local_subscriptions[0]"
    message := "invalid topic pattern '\x7b0\x7d': level index starts at 1" }]) := rfl

theorem levelZero_checked : Config.validate { bridges := [levelZero] } = .ok () := rfl

theorem levelZero_does_not_start :
    Config.validate { bridges := [levelZero] } = .ok () ∧
      (BridgeManager.addAll {} BridgeConfig.id [levelZero]).2 = [levelZero.started] ∧
      levelZero.started ≠ .ok () := by
  have starts := checked_bridges_start levelZero_checked BridgeConfig.id
  refine ⟨levelZero_checked, starts.1, ?_⟩
  rw [levelZero_started]
  exact nofun

/-- Validation does not find everything that keeps a bridge from starting. -/
theorem not_every_checked_bridge_starts :
    ¬ ∀ (config : Config) (remote : BridgeConfig → String), config.validate = .ok () →
      ∀ result ∈ (BridgeManager.addAll {} remote config.bridges).2, result = .ok () := by
  intro all
  have checked : Config.checkBridges [] [levelZero] = .ok () := rfl
  have results := BridgeManager.addAll_of_checked (m := {}) BridgeConfig.id checked nofun
  have only := all { bridges := [levelZero] } BridgeConfig.id levelZero_checked levelZero.started
    (by simp [results])
  rw [levelZero_started] at only
  cases only

end EdgeGateway

import EdgeGateway.Config.Basic
import EdgeGateway.Proofs.Bridge.Admission
import EdgeGateway.Proofs.Config.Constraints

/-!
# What validation reports

A bridge is reported with all its faults, a configuration with its first offender only.
`Scans` is what the checks of bridges and of adapters have in common: they go through a list, remember
the ids that they have seen, and end with the first element that offends.
-/

namespace EdgeGateway
namespace Config

/-! ### Scans -/

/-- A check goes through a list and ends with the first offence. Whether an element offends is a matter of
the element and of the ids seen before it: it has to be in order by itself, and its id has to be new. -/
structure Scans {α : Type} (id : α → String) (InOrder : α → Prop)
    (offence : List String → α → Option Fault)
    (check : List String → List α → Except Fault Unit) : Prop where
  nil (seen : List String) : check seen [] = .ok ()
  cons (seen : List String) (x : α) (rest : List α) : check seen (x :: rest) =
    match offence seen x with
    | some fault => .error fault
    | none => check (id x :: seen) rest
  free (seen : List String) (x : α) : offence seen x = none ↔ InOrder x ∧ id x ∉ seen

namespace Scans

variable {α : Type} {id : α → String} {InOrder : α → Prop}
  {offence : List String → α → Option Fault}
  {check : List String → List α → Except Fault Unit} {seen : List String} {xs : List α}

theorem eq_ok_iff_of_seen (scans : Scans id InOrder offence check) :
    check seen xs = .ok () ↔
      (∀ x ∈ xs, InOrder x) ∧ (xs.map id).Nodup ∧ ∀ x ∈ xs, id x ∉ seen := by
  induction xs generalizing seen with
  | nil => simp [scans.nil]
  | cons first rest ih =>
    rw [scans.cons]
    cases offends : offence seen first with
    | some fault =>
      refine iff_of_false (by simp) ?_
      rintro ⟨fine, _, new⟩
      have free := (scans.free seen first).mpr
        ⟨fine first List.mem_cons_self, new first List.mem_cons_self⟩
      rw [offends] at free
      cases free
    | none =>
      obtain ⟨fine, new⟩ := (scans.free seen first).mp offends
      rw [ih, List.forall_mem_cons, List.forall_mem_cons, List.map_cons, List.nodup_cons]
      constructor
      · rintro ⟨others, distinct, apart⟩
        refine ⟨⟨fine, others⟩, ⟨fun again => ?_, distinct⟩, new, fun x member old => ?_⟩
        · obtain ⟨x, member, same⟩ := List.mem_map.mp again
          exact apart x member (same ▸ List.mem_cons_self)
        · exact apart x member (List.mem_cons_of_mem _ old)
      · rintro ⟨⟨_, others⟩, ⟨once, distinct⟩, _, unseen⟩
        refine ⟨others, distinct, fun x member old => ?_⟩
        rcases List.mem_cons.mp old with same | old
        · exact once (same ▸ List.mem_map_of_mem member)
        · exact unseen x member old

theorem eq_ok_iff (scans : Scans id InOrder offence check) :
    check [] xs = .ok () ↔ (∀ x ∈ xs, InOrder x) ∧ (xs.map id).Nodup := by
  simp [scans.eq_ok_iff_of_seen]

theorem eq_error_iff_of_seen (scans : Scans id InOrder offence check) {fault : Fault} :
    check seen xs = .error fault ↔ ∃ before x after, xs = before ++ x :: after ∧
      check seen before = .ok () ∧ offence ((before.map id).reverse ++ seen) x = some fault := by
  induction xs generalizing seen with
  | nil => simp [scans.nil]
  | cons first rest ih =>
    rw [scans.cons]
    cases offends : offence seen first with
    | some other =>
      constructor
      · intro failed
        cases failed
        exact ⟨[], first, rest, rfl, scans.nil seen, offends⟩
      · rintro ⟨_ | ⟨_, before⟩, x, after, split, passed, found⟩
        · cases split
          exact congrArg Except.error (Option.some.inj (offends.symm.trans found))
        · obtain ⟨rfl, _⟩ := List.cons.inj split
          rw [scans.cons, offends] at passed
          cases passed
    | none =>
      rw [ih]
      constructor
      · rintro ⟨before, x, after, rfl, passed, found⟩
        refine ⟨first :: before, x, after, rfl, ?_, by simpa using found⟩
        rw [scans.cons, offends]
        exact passed
      · rintro ⟨_ | ⟨_, before⟩, x, after, split, passed, found⟩
        · cases split
          cases offends.symm.trans found
        · obtain ⟨rfl, rest_eq⟩ := List.cons.inj split
          rw [scans.cons, offends] at passed
          exact ⟨before, x, after, rest_eq, passed, by simpa using found⟩

end Scans

/-! ### Bridges and adapters -/

/-- A bridge offends after others: its id is taken, or else it is reported for its own faults. -/
def BridgeOffends (before : List BridgeConfig) (b : BridgeConfig) (fault : Fault) : Prop :=
  (b.id ∈ before.map (·.id) ∧ fault = .duplicateBridge b.id) ∨
  (b.id ∉ before.map (·.id) ∧ ∃ own, b.validate = .error own ∧ fault = .bridge b.id own)

/-- An adapter offends after others: its id is malformed, or else it is taken. -/
def AdapterOffends (before : List AdapterConfig) (a : AdapterConfig) (fault : Fault) : Prop :=
  (¬ WellFormedId a.id ∧ fault = .adapterId a.id) ∨
  (WellFormedId a.id ∧ a.id ∈ before.map (·.id) ∧ fault = .duplicateAdapter a.id)

def BridgesInOrder (bridges : List BridgeConfig) : Prop :=
  (∀ b ∈ bridges, b.validate = .ok ()) ∧ (bridges.map (·.id)).Nodup

def AdaptersInOrder (adapters : List AdapterConfig) : Prop :=
  (∀ a ∈ adapters, WellFormedId a.id) ∧ (adapters.map (·.id)).Nodup

def bridgeOffence (seen : List String) (b : BridgeConfig) : Option Fault :=
  if b.id ∈ seen then some (.duplicateBridge b.id)
  else match b.validate with
    | .error own => some (.bridge b.id own)
    | .ok () => none

def adapterOffence (seen : List String) (a : AdapterConfig) : Option Fault :=
  if ¬ WellFormedId a.id then some (.adapterId a.id)
  else if a.id ∈ seen then some (.duplicateAdapter a.id)
  else none

theorem scans_bridges : Scans (·.id) (·.validate = .ok ()) bridgeOffence checkBridges where
  nil _ := rfl
  cons seen b rest := by
    rw [checkBridges, bridgeOffence]
    simp only [List.contains_iff_mem]
    split
    · rfl
    · cases b.validate <;> rfl
  free seen b := by
    unfold bridgeOffence
    split
    next again => simp [again]
    next new => cases b.validate <;> simp [new]

theorem scans_adapters : Scans (·.id) (WellFormedId ·.id) adapterOffence checkAdapters where
  nil _ := rfl
  cons seen a rest := by
    rw [checkAdapters, adapterOffence]
    simp only [List.contains_iff_mem, wellFormedId_iff, Bool.not_eq_true, Bool.not_eq_true']
    split
    · rfl
    · split <;> rfl
  free seen a := by
    unfold adapterOffence
    split
    next malformed => simp [malformed]
    next wellFormed =>
      rw [not_not] at wellFormed
      simp [wellFormed]

theorem bridgeOffence_eq_some {before : List BridgeConfig} {b : BridgeConfig} {fault : Fault} :
    bridgeOffence ((before.map (·.id)).reverse ++ []) b = some fault ↔ BridgeOffends before b fault := by
  unfold bridgeOffence BridgeOffends
  rw [List.append_nil]
  split
  next again =>
    rw [List.mem_reverse] at again
    simp [again, eq_comm]
  next new =>
    rw [List.mem_reverse] at new
    cases b.validate <;> simp [new, eq_comm]

theorem adapterOffence_eq_some {before : List AdapterConfig} {a : AdapterConfig} {fault : Fault} :
    adapterOffence ((before.map (·.id)).reverse ++ []) a = some fault ↔
      AdapterOffends before a fault := by
  unfold adapterOffence AdapterOffends
  rw [List.append_nil]
  split
  next malformed => simp [malformed, eq_comm]
  next wellFormed =>
    rw [not_not] at wellFormed
    simp [wellFormed, eq_comm]

variable {config : Config} {fault : Fault}

theorem validate_eq_ok : config.validate = .ok () ↔
    checkBridges [] config.bridges = .ok () ∧ checkAdapters [] config.adapters = .ok () := by
  unfold validate
  cases checkBridges [] config.bridges <;> simp [bind, Except.bind]

theorem validate_eq_error : config.validate = .error fault ↔
    checkBridges [] config.bridges = .error fault ∨
      checkBridges [] config.bridges = .ok () ∧ checkAdapters [] config.adapters = .error fault := by
  unfold validate
  cases checkBridges [] config.bridges <;> simp [bind, Except.bind]

end Config

/-- The validation of a bridge reports one fault for each constraint that is broken, in the order of
declaration, and that of a configuration passes if all bridges and adapters are in order and have ids of
their own. Otherwise it reports the first bridge that offends, or else the first adapter. -/
theorem configurations_are_validated_exactly (c : BridgeConfig) (config : Config) :
    (∃ ks faults, c.validate = (if faults = [] then .ok () else .error (.validation faults)) ∧
      List.Forall₂ (Broken c) ks faults ∧ ks.Pairwise Constraint.Before ∧
      ∀ k, k ∈ ks ↔ ∃ fault, Broken c k fault) ∧
    (config.validate = .ok () ↔
      Config.BridgesInOrder config.bridges ∧ Config.AdaptersInOrder config.adapters) ∧
    ∀ fault, config.validate = .error fault ↔
      (∃ before b after, config.bridges = before ++ b :: after ∧ Config.BridgesInOrder before ∧
        Config.BridgeOffends before b fault) ∨
      (Config.BridgesInOrder config.bridges ∧
        ∃ before a after, config.adapters = before ++ a :: after ∧ Config.AdaptersInOrder before ∧
          Config.AdapterOffends before a fault) := by
  refine ⟨?_, ?_, fun fault => ?_⟩
  · obtain ⟨ks, broken, sorted, exactly⟩ := faults_listed c
    refine ⟨ks, c.faults, ?_, broken, sorted, fun k => ?_⟩
    · unfold BridgeConfig.validate
      simp only [List.isEmpty_iff]
    · rw [exactly, true_and]
  · rw [Config.validate_eq_ok, Config.scans_bridges.eq_ok_iff, Config.scans_adapters.eq_ok_iff]
    exact Iff.rfl
  · simp only [Config.validate_eq_error, Config.scans_bridges.eq_error_iff_of_seen,
      Config.scans_adapters.eq_error_iff_of_seen, Config.scans_bridges.eq_ok_iff,
      Config.scans_adapters.eq_ok_iff, Config.bridgeOffence_eq_some, Config.adapterOffence_eq_some]
    exact Iff.rfl

end EdgeGateway

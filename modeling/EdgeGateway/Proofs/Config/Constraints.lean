import EdgeGateway.Bridge.Interceptor
import EdgeGateway.Config.Bridge
import EdgeGateway.Proofs.Lists

/-!
# The constraints of a bridge configuration

`Broken` says, constraint by constraint, when a configuration breaks it and with which fault it is
reported, and `Constraint.place` where the constraint stands in the order of declaration. `faults_listed`
says that the faults of a configuration are those of the constraints that it breaks, each once and in that
order.
-/

namespace EdgeGateway

/-! ### Ids -/

theorem isIdChar_iff (c : Char) : isIdChar c = true ↔
    'A' ≤ c ∧ c ≤ 'Z' ∨ 'a' ≤ c ∧ c ≤ 'z' ∨ '0' ≤ c ∧ c ≤ '9' ∨ c = '_' ∨ c = '-' := by
  have upper : c.isUpper = decide ('A' ≤ c ∧ c ≤ 'Z') := rfl
  have lower : c.isLower = (decide ('a' ≤ c) && decide (c ≤ 'z')) := rfl
  have digit : c.isDigit = (decide ('0' ≤ c) && decide (c ≤ '9')) := rfl
  have alphanumeric : c.isAlphanum = (c.isUpper || c.isLower || c.isDigit) := rfl
  rw [isIdChar, alphanumeric, upper, lower, digit]
  simp [or_assoc]

theorem isValidId_iff (id : String) :
    isValidId id = true ↔ id ≠ "" ∧ ∀ c ∈ id.toList, isIdChar c = true := by
  simp [isValidId]

/-- One or more ASCII letters, digits, underscores and hyphens. -/
def WellFormedId (id : String) : Prop :=
  id ≠ "" ∧ ∀ c ∈ id.toList,
    'A' ≤ c ∧ c ≤ 'Z' ∨ 'a' ≤ c ∧ c ≤ 'z' ∨ '0' ≤ c ∧ c ≤ '9' ∨ c = '_' ∨ c = '-'

theorem wellFormedId_iff {id : String} : WellFormedId id ↔ isValidId id = true := by
  simp only [isValidId_iff, isIdChar_iff, WellFormedId]

instance (id : String) : Decidable (WellFormedId id) :=
  decidable_of_iff _ wellFormedId_iff.symm

/-! ### Constraints -/

/-- The subscriptions for one direction. -/
def BridgeConfig.side (c : BridgeConfig) : Direction → List BridgeSubscription
  | .outbound => c.localSubscriptions
  | .inbound => c.remoteSubscriptions

/-- The lists of filters that a subscription has. -/
inductive FilterList where
  | filters
  | excludes
  deriving DecidableEq

def FilterList.field : FilterList → String
  | .filters => ".filters"
  | .excludes => ".excludes"

def BridgeSubscription.listed (s : BridgeSubscription) : FilterList → List String
  | .filters => s.filters
  | .excludes => s.excludes

theorem FilterList.exists_iff {p : FilterList → Prop} : (∃ list, p list) ↔ p .filters ∨ p .excludes := by
  constructor
  · rintro ⟨_ | _, holds⟩
    · exact .inl holds
    · exact .inr holds
  · rintro (holds | holds)
    · exact ⟨.filters, holds⟩
    · exact ⟨.excludes, holds⟩

/-- What a bridge configuration has to satisfy: as a whole, for subscription `i` of a direction, and for
filter `j` of one of its lists. -/
inductive Constraint where
  | id
  | host
  | port
  | hopLimit
  | someFilter (d : Direction) (i : Nat)
  | filter (d : Direction) (i : Nat) (list : FilterList) (j : Nat)
  | destination (d : Direction) (i : Nat)
  | maxQos (d : Direction) (i : Nat)
  deriving DecidableEq

def Direction.part : Direction → Nat
  | .outbound => 4
  | .inbound => 5

@[simp] theorem Direction.part_inj {d d' : Direction} : d.part = d'.part ↔ d = d' := by
  cases d <;> cases d' <;> simp [part]

def FilterList.part : FilterList → Nat
  | .filters => 1
  | .excludes => 2

/-- Constraints are declared in the order of these lists of numbers. -/
def Constraint.place : Constraint → List Nat
  | .id => [0]
  | .host => [1]
  | .port => [2]
  | .hopLimit => [3]
  | .someFilter d i => [d.part, i, 0]
  | .filter d i list j => [d.part, i, list.part, j]
  | .destination d i => [d.part, i, 3]
  | .maxQos d i => [d.part, i, 4]

def Constraint.Before (k k' : Constraint) : Prop := k.place < k'.place

/-- How faults call a subscription and, below, a list of its filters. -/
def subscriptionName : Direction → Nat → String
  | .outbound, i => s!"local_subscriptions[{i}]"
  | .inbound, i => s!"remote_subscriptions[{i}]"

def listName (d : Direction) (i : Nat) (list : FilterList) : String :=
  s!"{subscriptionName d i}{list.field}"

/-- A configuration breaks a constraint, which is reported with a fault. -/
inductive Broken (c : BridgeConfig) : Constraint → FieldFault → Prop
  | id (malformed : ¬ WellFormedId c.id) : Broken c .id {
      field := "id"
      message := "Bridge id must be non-empty and contain only letters, digits, '_' or '-'" }
  | host (empty : c.host = "") : Broken c .host { field := "host", message := "Host cannot be empty" }
  | port (zero : c.port = 0) : Broken c .port {
      field := "port"
      message := "Port must be between 1 and 65535" }
  | hopLimit (large : 100 < c.hopLimit) : Broken c .hopLimit {
      field := "loop_prevention_hop_count"
      message := "Loop prevention hop count must be between 0 and 100" }
  | someFilter {d : Direction} {i : Nat} {s : BridgeSubscription} (there : (c.side d)[i]? = some s)
      (none : s.filters = []) : Broken c (.someFilter d i) {
        field := s!"{subscriptionName d i}.filters"
        message := "At least one topic filter is required" }
  | filter {d : Direction} {i j : Nat} {s : BridgeSubscription} {list : FilterList} {filter : String}
      {fault : Topic.Fault} (there : (c.side d)[i]? = some s) (listed : (s.listed list)[j]? = some filter)
      (malformed : Topic.checkFilter filter = .error fault) : Broken c (.filter d i list j) {
        field := s!"{listName d i list}[{j}]"
        message := fault.message }
  | destination {d : Direction} {i : Nat} {s : BridgeSubscription} (there : (c.side d)[i]? = some s)
      (empty : s.destination = "") : Broken c (.destination d i) {
        field := s!"{subscriptionName d i}.destination"
        message := "Destination pattern cannot be empty" }
  | maxQos {d : Direction} {i : Nat} {s : BridgeSubscription} (there : (c.side d)[i]? = some s)
      (high : 2 < s.maxQos) : Broken c (.maxQos d i) {
        field := s!"{subscriptionName d i}.max_qos"
        message := "max_qos must be 0, 1, or 2" }

/-! ### Lists of faults -/

/-- The faults of the constraints in `scope`: one for each that is broken, in their order. -/
def Reports (c : BridgeConfig) (scope : Constraint → Prop) (faults : List FieldFault) : Prop :=
  ∃ ks : List Constraint, List.Forall₂ (Broken c) ks faults ∧ ks.Pairwise Constraint.Before ∧
    ∀ k, k ∈ ks ↔ scope k ∧ ∃ fault, Broken c k fault

variable {c : BridgeConfig} {scope scope' : Constraint → Prop} {faults faults' : List FieldFault}

theorem Reports.append (first : Reports c scope faults) (second : Reports c scope' faults')
    (order : ∀ k k', scope k → scope' k' → k.Before k') :
    Reports c (fun k => scope k ∨ scope' k) (faults ++ faults') := by
  obtain ⟨ks, broken, sorted, exactly⟩ := first
  obtain ⟨ks', broken', sorted', exactly'⟩ := second
  refine ⟨ks ++ ks', List.rel_append broken broken', ?_, fun k => ?_⟩
  · refine List.pairwise_append.mpr ⟨sorted, sorted', fun k member k' member' => ?_⟩
    exact order k k' ((exactly k).mp member).1 ((exactly' k').mp member').1
  · rw [List.mem_append, exactly, exactly', or_and_right]

/-- The scope matters for the constraints that are broken. -/
theorem Reports.congr (reports : Reports c scope faults)
    (same : ∀ k fault, Broken c k fault → (scope' k ↔ scope k)) : Reports c scope' faults := by
  obtain ⟨ks, broken, sorted, exactly⟩ := reports
  refine ⟨ks, broken, sorted, fun k => (exactly k).trans ?_⟩
  rw [and_congr_left_iff]
  rintro ⟨fault, broken⟩
  exact (same k fault broken).symm

theorem Reports.none (whole : ∀ k fault, scope k → ¬ Broken c k fault) : Reports c scope [] := by
  refine ⟨[], .nil, .nil, fun k => iff_of_false List.not_mem_nil ?_⟩
  rintro ⟨within, fault, broken⟩
  exact whole k fault within broken

theorem Reports.one {k : Constraint} {fault : FieldFault} (broken : Broken c k fault) :
    Reports c (· = k) [fault] := by
  refine ⟨[k], .cons broken .nil, List.pairwise_singleton _ _, fun k' => ?_⟩
  rw [List.mem_singleton]
  exact ⟨fun same => ⟨same, fault, same ▸ broken⟩, And.left⟩

/-- A constraint with a condition and a fault of its own. -/
theorem reports_faultIf {k : Constraint} {condition : Bool} {field message : String}
    (of : condition = true → Broken c k { field, message })
    (only : ∀ fault, Broken c k fault → condition = true) :
    Reports c (· = k) (faultIf condition field message) := by
  cases condition with
  | false =>
    refine .none fun k' fault same broken => ?_
    exact Bool.false_ne_true (only fault (same ▸ broken))
  | true => exact .one (of rfl)

/-- Constraints on the elements of a list, in the order of the elements. -/
theorem reports_zipIdx {α : Type} {xs : List α} {report : α × Nat → List FieldFault}
    {scope : Nat → Constraint → Prop}
    (each : ∀ i x, xs[i]? = some x → Reports c (scope i) (report (x, i)))
    (order : ∀ i i' k k', i < i' → scope i k → scope i' k' → k.Before k') :
    Reports c (fun k => ∃ i < xs.length, scope i k) (xs.zipIdx.flatMap report) := by
  -- From the end: the faults of the last element come after those of all others.
  induction xs using List.reverseRecOn with
  | nil => exact .none fun k fault within => by simp at within
  | append_singleton xs x ih =>
    have before := ih fun i y there => each i y (by
      rw [List.getElem?_append_left (List.getElem?_eq_some_iff.mp there).1]
      exact there)
    have last := each xs.length x List.getElem?_concat_length
    have both := before.append last fun k k' ⟨i, below, within⟩ within' =>
      order i xs.length k k' below within within'
    rw [List.zipIdx_append, List.flatMap_append]
    simp only [List.zipIdx_cons, List.zipIdx_nil, Nat.zero_add, List.flatMap_cons, List.flatMap_nil,
      List.append_nil]
    refine both.congr fun k _ _ => ?_
    simp only [List.length_append, List.length_singleton, Nat.lt_succ_iff_lt_or_eq]
    constructor
    · rintro ⟨i, below | rfl, within⟩
      · exact .inl ⟨i, below, within⟩
      · exact .inr within
    · rintro (⟨i, below, within⟩ | within)
      · exact ⟨i, .inl below, within⟩
      · exact ⟨xs.length, .inr rfl, within⟩

/-! ### Subscriptions -/

theorem Constraint.before_of_lt {k k' : Constraint} {m n : Nat} {rest rest' : List Nat}
    (shared : List Nat) (first : k.place = shared ++ m :: rest)
    (second : k'.place = shared ++ n :: rest') (below : m < n) : k.Before k' := by
  rw [Before, first, second]
  exact List.append_left_lt (by simp [List.cons_lt_cons_iff, below])

/-- Constraints on the filters of a list that is called `name`. -/
theorem reports_filterFaults {make : Nat → Constraint} {name : String} {filters : List String}
    (of : ∀ j filter problem, filters[j]? = some filter → Topic.checkFilter filter = .error problem →
      Broken c (make j) { field := s!"{name}[{j}]", message := problem.message })
    (only : ∀ j fault, Broken c (make j) fault → ∃ filter problem, filters[j]? = some filter ∧
      Topic.checkFilter filter = .error problem)
    (order : ∀ j j', j < j' → (make j).Before (make j')) :
    Reports c (fun k => ∃ j, k = make j) (filterFaults name filters) := by
  have bounded : Reports c (fun k => ∃ j < filters.length, k = make j)
      (filterFaults name filters) := by
    rw [filterFaults, List.filterMap_eq_flatMap_toList]
    refine reports_zipIdx (fun j filter there => ?_) ?_
    · dsimp only
      cases checked : Topic.checkFilter filter with
      | ok =>
        refine .none fun k fault same broken => ?_
        obtain ⟨filter', problem, there', failed⟩ := only j fault (same ▸ broken)
        obtain rfl := Option.some.inj (there.symm.trans there')
        cases checked.symm.trans failed
      | error problem => exact .one (of j filter problem there checked)
    · rintro j j' _ _ below rfl rfl
      exact order j j' below
  refine bounded.congr fun k fault broken => exists_congr fun j => ?_
  refine (and_iff_right_of_imp ?_).symm
  rintro rfl
  obtain ⟨filter, problem, listed, _⟩ := only j fault broken
  exact (List.getElem?_eq_some_iff.mp listed).1

/-- The constraint is one on subscription `i` of a direction. -/
def Constraint.About (d : Direction) (i : Nat) (k : Constraint) : Prop :=
  ∃ rest, k.place = [d.part, i] ++ rest

section
variable {k : Constraint} {d : Direction} {i : Nat} {s : BridgeSubscription} {fault : FieldFault}

theorem Constraint.about_iff : k.About d i ↔ k = .someFilter d i ∨
    (∃ list j, k = .filter d i list j) ∨ k = .destination d i ∨ k = .maxQos d i := by
  cases k with
  | id | host | port | hopLimit => cases d <;> simp [About, place, Direction.part]
  | _ => simp [About, place]

theorem reports_someFilter (there : (c.side d)[i]? = some s) :
    Reports c (· = .someFilter d i) (faultIf s.filters.isEmpty s!"{subscriptionName d i}.filters"
      "At least one topic filter is required") := by
  refine reports_faultIf (fun none => .someFilter there (List.isEmpty_iff.mp none)) fun _ broken => ?_
  cases broken with
  | someFilter there' none =>
    obtain rfl := Option.some.inj (there.symm.trans there')
    exact List.isEmpty_iff.mpr none

theorem reports_list (there : (c.side d)[i]? = some s) (list : FilterList) :
    Reports c (fun k => ∃ j, k = .filter d i list j)
      (filterFaults (listName d i list) (s.listed list)) := by
  refine reports_filterFaults (fun j filter problem => .filter there) (fun j fault broken => ?_)
    fun j j' below => Constraint.before_of_lt [d.part, i, list.part] rfl rfl below
  cases broken with
  | filter there' listed malformed =>
    obtain rfl := Option.some.inj (there.symm.trans there')
    exact ⟨_, _, listed, malformed⟩

theorem reports_destination (there : (c.side d)[i]? = some s) :
    Reports c (· = .destination d i) (faultIf s.destination.isEmpty
      s!"{subscriptionName d i}.destination" "Destination pattern cannot be empty") := by
  refine reports_faultIf (fun empty => .destination there (String.isEmpty_iff.mp empty))
    fun _ broken => ?_
  cases broken with
  | destination there' empty =>
    obtain rfl := Option.some.inj (there.symm.trans there')
    exact String.isEmpty_iff.mpr empty

theorem reports_maxQos (there : (c.side d)[i]? = some s) :
    Reports c (· = .maxQos d i) (faultIf (2 < s.maxQos) s!"{subscriptionName d i}.max_qos"
      "max_qos must be 0, 1, or 2") := by
  refine reports_faultIf (fun high => .maxQos there (of_decide_eq_true high)) fun _ broken => ?_
  cases broken with
  | maxQos there' high =>
    obtain rfl := Option.some.inj (there.symm.trans there')
    exact decide_eq_true high

theorem reports_subscription (there : (c.side d)[i]? = some s) :
    Reports c (Constraint.About d i) (s.faults (subscriptionName d i)) := by
  have all := ((((reports_someFilter there).append (reports_list there .filters) ?_).append
    (reports_list there .excludes) ?_).append (reports_destination there) ?_).append
    (reports_maxQos there) ?_
  · refine all.congr fun k _ _ => Constraint.about_iff.trans ?_
    simp [FilterList.exists_iff, or_assoc]
  · rintro _ _ rfl ⟨j, rfl⟩
    exact Constraint.before_of_lt [d.part, i] rfl rfl (by decide)
  · rintro _ _ (rfl | ⟨j, rfl⟩) ⟨j', rfl⟩
    all_goals exact Constraint.before_of_lt [d.part, i] rfl rfl (by decide)
  · rintro _ _ ((rfl | ⟨j, rfl⟩) | ⟨j, rfl⟩) rfl
    all_goals exact Constraint.before_of_lt [d.part, i] rfl rfl (by decide)
  · rintro _ _ (((rfl | ⟨j, rfl⟩) | ⟨j, rfl⟩) | rfl) rfl
    all_goals exact Constraint.before_of_lt [d.part, i] rfl rfl (by decide)

theorem Broken.bounded (broken : Broken c k fault) (about : k.About d i) :
    i < (c.side d).length := by
  obtain ⟨s, there⟩ : ∃ s, (c.side d)[i]? = some s := by
    rcases Constraint.about_iff.mp about with rfl | ⟨list, j, rfl⟩ | rfl | rfl
    all_goals
      cases broken
      exact ⟨_, ‹_›⟩
  exact (List.getElem?_eq_some_iff.mp there).1

/-- The subscriptions for a direction, one after the other, in a list that is called `name`. -/
theorem reports_side (name : String) (named : ∀ i, subscriptionName d i = s!"{name}[{i}]") :
    Reports c (fun k => ∃ i, k.About d i) (subscriptionFaults name (c.side d)) := by
  have bounded : Reports c (fun k => ∃ i < (c.side d).length, k.About d i)
      (subscriptionFaults name (c.side d)) := by
    refine reports_zipIdx (fun i s there => ?_) ?_
    · dsimp only
      rw [← named i]
      exact reports_subscription there
    · rintro i i' k k' below ⟨rest, here⟩ ⟨rest', there⟩
      exact Constraint.before_of_lt [d.part] here there below
  -- The bound says nothing more, since a broken constraint is about a subscription that is there.
  refine bounded.congr fun k fault broken => exists_congr fun i => ?_
  exact (and_iff_right_of_imp broken.bounded).symm

end

/-! ### The configuration as a whole -/

theorem reports_id :
    Reports c (· = .id) (faultIf (!isValidId c.id) "id" s!"Bridge id {idRule}") := by
  have malformed_iff : (!isValidId c.id) = true ↔ ¬ WellFormedId c.id := by
    rw [Bool.not_eq_true', ← Bool.not_eq_true, ← wellFormedId_iff]
  refine reports_faultIf (fun malformed => .id (malformed_iff.mp malformed)) fun _ broken => ?_
  cases broken with
  | id malformed => exact malformed_iff.mpr malformed

theorem reports_host :
    Reports c (· = .host) (faultIf c.host.isEmpty "host" "Host cannot be empty") := by
  refine reports_faultIf (fun empty => .host (String.isEmpty_iff.mp empty)) fun _ broken => ?_
  cases broken with
  | host empty => exact String.isEmpty_iff.mpr empty

theorem reports_port :
    Reports c (· = .port) (faultIf (c.port = 0) "port" "Port must be between 1 and 65535") := by
  refine reports_faultIf (fun zero => .port (of_decide_eq_true zero)) fun _ broken => ?_
  cases broken with
  | port zero => exact decide_eq_true zero

theorem reports_hopLimit :
    Reports c (· = .hopLimit) (faultIf (maxHopLimit < c.hopLimit) "loop_prevention_hop_count"
      s!"Loop prevention hop count must be between 0 and {maxHopLimit}") := by
  refine reports_faultIf (fun large => .hopLimit (of_decide_eq_true large)) fun _ broken => ?_
  cases broken with
  | hopLimit large => exact decide_eq_true large

theorem Constraint.about_or (k : Constraint) :
    k = .id ∨ k = .host ∨ k = .port ∨ k = .hopLimit ∨ ∃ d i, k.About d i := by
  cases k with
  | id | host | port | hopLimit => simp
  | someFilter d i | filter d i | destination d i | maxQos d i =>
    exact .inr (.inr (.inr (.inr ⟨d, i, _, rfl⟩)))

/-- The faults of a configuration are those of the constraints that it breaks, each once, in the order of
declaration. -/
theorem faults_listed (c : BridgeConfig) : Reports c (fun _ => True) c.faults := by
  have outbound : Reports c _ _ := reports_side (d := .outbound) "local_subscriptions" fun _ => rfl
  have inbound : Reports c _ _ := reports_side (d := .inbound) "remote_subscriptions" fun _ => rfl
  have all := ((((reports_id.append reports_host ?_).append reports_port ?_).append
    reports_hopLimit ?_).append outbound ?_).append inbound ?_
  · refine all.congr fun k _ _ => iff_of_true trivial ?_
    rcases k.about_or with rfl | rfl | rfl | rfl | ⟨_ | _, about⟩
    · exact .inl (.inl (.inl (.inl (.inl rfl))))
    · exact .inl (.inl (.inl (.inl (.inr rfl))))
    · exact .inl (.inl (.inl (.inr rfl)))
    · exact .inl (.inl (.inr rfl))
    · exact .inl (.inr about)
    · exact .inr about
  · rintro _ _ rfl rfl
    exact Constraint.before_of_lt [] rfl rfl (by decide)
  · rintro _ _ (rfl | rfl) rfl
    all_goals exact Constraint.before_of_lt [] rfl rfl (by decide)
  · rintro _ _ ((rfl | rfl) | rfl) rfl
    all_goals exact Constraint.before_of_lt [] rfl rfl (by decide)
  · rintro _ k (((rfl | rfl) | rfl) | rfl) ⟨i, rest, place⟩
    all_goals exact Constraint.before_of_lt [] rfl place (by decide)
  · rintro k k' ((((rfl | rfl) | rfl) | rfl) | ⟨i, rest, place⟩) ⟨i', rest', place'⟩
    on_goal 5 => exact Constraint.before_of_lt [] place place' (by decide)
    all_goals exact Constraint.before_of_lt [] rfl place' (by decide)

end EdgeGateway

import EdgeGateway.Proofs.Adapter.Satisfaction
import EdgeGateway.Proofs.Decode
import EdgeGateway.Simulation.Config

/-!
# Configurations of simulated devices that pass their schema

The schema and the typed reader describe the same documents but for two things: the schema takes
whole doubles for integers and bounds no expiry from above. What else a device is refused for is a
range whose ends are in the wrong order.
-/

namespace EdgeGateway.Simulation

open Schema (Satisfies HasType Declares)
open Decode (Yields json)

/-! ### Parts of a configuration -/

def sourcesIn (config : Json) : List Json :=
  ((config.member? "subscriptions").bind Json.array?).getD []

def numberIn (source : Json) (name : String) (default : Double) : Double :=
  match source.member? name with
  | some (.number n) => n.toDouble
  | _ => default

/-- A range goes from 0 to 1000 where nothing else is said. -/
def minValueIn (source : Json) : Double := numberIn source "min_value" (.ofInt 0)

def maxValueIn (source : Json) : Double := numberIn source "max_value" (.ofInt 1000)

/-- A member is left out, or an integer of some bits that is written as one. -/
def WordIn (bits : Nat) (value : Json) (name : String) : Prop :=
  ∀ v, value.member? name = some v → ∃ n : Nat, v = .ofNat n ∧ n < pow2 bits

def NoDouble (value : Json) (name : String) : Prop :=
  ∀ d, value.member? name ≠ some (.number (.double d))

/-- What the typed reader asks of a source beyond the schema. -/
structure TypedSource (source : Json) : Prop where
  qos : NoDouble source "qos"
  expiry : NoDouble source "message_expiry_interval"
  short : ∀ i : Int, source.member? "message_expiry_interval" = some (.ofInt i) → i < pow2 32

structure Typed (config : Json) : Prop where
  interval : NoDouble config "polling_interval_millis"
  sources : ∀ source ∈ sourcesIn config, TypedSource source

/-! ### The schema -/

section Closed
variable {required : List String} {properties : List (String × Json)}

theorem closedObject_eq :
    closedObject required properties = .object [("additionalProperties", .bool false),
      ("properties", .ofMembers properties), ("required", .array (required.map .string)),
      ("type", .string "object")] := rfl

theorem closedObject_shape {value : Json}
    (satisfied : Satisfies value (closedObject required properties)) :
    ∃ members, value = .object members := by
  rw [closedObject_eq] at satisfied
  have has : Schema.hasType value "object" = true := Schema.hasType_iff.mpr (satisfied.hasType rfl)
  match value with
  | .object members => exact ⟨members, rfl⟩
  | .null | .bool _ | .number (.int _) | .number (.double _) | .string _ | .array _ => cases has

theorem closedObject_required {value : Json} {name : String}
    (satisfied : Satisfies value (closedObject required properties)) (listed : name ∈ required) :
    ∃ v, value.member? name = some v := by
  obtain ⟨members, rfl⟩ := closedObject_shape satisfied
  rw [closedObject_eq] at satisfied
  exact satisfied.required rfl (List.mem_map_of_mem listed)

theorem closedObject_member {value v declared : Json} {name : String}
    (satisfied : Satisfies value (closedObject required properties))
    (declares : (Json.ofMembers properties).member? name = some declared)
    (present : value.member? name = some v) : Satisfies v declared := by
  obtain ⟨members, rfl⟩ := closedObject_shape satisfied
  rw [closedObject_eq] at satisfied
  exact satisfied.member ⟨_, rfl, declares⟩ present

end Closed

def sourceProperties : List (String × Json) := [
  ("destination", typed "string" [("minLength", .ofNat 1)]),
  ("qos", typed "integer" [("minimum", .ofNat 0), ("maximum", .ofNat 2)]),
  ("min_value", typed "number"),
  ("max_value", typed "number"),
  ("message_expiry_interval", typed "integer" [("minimum", .ofNat 0)])]

def sourceSchema : Json := closedObject ["destination"] sourceProperties

theorem schema_eq : schema = closedObject ["subscriptions"] [
    ("polling_interval_millis", typed "integer" [("minimum", .ofNat minInterval),
      ("maximum", .ofNat maxInterval), ("default", .ofNat 1000)]),
    ("subscriptions", typed "array" [("items", sourceSchema)])] := rfl

/-! ### Fields -/

section Fields
variable {value : Json} {name : String}

theorem yields_double_iff {default d : Double}
    (numeric : ∀ v, value.member? name = some v → HasType v "number") :
    Yields json.double (.anywhere default) (value.member? name) d ↔
      numberIn value name default = d := by
  unfold numberIn
  cases present : value.member? name with
  | none => simp [Yields]
  | some v =>
    have has : Schema.hasType v "number" = true := Schema.hasType_iff.mpr (numeric v present)
    cases v with
    | number n => simp [Yields, Decode.double_eq_ok]
    | null | bool | string | array | object => cases has

theorem yields_word_iff {bits default n : Nat} :
    Yields (json.word bits) (.anywhere default) (value.member? name) n ↔
      value.member? name = none ∧ default = n ∨
        value.member? name = some (.ofNat n) ∧ n < pow2 bits := by
  cases value.member? name with
  | none => simp [Yields]
  | some v => simp [Yields, Decode.word_eq_ok]

theorem word_read_iff {bits : Nat} (default : Nat) :
    (∃ n, Yields (json.word bits) (.anywhere default) (value.member? name) n) ↔
      WordIn bits value name := by
  simp only [yields_word_iff, WordIn]
  cases value.member? name with
  | none => simp
  | some v => simp

theorem optional_word_read_iff {bits : Nat} (present : value.member? name ≠ some .null) :
    (∃ n?, Yields (json.optional (json.word bits)) (.anywhere none) (value.member? name) n?) ↔
      WordIn bits value name := by
  unfold WordIn
  cases there : value.member? name with
  | none => simp [Yields]
  | some v =>
    have known : v ≠ .null := fun null => present (null ▸ there)
    simp [Yields, Decode.optional_eq_ok known, Decode.word_eq_ok]

/-- What is left to the reader of a member that the schema takes for an integer of at least 0. -/
theorem wordIn_iff {bits : Nat} (integral : ∀ v, value.member? name = some v → HasType v "integer")
    (positive : ∀ i : Int, value.member? name = some (.ofInt i) → 0 ≤ i) :
    WordIn bits value name ↔ NoDouble value name ∧
      ∀ i : Int, value.member? name = some (.ofInt i) → i < pow2 bits := by
  constructor
  · intro words
    refine ⟨fun d present => ?_, fun i present => ?_⟩
    · obtain ⟨n, same, _⟩ := words _ present
      cases same
    · obtain ⟨n, same, short⟩ := words _ present
      cases same
      exact mod_cast short
  · rintro ⟨noDouble, short⟩ v present
    have has : Schema.hasType v "integer" = true := Schema.hasType_iff.mpr (integral v present)
    match v with
    | .number (.int i) =>
      have low := positive i present
      have high := short i present
      refine ⟨i.toNat, ?_, by omega⟩
      rw [Json.ofNat, Int.toNat_of_nonneg low]
    | .number (.double d) => exact (noDouble d present).elim
    | .null | .bool _ | .string _ | .array _ | .object _ => cases has

end Fields

/-! ### Plans -/

/-- A source of which a node can be made. -/
def Source.Plannable (s : Source) : Prop := s.qos ≤ 2 ∧ isRange s.minValue s.maxValue = true

theorem ofNat?_isSome {n : Nat} : (QoS.ofNat? n).isSome = true ↔ n ≤ 2 := by
  unfold QoS.ofNat?
  split
  · simp
  · simp
  · simp
  next zero one two =>
    simp only [Option.isSome_none, Bool.false_eq_true, false_iff]
    intro small
    have cases : n = 0 ∨ n = 1 ∨ n = 2 := by omega
    exact cases.elim zero (·.elim one two)

theorem node_ok_iff (index : Nat) {s : Source} :
    (∃ node, s.node index = .ok node) ↔ s.Plannable := by
  unfold Source.node Source.Plannable
  rw [← ofNat?_isSome]
  cases QoS.ofNat? s.qos with
  | none => simp
  | some qos => cases isRange s.minValue s.maxValue <;> simp

theorem nodesFrom_ok_iff (index : Nat) {sources : List Source} :
    (∃ nodes, nodesFrom index sources = .ok nodes) ↔ ∀ s ∈ sources, s.Plannable := by
  induction sources generalizing index with
  | nil => simp [nodesFrom]
  | cons s rest ih =>
    rw [List.forall_mem_cons, ← node_ok_iff index, ← ih (index + 1), nodesFrom]
    cases s.node index with
    | error => simp [bind, Except.bind]
    | ok node => cases nodesFrom (index + 1) rest <;> simp [bind, Except.bind, pure, Except.pure]

theorem plan_ok_iff {c : Config} : (∃ plan, c.plan = .ok plan) ↔
    (minInterval ≤ c.interval ∧ c.interval ≤ maxInterval) ∧ ∀ s ∈ c.sources, s.Plannable := by
  rw [← nodesFrom_ok_iff 0, Config.plan]
  split
  next inside =>
    cases nodesFrom 0 c.sources <;> simp [bind, Except.bind, pure, Except.pure, inside]
  next outside => simp [outside]

/-! ### Sources -/

theorem read_source_iff {members : List (String × Json)} {s : Source} :
    Source.read (.object members) = .ok s ↔
      Yields json.string .refused ((Json.object members).member? "destination") s.destination ∧
      Yields (json.word 8) (.anywhere 0) ((Json.object members).member? "qos") s.qos ∧
      Yields json.double (.anywhere (.ofInt 0)) ((Json.object members).member? "min_value")
        s.minValue ∧
      Yields json.double (.anywhere (.ofInt 1000)) ((Json.object members).member? "max_value")
        s.maxValue ∧
      Yields (json.optional (json.word 32)) (.anywhere none)
        ((Json.object members).member? "message_expiry_interval") s.expiry := by
  rw [Source.read, Decode.record_object_eq_ok]
  simp only [Decode.Part.ap_eq_ok, Decode.Part.of, Decode.field_eq_ok]
  constructor
  · rintro ⟨_, _, ⟨_, _, ⟨_, _, ⟨_, _, ⟨_, _, made, destination, rfl⟩, qos, rfl⟩, low, rfl⟩, high, rfl⟩,
      expiry, rfl⟩
    cases made
    exact ⟨destination, qos, low, high, expiry⟩
  · rintro ⟨destination, qos, low, high, expiry⟩
    exact ⟨_, _, ⟨_, _, ⟨_, _, ⟨_, _, ⟨_, _, rfl, destination, rfl⟩, qos, rfl⟩, low, rfl⟩, high, rfl⟩,
      expiry, rfl⟩

theorem read_config_iff {members : List (String × Json)} {c : Config} :
    Config.read (.object members) = .ok c ↔
      Yields (json.word 64) (.anywhere 1000)
        ((Json.object members).member? "polling_interval_millis") c.interval ∧
      Yields (json.list Source.read) .refused ((Json.object members).member? "subscriptions")
        c.sources := by
  rw [Config.read, Decode.record_object_eq_ok]
  simp only [Decode.Part.ap_eq_ok, Decode.Part.of, Decode.field_eq_ok]
  constructor
  · rintro ⟨_, _, ⟨_, _, made, interval, rfl⟩, sources, rfl⟩
    cases made
    exact ⟨interval, sources⟩
  · rintro ⟨interval, sources⟩
    exact ⟨_, _, ⟨_, _, rfl, interval, rfl⟩, sources, rfl⟩

/-! ### Checked configurations -/

/-- The two ends of a range, if a schema takes the source, are finite. -/
theorem numberIn_finite {value : Json} (bounded : value.Bounded) (name : String) {default : Double}
    (finite : default.isFinite = true) : (numberIn value name default).isFinite = true := by
  unfold numberIn
  split
  next n present =>
    match value, bounded with
    | .object members, .object each =>
      have number : Json.Bounded (.number n) := each _ (Schema.mem_of_lookup present)
      cases number with
      | number short =>
        match n with
        | .int i =>
          have exact_integer : Json.Number.isExactInteger i = true := short
          apply Double.ofInt_finite
          simp only [Json.Number.isExactInteger, Bool.and_eq_true, decide_eq_true_eq] at exact_integer
          have low : pow2 63 ≤ pow2 64 := pow2_le (by decide)
          omega
        | .double d => exact short
  next => exact finite

section Source
variable {source : Json}

theorem destination_given (satisfied : Satisfies source sourceSchema) :
    ∃ text, source.member? "destination" = some (.string text) := by
  obtain ⟨v, present⟩ := closedObject_required satisfied (List.mem_singleton.mpr rfl)
  have kept : Satisfies v (typed "string" [("minLength", .ofNat 1)]) :=
    closedObject_member satisfied rfl present
  have has : Schema.hasType v "string" = true := Schema.hasType_iff.mpr (kept.hasType rfl)
  match v with
  | .string text => exact ⟨text, present⟩
  | .null | .bool _ | .number (.int _) | .number (.double _) | .array _ | .object _ => cases has

theorem qos_small (satisfied : Satisfies source sourceSchema) {i : Int}
    (present : source.member? "qos" = some (.ofInt i)) : 0 ≤ i ∧ i ≤ 2 := by
  have kept : Satisfies (.ofInt i) (typed "integer" [("minimum", .ofNat 0), ("maximum", .ofNat 2)]) :=
    closedObject_member satisfied rfl present
  exact ⟨kept.int_minimum rfl (by decide), kept.int_maximum rfl (by decide)⟩

theorem qos_wordIn_iff (satisfied : Satisfies source sourceSchema) :
    WordIn 8 source "qos" ↔ NoDouble source "qos" := by
  have integral : ∀ v, source.member? "qos" = some v → HasType v "integer" := fun v present =>
    (closedObject_member satisfied rfl present).hasType rfl
  rw [wordIn_iff integral fun i present => (qos_small satisfied present).1]
  refine and_iff_left fun i present => ?_
  have small := (qos_small satisfied present).2
  have bound : pow2 8 = 256 := rfl
  omega

theorem ends_numeric (satisfied : Satisfies source sourceSchema) {name : String}
    (either : name = "min_value" ∨ name = "max_value") {v : Json}
    (present : source.member? name = some v) : HasType v "number" := by
  have kept : Satisfies v (typed "number") := by
    rcases either with rfl | rfl <;> exact closedObject_member satisfied rfl present
  exact kept.hasType rfl

theorem expiry_kept (satisfied : Satisfies source sourceSchema) {v : Json}
    (present : source.member? "message_expiry_interval" = some v) :
    Satisfies v (typed "integer" [("minimum", .ofNat 0)]) :=
  closedObject_member satisfied rfl present

theorem expiry_not_null (satisfied : Satisfies source sourceSchema) :
    source.member? "message_expiry_interval" ≠ some .null := by
  intro present
  have has : HasType .null "integer" := (expiry_kept satisfied present).hasType rfl
  cases Schema.hasType_iff.mpr has

theorem expiry_wordIn_iff (satisfied : Satisfies source sourceSchema) :
    WordIn 32 source "message_expiry_interval" ↔ NoDouble source "message_expiry_interval" ∧
      ∀ i : Int, source.member? "message_expiry_interval" = some (.ofInt i) → i < pow2 32 :=
  wordIn_iff (fun _ present => (expiry_kept satisfied present).hasType rfl)
    fun _ present => (expiry_kept satisfied present).int_minimum rfl (by decide)

theorem typedSource_iff (satisfied : Satisfies source sourceSchema) :
    TypedSource source ↔ WordIn 8 source "qos" ∧ WordIn 32 source "message_expiry_interval" := by
  rw [qos_wordIn_iff satisfied, expiry_wordIn_iff satisfied]
  exact ⟨fun typed => ⟨typed.qos, typed.expiry, typed.short⟩,
    fun ⟨qos, expiry, short⟩ => ⟨qos, expiry, short⟩⟩

/-- Of what the reader and the plan ask of a source, the schema leaves two words and a range. -/
theorem source_accepted_iff (bounded : source.Bounded)
    (satisfied : Satisfies source sourceSchema) :
    (∃ s, Source.read source = .ok s ∧ s.Plannable) ↔
      TypedSource source ∧ (maxValueIn source).lt (minValueIn source) = false := by
  have low : (minValueIn source).isFinite = true := numberIn_finite bounded _ (by decide)
  have high : (maxValueIn source).isFinite = true := numberIn_finite bounded _ (by decide)
  have range : isRange (minValueIn source) (maxValueIn source) = true ↔
      (maxValueIn source).lt (minValueIn source) = false := by
    simp [isRange, low, high]
  have lowRead : ∀ d, Yields json.double (.anywhere (.ofInt 0)) (source.member? "min_value") d ↔
      minValueIn source = d :=
    fun _ => yields_double_iff fun _ => ends_numeric satisfied (.inl rfl)
  have highRead : ∀ d, Yields json.double (.anywhere (.ofInt 1000)) (source.member? "max_value") d ↔
      maxValueIn source = d :=
    fun _ => yields_double_iff fun _ => ends_numeric satisfied (.inr rfl)
  rw [typedSource_iff satisfied, ← range, ← word_read_iff 0,
    ← optional_word_read_iff (expiry_not_null satisfied)]
  obtain ⟨members, rfl⟩ := closedObject_shape satisfied
  simp only [read_source_iff, lowRead, highRead]
  constructor
  · rintro ⟨s, ⟨_, qos, low, high, expiry⟩, _, range⟩
    exact ⟨⟨⟨_, qos⟩, _, expiry⟩, low ▸ high ▸ range⟩
  · rintro ⟨⟨⟨qos, qosRead⟩, expiry, expiryRead⟩, range⟩
    obtain ⟨text, destination⟩ := destination_given satisfied
    have small : qos ≤ 2 := by
      rcases yields_word_iff.mp qosRead with ⟨_, rfl⟩ | ⟨present, _⟩
      · exact Nat.zero_le _
      · exact Int.ofNat_le.mp (qos_small satisfied present).2
    have destinationRead : Yields json.string .refused
        ((Json.object members).member? "destination") text := by
      rw [destination]
      exact Decode.string_eq_ok.mpr rfl
    exact ⟨⟨text, qos, _, _, expiry⟩, ⟨destinationRead, qosRead, rfl, rfl, expiryRead⟩, small, range⟩

end Source

/-- A list of sources is read as a whole if each of them is. -/
theorem sources_accepted_iff {items : List Json} :
    (∃ sources, json.list Source.read (.array items) = .ok sources ∧ ∀ s ∈ sources, s.Plannable) ↔
      ∀ source ∈ items, ∃ s, Source.read source = .ok s ∧ s.Plannable := by
  simp only [Decode.list_array_eq_ok]
  induction items with
  | nil => simp
  | cons source rest ih =>
    rw [List.forall_mem_cons, ← ih]
    constructor
    · rintro ⟨_, read, plannable⟩
      cases read with
      | cons first others =>
        rw [List.forall_mem_cons] at plannable
        exact ⟨⟨_, first, plannable.1⟩, _, others, plannable.2⟩
    · rintro ⟨⟨s, read, first⟩, sources, others, plannable⟩
      exact ⟨s :: sources, .cons read others, List.forall_mem_cons.mpr ⟨first, plannable⟩⟩

/-! ### Configurations -/

section Config
variable {config : Json}

theorem config_shape (satisfied : Satisfies config schema) :
    ∃ members items, config = .object members ∧
      (Json.object members).member? "subscriptions" = some (.array items) ∧
      ∀ source ∈ items, Satisfies source sourceSchema := by
  rw [schema_eq] at satisfied
  obtain ⟨members, rfl⟩ := closedObject_shape satisfied
  obtain ⟨v, present⟩ := closedObject_required satisfied (List.mem_singleton.mpr rfl)
  have kept : Satisfies v (typed "array" [("items", sourceSchema)]) :=
    closedObject_member satisfied rfl present
  have has : Schema.hasType v "array" = true := Schema.hasType_iff.mpr (kept.hasType rfl)
  match v with
  | .array items => exact ⟨members, items, rfl, present, fun source there => kept.item rfl there⟩
  | .null | .bool _ | .number (.int _) | .number (.double _) | .string _ | .object _ => cases has

theorem interval_kept (satisfied : Satisfies config schema) {v : Json}
    (present : config.member? "polling_interval_millis" = some v) :
    Satisfies v (typed "integer" [("minimum", .ofNat minInterval), ("maximum", .ofNat maxInterval),
      ("default", .ofNat 1000)]) := by
  rw [schema_eq] at satisfied
  exact closedObject_member satisfied rfl present

theorem interval_inside (satisfied : Satisfies config schema) {i : Int}
    (present : config.member? "polling_interval_millis" = some (.ofInt i)) :
    minInterval ≤ i ∧ i ≤ maxInterval :=
  ⟨(interval_kept satisfied present).int_minimum rfl (by decide),
    (interval_kept satisfied present).int_maximum rfl (by decide)⟩

theorem interval_wordIn_iff (satisfied : Satisfies config schema) :
    WordIn 64 config "polling_interval_millis" ↔ NoDouble config "polling_interval_millis" := by
  have inside : ∀ i : Int, config.member? "polling_interval_millis" = some (.ofInt i) →
      0 ≤ i ∧ i < pow2 64 := by
    intro i present
    obtain ⟨low, high⟩ := interval_inside satisfied present
    have bound : (maxInterval : Int) < pow2 64 := by decide
    rw [minInterval] at low
    omega
  rw [wordIn_iff (fun _ present => (interval_kept satisfied present).hasType rfl)
    fun i present => (inside i present).1]
  exact and_iff_left fun i present => (inside i present).2

theorem sources_bounded (bounded : config.Bounded) {items : List Json}
    (present : config.member? "subscriptions" = some (.array items)) :
    ∀ source ∈ items, source.Bounded := by
  match config, bounded with
  | .object members, .object each =>
    have list : Json.Bounded (.array items) := each _ (Schema.mem_of_lookup present)
    cases list with
    | array all => exact all

/-- A device is made of a configuration that passes the schema if it is typed as the reader asks
and no range is upside down. -/
theorem checked_configs_planned (bounded : config.Bounded)
    (checked : Schema.check config schema = []) :
    (∃ plan, planOf config = .ok plan) ↔ Typed config ∧
      ∀ source ∈ sourcesIn config, (maxValueIn source).lt (minValueIn source) = false := by
  have satisfied : Satisfies config schema := (Schema.checkAt_eq_nil_iff _ _ _).mp checked
  obtain ⟨members, items, rfl, present, each⟩ := config_shape satisfied
  have listed : sourcesIn (.object members) = items := by rw [sourcesIn, present]; rfl
  have planned : (∃ plan, planOf (.object members) = .ok plan) ↔
      ∃ c, Config.read (.object members) = .ok c ∧ ∃ plan, c.plan = .ok plan := by
    unfold planOf
    cases Config.read (.object members) <;> simp
  have accepted : (∃ sources, json.list Source.read (.array items) = .ok sources ∧
      ∀ s ∈ sources, s.Plannable) ↔ ∀ source ∈ sourcesIn (.object members),
        TypedSource source ∧ (maxValueIn source).lt (minValueIn source) = false := by
    rw [listed]
    exact sources_accepted_iff.trans (forall₂_congr fun source there =>
      source_accepted_iff (sources_bounded bounded present source there) (each source there))
  rw [planned]
  simp only [read_config_iff, plan_ok_iff, present, Yields]
  constructor
  · rintro ⟨c, ⟨interval, sources⟩, _, plannable⟩
    have all := accepted.mp ⟨_, sources, plannable⟩
    have word := (word_read_iff 1000).mp ⟨_, interval⟩
    exact ⟨⟨(interval_wordIn_iff satisfied).mp word, fun source there => (all source there).1⟩,
      fun source there => (all source there).2⟩
  · rintro ⟨typed, ranges⟩
    have word := (interval_wordIn_iff satisfied).mpr typed.interval
    obtain ⟨interval, read⟩ := (word_read_iff 1000).mpr word
    obtain ⟨sources, readSources, plannable⟩ := accepted.mpr fun source there =>
      ⟨typed.sources source there, ranges source there⟩
    have inside : minInterval ≤ interval ∧ interval ≤ maxInterval := by
      rcases yields_word_iff.mp read with ⟨_, rfl⟩ | ⟨given, _⟩
      · decide
      · exact (interval_inside satisfied given).imp Int.ofNat_le.mp Int.ofNat_le.mp
    exact ⟨⟨interval, sources⟩, ⟨read, readSources⟩, inside, plannable⟩

end Config

/-- A configuration of one source, whose range starts above the default. -/
def oneSource (expiry : Json) : Json :=
  .object [("subscriptions", .array [.object [("destination", .string "plant/level"),
    ("max_value", .ofNat 3000), ("message_expiry_interval", expiry), ("min_value", .ofNat 2000)]])]

theorem oneSource_bounded {n : Nat} (short : Json.Number.isExactInteger n = true) :
    (oneSource (.ofNat n)).Bounded := by
  have number : ∀ i : Int, Json.Number.isExactInteger i = true → Json.Bounded (.number (.int i)) :=
    fun _ short => .number short
  refine .object ?_
  simp only [List.forall_mem_singleton]
  refine .array ?_
  simp only [List.forall_mem_singleton]
  refine .object ?_
  simp only [List.forall_mem_cons]
  exact ⟨.string _, number 3000 (by decide), number n short, number 2000 (by decide), by simp⟩

theorem oneSource_range (expiry : Json) : ∀ source ∈ sourcesIn (oneSource expiry),
    (maxValueIn source).lt (minValueIn source) = false := by
  intro source there
  rw [List.mem_singleton.mp there]
  show (Double.ofInt 3000).lt (.ofInt 2000) = false
  decide +kernel

theorem oneSource_planned :
    (oneSource (.ofNat 60)).Bounded ∧ Schema.check (oneSource (.ofNat 60)) schema = [] ∧
      ∃ plan, planOf (oneSource (.ofNat 60)) = .ok plan := by
  have bounded : (oneSource (.ofNat 60)).Bounded := oneSource_bounded (by decide)
  have checked : Schema.check (oneSource (.ofNat 60)) schema = [] :=
    List.isEmpty_iff.mp (by decide +kernel)
  refine ⟨bounded, checked, (checked_configs_planned bounded checked).mpr ⟨?_, oneSource_range _⟩⟩
  refine ⟨fun d => by simp [oneSource, Json.member?, Json.lookup], fun source there => ?_⟩
  rw [List.mem_singleton.mp there]
  exact { qos := fun d present => by cases present
          expiry := fun d present => by cases present
          short := fun i present => by cases present; decide }

/-- The schema takes an expiry of more than 32 bits, of which no device can be made. -/
theorem not_every_checked_config_planned :
    ¬ ∀ config : Json, config.Bounded → Schema.check config schema = [] →
      ((∃ plan, planOf config = .ok plan) ↔
        ∀ source ∈ sourcesIn config, (maxValueIn source).lt (minValueIn source) = false) := by
  intro agree
  have checked : Schema.check (oneSource (.ofNat (pow2 32))) schema = [] :=
    List.isEmpty_iff.mp (by decide +kernel)
  obtain ⟨plan, planned⟩ :=
    (agree _ (oneSource_bounded (by decide)) checked).mpr (oneSource_range _)
  have refused : (planOf (oneSource (.ofNat (pow2 32)))).isOk = false := by decide +kernel
  rw [planned] at refused
  cases refused

end EdgeGateway.Simulation

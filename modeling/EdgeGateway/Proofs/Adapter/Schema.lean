import EdgeGateway.Adapter.Schema
import EdgeGateway.Proofs.Json

/-!
# What the keywords of a schema mean

`HasType` and `Breaks` say what each keyword asks of a value, `Satisfies` what a whole schema asks
of a whole configuration, none of them by way of the checker. `ownFaults` is what the checker says
about one value of an allowed type, and `ownFaults_exact` that these are the broken keywords, each
once.
-/

namespace EdgeGateway.Schema

/-! ### Types -/

inductive HasType : Json → String → Prop
  | null : HasType .null "null"
  | boolean (b : Bool) : HasType (.bool b) "boolean"
  | integer (i : Int) : HasType (.number (.int i)) "integer"
  | whole {d : Double} (finite : d.isFinite = true) (multiple : (pow2 1074 : Int) ∣ d.units) :
    HasType (.number (.double d)) "integer"
  | number (n : Json.Number) : HasType (.number n) "number"
  | string (s : String) : HasType (.string s) "string"
  | array (items : List Json) : HasType (.array items) "array"
  | object (members : List (String × Json)) : HasType (.object members) "object"

theorem isWhole_iff {d : Double} :
    d.isWhole = true ↔ d.isFinite = true ∧ (pow2 1074 : Int) ∣ d.units := by
  rw [Double.isWhole, Bool.and_eq_true, decide_eq_true_eq, Int.dvd_iff_emod_eq_zero]

theorem hasType_iff {value : Json} {type : String} :
    hasType value type = true ↔ HasType value type := by
  constructor
  · intro has
    unfold hasType at has
    split at has
    next n => exact .number n
    next => cases has
    next i => exact .integer i
    next d =>
      obtain ⟨finite, multiple⟩ := isWhole_iff.mp has
      exact .whole finite multiple
    next => cases has
    next notNumber notInteger _ _ _ =>
      obtain rfl := of_decide_eq_true has
      match value with
      | .null => exact .null
      | .bool b => exact .boolean b
      | .number (.int _) => exact (notInteger rfl).elim
      | .number (.double _) => exact (notNumber rfl).elim
      | .string s => exact .string s
      | .array items => exact .array items
      | .object members => exact .object members
  · intro has
    cases has with
    | whole finite multiple => exact isWhole_iff.mpr ⟨finite, multiple⟩
    | null | boolean | integer | number | string | array | object => rfl

/-- The types that a schema names, one or a list of them. -/
inductive Allowed (kws : List (String × Json)) : List String → Prop
  | one {type : String} (given : Json.lookup "type" kws = some (.string type)) : Allowed kws [type]
  | several {types : List Json} (given : Json.lookup "type" kws = some (.array types)) :
    Allowed kws (types.filterMap Json.string?)

/-- A value has none of the types that the schema names. -/
structure TypeFails (kws : List (String × Json)) (value : Json) (types : List String) : Prop where
  allowed : Allowed kws types
  named : types ≠ []
  other : ∀ type ∈ types, ¬ HasType value type

theorem typeFails_iff {kws : List (String × Json)} {value : Json} {types : List String} :
    TypeFails kws value types ↔
      types = allowedTypes kws ∧ types ≠ [] ∧ types.any (hasType value) = false := by
  have other : (∀ type ∈ types, ¬ HasType value type) ↔ types.any (hasType value) = false := by
    simp [← hasType_iff]
  rw [← other]
  constructor
  · rintro ⟨allowed, named, none⟩
    refine ⟨?_, named, none⟩
    cases allowed with
    | one given => simp [allowedTypes, given]
    | several given => simp [allowedTypes, given]
  · rintro ⟨rfl, named, none⟩
    refine ⟨?_, named, none⟩
    unfold allowedTypes at named ⊢
    split
    next given => exact .one given
    next given => exact .several given
    next noString noArray =>
      split at named
      next given => exact (noString _ given).elim
      next given => exact (noArray _ given).elim
      next => exact (named rfl).elim

/-! ### Keywords -/

/-- A bound on a size: an integer from 0 to `2 ^ 64 - 1`. -/
def SizeBound (kws : List (String × Json)) (keyword : String) (bound : Nat) : Prop :=
  Json.lookup keyword kws = some (.number (.int bound)) ∧ bound < pow2 64

/-- A bound on a number, as the double nearest to it. -/
def NumberBound (kws : List (String × Json)) (keyword : String) (bound : Double) : Prop :=
  ∃ n : Json.Number, Json.lookup keyword kws = some (.number n) ∧ bound = n.toDouble

/-- A schema declares a property with a schema of its own. -/
def Declares (kws : List (String × Json)) (name : String) (schema : Json) : Prop :=
  ∃ properties, Json.lookup "properties" kws = some (.object properties) ∧
    Json.lookup name properties = some schema

/-- The keywords, other than `type`, that a value fails. -/
inductive Breaks (kws : List (String × Json)) : Json → Mismatch → Prop
  | enumeration {value : Json} {allowed : List Json}
      (given : Json.lookup "enum" kws = some (.array allowed))
      (absent : ∀ a ∈ allowed, ¬ Json.Equal a value) : Breaks kws value (.enumeration allowed)
  | minimum {n : Json.Number} {bound : Double} (given : NumberBound kws "minimum" bound)
      (below : n.toDouble.lt bound = true) : Breaks kws (.number n) (.minimum bound)
  | maximum {n : Json.Number} {bound : Double} (given : NumberBound kws "maximum" bound)
      (above : bound.lt n.toDouble = true) : Breaks kws (.number n) (.maximum bound)
  | minLength {s : String} {bound : Nat} (given : SizeBound kws "minLength" bound)
      (short : s.length < bound) : Breaks kws (.string s) (.minLength bound)
  | maxLength {s : String} {bound : Nat} (given : SizeBound kws "maxLength" bound)
      (long : bound < s.length) : Breaks kws (.string s) (.maxLength bound)
  | pattern {s source : String} (given : Json.lookup "pattern" kws = some (.string source))
      (unmatched : Pattern.search? source s = some false) : Breaks kws (.string s) (.pattern source)
  | minItems {items : List Json} {bound : Nat} (given : SizeBound kws "minItems" bound)
      (few : items.length < bound) : Breaks kws (.array items) (.minItems bound)
  | maxItems {items : List Json} {bound : Nat} (given : SizeBound kws "maxItems" bound)
      (many : bound < items.length) : Breaks kws (.array items) (.maxItems bound)
  | required {members : List (String × Json)} {entries : List Json} {name : String}
      (given : Json.lookup "required" kws = some (.array entries))
      (listed : Json.string name ∈ entries) (absent : name ∉ members.map Prod.fst) :
    Breaks kws (.object members) (.required name)
  | additional {members : List (String × Json)} {name : String}
      (closed : Json.lookup "additionalProperties" kws = some (.bool false))
      (present : name ∈ members.map Prod.fst) (undeclared : ∀ schema, ¬ Declares kws name schema) :
    Breaks kws (.object members) (.additional name)

/-- A configuration satisfies a schema. What is not an object restricts nothing. -/
inductive Satisfies : Json → Json → Prop
  | free {value schema : Json} (noKeywords : ∀ kws, schema ≠ .object kws) : Satisfies value schema
  | keywords {value : Json} {kws : List (String × Json)}
      (typed : ∀ types, ¬ TypeFails kws value types) (kept : ∀ m, ¬ Breaks kws value m)
      (properties : ∀ members name child schema, value = .object members →
        (name, child) ∈ members → Declares kws name schema → Satisfies child schema)
      (items : ∀ items item schema, value = .array items → item ∈ items →
        Json.lookup "items" kws = some schema → Satisfies item schema) :
    Satisfies value (.object kws)

/-! ### How keywords are read -/

section Reading
variable {kws : List (String × Json)} {keyword : String}

theorem wordAt?_eq_some {bound : Nat} :
    wordAt? keyword kws = some bound ↔ SizeBound kws keyword bound := by
  unfold wordAt? SizeBound
  constructor
  · intro read
    split at read
    next n given =>
      unfold Json.Number.word? at read
      split at read
      next i =>
        split at read
        next range =>
          obtain rfl := Option.some.inj read
          rw [given, Int.toNat_of_nonneg range.1]
          exact ⟨rfl, by omega⟩
        next => cases read
      next => cases read
    next => cases read
  · rintro ⟨given, range⟩
    have inside : (0 : Int) ≤ bound ∧ (bound : Int) < pow2 64 := by omega
    simp [given, Json.Number.word?, range]

theorem doubleAt?_eq_some {bound : Double} :
    doubleAt? keyword kws = some bound ↔ NumberBound kws keyword bound := by
  unfold doubleAt? NumberBound
  constructor
  · intro read
    split at read
    next n given => exact ⟨n, given, (Option.some.inj read).symm⟩
    next => cases read
  · rintro ⟨n, given, rfl⟩
    rw [given]

theorem array?_eq_some {entries : List Json} :
    (Json.lookup keyword kws).bind Json.array? = some entries ↔
      Json.lookup keyword kws = some (.array entries) := by
  rw [Option.bind_eq_some_iff]
  constructor
  · rintro ⟨value, given, entriesOf⟩
    cases value with
    | array => rw [given, ← Option.some.inj entriesOf]
    | null | bool | number | string | object => cases entriesOf
  · exact fun given => ⟨_, given, rfl⟩

theorem string?_eq_some {value : Json} {s : String} : value.string? = some s ↔ value = .string s := by
  cases value <;> simp [Json.string?]

theorem property?_eq_some {name : String} {schema : Json} :
    property? name kws = some schema ↔ Declares kws name schema := by
  unfold property? Declares
  rw [Option.bind_eq_some_iff]
  constructor
  · rintro ⟨properties, given, found⟩
    obtain ⟨value, there, same⟩ := Option.bind_eq_some_iff.mp given
    cases value with
    | object => exact ⟨properties, by rw [there, ← Option.some.inj same], found⟩
    | null | bool | number | string | array => cases same
  · rintro ⟨properties, given, found⟩
    exact ⟨properties, by rw [given]; rfl, found⟩

theorem isClosed_iff :
    isClosed kws = true ↔ Json.lookup "additionalProperties" kws = some (.bool false) := by
  unfold isClosed
  split
  next given => exact ⟨fun _ => given, fun _ => rfl⟩
  next others => exact ⟨fun closed => by simp at closed, fun given => (others given).elim⟩

theorem mem_boundFault {α : Type} {bound : Option α} {exceeded : α → Bool} {fault : α → Mismatch}
    {m : Mismatch} :
    m ∈ boundFault bound exceeded fault ↔ ∃ b, bound = some b ∧ exceeded b = true ∧ m = fault b := by
  cases bound with
  | none => simp [boundFault]
  | some b =>
    by_cases beyond : exceeded b = true <;> simp [boundFault, beyond]

theorem keywords_boundFault {α : Type} (keyword : String) (bound : Option α) (exceeded : α → Bool)
    {fault : α → Mismatch} (named : ∀ b, (fault b).keyword = keyword) :
    ((boundFault bound exceeded fault).map Mismatch.keyword).Sublist [keyword] := by
  cases bound with
  | none => exact List.nil_sublist _
  | some b =>
    by_cases beyond : exceeded b = true
    · simp [boundFault, beyond, named]
    · simp [boundFault, beyond]

theorem mem_enumFaults {value : Json} {m : Mismatch} :
    m ∈ enumFaults value kws ↔ ∃ allowed, Json.lookup "enum" kws = some (.array allowed) ∧
      (∀ a ∈ allowed, ¬ Json.Equal a value) ∧ m = .enumeration allowed := by
  unfold enumFaults
  split
  next allowed given =>
    have given := array?_eq_some.mp given
    have none : allowed.any (fun a => a.same value) = false ↔
        ∀ a ∈ allowed, ¬ Json.Equal a value := by
      simp [← Json.same_iff]
    rw [given]
    split
    next found =>
      refine ⟨fun there => (List.not_mem_nil there).elim, ?_⟩
      rintro ⟨_, same, absent, _⟩
      cases same
      rw [none.mpr absent] at found
      cases found
    next missing =>
      have absent := none.mp (Bool.eq_false_iff.mpr missing)
      rw [List.mem_singleton]
      constructor
      · exact fun same => ⟨allowed, rfl, absent, same⟩
      · rintro ⟨_, same, _, rfl⟩
        cases same
        rfl
  next notGiven =>
    refine ⟨fun there => (List.not_mem_nil there).elim, ?_⟩
    rintro ⟨allowed, given, _⟩
    rw [array?_eq_some.mpr given] at notGiven
    cases notGiven

theorem absent_iff {members : List (String × Json)} {name : String} :
    (!members.any (·.1 = name)) = true ↔ name ∉ members.map Prod.fst := by
  simp only [Bool.not_eq_true', List.any_eq_false, decide_eq_true_eq, List.mem_map, not_exists,
    not_and]

theorem mem_missingNames {members : List (String × Json)} {name : String} :
    name ∈ missingNames members kws ↔
      (∃ entries, Json.lookup "required" kws = some (.array entries) ∧
        Json.string name ∈ entries) ∧ name ∉ members.map Prod.fst := by
  have listed : name ∈ (((Json.lookup "required" kws).bind Json.array?).getD []).filterMap
      Json.string? ↔ ∃ entries, Json.lookup "required" kws = some (.array entries) ∧
        Json.string name ∈ entries := by
    cases given : (Json.lookup "required" kws).bind Json.array? with
    | none =>
      refine ⟨fun there => (List.not_mem_nil there).elim, ?_⟩
      rintro ⟨entries, there, _⟩
      rw [array?_eq_some.mpr there] at given
      cases given
    | some entries => simp [string?_eq_some, array?_eq_some.mp given]
  rw [missingNames, List.mem_filter, listed, absent_iff]

end Reading

/-! ### What is found at one value -/

/-- The members of a closed object that the schema does not declare. -/
def undeclaredNames (members kws : List (String × Json)) : List String :=
  if isClosed kws then
    (members.filter fun member => (property? member.1 kws).isNone).map Prod.fst
  else []

/-- The mismatches at a value of an allowed type, those below it apart. -/
def ownFaults (kws : List (String × Json)) (value : Json) : List Mismatch :=
  enumFaults value kws ++ match value with
    | .number n => numberFaults n kws
    | .string s => stringFaults s kws
    | .array items => sizeFaults items.length kws
    | .object members => (missingNames members kws).map .required ++
        (undeclaredNames members kws).map .additional
    | _ => []

/-- The member that a mismatch is about, where it is not about a value that is there. -/
def Mismatch.required? : Mismatch → Option String
  | .required name => some name
  | _ => none

def Mismatch.additional? : Mismatch → Option String
  | .additional name => some name
  | _ => none

def Mismatch.name? (m : Mismatch) : Option String := m.required? <|> m.additional?

/-- A list of mismatches says of a value what is wrong with it, and nothing twice. -/
structure Exactly (kws : List (String × Json)) (value : Json) (ms : List Mismatch) : Prop where
  broken : ∀ m, m ∈ ms ↔ Breaks kws value m
  /-- One for each keyword, of those that are not about names. -/
  keywords : ((ms.filter fun m => m.name?.isNone).map Mismatch.keyword).Nodup
  /-- One for each missing entry of `required`. -/
  entries : ∀ names name, Json.lookup "required" kws = some (.array names) →
    Breaks kws value (.required name) →
      (ms.filterMap Mismatch.required?).count name = (names.filterMap Json.string?).count name
  /-- One for each undeclared member of a closed object. -/
  members : (ms.filterMap Mismatch.additional?).Nodup

section Own
variable {kws : List (String × Json)}

theorem mem_undeclaredNames {members : List (String × Json)} {name : String} :
    name ∈ undeclaredNames members kws ↔
      Json.lookup "additionalProperties" kws = some (.bool false) ∧
        name ∈ members.map Prod.fst ∧ ∀ schema, ¬ Declares kws name schema := by
  have undeclared : (property? name kws).isNone = true ↔ ∀ schema, ¬ Declares kws name schema := by
    simp only [Option.isNone_iff_eq_none, Option.eq_none_iff_forall_ne_some, ne_eq,
      property?_eq_some]
  rw [← undeclared, ← isClosed_iff]
  by_cases closed : isClosed kws = true
  · simp only [undeclaredNames, closed, if_true, List.mem_map, List.mem_filter, true_and]
    constructor
    · rintro ⟨member, ⟨there, free⟩, rfl⟩
      exact ⟨⟨member, there, rfl⟩, free⟩
    · rintro ⟨⟨member, there, rfl⟩, free⟩
      exact ⟨member, ⟨there, free⟩, rfl⟩
  · simp [undeclaredNames, closed]

theorem mem_of_breaks {value : Json} {m : Mismatch} (broken : Breaks kws value m) :
    m ∈ ownFaults kws value := by
  cases broken with
  | enumeration given absent =>
    exact List.mem_append_left _ (mem_enumFaults.mpr ⟨_, given, absent, rfl⟩)
  | minimum given below =>
    refine List.mem_append_right _ (List.mem_append_left _ (mem_boundFault.mpr ?_))
    exact ⟨_, doubleAt?_eq_some.mpr given, below, rfl⟩
  | maximum given above =>
    refine List.mem_append_right _ (List.mem_append_right _ (mem_boundFault.mpr ?_))
    exact ⟨_, doubleAt?_eq_some.mpr given, above, rfl⟩
  | minLength given short =>
    refine List.mem_append_right _ (List.mem_append_left _ (List.mem_append_left _
      (mem_boundFault.mpr ?_)))
    exact ⟨_, wordAt?_eq_some.mpr given, decide_eq_true short, rfl⟩
  | maxLength given long =>
    refine List.mem_append_right _ (List.mem_append_left _ (List.mem_append_right _
      (mem_boundFault.mpr ?_)))
    exact ⟨_, wordAt?_eq_some.mpr given, decide_eq_true long, rfl⟩
  | pattern given unmatched =>
    refine List.mem_append_right _ (List.mem_append_right _ (mem_boundFault.mpr ?_))
    exact ⟨_, by rw [given]; rfl, by simp [matchesPattern, unmatched], rfl⟩
  | minItems given few =>
    refine List.mem_append_right _ (List.mem_append_left _ (mem_boundFault.mpr ?_))
    exact ⟨_, wordAt?_eq_some.mpr given, decide_eq_true few, rfl⟩
  | maxItems given many =>
    refine List.mem_append_right _ (List.mem_append_right _ (mem_boundFault.mpr ?_))
    exact ⟨_, wordAt?_eq_some.mpr given, decide_eq_true many, rfl⟩
  | required given listed absent =>
    refine List.mem_append_right _ (List.mem_append_left _ (List.mem_map_of_mem ?_))
    exact mem_missingNames.mpr ⟨⟨_, given, listed⟩, absent⟩
  | additional closed present undeclared =>
    refine List.mem_append_right _ (List.mem_append_right _ (List.mem_map_of_mem ?_))
    exact mem_undeclaredNames.mpr ⟨closed, present, undeclared⟩

theorem breaks_of_numberFaults {n : Json.Number} {m : Mismatch} (there : m ∈ numberFaults n kws) :
    Breaks kws (.number n) m := by
  rcases List.mem_append.mp there with there | there
  · obtain ⟨_, given, below, rfl⟩ := mem_boundFault.mp there
    exact .minimum (doubleAt?_eq_some.mp given) below
  · obtain ⟨_, given, above, rfl⟩ := mem_boundFault.mp there
    exact .maximum (doubleAt?_eq_some.mp given) above

theorem breaks_of_stringFaults {s : String} {m : Mismatch} (there : m ∈ stringFaults s kws) :
    Breaks kws (.string s) m := by
  rcases List.mem_append.mp there with there | there
  · rcases List.mem_append.mp there with there | there
    · obtain ⟨_, given, short, rfl⟩ := mem_boundFault.mp there
      exact .minLength (wordAt?_eq_some.mp given) (of_decide_eq_true short)
    · obtain ⟨_, given, long, rfl⟩ := mem_boundFault.mp there
      exact .maxLength (wordAt?_eq_some.mp given) (of_decide_eq_true long)
  · obtain ⟨source, given, unmatched, rfl⟩ := mem_boundFault.mp there
    obtain ⟨value, given, text⟩ := Option.bind_eq_some_iff.mp given
    refine .pattern (string?_eq_some.mp text ▸ given) ?_
    cases searched : Pattern.search? source s with
    | none => simp [matchesPattern, searched] at unmatched
    | some found => simpa [matchesPattern, searched] using unmatched

theorem breaks_of_sizeFaults {items : List Json} {m : Mismatch}
    (there : m ∈ sizeFaults items.length kws) : Breaks kws (.array items) m := by
  rcases List.mem_append.mp there with there | there
  · obtain ⟨_, given, few, rfl⟩ := mem_boundFault.mp there
    exact .minItems (wordAt?_eq_some.mp given) (of_decide_eq_true few)
  · obtain ⟨_, given, many, rfl⟩ := mem_boundFault.mp there
    exact .maxItems (wordAt?_eq_some.mp given) (of_decide_eq_true many)

theorem breaks_of_mem {value : Json} {m : Mismatch} (there : m ∈ ownFaults kws value) :
    Breaks kws value m := by
  rcases List.mem_append.mp there with there | there
  · obtain ⟨_, given, absent, rfl⟩ := mem_enumFaults.mp there
    exact .enumeration given absent
  · match value with
    | .number _ => exact breaks_of_numberFaults there
    | .string _ => exact breaks_of_stringFaults there
    | .array _ => exact breaks_of_sizeFaults there
    | .object _ =>
      rcases List.mem_append.mp there with there | there
      · obtain ⟨_, missing, rfl⟩ := List.mem_map.mp there
        obtain ⟨⟨_, given, listed⟩, absent⟩ := mem_missingNames.mp missing
        exact .required given listed absent
      · obtain ⟨_, extra, rfl⟩ := List.mem_map.mp there
        obtain ⟨closed, present, undeclared⟩ := mem_undeclaredNames.mp extra
        exact .additional closed present undeclared
    | .null | .bool _ => exact (List.not_mem_nil there).elim

theorem mem_ownFaults {value : Json} {m : Mismatch} :
    m ∈ ownFaults kws value ↔ Breaks kws value m :=
  ⟨breaks_of_mem, mem_of_breaks⟩

theorem keywords_enumFaults (value : Json) (kws : List (String × Json)) :
    ((enumFaults value kws).map Mismatch.keyword).Sublist ["enum"] := by
  unfold enumFaults
  split
  · split
    · exact List.nil_sublist _
    · exact .refl _
  · exact List.nil_sublist _

theorem keywords_numberFaults (n : Json.Number) (kws : List (String × Json)) :
    ((numberFaults n kws).map Mismatch.keyword).Sublist ["minimum", "maximum"] := by
  rw [numberFaults, List.map_append]
  exact (keywords_boundFault "minimum" _ _ fun _ => rfl).append
    (keywords_boundFault "maximum" _ _ fun _ => rfl)

theorem keywords_stringFaults (s : String) (kws : List (String × Json)) :
    ((stringFaults s kws).map Mismatch.keyword).Sublist ["minLength", "maxLength", "pattern"] := by
  rw [stringFaults, List.map_append, List.map_append]
  exact ((keywords_boundFault "minLength" _ _ fun _ => rfl).append
    (keywords_boundFault "maxLength" _ _ fun _ => rfl)).append
    (keywords_boundFault "pattern" _ _ fun _ => rfl)

theorem keywords_sizeFaults (size : Nat) (kws : List (String × Json)) :
    ((sizeFaults size kws).map Mismatch.keyword).Sublist ["minItems", "maxItems"] := by
  rw [sizeFaults, List.map_append]
  exact (keywords_boundFault "minItems" _ _ fun _ => rfl).append
    (keywords_boundFault "maxItems" _ _ fun _ => rfl)

/-- Each keyword for one kind of value stands in a list without repetitions. -/
theorem keywords_ownFaults (value : Json) :
    (((ownFaults kws value).filter fun m => m.name?.isNone).map Mismatch.keyword).Nodup := by
  have enumeration := keywords_enumFaults value kws
  have kept (ms : List Mismatch) :
      ((ms.filter fun m => m.name?.isNone).map Mismatch.keyword).Sublist (ms.map Mismatch.keyword) :=
    List.filter_sublist.map _
  match value with
  | .number n =>
    have all := enumeration.append (keywords_numberFaults n kws)
    rw [← List.map_append] at all
    exact ((kept _).trans all).nodup (by decide)
  | .string s =>
    have all := enumeration.append (keywords_stringFaults s kws)
    rw [← List.map_append] at all
    exact ((kept _).trans all).nodup (by decide)
  | .array items =>
    have all := enumeration.append (keywords_sizeFaults items.length kws)
    rw [← List.map_append] at all
    exact ((kept _).trans all).nodup (by decide)
  | .object members =>
    have named : ((missingNames members kws).map Mismatch.required ++
        (undeclaredNames members kws).map Mismatch.additional).filter
          (fun m => m.name?.isNone) = [] := by
      simp [List.filter_eq_nil_iff, Mismatch.name?, Mismatch.required?, Mismatch.additional?]
    rw [ownFaults, List.filter_append, named, List.append_nil]
    exact ((kept _).trans enumeration).nodup (by decide)
  | .null | .bool _ =>
    simp only [ownFaults, List.append_nil]
    exact ((kept _).trans enumeration).nodup (by decide)

theorem names_enumFaults (value : Json) {name? : Mismatch → Option String}
    (unnamed : ∀ allowed, name? (.enumeration allowed) = none) :
    (enumFaults value kws).filterMap name? = [] := by
  rw [List.filterMap_eq_nil_iff]
  intro m there
  obtain ⟨allowed, _, _, rfl⟩ := mem_enumFaults.mp there
  exact unnamed allowed

theorem required_ownFaults (members : List (String × Json)) :
    (ownFaults kws (.object members)).filterMap Mismatch.required? = missingNames members kws := by
  rw [ownFaults, List.filterMap_append, names_enumFaults _ fun _ => rfl, List.filterMap_append,
    List.filterMap_map, List.filterMap_map]
  simp [Function.comp_def, Mismatch.required?]

theorem additional_ownFaults (members : List (String × Json)) :
    (ownFaults kws (.object members)).filterMap Mismatch.additional? =
      undeclaredNames members kws := by
  rw [ownFaults, List.filterMap_append, names_enumFaults _ fun _ => rfl, List.filterMap_append,
    List.filterMap_map, List.filterMap_map]
  simp [Function.comp_def, Mismatch.additional?]

theorem additional_nodup {value : Json} (proper : value.Proper) :
    ((ownFaults kws value).filterMap Mismatch.additional?).Nodup := by
  cases proper with
  | @object members ascending each =>
    rw [additional_ownFaults, undeclaredNames]
    split
    · exact (List.filter_sublist.map _).nodup ascending.nodup
    · exact List.nodup_nil
  | null | bool | number | string | array =>
    -- only an object breaks `additionalProperties`
    rw [List.filterMap_eq_nil_iff.mpr fun m there => by cases mem_ownFaults.mp there <;> rfl]
    exact List.nodup_nil

theorem ownFaults_exact {value : Json} (proper : value.Proper) :
    Exactly kws value (ownFaults kws value) where
  broken _ := mem_ownFaults
  keywords := keywords_ownFaults value
  entries names name given broken := by
    cases broken with
    | @required members entries _ _ listed absent =>
      rw [required_ownFaults, missingNames, array?_eq_some.mpr given, Option.getD_some]
      exact List.count_filter (p := fun name => !members.any (·.1 = name)) (absent_iff.mpr absent)
  members := additional_nodup proper

end Own

end EdgeGateway.Schema

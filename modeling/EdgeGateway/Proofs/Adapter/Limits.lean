import EdgeGateway.Proofs.Adapter.Violations
import EdgeGateway.Proofs.Double

/-!
# Limits of integers

The limits of a number are compared as doubles, and these keep 53 bits of an integer. So a schema
limits integers up to rounding (`integer_limits_hold_up_to_rounding`): what it reports is past its
limit, and what it lets pass is past it by 2 ^ 11 at most, both of more than 53 bits.
-/

namespace EdgeGateway.Schema

/-- A violation of a keyword at a place of the configuration. -/
def Reports (config schema : Json) (path : Path) (keyword : String) : Prop :=
  ∃ v ∈ check config schema, v.path = path ∧ v.mismatch.keyword = keyword

theorem not_reports {config schema : Json} {path : Path} {keyword : String}
    (silent : check config schema = []) : ¬ Reports config schema path keyword :=
  fun ⟨_, there, _⟩ => List.not_mem_nil (silent ▸ there)

/-- The keywords that are reported at a member of the value that breaks them. -/
def memberKeywords : List String := ["required", "additionalProperties"]

theorem name?_eq_none {m : Mismatch} (own : m.keyword ∉ memberKeywords) : m.name? = none := by
  cases m with
  | required => exact absurd List.mem_cons_self own
  | additional => exact absurd (List.mem_cons_of_mem _ List.mem_cons_self) own
  | type | enumeration | minItems | maxItems | minimum | maximum | minLength | maxLength | pattern =>
    rfl

section Reported
variable {config schema value : Json} {path : Path} {kws : List (String × Json)}

/-- What is said about a value of an allowed type is what it breaks. -/
theorem mem_check_iff (proper : config.Proper)
    (reached : Reaches config schema path value (.object kws))
    (typed : ∀ types, ¬ TypeFails kws value types) {v : Violation} :
    v ∈ check config schema ∧ v.about = path ↔ ∃ m, Breaks kws value m ∧ m.violation path = v := by
  have same := ((filter_about proper reached).trans (filter_checkAt typed)).mem_iff (a := v)
  simpa only [List.mem_filter, decide_eq_true_eq, List.mem_map, mem_ownFaults] using same

theorem reports_iff (proper : config.Proper)
    (reached : Reaches config schema path value (.object kws))
    (typed : ∀ types, ¬ TypeFails kws value types) {keyword : String}
    (own : keyword ∉ memberKeywords) :
    Reports config schema path keyword ↔ ∃ m, Breaks kws value m ∧ m.keyword = keyword := by
  constructor
  · rintro ⟨v, there, rfl, rfl⟩
    have about : v.about = v.path := by
      rw [Violation.about, name?_eq_none own]
      rfl
    obtain ⟨m, broken, shown⟩ := (mem_check_iff proper reached typed).mp ⟨there, about⟩
    exact ⟨m, broken, congrArg (·.mismatch.keyword) shown⟩
  · rintro ⟨m, broken, rfl⟩
    obtain ⟨there, _⟩ := (mem_check_iff proper reached typed).mpr ⟨m, broken, rfl⟩
    refine ⟨_, there, ?_, rfl⟩
    rw [Mismatch.violation, name?_eq_none own]
    exact List.append_nil _

end Reported

section Limits
variable {kws : List (String × Json)} {n : Json.Number} {limit : Json.Number}

theorem numberBound_iff {keyword : String} {bound : Double}
    (given : Json.lookup keyword kws = some (.number limit)) :
    NumberBound kws keyword bound ↔ bound = limit.toDouble := by
  constructor
  · rintro ⟨other, there, rfl⟩
    rw [Json.number.inj (Option.some.inj (given.symm.trans there))]
  · rintro rfl
    exact ⟨limit, given, rfl⟩

theorem breaks_minimum_iff (given : Json.lookup "minimum" kws = some (.number limit)) :
    (∃ m, Breaks kws (.number n) m ∧ m.keyword = "minimum") ↔
      n.toDouble.lt limit.toDouble = true := by
  constructor
  · rintro ⟨m, broken, named⟩
    cases broken with
    | minimum bound below => exact (numberBound_iff given).mp bound ▸ below
    | enumeration | maximum => simp [Mismatch.keyword] at named
  · intro below
    exact ⟨_, .minimum ((numberBound_iff given).mpr rfl) below, rfl⟩

theorem breaks_maximum_iff (given : Json.lookup "maximum" kws = some (.number limit)) :
    (∃ m, Breaks kws (.number n) m ∧ m.keyword = "maximum") ↔
      limit.toDouble.lt n.toDouble = true := by
  constructor
  · rintro ⟨m, broken, named⟩
    cases broken with
    | maximum bound above => exact (numberBound_iff given).mp bound ▸ above
    | enumeration | minimum => simp [Mismatch.keyword] at named
  · intro above
    exact ⟨_, .maximum ((numberBound_iff given).mpr rfl) above, rfl⟩

end Limits

/-! ### Integers of 64 bits -/

theorem natAbs_lt_of_exact {i : Int} (short : Json.Number.isExactInteger i = true) :
    i.natAbs < pow2 64 := by
  have low : pow2 63 < pow2 64 := by decide
  simp only [Json.Number.isExactInteger, Bool.and_eq_true, decide_eq_true_eq] at short
  omega

section Integers
variable {config schema : Json} {path : Path} {kws : List (String × Json)} {n limit : Int}

/-- An integer of 64 bits anywhere in a configuration is reported exactly if it is past its limit and
the two are not rounded to the same 53 bits. If they are, both have more than 53 bits, and the integer
is past its limit by 2 ^ 11 at most. -/
theorem integer_limits_hold_up_to_rounding (proper : config.Proper)
    (reached : Reaches config schema path (.ofInt n) (.object kws))
    (typed : ∀ types, ¬ TypeFails kws (.ofInt n) types)
    (short : Json.Number.isExactInteger n = true)
    (short_limit : Json.Number.isExactInteger limit = true) :
    (Json.lookup "minimum" kws = some (.ofInt limit) →
        (Reports config schema path "minimum" ↔
          n < limit ∧ Double.roundedInt n ≠ Double.roundedInt limit)) ∧
      (Json.lookup "maximum" kws = some (.ofInt limit) →
        (Reports config schema path "maximum" ↔
          limit < n ∧ Double.roundedInt n ≠ Double.roundedInt limit)) ∧
      (n ≠ limit → Double.roundedInt n = Double.roundedInt limit →
        pow2 53 ≤ n.natAbs ∧ pow2 53 ≤ limit.natAbs ∧ (n - limit).natAbs ≤ pow2 11) := by
  have bits := natAbs_lt_of_exact short
  have bits_limit := natAbs_lt_of_exact short_limit
  have small := Double.lt_overflowThreshold bits.le
  have small_limit := Double.lt_overflowThreshold bits_limit.le
  refine ⟨fun given => ?_, fun given => ?_, fun other same => ?_⟩
  · rw [reports_iff proper reached typed (by decide)]
    exact (breaks_minimum_iff given).trans (Double.ofInt_lt_iff small small_limit)
  · rw [reports_iff proper reached typed (by decide), ne_comm]
    exact (breaks_maximum_iff given).trans (Double.ofInt_lt_iff small_limit small)
  · have close := Double.close_of_rounded_eq same
    have place : Double.lastPlace n.natAbs ≤ pow2 11 := Double.lastPlace_le bits
    have place_limit : Double.lastPlace limit.natAbs ≤ pow2 11 := Double.lastPlace_le bits_limit
    exact ⟨Double.large_of_rounded_eq same other, Double.large_of_rounded_eq same.symm other.symm,
      by omega⟩

/-- Two neighbours on different sides of the least integer of 54 bits. -/
theorem integer_limits_hold_below_53_bits :
    Reports (.ofInt 9007199254740991) (.object [("minimum", .ofInt 9007199254740992)]) []
      "minimum" := by
  have reached : Reaches (.ofInt 9007199254740991)
      (.object [("minimum", .ofInt 9007199254740992)]) [] (.ofInt 9007199254740991)
      (.object [("minimum", .ofInt 9007199254740992)]) := .root
  have typed : ∀ types, ¬ TypeFails [("minimum", .ofInt 9007199254740992)]
      (.ofInt 9007199254740991) types := fun types fails => fails.named (typeFails_iff.mp fails).1
  have short : Json.Number.isExactInteger 9007199254740992 = true := by decide
  have limits := integer_limits_hold_up_to_rounding (.number _) reached typed (by decide) short
  exact (limits.1 rfl).mpr ⟨by decide, by decide +kernel⟩

/-- Of two neighbours with more than 53 bits the one is no limit for the other. -/
theorem not_every_integer_limit_is_exact :
    (¬ ∀ n limit : Int, Json.Number.isExactInteger n = true →
        Json.Number.isExactInteger limit = true →
        (Reports (.ofInt n) (.object [("minimum", .ofInt limit)]) [] "minimum" ↔ n < limit)) ∧
      ¬ ∀ n limit : Int, Json.Number.isExactInteger n = true →
        Json.Number.isExactInteger limit = true →
        (Reports (.ofInt n) (.object [("maximum", .ofInt limit)]) [] "maximum" ↔ limit < n) := by
  constructor
  · intro exact_limits
    have silent : check (.ofInt 9007199254740992)
        (.object [("minimum", .ofInt 9007199254740993)]) = [] :=
      List.isEmpty_iff.mp (by decide +kernel)
    have reported := (exact_limits 9007199254740992 9007199254740993 (by decide) (by decide)).mpr
    exact not_reports silent (reported (by decide))
  · intro exact_limits
    have silent : check (.ofInt 9007199254740993)
        (.object [("maximum", .ofInt 9007199254740992)]) = [] :=
      List.isEmpty_iff.mp (by decide +kernel)
    have reported := (exact_limits 9007199254740993 9007199254740992 (by decide) (by decide)).mpr
    exact not_reports silent (reported (by decide))

end Integers

end EdgeGateway.Schema

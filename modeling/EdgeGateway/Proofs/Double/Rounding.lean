import EdgeGateway.Double.Basic
import Mathlib.Order.Nat

/-!
# Rounding to doubles

A quotient is rounded at the exponent that gives it 53 bits. Over a power of two that exponent is
known from the highest bit (`exponentFor_pow2`), and so is the least quotient that is rounded to an
infinity: it lies halfway between the largest double and the power of two above it
(`ofRatio_finite_iff`).
-/

namespace EdgeGateway

theorem pow2_add (m n : Nat) : pow2 (m + n) = pow2 m * pow2 n := Nat.pow_add 2 m n

theorem pow2_succ (n : Nat) : pow2 (n + 1) = 2 * pow2 n := Nat.pow_succ'

theorem pow2_le {m n : Nat} (below : m ≤ n) : pow2 m ≤ pow2 n :=
  Nat.pow_le_pow_right (by decide) below

theorem pow2_pos (n : Nat) : 0 < pow2 n := Nat.two_pow_pos n

theorem pow2_log2_le {n : Nat} (positive : n ≠ 0) : pow2 n.log2 ≤ n := Nat.log2_self_le positive

theorem lt_pow2_log2 (n : Nat) : n < pow2 (n.log2 + 1) := Nat.lt_log2_self

namespace Double

/-! ### The nearest integer -/

theorem roundHalfEven_one (n : Nat) : roundHalfEven n 1 = n := by
  simp [roundHalfEven, Nat.mod_one]

theorem roundHalfEven_cases (num den : Nat) :
    roundHalfEven num den = num / den ∧ 2 * (num % den) ≤ den ∨
      roundHalfEven num den = num / den + 1 ∧ den ≤ 2 * (num % den) := by
  unfold roundHalfEven
  dsimp only
  split
  · exact .inl ⟨rfl, by omega⟩
  · split
    · exact .inr ⟨rfl, by omega⟩
    · rcases Nat.mod_two_eq_zero_or_one (num / den) with even | odd
      · exact .inl ⟨by rw [even, Nat.add_zero], by omega⟩
      · exact .inr ⟨by rw [odd], by omega⟩

/-- Rounding moves a quotient by a half at most. -/
theorem roundHalfEven_near (num : Nat) {den : Nat} (positive : 0 < den) :
    2 * num ≤ 2 * (roundHalfEven num den * den) + den ∧
      2 * (roundHalfEven num den * den) ≤ 2 * num + den := by
  have parts := Nat.div_add_mod' num den
  have rest := Nat.mod_lt num positive
  rcases roundHalfEven_cases num den with ⟨down, half⟩ | ⟨up, half⟩
  · rw [down]
    omega
  · rw [up, Nat.add_mul, Nat.one_mul]
    omega

theorem roundHalfEven_mono {num num' : Nat} (le : num ≤ num') (den : Nat) :
    roundHalfEven num den ≤ roundHalfEven num' den := by
  have quotients := Nat.div_le_div_right (c := den) le
  have lower := roundHalfEven_cases num den
  have upper := roundHalfEven_cases num' den
  by_cases same : num / den = num' / den
  · -- of two quotients with the same floor the larger one has the larger rest
    have parts := Nat.div_add_mod' num den
    have parts' := Nat.div_add_mod' num' den
    rw [same] at parts
    unfold roundHalfEven
    rw [same]
    dsimp only
    split
    · split
      · exact Nat.le_refl _
      · split <;> omega
    · split
      · rw [if_neg (by omega), if_pos (by omega)]
      · split
        · omega
        · split <;> omega
  · omega

theorem roundHalfEven_mul (n : Nat) {den : Nat} (positive : 0 < den) :
    roundHalfEven (n * den) den = n := by
  have quotient : n * den / den = n := Nat.mul_div_cancel n positive
  have rest : n * den % den = 0 := Nat.mul_mod_left n den
  unfold roundHalfEven
  rw [quotient, rest]
  simp [positive]

/-- A quotient below an even integer is rounded to it from halfway on. -/
theorem roundHalfEven_eq_iff {num den bound : Nat} (even : bound % 2 = 0) (below : num < bound * den) :
    roundHalfEven num den = bound ↔ 2 * (bound * den) ≤ 2 * num + den := by
  have positive : 0 < den := Nat.pos_of_ne_zero fun zero => by simp [zero] at below
  have parts := Nat.div_add_mod' num den
  have rest := Nat.mod_lt num positive
  have floor : num / den < bound := (Nat.div_lt_iff_lt_mul positive).mpr below
  constructor
  · intro rounded
    have near := roundHalfEven_near num positive
    rw [rounded] at near
    exact near.2
  · intro above
    have next : num / den + 1 = bound := by
      by_contra other
      have far : num / den + 2 ≤ bound := by omega
      have scaled := Nat.mul_le_mul_right den far
      rw [Nat.add_mul] at scaled
      omega
    have half : ¬ 2 * (num % den) < den := by
      rw [← next, Nat.add_mul, Nat.one_mul] at above
      omega
    unfold roundHalfEven
    dsimp only
    rw [if_neg half]
    split
    · exact next
    · omega

/-! ### The exponent -/

theorem minExponent_le_exponentFor (num den : Nat) : minExponent ≤ exponentFor num den :=
  Int.le_max_left ..

/-- Over a power of two a number has 53 bits at the exponent that is 52 below its highest bit. -/
theorem exponentFor_pow2 {num : Nat} (positive : num ≠ 0) (k : Nat) :
    exponentFor num (pow2 k) = max minExponent ((num.log2 : Int) - k - 52) := by
  have high : pow2 num.log2 ≤ num := pow2_log2_le positive
  have places : (pow2 k).log2 = k := Nat.log2_two_pow
  unfold exponentFor
  rw [places]
  have enough : ¬ (scale num (pow2 k) ((num.log2 : Int) - k - 52)).1 <
      pow2 52 * (scale num (pow2 k) ((num.log2 : Int) - k - 52)).2 := by
    unfold scale
    split
    next many =>
      have bits : num.log2 = 52 + (k + ((num.log2 : Int) - k - 52).toNat) := by omega
      rw [bits, pow2_add, pow2_add] at high
      exact Nat.not_lt.mpr high
    next few =>
      have bits : 52 + k = num.log2 + (-((num.log2 : Int) - k - 52)).toNat := by omega
      have scaled : pow2 52 * pow2 k ≤ num * pow2 (-((num.log2 : Int) - k - 52)).toNat := by
        rw [← pow2_add, bits, pow2_add]
        exact Nat.mul_le_mul_right _ high
      exact Nat.not_lt.mpr scaled
  exact congrArg (max minExponent) (if_neg enough)

/-- The significand before a quotient is carried to the next exponent. -/
def significandFor (num den : Nat) : Nat :=
  let (n, d) := scale num den (exponentFor num den)
  roundHalfEven n d

theorem significandFor_eq {num den n d : Nat} {exponent : Int}
    (place : exponentFor num den = exponent) (scaled : scale num den exponent = (n, d)) :
    significandFor num den = roundHalfEven n d := by
  rw [significandFor, place, scaled]

/-- A quotient has the exponent that gives it 53 bits, or the next if it is rounded up to 54. -/
theorem ofRatio_eq (negative : Bool) {num : Nat} (positive : num ≠ 0) (den : Nat) :
    ∃ significand exponent,
      ofRatio negative num den = (if maxExponent < exponent then .infinite negative
        else .finite negative significand exponent) ∧
      exponent = exponentFor num den +
        (if significandFor num den = significandBound then 1 else 0) ∧
      significand * pow2 (exponent - minExponent).toNat =
        significandFor num den * pow2 (exponentFor num den - minExponent).toNat := by
  have unfolded : ofRatio negative num den =
      let carried := if significandFor num den = significandBound then
        (pow2 52, exponentFor num den + 1) else (significandFor num den, exponentFor num den)
      if maxExponent < carried.2 then .infinite negative
      else .finite negative carried.1 carried.2 := by
    rw [ofRatio, if_neg positive]
    rfl
  by_cases carry : significandFor num den = significandBound
  · rw [if_pos carry] at unfolded
    rw [if_pos carry]
    refine ⟨pow2 52, _, unfolded, rfl, ?_⟩
    have least := minExponent_le_exponentFor num den
    have next : (exponentFor num den + 1 - minExponent).toNat =
        1 + (exponentFor num den - minExponent).toNat := by omega
    have bound : significandBound = pow2 52 * pow2 1 := pow2_add 52 1
    rw [carry, bound, next, pow2_add, Nat.mul_assoc]
  · rw [if_neg carry] at unfolded
    rw [if_neg carry]
    exact ⟨_, _, unfolded, (Int.add_zero _).symm, rfl⟩

/-! ### Overflow -/

/-- The least number that is rounded to an infinity: it is as far from the largest double as from
the power of two that would come next, and the significand of that one is even. -/
def overflowThreshold : Nat := (pow2 54 - 1) * pow2 970

theorem overflowThreshold_pos : 0 < overflowThreshold :=
  Nat.mul_pos (by decide) (pow2_pos 970)

/-- The threshold lies between two powers of two. -/
theorem overflowThreshold_binade (k : Nat) : pow2 (k + 1023) ≤ overflowThreshold * pow2 k ∧
    overflowThreshold * pow2 k ≤ pow2 (k + 1024) := by
  have threshold : overflowThreshold * pow2 k = (pow2 54 - 1) * pow2 (k + 970) := by
    rw [overflowThreshold, Nat.mul_assoc, ← pow2_add, Nat.add_comm 970]
  rw [threshold]
  constructor
  · have ends : pow2 53 ≤ pow2 54 - 1 := by decide
    rw [show k + 1023 = 53 + (k + 970) by omega, pow2_add 53]
    exact Nat.mul_le_mul_right _ ends
  · rw [show k + 1024 = 54 + (k + 970) by omega, pow2_add 54]
    exact Nat.mul_le_mul_right _ (Nat.sub_le ..)

/-- A quotient of the highest binade is carried out of it from the threshold on. -/
theorem significandFor_eq_bound_iff {num k : Nat} (low : pow2 (k + 1023) ≤ num)
    (high : num < pow2 (k + 1024)) :
    significandFor num (pow2 k) = significandBound ↔ overflowThreshold * pow2 k ≤ num := by
  have positive : num ≠ 0 := by
    have unit := pow2_pos (k + 1023)
    omega
  have binade : num.log2 = k + 1023 := (Nat.log2_eq_iff positive).mpr ⟨low, high⟩
  have exponent : exponentFor num (pow2 k) = 971 := by
    rw [exponentFor_pow2 positive, binade, minExponent]
    omega
  have scaled : scale num (pow2 k) 971 = (num, pow2 k * pow2 971) := rfl
  have unit : pow2 k * pow2 971 = 2 * (pow2 970 * pow2 k) := by
    rw [← pow2_add, ← pow2_add, ← pow2_succ, Nat.add_comm k, Nat.add_right_comm]
  have top : pow2 (k + 1024) = significandBound * (pow2 k * pow2 971) := by
    rw [significandBound, ← pow2_add, ← pow2_add, Nat.add_left_comm]
  have even : significandBound % 2 = 0 := by decide
  rw [top] at high
  rw [significandFor_eq exponent scaled, roundHalfEven_eq_iff even high, unit, overflowThreshold,
    Nat.mul_assoc]
  generalize pow2 970 * pow2 k = half
  have bits : pow2 54 = 2 * pow2 53 := by decide
  have small : pow2 53 = 9007199254740992 := by decide
  rw [significandBound, bits, small]
  omega

theorem ofRatio_finite_iff (negative : Bool) (num k : Nat) :
    (ofRatio negative num (pow2 k)).isFinite = true ↔ num < overflowThreshold * pow2 k := by
  by_cases zero : num = 0
  · rw [ofRatio, if_pos zero, zero]
    exact ⟨fun _ => Nat.mul_pos overflowThreshold_pos (pow2_pos k), fun _ => rfl⟩
  obtain ⟨significand, exponent, shape, carried, _⟩ := ofRatio_eq negative zero (pow2 k)
  have finite : (ofRatio negative num (pow2 k)).isFinite = true ↔ exponent ≤ maxExponent := by
    rw [shape]
    split
    next large => exact ⟨nofun, fun small => absurd large (Int.not_lt.mpr small)⟩
    next small => exact ⟨fun _ => Int.not_lt.mp small, fun _ => rfl⟩
  have low : pow2 num.log2 ≤ num := pow2_log2_le zero
  have high : num < pow2 (num.log2 + 1) := lt_pow2_log2 num
  obtain ⟨least, most⟩ := overflowThreshold_binade k
  rw [finite, carried, exponentFor_pow2 zero, maxExponent, minExponent]
  rcases Nat.lt_trichotomy num.log2 (k + 1023) with below | top | above
  · have small : num < overflowThreshold * pow2 k :=
      high.trans_le ((pow2_le below).trans least)
    refine ⟨fun _ => small, fun _ => ?_⟩
    split <;> omega
  · rw [top] at low high
    have binade := significandFor_eq_bound_iff low high
    rw [top]
    split
    next carry =>
      have large := binade.mp carry
      omega
    next kept =>
      have small := Nat.not_le.mp (mt binade.mpr kept)
      exact ⟨fun _ => small, fun _ => by omega⟩
  · have large : overflowThreshold * pow2 k ≤ num := most.trans ((pow2_le above).trans low)
    constructor
    · split <;> omega
    · omega

theorem ofRatio_overflow (negative : Bool) {num k : Nat} (large : overflowThreshold * pow2 k ≤ num) :
    ofRatio negative num (pow2 k) = .infinite negative := by
  have unit : 0 < overflowThreshold * pow2 k := Nat.mul_pos overflowThreshold_pos (pow2_pos k)
  have infinite : ¬ (ofRatio negative num (pow2 k)).isFinite = true :=
    mt (ofRatio_finite_iff negative num k).mp (Nat.not_lt.mpr large)
  obtain ⟨significand, exponent, shape, _⟩ := ofRatio_eq negative (by omega : num ≠ 0) (pow2 k)
  rw [shape] at infinite ⊢
  split at infinite
  next beyond => exact if_pos beyond
  next => exact absurd rfl infinite

theorem sub_finite_iff (a b : Double) :
    (a.sub b).isFinite = true ↔ (a.units - b.units).natAbs < overflowThreshold * pow2 1074 := by
  rw [sub]
  exact ofRatio_finite_iff _ _ 1074

end Double
end EdgeGateway

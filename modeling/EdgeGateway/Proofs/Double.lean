import EdgeGateway.Proofs.Double.Rounding

/-!
# Integers as doubles

An integer becomes the double of its first 53 bits, rounded half to even, unless that overflows
(`units_ofInt`). Rounding keeps the order, but not strictly: doubles compare as the integers do
unless both integers are rounded to the same (`ofInt_lt_iff`). Such two have more than 53 bits
(`large_of_rounded_eq`) and are no further apart than their last places (`close_of_rounded_eq`).
-/

namespace EdgeGateway.Double

/-! ### To 53 bits -/

/-- The weight of the last of the first 53 bits. -/
def lastPlace (n : Nat) : Nat := pow2 (n.log2 - 52)

/-- A number to 53 bits, a half going to the even neighbour. -/
def rounded (n : Nat) : Nat := roundHalfEven n (lastPlace n) * lastPlace n

theorem lastPlace_pos (n : Nat) : 0 < lastPlace n := pow2_pos _

theorem lastPlace_le {n k : Nat} (bits : n < pow2 (53 + k)) : lastPlace n ≤ pow2 k := by
  refine pow2_le ?_
  by_cases zero : n = 0
  · rw [zero]
    exact Nat.zero_le _
  · have high : n.log2 < 53 + k := (Nat.log2_lt zero).mpr bits
    omega

theorem lastPlace_small {n : Nat} (small : n < pow2 53) : lastPlace n = 1 :=
  Nat.le_antisymm (lastPlace_le (k := 0) small) (lastPlace_pos n)

/-- The first 53 bits of a number with at least as many. -/
theorem mul_lastPlace {n : Nat} (many : 52 ≤ n.log2) (k : Nat) :
    pow2 (52 + k) * lastPlace n = pow2 (n.log2 + k) := by
  rw [lastPlace, ← pow2_add]
  exact congrArg pow2 (by omega)

theorem rounded_of_dvd {n : Nat} (whole : lastPlace n ∣ n) : rounded n = n := by
  have exact_quotient := roundHalfEven_mul (n / lastPlace n) (lastPlace_pos n)
  rw [Nat.div_mul_cancel whole] at exact_quotient
  rw [rounded, exact_quotient, Nat.div_mul_cancel whole]

theorem rounded_small {n : Nat} (small : n < pow2 53) : rounded n = n :=
  rounded_of_dvd (lastPlace_small small ▸ Nat.one_dvd n)

theorem rounded_near (n : Nat) :
    2 * n ≤ 2 * rounded n + lastPlace n ∧ 2 * rounded n ≤ 2 * n + lastPlace n :=
  roundHalfEven_near n (lastPlace_pos n)

/-! Rounding stays between the powers of two around a number. -/

theorem le_rounded {n : Nat} (positive : n ≠ 0) : pow2 n.log2 ≤ rounded n := by
  have low := pow2_log2_le positive
  by_cases many : 52 ≤ n.log2
  · have bits : pow2 52 * lastPlace n = pow2 n.log2 := mul_lastPlace many 0
    rw [← bits] at low
    have least := roundHalfEven_mono low (lastPlace n)
    rw [roundHalfEven_mul _ (lastPlace_pos n)] at least
    exact bits ▸ Nat.mul_le_mul_right _ least
  · have few : n.log2 < 53 := by omega
    rwa [rounded_small ((Nat.log2_lt positive).mp few)]

theorem rounded_le (n : Nat) : rounded n ≤ pow2 (n.log2 + 1) := by
  have high := Nat.le_of_lt (lt_pow2_log2 n)
  by_cases many : 52 ≤ n.log2
  · have bits := mul_lastPlace many 1
    rw [← bits] at high
    have most := roundHalfEven_mono high (lastPlace n)
    rw [roundHalfEven_mul _ (lastPlace_pos n)] at most
    exact bits ▸ Nat.mul_le_mul_right _ most
  · have few : n.log2 + 1 ≤ 53 := by omega
    rwa [rounded_small ((lt_pow2_log2 n).trans_le (pow2_le few))]

theorem log2_mono {n m : Nat} (le : n ≤ m) : n.log2 ≤ m.log2 := by
  by_cases zero : n = 0
  · rw [zero]
    exact Nat.zero_le _
  · exact (Nat.le_log2 (by omega)).mpr ((pow2_log2_le zero).trans le)

theorem rounded_mono {n m : Nat} (le : n ≤ m) : rounded n ≤ rounded m := by
  by_cases zero : n = 0
  · rw [zero, rounded_small (pow2_pos 53)]
    exact Nat.zero_le _
  rcases Nat.lt_or_eq_of_le (log2_mono le) with below | same
  · -- a power of two lies between the two
    calc rounded n ≤ pow2 (n.log2 + 1) := rounded_le n
      _ ≤ pow2 m.log2 := pow2_le below
      _ ≤ rounded m := le_rounded (by omega)
  · have place : lastPlace n = lastPlace m := by rw [lastPlace, lastPlace, same]
    rw [rounded, rounded, place]
    exact Nat.mul_le_mul_right _ (roundHalfEven_mono le _)

theorem rounded_large {n : Nat} (large : pow2 53 ≤ n) : pow2 53 ≤ rounded n := by
  have positive : n ≠ 0 := Nat.ne_of_gt ((pow2_pos 53).trans_le large)
  exact (pow2_le ((Nat.le_log2 positive).mpr large)).trans (le_rounded positive)

/-! ### With a sign -/

def roundedInt (i : Int) : Int := if i < 0 then -(rounded i.natAbs : Int) else rounded i.natAbs

theorem natAbs_roundedInt (i : Int) : (roundedInt i).natAbs = rounded i.natAbs := by
  unfold roundedInt
  split <;> omega

theorem roundedInt_small {i : Int} (small : i.natAbs < pow2 53) : roundedInt i = i := by
  rw [roundedInt, rounded_small small]
  split <;> omega

theorem roundedInt_mono {i j : Int} (le : i ≤ j) : roundedInt i ≤ roundedInt j := by
  unfold roundedInt
  split
  next negative =>
    split
    next =>
      have larger : j.natAbs ≤ i.natAbs := by omega
      have mono := rounded_mono larger
      omega
    next => omega
  next =>
    have smaller : i.natAbs ≤ j.natAbs := by omega
    have mono := rounded_mono smaller
    rw [if_neg (by omega)]
    omega

theorem roundedInt_lt_iff {i j : Int} :
    roundedInt i < roundedInt j ↔ i < j ∧ roundedInt i ≠ roundedInt j := by
  constructor
  · intro less
    refine ⟨Int.not_le.mp fun le => ?_, Int.ne_of_lt less⟩
    exact Int.not_lt.mpr (roundedInt_mono le) less
  · rintro ⟨less, apart⟩
    exact Int.lt_iff_le_and_ne.mpr ⟨roundedInt_mono (Int.le_of_lt less), apart⟩

theorem roundedInt_near (i : Int) : 2 * (roundedInt i - i).natAbs ≤ lastPlace i.natAbs := by
  have near := rounded_near i.natAbs
  unfold roundedInt
  split <;> omega

section Same
variable {i j : Int}

/-- Only integers of more than 53 bits are rounded to the same. -/
theorem large_of_rounded_eq (same : roundedInt i = roundedInt j) (other : i ≠ j) :
    pow2 53 ≤ i.natAbs := by
  by_contra small
  rw [Nat.not_le] at small
  rw [roundedInt_small small] at same
  by_cases small' : j.natAbs < pow2 53
  · exact other (same.trans (roundedInt_small small'))
  · have large := rounded_large (Nat.not_lt.mp small')
    rw [← natAbs_roundedInt, ← same] at large
    omega

theorem close_of_rounded_eq (same : roundedInt i = roundedInt j) :
    2 * (i - j).natAbs ≤ lastPlace i.natAbs + lastPlace j.natAbs := by
  have near := roundedInt_near i
  have near' := roundedInt_near j
  omega

end Same

/-! ### Doubles -/

section Order
variable {a b : Double}

theorem lt_of_finite (left : a.isFinite = true) (right : b.isFinite = true) :
    a.lt b = decide (a.units < b.units) := by
  cases a with
  | finite => cases b with
    | finite => rfl
    | infinite => cases right
    | nan => cases right
  | infinite => cases left
  | nan => cases left

theorem infinite_lt (finite : a.isFinite = true) : (infinite true).lt a = true := by
  cases a with
  | finite => rfl
  | infinite | nan => cases finite

theorem lt_infinite (finite : a.isFinite = true) : a.lt (infinite false) = true := by
  cases a with
  | finite => rfl
  | infinite | nan => cases finite

end Order

/-- A whole number is rounded to 53 bits, at whatever exponent these are written. -/
theorem significandFor_one {n : Nat} (positive : n ≠ 0) :
    significandFor n (pow2 0) * pow2 (exponentFor n (pow2 0) - minExponent).toNat =
      rounded n * pow2 1074 := by
  have exponent : exponentFor n (pow2 0) = (n.log2 : Int) - 52 := by
    rw [exponentFor_pow2 positive, minExponent]
    omega
  by_cases many : 52 ≤ n.log2
  · have scaled : scale n (pow2 0) ((n.log2 : Int) - 52) = (n, lastPlace n) := by
      rw [scale, if_pos (by omega), ← pow2_add, lastPlace]
      congr 2
      omega
    have places : ((n.log2 : Int) - 52 - minExponent).toNat = n.log2 - 52 + 1074 := by
      rw [minExponent]
      omega
    rw [significandFor_eq exponent scaled, exponent, places, pow2_add, ← Nat.mul_assoc]
    rfl
  · have small : n < pow2 53 := (Nat.log2_lt positive).mp (by omega)
    have scaled : scale n (pow2 0) ((n.log2 : Int) - 52) =
        (n * pow2 (-((n.log2 : Int) - 52)).toNat, 1) := if_neg (by omega)
    have places : (-((n.log2 : Int) - 52)).toNat + ((n.log2 : Int) - 52 - minExponent).toNat =
        1074 := by
      rw [minExponent]
      omega
    rw [significandFor_eq exponent scaled, exponent, roundHalfEven_one, Nat.mul_assoc, ← pow2_add,
      places, rounded_small small]

theorem ofRatio_one (negative : Bool) {n : Nat} (small : n < overflowThreshold) :
    ∃ significand exponent, ofRatio negative n 1 = .finite negative significand exponent ∧
      significand * pow2 (exponent - minExponent).toNat = rounded n * pow2 1074 := by
  by_cases zero : n = 0
  · refine ⟨0, minExponent, by rw [ofRatio, if_pos zero], ?_⟩
    rw [zero, rounded_small (pow2_pos 53), Nat.zero_mul, Nat.zero_mul]
  · obtain ⟨significand, exponent, shape, _, value⟩ := ofRatio_eq negative zero (pow2 0)
    have finite := (ofRatio_finite_iff negative n 0).mpr (by rwa [pow2, Nat.mul_one])
    refine ⟨significand, exponent, ?_, ?_⟩
    · rw [shape] at finite
      split at finite
      next => cases finite
      next inside => exact shape.trans (if_neg inside)
    · rw [value]
      exact significandFor_one zero

section Units
variable {i j : Int}

/-- Integers below the threshold are rounded to 53 bits. -/
theorem units_ofInt (small : i.natAbs < overflowThreshold) :
    (ofInt i).isFinite = true ∧ (ofInt i).units = roundedInt i * pow2 1074 := by
  obtain ⟨significand, exponent, shape, value⟩ := ofRatio_one (i < 0) small
  have cast : (significand : Int) * pow2 (exponent - minExponent).toNat =
      rounded i.natAbs * pow2 1074 := mod_cast value
  rw [ofInt, shape]
  refine ⟨rfl, ?_⟩
  rw [units, cast, roundedInt]
  by_cases negative : i < 0
  · rw [if_pos (decide_eq_true negative), if_pos negative, Int.neg_mul]
  · rw [if_neg (by rwa [decide_eq_true_eq]), if_neg negative]

theorem ofInt_overflow (large : overflowThreshold ≤ i.natAbs) : ofInt i = .infinite (i < 0) :=
  ofRatio_overflow (i < 0) (k := 0) (by rwa [pow2, Nat.mul_one])

theorem ofInt_lt_iff (small : i.natAbs < overflowThreshold) (small' : j.natAbs < overflowThreshold) :
    (ofInt i).lt (ofInt j) = true ↔ i < j ∧ roundedInt i ≠ roundedInt j := by
  obtain ⟨finite, value⟩ := units_ofInt small
  obtain ⟨finite', value'⟩ := units_ofInt small'
  have unit : (0 : Int) < pow2 1074 := mod_cast pow2_pos 1074
  rw [lt_of_finite finite finite', decide_eq_true_eq, value, value', ← roundedInt_lt_iff]
  exact Int.mul_lt_mul_right unit

end Units

section Small
variable {i b : Int}

theorem lt_overflowThreshold {n : Nat} (short : n ≤ pow2 64) : n < overflowThreshold := by
  have one : 1 ≤ pow2 54 - 1 := by decide
  calc n ≤ pow2 64 := short
    _ < pow2 65 := Nat.pow_lt_pow_right (by decide) (Nat.lt_succ_self 64)
    _ ≤ pow2 970 := pow2_le (by decide)
    _ ≤ overflowThreshold := Nat.le_mul_of_pos_left _ one

/-- Integers of 64 bits do not overflow. -/
theorem ofInt_finite (short : i.natAbs ≤ pow2 64) : (ofInt i).isFinite = true :=
  (units_ofInt (lt_overflowThreshold short)).1

/-- An integer below a small one becomes a smaller double. -/
theorem ofInt_lt_small (small : b.natAbs < pow2 53) (below : i < b) :
    (ofInt i).lt (ofInt b) = true := by
  have short : b.natAbs ≤ pow2 64 := small.le.trans (pow2_le (by decide))
  by_cases finite : i.natAbs < overflowThreshold
  · have apart : roundedInt i ≠ roundedInt b := fun same =>
      Nat.not_le.mpr small (large_of_rounded_eq same.symm (Int.ne_of_gt below))
    exact (ofInt_lt_iff finite (lt_overflowThreshold short)).mpr ⟨below, apart⟩
  · have inside := lt_overflowThreshold short
    have negative : i < 0 := by omega
    rw [ofInt_overflow (Nat.not_lt.mp finite), decide_eq_true negative]
    exact infinite_lt (ofInt_finite short)

/-- An integer above a small one becomes a larger double. -/
theorem small_lt_ofInt (small : b.natAbs < pow2 53) (above : b < i) :
    (ofInt b).lt (ofInt i) = true := by
  have short : b.natAbs ≤ pow2 64 := small.le.trans (pow2_le (by decide))
  by_cases finite : i.natAbs < overflowThreshold
  · have apart : roundedInt b ≠ roundedInt i := fun same =>
      Nat.not_le.mpr small (large_of_rounded_eq same (Int.ne_of_lt above))
    exact (ofInt_lt_iff (lt_overflowThreshold short) finite).mpr ⟨above, apart⟩
  · have inside := lt_overflowThreshold short
    have positive : ¬ i < 0 := by omega
    rw [ofInt_overflow (Nat.not_lt.mp finite), decide_eq_false positive]
    exact lt_infinite (ofInt_finite short)

end Small

end EdgeGateway.Double

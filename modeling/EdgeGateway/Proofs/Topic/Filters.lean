import EdgeGateway.Proofs.Topic.Matching

/-!
# Which filters are accepted

`Fits` says of a level on its own whether it may stand in its place. `filters_are_checked_exactly` says
that a filter passes `checkFilter` if its text is in order and each of its levels fits, and that otherwise
the fault is that of the text or else that of the first level that does not fit.
-/

namespace EdgeGateway.Topic

variable {ls : List (List Char)} {level : List Char} {fault : Fault} {topic : String}

/-! ### Levels -/

/-- The level with number `i` has no wildcard, or is a wildcard and nothing else; `#` has to be the
last level. -/
def Fits (levels : List (List Char)) (i : Nat) (level : List Char) : Prop :=
  ('+' ∉ level ∧ '#' ∉ level) ∨ level = ['+'] ∨ (level = ['#'] ∧ i + 1 = levels.length)

/-- What is wrong with a level that does not fit. -/
def misfit (level : List Char) : Fault :=
  if '#' ∈ level then .misplacedMultiWildcard else .misplacedSingleWildcard

theorem fits_cons_succ {first : List Char} {i : Nat} :
    Fits (first :: ls) (i + 1) level ↔ Fits ls i level := by
  simp [Fits]

theorem fits_cons_zero {first : List Char} :
    Fits (first :: ls) 0 level ↔
      ('+' ∉ level ∧ '#' ∉ level) ∨ level = ['+'] ∨ (level = ['#'] ∧ ls = []) := by
  simp [Fits]

theorem checkLevels_of_fits (fits : Fits (level :: ls) 0 level) :
    checkLevels (level :: ls) = checkLevels ls := by
  rcases fits_cons_zero.mp fits with ⟨no_plus, no_hash⟩ | rfl | ⟨rfl, rfl⟩
  · simp [checkLevels, no_plus, no_hash]
  · simp [checkLevels]
  · simp [checkLevels]

theorem checkLevels_of_not_fits (misplaced : ¬ Fits (level :: ls) 0 level) :
    checkLevels (level :: ls) = .error (misfit level) := by
  rw [fits_cons_zero, not_or, not_or, not_and_or, not_and_or, not_not, not_not] at misplaced
  obtain ⟨wild, not_plus, not_last⟩ := misplaced
  unfold checkLevels misfit
  by_cases hash : '#' ∈ level
  · have alone : level ≠ ['#'] ∨ ls ≠ [] := not_last
    simp [hash, alone]
  · have plus : '+' ∈ level := wild.resolve_right hash
    simp [hash, plus, not_plus]

theorem checkLevels_eq_ok_iff :
    checkLevels ls = .ok () ↔ ∀ i level, ls[i]? = some level → Fits ls i level := by
  induction ls with
  | nil => simp [checkLevels]
  | cons first rest ih =>
    constructor
    · intro passed
      have fits : Fits (first :: rest) 0 first := by
        by_contra misplaced
        rw [checkLevels_of_not_fits misplaced] at passed
        cases passed
      rw [checkLevels_of_fits fits, ih] at passed
      rintro (_ | i) level there
      · cases there
        exact fits
      · exact fits_cons_succ.mpr (passed i level there)
    · intro all
      rw [checkLevels_of_fits (all 0 first rfl), ih]
      exact fun i level there => fits_cons_succ.mp (all (i + 1) level there)

/-- The check goes through the levels in order and ends with the first that does not fit. -/
theorem checkLevels_eq_error_iff :
    checkLevels ls = .error fault ↔ ∃ i level, ls[i]? = some level ∧ ¬ Fits ls i level ∧
      (∀ j earlier, j < i → ls[j]? = some earlier → Fits ls j earlier) ∧ fault = misfit level := by
  induction ls with
  | nil => simp [checkLevels]
  | cons first rest ih =>
    by_cases fits : Fits (first :: rest) 0 first
    · rw [checkLevels_of_fits fits, ih]
      constructor
      · rintro ⟨i, level, there, misplaced, before, found⟩
        refine ⟨i + 1, level, there, mt fits_cons_succ.mp misplaced, ?_, found⟩
        rintro (_ | j) earlier below at_j
        · cases at_j
          exact fits
        · exact fits_cons_succ.mpr (before j earlier (Nat.lt_of_succ_lt_succ below) at_j)
      · rintro ⟨_ | i, level, there, misplaced, before, found⟩
        · cases there
          exact absurd fits misplaced
        · exact ⟨i, level, there, mt fits_cons_succ.mpr misplaced, fun j earlier below at_j =>
            fits_cons_succ.mp (before (j + 1) earlier (Nat.succ_lt_succ below) at_j), found⟩
    · rw [checkLevels_of_not_fits fits, Except.error.injEq]
      constructor
      · rintro rfl
        exact ⟨0, first, rfl, fits, by simp, rfl⟩
      · rintro ⟨_ | i, level, there, _, before, found⟩
        · cases there
          exact found.symm
        · exact absurd (before 0 first (Nat.succ_pos i) rfl) fits

/-! ### Texts -/

/-- The checks of a text in order: a text without characters, too many bytes, a null character. -/
theorem checkText_eq_error_iff :
    checkText topic = .error fault ↔
      (topic = "" ∧ fault = .empty) ∨
      (topic ≠ "" ∧ maxLength < topic.utf8ByteSize ∧ fault = .tooLong) ∨
      (topic ≠ "" ∧ topic.utf8ByteSize ≤ maxLength ∧ '\x00' ∈ topic.toList ∧
        fault = .nullCharacter) := by
  unfold checkText
  split
  next empty =>
    have nothing : topic = "" := String.isEmpty_iff.mp empty
    simp [nothing, eq_comm]
  next characters =>
    have nonempty : topic ≠ "" := fun nothing => characters (String.isEmpty_iff.mpr nothing)
    split
    next long => simp [nonempty, long, Nat.not_le.mpr long, eq_comm]
    next short =>
      rw [Nat.not_lt] at short
      split
      next null =>
        have inside : '\x00' ∈ topic.toList := by simpa using null
        simp [nonempty, short, Nat.not_lt.mpr short, inside, eq_comm]
      next free =>
        have absent : '\x00' ∉ topic.toList := by simpa using free
        simp [nonempty, Nat.not_lt.mpr short, absent]

theorem checkFilter_eq_error_iff {filter : String} :
    checkFilter filter = .error fault ↔ checkText filter = .error fault ∨
      (checkText filter = .ok () ∧ checkLevels (levels filter) = .error fault) := by
  unfold checkFilter
  cases checkText filter with
  | error other => simp [bind, Except.bind]
  | ok => simp [bind, Except.bind]

theorem checkFilter_eq_ok_iff {filter : String} :
    checkFilter filter = .ok () ↔
      checkText filter = .ok () ∧ checkLevels (levels filter) = .ok () := by
  rw [checkFilter_iff, checkLevels_iff]

/-- Names are the filters without wildcards. -/
theorem checkName_eq_ok_iff :
    checkName topic = .ok () ↔
      checkFilter topic = .ok () ∧ '+' ∉ topic.toList ∧ '#' ∉ topic.toList := by
  rw [checkName_iff, checkFilter_eq_ok_iff, checkText_iff]
  constructor
  · intro valid
    refine ⟨⟨⟨valid.nonempty, valid.short, valid.no_null⟩, ?_⟩, valid.no_plus, valid.no_hash⟩
    refine checkLevels_eq_ok_iff.mpr fun i level there => .inl ⟨?_, ?_⟩
    · exact fun inside => valid.no_plus (mem_of_mem_levels (List.mem_of_getElem? there) inside)
    · exact fun inside => valid.no_hash (mem_of_mem_levels (List.mem_of_getElem? there) inside)
  · rintro ⟨⟨⟨nonempty, short, no_null⟩, _⟩, no_plus, no_hash⟩
    exact ⟨nonempty, short, no_null, no_plus, no_hash⟩

/-- The valid names are the accepted filters without wildcards. A filter is accepted if it has a text of at
most 65535 bytes and no null character, and if each of its levels has no wildcard or is a wildcard alone,
`#` only in the last place. Otherwise it is refused for the first of these that does not hold, and for its
first level that does not fit. -/
theorem filters_are_checked_exactly (filter : String) :
    (checkName filter = .ok () ↔
      checkFilter filter = .ok () ∧ '+' ∉ filter.toList ∧ '#' ∉ filter.toList) ∧
    let ls := filter.toList.splitOn '/'
    (checkFilter filter = .ok () ↔
      filter ≠ "" ∧ filter.utf8ByteSize ≤ 65535 ∧ '\x00' ∉ filter.toList ∧
        ∀ i level, ls[i]? = some level → Fits ls i level) ∧
    ∀ fault, checkFilter filter = .error fault ↔
      (filter = "" ∧ fault = .empty) ∨
      (filter ≠ "" ∧ 65535 < filter.utf8ByteSize ∧ fault = .tooLong) ∨
      (filter ≠ "" ∧ filter.utf8ByteSize ≤ 65535 ∧ '\x00' ∈ filter.toList ∧
        fault = .nullCharacter) ∨
      ((filter ≠ "" ∧ filter.utf8ByteSize ≤ 65535 ∧ '\x00' ∉ filter.toList) ∧
        ∃ i level, ls[i]? = some level ∧ ¬ Fits ls i level ∧
          (∀ j earlier, j < i → ls[j]? = some earlier → Fits ls j earlier) ∧
          fault = if '#' ∈ level then .misplacedMultiWildcard else .misplacedSingleWildcard) := by
  refine ⟨checkName_eq_ok_iff, ?_, fun fault => ?_⟩
  · rw [checkFilter_eq_ok_iff, checkText_iff, checkLevels_eq_ok_iff, and_assoc, and_assoc]
    exact Iff.rfl
  · rw [checkFilter_eq_error_iff, checkText_eq_error_iff, checkText_iff, checkLevels_eq_error_iff,
      or_assoc, or_assoc]
    exact Iff.rfl

/-- In `a/b#/+c/#` the second level is the first that does not fit. -/
example : checkFilter "a/b#/+c/#" = .error .misplacedMultiWildcard := by decide +kernel

end EdgeGateway.Topic

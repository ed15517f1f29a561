import EdgeGateway.Text.Numeral

/-!
# Reading numerals

The decimal text of a number has digits only, and reading it gives the number. What is read at all are
decimal digits after at most one plus sign.
-/

namespace EdgeGateway.Text

variable {c : Char} {n : Nat}

theorem isDigit_of_mem_toString (member : c ∈ (toString n).toList) : c.isDigit = true := by
  rw [Nat.toString_eq_repr, Nat.toList_repr] at member
  exact Nat.isDigit_of_mem_toDigits (by decide) (by decide) member

theorem decimalValue_toString (n : Nat) : decimalValue (toString n).toList = n := by
  rw [Nat.toString_eq_repr, Nat.toList_repr]
  exact Nat.ofDigitChars_ten_toDigits

theorem isNumeral_toString (n : Nat) : isNumeral (toString n).toList = true := by
  have digits : (toString n).toList.all Char.isDigit = true :=
    List.all_eq_true.mpr fun _ => isDigit_of_mem_toString
  have some_digit : (toString n).toList.isEmpty = false := by simp
  rw [isNumeral, digits, some_digit]
  rfl

/-- A plus sign is no digit. -/
theorem dropPlus_of_isNumeral {text : List Char} (numeral : isNumeral text = true) :
    dropPlus text = text := by
  unfold dropPlus
  split
  next rest => exact absurd numeral (by simp [isNumeral, Char.isDigit])
  next => rfl

theorem numberBelow?_toString {bound : Nat} (below : n < bound) :
    numberBelow? bound (toString n).toList = some n := by
  have digits := dropPlus_of_isNumeral (isNumeral_toString n)
  simp only [numberBelow?, digits, isNumeral_toString, decimalValue_toString, below, decide_true,
    Bool.and_self, ↓reduceIte]

theorem numberBelow?_lt {bound : Nat} {text : List Char} (read : numberBelow? bound text = some n) :
    n < bound := by
  simp only [numberBelow?] at read
  split at read
  next fits =>
    cases read
    simpa using (Bool.and_eq_true_iff.mp fits).2
  next => cases read

/-- A decimal numeral, after at most one plus sign, and the number that it denotes. -/
inductive Denotes : List Char → Nat → Prop
  | plain {digits : List Char} (nonempty : digits ≠ []) (decimal : ∀ d ∈ digits, d.isDigit = true) :
      Denotes digits (Nat.ofDigitChars 10 digits 0)
  | plus {digits : List Char} (nonempty : digits ≠ []) (decimal : ∀ d ∈ digits, d.isDigit = true) :
      Denotes ('+' :: digits) (Nat.ofDigitChars 10 digits 0)

theorem isNumeral_iff {digits : List Char} :
    isNumeral digits = true ↔ digits ≠ [] ∧ ∀ d ∈ digits, d.isDigit = true := by
  rw [isNumeral, Bool.and_eq_true, Bool.not_eq_true', ← Bool.not_eq_true, List.isEmpty_iff,
    List.all_eq_true]

theorem denotes_iff {text : List Char} :
    Denotes text n ↔ isNumeral (dropPlus text) = true ∧ decimalValue (dropPlus text) = n := by
  constructor
  · intro denoted
    cases denoted with
    | plain nonempty decimal =>
      have numeral := isNumeral_iff.mpr ⟨nonempty, decimal⟩
      rw [dropPlus_of_isNumeral numeral]
      exact ⟨numeral, rfl⟩
    | plus nonempty decimal => exact ⟨isNumeral_iff.mpr ⟨nonempty, decimal⟩, rfl⟩
  · rintro ⟨numeral, rfl⟩
    obtain ⟨nonempty, decimal⟩ := isNumeral_iff.mp numeral
    have signed : text = '+' :: dropPlus text ∨ text = dropPlus text := by
      unfold dropPlus
      split
      · exact .inl rfl
      · exact .inr rfl
    generalize dropPlus text = digits at nonempty decimal signed ⊢
    rcases signed with rfl | rfl
    · exact .plus nonempty decimal
    · exact .plain nonempty decimal

theorem Denotes.unique {text : List Char} {m : Nat} (denoted : Denotes text n)
    (again : Denotes text m) : n = m := by
  rw [denotes_iff] at denoted again
  exact denoted.2.symm.trans again.2

theorem numberBelow?_eq_some_iff {bound : Nat} {text : List Char} :
    numberBelow? bound text = some n ↔ Denotes text n ∧ n < bound := by
  rw [denotes_iff]
  simp only [numberBelow?]
  constructor
  · intro read
    split at read
    next fits =>
      rw [Bool.and_eq_true, decide_eq_true_eq] at fits
      cases read
      exact ⟨⟨fits.1, rfl⟩, fits.2⟩
    next => cases read
  · rintro ⟨⟨numeral, rfl⟩, below⟩
    rw [if_pos (by rw [numeral, decide_eq_true below]; rfl)]

/-- Different numbers have different numerals. -/
theorem toString_inj {m n : Nat} (same : toString m = toString n) : m = n := by
  rw [← decimalValue_toString m, same, decimalValue_toString]

end EdgeGateway.Text

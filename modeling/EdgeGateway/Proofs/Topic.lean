import EdgeGateway.Topic.Template

/-!
# Valid topic names

A name is valid if it passes `checkName`. A template makes valid names of valid names: where it puts a
new name together, it checks it, and the one template that checks nothing changes nothing.
-/

namespace EdgeGateway.Topic

structure ValidName (topic : String) : Prop where
  nonempty : topic ≠ ""
  short : topic.utf8ByteSize ≤ maxLength
  no_null : '\x00' ∉ topic.toList
  no_plus : '+' ∉ topic.toList
  no_hash : '#' ∉ topic.toList

variable {topic : String}

theorem checkText_iff :
    checkText topic = .ok () ↔
      topic ≠ "" ∧ topic.utf8ByteSize ≤ maxLength ∧ '\x00' ∉ topic.toList := by
  unfold checkText
  split
  next empty =>
    have nothing : topic = "" := String.isEmpty_iff.mp empty
    simp [nothing]
  next some_text =>
    have nonempty : topic ≠ "" := fun nothing => some_text (String.isEmpty_iff.mpr nothing)
    split
    next long =>
      have not_short : ¬ topic.utf8ByteSize ≤ maxLength := by omega
      simp [not_short]
    next short =>
      have fits : topic.utf8ByteSize ≤ maxLength := by omega
      simp [nonempty, fits]

theorem checkName_iff : checkName topic = .ok () ↔ ValidName topic := by
  have wildcards : (topic.toList.any fun c => c = '+' || c = '#') = true ↔
      '+' ∈ topic.toList ∨ '#' ∈ topic.toList := by
    simp only [List.any_eq_true, Bool.or_eq_true, decide_eq_true_eq]
    constructor
    · rintro ⟨c, member, rfl | rfl⟩
      · exact .inl member
      · exact .inr member
    · rintro (member | member)
      · exact ⟨'+', member, .inl rfl⟩
      · exact ⟨'#', member, .inr rfl⟩
  unfold checkName
  constructor
  · intro passed
    cases text : checkText topic with
    | error fault =>
      rw [text] at passed
      cases passed
    | ok =>
      obtain ⟨nonempty, short, no_null⟩ := checkText_iff.mp text
      rw [text] at passed
      have plain : ¬ ('+' ∈ topic.toList ∨ '#' ∈ topic.toList) := by
        intro wild
        rw [← wildcards] at wild
        simp only [wild] at passed
        cases passed
      obtain ⟨no_plus, no_hash⟩ := not_or.mp plain
      exact ⟨nonempty, short, no_null, no_plus, no_hash⟩
  · intro valid
    have text : checkText topic = .ok () :=
      checkText_iff.mpr ⟨valid.nonempty, valid.short, valid.no_null⟩
    have plain : ¬ (topic.toList.any fun c => c = '+' || c = '#') = true := by
      rw [wildcards]
      exact not_or.mpr ⟨valid.no_plus, valid.no_hash⟩
    rw [text]
    exact if_neg plain

instance : DecidablePred ValidName := fun topic =>
  match checked : checkName topic with
  | .ok () => .isTrue (checkName_iff.mp checked)
  | .error _ => .isFalse fun valid => by
    rw [checkName_iff.mpr valid] at checked
    cases checked

namespace Template

variable {t : Template} {values : List (String × String)} {result : String}

/-- Where the template leaves topics as they are nothing is checked, elsewhere the result is. -/
theorem expand_valid (expanded : t.expand topic values = .ok result) (valid : ValidName topic) :
    ValidName result := by
  unfold expand at expanded
  split at expanded
  next same =>
    cases expanded
    exact valid
  next =>
    cases text : expandSegments topic values t.segments with
    | error fault =>
      rw [text] at expanded
      cases expanded
    | ok characters =>
      rw [text] at expanded
      have checked : checkName (String.ofList characters) = .ok () ∧
          String.ofList characters = result := by
        dsimp only [bind, Except.bind] at expanded
        split at expanded
        next passed =>
          cases expanded
          exact ⟨passed, rfl⟩
        next => cases expanded
      obtain ⟨passed, rfl⟩ := checked
      exact checkName_iff.mp passed

end Template
end EdgeGateway.Topic

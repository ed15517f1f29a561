import EdgeGateway.Proofs.Lists
import EdgeGateway.Proofs.Topic

/-!
# Which topics a filter matches

`Placed` says where a filter may have wildcards, and `MatchesLevels` which levels of a topic such a
filter stands for, each without walking along the levels. `topics_match_by_levels` says that a filter
which passes `checkFilter` matches the topics with such levels, except that a topic that starts with
`$` stays hidden from a wildcard in the first place.
-/

namespace EdgeGateway.Topic

/-! ### Filters -/

/-- Levels in which each wildcard has a level to itself and `#` stands last. -/
inductive Placed : List (List Char) → Prop
  | nil : Placed []
  | plain {level : List Char} {rest : List (List Char)} (no_plus : '+' ∉ level)
      (no_hash : '#' ∉ level) (later : Placed rest) : Placed (level :: rest)
  | single {rest : List (List Char)} (later : Placed rest) : Placed (['+'] :: rest)
  | multi : Placed [['#']]

theorem checkLevels_iff {filter : List (List Char)} : checkLevels filter = .ok () ↔ Placed filter := by
  induction filter with
  | nil => exact ⟨fun _ => .nil, fun _ => rfl⟩
  | cons level rest ih =>
    unfold checkLevels
    constructor
    · intro passed
      split at passed
      · cases passed
      next hash_fits =>
        split at passed
        · cases passed
        next plus_fits =>
          have later := ih.mp passed
          by_cases hash : '#' ∈ level
          · obtain ⟨rfl, rfl⟩ : level = ['#'] ∧ rest = [] := by simpa [hash] using hash_fits
            exact .multi
          · by_cases plus : '+' ∈ level
            · obtain rfl : level = ['+'] := by simpa [plus] using plus_fits
              exact .single later
            · exact .plain plus hash later
    · intro placed
      cases placed with
      | plain no_plus no_hash later => simp [no_plus, no_hash, ih.mpr later]
      | single later => simp [ih.mpr later]
      | multi => simp [checkLevels]

theorem checkFilter_iff {filter : String} :
    checkFilter filter = .ok () ↔ checkText filter = .ok () ∧ Placed (levels filter) := by
  rw [← checkLevels_iff]
  unfold checkFilter
  cases text : checkText filter with
  | error fault => simp [bind, Except.bind]
  | ok => simp [bind, Except.bind]

/-! ### Levels -/

/-- A level of a filter stands for a level of a topic. -/
def MatchesLevel (level here : List Char) : Prop := level = ['+'] ∨ level = here

/-- Level by level as far as the filter goes: to its end, which is then that of the topic too, or to
its `#`, which stands for whatever comes behind. -/
def MatchesLevels (topic filter : List (List Char)) : Prop :=
  (['#'] ∉ filter ∧ List.Forall₂ MatchesLevel filter topic) ∨
    ∃ front, filter = front ++ [['#']] ∧ front.length ≤ topic.length ∧
      List.Forall₂ MatchesLevel front (topic.take front.length)

variable {topic filter : List (List Char)} {level here : List Char}

theorem matchesLevels_nil : MatchesLevels topic [] ↔ topic = [] := by
  unfold MatchesLevels
  constructor
  · rintro (⟨_, same⟩ | ⟨front, ended, _⟩)
    · exact List.forall₂_nil_left_iff.mp same
    · simp at ended
  · rintro rfl
    exact .inl ⟨List.not_mem_nil, .nil⟩

theorem matchesLevels_multi : MatchesLevels topic [['#']] :=
  .inr ⟨[], rfl, Nat.zero_le _, .nil⟩

theorem not_matchesLevels_nil (single : level ≠ ['#']) : ¬ MatchesLevels [] (level :: filter) := by
  rintro (⟨_, same⟩ | ⟨front, split, shorter, _⟩)
  · cases same
  · have nothing : front = [] := List.length_eq_zero_iff.mp (Nat.le_zero.mp shorter)
    subst nothing
    exact single (List.cons.inj split).1

theorem matchesLevels_cons (single : level ≠ ['#']) :
    MatchesLevels (here :: topic) (level :: filter) ↔
      MatchesLevel level here ∧ MatchesLevels topic filter := by
  constructor
  · rintro (⟨no_hash, same⟩ | ⟨front, split, shorter, same⟩)
    · obtain ⟨first, rest⟩ := List.forall₂_cons.mp same
      have absent : ['#'] ∉ filter := fun there => no_hash (List.mem_cons_of_mem _ there)
      exact ⟨first, .inl ⟨absent, rest⟩⟩
    · cases front with
      | nil => exact absurd (List.cons.inj split).1 single
      | cons first front =>
        obtain ⟨rfl, rfl⟩ := List.cons.inj split
        obtain ⟨first, rest⟩ := List.forall₂_cons.mp same
        exact ⟨first, .inr ⟨front, rfl, Nat.le_of_succ_le_succ shorter, rest⟩⟩
  · rintro ⟨first, ⟨no_hash, same⟩ | ⟨front, rfl, shorter, same⟩⟩
    · have absent : ['#'] ∉ level :: filter := by
        rw [List.mem_cons, not_or]
        exact ⟨Ne.symm single, no_hash⟩
      exact .inl ⟨absent, .cons first same⟩
    · exact .inr ⟨level :: front, rfl, Nat.succ_le_succ shorter, .cons first same⟩

/-- Both sides take the first level off together until one of them comes to its end. -/
theorem matchLevels_iff (placed : Placed filter) :
    matchLevels topic filter = true ↔ MatchesLevels topic filter := by
  have walk {level : List Char} {rest : List (List Char)} (single : level ≠ ['#'])
      (ih : ∀ {topic : List (List Char)}, matchLevels topic rest = true ↔ MatchesLevels topic rest)
      (topic : List (List Char)) :
      matchLevels topic (level :: rest) = true ↔ MatchesLevels topic (level :: rest) := by
    cases topic with
    | nil => simp [matchLevels, single, not_matchesLevels_nil single]
    | cons here topic =>
      rw [matchesLevels_cons single, ← ih, MatchesLevel, matchLevels, if_neg single,
        Bool.and_eq_true, Bool.or_eq_true, decide_eq_true_eq, decide_eq_true_eq]
  induction placed generalizing topic with
  | nil => simp [matchLevels, matchesLevels_nil]
  | plain no_plus no_hash later ih =>
    refine walk ?_ ih topic
    rintro rfl
    exact no_hash List.mem_cons_self
  | single later ih => exact walk (by decide) ih topic
  | multi =>
    have taken : matchLevels topic [['#']] = true := by cases topic <;> rfl
    simp [taken, matchesLevels_multi]

/-! ### Texts and their levels -/

theorem levels_inj {text text' : String} (same : levels text = levels text') : text = text' := by
  have joined := congrArg ['/'].intercalate same
  rw [levels, levels, List.intercalate_splitOn, List.intercalate_splitOn] at joined
  exact String.toList_inj.mp joined

theorem levels_cons {text : String} {c : Char} {rest : List Char} (starts : text.toList = c :: rest)
    (inside : c ≠ '/') : ∃ level later, levels text = (c :: level) :: later := by
  have split : levels text = (rest.splitOn '/').modifyHead (c :: ·) := by
    rw [levels, starts, List.splitOn, List.splitOnP_cons_eq_if_modifyHead]
    simp [inside, List.splitOn]
  cases found : rest.splitOn '/' with
  | nil => exact absurd found (List.splitOnP_ne_nil _ _)
  | cons level later => exact ⟨level, later, by rw [split, found]; rfl⟩

theorem mem_of_mem_levels {text : String} {level : List Char} {c : Char}
    (member : level ∈ levels text) (inside : c ∈ level) : c ∈ text.toList :=
  mem_of_mem_splitOn member inside

/-- A filter starts with a wildcard exactly if its first level is one. -/
theorem startsWithWildcard_iff {filter : String} (placed : Placed (levels filter)) :
    startsWithWildcard filter = true ↔
      (levels filter).head? = some ['+'] ∨ (levels filter).head? = some ['#'] := by
  have alone {c : Char} (wild : c = '+' ∨ c = '#') :
      filter.toList.head? = some c ↔ (levels filter).head? = some [c] := by
    constructor
    · intro starts
      obtain ⟨rest, text⟩ := List.head?_eq_some_iff.mp starts
      have inside : c ≠ '/' := by rcases wild with rfl | rfl <;> decide
      obtain ⟨level, later, split⟩ := levels_cons text inside
      rw [split] at placed ⊢
      cases placed with
      | plain no_plus no_hash _ => rcases wild with rfl | rfl <;> simp at no_plus no_hash
      | single _ => rfl
      | multi => rfl
    · intro first
      cases text : filter.toList with
      | nil =>
        have nothing : levels filter = [[]] := by rw [levels, text, List.splitOn_nil]
        simp [nothing] at first
      | cons d rest =>
        by_cases separator : d = '/'
        · have split : levels filter = [] :: rest.splitOn '/' := by
            rw [levels, text, List.splitOn, List.splitOnP_cons_eq_if_modifyHead]
            simp [separator, List.splitOn]
          simp [split] at first
        · obtain ⟨level, later, split⟩ := levels_cons text separator
          rw [split, List.head?_cons, Option.some.injEq] at first
          rw [List.head?_cons, (List.cons.inj first).1]
  rw [startsWithWildcard, Bool.or_eq_true, decide_eq_true_eq, decide_eq_true_eq,
    alone (.inl rfl), alone (.inr rfl)]

/-- Without wildcards the levels are to be the same. -/
theorem matchesLevels_plain (no_plus : ['+'] ∉ filter) (no_hash : ['#'] ∉ filter) :
    MatchesLevels topic filter ↔ topic = filter := by
  unfold MatchesLevels
  constructor
  · rintro (⟨_, same⟩ | ⟨front, split, _⟩)
    · have equal : List.Forall₂ (· = ·) filter topic := by
        refine (List.forall₂_iff_zip.mpr ⟨same.length_eq, fun {level here} pair => ?_⟩)
        have there : level ∈ filter := (List.of_mem_zip pair).1
        have either : MatchesLevel level here := (List.forall₂_iff_zip.mp same).2 pair
        exact either.resolve_left fun wild => no_plus (wild ▸ there)
      rw [List.forall₂_eq_eq_eq] at equal
      exact equal.symm
    · exact absurd (split ▸ List.mem_append_right front List.mem_cons_self) no_hash
  · rintro rfl
    exact .inl ⟨no_hash, List.forall₂_same.mpr fun level _ => .inr rfl⟩

/-- A filter that is accepted matches the topics whose levels it stands for, except that a wildcard in
the first place does not stand for a level that starts with `$`. A filter without wildcards matches
the topic that it is. -/
theorem topics_match_by_levels {filter : String} (accepted : checkFilter filter = .ok ())
    (topic : String) :
    (matchesFilter topic filter = true ↔
      ¬ (topic.toList.head? = some '$' ∧
        ((levels filter).head? = some ['+'] ∨ (levels filter).head? = some ['#'])) ∧
      ((['#'] ∉ levels filter ∧ List.Forall₂ MatchesLevel (levels filter) (levels topic)) ∨
        ∃ front, levels filter = front ++ [['#']] ∧ front.length ≤ (levels topic).length ∧
          List.Forall₂ MatchesLevel front ((levels topic).take front.length))) ∧
    ('+' ∉ filter.toList → '#' ∉ filter.toList →
      (matchesFilter topic filter = true ↔ topic = filter)) := by
  have placed : Placed (levels filter) := (checkFilter_iff.mp accepted).2
  have general : matchesFilter topic filter = true ↔
      ¬ (topic.toList.head? = some '$' ∧
        ((levels filter).head? = some ['+'] ∨ (levels filter).head? = some ['#'])) ∧
      MatchesLevels (levels topic) (levels filter) := by
    rw [← startsWithWildcard_iff placed, ← matchLevels_iff placed, matchesFilter, Bool.and_eq_true,
      Bool.not_eq_true', ← Bool.not_eq_true, Bool.and_eq_true, isReserved, decide_eq_true_eq]
  refine ⟨general, fun no_plus no_hash => ?_⟩
  have free {c : Char} (absent : c ∉ filter.toList) : [c] ∉ levels filter := fun there =>
    absent (mem_of_mem_levels there List.mem_cons_self)
  have visible : ¬ ((levels filter).head? = some ['+'] ∨ (levels filter).head? = some ['#']) := by
    rintro (first | first)
    · exact free no_plus (List.mem_of_mem_head? first)
    · exact free no_hash (List.mem_of_mem_head? first)
  rw [general, matchesLevels_plain (free no_plus) (free no_hash)]
  constructor
  · exact fun matched => levels_inj matched.2
  · rintro rfl
    exact ⟨fun hidden => visible hidden.2, rfl⟩

/-- `sport/#` also matches the level above, and `+` matches an empty level. -/
theorem levels_above_and_empty_match :
    checkFilter "sport/#" = .ok () ∧ checkFilter "+/a" = .ok () ∧
      matchesFilter "sport" "sport/#" = true ∧ matchesFilter "/a" "+/a" = true ∧
      matchesFilter "$SYS/a" "+/a" = false := by
  have below : checkFilter "sport/#" = .ok () := by decide +kernel
  have second : checkFilter "+/a" = .ok () := by decide +kernel
  refine ⟨below, second, ?_, ?_, ?_⟩
  · refine (topics_match_by_levels below "sport").1.mpr ⟨by decide, .inr ⟨["sport".toList], ?_⟩⟩
    exact ⟨by decide +kernel, by decide +kernel, .cons (.inr rfl) .nil⟩
  · refine (topics_match_by_levels second "/a").1.mpr ⟨by decide +kernel, .inl ⟨by decide +kernel, ?_⟩⟩
    exact .cons (.inl rfl) (.cons (.inr rfl) .nil)
  · rw [← Bool.not_eq_true]
    intro matched
    have hidden := ((topics_match_by_levels second "$SYS/a").1.mp matched).1
    exact hidden (by decide +kernel)

end EdgeGateway.Topic

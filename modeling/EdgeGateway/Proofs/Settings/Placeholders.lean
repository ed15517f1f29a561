import EdgeGateway.Settings.Environment
import Mathlib.Data.List.Basic
import Mathlib.Data.List.TakeWhile

/-!
# Placeholders

`Written` says how a placeholder is written, and `Scans` how a text falls into placeholders and single
characters when it is read from left to right. It does so in one way, which has nothing to do with the
environment; `substitution_is_one_scan` says that a substitution puts values in the places of the
placeholders and does nothing else.
-/

namespace EdgeGateway.Environment

/-! ### How placeholders are written -/

/-- In braces behind a dollar sign stands a name, and behind it the default if there is one. -/
inductive Written : Placeholder → List Char → Prop
  | plain {name : List Char} (nonempty : name ≠ []) (free : ∀ c ∈ name, c ≠ '\x7d' ∧ c ≠ ':') :
      Written { name := String.ofList name } ('$' :: '\x7b' :: (name ++ ['\x7d']))
  | withDefault {name default : List Char} (nonempty : name ≠ [])
      (free : ∀ c ∈ name, c ≠ '\x7d' ∧ c ≠ ':') (closed : '\x7d' ∉ default) :
      Written { name := String.ofList name, default }
        ('$' :: '\x7b' :: (name ++ ':' :: '-' :: (default ++ ['\x7d'])))

variable {p : Placeholder} {written rest cs : List Char}

theorem Written.starts (here : Written p written) :
    ∃ c more, written = '$' :: '\x7b' :: c :: more ∧ c ≠ '\x7d' := by
  cases here with
  | plain nonempty free | withDefault nonempty free =>
    obtain ⟨c, name, rfl⟩ := List.exists_cons_of_ne_nil nonempty
    exact ⟨c, _, rfl, (free c List.mem_cons_self).1⟩

theorem isNameChar_iff {c : Char} : isNameChar c = true ↔ c ≠ '\x7d' ∧ c ≠ ':' := by
  rw [isNameChar, Bool.and_eq_true, decide_eq_true_eq, decide_eq_true_eq]

/-- A run of characters ends before the first that does not belong to it. -/
theorem span_run {q : Char → Bool} {run : List Char} (stop : Char) (within : ∀ c ∈ run, q c = true)
    (ends : q stop = false) (rest : List Char) :
    (run ++ stop :: rest).takeWhile q = run ∧ (run ++ stop :: rest).dropWhile q = stop :: rest := by
  have none_left : (stop :: rest).takeWhile q = [] := by rw [List.takeWhile_cons, ends]; rfl
  have all_left : (stop :: rest).dropWhile q = stop :: rest := by rw [List.dropWhile_cons, ends]; rfl
  rw [List.takeWhile_append_of_pos within, List.dropWhile_append_of_pos within, none_left, all_left,
    List.append_nil]
  exact ⟨rfl, rfl⟩

theorem placeholder?_of_written (here : Written p written) (rest : List Char) :
    placeholder? (written ++ rest) = some (p, rest) := by
  cases here with
  | @plain name nonempty free =>
    have within : ∀ c ∈ name, isNameChar c = true := fun c member => isNameChar_iff.mpr (free c member)
    obtain ⟨front, back⟩ := span_run '\x7d' within rfl rest
    simp only [List.cons_append, List.append_assoc, List.nil_append, placeholder?, front, back,
      List.isEmpty_iff, nonempty, ↓reduceIte]
  | @withDefault name default nonempty free closed =>
    have within : ∀ c ∈ name, isNameChar c = true := fun c member => isNameChar_iff.mpr (free c member)
    have inside : ∀ c ∈ default, decide (c ≠ '\x7d') = true := by
      intro c member
      rw [decide_eq_true_eq]
      rintro rfl
      exact closed member
    obtain ⟨front, back⟩ := span_run ':' within rfl ('-' :: (default ++ '\x7d' :: rest))
    obtain ⟨text, later⟩ := span_run '\x7d' inside rfl rest
    simp only [List.cons_append, List.append_assoc, List.nil_append, placeholder?, front, back, text,
      later, List.isEmpty_iff, nonempty, ↓reduceIte]

theorem written_of_placeholder? (read : placeholder? cs = some (p, rest)) :
    ∃ written, Written p written ∧ cs = written ++ rest := by
  unfold placeholder? at read
  split at read
  next more =>
    have name_free : ∀ c ∈ more.takeWhile isNameChar, c ≠ '\x7d' ∧ c ≠ ':' := fun c member =>
      isNameChar_iff.mp (List.mem_takeWhile_imp member)
    have split_name := List.takeWhile_append_dropWhile (p := isNameChar) (l := more)
    dsimp only at read
    generalize more.takeWhile isNameChar = name at read name_free split_name
    split at read
    next => cases read
    next some_name =>
      have nonempty : name ≠ [] := fun empty => some_name (List.isEmpty_iff.mpr empty)
      split at read
      next behind shape =>
        cases read
        refine ⟨_, .plain nonempty name_free, ?_⟩
        rw [← split_name, shape]
        simp
      next behind shape =>
        have default_closed : '\x7d' ∉ behind.takeWhile (· ≠ '\x7d') := by
          intro member
          simpa using List.mem_takeWhile_imp member
        have split_default := List.takeWhile_append_dropWhile (p := (· ≠ '\x7d')) (l := behind)
        have first := List.head?_dropWhile_not (· ≠ '\x7d') behind
        generalize behind.takeWhile (· ≠ '\x7d') = default at read default_closed split_default
        split at read
        next stop last ends =>
          cases read
          rw [ends] at first split_default
          obtain rfl : stop = '\x7d' := by simpa using first
          refine ⟨_, .withDefault nonempty name_free default_closed, ?_⟩
          rw [← split_name, shape, ← split_default]
          simp
        next => cases read
      next => cases read
  next => cases read

theorem placeholder?_eq_some_iff :
    placeholder? cs = some (p, rest) ↔ ∃ written, Written p written ∧ cs = written ++ rest := by
  constructor
  · exact written_of_placeholder?
  · rintro ⟨written, here, rfl⟩
    exact placeholder?_of_written here rest

theorem placeholder?_eq_none_iff :
    placeholder? cs = none ↔ ∀ p written rest, Written p written → cs ≠ written ++ rest := by
  rw [Option.eq_none_iff_forall_ne_some]
  constructor
  · intro nothing p written rest here same
    exact nothing (p, rest) (placeholder?_eq_some_iff.mpr ⟨written, here, same⟩)
  · rintro nothing ⟨p, rest⟩ read
    obtain ⟨written, here, same⟩ := placeholder?_eq_some_iff.mp read
    exact nothing p written rest here same

/-! ### Scanning -/

inductive Piece where
  | copied (c : Char)
  | placeholder (p : Placeholder)

def Piece.text (env : Environment) : Piece → List Char
  | .copied c => [c]
  | .placeholder p => p.text env

/-- The pieces of a text from left to right: where a placeholder begins it is taken as a whole, elsewhere
one character is copied. -/
inductive Scans : List Char → List Piece → Prop
  | done : Scans [] []
  | placeholder {p : Placeholder} {written rest : List Char} {pieces : List Piece}
      (here : Written p written) (later : Scans rest pieces) :
      Scans (written ++ rest) (.placeholder p :: pieces)
  | copy {c : Char} {rest : List Char} {pieces : List Piece}
      (nothing : ∀ p written behind, Written p written → c :: rest ≠ written ++ behind)
      (later : Scans rest pieces) : Scans (c :: rest) (.copied c :: pieces)

theorem exists_scans (cs : List Char) : ∃ pieces, Scans cs pieces := by
  -- a placeholder takes several characters at once, so the induction is on the length
  induction n : cs.length using Nat.strong_induction_on generalizing cs with
  | _ n ih =>
    subst n
    cases cs with
    | nil => exact ⟨[], .done⟩
    | cons c rest =>
      cases read : placeholder? (c :: rest) with
      | none =>
        obtain ⟨pieces, later⟩ := ih rest.length (Nat.lt_succ_self _) rest rfl
        exact ⟨.copied c :: pieces, .copy (placeholder?_eq_none_iff.mp read) later⟩
      | some found =>
        obtain ⟨p, behind⟩ := found
        obtain ⟨written, here, split⟩ := written_of_placeholder? read
        obtain ⟨_, _, rfl, _⟩ := here.starts
        have shorter : behind.length < (c :: rest).length := by
          rw [split]
          simp
          omega
        obtain ⟨pieces, later⟩ := ih behind.length shorter behind rfl
        exact ⟨.placeholder p :: pieces, split ▸ .placeholder here later⟩

theorem Scans.unique {pieces other : List Piece} (scan : Scans cs pieces) (again : Scans cs other) :
    other = pieces := by
  induction scan generalizing other with
  | done =>
    generalize nothing : ([] : List Char) = text at again
    cases again with
    | done => rfl
    | placeholder here =>
      obtain ⟨_, _, rfl, _⟩ := here.starts
      cases nothing
    | copy => cases nothing
  | @placeholder p written rest pieces here later ih =>
    generalize same : written ++ rest = text at again
    cases again with
    | done =>
      obtain ⟨_, _, rfl, _⟩ := here.starts
      cases same
    | placeholder here' later' =>
      have read := placeholder?_of_written here rest
      rw [same, placeholder?_of_written here'] at read
      cases read
      rw [ih later']
    | copy nothing => exact absurd same.symm (nothing _ _ _ here)
  | @copy c rest pieces nothing later ih =>
    generalize same : c :: rest = text at again
    cases again with
    | done => cases same
    | placeholder here' => exact absurd same (nothing _ _ _ here')
    | copy _ later' =>
      cases same
      rw [ih later']

variable {env : Environment} {pieces : List Piece}

/-- With a turn for each character a substitution comes to the end of the text. -/
theorem substituteChars_eq (scan : Scans cs pieces) {turns : Nat} (enough : cs.length ≤ turns) :
    env.substituteChars turns cs = pieces.flatMap (·.text env) := by
  induction scan generalizing turns with
  | done => cases turns <;> rfl
  | @placeholder p written rest pieces here later ih =>
    have read := placeholder?_of_written here rest
    obtain ⟨_, _, rfl, _⟩ := here.starts
    cases turns with
    | zero => cases enough
    | succ turns =>
      have fewer : rest.length ≤ turns := by
        simp at enough
        omega
      rw [List.flatMap_cons, ← ih fewer]
      simp only [List.cons_append] at read ⊢
      rw [substituteChars, read]
      rfl
  | @copy c rest pieces nothing later ih =>
    cases turns with
    | zero => cases enough
    | succ turns =>
      have fewer : rest.length ≤ turns := Nat.le_of_succ_le_succ enough
      rw [List.flatMap_cons, ← ih fewer, substituteChars, placeholder?_eq_none_iff.mpr nothing]
      rfl

/-- A text in which no placeholder is written has its characters as pieces. -/
theorem Scans.copied (scan : Scans cs pieces)
    (plain : ∀ p front written rest, Written p written → cs ≠ front ++ written ++ rest) :
    pieces = cs.map .copied := by
  induction scan with
  | done => rfl
  | @placeholder p written rest _ here => exact absurd rfl (plain p [] written rest here)
  | @copy c rest pieces nothing later ih =>
    rw [List.map_cons, ih]
    rintro p front written behind here rfl
    exact plain p (c :: front) written behind here rfl

/-- A substitution reads a text once from left to right.

The text falls into pieces in one way, whatever the environment, and each placeholder among them is
replaced by the value of its variable, or its default, while everything else is copied. So a value is
never looked at again, only the variables that are named count, and a text without placeholders stays as
it is. -/
theorem substitution_is_one_scan (text : String) :
    ∃ pieces, (∀ other, Scans text.toList other ↔ other = pieces) ∧
      (∀ env : Environment, env.substitute text = String.ofList (pieces.flatMap (·.text env))) ∧
      (∀ env env' : Environment,
        (∀ p, .placeholder p ∈ pieces → env.value? p.name = env'.value? p.name) →
        env.substitute text = env'.substitute text) ∧
      ((∀ p front written rest, Written p written → text.toList ≠ front ++ written ++ rest) →
        ∀ env : Environment, env.substitute text = text) := by
  obtain ⟨pieces, scan⟩ := exists_scans text.toList
  have substituted (env : Environment) :
      env.substitute text = String.ofList (pieces.flatMap (·.text env)) :=
    congrArg String.ofList (substituteChars_eq scan (Nat.le_of_eq String.length_toList))
  refine ⟨pieces, fun other => ⟨scan.unique, fun same => same ▸ scan⟩, substituted, ?_, ?_⟩
  · intro env env' agree
    rw [substituted, substituted]
    refine congrArg String.ofList (List.flatMap_congr fun piece member => ?_)
    cases piece with
    | copied c => rfl
    | placeholder p => simp only [Piece.text, Placeholder.text, agree p member]
  · intro plain env
    rw [substituted, scan.copied plain, List.flatMap_map]
    have copied : (text.toList.flatMap fun c => (Piece.copied c).text env) = text.toList :=
      List.flatMap_singleton' text.toList
    rw [copied, String.ofList_toList]

/-- A value that looks like a placeholder is not expanded, nor is a placeholder without a name. -/
theorem lookalike_stays :
    substitute [("A", "$\x7bB\x7d"), ("B", "b")] "$$\x7bA\x7d" = "$$\x7bB\x7d" ∧
      substitute [("A", "$\x7bB\x7d"), ("B", "b")] "$$\x7bA\x7d" =
        substitute [("A", "$\x7bB\x7d")] "$$\x7bA\x7d" ∧
      ∀ env : Environment, env.substitute "$\x7b\x7d" = "$\x7b\x7d" := by
  have scan : Scans "$$\x7bA\x7d".toList [.copied '$', .placeholder { name := "A" }] := by
    refine .copy ?_ (.placeholder (@Written.plain ['A'] (by simp) (by simp)) .done)
    intro p written behind here same
    obtain ⟨_, _, rfl, _⟩ := here.starts
    cases same
  obtain ⟨pieces, only, substituted, named, _⟩ := substitution_is_one_scan "$$\x7bA\x7d"
  obtain rfl := (only _).mp scan
  obtain ⟨_, _, _, _, unchanged⟩ := substitution_is_one_scan "$\x7b\x7d"
  refine ⟨?_, named _ _ ?_, unchanged ?_⟩
  · rw [substituted]
    decide +kernel
  · intro p member
    obtain rfl : p = { name := "A" } := by simpa using member
    decide +kernel
  · rintro p front written rest here same
    obtain ⟨c, more, rfl, inside⟩ := here.starts
    cases front with
    | nil =>
      have third : '\x7d' = c := (List.cons.inj (List.cons.inj (List.cons.inj same).2).2).1
      exact inside third.symm
    | cons first front =>
      have length := congrArg List.length same
      simp at length
      omega

end EdgeGateway.Environment

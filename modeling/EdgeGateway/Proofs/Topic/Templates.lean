import EdgeGateway.Proofs.Text.Numeral
import EdgeGateway.Proofs.Topic
import Mathlib.Algebra.Group.Nat.Defs
import Mathlib.Data.List.Forall2

/-!
# How templates are written and what they expand to

`Spells` says which texts are templates: text without braces and placeholders in braces, one after the
other in any number. `Stands` says what each of these parts stands for once there are a topic and values.
`templates_expand_faithfully` says that exactly such texts are parsed, and that an expansion is what the
parts stand for, put together in their order.
-/

namespace EdgeGateway.Topic.Template

/-! ### How templates are written -/

inductive Part where
  | text (characters : List Char)
  | placeholder (token : List Char)

def Part.written : Part → List Char
  | .text characters => characters
  | .placeholder token => '\x7b' :: (token ++ ['\x7d'])

def NoBrace (cs : List Char) : Prop := '\x7b' ∉ cs ∧ '\x7d' ∉ cs

/-- Nothing has braces inside, and a token is neither empty nor a numeral of zero. -/
def Part.WellFormed : Part → Prop
  | .text characters => NoBrace characters
  | .placeholder token => token ≠ [] ∧ NoBrace token ∧ ¬ Text.Denotes token 0

/-- The parts, one after the other, are the text. -/
structure Spells (parts : List Part) (cs : List Char) : Prop where
  wellFormed : ∀ part ∈ parts, part.WellFormed
  written : cs = parts.flatMap Part.written

variable {parts : List Part} {part : Part} {cs rest read token : List Char} {topic : String}
  {values : List (String × String)}

theorem Spells.nil : Spells [] [] := ⟨fun _ member => absurd member List.not_mem_nil, rfl⟩

theorem Spells.cons (wellFormed : part.WellFormed) (later : Spells parts rest) :
    Spells (part :: parts) (part.written ++ rest) := by
  refine ⟨?_, ?_⟩
  · intro other member
    rcases List.mem_cons.mp member with rfl | behind
    · exact wellFormed
    · exact later.wellFormed other behind
  · rw [List.flatMap_cons, ← later.written]

/-! ### What the parts stand for -/

/-- What a part stands for. Text stands for itself, `#` for the topic, a number for a level, and any other
token for the value that is first under its name. -/
inductive Stands (topic : String) (values : List (String × String)) : Part → List Char → Prop
  | text {characters : List Char} : Stands topic values (.text characters) characters
  | wholeTopic : Stands topic values (.placeholder ['#']) topic.toList
  | level {token level : List Char} {n : Nat} (number : Text.Denotes token n) (word : n < 2 ^ 64)
      (counted : 1 ≤ n) (there : (levels topic)[n - 1]? = some level) :
      Stands topic values (.placeholder token) level
  | value {token : List Char} {value : String} {before after : List (String × String)}
      (other : token ≠ ['#']) (name : ∀ n, Text.Denotes token n → 2 ^ 64 ≤ n)
      (known : values = before ++ (String.ofList token, value) :: after)
      (first : ∀ entry ∈ before, entry.1 ≠ String.ofList token) :
      Stands topic values (.placeholder token) value.toList

/-- What the parts need in order to stand for something. -/
structure Expandable (topic : String) (values : List (String × String)) (parts : List Part) :
    Prop where
  levels : ∀ token n, .placeholder token ∈ parts → Text.Denotes token n → n < 2 ^ 64 →
    1 ≤ n ∧ n ≤ (levels topic).length
  values : ∀ token, .placeholder token ∈ parts → token ≠ ['#'] →
    (∀ n, Text.Denotes token n → 2 ^ 64 ≤ n) → String.ofList token ∈ values.map Prod.fst

/-! ### Parsing -/

theorem bind_eq_ok {ε α β : Type} {x : Except ε α} {f : α → Except ε β} {b : β} :
    (x >>= f) = .ok b ↔ ∃ a, x = .ok a ∧ f a = .ok b := by
  cases x with
  | error fault => exact ⟨fun failed => (nomatch failed), fun ⟨_, done, _⟩ => (nomatch done)⟩
  | ok a => exact ⟨fun done => ⟨a, rfl, done⟩, fun ⟨_, same, done⟩ => Except.ok.inj same ▸ done⟩

theorem not_denotes_hash (n : Nat) : ¬ Text.Denotes ['#'] n := by
  rw [Text.denotes_iff]
  rintro ⟨numeral, _⟩
  revert numeral
  decide

/-- What becomes of a token depends on the number that it denotes, if it denotes one. -/
theorem placeholder_cases (token : List Char) :
    (token = ['#'] ∧ placeholder token = .ok .wholeTopic) ∨
      (Text.Denotes token 0 ∧ placeholder token = .error .levelZero) ∨
      (∃ n, 1 ≤ n ∧ n < 2 ^ 64 ∧ Text.Denotes token n ∧ placeholder token = .ok (.level n)) ∨
      (token ≠ ['#'] ∧ (∀ n, Text.Denotes token n → 2 ^ 64 ≤ n) ∧
        placeholder token = .ok (.token token)) := by
  unfold placeholder
  by_cases whole : token = ['#']
  · exact .inl ⟨whole, if_pos whole⟩
  · rw [if_neg whole]
    cases read : Text.numberBelow? (pow2 64) token with
    | none =>
      refine .inr (.inr (.inr ⟨whole, fun n denoted => ?_, rfl⟩))
      rw [Option.eq_none_iff_forall_ne_some] at read
      exact Nat.le_of_not_lt fun below => read n (Text.numberBelow?_eq_some_iff.mpr ⟨denoted, below⟩)
    | some n =>
      obtain ⟨denoted, below⟩ := Text.numberBelow?_eq_some_iff.mp read
      cases n with
      | zero => exact .inr (.inl ⟨denoted, rfl⟩)
      | succ n => exact .inr (.inr (.inl ⟨n + 1, Nat.succ_pos n, below, denoted, rfl⟩))

theorem placeholder_ok_iff (token : List Char) :
    (∃ segment, placeholder token = .ok segment) ↔ ¬ Text.Denotes token 0 := by
  rcases placeholder_cases token with
    ⟨rfl, made⟩ | ⟨zero, failed⟩ | ⟨n, counted, _, denoted, made⟩ | ⟨_, name, made⟩
  · exact ⟨fun _ => not_denotes_hash 0, fun _ => ⟨_, made⟩⟩
  · rw [failed]
    exact ⟨fun ⟨_, done⟩ => (nomatch done), fun other => absurd zero other⟩
  · refine ⟨fun _ zero => ?_, fun _ => ⟨_, made⟩⟩
    have none_counted := denoted.unique zero
    omega
  · refine ⟨fun _ zero => ?_, fun _ => ⟨_, made⟩⟩
    have large := name 0 zero
    omega

/-- Text up to the next brace is read in one go. -/
theorem parseText_run {characters : List Char} (free : NoBrace characters)
    (read rest : List Char) :
    parseText read (characters ++ rest) = parseText (characters.reverse ++ read) rest := by
  induction characters generalizing read with
  | nil => rfl
  | cons c characters ih =>
    obtain ⟨no_open, no_close⟩ := free
    rw [List.mem_cons, not_or] at no_open no_close
    rw [List.cons_append, parseText, if_neg (Ne.symm no_open.1), if_neg (Ne.symm no_close.1),
      ih ⟨no_open.2, no_close.2⟩, List.reverse_cons, List.append_assoc]
    rfl

/-- A token is read up to the next closing brace. -/
theorem parseToken_run {token : List Char} (closed : '\x7d' ∉ token) (read rest : List Char) :
    parseToken read (token ++ rest) = parseToken (token.reverse ++ read) rest := by
  induction token generalizing read with
  | nil => rfl
  | cons c token ih =>
    rw [List.mem_cons, not_or] at closed
    rw [List.cons_append, parseToken, if_pos (Ne.symm closed.1), ih closed.2, List.reverse_cons,
      List.append_assoc]
    rfl

theorem parseToken_token {token : List Char} (wellFormed : (Part.placeholder token).WellFormed)
    (rest : List Char) : parseToken [] (token ++ '\x7d' :: rest) = do
      let segment ← placeholder token
      let segments ← parseText [] rest
      return segment :: segments := by
  obtain ⟨nonempty, ⟨no_open, no_close⟩, _⟩ := wellFormed
  have fits : ¬ (token.reverse.isEmpty || token.reverse.contains '\x7b') = true := by
    simp [nonempty, no_open]
  rw [parseToken_run no_close, List.append_nil, parseToken, if_neg (by simp), if_neg fits,
    List.reverse_reverse]

/-- Only what is spelled is parsed. -/
theorem spells_of_parsed (cs : List Char) :
    (∀ read segments, parseText read cs = .ok segments → ∃ parts, Spells parts cs) ∧
      ∀ read segments, '\x7d' ∉ read → parseToken read cs = .ok segments →
        ∃ token rest parts, cs = token ++ '\x7d' :: rest ∧ Spells parts rest ∧
          (Part.placeholder (read.reverse ++ token)).WellFormed := by
  induction cs with
  | nil =>
    refine ⟨fun _ _ _ => ⟨[], .nil⟩, fun read segments _ parsed => ?_⟩
    cases parsed
  | cons c rest ih =>
    obtain ⟨as_text, as_token⟩ := ih
    constructor
    · intro read segments parsed
      rw [parseText] at parsed
      split at parsed
      next opens =>
        obtain ⟨inner, parsed, _⟩ := bind_eq_ok.mp parsed
        obtain ⟨token, behind, parts, rfl, later, wellFormed⟩ :=
          as_token [] inner List.not_mem_nil parsed
        have spelled := later.cons wellFormed
        subst opens
        refine ⟨.placeholder token :: parts, ?_⟩
        simpa [Part.written] using spelled
      next not_open =>
        split at parsed
        next => cases parsed
        next not_close =>
          obtain ⟨parts, later⟩ := as_text _ segments parsed
          have free : (Part.text [c]).WellFormed := by
            simp [Part.WellFormed, NoBrace, Ne.symm not_open, Ne.symm not_close]
          exact ⟨_, later.cons free⟩
    · intro read segments closed parsed
      rw [parseToken] at parsed
      split at parsed
      next inside =>
        have still : '\x7d' ∉ c :: read := by simp [closed, Ne.symm inside]
        obtain ⟨token, behind, parts, rfl, later, wellFormed⟩ :=
          as_token (c :: read) segments still parsed
        refine ⟨c :: token, behind, parts, rfl, later, ?_⟩
        simpa using wellFormed
      next closes =>
        split at parsed
        next => cases parsed
        next fits =>
          obtain ⟨segment, made, parsed⟩ := bind_eq_ok.mp parsed
          obtain ⟨inner, parsed, _⟩ := bind_eq_ok.mp parsed
          obtain ⟨parts, later⟩ := as_text [] inner parsed
          obtain rfl : c = '\x7d' := not_not.mp closes
          refine ⟨[], rest, parts, rfl, later, ?_⟩
          rw [List.append_nil]
          have number := (placeholder_ok_iff _).mp ⟨segment, made⟩
          simp only [Bool.or_eq_true, not_or, List.isEmpty_iff, List.contains_iff_mem] at fits
          refine ⟨?_, ⟨?_, ?_⟩, number⟩
          · simpa using fits.1
          · simpa using fits.2
          · simpa using closed

/-! ### Expansion -/

theorem token_expand_iff {name text : List Char} :
    (Segment.token name).expand topic values = .ok text ↔
      ∃ value before after, values = before ++ (String.ofList name, value) :: after ∧
        (∀ entry ∈ before, entry.1 ≠ String.ofList name) ∧ text = value.toList := by
  have named (key : String) : key.toList = name ↔ key = String.ofList name := by
    constructor
    · rintro rfl
      exact String.ofList_toList.symm
    · rintro rfl
      exact String.toList_ofList
  unfold Segment.expand
  dsimp only
  constructor
  · intro expanded
    split at expanded
    next key value found =>
      obtain ⟨here, before, after, split, earlier⟩ := List.find?_eq_some_iff_append.mp found
      obtain rfl := (named key).mp (of_decide_eq_true here)
      refine ⟨value, before, after, split, fun entry member same => ?_, (Except.ok.inj expanded).symm⟩
      have skipped := earlier entry member
      rw [Bool.not_eq_true', decide_eq_false_iff_not] at skipped
      exact skipped ((named entry.1).mpr same)
    next => cases expanded
  · rintro ⟨value, before, after, rfl, earlier, rfl⟩
    have found : (before ++ (String.ofList name, value) :: after).find? (·.1.toList = name) =
        some (String.ofList name, value) := by
      refine List.find?_eq_some_iff_append.mpr ⟨by simp, before, after, rfl, fun entry member => ?_⟩
      rw [Bool.not_eq_true', decide_eq_false_iff_not]
      exact fun same => earlier entry member ((named entry.1).mp same)
    rw [found]

/-- The segment of a token expands to what the placeholder stands for. -/
theorem expand_iff {segment : Segment} {text : List Char} (made : placeholder token = .ok segment) :
    segment.expand topic values = .ok text ↔ Stands topic values (.placeholder token) text := by
  rcases placeholder_cases token with
    ⟨rfl, here⟩ | ⟨_, here⟩ | ⟨n, counted, word, denoted, here⟩ | ⟨other, name, here⟩ <;>
    cases made.symm.trans here
  · constructor
    · intro expanded
      cases expanded
      exact .wholeTopic
    · intro stands
      cases stands with
      | wholeTopic => rfl
      | level number => exact absurd number (not_denotes_hash _)
      | value other => exact absurd rfl other
  · unfold Segment.expand
    dsimp only
    constructor
    · intro expanded
      split at expanded
      next level there =>
        cases expanded
        exact .level denoted word counted there
      next => cases expanded
    · intro stands
      cases stands with
      | wholeTopic => exact absurd denoted (not_denotes_hash n)
      | level number _ _ there =>
        obtain rfl := denoted.unique number
        rw [there]
      | value _ name =>
        have large := name n denoted
        omega
  · rw [token_expand_iff]
    constructor
    · rintro ⟨value, before, after, known, first, rfl⟩
      exact .value other name known first
    · intro stands
      cases stands with
      | wholeTopic => exact absurd rfl other
      | level number word =>
        have large := name _ number
        omega
      | value _ _ known first => exact ⟨_, _, _, known, first, rfl⟩

theorem expandSegments_cons_iff {segment : Segment} {segments : List Segment} {text : List Char} :
    expandSegments topic values (segment :: segments) = .ok text ↔
      ∃ first later, segment.expand topic values = .ok first ∧
        expandSegments topic values segments = .ok later ∧ text = first ++ later := by
  rw [expandSegments, bind_eq_ok]
  constructor
  · rintro ⟨first, here, expanded⟩
    obtain ⟨later, behind, done⟩ := bind_eq_ok.mp expanded
    exact ⟨first, later, here, behind, (Except.ok.inj done).symm⟩
  · rintro ⟨first, later, here, behind, rfl⟩
    exact ⟨first, here, bind_eq_ok.mpr ⟨later, behind, rfl⟩⟩

theorem expandSegments_literal_iff {characters text : List Char} {segments : List Segment} :
    expandSegments topic values (literal characters ++ segments) = .ok text ↔
      ∃ later, expandSegments topic values segments = .ok later ∧ text = characters ++ later := by
  unfold literal
  split
  next empty =>
    rw [List.isEmpty_iff.mp empty]
    constructor
    · intro expanded
      exact ⟨text, expanded, rfl⟩
    · rintro ⟨later, expanded, rfl⟩
      exact expanded
  next =>
    rw [List.cons_append, List.nil_append, expandSegments_cons_iff]
    constructor
    · rintro ⟨first, later, here, behind, rfl⟩
      exact ⟨later, behind, by rw [Except.ok.inj here]⟩
    · rintro ⟨later, behind, rfl⟩
      exact ⟨characters, later, rfl, behind, rfl⟩

/-- What is spelled is parsed, and expands to what its parts stand for, behind the text that has been
read before. -/
theorem parsed_of_spells (spelled : Spells parts cs) (read : List Char) :
    ∃ segments, parseText read cs = .ok segments ∧ ∀ topic values text,
      expandSegments topic values segments = .ok text ↔ ∃ texts,
        List.Forall₂ (Stands topic values) parts texts ∧ text = read.reverse ++ texts.flatten := by
  obtain ⟨wellFormed, rfl⟩ := spelled
  induction parts generalizing read with
  | nil =>
    refine ⟨literal read.reverse, rfl, fun topic values text => ?_⟩
    have nothing := @expandSegments_literal_iff topic values read.reverse text []
    rw [List.append_nil] at nothing
    rw [nothing]
    constructor
    · rintro ⟨later, done, rfl⟩
      cases done
      exact ⟨[], .nil, rfl⟩
    · rintro ⟨texts, stand, rfl⟩
      cases stand
      exact ⟨[], rfl, rfl⟩
  | cons part parts ih =>
    have here := wellFormed part List.mem_cons_self
    have behind := fun other member => wellFormed other (List.mem_cons_of_mem part member)
    rw [List.flatMap_cons]
    cases part with
    | text characters =>
      obtain ⟨segments, parsed, expands⟩ := ih (characters.reverse ++ read) behind
      refine ⟨segments, (parseText_run here read _).trans parsed, fun topic values text => ?_⟩
      rw [expands, List.reverse_append, List.reverse_reverse]
      constructor
      · rintro ⟨texts, stand, rfl⟩
        exact ⟨characters :: texts, .cons .text stand, by simp⟩
      · rintro ⟨texts, stand, rfl⟩
        cases stand with
        | cons first later =>
          cases first
          exact ⟨_, later, by simp⟩
    | placeholder token =>
      obtain ⟨segments, parsed, expands⟩ := ih [] behind
      obtain ⟨segment, made⟩ := (placeholder_ok_iff token).mpr here.2.2
      refine ⟨literal read.reverse ++ segment :: segments, ?_, fun topic values text => ?_⟩
      · have token_read := parseToken_token here (parts.flatMap Part.written)
        rw [made, parsed] at token_read
        rw [Part.written, List.cons_append, List.append_assoc, List.singleton_append, parseText,
          if_pos rfl, token_read]
        rfl
      · rw [expandSegments_literal_iff]
        constructor
        · rintro ⟨later, expanded, rfl⟩
          obtain ⟨first, rest, here, behind, rfl⟩ := expandSegments_cons_iff.mp expanded
          obtain ⟨texts, stand, rfl⟩ := (expands topic values rest).mp behind
          exact ⟨first :: texts, .cons ((expand_iff made).mp here) stand, rfl⟩
        · rintro ⟨texts, stand, rfl⟩
          cases stand with
          | cons first later =>
            refine ⟨_, expandSegments_cons_iff.mpr ⟨_, _, (expand_iff made).mpr first, ?_, rfl⟩, rfl⟩
            exact (expands topic values _).mpr ⟨_, later, rfl⟩

/-! ### Parts that stand for something -/

/-- The value that is first under a name. -/
theorem exists_first {name : String} (known : name ∈ values.map Prod.fst) :
    ∃ value before after, values = before ++ (name, value) :: after ∧
      ∀ entry ∈ before, entry.1 ≠ name := by
  have some_entry : (values.find? (·.1 = name)).isSome = true := by
    obtain ⟨entry, member, named⟩ := List.mem_map.mp known
    exact List.find?_isSome.mpr ⟨entry, member, decide_eq_true named⟩
  obtain ⟨⟨key, value⟩, found⟩ := Option.isSome_iff_exists.mp some_entry
  obtain ⟨here, before, after, split, earlier⟩ := List.find?_eq_some_iff_append.mp found
  obtain rfl : key = name := of_decide_eq_true here
  exact ⟨value, before, after, split, fun entry member => by simpa using earlier entry member⟩

theorem expandable_cons : Expandable topic values (part :: parts) ↔
    Expandable topic values [part] ∧ Expandable topic values parts := by
  constructor
  · rintro ⟨levels, values⟩
    have first {other : Part} (member : other ∈ [part]) : other ∈ part :: parts :=
      List.mem_singleton.mp member ▸ List.mem_cons_self
    exact ⟨⟨fun token n member => levels token n (first member),
        fun token member => values token (first member)⟩,
      ⟨fun token n member => levels token n (List.mem_cons_of_mem part member),
        fun token member => values token (List.mem_cons_of_mem part member)⟩⟩
  · rintro ⟨⟨levels, values⟩, ⟨levels', values'⟩⟩
    refine ⟨fun token n member => ?_, fun token member => ?_⟩
    · rcases List.mem_cons.mp member with rfl | behind
      · exact levels token n List.mem_cons_self
      · exact levels' token n behind
    · rcases List.mem_cons.mp member with rfl | behind
      · exact values token List.mem_cons_self
      · exact values' token behind

theorem exists_stands_iff :
    (∃ text, Stands topic values part text) ↔ Expandable topic values [part] := by
  constructor
  · rintro ⟨text, stands⟩
    refine ⟨fun token n member denoted word => ?_, fun token member other name => ?_⟩
    · obtain rfl := List.mem_singleton.mp member
      cases stands with
      | wholeTopic => exact absurd denoted (not_denotes_hash n)
      | level number _ counted there =>
        obtain rfl := denoted.unique number
        have below := (List.getElem?_eq_some_iff.mp there).1
        omega
      | value _ name =>
        have large := name n denoted
        omega
    · obtain rfl := List.mem_singleton.mp member
      cases stands with
      | wholeTopic => exact absurd rfl other
      | level number word =>
        have large := name _ number
        omega
      | value _ _ known => simp [known]
  · rintro ⟨levels, values⟩
    cases part with
    | text characters => exact ⟨characters, .text⟩
    | placeholder token =>
      rcases placeholder_cases token with
        ⟨rfl, _⟩ | ⟨denoted, _⟩ | ⟨n, _, word, denoted, _⟩ | ⟨other, name, _⟩
      · exact ⟨_, .wholeTopic⟩
      · have counted := (levels token 0 List.mem_cons_self denoted (by decide)).1
        cases counted
      · obtain ⟨counted, there⟩ := levels token n List.mem_cons_self denoted word
        have below : n - 1 < (Topic.levels topic).length := by omega
        exact ⟨_, .level denoted word counted (List.getElem?_eq_getElem below)⟩
      · obtain ⟨value, before, after, known, first⟩ :=
          exists_first (values token List.mem_cons_self other name)
        exact ⟨_, .value other name known first⟩

theorem expandable_iff :
    Expandable topic values parts ↔ ∃ texts, List.Forall₂ (Stands topic values) parts texts := by
  induction parts with
  | nil =>
    refine ⟨fun _ => ⟨[], .nil⟩, fun _ => ⟨?_, ?_⟩⟩
    · exact fun _ _ member => absurd member List.not_mem_nil
    · exact fun _ member => absurd member List.not_mem_nil
  | cons part parts ih =>
    rw [expandable_cons, ih, ← exists_stands_iff]
    constructor
    · rintro ⟨⟨text, first⟩, texts, later⟩
      exact ⟨text :: texts, .cons first later⟩
    · rintro ⟨texts, stand⟩
      cases stand with
      | cons first later => exact ⟨⟨_, first⟩, _, later⟩

/-! ### Templates -/

theorem parse_eq_ok {source : String} {t : Template} : parse source = .ok t ↔
    ∃ segments, parseText [] source.toList = .ok segments ∧ { source, segments } = t := by
  rw [parse, bind_eq_ok]
  constructor
  · rintro ⟨segments, parsed, made⟩
    exact ⟨segments, parsed, Except.ok.inj made⟩
  · rintro ⟨segments, parsed, rfl⟩
    exact ⟨segments, parsed, rfl⟩

theorem expand_eq_ok {t : Template} {result : String} (general : t.source ≠ passThrough) :
    t.expand topic values = .ok result ↔
      ∃ text, expandSegments topic values t.segments = .ok text ∧ ValidName (String.ofList text) ∧
        result = String.ofList text := by
  have checks : t.isPassThrough = false := decide_eq_false general
  rw [expand, checks, if_neg Bool.false_ne_true, bind_eq_ok]
  refine exists_congr fun text => and_congr_right fun _ => ?_
  rw [← checkName_iff]
  dsimp only
  split
  next valid =>
    rw [valid]
    exact ⟨fun same => ⟨rfl, (Except.ok.inj same).symm⟩, fun ⟨_, same⟩ => same ▸ rfl⟩
  next fault invalid =>
    rw [invalid]
    exact ⟨fun failed => (nomatch failed), fun ⟨valid, _⟩ => (nomatch valid)⟩

/-- A text is a template exactly if it is spelled by parts, and a template expands to what its parts stand
for.

The parts are text and tokens in braces, neither with a brace inside, and no token is a numeral of zero. Other
than the template that leaves every topic as it is, a template expands exactly if each number that fits a
word counts a level of the topic, every other token but `#` has a value, and what the parts stand for is a
valid name when it is put together in their order; that name is the result. -/
theorem templates_expand_faithfully (source : String) :
    ((∃ t, parse source = .ok t) ↔ ∃ parts, Spells parts source.toList) ∧
      ∀ t parts, parse source = .ok t → source ≠ passThrough → Spells parts source.toList →
        ∀ topic values,
          (Expandable topic values parts ↔ ∃ texts, List.Forall₂ (Stands topic values) parts texts) ∧
          ∀ result, t.expand topic values = .ok result ↔
            ∃ texts, List.Forall₂ (Stands topic values) parts texts ∧
              result.toList = texts.flatten ∧ ValidName result := by
  refine ⟨⟨?_, ?_⟩, fun t parts parsed general spelled topic values => ⟨expandable_iff, fun result => ?_⟩⟩
  · rintro ⟨t, parsed⟩
    obtain ⟨segments, read, _⟩ := parse_eq_ok.mp parsed
    exact (spells_of_parsed source.toList).1 [] segments read
  · rintro ⟨parts, spelled⟩
    obtain ⟨segments, read, _⟩ := parsed_of_spells spelled []
    exact ⟨_, parse_eq_ok.mpr ⟨segments, read, rfl⟩⟩
  · obtain ⟨segments, read, rfl⟩ := parse_eq_ok.mp parsed
    obtain ⟨segments', read', expands⟩ := parsed_of_spells spelled []
    obtain rfl := Except.ok.inj (read'.symm.trans read)
    rw [expand_eq_ok general]
    constructor
    · rintro ⟨text, expanded, valid, rfl⟩
      obtain ⟨texts, stand, rfl⟩ := (expands topic values text).mp expanded
      exact ⟨texts, stand, String.toList_ofList, valid⟩
    · rintro ⟨texts, stand, same, valid⟩
      have whole : result = String.ofList texts.flatten := by rw [← same, String.ofList_toList]
      refine ⟨texts.flatten, (expands topic values _).mpr ⟨texts, stand, rfl⟩, whole ▸ valid, whole⟩

/-- Levels come in any order, with a sign and leading zeros, and of two values the first counts. -/
theorem signed_level_is_expanded :
    ∃ t, parse "ä/\x7b+02\x7d/\x7bx\x7d\x7b1\x7d" = .ok t ∧
      t.expand "a/b" [("x", "y"), ("x", "z")] = .ok "ä/b/ya" := by
  obtain ⟨spelled, expands⟩ := templates_expand_faithfully "ä/\x7b+02\x7d/\x7bx\x7d\x7b1\x7d"
  have parts : Spells [.text ['ä', '/'], .placeholder ['+', '0', '2'], .text ['/'], .placeholder ['x'],
      .placeholder ['1']] "ä/\x7b+02\x7d/\x7bx\x7d\x7b1\x7d".toList := by
    refine ⟨?_, by decide +kernel⟩
    simp only [List.forall_mem_cons, Part.WellFormed, NoBrace, Text.denotes_iff, List.not_mem_nil,
      false_implies, implies_true, and_true]
    decide
  obtain ⟨t, parsed⟩ := spelled.mpr ⟨_, parts⟩
  refine ⟨t, parsed, ((expands t _ parsed (by decide) parts "a/b" _).2 _).mpr ?_⟩
  refine ⟨[['ä', '/'], ['b'], ['/'], ['y'], ['a']], ?_, by decide +kernel, by decide +kernel⟩
  refine .cons .text (.cons ?_ (.cons .text (.cons ?_ (.cons ?_ .nil))))
  · exact .level (@Text.Denotes.plus ['0', '2'] (by decide) (by simp [Char.isDigit])) (by decide)
      (by decide) (by decide +kernel)
  · refine @Stands.value _ _ ['x'] "y" [] _ (by decide) (fun n denoted => ?_) rfl (by simp)
    exact absurd (Text.denotes_iff.mp denoted).1 (by decide)
  · exact .level (@Text.Denotes.plain ['1'] (by decide) (by simp [Char.isDigit])) (by decide)
      (by decide) (by decide +kernel)

end EdgeGateway.Topic.Template

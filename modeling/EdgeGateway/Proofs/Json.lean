import EdgeGateway.Json.Reader
import EdgeGateway.Proofs.Table
import Mathlib.Data.List.Forall2

/-!
# Equal and well-formed JSON values

`Json.Equal` says when two values are equal, part by part, and `Json.same` decides it. `Json.Proper`
is what every value that is read from a text has: no object names a member twice. `Json.Bounded`
says that its numbers are integers of 64 bits or finite doubles.
-/

namespace EdgeGateway.Json

/-! ### Equality -/

/-- An integer and a double are never equal. -/
inductive Equal : Json → Json → Prop
  | null : Equal .null .null
  | bool (b : Bool) : Equal (.bool b) (.bool b)
  | int (i : Int) : Equal (.number (.int i)) (.number (.int i))
  | double {a b : Double} (same : a.same b = true) :
    Equal (.number (.double a)) (.number (.double b))
  | string (s : String) : Equal (.string s) (.string s)
  | array {as bs : List Json} (items : List.Forall₂ Equal as bs) : Equal (.array as) (.array bs)
  | object {as bs : List (String × Json)} (names : as.map Prod.fst = bs.map Prod.fst)
      (values : List.Forall₂ Equal (as.map Prod.snd) (bs.map Prod.snd)) :
    Equal (.object as) (.object bs)

theorem same_correct :
    (∀ a b : Json, a.same b = true ↔ Equal a b) ∧
      (∀ as bs : List (String × Json), sameMembers as bs = true ↔
        as.map Prod.fst = bs.map Prod.fst ∧
          List.Forall₂ Equal (as.map Prod.snd) (bs.map Prod.snd)) ∧
      ∀ as bs : List Json, sameItems as bs = true ↔ List.Forall₂ Equal as bs := by
  refine same.mutual_induct _ _ _ ?null ?bool ?int ?double ?string ?array ?object ?different
    ?noItems ?items ?lengths ?noMembers ?members ?sizes
  case null => exact ⟨fun _ => .null, fun _ => rfl⟩
  case bool =>
    intro a b
    rw [same, decide_eq_true_eq]
    exact ⟨fun here => here ▸ .bool a, fun equal => by cases equal; rfl⟩
  case int =>
    intro a b
    rw [same, decide_eq_true_eq]
    exact ⟨fun here => here ▸ .int a, fun equal => by cases equal; rfl⟩
  case double =>
    intro a b
    rw [same]
    exact ⟨.double, fun equal => by cases equal; assumption⟩
  case string =>
    intro a b
    rw [same, decide_eq_true_eq]
    exact ⟨fun here => here ▸ .string a, fun equal => by cases equal; rfl⟩
  case array =>
    intro as bs items
    rw [same, items]
    exact ⟨.array, fun equal => by cases equal; assumption⟩
  case object =>
    intro as bs members
    rw [same, members]
    exact ⟨fun here => .object here.1 here.2, fun equal => by cases equal; exact ⟨‹_›, ‹_›⟩⟩
  case different =>
    -- no constructor of `Equal` has two values of different kinds
    intro a b null bool int double string array object
    rw [same.eq_8 a b null bool int double string array object]
    refine ⟨fun here => by simp at here, fun equal => ?_⟩
    cases equal with
    | null => exact (null rfl rfl).elim
    | bool => exact (bool _ _ rfl rfl).elim
    | int => exact (int _ _ rfl rfl).elim
    | double => exact (double _ _ rfl rfl).elim
    | string => exact (string _ _ rfl rfl).elim
    | array => exact (array _ _ rfl rfl).elim
    | object => exact (object _ _ rfl rfl).elim
  case noItems => simp [sameItems]
  case items =>
    intro a as b bs first rest
    rw [sameItems, Bool.and_eq_true, first, rest, List.forall₂_cons]
  case lengths =>
    intro as bs empty longer
    rw [sameItems.eq_3 as bs empty longer]
    refine ⟨fun here => by simp at here, fun equal => ?_⟩
    cases equal with
    | nil => exact (empty rfl rfl).elim
    | cons => exact (longer _ _ _ _ rfl rfl).elim
  case noMembers => simp [sameMembers]
  case members =>
    intro k a as l b bs first rest
    simp only [sameMembers, Bool.and_eq_true, decide_eq_true_eq, first, rest, List.map_cons,
      List.cons.injEq, List.forall₂_cons]
    tauto
  case sizes =>
    intro as bs empty longer
    rw [sameMembers.eq_3 as bs empty longer]
    refine ⟨fun here => by simp at here, fun ⟨names, _⟩ => ?_⟩
    match as, bs with
    | [], [] => exact (empty rfl rfl).elim
    | (_, _) :: _, (_, _) :: _ => exact (longer _ _ _ _ _ _ rfl rfl).elim
    | [], _ :: _ | _ :: _, [] => simp at names

theorem same_iff {a b : Json} : a.same b = true ↔ Equal a b := same_correct.1 a b

/-! ### Names and numbers -/

inductive Proper : Json → Prop
  | null : Proper .null
  | bool (b : Bool) : Proper (.bool b)
  | number (n : Number) : Proper (.number n)
  | string (s : String) : Proper (.string s)
  | array {items : List Json} (each : ∀ item ∈ items, Proper item) : Proper (.array items)
  | object {members : List (String × Json)} (ascending : Table.Ascending ⟨members⟩)
      (each : ∀ member ∈ members, Proper member.2) : Proper (.object members)

/-- Integers of 64 bits and finite doubles are the numbers that texts have. -/
def Number.Bounded : Number → Prop
  | .int i => Number.isExactInteger i = true
  | .double d => d.isFinite = true

inductive Bounded : Json → Prop
  | null : Bounded .null
  | bool (b : Bool) : Bounded (.bool b)
  | number {n : Number} (bounded : n.Bounded) : Bounded (.number n)
  | string (s : String) : Bounded (.string s)
  | array {items : List Json} (each : ∀ item ∈ items, Bounded item) : Bounded (.array items)
  | object {members : List (String × Json)} (each : ∀ member ∈ members, Bounded member.2) :
    Bounded (.object members)

/-! ### Reading -/

theorem mem_insertEntry {key : String} {value : Json} {members : List (String × Json)}
    {member : String × Json} (there : member ∈ Table.insertEntry key value members) :
    member = (key, value) ∨ member ∈ members := by
  induction members with
  | nil => exact .inl (by simpa [Table.insertEntry] using there)
  | cons first rest ih =>
    unfold Table.insertEntry at there
    split at there
    · exact (List.mem_cons.mp there).imp_right (List.mem_cons_of_mem _)
    · split at there
      · exact List.mem_cons.mp there
      · rcases List.mem_cons.mp there with here | later
        · exact .inr (here ▸ List.mem_cons_self)
        · exact (ih later).imp_right (List.mem_cons_of_mem _)

theorem mem_ofList {members : List (String × Json)} {member : String × Json}
    (there : member ∈ (Table.ofList members).entries) : member ∈ members := by
  suffices built : ∀ t : Table Json, member ∈ (members.foldl (fun t (k, v) => t.insert k v) t).entries →
      member ∈ t.entries ∨ member ∈ members from
    (built {} there).resolve_left List.not_mem_nil
  intro t there
  clear * - there
  induction members generalizing t with
  | nil => exact .inl there
  | cons first rest ih =>
    rcases ih _ there with inserted | later
    · rcases mem_insertEntry inserted with rfl | old
      · exact .inr List.mem_cons_self
      · exact .inl old
    · exact .inr (List.mem_cons_of_mem _ later)

theorem ofList_ascending (members : List (String × Json)) : (Table.ofList members).Ascending := by
  suffices built : ∀ t : Table Json, t.Ascending →
      (members.foldl (fun t (k, v) => t.insert k v) t).Ascending from
    built {} Table.ascending_empty
  intro t ascending
  induction members generalizing t with
  | nil => exact ascending
  | cons first rest ih => exact ih _ (ascending.insert _ _)

/-- A property that all numbers of texts have, and each value with parts that have it. -/
structure Kept (P : Json → Prop) : Prop where
  null : P .null
  bool : ∀ b, P (.bool b)
  number : ∀ cs n rest, readNumber cs = some (n, rest) → P (.number n)
  string : ∀ s, P (.string s)
  array : ∀ items, (∀ item ∈ items, P item) → P (.array items)
  object : ∀ members, (∀ member ∈ members, P member.2) → P (ofMembers members)

/-- What the three readers of values, items and members yield with some fuel. -/
theorem reading_keeps {P : Json → Prop} (kept : Kept P) (fuel : Nat) :
    (∀ cs value rest, readValue fuel cs = some (value, rest) → P value) ∧
      (∀ acc cs value rest, (∀ item ∈ acc, P item) →
        readItems acc fuel cs = some (value, rest) → P value) ∧
      ∀ acc cs value rest, (∀ member ∈ acc, P member.2) →
        readMembers acc fuel cs = some (value, rest) → P value := by
  induction fuel with
  | zero => simp [readValue, readItems, readMembers]
  | succ fuel ih =>
    obtain ⟨readsValue, readsItems, readsMembers⟩ := ih
    refine ⟨fun cs value rest read => ?_, fun acc cs value rest old read => ?_,
      fun acc cs value rest old read => ?_⟩
    · unfold readValue at read
      split at read
      next =>
        obtain ⟨_, _, same⟩ := Option.map_eq_some_iff.mp read
        exact (Prod.mk.inj same).1 ▸ kept.string _
      next =>
        split at read
        next => exact (Prod.mk.inj (Option.some.inj read)).1 ▸ kept.array [] (by simp)
        next => exact readsItems _ _ _ _ (by simp) read
      next =>
        split at read
        next => exact (Prod.mk.inj (Option.some.inj read)).1 ▸ kept.object [] (by simp)
        next => exact readsMembers _ _ _ _ (by simp) read
      next =>
        obtain ⟨_, _, same⟩ := Option.map_eq_some_iff.mp read
        exact (Prod.mk.inj same).1 ▸ kept.bool true
      next =>
        obtain ⟨_, _, same⟩ := Option.map_eq_some_iff.mp read
        exact (Prod.mk.inj same).1 ▸ kept.bool false
      next =>
        obtain ⟨_, _, same⟩ := Option.map_eq_some_iff.mp read
        exact (Prod.mk.inj same).1 ▸ kept.null
      next =>
        obtain ⟨_, there, same⟩ := Option.map_eq_some_iff.mp read
        exact (Prod.mk.inj same).1 ▸ kept.number _ _ _ there
    · unfold readItems at read
      split at read
      next => cases read
      next item _ first =>
        have all : ∀ i ∈ item :: acc, P i := by
          simpa using ⟨readsValue _ _ _ first, old⟩
        split at read
        next => exact readsItems _ _ _ _ all read
        next =>
          exact (Prod.mk.inj (Option.some.inj read)).1 ▸
            kept.array _ fun i there => all i (List.mem_reverse.mp there)
        next => cases read
    · unfold readMembers at read
      split at read
      next =>
        split at read
        next => cases read
        next name _ _ =>
          split at read
          next =>
            split at read
            next => cases read
            next item _ first =>
              have all : ∀ m ∈ (name, item) :: acc, P m.2 :=
                List.forall_mem_cons.mpr ⟨readsValue _ _ _ first, old⟩
              split at read
              next => exact readsMembers _ _ _ _ all read
              next =>
                exact (Prod.mk.inj (Option.some.inj read)).1 ▸
                  kept.object _ fun m there => all m (List.mem_reverse.mp there)
              next => cases read
          next => cases read
      next => cases read

theorem read?_keeps {P : Json → Prop} (kept : Kept P) {text : String} {value : Json}
    (read : read? text = some value) : P value := by
  simp only [read?] at read
  split at read
  next there =>
    split at read
    · exact Option.some.inj read ▸ (reading_keeps kept _).1 _ _ _ there
    · cases read
  next => cases read

theorem kept_proper : Kept Proper where
  null := .null
  bool := .bool
  number _ n _ _ := .number n
  string := .string
  array _ := .array
  object members each := .object (ofList_ascending members) fun m there => each m (mem_ofList there)

theorem read?_proper {text : String} {value : Json} (read : read? text = some value) :
    value.Proper :=
  read?_keeps kept_proper read

theorem number?_bounded {negative : Bool} {whole fraction : List Char} {exponent : Option Int}
    {n : Number} (made : number? negative whole fraction exponent = some n) : n.Bounded := by
  simp only [number?] at made
  generalize (if negative = true then _ else _ : Int) = i at made
  generalize Double.ofDecimal negative _ _ = d at made
  split at made
  next literal =>
    simp only [Bool.and_eq_true] at literal
    exact Option.some.inj made ▸ literal.1.2
  next =>
    split at made
    next finite => exact Option.some.inj made ▸ finite
    next => cases made

theorem readNumber_bounded {cs rest : List Char} {n : Number}
    (read : readNumber cs = some (n, rest)) : n.Bounded := by
  simp only [readNumber, Option.bind_eq_bind] at read
  split at read
  all_goals
    dsimp only at read
    split at read
    · cases read
    · obtain ⟨_, _, later⟩ := Option.bind_eq_some_iff.mp read
      obtain ⟨_, _, last⟩ := Option.bind_eq_some_iff.mp later
      obtain ⟨_, made, same⟩ := Option.bind_eq_some_iff.mp last
      exact (Prod.mk.inj (Option.some.inj same)).1 ▸ number?_bounded made

theorem kept_bounded : Kept Bounded where
  null := .null
  bool := .bool
  number _ _ _ read := .number (readNumber_bounded read)
  string := .string
  array _ := .array
  object _ each := .object fun m there => each m (mem_ofList there)

theorem read?_bounded {text : String} {value : Json} (read : read? text = some value) :
    value.Bounded :=
  read?_keeps kept_bounded read

end EdgeGateway.Json

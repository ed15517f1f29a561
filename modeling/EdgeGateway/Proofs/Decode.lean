import EdgeGateway.Decode.Json
import Mathlib.Data.List.Forall2

/-!
# What typed reading accepts

A record is read if each of its fields is, and a list if each of its items is. What a field yields
hangs on the first member of its name and on nothing else.
-/

namespace EdgeGateway.Decode

/-! ### Parts -/

theorem Part.ap_eq_ok {α β : Type} {f : Part (α → β)} {a : Part α} {b : β} :
    f.ap a = .ok b ↔ ∃ g x, f = .ok g ∧ a = .ok x ∧ g x = b := by
  cases f <;> cases a <;> simp [Part.ap]

section Fields
variable {α : Type}

theorem mapError_eq_ok {ε ε' : Type} {e : Except ε α} {f : ε → ε'} {a : α} :
    e.mapError f = .ok a ↔ e = .ok a := by
  cases e <;> simp [Except.mapError]

theorem find?_zipIdx_named (members : List (String × Json)) (name : String) (start : Nat) :
    ((members.zipIdx start).find? (·.1.1 = name)).map (·.1.2) = Json.lookup name members := by
  induction members generalizing start with
  | nil => rfl
  | cons member rest ih =>
    rw [List.zipIdx_cons, Json.lookup, List.find?_cons, List.find?_cons]
    by_cases here : member.1 = name
    · simp [here]
    · simpa [here, Json.lookup] using ih (start + 1)

/-- What a field yields, given the first member of its name. -/
def Yields (read : Json → Result α) (absent : Absent α) : Option Json → α → Prop
  | some v, a => read v = .ok a
  | none, a => absent = .named a ∨ absent = .anywhere a

theorem field_eq_ok {name : String} {size : Nat} {members : List (String × Json)} {index : Nat} {key : String}
    {read : Json → Result α} {absent : Absent α} {a : α} :
    ({ name, size, content := .inl members } : Record Json).field index key read absent = .ok a ↔
      Yields read absent (Json.lookup key members) a := by
  unfold Record.field
  rw [← find?_zipIdx_named members key 0]
  dsimp only
  cases members.zipIdx.find? (·.1.1 = key) with
  | some found => simp only [mapError_eq_ok, Option.map_some, Yields]
  | none => cases absent <;> simp [Yields]

end Fields

/-! ### Records and lists -/

theorem record_object_eq_ok {α : Type} {name : String} {size : Nat} {read : Record Json → Part α}
    {members : List (String × Json)} {a : α} :
    json.record name size read (.object members) = .ok a ↔
      read { name, size, content := .inl members } = .ok a :=
  mapError_eq_ok

theorem readItems_eq_ok {α : Type} {read : Json → Result α} {items : List Json} {as : List α}
    {index : Nat} :
    Format.readItems read index items = .ok as ↔ List.Forall₂ (fun v a => read v = .ok a) items as := by
  induction items generalizing index as with
  | nil => simp [Format.readItems, eq_comm]
  | cons v rest ih =>
    unfold Format.readItems
    cases first : read v with
    | error fault =>
      simp only [Except.mapError, bind, Except.bind, reduceCtorEq, false_iff]
      intro all
      cases all with
      | cons here _ => rw [first] at here; cases here
    | ok a =>
      cases others : Format.readItems read (index + 1) rest with
      | error fault =>
        simp only [Except.mapError, bind, Except.bind, reduceCtorEq, false_iff]
        intro all
        cases all with
        | cons _ later =>
          rw [ih.mpr later] at others
          cases others
      | ok as' =>
        have later := ih.mp others
        simp only [Except.mapError, bind, Except.bind, pure, Except.pure, Except.ok.injEq]
        constructor
        · rintro rfl
          exact .cons first later
        · intro all
          cases all with
          | @cons _ b _ bs here rest_read =>
            rw [first, Except.ok.injEq] at here
            rw [ih.mpr rest_read, Except.ok.injEq] at others
            rw [here, others]

theorem list_array_eq_ok {α : Type} {read : Json → Result α} {items : List Json} {as : List α} :
    json.list read (.array items) = .ok as ↔ List.Forall₂ (fun v a => read v = .ok a) items as :=
  readItems_eq_ok

/-! ### Scalars -/

theorem word_eq_ok {bits n : Nat} {v : Json} :
    json.word bits v = .ok n ↔ v = .ofNat n ∧ n < pow2 bits := by
  match v with
  | .number (.int i) =>
    show (if 0 ≤ i ∧ i < pow2 bits then Except.ok i.toNat else Except.error _) = .ok n ↔ _
    simp only [Json.ofNat, Json.number.injEq, Json.Number.int.injEq]
    split
    next range =>
      rw [Except.ok.injEq]
      omega
    next range =>
      simp only [reduceCtorEq, false_iff]
      omega
  | .number (.double _) | .null | .bool _ | .string _ | .array _ | .object _ =>
    simp [json, jsonWord, typeFault, Json.ofNat]

theorem double_eq_ok {v : Json} {d : Double} :
    json.double v = .ok d ↔ ∃ n : Json.Number, v = .number n ∧ n.toDouble = d := by
  cases v <;> simp [json, typeFault]

theorem string_eq_ok {v : Json} {s : String} : json.string v = .ok s ↔ v = .string s := by
  cases v <;> simp [json, Format.string, typeFault]

theorem optional_eq_ok {α : Type} {read : Json → Result α} {v : Json} (present : v ≠ .null)
    {a? : Option α} : json.optional read v = .ok a? ↔ ∃ a, read v = .ok a ∧ some a = a? := by
  have shown : json.isAbsent v = false := by
    cases v with
    | null => exact (present rfl).elim
    | bool | number | string | array | object => rfl
  rw [Format.optional, shown, if_neg Bool.false_ne_true]
  cases read v <;> simp [Except.map]

end EdgeGateway.Decode

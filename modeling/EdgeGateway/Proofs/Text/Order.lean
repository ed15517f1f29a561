import EdgeGateway.Text.Order
import Mathlib.Data.String.Basic

/-!
# Order of texts

`Text.lt` is the order that strings have in the library, so it is a strict linear order. UTF-8 keeps the
order of characters, so texts are ordered as their bytes are.
-/

namespace EdgeGateway.Text

theorem before_iff {as bs : List Char} : before as bs = true ↔ as < bs := by
  induction as generalizing bs with
  | nil => cases bs <;> simp [before]
  | cons a as ih =>
    cases bs with
    | nil => simp [before]
    | cons b bs =>
      rw [List.cons_lt_cons_iff, before]
      by_cases same : a = b
      · subst same
        simp [ih]
      · rw [if_neg same, decide_eq_true_iff]
        exact ⟨.inl, fun either => either.resolve_right fun both => same both.1⟩

theorem lt_iff {a b : String} : lt a b = true ↔ a < b := by
  rw [lt, before_iff, String.lt_iff_toList_lt]

/-! ### Bytes -/

/-- The bytes of a text in UTF-8. -/
def bytes (s : String) : List UInt8 := s.toUTF8.data.toList

theorem bytes_eq (s : String) : bytes s = s.toList.flatMap String.utf8EncodeChar := by
  rw [bytes, String.toUTF8, ← s.ofList_toList, String.toByteArray_ofList, List.utf8Encode,
    List.toList_data_toByteArray, String.toList_ofList]

theorem cons_lt_cons {m n : Nat} {as bs : List UInt8} (left : m < 256) (right : n < 256)
    (le : m ≤ n) (later : m = n → as < bs) : UInt8.ofNat m :: as < UInt8.ofNat n :: bs := by
  rw [List.cons_lt_cons_iff, UInt8.lt_iff_toNat_lt, UInt8.toNat_ofNat_of_lt' left,
    UInt8.toNat_ofNat_of_lt' right]
  exact (Nat.lt_or_eq_of_le le).imp_right fun same => ⟨congrArg _ same, later same⟩

/-- The bytes of a smaller character come first, whatever follows them. -/
theorem encode_lt {c d : Char} (before : c < d) (as bs : List UInt8) :
    String.utf8EncodeChar c ++ as < String.utf8EncodeChar d ++ bs := by
  have less : c.val.toNat < d.val.toNat := before
  have bound : d.val.toNat < 0x110000 := by
    have valid := d.valid
    unfold UInt32.isValidChar Nat.isValidChar at valid
    omega
  unfold String.utf8EncodeChar
  dsimp only
  generalize c.val.toNat = m at less ⊢
  generalize d.val.toNat = n at less bound ⊢
  -- Of two lengths the longer one begins with a greater byte; one length is compared digit by digit.
  repeat' split
  all_goals
    repeat
      first
      | exact absurd less (by omega)
      | refine cons_lt_cons (by omega) (by omega) (by omega) fun same => ?_

theorem flatMap_encode_lt {as bs : List Char} (before : as < bs) :
    as.flatMap String.utf8EncodeChar < bs.flatMap String.utf8EncodeChar := by
  induction as generalizing bs with
  | nil =>
    cases bs with
    | nil => exact absurd before (List.lt_irrefl _)
    | cons b bs =>
      rw [List.flatMap_nil, List.flatMap_cons]
      cases encoded : String.utf8EncodeChar b with
      | nil => exact absurd encoded String.utf8EncodeChar_ne_nil
      | cons => exact List.nil_lt_cons _ _
  | cons a as ih =>
    cases bs with
    | nil => exact absurd before (List.not_lt_nil _)
    | cons b bs =>
      rw [List.flatMap_cons, List.flatMap_cons]
      rcases List.cons_lt_cons_iff.mp before with less | ⟨rfl, later⟩
      · exact encode_lt less _ _
      · exact List.append_left_lt (ih later)

theorem lt_iff_bytes_lt {a b : String} : a < b ↔ bytes a < bytes b := by
  have forward {a b : String} (before : a < b) : bytes a < bytes b := by
    rw [bytes_eq, bytes_eq]
    exact flatMap_encode_lt (String.lt_iff_toList_lt.mp before)
  refine ⟨forward, fun before => ?_⟩
  rcases lt_trichotomy a b with less | rfl | greater
  · exact less
  · exact absurd before (List.lt_irrefl _)
  · exact absurd before (List.lt_asymm (forward greater))

end EdgeGateway.Text

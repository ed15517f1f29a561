import EdgeGateway.Proofs.Adapter.Violations
import EdgeGateway.Proofs.Double

/-!
# What a satisfied schema tells

A value that satisfies a schema has its type and keeps its bounds, and the values below it satisfy
what is declared for them.
-/

namespace EdgeGateway.Schema

section Satisfied
variable {kws : List (String × Json)}

theorem Satisfies.hasType {value : Json} {type : String} (satisfied : Satisfies value (.object kws))
    (given : Json.lookup "type" kws = some (.string type)) : HasType value type := by
  by_contra other
  exact (satisfies_iff.mp satisfied).1 [type]
    { allowed := .one given
      named := List.cons_ne_nil _ _
      other := fun t listed => (List.mem_singleton.mp listed).symm ▸ other }

theorem mem_of_lookup {members : List (String × Json)} {name : String} {value : Json}
    (present : Json.lookup name members = some value) : (name, value) ∈ members := by
  obtain ⟨member, found, rfl⟩ := Option.map_eq_some_iff.mp present
  have named : member.1 = name := by simpa using List.find?_some found
  exact named ▸ List.mem_of_find?_eq_some found

theorem Satisfies.member {members : List (String × Json)} {name : String} {value declared : Json}
    (satisfied : Satisfies (.object members) (.object kws))
    (declares : Declares kws name declared) (present : Json.lookup name members = some value) :
    Satisfies value declared :=
  (satisfies_iff.mp satisfied).2.2 _
    (mem_below_object.mpr ⟨name, rfl, mem_of_lookup present, declares⟩)

theorem Satisfies.item {items : List Json} {item declared : Json}
    (satisfied : Satisfies (.array items) (.object kws))
    (declares : Json.lookup "items" kws = some declared) (present : item ∈ items) :
    Satisfies item declared := by
  obtain ⟨i, there⟩ := List.mem_iff_getElem?.mp present
  exact (satisfies_iff.mp satisfied).2.2 _ (mem_below_array.mpr ⟨i, rfl, there, declares⟩)

theorem Satisfies.required {members : List (String × Json)} {names : List Json} {name : String}
    (satisfied : Satisfies (.object members) (.object kws))
    (given : Json.lookup "required" kws = some (.array names)) (listed : .string name ∈ names) :
    ∃ value, Json.lookup name members = some value := by
  by_contra absent
  have missing : name ∉ members.map Prod.fst := by
    intro there
    obtain ⟨member, present, named⟩ := List.mem_map.mp there
    have found : (members.find? (·.1 = name)).isSome = true :=
      List.find?_isSome.mpr ⟨member, present, decide_eq_true named⟩
    obtain ⟨other, there⟩ := Option.isSome_iff_exists.mp found
    exact absent ⟨other.2, by rw [Json.lookup, there]; rfl⟩
  exact (satisfies_iff.mp satisfied).2.1 _ (.required given listed missing)

theorem Satisfies.minimum {n bound : Json.Number}
    (satisfied : Satisfies (.number n) (.object kws))
    (given : Json.lookup "minimum" kws = some (.number bound)) :
    n.toDouble.lt bound.toDouble = false := by
  by_contra below
  exact (satisfies_iff.mp satisfied).2.1 _
    (.minimum ⟨bound, given, rfl⟩ (Bool.not_eq_false _ ▸ below))

theorem Satisfies.maximum {n bound : Json.Number}
    (satisfied : Satisfies (.number n) (.object kws))
    (given : Json.lookup "maximum" kws = some (.number bound)) :
    bound.toDouble.lt n.toDouble = false := by
  by_contra above
  exact (satisfies_iff.mp satisfied).2.1 _
    (.maximum ⟨bound, given, rfl⟩ (Bool.not_eq_false _ ▸ above))

/-! ### Bounds on integers -/

/-- Bounds of less than 53 bits hold of the integers themselves, although doubles are compared. -/
theorem Satisfies.int_minimum {i bound : Int}
    (satisfied : Satisfies (.number (.int i)) (.object kws))
    (given : Json.lookup "minimum" kws = some (.number (.int bound)))
    (small : bound.natAbs < pow2 53) : bound ≤ i := by
  by_contra below
  have less : (Double.ofInt i).lt (.ofInt bound) = true :=
    Double.ofInt_lt_small small (Int.not_le.mp below)
  exact Bool.false_ne_true ((satisfied.minimum given).symm.trans less)

theorem Satisfies.int_maximum {i bound : Int}
    (satisfied : Satisfies (.number (.int i)) (.object kws))
    (given : Json.lookup "maximum" kws = some (.number (.int bound)))
    (small : bound.natAbs < pow2 53) : i ≤ bound := by
  by_contra above
  have less : (Double.ofInt bound).lt (.ofInt i) = true :=
    Double.small_lt_ofInt small (Int.not_le.mp above)
  exact Bool.false_ne_true ((satisfied.maximum given).symm.trans less)

end Satisfied

end EdgeGateway.Schema

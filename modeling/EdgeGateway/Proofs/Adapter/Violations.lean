import EdgeGateway.Proofs.Adapter.Schema

/-!
# The violations of a schema

The values of a configuration that a schema has a say about are those that `Reaches` leads to, by
declared properties and items. `checkAt_perm` takes the checker apart at one value, into the
mismatches there and the checks below, and `check_exact` says what a whole check reports: at every
value that is reached the keywords it breaks, each once, and nothing else.
-/

namespace EdgeGateway.Schema

/-! ### Where a violation is reported -/

/-- A mismatch at a value, reported. One about a member that is not there, or not declared, is
reported at that member. -/
def Mismatch.violation (path : Path) (m : Mismatch) : Violation :=
  ⟨path ++ (m.name?.map Step.member).toList, m⟩

/-- The value that a violation is about. -/
def Violation.about (v : Violation) : Path :=
  if v.mismatch.name?.isSome then v.path.dropLast else v.path

@[simp] theorem about_violation (path : Path) (m : Mismatch) : (m.violation path).about = path := by
  unfold Mismatch.violation Violation.about
  cases m.name? <;> simp

theorem pathText_concat (path : Path) (step : Step) :
    pathText (path ++ [step]) = pathText path ++ step.text := by
  rw [pathText, pathText, List.map_append, String.join_append, List.map_singleton,
    String.append_assoc]
  simp [String.join]

theorem field_violation (path : Path) (m : Mismatch) :
    (m.violation path).fault.field = pathText path ++ m.name?.elim "" ("." ++ ·) := by
  cases named : m.name? with
  | none => simp [Violation.fault, Mismatch.violation, named]
  | some name =>
    simp only [Violation.fault, Mismatch.violation, named, Option.map_some, Option.toList_some,
      pathText_concat, Option.elim_some, Step.text]
    rfl

/-! ### The values a schema has a say about -/

/-- By declared properties and items, and not through a value of another type. -/
inductive Reaches (config schema : Json) : Path → Json → Json → Prop
  | root : Reaches config schema [] config schema
  | member {path : Path} {members kws : List (String × Json)} {name : String} {child declared : Json}
      (here : Reaches config schema path (.object members) (.object kws))
      (typed : ∀ types, ¬ TypeFails kws (.object members) types)
      (present : (name, child) ∈ members) (declares : Declares kws name declared) :
    Reaches config schema (path ++ [.member name]) child declared
  | item {path : Path} {items : List Json} {kws : List (String × Json)} {i : Nat}
      {child declared : Json} (here : Reaches config schema path (.array items) (.object kws))
      (typed : ∀ types, ¬ TypeFails kws (.array items) types) (present : items[i]? = some child)
      (declares : Json.lookup "items" kws = some declared) :
    Reaches config schema (path ++ [.item i]) child declared

/-- The values right below a value, each with the schema declared for it. -/
def declaredBelow (kws : List (String × Json)) : Json → List (Step × Json × Json)
  | .object members => members.filterMap fun (name, child) =>
      (property? name kws).map fun declared => (.member name, child, declared)
  | .array items =>
    match Json.lookup "items" kws with
    | some declared => items.zipIdx.map fun (child, i) => (.item i, child, declared)
    | none => []
  | _ => []

section Below
variable {kws : List (String × Json)} {step : Step} {child declared : Json}

theorem mem_below_object {members : List (String × Json)} :
    (step, child, declared) ∈ declaredBelow kws (.object members) ↔
      ∃ name, step = .member name ∧ (name, child) ∈ members ∧ Declares kws name declared := by
  simp only [declaredBelow, List.mem_filterMap, Option.map_eq_some_iff, Prod.mk.injEq, Prod.exists,
    property?_eq_some]
  constructor
  · rintro ⟨name, _, there, _, declares, rfl, rfl, rfl⟩
    exact ⟨name, rfl, there, declares⟩
  · rintro ⟨name, rfl, there, declares⟩
    exact ⟨name, child, there, declared, declares, rfl, rfl, rfl⟩

theorem mem_below_array {items : List Json} :
    (step, child, declared) ∈ declaredBelow kws (.array items) ↔
      ∃ i, step = .item i ∧ items[i]? = some child ∧ Json.lookup "items" kws = some declared := by
  unfold declaredBelow
  cases Json.lookup "items" kws with
  | none => simp
  | some schema =>
    simp only [List.mem_map, List.mem_zipIdx_iff_getElem?, Prod.mk.injEq, Prod.exists,
      Option.some.injEq]
    constructor
    · rintro ⟨_, i, there, rfl, rfl, rfl⟩
      exact ⟨i, rfl, there, rfl⟩
    · rintro ⟨i, rfl, there, rfl⟩
      exact ⟨child, i, there, rfl, rfl, rfl⟩

theorem below_smaller {value : Json} {c : Step × Json × Json} (there : c ∈ declaredBelow kws value) :
    sizeOf c.2.1 < sizeOf value := by
  obtain ⟨step, child, declared⟩ := c
  match value with
  | .object members =>
    obtain ⟨name, _, present, _⟩ := mem_below_object.mp there
    have smaller := List.sizeOf_lt_of_mem present
    simp only [Prod.mk.sizeOf_spec, Json.object.sizeOf_spec] at smaller ⊢
    omega
  | .array items =>
    obtain ⟨i, _, present, _⟩ := mem_below_array.mp there
    have smaller := List.sizeOf_lt_of_mem (List.mem_of_getElem? present)
    simp only [Json.array.sizeOf_spec]
    omega
  | .null | .bool _ | .number _ | .string _ => exact (List.not_mem_nil there).elim

/-- Induction over a configuration from the values below to the value above. -/
theorem below_induction {motive : Json → Prop}
    (above : ∀ value, (∀ kws, ∀ c ∈ declaredBelow kws value, motive c.2.1) → motive value) (value : Json) :
    motive value :=
  above value fun _ c _ => below_induction above c.2.1
termination_by sizeOf value
decreasing_by exact below_smaller ‹_›

theorem below_proper {value : Json} {c : Step × Json × Json} (proper : value.Proper)
    (there : c ∈ declaredBelow kws value) : c.2.1.Proper := by
  obtain ⟨step, child, declared⟩ := c
  cases proper with
  | object _ each =>
    obtain ⟨name, _, present, _⟩ := mem_below_object.mp there
    exact each _ present
  | array each =>
    obtain ⟨i, _, present, _⟩ := mem_below_array.mp there
    exact each _ (List.mem_of_getElem? present)
  | null | bool | number | string => exact (List.not_mem_nil there).elim

/-- No two values below one value are reached by the same step. -/
theorem below_nodup {value : Json} (proper : value.Proper) :
    ((declaredBelow kws value).map Prod.fst).Nodup := by
  cases proper with
  | @object members ascending each =>
    have distinct : (members.map fun member => Step.member member.1).Nodup := by
      have names := ascending.nodup.map (f := Step.member) fun _ _ => Step.member.inj
      rwa [Table.keys, List.map_map] at names
    refine List.Nodup.sublist ?_ distinct
    clear ascending each distinct
    induction members with
    | nil => exact .slnil
    | cons member rest ih =>
      cases found : property? member.1 kws with
      | none => simpa [declaredBelow, found] using ih.cons _
      | some schema => simpa [declaredBelow, found] using ih
  | @array items each =>
    cases given : Json.lookup "items" kws with
    | none => simp [declaredBelow, given]
    | some declared =>
      have places := (List.nodup_range (n := items.length)).map (f := Step.item)
        fun _ _ => Step.item.inj
      rw [List.range_eq_range', ← List.zipIdx_map_snd 0 items, List.map_map] at places
      simp only [declaredBelow, given, List.map_map]
      exact places
  | null | bool | number | string => exact List.nodup_nil

end Below

/-! ### The checker at one value -/

section Check
variable {kws : List (String × Json)}

theorem checkItems_eq (path : Path) (schema : Json) (items : List Json) (start : Nat) :
    checkItems path schema start items =
      (items.zipIdx start).flatMap fun (item, i) => checkAt (path ++ [.item i]) item schema := by
  induction items generalizing start with
  | nil => simp [checkItems]
  | cons item rest ih => rw [checkItems, ih, List.zipIdx_cons, List.flatMap_cons]

/-- A member is not declared and reported, or checked, or neither. -/
theorem checkMembers_perm (path : Path) (members : List (String × Json)) :
    (checkMembers path kws members).Perm
      ((undeclaredNames members kws).map (fun name => Mismatch.violation path (.additional name)) ++
        (declaredBelow kws (.object members)).flatMap fun c => checkAt (path ++ [c.1]) c.2.1 c.2.2) := by
  induction members with
  | nil => simp [checkMembers, undeclaredNames, declaredBelow]
  | cons member rest ih =>
    obtain ⟨name, child⟩ := member
    rw [checkMembers]
    cases found : property? name kws with
    | some declared =>
      have extra : undeclaredNames ((name, child) :: rest) kws = undeclaredNames rest kws := by
        simp [undeclaredNames, found]
      have lower : declaredBelow kws (.object ((name, child) :: rest)) =
          (.member name, child, declared) :: declaredBelow kws (.object rest) := by
        simp [declaredBelow, found]
      rw [extra, lower, List.flatMap_cons]
      exact (ih.append_left _).trans (List.perm_append_comm_assoc _ _ _)
    | none =>
      have lower : declaredBelow kws (.object ((name, child) :: rest)) = declaredBelow kws (.object rest) := by
        simp [declaredBelow, found]
      rw [lower]
      by_cases closed : isClosed kws = true
      · have extra : undeclaredNames ((name, child) :: rest) kws =
            name :: undeclaredNames rest kws := by
          simp [undeclaredNames, found, closed]
        rw [extra]
        simp only [closed, if_true]
        exact ih.cons _
      · have extra : undeclaredNames ((name, child) :: rest) kws = undeclaredNames rest kws := by
          simp [undeclaredNames, closed]
        rw [extra]
        simpa [closed] using ih

theorem checkAt_free {path : Path} {value schema : Json}
    (noKeywords : ∀ kws, schema ≠ .object kws) : checkAt path value schema = [] := by
  cases schema with
  | object kws => exact (noKeywords kws rfl).elim
  | null | bool | number | string | array => cases value <;> rfl

theorem checkAt_type {path : Path} {value : Json} {types : List String}
    (fails : TypeFails kws value types) :
    checkAt path value (.object kws) =
      [Mismatch.violation path (.type (typeName value) types)] := by
  obtain ⟨rfl, named, other⟩ := typeFails_iff.mp fails
  have wrong : (!(allowedTypes kws).isEmpty && !(allowedTypes kws).any (hasType value)) = true := by
    simp [named, other]
  unfold checkAt
  rw [if_pos wrong]
  simp [Mismatch.violation, Mismatch.name?, Mismatch.required?, Mismatch.additional?]

theorem map_violation (path : Path) {ms : List Mismatch} (unnamed : ∀ m ∈ ms, m.name? = none) :
    ms.map (·.violation path) = ms.map (⟨path, ·⟩) := by
  refine List.map_congr_left fun m there => ?_
  simp [Mismatch.violation, unnamed m there]

/-- What is not an object breaks no keyword about names. -/
theorem ownFaults_violation (path : Path) {value : Json}
    (plain : ∀ members, value ≠ .object members) :
    (ownFaults kws value).map (·.violation path) = (ownFaults kws value).map (⟨path, ·⟩) := by
  refine map_violation path fun m there => ?_
  cases mem_ownFaults.mp there with
  | required | additional => exact (plain _ rfl).elim
  | enumeration | minimum | maximum | minLength | maxLength | pattern | minItems | maxItems => rfl

theorem enumFaults_violation (path : Path) (value : Json) :
    (enumFaults value kws).map (·.violation path) = (enumFaults value kws).map (⟨path, ·⟩) := by
  refine map_violation path fun m there => ?_
  obtain ⟨_, _, _, rfl⟩ := mem_enumFaults.mp there
  rfl

/-- At a value of an allowed type: the mismatches there and the checks of the values below. -/
theorem checkAt_perm {path : Path} {value : Json} (typed : ∀ types, ¬ TypeFails kws value types) :
    (checkAt path value (.object kws)).Perm
      ((ownFaults kws value).map (·.violation path) ++
        (declaredBelow kws value).flatMap fun c => checkAt (path ++ [c.1]) c.2.1 c.2.2) := by
  have right : ¬ (!(allowedTypes kws).isEmpty && !(allowedTypes kws).any (hasType value)) = true := by
    intro wrong
    rw [Bool.and_eq_true, Bool.not_eq_true', Bool.not_eq_true'] at wrong
    exact typed _ (typeFails_iff.mpr ⟨rfl, by simpa using wrong.1, wrong.2⟩)
  match value with
  | .object members =>
    rw [checkAt, if_neg right]
    simp only [ownFaults, List.append_nil, List.map_append, enumFaults_violation, List.map_map,
      List.append_assoc]
    exact .append_left _ (.append_left _ (checkMembers_perm path members))
  | .array items =>
    rw [ownFaults_violation path (by simp)]
    simp only [checkAt, if_neg right, ownFaults, List.append_nil]
    refine .append_left _ (.of_eq ?_)
    cases given : Json.lookup "items" kws with
    | none => simp [declaredBelow, given]
    | some declared => simp [declaredBelow, given, checkItems_eq, List.flatMap_map]
  | .null | .bool _ | .number _ | .string _ =>
    rw [ownFaults_violation path (by simp)]
    simp only [checkAt, if_neg right, ownFaults, declaredBelow, List.flatMap_nil, List.append_nil]
    exact .refl _

theorem mem_checkAt {path : Path} {value : Json} {v : Violation}
    (typed : ∀ types, ¬ TypeFails kws value types) :
    v ∈ checkAt path value (.object kws) ↔
      (∃ m ∈ ownFaults kws value, m.violation path = v) ∨
        ∃ c ∈ declaredBelow kws value, v ∈ checkAt (path ++ [c.1]) c.2.1 c.2.2 := by
  rw [(checkAt_perm typed).mem_iff, List.mem_append, List.mem_map, List.mem_flatMap]

end Check

/-! ### Satisfaction -/

/-- What the keywords ask of the values below, all at once. -/
theorem satisfies_iff {kws : List (String × Json)} {value : Json} :
    Satisfies value (.object kws) ↔
      (∀ types, ¬ TypeFails kws value types) ∧ (∀ m, ¬ Breaks kws value m) ∧
        ∀ c ∈ declaredBelow kws value, Satisfies c.2.1 c.2.2 := by
  constructor
  · rintro (free | ⟨typed, kept, properties, items⟩)
    · exact (free kws rfl).elim
    · refine ⟨typed, kept, ?_⟩
      rintro ⟨step, child, declared⟩ there
      match value with
      | .object members =>
        obtain ⟨name, _, present, declares⟩ := mem_below_object.mp there
        exact properties members name child declared rfl present declares
      | .array entries =>
        obtain ⟨i, _, present, declares⟩ := mem_below_array.mp there
        exact items entries child declared rfl (List.mem_of_getElem? present) declares
      | .null | .bool _ | .number _ | .string _ => exact (List.not_mem_nil there).elim
  · rintro ⟨typed, kept, lower⟩
    refine .keywords typed kept ?_ ?_
    · rintro members name child declared rfl present declares
      exact lower _ (mem_below_object.mpr ⟨name, rfl, present, declares⟩)
    · rintro entries child declared rfl present declares
      obtain ⟨i, there⟩ := List.mem_iff_getElem?.mp present
      exact lower _ (mem_below_array.mpr ⟨i, rfl, there, declares⟩)

theorem checkAt_eq_nil_iff (value : Json) :
    ∀ path schema, checkAt path value schema = [] ↔ Satisfies value schema := by
  induction value using below_induction with
  | above value ih =>
    intro path schema
    match schema with
    | .object kws =>
      by_cases typed : ∀ types, ¬ TypeFails kws value types
      · have own : ownFaults kws value = [] ↔ ∀ m, ¬ Breaks kws value m := by
          simp only [List.eq_nil_iff_forall_not_mem, mem_ownFaults]
        have lower : (∀ c ∈ declaredBelow kws value, checkAt (path ++ [c.1]) c.2.1 c.2.2 = []) ↔
            ∀ c ∈ declaredBelow kws value, Satisfies c.2.1 c.2.2 :=
          forall₂_congr fun c there => ih kws c there _ _
        rw [satisfies_iff, ← own, ← lower, ← List.length_eq_zero_iff, (checkAt_perm typed).length_eq,
          List.length_eq_zero_iff, List.append_eq_nil_iff, List.map_eq_nil_iff,
          List.flatMap_eq_nil_iff]
        exact ⟨fun both => ⟨typed, both⟩, And.right⟩
      · obtain ⟨types, fails⟩ := not_forall_not.mp typed
        rw [checkAt_type fails, satisfies_iff]
        exact ⟨fun none => by simp at none, fun ⟨typed, _⟩ => (typed _ fails).elim⟩
    | .null | .bool _ | .number _ | .string _ | .array _ =>
      rw [checkAt_free (by simp)]
      exact ⟨fun _ => .free (by simp), fun _ => rfl⟩

/-! ### Every violation is about a value that is reached -/

section Reached
variable {config schema : Json} {path : Path} {value : Json} {kws : List (String × Json)}

theorem Reaches.lower (here : Reaches config schema path value (.object kws))
    (typed : ∀ types, ¬ TypeFails kws value types) {c : Step × Json × Json}
    (there : c ∈ declaredBelow kws value) : Reaches config schema (path ++ [c.1]) c.2.1 c.2.2 := by
  obtain ⟨step, child, declared⟩ := c
  match value with
  | .object members =>
    obtain ⟨name, rfl, present, declares⟩ := mem_below_object.mp there
    exact .member here typed present declares
  | .array entries =>
    obtain ⟨i, rfl, present, declares⟩ := mem_below_array.mp there
    exact .item here typed present declares
  | .null | .bool _ | .number _ | .string _ => exact (List.not_mem_nil there).elim

/-- What holds of the whole configuration and is handed down holds of every value reached. -/
theorem Reaches.induction {motive : Path → Json → Json → Prop} (root : motive [] config schema)
    (lower : ∀ path value kws, Reaches config schema path value (.object kws) →
      (∀ types, ¬ TypeFails kws value types) → motive path value (.object kws) →
        ∀ c ∈ declaredBelow kws value, motive (path ++ [c.1]) c.2.1 c.2.2)
    {declared : Json} (reached : Reaches config schema path value declared) :
    motive path value declared := by
  induction reached with
  | root => exact root
  | @member _ members kws name child declared here typed present declares ih =>
    exact lower _ _ _ here typed ih (.member name, child, declared)
      (mem_below_object.mpr ⟨name, rfl, present, declares⟩)
  | @item _ entries kws i child declared here typed present declares ih =>
    exact lower _ _ _ here typed ih (.item i, child, declared)
      (mem_below_array.mpr ⟨i, rfl, present, declares⟩)

theorem Reaches.proper (proper : config.Proper) {declared : Json}
    (reached : Reaches config schema path value declared) : value.Proper := by
  refine reached.induction (motive := fun _ value _ => value.Proper) proper ?_
  intro _ _ _ _ _ above c there
  exact below_proper above there

/-- Nothing is reported about a value that the schema has no say about. -/
theorem reported_reaches (value : Json) : ∀ path declared,
    Reaches config schema path value declared → ∀ v ∈ checkAt path value declared,
      ∃ value kws, Reaches config schema v.about value (.object kws) := by
  induction value using below_induction with
  | above value ih =>
    intro path declared reached v there
    match declared with
    | .object kws =>
      by_cases typed : ∀ types, ¬ TypeFails kws value types
      · rcases (mem_checkAt typed).mp there with ⟨m, _, rfl⟩ | ⟨c, lower, inside⟩
        · exact ⟨value, kws, by rwa [about_violation]⟩
        · exact ih kws c lower _ _ (reached.lower typed lower) v inside
      · obtain ⟨types, fails⟩ := not_forall_not.mp typed
        rw [checkAt_type fails, List.mem_singleton] at there
        exact ⟨value, kws, by rwa [there, about_violation]⟩
    | .null | .bool _ | .number _ | .string _ | .array _ =>
      rw [checkAt_free (by simp)] at there
      exact (List.not_mem_nil there).elim

/-- A check reports about the value it is given and the values below that. -/
theorem prefix_about (value : Json) :
    ∀ path declared, ∀ v ∈ checkAt path value declared, path <+: v.about := by
  induction value using below_induction with
  | above value ih =>
    intro path declared v there
    match declared with
    | .object kws =>
      by_cases typed : ∀ types, ¬ TypeFails kws value types
      · rcases (mem_checkAt typed).mp there with ⟨m, _, rfl⟩ | ⟨c, lower, inside⟩
        · rw [about_violation]
        · exact (List.prefix_append _ _).trans (ih kws c lower _ _ v inside)
      · obtain ⟨types, fails⟩ := not_forall_not.mp typed
        rw [checkAt_type fails, List.mem_singleton] at there
        rw [there, about_violation]
    | .null | .bool _ | .number _ | .string _ | .array _ =>
      rw [checkAt_free (by simp)] at there
      exact (List.not_mem_nil there).elim

end Reached

/-! ### What is reported about one value -/

section Exact
variable {config schema value : Json} {path : Path} {kws : List (String × Json)}

/-- Of the checks below a value, those that report at the end of one step or further down. -/
theorem filter_below (proper : value.Proper) {c : Step × Json × Json} (there : c ∈ declaredBelow kws value) :
    ((declaredBelow kws value).flatMap fun c => checkAt (path ++ [c.1]) c.2.1 c.2.2).filter
        (fun v => path ++ [c.1] <+: v.about) =
      checkAt (path ++ [c.1]) c.2.1 c.2.2 := by
  have here : (checkAt (path ++ [c.1]) c.2.1 c.2.2).filter (fun v => path ++ [c.1] <+: v.about) =
      checkAt (path ++ [c.1]) c.2.1 c.2.2 :=
    List.filter_eq_self.mpr fun v member => decide_eq_true (prefix_about _ _ _ v member)
  have elsewhere (d : Step × Json × Json) (other : d.1 ≠ c.1) :
      (checkAt (path ++ [d.1]) d.2.1 d.2.2).filter (fun v => path ++ [c.1] <+: v.about) = [] := by
    refine List.filter_eq_nil_iff.mpr fun v member inside => ?_
    have same := List.prefix_of_prefix_length_le (prefix_about _ _ _ v member)
      (of_decide_eq_true inside) (by simp)
    exact other (by simpa using same.eq_of_length (by simp))
  have once : ((declaredBelow kws value).map Prod.fst).Nodup := below_nodup proper
  rw [List.filter_flatMap]
  generalize declaredBelow kws value = cs at there once
  induction cs with
  | nil => exact (List.not_mem_nil there).elim
  | cons d rest ih =>
    obtain ⟨fresh, once⟩ := List.nodup_cons.mp once
    rw [List.flatMap_cons]
    rcases List.mem_cons.mp there with rfl | later
    · rw [here, List.flatMap_eq_nil_iff.mpr, List.append_nil]
      intro d member
      exact elsewhere d fun same => fresh (same ▸ List.mem_map_of_mem member)
    · rw [elsewhere d fun same => fresh (same ▸ List.mem_map_of_mem later), List.nil_append]
      exact ih later once

theorem filter_own (ms : List Mismatch) (p : Path → Bool) :
    (ms.map (·.violation path)).filter (fun v => p v.about) =
      if p path then ms.map (·.violation path) else [] := by
  split
  next kept => exact List.filter_eq_self.mpr (by simp [kept])
  next left => exact List.filter_eq_nil_iff.mpr (by simp [left])

/-- A check of a value that is reached is the part of the whole check about it and what is below. -/
theorem filter_check (proper : config.Proper) {declared : Json}
    (reached : Reaches config schema path value declared) :
    ((check config schema).filter fun v => path <+: v.about).Perm (checkAt path value declared) := by
  refine reached.induction (motive := fun path value declared =>
    ((check config schema).filter fun v => path <+: v.about).Perm (checkAt path value declared)) ?_ ?_
  · simp [check]
  · intro path value kws here typed whole c there
    have narrower : ((check config schema).filter fun v => path ++ [c.1] <+: v.about) =
        ((check config schema).filter fun v => path <+: v.about).filter
          fun v => path ++ [c.1] <+: v.about := by
      rw [List.filter_filter]
      refine List.filter_congr fun v _ => ?_
      rw [← Bool.decide_and, decide_eq_decide]
      exact ⟨fun longer => ⟨longer, (List.prefix_append _ _).trans longer⟩, And.left⟩
    have longer : ¬ path ++ [c.1] <+: path := fun inside => by simpa using inside.length_le
    rw [narrower]
    refine (whole.filter _).trans (((checkAt_perm typed).filter _).trans (.of_eq ?_))
    rw [List.filter_append, filter_own _ fun about => path ++ [c.1] <+: about,
      if_neg (by simpa using longer), List.nil_append, filter_below (here.proper proper) there]

/-- The part of a check that is about the value it is given. -/
theorem filter_checkAt (typed : ∀ types, ¬ TypeFails kws value types) :
    ((checkAt path value (.object kws)).filter (·.about = path)).Perm
      ((ownFaults kws value).map (·.violation path)) := by
  refine ((checkAt_perm typed).filter _).trans (.of_eq ?_)
  rw [List.filter_append, filter_own _ (· = path), if_pos (by simp),
    List.filter_eq_nil_iff.mpr, List.append_nil]
  intro v member about
  obtain ⟨c, _, inside⟩ := List.mem_flatMap.mp member
  have longer := (prefix_about _ _ _ v inside).length_le
  rw [of_decide_eq_true about] at longer
  simp at longer

theorem filter_about (proper : config.Proper)
    (reached : Reaches config schema path value (.object kws)) :
    ((check config schema).filter (·.about = path)).Perm
      ((checkAt path value (.object kws)).filter (·.about = path)) := by
  have narrower : (check config schema).filter (·.about = path) =
      ((check config schema).filter fun v => path <+: v.about).filter (·.about = path) := by
    rw [List.filter_filter]
    refine List.filter_congr fun v _ => ?_
    rw [← Bool.decide_and, decide_eq_decide]
    exact ⟨fun same => ⟨same, same ▸ List.prefix_rfl⟩, And.left⟩
  rw [narrower]
  exact (filter_check proper reached).filter _

/-- A check finds nothing exactly if the configuration satisfies the schema. Else every violation
is about a value that the schema reaches, and about each such value there is one for its type if
that is wrong, or else one for each keyword that it breaks; the path is that of the value, with the
name behind it where the violation is about a name. -/
theorem check_exact (config schema : Json) :
    (check config schema = [] ↔ Satisfies config schema) ∧
      (∀ v ∈ check config schema, ∃ value kws, Reaches config schema v.about value (.object kws)) ∧
      (config.Proper → ∀ path value kws, Reaches config schema path value (.object kws) →
        ∃ ms : List Mismatch,
          ((check config schema).filter (·.about = path)).Perm (ms.map (·.violation path)) ∧
            (∀ types, TypeFails kws value types → ms = [.type (typeName value) types]) ∧
            ((∀ types, ¬ TypeFails kws value types) → Exactly kws value ms)) ∧
      ∀ path (m : Mismatch),
        (m.violation path).fault.field = pathText path ++ m.name?.elim "" ("." ++ ·) := by
  refine ⟨checkAt_eq_nil_iff config [] schema, reported_reaches config [] schema .root, ?_,
    field_violation⟩
  intro proper path value kws reached
  by_cases typed : ∀ types, ¬ TypeFails kws value types
  · refine ⟨ownFaults kws value, (filter_about proper reached).trans (filter_checkAt typed),
      fun types fails => (typed types fails).elim, fun _ => ownFaults_exact (reached.proper proper)⟩
  · obtain ⟨types, fails⟩ := not_forall_not.mp typed
    have reported : (checkAt path value (.object kws)).filter (·.about = path) =
        [Mismatch.type (typeName value) types].map (·.violation path) := by
      rw [checkAt_type fails]
      simp
    refine ⟨_, (filter_about proper reached).trans (.of_eq reported), fun others fails' => ?_,
      fun typed => (typed types fails).elim⟩
    rw [(typeFails_iff.mp fails).1, (typeFails_iff.mp fails').1]

end Exact

/-- A schema of two required properties, one of them an integer. -/
def portKeywords : List (String × Json) :=
  [("properties", .object [("port", .object [("type", .string "integer")])]),
    ("required", .array [.string "host", .string "port"]), ("type", .string "object")]

/-- A configuration without the one and with a text for the other. -/
def textPort : Json := .object [("port", .string "502")]

theorem textPort_proper : textPort.Proper :=
  .object (List.pairwise_singleton _ _) fun member there => by
    rw [List.mem_singleton.mp there]
    exact .string "502"

theorem check_exact_port :
    textPort.Proper ∧
      Reaches textPort (.object portKeywords) [.member "port"] (.string "502")
        (.object [("type", .string "integer")]) ∧
      TypeFails [("type", .string "integer")] (.string "502") ["integer"] ∧
      ((check textPort (.object portKeywords)).filter (·.about = [.member "port"])).Perm
        [Mismatch.violation [.member "port"] (.type "string" ["integer"])] ∧
      ∃ ms, ((check textPort (.object portKeywords)).filter (·.about = [])).Perm
        (ms.map (·.violation [])) ∧ Exactly portKeywords textPort ms := by
  have typed (types : List String) : ¬ TypeFails portKeywords textPort types := fun fails => by
    have named := (typeFails_iff.mp fails).1
    exact fails.other "object" (by rw [named]; decide) (.object _)
  have reached : Reaches textPort (.object portKeywords) [.member "port"] (.string "502")
      (.object [("type", .string "integer")]) :=
    .member .root typed List.mem_cons_self ⟨_, rfl, rfl⟩
  have fails : TypeFails [("type", .string "integer")] (.string "502") ["integer"] :=
    typeFails_iff.mpr ⟨rfl, by decide, by decide⟩
  have exact_at := (check_exact textPort (.object portKeywords)).2.2.1 textPort_proper
  obtain ⟨ms, reported, type, _⟩ := exact_at _ _ _ reached
  obtain ⟨whole, reported_whole, _, exactly⟩ := exact_at _ _ _ .root
  rw [type _ fails] at reported
  exact ⟨textPort_proper, reached, fails, reported, whole, reported_whole, exactly typed⟩

end EdgeGateway.Schema

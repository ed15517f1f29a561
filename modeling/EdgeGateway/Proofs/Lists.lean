import Mathlib.Data.List.Forall2
import Mathlib.Data.List.Induction
import Mathlib.Data.List.Nodup

/-!
# Lists

How look-ups, counts and sums over a list change when one of its elements does, how a list of
values under numbers or keys falls into those of each, and what the steps of a run yield.
-/

namespace EdgeGateway

variable {α β : Type}

theorem getElem?_concat_ne {i : Nat} (xs : List α) (x : α) (different : i ≠ xs.length) :
    (xs ++ [x])[i]? = xs[i]? := by
  rcases Nat.lt_or_gt_of_ne different with below | above
  · exact List.getElem?_append_left below
  · rw [List.getElem?_eq_none (by simp; omega), List.getElem?_eq_none (by omega)]

theorem set_of_getElem? {xs : List α} {i : Nat} {x : α} (there : xs[i]? = some x) :
    xs.set i x = xs := by
  obtain ⟨below, rfl⟩ := List.getElem?_eq_some_iff.mp there
  exact List.set_getElem_self below

theorem mem_modify {xs : List α} {i : Nat} {f : α → α} {y : α} (member : y ∈ xs.modify i f) :
    ∃ x ∈ xs, y = x ∨ y = f x := by
  obtain ⟨j, found⟩ := List.mem_iff_getElem?.mp member
  rw [List.getElem?_modify] at found
  obtain ⟨x, there, rfl⟩ := Option.map_eq_some_iff.mp found
  refine ⟨x, List.mem_of_getElem? there, ?_⟩
  split
  · exact .inr rfl
  · exact .inl rfl

theorem forall₂_modify {R : α → β → Prop} {xs : List α} {ys : List β} {i : Nat} {y : β} {f : β → β}
    (related : List.Forall₂ R xs ys) (present : ys[i]? = some y) (keep : ∀ x, R x y → R x (f y)) :
    List.Forall₂ R xs (ys.modify i f) := by
  induction related generalizing i with
  | nil => simp at present
  | cons here rest ih =>
    cases i with
    | zero =>
      simp only [List.getElem?_cons_zero, Option.some.injEq] at present
      subst present
      exact .cons (keep _ here) rest
    | succ i => exact .cons here (ih present)

theorem forall₂_getElem? {R : α → β → Prop} {xs : List α} {ys : List β} {i : Nat} {x : α}
    (related : List.Forall₂ R xs ys) (present : xs[i]? = some x) :
    ∃ y, ys[i]? = some y ∧ R x y := by
  induction related generalizing i with
  | nil => simp at present
  | @cons _ y _ _ here _ ih =>
    cases i with
    | zero =>
      simp only [List.getElem?_cons_zero, Option.some.injEq] at present
      subst present
      exact ⟨y, rfl, here⟩
    | succ i => exact ih present

theorem map_eq_of_forall₂ {γ δ : Type} {R : α → β → Prop} {S : α → γ → Prop} {f : β → δ} {g : γ → δ}
    {xs : List α} {ys : List β} {zs : List γ} (left : List.Forall₂ R xs ys)
    (right : List.Forall₂ S xs zs) (each : ∀ x y z, R x y → S x z → f y = g z) :
    ys.map f = zs.map g := by
  induction left generalizing zs with
  | nil =>
    cases right
    rfl
  | cons here _ ih =>
    cases right with
    | cons there rest => rw [List.map_cons, List.map_cons, each _ _ _ here there, ih rest]

/-- What is related to numbered elements stands in the places of their numbers. -/
theorem forall₂_zipIdx {R : α → β × Nat → Prop} {xs : List α} {ys : List β}
    (related : List.Forall₂ R xs ys.zipIdx) :
    List.Forall₂ (fun x n => R x n ∧ xs[n.2]? = some x ∧ ys[n.2]? = some n.1) xs ys.zipIdx := by
  obtain ⟨length, each⟩ := List.forall₂_iff_zip.mp related
  refine List.forall₂_iff_zip.mpr ⟨length, fun {x n} pair => ⟨each pair, ?_⟩⟩
  obtain ⟨i, place⟩ := List.mem_iff_getElem?.mp pair
  obtain ⟨here, there⟩ := List.getElem?_zip_eq_some.mp place
  rw [List.getElem?_zipIdx, Nat.zero_add] at there
  obtain ⟨y, found, rfl⟩ := Option.map_eq_some_iff.mp there
  exact ⟨here, found⟩

theorem forall₂_flatMap {γ : Type} {R : β → γ → Prop} {f : α → List β} {g : α → List γ} {xs : List α}
    (each : ∀ x ∈ xs, List.Forall₂ R (f x) (g x)) :
    List.Forall₂ R (xs.flatMap f) (xs.flatMap g) := by
  induction xs with
  | nil => exact .nil
  | cons x xs ih =>
    rw [List.flatMap_cons, List.flatMap_cons]
    exact List.rel_append (each x List.mem_cons_self)
      (ih fun x' member => each x' (List.mem_cons_of_mem x member))

/-- What a list has only once stands in one place. -/
theorem index_unique [DecidableEq α] {xs : List α} {x : α} (once : xs.count x ≤ 1) {i j : Nat}
    (here : xs[i]? = some x) (there : xs[j]? = some x) : i = j := by
  induction xs generalizing i j with
  | nil => simp at here
  | cons y rest ih =>
    have again (first : y = x) {k : Nat} (later : rest[k]? = some x) : False := by
      have counted := List.count_pos_iff.mpr (List.mem_of_getElem? later)
      rw [first, List.count_cons_self] at once
      omega
    have fewer : rest.count x ≤ 1 := Nat.le_trans List.count_le_count_cons once
    cases i with
    | zero =>
      cases j with
      | zero => rfl
      | succ j => exact (again (by simpa using here) there).elim
    | succ i =>
      cases j with
      | zero => exact (again (by simpa using there) here).elim
      | succ j => exact congrArg (· + 1) (ih fewer here there)

/-- Elements are changed in their places; an element changed twice is as if changed once. -/
theorem getElem?_foldl_modify {f : α → α} (idempotent : ∀ x, f (f x) = f x) (is : List Nat)
    (xs : List α) (j : Nat) :
    (is.foldl (fun xs i => xs.modify i f) xs)[j]? = if j ∈ is then xs[j]?.map f else xs[j]? := by
  induction is generalizing xs with
  | nil => simp
  | cons i is ih =>
    rw [List.foldl_cons, ih, List.getElem?_modify]
    by_cases here : i = j
    · cases xs[j]? <;> simp [here, idempotent]
    · simp [here, Ne.symm here]

/-- Counting in one of two related lists is counting pairs. -/
theorem countP_zip {R : α → β → Prop} {xs : List α} {ys : List β} {p : β → Bool} {q : α × β → Bool}
    (related : List.Forall₂ R xs ys) (same : ∀ x y, R x y → p y = q (x, y)) :
    ys.countP p = (xs.zip ys).countP q := by
  induction related with
  | nil => rfl
  | cons here _ ih => simp only [List.zip_cons_cons, List.countP_cons, ih, same _ _ here]

theorem countP_modify {xs : List α} {i : Nat} {x : α} (p : α → Bool) (f : α → α)
    (present : xs[i]? = some x) :
    (xs.modify i f).countP p + (if p x then 1 else 0) = xs.countP p + if p (f x) then 1 else 0 := by
  induction xs generalizing i with
  | nil => simp at present
  | cons y rest ih =>
    cases i with
    | zero =>
      simp only [List.getElem?_cons_zero, Option.some.injEq] at present
      subst present
      simp only [List.modify_zero_cons, List.countP_cons]
      omega
    | succ i =>
      have below := ih present
      simp only [List.modify_succ_cons, List.countP_cons]
      omega

/-- A change that the predicate does not see leaves the count alone. -/
theorem countP_modify_same {xs : List α} {i : Nat} {x : α} {p : α → Bool} {f : α → α}
    (present : xs[i]? = some x) (same : p (f x) = p x) :
    (xs.modify i f).countP p = xs.countP p := by
  have count := countP_modify p f present
  rw [same] at count
  omega

/-- A change of an element that is left out before and after. -/
theorem filter_modify_out {xs : List α} {i : Nat} {x : α} {p : α → Bool} {f : α → α}
    (present : xs[i]? = some x) (before : p x = false) (after : p (f x) = false) :
    (xs.modify i f).filter p = xs.filter p := by
  induction xs generalizing i with
  | nil => simp at present
  | cons y rest ih =>
    cases i with
    | zero =>
      simp only [List.getElem?_cons_zero, Option.some.injEq] at present
      subst present
      simp [before, after]
    | succ i => simp only [List.modify_succ_cons, List.filter_cons, ih present]

/-- The sum of a measure over the elements with a property that the change keeps. -/
theorem sum_filter_modify {xs : List α} {i : Nat} {x : α} (p : α → Bool) (g : α → Nat) (f : α → α)
    (present : xs[i]? = some x) (same : p (f x) = p x) :
    (((xs.modify i f).filter p).map g).foldr (· + ·) 0 + (if p x then g x else 0) =
      ((xs.filter p).map g).foldr (· + ·) 0 + if p x then g (f x) else 0 := by
  induction xs generalizing i with
  | nil => simp at present
  | cons y rest ih =>
    cases i with
    | zero =>
      simp only [List.getElem?_cons_zero, Option.some.injEq] at present
      subst present
      simp only [List.modify_zero_cons, List.filter_cons, same]
      split
      · simp only [List.map_cons, List.foldr_cons]
        omega
      · rfl
    | succ i =>
      have below := ih present
      simp only [List.modify_succ_cons, List.filter_cons]
      split
      · simp only [List.map_cons, List.foldr_cons]
        omega
      · exact below

/-- A separator divides a list in one way only if it does not occur again. -/
theorem append_separator_inj {separator : α} {xs ys xs' ys' : List α} (free : separator ∉ ys)
    (free' : separator ∉ ys') (same : xs ++ separator :: ys = xs' ++ separator :: ys') :
    xs = xs' ∧ ys = ys' := by
  have longer {zs ws us : List α} (free : separator ∉ ws)
      (same : separator :: ws = us ++ separator :: zs) : us = [] ∧ ws = zs := by
    cases us with
    | nil => exact ⟨rfl, (List.cons.inj same).2⟩
    | cons u us =>
      rw [(List.cons.inj same).2] at free
      exact absurd (List.mem_append_right us List.mem_cons_self) free
  rcases List.append_eq_append_iff.mp same with ⟨us, rfl, rest⟩ | ⟨us, rfl, rest⟩
  · obtain ⟨rfl, rfl⟩ := longer free rest
    exact ⟨(List.append_nil xs).symm, rfl⟩
  · obtain ⟨rfl, rfl⟩ := longer free' rest
    exact ⟨List.append_nil xs', rfl⟩

/-- The parts between separators have only what the list has. -/
theorem mem_of_mem_splitOn [BEq α] {separator x : α} {xs part : List α}
    (member : part ∈ xs.splitOn separator) (inside : x ∈ part) : x ∈ xs := by
  induction xs generalizing part with
  | nil =>
    rw [List.splitOn_nil, List.mem_singleton] at member
    exact member ▸ inside
  | cons y xs ih =>
    have split : (y :: xs).splitOn separator = if y == separator then [] :: xs.splitOn separator
        else (xs.splitOn separator).modifyHead (y :: ·) := List.splitOnP_cons_eq_if_modifyHead y xs
    rw [split] at member
    split at member
    · rcases List.mem_cons.mp member with rfl | later
      · cases inside
      · exact List.mem_cons_of_mem y (ih later inside)
    · cases parts : xs.splitOn separator with
      | nil => simp [parts] at member
      | cons first rest =>
        rw [parts, List.modifyHead_cons] at member
        rcases List.mem_cons.mp member with rfl | later
        · rcases List.mem_cons.mp inside with rfl | there
          · exact List.mem_cons_self
          · exact List.mem_cons_of_mem y (ih (parts ▸ List.mem_cons_self) there)
        · exact List.mem_cons_of_mem y (ih (parts ▸ List.mem_cons_of_mem first later) inside)

/-! ### Values under numbers -/

/-- The values with a number, in order. -/
def valuesAt (xs : List (Nat × α)) (i : Nat) : List α := (xs.filter (·.1 = i)).map Prod.snd

@[simp] theorem valuesAt_append (xs ys : List (Nat × α)) (i : Nat) :
    valuesAt (xs ++ ys) i = valuesAt xs i ++ valuesAt ys i := by
  simp [valuesAt]

theorem valuesAt_map (i : Nat) (values : List α) (j : Nat) :
    valuesAt (values.map (i, ·)) j = if i = j then values else [] := by
  by_cases same : i = j <;> simp [valuesAt, List.filter_map, Function.comp_def, same]

theorem valuesAt_singleton (i : Nat) (x : α) (j : Nat) :
    valuesAt [(i, x)] j = if i = j then [x] else [] :=
  valuesAt_map i [x] j

theorem valuesAt_of_ne {xs : List (Nat × α)} {i : Nat} (other : ∀ p ∈ xs, p.1 ≠ i) :
    valuesAt xs i = [] := by
  have absent : xs.filter (·.1 = i) = [] := by
    rw [List.filter_eq_nil_iff]
    intro p member
    simpa using other p member
  rw [valuesAt, absent, List.map_nil]

theorem valuesAt_absent {xs : List (Nat × α)} {n : Nat} (bounded : ∀ p ∈ xs, p.1 < n) :
    valuesAt xs n = [] :=
  valuesAt_of_ne fun p member => Nat.ne_of_lt (bounded p member)

theorem valuesAt_filter (q : Nat → Bool) (xs : List (Nat × α)) (i : Nat) :
    valuesAt (xs.filter fun p => q p.1) i = if q i then valuesAt xs i else [] := by
  rw [valuesAt, List.filter_filter]
  split
  next kept =>
    refine congrArg (List.map Prod.snd) (List.filter_congr fun p _ => ?_)
    by_cases here : p.1 = i <;> simp [here, kept]
  next left =>
    rw [List.map_eq_nil_iff, List.filter_eq_nil_iff]
    rintro ⟨j, x⟩ _ both
    simp only [Bool.and_eq_true, decide_eq_true_eq] at both
    exact left (both.1 ▸ both.2)

theorem flatMap_range_eq_zipIdx {xs : List α} {g : Nat → List β} {h : α × Nat → List β}
    (same : ∀ i x, xs[i]? = some x → g i = h (x, i)) :
    (List.range xs.length).flatMap g = xs.zipIdx.flatMap h := by
  induction xs using List.reverseRecOn with
  | nil => rfl
  | append_singleton xs x ih =>
    have before := ih fun i y there => same i y (by
      rw [List.getElem?_append_left (List.getElem?_eq_some_iff.mp there).1]
      exact there)
    have last := same xs.length x List.getElem?_concat_length
    rw [List.length_append, List.length_singleton, List.range_succ, List.flatMap_append, before,
      List.zipIdx_append, List.flatMap_append]
    simp [last]

/-! ### Values under keys -/

theorem find?_of_nodup {κ : Type} [DecidableEq κ] {key : α → κ} {xs : List α}
    (once : (xs.map key).Nodup) {x : α} (member : x ∈ xs) :
    xs.find? (fun y => key y = key x) = some x := by
  cases found : xs.find? (fun y => key y = key x) with
  | none => simpa using List.find?_eq_none.mp found x member
  | some y =>
    have same : key y = key x := by simpa using List.find?_some found
    rw [List.inj_on_of_nodup_map once (List.mem_of_find?_eq_some found) member same]

/-- A list falls into the elements with the first key, those with the second, and so on. -/
theorem flatMap_filter_perm {κ : Type} [DecidableEq κ] {keys : List κ} {xs : List α} (key : α → κ)
    (once : keys.Nodup) (known : ∀ x ∈ xs, key x ∈ keys) :
    (keys.flatMap fun k => xs.filter (key · = k)).Perm xs := by
  induction keys generalizing xs with
  | nil =>
    cases xs with
    | nil => exact .refl _
    | cons x rest => exact absurd (known x List.mem_cons_self) List.not_mem_nil
  | cons k keys ih =>
    obtain ⟨fresh, once⟩ := List.nodup_cons.mp once
    have others : ∀ x ∈ xs.filter (key · ≠ k), key x ∈ keys := by
      intro x member
      obtain ⟨there, different⟩ := List.mem_filter.mp member
      exact (List.mem_cons.mp (known x there)).resolve_left (by simpa using different)
    -- the other keys do not see the elements with the first
    have same : ∀ k' ∈ keys, (xs.filter (key · ≠ k)).filter (key · = k') = xs.filter (key · = k') := by
      intro k' member
      rw [List.filter_filter]
      refine List.filter_congr fun x _ => ?_
      by_cases here : key x = k'
      · have different : k' ≠ k := ne_of_mem_of_not_mem member fresh
        simp [here, different]
      · simp [here]
    have rest := ih once others
    rw [List.flatMap_congr same] at rest
    rw [List.flatMap_cons]
    refine (rest.append_left _).trans ?_
    simpa using List.filter_append_perm (fun x => decide (key x = k)) xs

/-- All values are those with the first number, those with the second, and so on. -/
theorem perm_valuesAt {n : Nat} {xs : List (Nat × α)} (bounded : ∀ p ∈ xs, p.1 < n) :
    (xs.map Prod.snd).Perm ((List.range n).flatMap (valuesAt xs)) := by
  have fibres := flatMap_filter_perm Prod.fst List.nodup_range
    fun p member => List.mem_range.mpr (bounded p member)
  have values := fibres.symm.map Prod.snd
  rw [List.map_flatMap] at values
  exact values

theorem exists_bound (xs : List (Nat × α)) : ∃ n, ∀ p ∈ xs, p.1 < n := by
  induction xs with
  | nil => exact ⟨0, by simp⟩
  | cons x rest ih =>
    obtain ⟨n, bounded⟩ := ih
    refine ⟨max (x.1 + 1) n, fun p member => ?_⟩
    rcases List.mem_cons.mp member with rfl | later
    · omega
    · have below := bounded p later
      omega

/-- Lists with the same values under each number have the same values. -/
theorem perm_of_valuesAt {xs ys : List (Nat × α)} (same : ∀ i, valuesAt xs i = valuesAt ys i) :
    (xs.map Prod.snd).Perm (ys.map Prod.snd) := by
  obtain ⟨n, bounded⟩ := exists_bound (xs ++ ys)
  have left := perm_valuesAt (n := n) fun p member => bounded p (List.mem_append_left _ member)
  have right := perm_valuesAt (n := n) fun p member => bounded p (List.mem_append_right _ member)
  rw [← funext same] at right
  exact left.trans right.symm

/-! ### What the steps of a run yield -/

/-- What the steps of a run yield, in order. -/
def yielded {σ ε : Type} (step : σ → ε → σ) (yield : σ → ε → List α) (s : σ) : List ε → List α
  | [] => []
  | e :: es => yield s e ++ yielded step yield (step s e) es

theorem yielded_append {σ ε : Type} (step : σ → ε → σ) (yield : σ → ε → List α) (s : σ)
    (es es' : List ε) : yielded step yield s (es ++ es') =
      yielded step yield s es ++ yielded step yield (es.foldl step s) es' := by
  induction es generalizing s with
  | nil => rfl
  | cons e es ih => rw [List.cons_append, yielded, ih, yielded, List.append_assoc, List.foldl_cons]

theorem yielded_concat {σ ε : Type} (step : σ → ε → σ) (yield : σ → ε → List α) (s : σ)
    (es : List ε) (e : ε) : yielded step yield s (es ++ [e]) =
      yielded step yield s es ++ yield (es.foldl step s) e := by
  rw [yielded_append, yielded, yielded, List.append_nil]

/-- Two runs yield the same if the second goes along with the first wherever it concerns it. -/
theorem yielded_filterMap {σ σ' ε ε' : Type} {R : σ → σ' → Prop} {own : ε → Option ε'}
    {step : σ → ε → σ} {step' : σ' → ε' → σ'} {yield : σ → ε → List α} {yield' : σ' → ε' → List α}
    (along : ∀ s s' e, R s s' →
      R (step s e) ((own e).elim s' (step' s')) ∧ yield s e = (own e).elim [] (yield' s'))
    {s : σ} {s' : σ'} (related : R s s') (es : List ε) :
    R (es.foldl step s) ((es.filterMap own).foldl step' s') ∧
      yielded step yield s es = yielded step' yield' s' (es.filterMap own) := by
  induction es generalizing s s' with
  | nil => exact ⟨related, rfl⟩
  | cons e es ih =>
    obtain ⟨next, yields⟩ := along s s' e related
    obtain ⟨final, rest⟩ := ih next
    cases concern : own e with
    | none =>
      rw [concern] at yields final rest
      rw [List.filterMap_cons_none concern, List.foldl_cons, yielded, yields]
      exact ⟨final, rest⟩
    | some e' =>
      rw [concern] at yields final rest
      rw [List.filterMap_cons_some concern, List.foldl_cons, List.foldl_cons, yielded, yielded,
        yields]
      exact ⟨final, congrArg _ rest⟩

end EdgeGateway

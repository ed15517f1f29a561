import EdgeGateway.Proofs.Text.Order
import EdgeGateway.Table
import Mathlib.Data.Finmap
import Mathlib.Data.Finset.Sort
import Mathlib.Data.List.Nodup

/-!
# Looking up in tables

What a look-up finds after an insertion or a removal. Both keep the keys of a table in strictly
ascending order, so that a listing shows every key once and in its place.
-/

namespace EdgeGateway.Table

variable {α : Type}

theorem find?_insertEntry (key other : String) (value : α) (entries : List (String × α)) :
    ((insertEntry key value entries).find? (·.1 = other)).map (·.2) =
      if other = key then some value else (entries.find? (·.1 = other)).map (·.2) := by
  induction entries with
  | nil =>
    by_cases same : other = key
    · simp [insertEntry, same]
    · simp [insertEntry, same, Ne.symm same]
  | cons entry rest ih =>
    obtain ⟨k, v⟩ := entry
    unfold insertEntry
    split
    next here =>
      subst here
      by_cases same : other = k
      · simp [same]
      · simp [same, Ne.symm same]
    next there =>
      split
      · by_cases same : other = key
        · simp [same]
        · simp [List.find?_cons, same, Ne.symm same]
      · by_cases first : k = other
        · subst first
          simp [there]
        · rw [List.find?_cons_of_neg (by simpa using first), ih,
            List.find?_cons_of_neg (by simpa using first)]

@[simp] theorem find?_insert (t : Table α) (key other : String) (value : α) :
    (t.insert key value).find? other = if other = key then some value else t.find? other :=
  find?_insertEntry key other value t.entries

@[simp] theorem find?_erase (t : Table α) (key other : String) :
    (t.erase key).find? other = if other = key then none else t.find? other := by
  rw [find?, erase, List.find?_filter]
  by_cases same : other = key
  · subst same
    simp
  · rw [if_neg same, find?]
    refine congrArg (fun p => (t.entries.find? p).map (·.2)) (funext fun entry => ?_)
    by_cases here : entry.1 = other <;> simp [here, same]

theorem find?_insert_eq_some {t : Table α} {key other : String} {value v : α} :
    (t.insert key value).find? other = some v ↔
      other = key ∧ value = v ∨ other ≠ key ∧ t.find? other = some v := by
  rw [find?_insert]
  split <;> simp [*]

theorem find?_erase_eq_some {t : Table α} {key other : String} {v : α} :
    (t.erase key).find? other = some v ↔ other ≠ key ∧ t.find? other = some v := by
  rw [find?_erase]
  split <;> simp [*]

theorem find?_adjust (t : Table α) (key other : String) (f : α → α) :
    (t.adjust key f).find? other = (t.find? other).map fun v => if other = key then f v else v := by
  obtain ⟨entries⟩ := t
  unfold find? adjust
  dsimp only
  induction entries with
  | nil => rfl
  | cons entry rest ih =>
    obtain ⟨k, v⟩ := entry
    by_cases here : k = other
    · subst here
      by_cases same : k = key <;> simp [same]
    · have skipped : (if k = key then (k, f v) else (k, v) : String × α).1 ≠ other := by
        split <;> exact here
      rw [List.map_cons, List.find?_cons_of_neg (by simpa using skipped), ih,
        List.find?_cons_of_neg (by simpa using here)]

theorem contains_eq (t : Table α) (key : String) : t.contains key = (t.find? key).isSome := by
  rw [contains, find?, Option.isSome_map, Bool.eq_iff_iff, List.any_eq_true, List.find?_isSome]

theorem mem_keys {t : Table α} {key : String} : key ∈ t.keys ↔ (t.find? key).isSome = true := by
  rw [← contains_eq, contains, keys]
  simp

theorem entry_of_find? {t : Table α} {key : String} {value : α} (found : t.find? key = some value) :
    (key, value) ∈ t.entries := by
  obtain ⟨⟨k, v⟩, there, rfl⟩ := Option.map_eq_some_iff.mp found
  have same := List.find?_some there
  rw [decide_eq_true_iff] at same
  exact same ▸ List.mem_of_find?_eq_some there

/-! ### Keys in order -/

def Ascending (t : Table α) : Prop := t.keys.Pairwise (· < ·)

theorem ascending_empty : Ascending ({} : Table α) := .nil

theorem mem_keys_insertEntry {key k : String} {value : α} {entries : List (String × α)}
    (member : k ∈ (insertEntry key value entries).map (·.1)) :
    k = key ∨ k ∈ entries.map (·.1) := by
  induction entries with
  | nil => exact .inl (by simpa [insertEntry] using member)
  | cons entry rest ih =>
    obtain ⟨first, v⟩ := entry
    unfold insertEntry at member
    split at member
    · rcases List.mem_cons.mp member with here | later
      · exact .inl here
      · exact .inr (List.mem_cons_of_mem _ later)
    · split at member
      · exact List.mem_cons.mp member
      · rcases List.mem_cons.mp member with here | later
        · exact .inr (here ▸ List.mem_cons_self)
        · exact (ih later).imp_right (List.mem_cons_of_mem _)

theorem Ascending.insert {t : Table α} (ascending : t.Ascending) (key : String) (value : α) :
    (t.insert key value).Ascending := by
  obtain ⟨entries⟩ := t
  change (entries.map (·.1)).Pairwise (· < ·) at ascending
  change ((insertEntry key value entries).map (·.1)).Pairwise (· < ·)
  induction entries with
  | nil => exact List.pairwise_singleton _ _
  | cons entry rest ih =>
    obtain ⟨first, v⟩ := entry
    rw [List.map_cons, List.pairwise_cons] at ascending
    obtain ⟨above, rest_ascending⟩ := ascending
    unfold insertEntry
    split
    next same =>
      subst same
      exact .cons above rest_ascending
    next different =>
      split
      next smaller =>
        have below := Text.lt_iff.mp smaller
        refine .cons (fun k member => ?_) (.cons above rest_ascending)
        rcases List.mem_cons.mp member with rfl | later
        · exact below
        · exact lt_trans below (above k later)
      next larger =>
        have above_key : first < key :=
          lt_of_le_of_ne (not_lt.mp (mt Text.lt_iff.mpr larger)) different
        refine .cons (fun k member => ?_) (ih rest_ascending)
        rcases mem_keys_insertEntry member with rfl | old
        · exact above_key
        · exact above k old

theorem Ascending.erase {t : Table α} (ascending : t.Ascending) (key : String) :
    (t.erase key).Ascending :=
  ascending.sublist (List.filter_sublist.map _)

theorem Ascending.nodup {t : Table α} (ascending : t.Ascending) : t.keys.Nodup :=
  ascending.imp ne_of_lt

/-- In a table with its keys in order a look-up finds every entry. -/
theorem Ascending.find?_eq_some {t : Table α} (ascending : t.Ascending) {key : String} {value : α} :
    t.find? key = some value ↔ (key, value) ∈ t.entries := by
  refine ⟨entry_of_find?, ?_⟩
  intro member
  have known : (t.find? key).isSome = true := mem_keys.mp (List.mem_map_of_mem member)
  obtain ⟨first, found⟩ := Option.isSome_iff_exists.mp known
  have same := List.inj_on_of_nodup_map ascending.nodup (entry_of_find? found) member rfl
  rw [found, (Prod.mk.inj same).2]

theorem Ascending.mem_values {t : Table α} (ascending : t.Ascending) {value : α} :
    value ∈ t.values ↔ ∃ key, t.find? key = some value := by
  simp [values, ascending.find?_eq_some]

/-- A listing of a table is its keys in order, each with what a look-up finds. -/
theorem Ascending.entries_eq {t : Table α} (ascending : t.Ascending) :
    t.entries = t.keys.filterMap fun key => (t.find? key).map fun value => (key, value) := by
  rw [keys, List.filterMap_map]
  refine (List.filterMap_some.symm.trans (List.filterMap_congr ?_))
  rintro ⟨key, value⟩ member
  have found := ascending.find?_eq_some.mpr member
  simp only [Function.comp_apply, found, Option.map_some]

/-! ### Finite maps -/

/-- A table as a finite map. -/
def toFinmap (t : Table α) : Finmap fun _ : String => α :=
  (t.entries.map fun entry => (⟨entry.1, entry.2⟩ : (_ : String) × α)).toFinmap

@[simp] theorem lookup_toFinmap (t : Table α) (key : String) :
    t.toFinmap.lookup key = t.find? key := by
  obtain ⟨entries⟩ := t
  rw [toFinmap, Finmap.dlookup_list_toFinmap, find?]
  induction entries with
  | nil => rfl
  | cons entry rest ih =>
    obtain ⟨first, value⟩ := entry
    by_cases same : first = key
    · subst same
      simp
    · rw [List.map_cons, List.dlookup_cons_ne _ _ (Ne.symm same), ih,
        List.find?_cons_of_neg (by simpa using same)]

theorem Ascending.keys_eq_sort {t : Table α} (ascending : t.Ascending) :
    t.keys = t.toFinmap.keys.sort (· ≤ ·) := by
  have same : t.toFinmap.keys = t.keys.toFinset := by
    ext key
    rw [Finmap.mem_keys, ← Finmap.lookup_isSome, lookup_toFinmap, List.mem_toFinset, mem_keys]
  rw [same, (List.toFinset_sort _ ascending.nodup).mpr (ascending.imp le_of_lt)]

theorem find?_map {β : Type} (t : Table α) (f : α → β) (key : String) :
    (t.map f).find? key = (t.find? key).map f := by
  rw [find?, map, List.find?_map, find?, Option.map_map, Option.map_map]
  rfl

theorem keys_map {β : Type} (t : Table α) (f : α → β) : (t.map f).keys = t.keys := by
  rw [keys, map, List.map_map]
  rfl

/-! ### Lists of entries -/

section
variable {entries : List (String × α)} {key k : String} {value v : α}

/-- The entry is the last one with its key. -/
def LastEntry (entries : List (String × α)) (key : String) (value : α) : Prop :=
  ∃ before after, entries = before ++ (key, value) :: after ∧ key ∉ after.map (·.1)

theorem lastEntry_concat : LastEntry (entries ++ [(k, v)]) key value ↔
    key = k ∧ v = value ∨ key ≠ k ∧ LastEntry entries key value := by
  constructor
  · rintro ⟨before, after, split, last⟩
    rcases List.eq_nil_or_concat after with rfl | ⟨after, entry, rfl⟩
    · obtain ⟨_, same⟩ := List.append_inj' split rfl
      cases same
      exact .inl ⟨rfl, rfl⟩
    · rw [List.concat_eq_append, ← List.cons_append, ← List.append_assoc] at split
      obtain ⟨rfl, same⟩ := List.append_inj' split rfl
      cases same
      rw [List.concat_eq_append, List.map_append, List.mem_append, not_or] at last
      exact .inr ⟨fun same => last.2 (by simp [same]), before, after, rfl, last.1⟩
  · rintro (⟨rfl, rfl⟩ | ⟨different, before, after, rfl, last⟩)
    · exact ⟨entries, [], rfl, by simp⟩
    · refine ⟨before, after ++ [(k, v)], by simp, ?_⟩
      rw [List.map_append, List.mem_append, not_or]
      exact ⟨last, by simpa using different⟩

theorem find?_ofList : (ofList entries).find? key = some value ↔ LastEntry entries key value := by
  induction entries using List.reverseRecOn with
  | nil => simp [ofList, find?, LastEntry]
  | append_singleton entries entry ih =>
    rw [ofList, List.foldl_concat, find?_insert_eq_some, lastEntry_concat]
    exact or_congr_right (and_congr_right fun _ => ih)

theorem ascending_ofList (entries : List (String × α)) : (ofList entries).Ascending := by
  induction entries using List.reverseRecOn with
  | nil => exact ascending_empty
  | append_singleton entries entry ih =>
    rw [ofList, List.foldl_concat]
    exact ih.insert entry.1 entry.2

end

end EdgeGateway.Table

import EdgeGateway.Proofs.Adapter.Handlers
import EdgeGateway.Proofs.Config.Constraints

/-!
# What a registry has in store

No type is ever taken back and no configuration is stored unchecked, so that in every run each stored
instance is of a registered type which accepts its configuration; `Sound` is the invariant. All
listings show the same instances in the order of their ids, and a request that is refused leaves
everything as it was.
-/

namespace EdgeGateway

namespace Registry

variable {η : Type}

/-! ### Accepted configurations -/

/-- The schema has nothing against the configuration, and a handler can be made from it. -/
def Accepts (h : Handling η) (t : AdapterType) (id : String) (config : Json) : Prop :=
  Schema.check config t.schema = [] ∧ ∃ x, h.create t id config = .ok x

theorem accepts_of_createHandler {h : Handling η} {t : AdapterType} {id : String} {config : Json}
    {x : η} (made : createHandler h t id config = .ok x) : Accepts h t id config := by
  unfold createHandler at made
  split at made
  next clean =>
    refine ⟨clean, ?_⟩
    cases created : h.create t id config with
    | error fault =>
      rw [created] at made
      cases made
    | ok x => exact ⟨x, rfl⟩
  next => cases made

/-- Each stored instance has a valid id and a type that accepts its configuration. -/
structure Sound (h : Handling η) (r : Registry η) : Prop where
  valid : ∀ id i, r.instances.find? id = some i → isValidId id = true
  accepted : ∀ id i, r.instances.find? id = some i →
    ∃ t, r.types.find? i.type = some t ∧ Accepts h t id i.config

section Sound
variable {h : Handling η} {r : Registry η}

theorem sound_empty : Sound h ({} : Registry η) where
  valid := by intro id i found; cases found
  accepted := by intro id i found; cases found

/-- Instances may be taken out. -/
theorem Sound.subset {r' : Registry η} (sound : Sound h r) (types : r'.types = r.types)
    (instances : ∀ id i, r'.instances.find? id = some i → r.instances.find? id = some i) :
    Sound h r' where
  valid := fun id i found => sound.valid id i (instances id i found)
  accepted := by
    intro id i found
    rw [types]
    exact sound.accepted id i (instances id i found)

theorem Sound.register (sound : Sound h r) {type : AdapterType}
    (new : r.types.find? type.protocolId = none) :
    Sound h { r with types := r.types.insert type.protocolId type } where
  valid := sound.valid
  accepted := by
    intro id i found
    obtain ⟨t, known, accepts⟩ := sound.accepted id i found
    refine ⟨t, ?_, accepts⟩
    have different : i.type ≠ type.protocolId := by
      intro same
      rw [same, new] at known
      cases known
    rw [Table.find?_insert, if_neg different]
    exact known

/-- An instance that is started has been accepted before. -/
theorem Sound.start (sound : Sound h r) {id : String} {i : AdapterInstance} {t : AdapterType}
    (valid : isValidId id = true) (known : r.types.find? i.type = some t)
    (accepts : Accepts h t id i.config) : Sound h (startInstance h r id i) := by
  have kept : ∀ other j, (startInstance h r id i).instances.find? other = some j →
      (other = id ∧ j.type = i.type ∧ j.config = i.config) ∨ r.instances.find? other = some j := by
    intro other j found
    rw [startInstance_instances] at found
    rcases Table.find?_insert_eq_some.mp found with ⟨here, rfl⟩ | ⟨_, old⟩
    · exact .inl ⟨here, attempted_type i _, attempted_config i _⟩
    · exact .inr old
  constructor
  · intro other j found
    rcases kept other j found with ⟨rfl, _⟩ | old
    · exact valid
    · exact sound.valid other j old
  · intro other j found
    rw [startInstance_types]
    rcases kept other j found with ⟨rfl, type, config⟩ | old
    · rw [type, config]
      exact ⟨t, known, accepts⟩
    · exact sound.accepted other j old

theorem Sound.change {e : Event η} {result : Registry η × Except AdminFault Unit}
    (sound : Sound h r) (change : Change h r e result) : Sound h result.1 := by
  cases change with
  | refuse _ _ => exact sound
  | register new => exact sound.register new
  | @add _ _ _ _ x _ valid known made =>
    have more : Sound h (r.addHandler x).1 := sound.subset rfl fun _ _ found => found
    exact more.start valid known (accepts_of_createHandler made)
  | @update id _ old _ x stored known made =>
    have stopped : Sound h (Registry.stopInstance h (r.addHandler x).1 old) :=
      sound.subset (by simp) (by simp)
    refine stopped.start (sound.valid id old stored) ?_ (accepts_of_createHandler made)
    rw [stopInstance_types]
    exact known
  | @delete id old _ =>
    refine sound.subset (stopInstance_types h r old) fun other i found => ?_
    exact (Table.find?_erase_eq_some.mp found).2
  | shutdown _ =>
    refine sound.subset (stopAll_types h r _) fun id i found => ?_
    rw [stopAll_instances] at found
    cases found
  | work _ => exact sound.subset rfl fun _ _ found => found

theorem run_sound (h : Handling η) (events : List (Event η)) : Sound h (run h {} events) := by
  induction events using List.reverseRecOn with
  | nil => exact sound_empty
  | append_singleton events e ih =>
    rw [run_concat]
    exact ih.change (ask_change h _ e)

/-- A request that is refused does nothing. -/
theorem ask_refused {e : Event η} {fault : AdminFault} (refused : (r.ask h e).2 = .error fault) :
    (r.ask h e).1 = r := by
  have change := ask_change h r e
  generalize r.ask h e = result at change refused
  cases change <;> first | rfl | cases refused

end Sound

/-! ### Listings -/

section Listings
variable {r : Registry η}

theorem Orderly.handler (orderly : r.Orderly) {id : String} (listed : id ∈ r.instances.keys) :
    ∃ x, r.handler? id = some x := by
  obtain ⟨i, found⟩ := Option.isSome_iff_exists.mp (Table.mem_keys.mp listed)
  obtain ⟨x, there⟩ : ∃ x, r.handlers[i.handler]? = some x :=
    ⟨_, List.getElem?_eq_getElem (orderly.housed id i found)⟩
  refine ⟨x, ?_⟩
  rw [handler?, found]
  exact there

/-- Every instance has a status. -/
theorem Orderly.statuses_ids (orderly : r.Orderly) (status : η → ConnectionStatus) :
    (r.statuses status).map Prod.fst = r.instances.keys := by
  rw [statuses, List.map_filterMap]
  refine (List.filterMap_congr fun id listed => ?_).trans List.filterMap_some
  obtain ⟨x, there⟩ := orderly.handler listed
  rw [there]
  rfl

theorem instancesOfType_eq {type : String} (known : type ∈ r.types.keys) :
    r.instancesOfType type = .ok (r.instances.entries.filter (·.2.type = type)) := by
  rw [instancesOfType, Table.contains_eq, Table.mem_keys.mp known, if_pos rfl]

theorem instancesOfType_unknown {type : String} (unknown : type ∉ r.types.keys) :
    r.instancesOfType type = .error (.notFound .adapterType type) := by
  rw [Table.mem_keys] at unknown
  rw [instancesOfType, Table.contains_eq, if_neg unknown]

/-- The listings by type fall apart into the types of the stored instances. -/
theorem Sound.listings {h : Handling η} (sound : Sound h r) (orderly : r.Orderly) :
    (r.types.keys.flatMap fun type => r.instances.entries.filter (·.2.type = type)).Perm
      r.instances.entries := by
  refine flatMap_filter_perm (fun entry : String × AdapterInstance => entry.2.type)
    orderly.types.nodup ?_
  rintro ⟨id, i⟩ member
  obtain ⟨t, known, _⟩ := sound.accepted id i (orderly.instances.find?_eq_some.mpr member)
  rw [Table.mem_keys, known]
  rfl

end Listings

/-- A registry only ever has sound instances in store. Each stands under its own id, which is valid,
and its configuration was accepted by its type; listings ascend strictly by id and those of the
registered types together are the listing of all. A request that is refused, for whatever reason,
leaves types, instances and handlers as they were and calls no handler. -/
theorem inventory_is_sound (h : Handling η) (events : List (Event η)) :
    let r := run h {} events
    (∀ id i, r.find id = .ok i →
      id ≠ "" ∧
      (∀ c ∈ id.toList,
        'A' ≤ c ∧ c ≤ 'Z' ∨ 'a' ≤ c ∧ c ≤ 'z' ∨ '0' ≤ c ∧ c ≤ '9' ∨ c = '_' ∨ c = '-') ∧
      (arrivals h events)[i.handler]? = some (id, i) ∧
      ∃ t, r.types.find? i.type = some t ∧ t.protocolId = i.type ∧
        Schema.check i.config t.schema = [] ∧ ∃ x, h.create t id i.config = .ok x) ∧
    r.instances.keys.Pairwise (· < ·) ∧
    (∀ status, (r.statuses status).map Prod.fst = r.instances.keys) ∧
    (∃ listing : String → List (String × AdapterInstance),
      (∀ type ∈ r.types.keys, r.instancesOfType type = .ok (listing type)) ∧
      (∀ type ∉ r.types.keys, r.instancesOfType type = .error (.notFound .adapterType type)) ∧
      (∀ type, (listing type).Sublist r.instances.entries) ∧
      (r.types.keys.flatMap listing).Perm r.instances.entries) ∧
    ∀ e fault, (r.ask h e).2 = .error fault → (r.ask h e).1 = r := by
  intro r
  have orderly : r.Orderly := run_orderly h events
  have sound : Sound h r := run_sound h events
  have supervised : Supervised (arrivals h events) r := run_supervised h events
  refine ⟨?_, orderly.instances, orderly.statuses_ids, ?_, fun e fault => ask_refused⟩
  · intro id i there
    have found := find_eq_ok.mp there
    obtain ⟨nonempty, chars⟩ := (isValidId_iff id).mp (sound.valid id i found)
    obtain ⟨t, known, clean, create⟩ := sound.accepted id i found
    refine ⟨nonempty, fun c member => (isIdChar_iff c).mp (chars c member),
      supervised.kept id i found, t, known, ?_, clean, create⟩
    exact orderly.keyed i.type t known
  · refine ⟨fun type => r.instances.entries.filter (·.2.type = type), ?_, ?_, ?_, ?_⟩
    · exact fun type known => instancesOfType_eq known
    · exact fun type unknown => instancesOfType_unknown unknown
    · exact fun type => List.filter_sublist
    · exact sound.listings orderly

/-- An adapter is in store, also if it cannot be started, and another with its id is refused. -/
theorem unstartable_in_store :
    let r := run Handler.handling {} addUnstartable
    let stored := failed "plain" unstartable 0 (.connection "no link")
    r.find "a" = .ok stored ∧
      (arrivals Handler.handling addUnstartable)[0]? = some ("a", stored) ∧
      (r.ask Handler.handling (.add "plain" "a" .null)).2 = .error (.duplicateId .adapter "a") ∧
      (r.ask Handler.handling (.add "plain" "a" .null)).1 = r := by
  intro r stored
  obtain ⟨sound, _, _, _, refused⟩ := inventory_is_sound Handler.handling addUnstartable
  have there : r.find "a" = .ok stored := rfl
  have taken : (r.ask Handler.handling (.add "plain" "a" .null)).2 =
      .error (.duplicateId .adapter "a") := rfl
  obtain ⟨_, _, arrived, _⟩ := sound "a" stored there
  exact ⟨there, arrived, taken, refused _ _ taken⟩

end Registry
end EdgeGateway

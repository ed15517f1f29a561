import EdgeGateway.Adapter.Registry
import EdgeGateway.Proofs.Lists
import EdgeGateway.Proofs.Table

/-!
# Requests to an adapter registry

Everything that can be asked of a registry, in runs of any length, with whatever its handlers do in
between. `Change` lists what one request can do, and later modules take a request apart by
`ask_change`; `run_orderly` is what every run keeps.
-/

namespace EdgeGateway

/-- An order in which to go through a list. -/
structure Tour (α : Type) where
  visit : List α → List α
  perm : ∀ xs, (visit xs).Perm xs

namespace Registry

variable {η : Type}

/-! ### Parts of a registry -/

section Parts
variable (h : Handling η) (r : Registry η)

section Call
variable (number : Nat) (call : HandlerCall) (f : η → η × Except AdapterFault Unit)

@[simp] theorem callHandler_types : (r.callHandler number call f).1.types = r.types := by
  unfold callHandler
  split <;> rfl

@[simp] theorem callHandler_instances :
    (r.callHandler number call f).1.instances = r.instances := by
  unfold callHandler
  split <;> rfl

@[simp] theorem callHandler_handlers_length :
    (r.callHandler number call f).1.handlers.length = r.handlers.length := by
  unfold callHandler
  split
  · rfl
  · exact List.length_set

variable {r number}

theorem callHandler_calls (housed : number < r.handlers.length) :
    (r.callHandler number call f).1.calls = r.calls ++ [call] := by
  rw [callHandler, List.getElem?_eq_getElem housed]

end Call

@[simp] theorem addHandler_types (x : η) : (r.addHandler x).1.types = r.types := rfl

@[simp] theorem addHandler_instances (x : η) : (r.addHandler x).1.instances = r.instances := rfl

@[simp] theorem addHandler_calls (x : η) : (r.addHandler x).1.calls = r.calls := rfl

@[simp] theorem addHandler_handlers (x : η) :
    (r.addHandler x).1.handlers = r.handlers ++ [x] := rfl

@[simp] theorem addHandler_number (x : η) : (r.addHandler x).2 = r.handlers.length := rfl

@[simp] theorem stopInstance_types (i : AdapterInstance) :
    (stopInstance h r i).types = r.types := callHandler_types ..

@[simp] theorem stopInstance_instances (i : AdapterInstance) :
    (stopInstance h r i).instances = r.instances := callHandler_instances ..

@[simp] theorem stopInstance_handlers_length (i : AdapterInstance) :
    (stopInstance h r i).handlers.length = r.handlers.length := callHandler_handlers_length ..

@[simp] theorem startInstance_types (id : String) (i : AdapterInstance) :
    (startInstance h r id i).types = r.types := callHandler_types ..

@[simp] theorem startInstance_handlers_length (id : String) (i : AdapterInstance) :
    (startInstance h r id i).handlers.length = r.handlers.length := callHandler_handlers_length ..

/-- An instance that is started is stored with the answer, whatever that is. -/
theorem startInstance_instances (id : String) (i : AdapterInstance) :
    (startInstance h r id i).instances =
      r.instances.insert id (i.attempted (r.callHandler i.handler (.start i.handler) h.start).2) := by
  have same := callHandler_instances r i.handler (.start i.handler) h.start
  unfold startInstance putInstance
  exact congrArg (Table.insert · id _) same

variable {r}

theorem stopInstance_calls {i : AdapterInstance} (housed : i.handler < r.handlers.length) :
    (stopInstance h r i).calls = r.calls ++ [.stop i.handler] :=
  callHandler_calls _ _ housed

theorem startInstance_calls (id : String) {i : AdapterInstance}
    (housed : i.handler < r.handlers.length) :
    (startInstance h r id i).calls = r.calls ++ [.start i.handler] :=
  callHandler_calls _ _ housed

end Parts

@[simp] theorem attempted_handler (i : AdapterInstance) (answer : Except AdapterFault Unit) :
    (i.attempted answer).handler = i.handler := by
  cases answer <;> rfl

@[simp] theorem attempted_type (i : AdapterInstance) (answer : Except AdapterFault Unit) :
    (i.attempted answer).type = i.type := by
  cases answer <;> rfl

@[simp] theorem attempted_config (i : AdapterInstance) (answer : Except AdapterFault Unit) :
    (i.attempted answer).config = i.config := by
  cases answer <;> rfl

/-! ### Stopping many instances -/

/-- Takes all instances out and stops the given ones, one after the other. -/
def stopAll (h : Handling η) (r : Registry η) (is : List AdapterInstance) : Registry η :=
  is.foldl (stopInstance h) { r with instances := {} }

section StopAll
variable (h : Handling η) (r : Registry η) (is : List AdapterInstance)

theorem foldl_stopInstance_parts :
    (is.foldl (stopInstance h) r).types = r.types ∧
      (is.foldl (stopInstance h) r).instances = r.instances ∧
      (is.foldl (stopInstance h) r).handlers.length = r.handlers.length := by
  induction is generalizing r with
  | nil => exact ⟨rfl, rfl, rfl⟩
  | cons i is ih =>
    rw [List.foldl_cons]
    obtain ⟨types, instances, handlers⟩ := ih (stopInstance h r i)
    exact ⟨types.trans (stopInstance_types h r i), instances.trans (stopInstance_instances h r i),
      handlers.trans (stopInstance_handlers_length h r i)⟩

theorem stopAll_types : (r.stopAll h is).types = r.types :=
  (foldl_stopInstance_parts h { r with instances := {} } is).1

theorem stopAll_instances : (r.stopAll h is).instances = {} :=
  (foldl_stopInstance_parts h { r with instances := {} } is).2.1

theorem stopAll_handlers_length : (r.stopAll h is).handlers.length = r.handlers.length :=
  (foldl_stopInstance_parts h { r with instances := {} } is).2.2

variable {r is}

theorem stopAll_calls (housed : ∀ i ∈ is, i.handler < r.handlers.length) :
    (r.stopAll h is).calls = r.calls ++ is.map fun i => .stop i.handler := by
  have folded : ∀ (is : List AdapterInstance) (r : Registry η),
      (∀ i ∈ is, i.handler < r.handlers.length) →
      (is.foldl (stopInstance h) r).calls = r.calls ++ is.map fun i => .stop i.handler := by
    intro is
    induction is with
    | nil => intro r _; exact (List.append_nil _).symm
    | cons i is ih =>
      intro r housed
      have first := housed i List.mem_cons_self
      have rest : ∀ i' ∈ is, i'.handler < (stopInstance h r i).handlers.length := by
        intro i' member
        rw [stopInstance_handlers_length]
        exact housed i' (List.mem_cons_of_mem i member)
      rw [List.foldl_cons, ih _ rest, stopInstance_calls h first, List.append_assoc]
      rfl
  exact folded is { r with instances := {} } housed

end StopAll

/-! ### Requests -/

/-- What can happen to a registry. -/
inductive Event (η : Type) where
  | register (type : AdapterType)
  | add (type id : String) (config : Json)
  | update (id : String) (config : Json)
  | delete (id : String)
  /-- The instances are stopped in any order. -/
  | shutdown (tour : Tour AdapterInstance)
  /-- Whatever handlers do on their own. -/
  | work (f : Nat → η → η)

/-- The registry after an event, and the answer to it. -/
def ask (h : Handling η) (r : Registry η) : Event η → Registry η × Except AdminFault Unit
  | .register type =>
    match r.register type with
    | .error fault => (r, .error fault)
    | .ok r => (r, .ok ())
  | .add type id config => r.add h type id config
  | .update id config => r.update h id config
  | .delete id => r.delete h id
  | .shutdown tour => (r.stopAll h (tour.visit r.instances.values), .ok ())
  | .work f => ({ r with handlers := r.handlers.mapIdx f }, .ok ())

/-- Everything that one event can do. -/
inductive Change (h : Handling η) (r : Registry η) :
    Event η → Registry η × Except AdminFault Unit → Prop where
  /-- A request that is refused does nothing. -/
  | refuse (e : Event η) (fault : AdminFault) : Change h r e (r, .error fault)
  | register {type : AdapterType} (new : r.types.find? type.protocolId = none) :
      Change h r (.register type) ({ r with types := r.types.insert type.protocolId type }, .ok ())
  | add {type id : String} {config : Json} {t : AdapterType} {x : η}
      (new : r.instances.find? id = none) (valid : isValidId id = true)
      (known : r.types.find? type = some t) (made : createHandler h t id config = .ok x) :
      Change h r (.add type id config)
        (startInstance h (r.addHandler x).1 id { type, config, handler := r.handlers.length }, .ok ())
  | update {id : String} {config : Json} {old : AdapterInstance} {t : AdapterType} {x : η}
      (stored : r.instances.find? id = some old) (known : r.types.find? old.type = some t)
      (made : createHandler h t id config = .ok x) :
      Change h r (.update id config)
        (startInstance h (stopInstance h (r.addHandler x).1 old) id
          { type := old.type, config, handler := r.handlers.length }, .ok ())
  | delete {id : String} {old : AdapterInstance} (stored : r.instances.find? id = some old) :
      Change h r (.delete id)
        ({ stopInstance h r old with instances := r.instances.erase id }, .ok ())
  | shutdown (tour : Tour AdapterInstance) :
      Change h r (.shutdown tour) (r.stopAll h (tour.visit r.instances.values), .ok ())
  | work (f : Nat → η → η) :
      Change h r (.work f) ({ r with handlers := r.handlers.mapIdx f }, .ok ())

section Change
variable (h : Handling η) (r : Registry η)

theorem find_eq_ok {r : Registry η} {id : String} {i : AdapterInstance} :
    r.find id = .ok i ↔ r.instances.find? id = some i := by
  unfold find
  split <;> simp_all

theorem find_eq_error {r : Registry η} {id : String} (absent : r.instances.find? id = none) :
    r.find id = .error (.notFound .adapter id) := by
  rw [find, absent]

theorem register_change (type : AdapterType) :
    Change h r (.register type) (r.ask h (.register type)) := by
  by_cases taken : r.types.contains type.protocolId = true
  · have refused : r.ask h (.register type) = (r, .error (.typeAlreadyRegistered type.protocolId)) := by
      simp [ask, register, taken]
    rw [refused]
    exact .refuse _ _
  · have accepted : r.ask h (.register type) =
        ({ r with types := r.types.insert type.protocolId type }, .ok ()) := by
      simp [ask, register, taken]
    rw [accepted]
    refine .register ?_
    rw [Table.contains_eq] at taken
    exact Option.not_isSome_iff_eq_none.mp taken

theorem add_change (type id : String) (config : Json) :
    Change h r (.add type id config) (r.add h type id config) := by
  unfold add
  by_cases taken : r.instances.contains id = true
  · rw [if_pos taken]
    exact .refuse _ _
  · rw [if_neg taken]
    rw [Table.contains_eq] at taken
    have new : r.instances.find? id = none := Option.not_isSome_iff_eq_none.mp taken
    cases valid : isValidId id with
    | false => exact .refuse _ _
    | true =>
      cases known : r.types.find? type with
      | none => exact .refuse _ _
      | some t =>
        cases made : createHandler h t id config with
        | error fault => simpa [made] using Change.refuse (.add type id config) fault
        | ok x => simpa [made] using Change.add new valid known made

theorem update_change (id : String) (config : Json) :
    Change h r (.update id config) (r.update h id config) := by
  unfold update
  cases stored : r.instances.find? id with
  | none =>
    rw [find_eq_error stored]
    exact .refuse _ _
  | some old =>
    rw [find_eq_ok.mpr stored]
    cases known : r.types.find? old.type with
    | none => simpa [known] using Change.refuse (.update id config) (.unknownType old.type)
    | some t =>
      cases made : createHandler h t id config with
      | error fault => simpa [known, made] using Change.refuse (.update id config) fault
      | ok x => simpa [known, made] using Change.update stored known made

theorem delete_change (id : String) : Change h r (.delete id) (r.delete h id) := by
  unfold delete
  cases stored : r.instances.find? id with
  | none =>
    rw [find_eq_error stored]
    exact .refuse _ _
  | some old =>
    rw [find_eq_ok.mpr stored]
    have change : Change h r (.delete id) _ := .delete stored
    simpa using change

theorem ask_change (e : Event η) : Change h r e (r.ask h e) := by
  cases e with
  | register type => exact register_change h r type
  | add type id config => exact add_change h r type id config
  | update id config => exact update_change h r id config
  | delete id => exact delete_change h r id
  | shutdown tour => exact .shutdown tour
  | work f => exact .work f

end Change

/-! ### Runs -/

def step (h : Handling η) (r : Registry η) (e : Event η) : Registry η := (r.ask h e).1

def run (h : Handling η) (r : Registry η) (events : List (Event η)) : Registry η :=
  events.foldl (step h) r

theorem run_concat (h : Handling η) (r : Registry η) (events : List (Event η)) (e : Event η) :
    run h r (events ++ [e]) = step h (run h r events) e := by
  rw [run, List.foldl_append]
  rfl

/-- What every run keeps: tables in order, types under their own ids, and a handler for each
instance. -/
structure Orderly (r : Registry η) : Prop where
  types : r.types.Ascending
  instances : r.instances.Ascending
  keyed : ∀ key t, r.types.find? key = some t → t.protocolId = key
  housed : ∀ id i, r.instances.find? id = some i → i.handler < r.handlers.length

section Orderly
variable {h : Handling η} {r : Registry η}

theorem orderly_empty : Orderly ({} : Registry η) where
  types := Table.ascending_empty
  instances := Table.ascending_empty
  keyed := by intro key t found; cases found
  housed := by intro id i found; cases found

theorem Orderly.register (orderly : r.Orderly) (type : AdapterType) :
    Orderly { r with types := r.types.insert type.protocolId type } where
  types := orderly.types.insert _ _
  instances := orderly.instances
  keyed := by
    intro key t found
    rcases Table.find?_insert_eq_some.mp found with ⟨rfl, rfl⟩ | ⟨_, old⟩
    · rfl
    · exact orderly.keyed key t old
  housed := orderly.housed

theorem Orderly.addHandler (orderly : r.Orderly) (x : η) : (r.addHandler x).1.Orderly where
  types := orderly.types
  instances := orderly.instances
  keyed := orderly.keyed
  housed := by
    intro id i found
    have below := orderly.housed id i found
    rw [addHandler_handlers, List.length_append]
    exact Nat.lt_add_right _ below

theorem Orderly.startInstance (orderly : r.Orderly) (id : String) {i : AdapterInstance}
    (housed : i.handler < r.handlers.length) : (startInstance h r id i).Orderly where
  types := by
    rw [startInstance_types]
    exact orderly.types
  instances := by
    rw [startInstance_instances]
    exact orderly.instances.insert _ _
  keyed := by
    rw [startInstance_types]
    exact orderly.keyed
  housed := by
    intro other j found
    rw [startInstance_handlers_length]
    rw [startInstance_instances] at found
    rcases Table.find?_insert_eq_some.mp found with ⟨_, rfl⟩ | ⟨_, old⟩
    · rw [attempted_handler]
      exact housed
    · exact orderly.housed other j old

theorem Orderly.stopInstance (orderly : r.Orderly) (i : AdapterInstance) :
    (stopInstance h r i).Orderly where
  types := by rw [stopInstance_types]; exact orderly.types
  instances := by rw [stopInstance_instances]; exact orderly.instances
  keyed := by rw [stopInstance_types]; exact orderly.keyed
  housed := by
    rw [stopInstance_instances, stopInstance_handlers_length]
    exact orderly.housed

theorem Orderly.erase (orderly : r.Orderly) (id : String) :
    Orderly { r with instances := r.instances.erase id } where
  types := orderly.types
  instances := orderly.instances.erase id
  keyed := orderly.keyed
  housed := by
    intro other i found
    exact orderly.housed other i (Table.find?_erase_eq_some.mp found).2

theorem Orderly.stopAll (orderly : r.Orderly) (is : List AdapterInstance) :
    (r.stopAll h is).Orderly where
  types := by rw [stopAll_types]; exact orderly.types
  instances := by rw [stopAll_instances]; exact Table.ascending_empty
  keyed := by rw [stopAll_types]; exact orderly.keyed
  housed := by
    intro id i found
    rw [stopAll_instances] at found
    cases found

theorem Orderly.change (orderly : r.Orderly) {e : Event η}
    {result : Registry η × Except AdminFault Unit} (change : Change h r e result) :
    result.1.Orderly := by
  cases change with
  | refuse => exact orderly
  | register => exact orderly.register _
  | add => exact (orderly.addHandler _).startInstance _ (by simp)
  | update => exact ((orderly.addHandler _).stopInstance _).startInstance _ (by simp)
  | @delete id old stored =>
    have stopped : (Registry.stopInstance h r old).Orderly := orderly.stopInstance old
    have erased := stopped.erase id
    rw [stopInstance_instances] at erased
    exact erased
  | shutdown => exact orderly.stopAll _
  | work f =>
    refine ⟨orderly.types, orderly.instances, orderly.keyed, ?_⟩
    rw [List.length_mapIdx]
    exact orderly.housed

theorem run_orderly (h : Handling η) (events : List (Event η)) : (run h {} events).Orderly := by
  induction events using List.reverseRecOn with
  | nil => exact orderly_empty
  | append_singleton events e ih =>
    rw [run_concat]
    exact ih.change (ask_change h _ e)

end Orderly
end Registry
end EdgeGateway

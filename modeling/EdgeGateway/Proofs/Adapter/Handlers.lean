import EdgeGateway.Gateway.Basic
import EdgeGateway.Proofs.Adapter.Requests

/-!
# One handler at a time

The handlers of an instance take turns: each is started once, and stopped before the next one is
started. `Turns` says so of the calls made for every id, `run_supervised` of every run of a
registry. A start that fails counts as a start; the instance stays and shows the fault.
-/

namespace EdgeGateway

def HandlerCall.handler : HandlerCall → Nat
  | .start n => n
  | .stop n => n

namespace Registry

variable {η : Type}

/-! ### Turns -/

/-- The handlers made for an id, in the order in which they were made. -/
def handlersFor (owners : List String) (id : String) : List Nat :=
  (List.range owners.length).filter fun n => owners[n]? = some id

/-- The calls of handlers made for an id, in the order in which they returned. -/
def callsFor (owners : List String) (calls : List HandlerCall) (id : String) : List HandlerCall :=
  calls.filter fun c => owners[c.handler]? = some id

/-- The calls of a handler that is done with. -/
def life (n : Nat) : List HandlerCall := [.start n, .stop n]

/-- For each id the calls are start, stop, start, stop and so on, one handler after the other; they
end with a start if a handler of the id is live, else with a stop. -/
structure Turns (owners : List String) (calls : List HandlerCall) (live : String → Option Nat) :
    Prop where
  known : ∀ c ∈ calls, c.handler < owners.length
  owned : ∀ id n, live id = some n → owners[n]? = some id
  turns : ∀ id, ∃ past, handlersFor owners id = past ++ (live id).toList ∧
    callsFor owners calls id = past.flatMap life ++ (live id).toList.map .start

section Turns
variable {owners : List String} {calls : List HandlerCall} {live live' : String → Option Nat}
  {id : String} {n : Nat}

theorem turns_empty : Turns [] [] fun _ => none where
  known := fun _ member => absurd member List.not_mem_nil
  owned := by intro id n none_live; cases none_live
  turns := fun _ => ⟨[], rfl, rfl⟩

theorem handlersFor_concat (owners : List String) (id other : String) :
    handlersFor (owners ++ [id]) other =
      handlersFor owners other ++ if other = id then [owners.length] else [] := by
  have before : ∀ n ∈ List.range owners.length,
      decide ((owners ++ [id])[n]? = some other) = decide (owners[n]? = some other) := by
    intro n member
    rw [List.getElem?_append_left (List.mem_range.mp member)]
  unfold handlersFor
  rw [List.length_append, List.length_singleton, List.range_succ, List.filter_append,
    List.filter_congr before]
  by_cases same : other = id
  · simp [same]
  · simp [same, Ne.symm same]

theorem handlersFor_nodup (owners : List String) (id : String) : (handlersFor owners id).Nodup :=
  List.nodup_range.filter _

/-- A new handler leaves the calls of the others where they are. -/
theorem callsFor_made (known : ∀ c ∈ calls, c.handler < owners.length) (id other : String) :
    callsFor (owners ++ [id]) calls other = callsFor owners calls other := by
  refine List.filter_congr fun c member => ?_
  rw [List.getElem?_append_left (known c member)]

theorem callsFor_concat (owners : List String) (calls : List HandlerCall) {c : HandlerCall}
    (owner : owners[c.handler]? = some id) (other : String) :
    callsFor owners (calls ++ [c]) other =
      callsFor owners calls other ++ if other = id then [c] else [] := by
  unfold callsFor
  rw [List.filter_append]
  by_cases same : other = id
  · simp [owner, same]
  · simp [owner, same, Ne.symm same]

/-- A new handler is made and started where none is live. -/
theorem Turns.start (turns : Turns owners calls live) (free : live id = none)
    (moved : ∀ other, live' other = if other = id then some owners.length else live other) :
    Turns (owners ++ [id]) (calls ++ [.start owners.length]) live' := by
  have owner : (owners ++ [id])[owners.length]? = some id := List.getElem?_concat_length
  constructor
  · intro c member
    rw [List.length_append, List.length_singleton]
    rcases List.mem_append.mp member with old | new
    · exact Nat.lt_succ_of_lt (turns.known c old)
    · obtain rfl := List.mem_singleton.mp new
      exact Nat.lt_succ_self _
  · intro other n found
    rw [moved] at found
    split at found
    next here =>
      cases found
      rw [here]
      exact owner
    next =>
      have there := turns.owned other n found
      rw [List.getElem?_append_left (List.getElem?_eq_some_iff.mp there).1]
      exact there
  · intro other
    obtain ⟨past, handlers, made⟩ := turns.turns other
    refine ⟨past, ?_, ?_⟩
    · rw [handlersFor_concat, handlers, moved]
      by_cases here : other = id
      · simp [here, free]
      · simp [here]
    · rw [callsFor_concat _ _ owner, callsFor_made turns.known, made, moved]
      by_cases here : other = id
      · simp [here, free]
      · simp [here]

/-- The live handler of an id is stopped. -/
theorem Turns.stop (turns : Turns owners calls live) (there : live id = some n)
    (moved : ∀ other, live' other = if other = id then none else live other) :
    Turns owners (calls ++ [.stop n]) live' := by
  have owner : owners[n]? = some id := turns.owned id n there
  constructor
  · intro c member
    rcases List.mem_append.mp member with old | new
    · exact turns.known c old
    · obtain rfl := List.mem_singleton.mp new
      exact (List.getElem?_eq_some_iff.mp owner).1
  · intro other m found
    rw [moved] at found
    split at found
    · cases found
    · exact turns.owned other m found
  · intro other
    obtain ⟨past, handlers, made⟩ := turns.turns other
    rw [callsFor_concat (c := .stop n) _ _ owner, handlers, made, moved]
    by_cases here : other = id
    · refine ⟨past ++ [n], ?_, ?_⟩
      · simp [here, there]
      · simp [here, there, life]
    · exact ⟨past, by simp [here], by simp [here]⟩

/-- Live handlers are stopped in any order. -/
theorem Turns.stopEach {handlers : List Nat} (turns : Turns owners calls live)
    (each : ∀ n ∈ handlers, ∃ id, live id = some n) (once : handlers.Nodup) :
    ∃ live', Turns owners (calls ++ handlers.map .stop) live' ∧
      ∀ id n, live' id = some n ↔ live id = some n ∧ n ∉ handlers := by
  induction handlers generalizing calls live with
  | nil =>
    refine ⟨live, ?_, ?_⟩
    · rw [List.map_nil, List.append_nil]
      exact turns
    · simp
  | cons n rest ih =>
    obtain ⟨id, there⟩ := each n List.mem_cons_self
    obtain ⟨fresh, once⟩ := List.nodup_cons.mp once
    have stopped : Turns owners (calls ++ [.stop n])
        fun other => if other = id then none else live other := turns.stop there fun _ => rfl
    have others : ∀ m ∈ rest, ∃ other, (if other = id then none else live other) = some m := by
      intro m member
      obtain ⟨other, found⟩ := each m (List.mem_cons_of_mem n member)
      refine ⟨other, ?_⟩
      have different : other ≠ id := by
        rintro rfl
        rw [there, Option.some.injEq] at found
        exact fresh (found ▸ member)
      rw [if_neg different]
      exact found
    obtain ⟨live', after, left⟩ := ih stopped others once
    refine ⟨live', ?_, fun other m => ?_⟩
    · rw [List.append_assoc] at after
      exact after
    · rw [left]
      -- the handler stopped first is live for its own id only
      constructor
      · rintro ⟨found, out⟩
        by_cases here : other = id
        · rw [if_pos here] at found
          cases found
        · rw [if_neg here] at found
          refine ⟨found, fun member => ?_⟩
          rcases List.mem_cons.mp member with rfl | later
          · have owner := turns.owned other m found
            rw [turns.owned id m there, Option.some.injEq] at owner
            exact here owner.symm
          · exact out later
      · rintro ⟨found, out⟩
        have different : other ≠ id := by
          rintro rfl
          rw [there, Option.some.injEq] at found
          exact out (found ▸ List.mem_cons_self)
        rw [if_neg different]
        exact ⟨found, fun later => out (List.mem_cons_of_mem n later)⟩

/-! ### What taking turns means -/

/-- The calls for an id are the beginning of the lives of its handlers. -/
theorem Turns.sublist (turns : Turns owners calls live) (id : String) :
    (callsFor owners calls id).Sublist ((handlersFor owners id).flatMap life) := by
  obtain ⟨past, handlers, made⟩ := turns.turns id
  rw [handlers, made, List.flatMap_append]
  refine List.Sublist.append_left ?_ _
  cases live id with
  | none => exact .slnil
  | some n => exact .cons_cons _ (List.nil_sublist _)

theorem life_nodup {handlers : List Nat} (once : handlers.Nodup) : (handlers.flatMap life).Nodup := by
  rw [List.nodup_flatMap]
  constructor
  · intro n _
    simp [life]
  · refine once.imp fun {m n} different => ?_
    intro c first second
    simp only [life, List.mem_cons, List.not_mem_nil, or_false] at first second
    rcases first with rfl | rfl <;> rcases second with same | same <;> cases same <;>
      exact different rfl

/-- No handler is started or stopped twice. -/
theorem Turns.nodup (turns : Turns owners calls live) : calls.Nodup := by
  rw [List.nodup_iff_count_le_one]
  intro c
  by_cases member : c ∈ calls
  · obtain ⟨id, owner⟩ : ∃ id, owners[c.handler]? = some id :=
      ⟨_, List.getElem?_eq_getElem (turns.known c member)⟩
    have once : (callsFor owners calls id).Nodup :=
      (life_nodup (handlersFor_nodup owners id)).sublist (turns.sublist id)
    have same : (callsFor owners calls id).count c = calls.count c :=
      List.count_filter (by simp [owner])
    rw [← same]
    exact List.nodup_iff_count_le_one.mp once c
  · rw [List.count_eq_zero_of_not_mem member]
    exact Nat.zero_le 1

end Turns

/-! ### Registries -/

/-- The handler stored for an id. -/
def stored? (r : Registry η) (id : String) : Option Nat :=
  (r.instances.find? id).map AdapterInstance.handler

/-- The instance that an accepted request puts in place, as its result shows it. -/
def arrived : Event η → Registry η × Except AdminFault Unit → List (String × AdapterInstance)
  | .add _ id _, (r, .ok ()) | .update id _, (r, .ok ()) =>
    (r.instances.find? id).toList.map (id, ·)
  | _, _ => []

/-- All instances there ever were, each under its id and as it was when its handler had been
started. The handler with a number belongs to the instance at that place. -/
def arrivals (h : Handling η) (events : List (Event η)) : List (String × AdapterInstance) :=
  yielded (step h) (fun r e => arrived e (r.ask h e)) {} events

theorem arrivals_concat (h : Handling η) (events : List (Event η)) (e : Event η) :
    arrivals h (events ++ [e]) = arrivals h events ++ arrived e ((run h {} events).ask h e) :=
  yielded_concat _ _ _ events e

/-- Each stored instance is as it was when it arrived, and handlers take turns. -/
structure Supervised (made : List (String × AdapterInstance)) (r : Registry η) : Prop where
  handlers : made.length = r.handlers.length
  numbered : ∀ (n : Nat) (id : String) (i : AdapterInstance), made[n]? = some (id, i) →
    i.handler = n
  kept : ∀ id i, r.instances.find? id = some i → made[i.handler]? = some (id, i)
  turns : Turns (made.map Prod.fst) r.calls r.stored?

section Supervised
variable {h : Handling η} {r : Registry η} {made : List (String × AdapterInstance)}

theorem supervised_empty : Supervised [] ({} : Registry η) where
  handlers := rfl
  numbered := by intro n id i there; cases there
  kept := by intro id i found; cases found
  turns := turns_empty

theorem Supervised.stored_eq (supervised : Supervised made r) {id id' : String}
    {i i' : AdapterInstance} (found : r.instances.find? id = some i)
    (found' : r.instances.find? id' = some i') (same : i.handler = i'.handler) : id = id' := by
  have first := supervised.kept id i found
  have second := supervised.kept id' i' found'
  rw [same, second, Option.some.injEq] at first
  exact (Prod.mk.inj first).1.symm

/-- An instance with the last handler is started where none is live. -/
theorem Supervised.start {r' : Registry η} (supervised : Supervised made r) {id : String}
    (free : r.instances.find? id = none) (i : AdapterInstance) (last : i.handler = made.length)
    (instances : ∀ other, r'.instances.find? other =
      if other = id then some i else r.instances.find? other)
    (calls : r'.calls = r.calls ++ [.start made.length])
    (handlers : r'.handlers.length = r.handlers.length + 1) :
    Supervised (made ++ [(id, i)]) r' := by
  constructor
  · rw [List.length_append, handlers, supervised.handlers, List.length_singleton]
  · intro n other j there
    by_cases here : n = made.length
    · rw [here, List.getElem?_concat_length, Option.some.injEq, Prod.mk.injEq] at there
      rw [here, ← there.2, last]
    · rw [getElem?_concat_ne _ _ here] at there
      exact supervised.numbered n other j there
  · intro other j found
    rw [instances] at found
    split at found
    next here =>
      cases found
      rw [last, List.getElem?_concat_length, here]
    next =>
      have there := supervised.kept other j found
      rw [List.getElem?_append_left (List.getElem?_eq_some_iff.mp there).1]
      exact there
  · have none_live : r.stored? id = none := by rw [stored?, free]; rfl
    have moved (other : String) : r'.stored? other =
        if other = id then some (made.map Prod.fst).length else r.stored? other := by
      rw [stored?, instances, List.length_map]
      split
      · rw [Option.map_some, last]
      · rfl
    have started := supervised.turns.start none_live moved
    rw [List.length_map, ← calls] at started
    rw [List.map_append]
    exact started

/-- A stored instance is stopped and taken out. -/
theorem Supervised.stop {r' : Registry η} (supervised : Supervised made r) {id : String}
    {i : AdapterInstance} (found : r.instances.find? id = some i)
    (instances : ∀ other, r'.instances.find? other =
      if other = id then none else r.instances.find? other)
    (calls : r'.calls = r.calls ++ [.stop i.handler])
    (handlers : r'.handlers.length = r.handlers.length) : Supervised made r' := by
  constructor
  · rw [handlers, supervised.handlers]
  · exact supervised.numbered
  · intro other j there
    rw [instances] at there
    split at there
    · cases there
    · exact supervised.kept other j there
  · rw [calls]
    have there : r.stored? id = some i.handler := by rw [stored?, found]; rfl
    refine supervised.turns.stop there fun other => ?_
    rw [stored?, instances]
    split
    · rfl
    · rfl

theorem Supervised.congr {r' : Registry η} (supervised : Supervised made r)
    (instances : r'.instances = r.instances) (calls : r'.calls = r.calls)
    (handlers : r'.handlers.length = r.handlers.length) : Supervised made r' := by
  refine ⟨supervised.handlers.trans handlers.symm, supervised.numbered, ?_, ?_⟩
  · rw [instances]
    exact supervised.kept
  · have same : r'.stored? = r.stored? := by
      funext id
      rw [stored?, instances]
      rfl
    rw [calls, same]
    exact supervised.turns

/-- The handlers of stored instances are different, in whatever order they are gone through. -/
theorem Supervised.handlers_nodup (supervised : Supervised made r) (orderly : r.Orderly)
    (tour : Tour AdapterInstance) :
    ((tour.visit r.instances.values).map AdapterInstance.handler).Nodup := by
  have perm := (tour.perm r.instances.values).map AdapterInstance.handler
  rw [perm.nodup_iff, Table.values, List.map_map]
  have entries : r.instances.entries.Nodup := orderly.instances.nodup.of_map _
  refine entries.map_on ?_
  rintro ⟨id, i⟩ member ⟨id', i'⟩ member' same
  have found := orderly.instances.find?_eq_some.mpr member
  have found' := orderly.instances.find?_eq_some.mpr member'
  obtain rfl := supervised.stored_eq found found' same
  rw [found, Option.some.injEq] at found'
  rw [found']

theorem Supervised.stopAll (supervised : Supervised made r) (orderly : r.Orderly)
    (tour : Tour AdapterInstance) :
    Supervised made (r.stopAll h (tour.visit r.instances.values)) := by
  have visited : ∀ i, i ∈ tour.visit r.instances.values ↔ ∃ id, r.instances.find? id = some i := by
    intro i
    rw [(tour.perm _).mem_iff, orderly.instances.mem_values]
  have each : ∀ n ∈ (tour.visit r.instances.values).map AdapterInstance.handler,
      ∃ id, r.stored? id = some n := by
    intro n member
    obtain ⟨i, there, rfl⟩ := List.mem_map.mp member
    obtain ⟨id, found⟩ := (visited i).mp there
    exact ⟨id, by rw [stored?, found]; rfl⟩
  obtain ⟨live, turns, left⟩ :=
    supervised.turns.stopEach each (supervised.handlers_nodup orderly tour)
  have none_live : live = fun _ => none := by
    funext id
    rw [Option.eq_none_iff_forall_not_mem]
    intro n there
    obtain ⟨found, out⟩ := (left id n).mp there
    obtain ⟨i, stored, rfl⟩ := Option.map_eq_some_iff.mp found
    exact out (List.mem_map_of_mem ((visited i).mpr ⟨id, stored⟩))
  have housed : ∀ i ∈ tour.visit r.instances.values, i.handler < r.handlers.length := by
    intro i member
    obtain ⟨id, found⟩ := (visited i).mp member
    exact orderly.housed id i found
  constructor
  · rw [stopAll_handlers_length, supervised.handlers]
  · exact supervised.numbered
  · intro id i found
    rw [stopAll_instances] at found
    cases found
  · have empty : (r.stopAll h (tour.visit r.instances.values)).stored? = live := by
      rw [none_live]
      funext id
      rw [stored?, stopAll_instances]
      rfl
    rw [stopAll_calls h housed, empty]
    rw [List.map_map] at turns
    exact turns

theorem Supervised.delete (supervised : Supervised made r) (orderly : r.Orderly) {id : String}
    {old : AdapterInstance} (stored : r.instances.find? id = some old) :
    Supervised made { Registry.stopInstance h r old with instances := r.instances.erase id } :=
  supervised.stop stored (fun other => Table.find?_erase r.instances id other)
    (stopInstance_calls h (orderly.housed id old stored)) (stopInstance_handlers_length h r old)

/-- What a started instance shows of the answer. -/
theorem arrived_add {type id : String} {config : Json} {i : AdapterInstance} :
    arrived (.add type id config) (startInstance h r id i, .ok ()) =
      [(id, i.attempted (r.callHandler i.handler (.start i.handler) h.start).2)] := by
  rw [arrived, startInstance_instances, Table.find?_insert, if_pos rfl]
  rfl

theorem arrived_update {id : String} {config : Json} {i : AdapterInstance} :
    arrived (.update id config) (startInstance h r id i, .ok ()) =
      [(id, i.attempted (r.callHandler i.handler (.start i.handler) h.start).2)] := by
  rw [arrived, startInstance_instances, Table.find?_insert, if_pos rfl]
  rfl

theorem arrived_refused (e : Event η) (fault : AdminFault) :
    arrived e (r, .error fault) = [] := by
  cases e <;> rfl

theorem Supervised.change {e : Event η} {result : Registry η × Except AdminFault Unit}
    (supervised : Supervised made r) (orderly : r.Orderly) (change : Change h r e result) :
    Supervised (made ++ arrived e result) result.1 := by
  have nothing_new {r' : Registry η} (after : Supervised made r') : Supervised (made ++ []) r' := by
    rw [List.append_nil]
    exact after
  cases change with
  | refuse e fault =>
    rw [arrived_refused]
    exact nothing_new supervised
  | register _ => exact nothing_new (supervised.congr rfl rfl rfl)
  | @add type id config t x new _ _ _ =>
    rw [arrived_add]
    refine supervised.start new _ ?_ (fun other => ?_) ?_ ?_
    · rw [attempted_handler, supervised.handlers]
    · rw [startInstance_instances, Table.find?_insert, addHandler_instances]
    · rw [startInstance_calls h id (by simp), addHandler_calls, supervised.handlers]
    · simp
  | @update id config old t x stored _ _ =>
    rw [arrived_update]
    -- as if the old instance were deleted and the new one added
    have alone := supervised.delete (h := h) orderly stored
    have housed := orderly.housed id old stored
    refine alone.start (by simp) _ ?_ (fun other => ?_) ?_ ?_
    · rw [attempted_handler, supervised.handlers]
    · simp only [startInstance_instances, stopInstance_instances, addHandler_instances,
        Table.find?_insert, Table.find?_erase]
      split <;> rfl
    · rw [startInstance_calls h id (by simp), stopInstance_calls h (by simp; omega),
        stopInstance_calls h housed, addHandler_calls, supervised.handlers]
    · simp
  | @delete id old stored => exact nothing_new (supervised.delete orderly stored)
  | shutdown tour => exact nothing_new (supervised.stopAll orderly tour)
  | work f => exact nothing_new (supervised.congr rfl rfl List.length_mapIdx)

theorem run_supervised (h : Handling η) (events : List (Event η)) :
    Supervised (arrivals h events) (run h {} events) := by
  induction events using List.reverseRecOn with
  | nil => exact supervised_empty
  | append_singleton events e ih =>
    rw [run_concat, arrivals_concat]
    exact ih.change (run_orderly h events) (ask_change h _ e)

end Supervised

/-! ### Starts that fail -/

section Accepted
variable (h : Handling η) {r : Registry η} {type id : String} {config : Json} {t : AdapterType}
  {x : η}

end Accepted

/-- How an instance with a new handler looks when the start of the handler failed. -/
def failed (type : String) (config : Json) (handler : Nat) (fault : AdapterFault) :
    AdapterInstance :=
  { type, config, handler, startAttempted := true, errorCount := 1, lastError := fault.message }

def plainType : AdapterType := { protocolId := "plain" }

/-- No adapter with this configuration can be started. -/
def unstartable : Json := .object [("start_error", .string "no link")]

/-- An adapter that cannot be started is added. -/
def addUnstartable : List (Event Handler) :=
  [.register plainType, .add "plain" "a" unstartable]

end Registry
end EdgeGateway

import EdgeGateway.Bridge.Interceptor
import Mathlib.Data.List.Basic

/-!
# Nested chains of interceptors

The members of a chain within a chain may stand in its place (`Splices`), so that interceptors in
nested chains run as in one chain of them all. This holds of interceptors that act in any monad.
Those that record their calls show that a chain calls one after the other, up to the first that
drops or fails, and none after it.
-/

namespace EdgeGateway.Interceptor

abbrev Result := Except InterceptFault Interception

/-! ### Trees of chains -/

/-- Interceptors in chains that are nested in each other. -/
inductive Tree (α : Type) where
  | leaf (a : α)
  | chain (trees : List (Tree α))

/-- The members of a chain within a chain may stand in its place. -/
structure Splices {β : Type} (chain : List β → β) : Prop where
  single : ∀ b, chain [b] = b
  nested : ∀ before inner after,
    chain (before ++ chain inner :: after) = chain (before ++ inner ++ after)

namespace Tree

variable {α β : Type}

mutual

def fold (leaf : α → β) (chain : List β → β) : Tree α → β
  | .leaf a => leaf a
  | .chain trees => chain (folds leaf chain trees)

def folds (leaf : α → β) (chain : List β → β) : List (Tree α) → List β
  | [] => []
  | tree :: trees => tree.fold leaf chain :: folds leaf chain trees

end

/-- From left to right. -/
def leaves : Tree α → List α := fold (fun a => [a]) List.flatten

section Flat
variable {leaf : α → β} {chain : List β → β} (splices : Splices chain)
include splices

mutual

theorem fold_eq : ∀ tree : Tree α, tree.fold leaf chain = chain (tree.leaves.map leaf)
  | .leaf a => (splices.single (leaf a)).symm
  | .chain trees => folds_eq trees []

theorem folds_eq : ∀ (trees : List (Tree α)) (before : List β),
    chain (before ++ folds leaf chain trees) =
      chain (before ++ (folds (fun a => [a]) List.flatten trees).flatten.map leaf)
  | [], before => rfl
  | tree :: trees, before => by
    rw [folds, fold_eq tree, splices.nested, folds_eq trees]
    simp [folds, leaves]

end

end Flat

end Tree

/-! ### Interceptors that act -/

/-- An interceptor that does something besides, such as to record that it is called. -/
abbrev Acting (m : Type → Type) := BridgeContext → Message → m Result

section Acting
variable {m : Type → Type} [Monad m]

/-- Goes on with a message that passes. A drop or a failure is final. -/
def goOn (next : Message → m Result) : Result → m Result
  | .ok (.pass msg) => next msg
  | .ok .drop => pure (.ok .drop)
  | .error fault => pure (.error fault)

def Acting.chain : List (Acting m) → Acting m
  | [] => fun _ msg => pure (.ok (.pass msg))
  | first :: rest => fun c msg => first c msg >>= goOn (Acting.chain rest c)

theorem goOn_pass (r : Result) : goOn (m := m) (fun msg => pure (.ok (.pass msg))) r = pure r := by
  match r with
  | .ok (.pass msg) => rfl
  | .ok .drop => rfl
  | .error fault => rfl

variable [LawfulMonad m]

theorem goOn_bind (f g : Message → m Result) (r : Result) :
    goOn f r >>= goOn g = goOn (fun msg => f msg >>= goOn g) r := by
  match r with
  | .ok (.pass msg) => rfl
  | .ok .drop => exact pure_bind (.ok .drop) (goOn g)
  | .error fault => exact pure_bind (.error fault) (goOn g)

namespace Acting

theorem chain_append (xs ys : List (Acting m)) (c : BridgeContext) (msg : Message) :
    chain (xs ++ ys) c msg = chain xs c msg >>= goOn (chain ys c) := by
  induction xs generalizing msg with
  | nil => exact (pure_bind (.ok (.pass msg)) (goOn (chain ys c))).symm
  | cons x xs ih =>
    show x c msg >>= goOn (chain (xs ++ ys) c) = (x c msg >>= goOn (chain xs c)) >>= goOn (chain ys c)
    rw [bind_assoc, funext ih]
    simp only [goOn_bind]

theorem chain_single (x : Acting m) : chain [x] = x := by
  funext c msg
  show x c msg >>= goOn (fun msg => pure (.ok (.pass msg))) = x c msg
  rw [funext goOn_pass, bind_pure]

theorem splices : Splices (chain : List (Acting m) → Acting m) where
  single := chain_single
  nested before inner after := by
    have spliced : chain (chain inner :: after) = chain (inner ++ after) :=
      funext₂ fun c msg => (chain_append inner after c msg).symm
    funext c msg
    rw [chain_append, spliced, ← chain_append, List.append_assoc]

end Acting
end Acting

/-! ### Pure interceptors -/

theorem chain_cons (x : Interceptor) (xs : List Interceptor) (c : BridgeContext) (msg : Message) :
    chain (x :: xs) c msg = goOn (m := Id) (chain xs c) (x c msg) := by
  simp only [chain]
  cases x c msg with
  | error fault => rfl
  | ok outcome => cases outcome <;> rfl

/-- Pure interceptors are those that do nothing besides. -/
theorem chain_eq_acting (xs : List Interceptor) : chain xs = Acting.chain (m := Id) xs := by
  induction xs with
  | nil => rfl
  | cons x xs ih =>
    funext c msg
    rw [chain_cons, ih]
    rfl

theorem splices_chain : Splices chain := by
  rw [funext chain_eq_acting]
  exact Acting.splices (m := Id)

theorem chain_append (xs ys : List Interceptor) (c : BridgeContext) (msg : Message) :
    chain (xs ++ ys) c msg = goOn (m := Id) (chain ys c) (chain xs c msg) := by
  rw [chain_eq_acting, chain_eq_acting xs, chain_eq_acting ys]
  exact Acting.chain_append (m := Id) xs ys c msg

/-! ### Interceptors that record their calls -/

abbrev Calls := List (Interceptor × Message)

/-- An interceptor that writes down each message that it is given. -/
def recorded (x : Interceptor) : Acting (StateM Calls) := fun c msg => do
  modify (· ++ [(x, msg)])
  return x c msg

/-- The calls of a chain. -/
def calls : List Interceptor → BridgeContext → Message → Calls
  | [], _, _ => []
  | x :: xs, c, msg => (x, msg) :: match x c msg with
    | .ok (.pass msg) => calls xs c msg
    | _ => []

theorem run_recorded (xs : List Interceptor) (c : BridgeContext) (msg : Message) (before : Calls) :
    (Acting.chain (xs.map recorded) c msg).run before =
      (chain xs c msg, before ++ calls xs c msg) := by
  induction xs generalizing msg before with
  | nil => exact Prod.ext rfl (List.append_nil before).symm
  | cons x xs ih =>
    show (goOn (Acting.chain (xs.map recorded) c) (x c msg)).run (before ++ [(x, msg)]) = _
    rw [chain_cons, calls]
    cases x c msg with
    | error fault => rfl
    | ok outcome =>
      cases outcome with
      | drop => rfl
      | pass next =>
        simp only [goOn]
        rw [ih, List.append_assoc]
        rfl

theorem getElem?_calls {xs : List Interceptor} {c : BridgeContext} {msg msg' : Message} {k : Nat}
    {x : Interceptor} : (calls xs c msg)[k]? = some (x, msg') ↔
      xs[k]? = some x ∧ chain (xs.take k) c msg = .ok (.pass msg') := by
  induction xs generalizing msg k with
  | nil => simp [calls]
  | cons y xs ih =>
    cases k with
    | zero => simp [calls, chain, passThrough]
    | succ k =>
      rw [calls, List.getElem?_cons_succ, List.getElem?_cons_succ, List.take_succ_cons, chain_cons]
      cases y c msg with
      | error fault => simp [goOn, pure]
      | ok outcome =>
        cases outcome with
        | drop => simp [goOn, pure]
        | pass next => exact ih

/-! ### Trees of interceptors -/

def Tree.interceptor : Tree Interceptor → Interceptor := fold id Interceptor.chain

/-- The same run, but with a record of the calls. -/
def Tree.watched : Tree Interceptor → Acting (StateM Calls) := fold recorded Acting.chain

theorem Tree.interceptor_eq (tree : Tree Interceptor) : tree.interceptor = Interceptor.chain tree.leaves := by
  rw [interceptor, fold_eq splices_chain, List.map_id]

theorem Tree.run_watched (tree : Tree Interceptor) (c : BridgeContext) (msg : Message) :
    (tree.watched c msg).run [] = (tree.interceptor c msg, calls tree.leaves c msg) := by
  rw [watched, fold_eq Acting.splices, run_recorded, tree.interceptor_eq, List.nil_append]

mutual

/-- The interceptors that a rule is made of. -/
def Rule.tree : Rule → Tree Interceptor
  | .chain rules => .chain (Rule.trees rules)
  | rule => .leaf rule.interceptor

def Rule.trees : List Rule → List (Tree Interceptor)
  | [] => []
  | rule :: rules => rule.tree :: Rule.trees rules

end

mutual

theorem Rule.interceptor_tree : ∀ rule : Rule, rule.tree.interceptor = rule.interceptor
  | .chain rules => by
    rw [Rule.tree, Tree.interceptor, Tree.fold, Rule.folds_trees rules, Rule.interceptor]
  | .pass | .append _ | .setTopic _ | .property _ _ | .drop | .dropTopic _ | .fail _ | .context => rfl

theorem Rule.folds_trees : ∀ rules : List Rule,
    Tree.folds id Interceptor.chain (Rule.trees rules) = Rule.interceptors rules
  | [] => rfl
  | rule :: rules => by
    rw [Rule.trees, Tree.folds, Rule.folds_trees rules, Rule.interceptors]
    exact congrArg (· :: _) (Rule.interceptor_tree rule)

end

section Stop
variable {xs : List Interceptor} {c : BridgeContext} {msg next : Message} {k : Nat} {x : Interceptor}

/-- The first interceptor that does not pass a message on has the last call, and its result is that of
the chain. -/
theorem chain_stops (called : (calls xs c msg)[k]? = some (x, next))
    (stops : ∀ other, x c next ≠ .ok (.pass other)) :
    chain xs c msg = x c next ∧ (calls xs c msg).length = k + 1 := by
  obtain ⟨there, passed⟩ := getElem?_calls.mp called
  have final (rest : List Interceptor) : chain (x :: rest) c next = x c next := by
    rw [chain_cons]
    cases result : x c next with
    | error fault => rfl
    | ok outcome =>
      cases outcome with
      | drop => rfl
      | pass other => exact absurd result (stops other)
  obtain ⟨below, here⟩ := List.getElem?_eq_some_iff.mp there
  constructor
  · conv_lhs => rw [← List.take_append_drop k xs, chain_append, passed, List.drop_eq_getElem_cons below, here]
    exact final _
  · have before : k < (calls xs c msg).length := (List.getElem?_eq_some_iff.mp called).1
    have none_after : (calls xs c msg)[k + 1]? = none := by
      by_contra some_after
      obtain ⟨⟨_, other⟩, after⟩ := Option.ne_none_iff_exists'.mp some_after
      obtain ⟨_, passed_on⟩ := getElem?_calls.mp after
      rw [List.take_add_one, there, chain_append, passed] at passed_on
      exact stops other ((final []).symm.trans passed_on)
    have after := List.getElem?_eq_none_iff.mp none_after
    omega

end Stop

/-- Interceptors in nested chains run as in one chain of them all, from left to right, and so do those
that a rule is made of. A chain of two parts is the first and then, with the message that it passes on,
the second; the empty one passes the message on. A record of the calls shows that an interceptor is
called if those before it pass the message on, with what they make of it, and that the first that
drops or fails has the last call and gives the result. -/
theorem nested_chains_run_as_one (tree : Tree Interceptor) (c : BridgeContext) (msg : Message) :
    tree.interceptor c msg = chain tree.leaves c msg ∧
    (∀ rule : Rule, rule.interceptor c msg = chain rule.tree.leaves c msg) ∧
    (∀ xs ys : List Interceptor, chain (xs ++ ys) c msg = match chain xs c msg with
      | .ok (.pass next) => chain ys c next
      | .ok .drop => .ok .drop
      | .error fault => .error fault) ∧
    chain [] c msg = .ok (.pass msg) ∧
    ∃ called, (tree.watched c msg).run [] = (tree.interceptor c msg, called) ∧
      (∀ k x next, called[k]? = some (x, next) ↔ tree.leaves[k]? = some x ∧
        chain (tree.leaves.take k) c msg = .ok (.pass next)) ∧
      ∀ k x next, called[k]? = some (x, next) → (∀ other, x c next ≠ .ok (.pass other)) →
        tree.interceptor c msg = x c next ∧ called.length = k + 1 := by
  refine ⟨by rw [tree.interceptor_eq], fun rule => ?_, fun xs ys => ?_, rfl,
    calls tree.leaves c msg, tree.run_watched c msg, fun k x next => getElem?_calls,
    fun k x next called stops => ?_⟩
  · rw [← rule.interceptor_tree, Tree.interceptor_eq]
  · rw [chain_append]
    rfl
  · rw [tree.interceptor_eq]
    exact chain_stops called stops

/-- A rule that drops in a chain within a chain. -/
def droppingRule : Rule := .chain [.setTopic "b", .chain [.pass, .drop, .context], .fail "late"]

theorem droppingRule_stops :
    let c : BridgeContext := { bridgeId := "b1", direction := .outbound }
    let msg : Message := { topic := "a" }
    droppingRule.interceptor c msg = .ok .drop ∧
      ∃ called, (droppingRule.tree.watched c msg).run [] = (.ok .drop, called) ∧
        called.map Prod.snd = [msg, { msg with topic := "b" }, { msg with topic := "b" }] := by
  intro c msg
  obtain ⟨flat, rules, _, _, called, watched, each, last⟩ :=
    nested_chains_run_as_one droppingRule.tree c msg
  have first := (each 0 _ msg).mpr ⟨rfl, rfl⟩
  have second := (each 1 _ { msg with topic := "b" }).mpr ⟨rfl, rfl⟩
  have third := (each 2 _ { msg with topic := "b" }).mpr ⟨rfl, rfl⟩
  have stops (other : Message) : (.ok .drop : Result) ≠ .ok (.pass other) := nofun
  obtain ⟨dropped, three⟩ := last 2 _ _ third stops
  have result : droppingRule.interceptor c msg = .ok .drop :=
    (rules droppingRule).trans (flat.symm.trans dropped)
  refine ⟨result, called, ?_, ?_⟩
  · rw [watched, dropped]
    rfl
  · obtain ⟨x, y, z, rfl⟩ := List.length_eq_three.mp three
    obtain rfl := Option.some.inj first
    obtain rfl := Option.some.inj second
    obtain rfl := Option.some.inj third
    rfl

end EdgeGateway.Interceptor

import EdgeGateway.Proofs.Bridge.Stopping

/-!
# The directory of bridges

To whoever manages bridges a manager is a finite map: under each id it has the configuration and the
remote that were installed last. `Directory` says what requests do to such a map and how they are
answered, and `Register` when they take effect if there are changes that wait. `register_step` shows
that a manager does the same in each of its steps.
-/

namespace EdgeGateway

/-! ### Specification -/

structure Installation where
  config : BridgeConfig
  remote : String

def Link.installation (l : Link) : Installation := { config := l.config, remote := l.remote }

/-- What is installed under each id. -/
abbrev Directory := Finmap fun _ : String => Installation

inductive Request where
  | add (config : BridgeConfig) (remote : String)
  | update (config : BridgeConfig) (remote : String)
  | delete (id : String)

namespace Request

def id : Request → String
  | .add config _ | .update config _ => config.id
  | .delete id => id

/-- How a request begins. -/
def action : Request → BridgeManager.Action
  | .add config remote => .add config remote
  | .update config remote => .beginUpdate config remote
  | .delete id => .beginDelete id

end Request

namespace Directory

/-- What is wrong with a request. -/
def fault? (d : Directory) : Request → Option AdminFault
  | .add config _ =>
    match d.lookup config.id with
    | some _ => some (.duplicateId .bridge config.id)
    | none => config.fault?
  | .update config _ =>
    match d.lookup config.id with
    | some _ => config.fault?
    | none => some (.notFound .bridge config.id)
  | .delete id =>
    match d.lookup id with
    | some _ => none
    | none => some (.notFound .bridge id)

def answer (d : Directory) (r : Request) : Except AdminFault Unit :=
  match d.fault? r with
  | some fault => .error fault
  | none => .ok ()

def put (d : Directory) : Request → Directory
  | .add config remote | .update config remote => d.insert config.id { config, remote }
  | .delete id => d.erase id

/-- The directory after a request: as before if anything is wrong with it. -/
def after (d : Directory) (r : Request) : Directory :=
  match d.fault? r with
  | some _ => d
  | none => d.put r

end Directory

open BridgeManager (Action)

/-- A directory and the change that waits to take effect. -/
structure Register where
  directory : Directory := ∅
  change : Option Request := none

namespace Register

def begin (s : Register) (r : Request) : Register :=
  if s.change.isSome || (s.directory.fault? r).isSome then s else { s with change := some r }

def step (s : Register) : Action → Register
  | .add config remote =>
    if s.change.isSome then s else { s with directory := s.directory.after (.add config remote) }
  | .beginUpdate config remote => s.begin (.update config remote)
  | .beginDelete id => s.begin (.delete id)
  | .complete =>
    match s.change with
    | some r => { directory := s.directory.put r }
    | none => s
  | .giveUp => { s with change := none }
  | _ => s

def run (s : Register) (actions : List Action) : Register := actions.foldl step s

end Register

/-! ### Abstraction -/

namespace BridgeManager

def directory (m : BridgeManager) : Directory := (m.links.map Link.installation).toFinmap

@[simp] theorem lookup_directory (m : BridgeManager) (id : String) :
    m.directory.lookup id = (m.links.find? id).map Link.installation := by
  rw [directory, Table.lookup_toFinmap, Table.find?_map]

theorem directory_eq {m : BridgeManager} {d : Directory}
    (same : ∀ id, (m.links.find? id).map Link.installation = d.lookup id) : m.directory = d :=
  Finmap.ext_lookup fun id => (lookup_directory m id).trans (same id)

theorem directory_insert {m m' : BridgeManager} {id : String} {l : Link}
    (links : m'.links = m.links.insert id l) :
    m'.directory = m.directory.insert id l.installation := by
  refine directory_eq fun other => ?_
  rw [links, Table.find?_insert]
  split
  next same => rw [same, Finmap.lookup_insert, Option.map_some]
  next different => rw [Finmap.lookup_insert_of_ne _ different, lookup_directory]

theorem directory_erase {m m' : BridgeManager} {id : String} (links : m'.links = m.links.erase id) :
    m'.directory = m.directory.erase id := by
  refine directory_eq fun other => ?_
  rw [links, Table.find?_erase]
  split
  next same => rw [same, Finmap.lookup_erase, Option.map_none]
  next different => rw [Finmap.lookup_erase_ne different, lookup_directory]

theorem directory_congr {m m' : BridgeManager} (links : m'.links = m.links) :
    m'.directory = m.directory := by
  rw [directory, directory, links]

/-- One forwarder for each subscription of a direction, in order, with its id and its filters. -/
def Staffs (t : Traffic) (bridge : String) (d : Direction) (target : Target) (lanes : List Nat)
    (subscriptions : List BridgeSubscription) : Prop :=
  List.Forall₂ (fun lane numbered => ∃ f, t.post? lane = some (f, target) ∧
    f.id = s!"{bridge}-{d.text}-{numbered.2}" ∧ f.bridgeId = bridge ∧ f.direction = d ∧
    f.filters = numbered.1.filters) lanes subscriptions.zipIdx

theorem Serve.staffs {t : Traffic} {config : BridgeConfig} {d : Direction} {target : Target}
    {lanes : List Nat} {subscriptions : List BridgeSubscription}
    (serve : Serve t config d target lanes subscriptions) :
    Staffs t config.id d target lanes subscriptions := by
  refine List.Forall₂.imp (fun lane numbered => ?_) serve
  rintro ⟨f, there, built⟩
  exact ⟨f, there, Forwarder.build_labels built⟩

/-- What can be asked about bridges is what the directory says. -/
structure Agrees (m : BridgeManager) (d : Directory) : Prop where
  get : ∀ id, (m.links.find? id).map Link.installation = d.lookup id
  count : m.links.size = d.keys.card
  keys : m.links.keys = d.keys.sort (· ≤ ·)
  ascending : m.links.keys.Pairwise (· < ·)
  entries : ∀ id link, (id, link) ∈ m.links.entries ↔ m.links.find? id = some link
  keyed : ∀ id i, d.lookup id = some i → i.config.id = id
  outbound : ∀ id link, m.links.find? id = some link → Staffs m.traffic id .outbound
    (.remote link.remote) link.outbound link.config.localSubscriptions
  inbound : ∀ id link, m.links.find? id = some link → Staffs m.traffic id .inbound
    .localBroker link.inbound link.config.remoteSubscriptions

theorem State.Consistent.agrees {s : State} (consistent : State.Consistent s) :
    Agrees s.manager s.manager.directory := by
  have same := s.manager.links.keys_map Link.installation
  have ascending : (s.manager.links.map Link.installation).Ascending := by
    rw [Table.Ascending, same]
    exact consistent.ascending
  have keys : s.manager.links.keys = s.manager.directory.keys.sort (· ≤ ·) :=
    same.symm.trans ascending.keys_eq_sort
  constructor
  · exact fun id => (s.manager.lookup_directory id).symm
  · have size : s.manager.links.size = s.manager.links.keys.length := (List.length_map _).symm
    rw [size, keys, Finset.length_sort]
  · exact keys
  · exact consistent.ascending
  · intro id link
    exact consistent.ascending.find?_eq_some.symm
  · intro id i found
    rw [lookup_directory] at found
    obtain ⟨link, installed, rfl⟩ := Option.map_eq_some_iff.mp found
    exact consistent.keyed installed
  · intro id link installed
    have served := (consistent.furnished installed).outbound.staffs
    rwa [consistent.keyed installed] at served
  · intro id link installed
    have served := (consistent.furnished installed).inbound.staffs
    rwa [consistent.keyed installed] at served

/-! ### Answers -/

/-- What a request does at once, and its answer. Changes of a link only begin with it. -/
def ask (m : BridgeManager) : Request → BridgeManager × Except AdminFault Unit
  | .add config remote => m.add config remote
  | .update config remote =>
    ((m.beginUpdate config remote).1, (m.beginUpdate config remote).2.map fun _ => ())
  | .delete id => ((m.beginDelete id).1, (m.beginDelete id).2.map fun _ => ())

theorem ask_answer (m : BridgeManager) (r : Request) : (m.ask r).2 = m.directory.answer r := by
  cases r with
  | add config remote =>
    rw [ask, add_result, Table.contains_eq, Directory.answer, Directory.fault?, lookup_directory]
    cases m.links.find? config.id <;> rfl
  | update config remote =>
    rw [ask, beginUpdate_result, Directory.answer, Directory.fault?, lookup_directory]
    cases m.links.find? config.id <;> rfl
  | delete id =>
    rw [ask, beginDelete, Directory.answer, Directory.fault?, lookup_directory]
    cases m.links.find? id <;> rfl

theorem fault?_eq_some {m : BridgeManager} {r : Request} {fault : AdminFault}
    (failed : (m.ask r).2 = .error fault) : m.directory.fault? r = some fault := by
  rw [ask_answer, Directory.answer] at failed
  split at failed
  · cases failed
    assumption
  · cases failed

theorem fault?_eq_none {m : BridgeManager} {r : Request} (done : (m.ask r).2 = .ok ()) :
    m.directory.fault? r = none := by
  rw [ask_answer, Directory.answer] at done
  split at done
  · cases done
  · assumption

/-- A request that fails leaves everything as it was. -/
theorem ask_unchanged {m : BridgeManager} {r : Request} {fault : AdminFault}
    (failed : (m.ask r).2 = .error fault) : Unchanged m (m.ask r).1 := by
  cases r with
  | add config remote =>
    simp only [ask] at failed ⊢
    rcases m.add_cases config remote with ⟨m', _, result, unchanged⟩ | ⟨m', link, result, _⟩
    · rw [result]
      exact unchanged
    · rw [result] at failed
      cases failed
  | update config remote =>
    simp only [ask] at failed ⊢
    rcases m.beginUpdate_cases config remote with ⟨m', _, result, unchanged⟩ | ⟨_, m', _, result, _⟩
    · rw [result]
      exact unchanged
    · rw [result] at failed
      cases failed
  | delete id =>
    simp only [ask] at failed ⊢
    rcases m.beginDelete_cases id with ⟨_, result⟩ | ⟨_, result, _⟩
    · rw [result]
      exact .refl m
    · rw [result] at failed
      cases failed

namespace State

variable {s : State} {a : Action} {actions : List Action}

/-- What waits to take effect, as it was asked for. -/
def request (h : Handover) : Request :=
  match h.replacement with
  | .link l => .update l.config l.remote
  | .nothing => .delete h.id

def register (s : State) : Register where
  directory := s.manager.directory
  change := s.change.map request

/-- A change begins when the request for it is answered, and no link goes or comes with that. -/
theorem register_begin {m : BridgeManager} {r : Request}
    {begun : BridgeManager × Except AdminFault Handover}
    (answered : (m.ask r).2 = begun.2.map fun _ => ()) (links : begun.1.links = m.links)
    (asked : ∀ h, begun.2 = .ok h → request h = r) :
    ((State.mk m none).begin begun).register = (State.mk m none).register.begin r := by
  have same := directory_congr links
  obtain ⟨m', fault | h⟩ := begun
  · have faulty : ((State.mk m none).register.directory.fault? r).isSome = true :=
      Option.isSome_iff_exists.mpr ⟨fault, fault?_eq_some answered⟩
    rw [Register.begin, if_pos (by rw [faulty, Bool.or_true])]
    exact congrArg (Register.mk · none) same
  · have clean : (State.mk m none).register.directory.fault? r = none :=
      fault?_eq_none answered
    rw [Register.begin, if_neg (by rw [clean]; exact Bool.false_ne_true)]
    exact congrArg₂ Register.mk same (congrArg some (asked h rfl))

/-- A step of a manager is a step of its directory. -/
theorem register_step (s : State) (a : Action) : (s.step a).register = s.register.step a := by
  obtain ⟨m, change⟩ := s
  cases a with
  | add config remote =>
    simp only [step, Register.step, register, Option.isSome_map]
    split
    · rfl
    · refine congrArg (Register.mk · _) ?_
      rcases m.add_cases config remote with
        ⟨m', fault, failed, unchanged⟩ | ⟨m', link, done, _, built⟩
      · have answered : (m.ask (.add config remote)).2 = .error fault := congrArg Prod.snd failed
        rw [Directory.after, fault?_eq_some answered, failed]
        exact directory_congr unchanged.links
      · have answered : (m.ask (.add config remote)).2 = .ok () := congrArg Prod.snd done
        have links : (m.add config remote).1.links = m.links.insert config.id link := by
          rw [done, putLink, built.config]
          exact congrArg (Table.insert · config.id link) built.links
        rw [Directory.after, fault?_eq_none answered, directory_insert links,
          Link.installation, built.config, built.remote]
        rfl
  | beginUpdate config remote =>
    cases change with
    | some h => rfl
    | none =>
      refine register_begin rfl ?_ ?_
      · rcases m.beginUpdate_cases config remote with
          ⟨m', _, failed, unchanged⟩ | ⟨old, m', link, done, _, built⟩
        · rw [failed]
          exact unchanged.links
        · rw [done]
          exact built.links
      · intro h begun
        rcases m.beginUpdate_cases config remote with
          ⟨m', _, failed, _⟩ | ⟨old, m', link, done, _, built⟩
        · rw [failed] at begun
          cases begun
        · rw [done] at begun
          cases begun
          change Request.update link.config link.remote = _
          rw [built.config, built.remote]
  | beginDelete id =>
    cases change with
    | some h => rfl
    | none =>
      refine register_begin rfl ?_ ?_
      · rcases m.beginDelete_cases id with ⟨_, failed⟩ | ⟨_, done, _⟩
        · rw [failed]
        · rw [done]
          rfl
      · intro h begun
        rcases m.beginDelete_cases id with ⟨_, failed⟩ | ⟨_, done, _⟩
        · rw [failed] at begun
          cases begun
        · rw [done] at begun
          cases begun
          rfl
  | complete =>
    cases change with
    | none => rfl
    | some h =>
      obtain ⟨id, link | _⟩ := h
      · exact congrArg (Register.mk · none) (directory_insert rfl)
      · exact congrArg (Register.mk · none) (directory_erase rfl)
  | forwardRemote id message messageId =>
    simp only [step, forwardRemote]
    cases m.links.find? id <;> rfl
  | giveUp | startAll | stopAll | forwardLocal | intercepted | answered | abort => rfl

/-- A manager and a directory that start empty stay together. -/
theorem run_register (actions : List Action) : (run {} actions).register = Register.run {} actions := by
  induction actions using List.reverseRecOn with
  | nil => rfl
  | append_singleton actions a ih =>
    rw [run, Register.run, List.foldl_concat, List.foldl_concat, ← run, ← Register.run, ← ih]
    exact register_step _ a

theorem begin_failed {begun : BridgeManager × Except AdminFault Handover}
    {fault : AdminFault} (failed : (begun.2.map fun _ => ()) = .error fault) :
    s.begin begun = { s with manager := begun.1 } := by
  obtain ⟨m', _ | h⟩ := begun
  · rfl
  · cases failed

/-- A request that fails leaves everything as it was, and no change begins. -/
theorem step_failed {r : Request} {fault : AdminFault} (failed : (s.manager.ask r).2 = .error fault) :
    Unchanged s.manager (s.step r.action).manager ∧ (s.step r.action).change = s.change := by
  have asked := ask_unchanged failed
  have stepped : s.step r.action = s ∨ s.step r.action = { s with manager := (s.manager.ask r).1 } := by
    cases r with
    | add config remote =>
      simp only [Request.action, step]
      split
      · exact .inl rfl
      · exact .inr rfl
    | update config remote =>
      simp only [Request.action, step]
      split
      · exact .inl rfl
      · exact .inr (begin_failed failed)
    | delete id =>
      simp only [Request.action, step]
      split
      · exact .inl rfl
      · exact .inr (begin_failed failed)
  rcases stepped with same | same
  · rw [same]
    exact ⟨.refl _, rfl⟩
  · rw [same]
    exact ⟨asked, rfl⟩

/-! ### Bridges that run -/

/-- All forwarders of the bridge run. -/
def Live (s : State) (id : String) : Prop :=
  ∀ link, s.manager.links.find? id = some link →
    ∀ lane ∈ link.lanes, s.manager.traffic.Running lane

/-- A bridge that has been added runs. -/
theorem add_live {config : BridgeConfig} {remote : String} (idle : s.change = none)
    (done : (s.manager.ask (.add config remote)).2 = .ok ()) :
    (s.step (.add config remote)).Live config.id := by
  intro link installed lane member
  have step : s.step (.add config remote) = { s with manager := (s.manager.add config remote).1 } := by
    simp only [State.step, idle, Option.isSome_none, Bool.false_eq_true, ↓reduceIte]
  rw [step] at installed ⊢
  rcases s.manager.add_cases config remote with ⟨m', fault, failed, _⟩ | ⟨m', new, added, _, built⟩
  · rw [ask, failed] at done
    cases done
  · rw [added] at installed ⊢
    dsimp only at installed ⊢
    rw [putLink, Table.find?_insert, if_pos (by rw [built.config])] at installed
    obtain rfl := Option.some.inj installed
    obtain ⟨f, present, _⟩ := built.furnished.bridge member
    exact setRunning_of_mem member present true

/-- A bridge whose update has taken effect runs. -/
theorem Consistent.complete_live (consistent : Consistent s) {h : Handover}
    (pending : s.change = some h) : (s.step .complete).Live h.id := by
  intro link installed lane member
  have step : s.step .complete = { manager := s.manager.complete h } := by
    simp only [State.step, pending]
  rw [step] at installed ⊢
  dsimp only at installed ⊢
  unfold complete at installed ⊢
  split at installed
  next new replacement =>
    obtain ⟨named, furnished⟩ := consistent.replacement pending replacement
    rw [setRunning, putLink, Table.find?_insert, if_pos named.symm] at installed
    obtain rfl := Option.some.inj installed
    obtain ⟨f, present, _⟩ := furnished.bridge member
    exact setRunning_of_mem member present true
  next =>
    rw [Table.find?_erase, if_pos rfl] at installed
    cases installed

end State
end BridgeManager
end EdgeGateway

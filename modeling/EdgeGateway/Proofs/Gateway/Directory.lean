import EdgeGateway.Document.Status
import EdgeGateway.Proofs.Bridge.Directory
import EdgeGateway.Proofs.Gateway.Drain

/-!
# The bridges a gateway shows

A gateway carries a request through from its beginning to its end, with the wait in between. So to
whoever manages it one request after the other changes its directory at once, and its status documents
are those of the directory.
-/

namespace EdgeGateway

open BridgeManager (Action Passes)

/-! ### Requests and the register -/

namespace Register

theorem run_append (s : Register) (before after : List Action) :
    s.run (before ++ after) = (s.run before).run after :=
  List.foldl_append

theorem run_passes (s : Register) {actions : List Action} (passes : ∀ a ∈ actions, Passes a) :
    s.run actions = s := by
  induction actions with
  | nil => rfl
  | cons a actions ih =>
    have rest := ih fun a' member => passes a' (List.mem_cons_of_mem a member)
    have first := passes a List.mem_cons_self
    cases a with
    | forwardLocal | intercepted | answered => exact rest
    | _ => cases first

/-- A request from its beginning to its end, with nothing but messages in between. -/
theorem run_request (s : Register) (idle : s.change = none) (r : Request) {during : List Action}
    (passes : ∀ a ∈ during, Passes a) :
    s.run (r.action :: during ++ [.complete]) = { directory := s.directory.after r } := by
  obtain ⟨d, _⟩ := s
  subst idle
  have run : Register.run ⟨d, none⟩ (r.action :: during ++ [.complete]) =
      (Register.step ⟨d, none⟩ r.action).step .complete := by
    rw [run_append]
    exact congrArg (·.step .complete) (run_passes _ passes)
  rw [run]
  cases r with
  | add config remote => rfl
  | update config remote =>
    simp only [Request.action, step, begin, Directory.after]
    cases d.fault? (.update config remote) <;> rfl
  | delete id =>
    simp only [Request.action, step, begin, Directory.after]
    cases d.fault? (.delete id) <;> rfl

end Register

namespace Gateway

open BridgeManager (Agrees State Turn Unchanged Watch acts)

variable {g g' : Gateway} {actions : List Action}

/-! ### Documents -/

def connection (g : Gateway) (i : Installation) : ConnectionStatus :=
  .ofBool (g.isConnected (.remote i.remote))

def inflightOf (g : Gateway) (id : String) : Nat :=
  match g.bridges.links.find? id with
  | some link => g.bridges.linkInflight link
  | none => 0

/-- The status of a bridge, from what is installed and how many messages it has under way. -/
def statusDocument (g : Gateway) (id : String) (i : Installation) : Json :=
  .ofMembers [("id", .string id), ("endpoint", .string i.config.endpoint),
    ("connection", .string (g.connection i).text),
    ("forwarders", .ofNat (i.config.localSubscriptions.length + i.config.remoteSubscriptions.length)),
    ("inflight", .ofNat (g.inflightOf id))]

/-- What is shown of the bridges, one by one and as a whole. -/
structure Shows (g : Gateway) (d : Directory) : Prop where
  connection : ∀ id, (g.bridges.find id).map g.bridgeStatus = match d.lookup id with
    | some i => .ok (g.connection i)
    | none => .error (.notFound .bridge id)
  statuses : g.bridges.links.entries.map (fun (id, l) => g.bridgeDocument id l) =
    (d.keys.sort (· ≤ ·)).filterMap fun id => (d.lookup id).map (g.statusDocument id)

theorem bridgeDocument_eq {d : Directory} (agrees : Agrees g.bridges d) {id : String} {link : Link}
    (installed : g.bridges.links.find? id = some link) :
    g.bridgeDocument id link = g.statusDocument id link.installation := by
  have lanes : link.lanes.length = link.config.localSubscriptions.length +
      link.config.remoteSubscriptions.length := by
    have sent := (agrees.outbound id link installed).length_eq
    have got := (agrees.inbound id link installed).length_eq
    rw [List.length_zipIdx] at sent got
    rw [Link.lanes, List.length_append, sent, got]
  have inflight : g.inflightOf id = g.bridges.linkInflight link := by rw [inflightOf, installed]
  rw [bridgeDocument, statusDocument, lanes, inflight]
  rfl

theorem shows_of_agrees {d : Directory} (agrees : Agrees g.bridges d) : g.Shows d := by
  constructor
  · intro id
    rw [← agrees.get, BridgeManager.find]
    cases g.bridges.links.find? id <;> rfl
  · have ascending : g.bridges.links.Ascending := agrees.ascending
    rw [← agrees.keys, ascending.entries_eq, List.map_filterMap]
    refine List.filterMap_congr fun id _ => ?_
    rw [← agrees.get]
    cases installed : g.bridges.links.find? id with
    | none => rfl
    | some link => exact congrArg some (bridgeDocument_eq agrees installed)

/-! ### Requests -/

/-- A request, carried through. -/
def request (g : Gateway) : Request → Gateway × Except AdminFault Unit
  | .add config remote => g.addBridge config remote
  | .update config remote => g.updateBridge config remote
  | .delete id => g.deleteBridge id

/-- Carries a change out, if it could be begun. -/
def carryThrough (g : Gateway) :
    BridgeManager × Except AdminFault Handover → Gateway × Except AdminFault Unit
  | (bridges, .error fault) => ({ g with bridges }, .error fault)
  | (bridges, .ok h) => (carryOut { g with bridges } h, .ok ())

theorem request_update (g : Gateway) (config : BridgeConfig) (remote : String) :
    g.request (.update config remote) = g.carryThrough (g.bridges.beginUpdate config remote) := by
  rw [request, updateBridge]
  rcases g.bridges.beginUpdate config remote with ⟨bridges, fault | h⟩ <;> rfl

theorem request_delete (g : Gateway) (id : String) :
    g.request (.delete id) = g.carryThrough (g.bridges.beginDelete id) := by
  rw [request, deleteBridge]
  rcases g.bridges.beginDelete id with ⟨bridges, fault | h⟩ <;> rfl

theorem carryThrough_answer (g : Gateway) (begun : BridgeManager × Except AdminFault Handover) :
    (g.carryThrough begun).2 = begun.2.map fun _ => () := by
  obtain ⟨bridges, fault | h⟩ := begun <;> rfl

theorem carryThrough_failed {begun : BridgeManager × Except AdminFault Handover} {fault : AdminFault}
    (failed : (g.carryThrough begun).2 = .error fault) :
    (g.carryThrough begun).1.bridges = begun.1 := by
  obtain ⟨bridges, _ | h⟩ := begun
  · rfl
  · cases failed

theorem request_answer (g : Gateway) (r : Request) : (g.request r).2 = (g.bridges.ask r).2 := by
  cases r with
  | add config remote => rfl
  | update config remote => rw [request_update, carryThrough_answer, BridgeManager.ask]
  | delete id => rw [request_delete, carryThrough_answer, BridgeManager.ask]

theorem request_unchanged {r : Request} {fault : AdminFault} (failed : (g.request r).2 = .error fault) :
    Unchanged g.bridges (g.request r).1.bridges := by
  have same : (g.request r).1.bridges = (g.bridges.ask r).1 := by
    cases r with
    | add config remote => rfl
    | update config remote =>
      rw [request_update] at failed ⊢
      exact carryThrough_failed failed
    | delete id =>
      rw [request_delete] at failed ⊢
      exact carryThrough_failed failed
  rw [request_answer] at failed
  rw [same]
  exact BridgeManager.ask_unchanged failed

/-! ### Gateways that can be reached -/

theorem Reached.agrees {change : Option Handover} (reached : Reached g actions change) :
    Agrees g.bridges (Register.run {} actions).directory := by
  obtain ⟨adapters, state⟩ := reached
  have bridges : g.bridges = (State.run {} actions).manager.setAdapters adapters :=
    congrArg State.manager state
  have agrees := (BridgeManager.State.run_consistent actions).agrees
  have directory : (State.run {} actions).manager.directory = (Register.run {} actions).directory :=
    congrArg Register.directory (BridgeManager.State.run_register actions)
  rw [bridges, ← directory]
  exact ⟨agrees.get, agrees.count, agrees.keys, agrees.ascending, agrees.entries, agrees.keyed,
    agrees.outbound, agrees.inbound⟩

theorem Reached.live {change : Option Handover} (reached : Reached g actions change) {id : String}
    (live : (State.run {} actions).Live id) : (g.state change).Live id := by
  obtain ⟨adapters, state⟩ := reached
  rw [state]
  exact live

/-- A request that is answered at once has nothing left to complete. -/
theorem Reached.at_once (reached : Reached g actions none) : Reached g (actions ++ [.complete]) none :=
  reached.step rfl

theorem carryThrough_reached (reached : Reached g actions none) {a : Action} {id : String}
    {begun : BridgeManager × Except AdminFault Handover}
    (stepped : (g.state none).step a = (g.state none).begin begun)
    (named : ∀ h, begun.2 = .ok h → h.id = id) :
    ∃ during, (∀ a ∈ during, Passes a) ∧
      Reached (g.carryThrough begun).1 (actions ++ a :: during ++ [.complete]) none ∧
      ((g.carryThrough begun).2 = .ok () → ((g.carryThrough begun).1.state none).Live id) := by
  obtain ⟨bridges, fault | h⟩ := begun
  · have failed : Reached { g with bridges } (actions ++ [a]) none := reached.step stepped.symm
    refine ⟨[], fun _ member => absurd member List.not_mem_nil, failed.at_once, fun done => ?_⟩
    cases done
  · have started : Reached { g with bridges } (actions ++ [a]) (some h) := reached.step stepped.symm
    obtain ⟨turns, passes, _, _, _, pending, carried⟩ := started.carryOut
    refine ⟨acts turns, passes, by rwa [← List.append_cons] at carried, fun _ => ?_⟩
    refine carried.live ?_
    rw [State.run_append, ← named h rfl]
    exact (BridgeManager.State.run_consistent _).complete_live pending

/-- A gateway goes through a request from its beginning to its end. -/
theorem request_reached (reached : Reached g actions none) (r : Request) :
    ∃ during, (∀ a ∈ during, Passes a) ∧
      Reached (g.request r).1 (actions ++ r.action :: during ++ [.complete]) none ∧
      ((g.request r).2 = .ok () → ((g.request r).1.state none).Live r.id) := by
  cases r with
  | add config remote =>
    have added : Reached (g.addBridge config remote).1 (actions ++ [.add config remote]) none :=
      reached.step rfl
    refine ⟨[], fun _ member => absurd member List.not_mem_nil, added.at_once, fun done => ?_⟩
    exact BridgeManager.State.add_live (s := g.state none) rfl done
  | update config remote =>
    have stepped : (g.state none).step (.beginUpdate config remote) =
        (g.state none).begin (g.bridges.beginUpdate config remote) := rfl
    rw [request_update]
    refine carryThrough_reached reached stepped fun h begun => ?_
    rcases g.bridges.beginUpdate_cases config remote with ⟨_, _, failed, _⟩ | ⟨_, _, _, done, _⟩
    · rw [failed] at begun
      cases begun
    · rw [done] at begun
      cases begun
      rfl
  | delete id =>
    have stepped : (g.state none).step (.beginDelete id) =
        (g.state none).begin (g.bridges.beginDelete id) := rfl
    rw [request_delete]
    refine carryThrough_reached reached stepped fun h begun => ?_
    rcases g.bridges.beginDelete_cases id with ⟨_, failed⟩ | ⟨_, done, _⟩
    · rw [failed] at begun
      cases begun
    · rw [done] at begun
      cases begun
      rfl

/-- The bridges of a manager are a finite map from ids to what was installed last.

After every run of a manager all questions about bridges are answered by the map, also the one whether
a request is in order. A request that is not leaves the links, their lanes and all counters as they
were; one that is leaves the bridge running in the end. A gateway shows the map in its status documents,
and each request changes the map at once, for the gateway waits in between. -/
theorem bridges_are_a_directory :
    (∀ actions : List Action,
      let s := State.run {} actions
      let d := (Register.run {} actions).directory
      Agrees s.manager d ∧
      (∀ r, (s.manager.ask r).2 = d.answer r) ∧
      (∀ r fault, (s.manager.ask r).2 = .error fault →
        Unchanged s.manager (s.step r.action).manager ∧ (s.step r.action).change = s.change) ∧
      (∀ config remote, s.change = none → (s.manager.ask (.add config remote)).2 = .ok () →
        (s.step (.add config remote)).Live config.id) ∧
      ∀ h, s.change = some h → (s.step .complete).Live h.id) ∧
    ∀ (g : Gateway) (actions : List Action), Reached g actions none →
      let d := (Register.run {} actions).directory
      Agrees g.bridges d ∧ g.Shows d ∧
      ∀ r, (g.request r).2 = d.answer r ∧
        (∀ fault, (g.request r).2 = .error fault → Unchanged g.bridges (g.request r).1.bridges) ∧
        ((g.request r).2 = .ok () → ((g.request r).1.state none).Live r.id) ∧
        ∃ during, (∀ a ∈ during, Passes a) ∧
          Reached (g.request r).1 (actions ++ r.action :: during ++ [.complete]) none ∧
          (Register.run {} (actions ++ r.action :: during ++ [.complete])).directory = d.after r := by
  constructor
  · intro actions s d
    have consistent : s.Consistent := BridgeManager.State.run_consistent actions
    have directory : s.manager.directory = d :=
      congrArg Register.directory (BridgeManager.State.run_register actions)
    refine ⟨directory ▸ consistent.agrees, ?_, ?_, ?_, ?_⟩
    · intro r
      rw [← directory]
      exact BridgeManager.ask_answer _ r
    · intro r fault failed
      exact BridgeManager.State.step_failed failed
    · intro config remote idle done
      exact BridgeManager.State.add_live idle done
    · intro h pending
      exact consistent.complete_live pending
  · intro g actions reached d
    have agrees : Agrees g.bridges d := reached.agrees
    refine ⟨agrees, shows_of_agrees agrees, fun r => ⟨?_, ?_, ?_⟩⟩
    · rw [request_answer, BridgeManager.ask_answer]
      exact congrArg (Directory.answer · r) (BridgeManager.directory_eq agrees.get)
    · intro fault failed
      exact request_unchanged failed
    · obtain ⟨during, passes, finished, live⟩ := request_reached reached r
      refine ⟨live, during, passes, finished, ?_⟩
      have idle : (Register.run {} actions).change = none := by
        rw [← BridgeManager.State.run_register]
        exact congrArg (Option.map _) reached.pending
      rw [List.append_assoc, Register.run_append, Register.run_request _ idle r passes]

/-- A bridge is added, refused a second time, and updated. -/
theorem plain_bridge_is_managed :
    ((State.run {} []).step (.add plainBridge "r")).Live "b" ∧
      Unchanged (State.run {} busy).manager
        ((State.run {} busy).step (.add plainBridge "r")).manager ∧
      ((State.run {} (busy ++ [.beginUpdate plainBridge "r"])).step .complete).Live "b" ∧
      busyGateway.Shows (Register.run {} busy).directory ∧
      Unchanged busyGateway.bridges (busyGateway.request (.add plainBridge "r")).1.bridges ∧
      ((busyGateway.request (.update plainBridge "r")).1.state none).Live "b" := by
  obtain ⟨manager, gateway⟩ := bridges_are_a_directory
  obtain ⟨_, _, _, added, _⟩ := manager []
  obtain ⟨_, _, failed, _, _⟩ := manager busy
  obtain ⟨_, _, _, _, completed⟩ := manager (busy ++ [.beginUpdate plainBridge "r"])
  obtain ⟨_, shown, requests⟩ := gateway busyGateway busy ⟨{}, rfl⟩
  obtain ⟨_, unchanged, _⟩ := requests (.add plainBridge "r")
  obtain ⟨_, _, live, _⟩ := requests (.update plainBridge "r")
  refine ⟨?_, ?_, ?_, shown, ?_, ?_⟩
  · exact added plainBridge "r" rfl rfl
  · exact (failed (.add plainBridge "r") (.duplicateId .bridge "b") rfl).1
  · exact completed (plainChange 1) rfl
  · exact unchanged (.duplicateId .bridge "b") rfl
  · exact live rfl

end Gateway
end EdgeGateway

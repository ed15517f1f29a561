import EdgeGateway.Proofs.Bridge.Admission
import EdgeGateway.Proofs.Bridge.Lanes
import EdgeGateway.Proofs.Bridge.Management
import EdgeGateway.Proofs.Metrics

/-!
# Links and requests

What each request to a manager does. One that fails leaves everything as it was. One that succeeds
has built a link: new lanes at the end of the list, one for each subscription, that do not run yet.
Later modules take a request apart by these lemmas and never unfold it.
-/

namespace EdgeGateway
namespace BridgeManager

open Traffic (Event)

/-! ### Forwarders of a link -/

/-- The lanes serve subscriptions in one direction, one lane each and in order. -/
def Serve (t : Traffic) (config : BridgeConfig) (d : Direction) (target : Target)
    (lanes : List Nat) (subscriptions : List BridgeSubscription) : Prop :=
  List.Forall₂ (fun lane numbered => ∃ f, t.post? lane = some (f, target) ∧
    Forwarder.build config d numbered.2 numbered.1 = .ok f) lanes subscriptions.zipIdx

structure Furnished (t : Traffic) (l : Link) : Prop where
  outbound : Serve t l.config .outbound (.remote l.remote) l.outbound l.config.localSubscriptions
  inbound : Serve t l.config .inbound .localBroker l.inbound l.config.remoteSubscriptions

theorem Furnished.mono {t t' : Traffic} {l : Link} (furnished : Furnished t l)
    (kept : ∀ lane post, t.post? lane = some post → t'.post? lane = some post) :
    Furnished t' l := by
  have serve {d : Direction} {target : Target} {lanes : List Nat}
      {subscriptions : List BridgeSubscription}
      (served : Serve t l.config d target lanes subscriptions) :
      Serve t' l.config d target lanes subscriptions :=
    served.imp fun lane numbered ⟨f, there, built⟩ => ⟨f, kept lane _ there, built⟩
  exact ⟨serve furnished.outbound, serve furnished.inbound⟩

theorem Serve.bridge {t : Traffic} {config : BridgeConfig} {d : Direction} {target : Target}
    {lanes : List Nat} {subscriptions : List BridgeSubscription}
    (serve : Serve t config d target lanes subscriptions) {lane : Nat} (member : lane ∈ lanes) :
    ∃ f, t.post? lane = some (f, target) ∧ f.bridgeId = config.id := by
  obtain ⟨i, found⟩ := List.mem_iff_getElem?.mp member
  obtain ⟨_, _, f, there, built⟩ := forall₂_getElem? serve found
  exact ⟨f, there, (Forwarder.build_labels built).2.1⟩

/-- Every lane of a link bears the id of its bridge. -/
theorem Furnished.bridge {t : Traffic} {l : Link} (furnished : Furnished t l) {lane : Nat}
    (member : lane ∈ l.lanes) : ∃ f, t.forwarder? lane = some f ∧ f.bridgeId = l.config.id := by
  have named {target : Target} (served : ∃ f, t.post? lane = some (f, target) ∧
      f.bridgeId = l.config.id) : ∃ f, t.forwarder? lane = some f ∧ f.bridgeId = l.config.id := by
    obtain ⟨f, there, id⟩ := served
    exact ⟨f, Traffic.forwarder?_of_post there, id⟩
  rcases List.mem_append.mp member with sent | got
  · exact named (furnished.outbound.bridge sent)
  · exact named (furnished.inbound.bridge got)

theorem buildForwarders_built {config : BridgeConfig} {d : Direction} {first : Nat}
    {subscriptions : List BridgeSubscription} {fs : List Forwarder}
    (built : buildForwarders config d first subscriptions = (fs, none)) :
    List.Forall₂ (fun f numbered => Forwarder.build config d numbered.2 numbered.1 = .ok f) fs
      (subscriptions.zipIdx first) := by
  induction subscriptions generalizing first fs with
  | nil =>
    cases built
    exact .nil
  | cons s rest ih =>
    unfold buildForwarders at built
    split at built
    next f here =>
      obtain ⟨rfl, none⟩ := Prod.mk.inj built
      exact .cons here (ih (Prod.ext rfl none))
    next => cases (Prod.mk.inj built).2

/-! ### Building -/

theorem addLanes_lanes (t : Traffic) (fs : List Forwarder) (target : Target) :
    (fs.foldl (·.addLane · target) t).lanes =
      t.lanes ++ fs.map fun f => { forwarder := f, target } := by
  induction fs generalizing t with
  | nil => simp
  | cons f fs ih => simp [ih]

theorem addLanes_calls (t : Traffic) (fs : List Forwarder) (target : Target) :
    (fs.foldl (·.addLane · target) t).calls = t.calls := by
  induction fs generalizing t with
  | nil => rfl
  | cons f fs ih => rw [List.foldl_cons, ih, Traffic.addLane_calls]

theorem bridgeCounters_openMetrics (metrics : Metrics) (fs : List Forwarder)
    (bridge direction : String) :
    (openMetrics metrics fs).bridgeCounters bridge direction =
      metrics.bridgeCounters bridge direction := by
  induction fs generalizing metrics with
  | nil => rfl
  | cons f fs ih =>
    rw [openMetrics, List.foldl_cons, ← openMetrics, ih, Metrics.bridgeCounters_openBridge]

theorem adapters_openMetrics (metrics : Metrics) (fs : List Forwarder) :
    (openMetrics metrics fs).adapters = metrics.adapters := by
  induction fs generalizing metrics with
  | nil => rfl
  | cons f fs ih =>
    rw [openMetrics, List.foldl_cons, ← openMetrics, ih]
    rfl

/-- No question that a manager answers tells the two apart. -/
structure Unchanged (m m' : BridgeManager) : Prop where
  links : m'.links = m.links
  lanes : m'.traffic.lanes = m.traffic.lanes
  calls : m'.traffic.calls = m.traffic.calls
  completions : m'.traffic.completions = m.traffic.completions
  counters : ∀ bridge direction, m'.traffic.metrics.bridgeCounters bridge direction =
    m.traffic.metrics.bridgeCounters bridge direction
  adapters : m'.traffic.metrics.adapters = m.traffic.metrics.adapters

theorem Unchanged.refl (m : BridgeManager) : Unchanged m m :=
  ⟨rfl, rfl, rfl, rfl, fun _ _ => rfl, rfl⟩

theorem unchanged_opened (m : BridgeManager) (fs : List Forwarder) :
    Unchanged m { m with
      traffic := { m.traffic with metrics := openMetrics m.traffic.metrics fs } } :=
  ⟨rfl, rfl, rfl, rfl, bridgeCounters_openMetrics m.traffic.metrics fs,
    adapters_openMetrics m.traffic.metrics fs⟩

/-- A link with new lanes, which do not run yet. -/
structure Built (m : BridgeManager) (config : BridgeConfig) (remote : String) (m' : BridgeManager)
    (link : Link) : Prop where
  config : link.config = config
  remote : link.remote = remote
  links : m'.links = m.links
  lanes : ∃ new, m'.traffic.lanes = m.traffic.lanes ++ new ∧
    link.lanes = List.range' m.traffic.lanes.length new.length ∧ ∀ l ∈ new, l.running = false
  calls : m'.traffic.calls = m.traffic.calls
  furnished : Furnished m'.traffic link

theorem Built.lane_kept {m m' : BridgeManager} {config : BridgeConfig} {remote : String} {link : Link}
    (built : Built m config remote m' link) {lane : Nat} {l : Lane}
    (present : m.traffic.lanes[lane]? = some l) : m'.traffic.lanes[lane]? = some l := by
  obtain ⟨new, lanes, _⟩ := built.lanes
  rw [lanes, List.getElem?_append_left (List.getElem?_eq_some_iff.mp present).1]
  exact present

/-- Forwarders that stand one after the other in the list of lanes serve what they are built for. -/
theorem serve_of_built {t : Traffic} {config : BridgeConfig} {d : Direction} {target : Target}
    (before after : List Lane) {fs : List Forwarder} {numbered : List (BridgeSubscription × Nat)}
    (lanes : t.lanes = before ++ fs.map (fun f => { forwarder := f, target }) ++ after)
    (built : List.Forall₂ (fun f n => Forwarder.build config d n.2 n.1 = .ok f) fs numbered) :
    List.Forall₂ (fun lane n => ∃ f, t.post? lane = some (f, target) ∧
      Forwarder.build config d n.2 n.1 = .ok f) (List.range' before.length fs.length) numbered := by
  induction built generalizing before with
  | nil => exact .nil
  | @cons f n fs rest here _ ih =>
    rw [List.length_cons, List.range'_succ]
    refine .cons ⟨f, ?_, here⟩ ?_
    · rw [Traffic.post?, lanes]
      simp
    · have next := ih (before ++ [{ forwarder := f, target }]) (by simp [lanes])
      rwa [List.length_append, List.length_singleton] at next

theorem buildLink_cases (m : BridgeManager) (config : BridgeConfig) (remote : String) :
    (∃ m' fault, m.buildLink config remote = (m', .error fault) ∧ Unchanged m m') ∨
      ∃ m' link, m.buildLink config remote = (m', .ok link) ∧ Built m config remote m' link := by
  unfold buildLink
  rcases sent : buildForwarders config .outbound 0 config.localSubscriptions with ⟨out, _ | fault⟩
  · rcases got : buildForwarders config .inbound 0 config.remoteSubscriptions with ⟨inn, _ | fault⟩
    · refine .inr ⟨_, _, rfl, ?_⟩
      have lanes := addLanes_lanes (out.foldl (·.addLane · (.remote remote)) m.traffic) inn .localBroker
      rw [addLanes_lanes m.traffic out] at lanes
      refine ⟨rfl, rfl, rfl, ⟨_, by rw [lanes, List.append_assoc], ?_, ?_⟩, ?_, ?_, ?_⟩
      · simp [Link.lanes, List.range'_append_1]
      · intro l member
        rcases List.mem_append.mp member with old | new
        · obtain ⟨f, _, rfl⟩ := List.mem_map.mp old
          rfl
        · obtain ⟨f, _, rfl⟩ := List.mem_map.mp new
          rfl
      · rw [addLanes_calls, addLanes_calls]
      · exact serve_of_built _ _ lanes (buildForwarders_built sent)
      · have served := serve_of_built _ [] (by rw [lanes, List.append_nil])
          (buildForwarders_built got)
        rwa [List.length_append, List.length_map] at served
    · exact .inl ⟨_, fault, rfl, unchanged_opened m (out ++ inn)⟩
  · exact .inl ⟨_, fault, rfl, unchanged_opened m out⟩

/-! ### Requests -/

theorem add_cases (m : BridgeManager) (config : BridgeConfig) (remote : String) :
    (∃ m' fault, m.add config remote = (m', .error fault) ∧ Unchanged m m') ∨
      ∃ m' link, m.add config remote = ((m'.setRunning link.lanes true).putLink link, .ok ()) ∧
        m.links.find? config.id = none ∧ Built m config remote m' link := by
  unfold add
  split
  · exact .inl ⟨m, _, rfl, .refl m⟩
  next absent =>
    rw [Table.contains_eq, Bool.not_eq_true, Option.isSome_eq_false_iff, Option.isNone_iff_eq_none]
      at absent
    rcases config.validate with fault | ⟨⟩
    · exact .inl ⟨m, fault, rfl, .refl m⟩
    · rcases m.buildLink_cases config remote with
        ⟨m', fault, failed, unchanged⟩ | ⟨m', link, done, built⟩
      · simp only [failed]
        exact .inl ⟨m', fault, rfl, unchanged⟩
      · simp only [done]
        exact .inr ⟨m', link, rfl, absent, built⟩

theorem beginUpdate_cases (m : BridgeManager) (config : BridgeConfig) (remote : String) :
    (∃ m' fault, m.beginUpdate config remote = (m', .error fault) ∧ Unchanged m m') ∨
      ∃ old m' link, m.beginUpdate config remote =
          (m'.setRunning old.lanes false, .ok { id := config.id, replacement := .link link }) ∧
        m.links.find? config.id = some old ∧ Built m config remote m' link := by
  unfold beginUpdate
  rcases m.links.find? config.id with _ | old
  · exact .inl ⟨m, _, rfl, .refl m⟩
  · rcases config.validate with fault | ⟨⟩
    · exact .inl ⟨m, fault, rfl, .refl m⟩
    · rcases m.buildLink_cases config remote with
        ⟨m', fault, failed, unchanged⟩ | ⟨m', link, done, built⟩
      · simp only [failed]
        exact .inl ⟨m', fault, rfl, unchanged⟩
      · simp only [done]
        exact .inr ⟨old, m', link, rfl, rfl, built⟩

theorem beginDelete_cases (m : BridgeManager) (id : String) :
    (∃ fault, m.beginDelete id = (m, .error fault)) ∨
      ∃ old, m.beginDelete id = (m.setRunning old.lanes false, .ok { id, replacement := .nothing }) ∧
        m.links.find? id = some old := by
  unfold beginDelete
  rcases m.links.find? id with _ | old
  · exact .inl ⟨_, rfl⟩
  · exact .inr ⟨old, rfl, rfl⟩

end BridgeManager
end EdgeGateway

import EdgeGateway.Proofs.Bridge.Completion
import EdgeGateway.Proofs.Bridge.Retirement

/-!
# Replacing a link

An update has two links for one bridge id. The old one is stopped before the new one can be reached,
and from the moment the new one is started the lanes of the old one are retired.
-/

namespace EdgeGateway
namespace BridgeManager
namespace State

variable {past during more : List Action} {config : BridgeConfig} {remote : String} {old new : Link}
  {lane : Nat}

/-! ### Updates -/

theorem setRunning_calls (m : BridgeManager) (lanes : List Nat) (running : Bool) :
    (m.setRunning lanes running).traffic.calls = m.traffic.calls := by
  unfold setRunning
  dsimp only
  generalize m.traffic = t
  induction lanes generalizing t with
  | nil => rfl
  | cons lane lanes ih => rw [List.foldl_cons, ih, Traffic.setRunning_calls]

theorem setRunning_stays_stopped {m : BridgeManager} (stopped : m.traffic.Stopped lane)
    (lanes : List Nat) : (m.setRunning lanes false).traffic.Stopped lane := by
  obtain ⟨l, present, off⟩ := stopped
  refine ⟨_, by rw [setRunning_lane, present, Option.map_some], ?_⟩
  split
  · rfl
  · exact off

/-- The actions up to the beginning of an update. -/
def updating (past : List Action) (config : BridgeConfig) (remote : String) : List Action :=
  past ++ [.beginUpdate config remote]

/-- The actions up to the return of an update. -/
def updated (past : List Action) (config : BridgeConfig) (remote : String) (during : List Action) :
    List Action :=
  updating past config remote ++ during ++ [.complete]

/-- What the beginning of an update leaves behind: the old link in its place and stopped, and a new
link that nobody can reach. -/
structure Update (past : List Action) (config : BridgeConfig) (remote : String) (old new : Link) :
    Prop where
  present : (run {} past).manager.links.find? config.id = some old
  configured : new.config = config
  bound : new.remote = remote
  pending : (run {} (updating past config remote)).change =
    some { id := config.id, replacement := .link new }
  links : (run {} (updating past config remote)).manager.links = (run {} past).manager.links
  calls : (run {} (updating past config remote)).manager.traffic.calls =
    (run {} past).manager.traffic.calls
  stopped : ∀ lane ∈ old.lanes, (run {} (updating past config remote)).manager.traffic.Stopped lane
  fresh : ∀ lane ∈ new.lanes, (run {} past).manager.traffic.lanes.length ≤ lane ∧
    (run {} (updating past config remote)).manager.traffic.Stopped lane

theorem update_begun (idle : (run {} past).change = none) {h : Handover}
    (accepted : ((run {} past).manager.beginUpdate config remote).2 = .ok h) :
    ∃ old new, h = { id := config.id, replacement := .link new } ∧
      Update past config remote old new := by
  have first : run {} (updating past config remote) =
      (run {} past).step (.beginUpdate config remote) := run_append _ _ _
  have begun : run {} (updating past config remote) =
      (run {} past).begin ((run {} past).manager.beginUpdate config remote) := by
    rw [first, step, idle]
    rfl
  rcases (run {} past).manager.beginUpdate_cases config remote with
    ⟨m', fault, failed, _⟩ | ⟨old, m', new, done, present, built⟩
  · rw [failed] at accepted
    cases accepted
  · rw [done] at accepted begun
    cases accepted
    have pending : (run {} (updating past config remote)).change =
        some { id := config.id, replacement := .link new } := by
      rw [begun]
      rfl
    obtain ⟨old', present', _, stopped⟩ := (run_consistent past).begun idle (first ▸ pending)
    obtain rfl := Option.some.inj (present.symm.trans present')
    refine ⟨old, new, rfl, ?_⟩
    constructor
    · exact present
    · exact built.config
    · exact built.remote
    · exact pending
    · rw [begun]
      exact built.links
    · rw [begun]
      exact (setRunning_calls m' old.lanes false).trans built.calls
    · exact first ▸ stopped
    · intro lane member
      obtain ⟨above, off⟩ := built.lane_new member
      rw [begun]
      exact ⟨above, setRunning_stays_stopped off old.lanes⟩

namespace Update

theorem offers_eq (update : Update past config remote old new) :
    offers (updating past config remote) = offers past := by
  have same : (offers (updating past config remote)).length = (offers past).length := by
    rw [offers_length, offers_length, update.calls]
  rw [updating, offers_append, List.length_append, Nat.add_eq_left, List.length_eq_zero_iff] at same
  rw [updating, offers_append, same, List.append_nil]

section Waiting
variable (update : Update past config remote old new) (waits : ∀ a ∈ during, Waits a)
include update waits

/-- While an update waits, messages are offered only to the links that were there before. -/
theorem offered {i : Nat} {o : Offer}
    (later : (offers (updating past config remote)).length ≤ i)
    (offered : (offers (updating past config remote ++ during))[i]? = some o) :
    ∃ id link f, (run {} past).manager.links.find? id = some link ∧ o.lane ∈ link.lanes ∧
      (run {} (updating past config remote ++ during)).manager.traffic.forwarder? o.lane = some f ∧
      f.bridgeId = id := by
  obtain ⟨before, a, after, id, link, f, split, installed, member, present, named⟩ :=
    offered_to later offered
  have kept := run_waits update.pending fun a' earlier =>
    waits a' (split ▸ List.mem_append_left _ earlier)
  rw [kept.2.2, update.links] at installed
  exact ⟨id, link, f, installed, member, present, named⟩

/-- What is offered to the bridge while an update of it waits is refused, for good. -/
theorem refused {i : Nat} {o : Offer} {f : Forwarder}
    (later : (offers (updating past config remote)).length ≤ i)
    (offered : (offers (updating past config remote ++ during))[i]? = some o)
    (present : (run {} (updating past config remote ++ during)).manager.traffic.forwarder? o.lane =
      some f)
    (named : f.bridgeId = config.id) (more : List Action) :
    o.lane ∈ old.lanes ∧
      Traffic.TurnedAway (history {} (updating past config remote ++ during ++ more)) i o := by
  obtain ⟨id, link, f', installed, member, present', named'⟩ := update.offered waits later offered
  obtain rfl := Option.some.inj (present.symm.trans present')
  obtain rfl := named.symm.trans named'
  obtain rfl := Option.some.inj (installed.symm.trans update.present)
  refine ⟨member, Traffic.turnedAway_of_stopped ?_ ?_⟩
  · change (offers _)[i]? = some o
    rw [offers_append, List.getElem?_append_left (List.getElem?_eq_some_iff.mp offered).1]
    exact offered
  · have quiet := (run_waits update.pending waits).1
    rw [offers_append, List.getElem?_append_right later] at offered
    exact (update.stopped o.lane member).offer (quiet.history (run_consistent _))
      (List.mem_of_getElem? offered) rfl

/-- While an update waits, the new lanes do not run and nothing has ever been offered to them. -/
theorem unused (member : lane ∈ new.lanes) :
    (run {} (updating past config remote ++ during)).manager.traffic.Stopped lane ∧
      ∀ o ∈ offers (updating past config remote ++ during), o.lane ≠ lane := by
  obtain ⟨above, off⟩ := update.fresh lane member
  constructor
  · rw [run_append]
    exact ((run_waits update.pending waits).1.stopped (run_consistent _) off).1
  · rintro o offer rfl
    refine absurd above (Nat.not_le_of_lt ?_)
    obtain ⟨i, found⟩ := List.mem_iff_getElem?.mp offer
    rcases Nat.lt_or_ge i (offers (updating past config remote)).length with early | late
    · rw [offers_append, List.getElem?_append_left early, update.offers_eq] at found
      exact offer_known (List.mem_of_getElem? found)
    · obtain ⟨id, link, f, installed, within, _⟩ := update.offered waits late found
      obtain ⟨f', there, _⟩ := (run_consistent past).bridge installed within
      exact lt_of_forwarder there

/-! ### After an update -/

theorem completed : run {} (updated past config remote during) =
    { manager := ((run {} (updating past config remote ++ during)).manager.putLink new).setRunning
        new.lanes true } := by
  have pending := (run_waits update.pending waits).2.1
  rw [← run_append] at pending
  have last : run {} (updated past config remote during) =
      (run {} (updating past config remote ++ during)).step .complete := run_append _ _ _
  rw [last, step, pending]
  rfl

/-- When an update returns, the new link is in its place. -/
theorem installed (id : String) :
    (run {} (updated past config remote during)).manager.links.find? id =
      if id = config.id then some new else (run {} past).manager.links.find? id := by
  have kept := (run_waits update.pending waits).2.2
  rw [← run_append, update.links] at kept
  rw [update.completed waits, setRunning, putLink, Table.find?_insert, update.configured, kept]

theorem running (member : lane ∈ new.lanes) :
    (run {} (updated past config remote during)).manager.traffic.Running lane := by
  obtain ⟨l, present, _⟩ := (update.unused waits member).1
  rw [update.completed waits]
  exact setRunning_of_mem member (Traffic.forwarder?_of_present present) true

/-- When an update returns, the old lanes are retired, and none of them runs. -/
theorem retired (member : lane ∈ old.lanes) :
    Retired (run {} (updated past config remote during)) lane ∧
      (run {} (updated past config remote during)).manager.traffic.Stopped lane := by
  obtain ⟨f, there, named⟩ := (run_consistent past).bridge update.present member
  have known := lt_of_forwarder there
  have other : lane ∉ new.lanes := fun member => Nat.not_le_of_lt known (update.fresh lane member).1
  have still : (run {} (updating past config remote ++ during)).manager.traffic.Stopped lane := by
    rw [run_append]
    exact ((run_waits update.pending waits).1.stopped (run_consistent _)
      (update.stopped lane member)).1
  have there' : (run {} (updated past config remote during)).manager.traffic.forwarder? lane =
      some f := by
    rw [updated, updating, List.append_assoc, List.append_assoc, run_append]
    exact run_forwarder _ there
  refine ⟨⟨lt_of_forwarder there', ?_, ?_⟩, ?_⟩
  · intro id link found
    rw [update.installed waits] at found
    split at found
    · obtain rfl := Option.some.inj found
      exact other
    next different =>
      intro within
      obtain ⟨f', present, named'⟩ := (run_consistent past).bridge found within
      obtain rfl := Option.some.inj (there.symm.trans present)
      exact different (named'.symm.trans named)
  · intro h link pending
    rw [update.completed waits] at pending
    cases pending
  · rw [update.completed waits]
    obtain ⟨l, present, off⟩ := still
    refine ⟨l, ?_, off⟩
    rw [setRunning_lane, show (putLink _ new).traffic.lanes[lane]? = some l from present,
      Option.map_some, if_neg other]

/-- After an update the messages for the bridge go to the new link, or to one that is newer. -/
theorem taken_over {i : Nat} {o : Offer} {f : Forwarder}
    (later : (offers (updated past config remote during)).length ≤ i)
    (offered : (offers (updated past config remote during ++ more))[i]? = some o)
    (present : (run {} (updated past config remote during ++ more)).manager.traffic.forwarder?
      o.lane = some f)
    (named : f.bridgeId = config.id) :
    o.lane ∈ new.lanes ∨
      (run {} (updated past config remote during)).manager.traffic.lanes.length ≤ o.lane := by
  by_contra neither
  obtain ⟨other, known⟩ := not_or.mp neither
  have retired : Retired (run {} (updated past config remote during)) o.lane := by
    refine ⟨Nat.lt_of_not_le known, ?_, ?_⟩
    · intro id link found within
      obtain ⟨f', there, named'⟩ := (run_consistent _).bridge found within
      have kept := run_forwarder more there
      rw [← run_append] at kept
      obtain rfl := Option.some.inj (present.symm.trans kept)
      rw [update.installed waits, if_pos (named'.symm.trans named)] at found
      obtain rfl := Option.some.inj found
      exact other within
    · intro h link pending
      rw [update.completed waits] at pending
      cases pending
  exact Nat.not_lt_of_le later (retired.no_more_offers offered)

end Waiting

end Update

/-! ### The whole of an update -/

/-- From its stop on the old link refuses everything, and the new link is not used. -/
structure Interrupted (begun during : List Action) (id : String) (old new : Link) : Prop where
  dispatches : Dispatches (run {} (begun ++ during)) id old
  /-- What has been offered to the bridge since then stays refused. -/
  refused : ∀ i o f, (offers begun).length ≤ i → (offers (begun ++ during))[i]? = some o →
    (run {} (begun ++ during)).manager.traffic.forwarder? o.lane = some f → f.bridgeId = id →
    ∀ more, Traffic.TurnedAway (history {} (begun ++ during ++ more)) i o
  unused : ∀ lane ∈ new.lanes, (run {} (begun ++ during)).manager.traffic.Stopped lane ∧
    ∀ o ∈ offers (begun ++ during), o.lane ≠ lane

/-- After an update the bridge uses the new link and no other, until it is replaced itself. -/
structure Succeeded (done more : List Action) (id : String) (old new : Link) : Prop where
  retired : ∀ lane ∈ old.lanes, (run {} (done ++ more)).manager.traffic.Stopped lane ∧
    (∀ other link, (run {} (done ++ more)).manager.links.find? other = some link →
      lane ∉ link.lanes) ∧
    ∀ i o, (offers (done ++ more))[i]? = some o → o.lane = lane → i < (offers done).length
  /-- Other lanes that get a message for the bridge are newer than the update. -/
  taken : ∀ i o f, (offers done).length ≤ i → (offers (done ++ more))[i]? = some o →
    (run {} (done ++ more)).manager.traffic.forwarder? o.lane = some f → f.bridgeId = id →
    o.lane ∈ new.lanes ∨ (run {} done).manager.traffic.lanes.length ≤ o.lane
  dispatches : (run {} (done ++ more)).manager.links.find? id = some new →
    Dispatches (run {} (done ++ more)) id new
  /-- A message that an old lane still has under way ends with the answers that it waits for, -/
  ends : ∀ i c, (run {} (done ++ more)).manager.traffic.calls[i]? = some c → c.lane ∈ old.lanes →
    ∀ answer connected result, ∃ outcome, (run {} (done ++ more ++
      [.intercepted i answer connected, .answered i result])).manager.traffic.outcome? i = some outcome
  /-- and is reported once. -/
  once : Traffic.ExactlyOnce (history {} (done ++ more))

namespace Update

theorem interrupted (update : Update past config remote old new) (waits : ∀ a ∈ during, Waits a) :
    Interrupted (updating past config remote) during config.id old new := by
  refine ⟨?_, ?_, fun lane member => update.unused waits member⟩
  · have kept := (run_waits update.pending waits).2.2
    rw [← run_append, update.links] at kept
    exact (run_consistent _).dispatches (kept ▸ update.present)
  · intro i o f later offered present named more
    exact (update.refused waits later offered present named more).2

theorem succeeded (update : Update past config remote old new) (waits : ∀ a ∈ during, Waits a)
    (more : List Action) : Succeeded (updated past config remote during) more config.id old new := by
  refine ⟨?_, ?_, (run_consistent _).dispatches, ?_, Traffic.run_exactlyOnce _⟩
  · intro lane member
    obtain ⟨retired, stopped⟩ := update.retired waits member
    rw [run_append]
    refine ⟨retired.stopped (run_consistent _) stopped, fun _ _ => (retired.run more).left, ?_⟩
    rintro i o offered rfl
    exact retired.no_more_offers offered
  · intro i o f later offered present named
    exact update.taken_over waits later offered present named
  · intro i c known _ answer connected result
    rw [run_append]
    exact Traffic.answers_end known answer connected result

end Update

end State
end BridgeManager
end EdgeGateway

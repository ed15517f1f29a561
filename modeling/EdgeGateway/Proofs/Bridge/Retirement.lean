import EdgeGateway.Proofs.Bridge.Refusal
import EdgeGateway.Proofs.Bridge.Stopping

/-!
# Offers and retired lanes

Messages are offered to the lanes of links and to no others. A lane that belongs to no link is retired:
every link that is still to come has new lanes, so that no action ever starts it or offers it a message
again.
-/

namespace EdgeGateway

namespace BridgeManager

open Traffic (Event)

theorem Built.lane_new {m m' : BridgeManager} {config : BridgeConfig} {remote : String} {link : Link}
    (built : Built m config remote m' link) {lane : Nat} (member : lane ∈ link.lanes) :
    m.traffic.lanes.length ≤ lane ∧ m'.traffic.Stopped lane := by
  obtain ⟨new, lanes, range, off⟩ := built.lanes
  rw [range, List.mem_range'_1] at member
  obtain ⟨above, below⟩ := member
  refine ⟨above, new[lane - m.traffic.lanes.length], ?_, off _ (List.getElem_mem _)⟩
  rw [lanes, List.getElem?_append_right above]
  exact List.getElem?_eq_getElem _

namespace State

variable {s : State} {actions past more : List Action} {lane : Nat}

/-! ### Offers of a run -/

/-- The messages offered to forwarders in a run, in order. -/
def offers (actions : List Action) : List Offer := Traffic.offers (history {} actions)

theorem offers_append (past more : List Action) :
    offers (past ++ more) = offers past ++
      Traffic.gather Traffic.offersOf (run {} past).manager.traffic ((run {} past).history more) := by
  rw [run_traffic, offers, history_append]
  exact Traffic.gather_append _ _ _ _

theorem offers_length (actions : List Action) :
    (offers actions).length = (run {} actions).manager.traffic.calls.length := by
  rw [run_traffic]
  exact (Traffic.run_answers _).length_eq

theorem offer_known {o : Offer} (offered : o ∈ offers past) :
    o.lane < (run {} past).manager.traffic.lanes.length := by
  obtain ⟨i, found⟩ := List.mem_iff_getElem?.mp offered
  obtain ⟨c, known, answers⟩ := forall₂_getElem? (Traffic.run_answers _) found
  rw [run_traffic, ← answers.1]
  exact (Traffic.run_sound _).known c (List.mem_of_getElem? known)

/-- Each event of a run belongs to an action of it. -/
theorem Consistent.history (consistent : Consistent s) {e : Event} (member : e ∈ s.history actions) :
    ∃ before a after, actions = before ++ a :: after ∧ Happens (s.run before) a e := by
  induction actions generalizing s with
  | nil => cases member
  | cons a actions ih =>
    rcases List.mem_append.mp member with now | later
    · exact ⟨[], a, actions, rfl, consistent.happens now⟩
    · obtain ⟨before, a', after, split, happens⟩ := ih (consistent.step a) later
      exact ⟨a :: before, a', after, congrArg (a :: ·) split, happens⟩

theorem run_forwarder (actions : List Action) {f : Forwarder}
    (present : s.manager.traffic.forwarder? lane = some f) :
    (s.run actions).manager.traffic.forwarder? lane = some f := by
  rw [run_traffic]
  exact Traffic.run_forwarder _ present

theorem lt_of_forwarder {t : Traffic} {f : Forwarder} (present : t.forwarder? lane = some f) :
    lane < t.lanes.length := by
  obtain ⟨l, there, _⟩ := Option.map_eq_some_iff.mp present
  exact (List.getElem?_eq_some_iff.mp there).1

theorem forwarder_of_lt {t : Traffic} (known : lane < t.lanes.length) :
    ∃ f, t.forwarder? lane = some f :=
  ⟨_, Traffic.forwarder?_of_present (List.getElem?_eq_getElem known)⟩

/-- A lane of a link bears the id under which the link stands. -/
theorem Consistent.bridge (consistent : Consistent s) {id : String} {link : Link}
    (installed : s.manager.links.find? id = some link) (member : lane ∈ link.lanes) :
    ∃ f, s.manager.traffic.forwarder? lane = some f ∧ f.bridgeId = id := by
  obtain ⟨f, present, named⟩ := (consistent.furnished installed).bridge member
  exact ⟨f, present, named.trans (consistent.keyed installed)⟩

/-- An offer goes to a link that is in its place at that moment. -/
theorem offered_to {i : Nat} {o : Offer} (later : (offers past).length ≤ i)
    (offered : (offers (past ++ more))[i]? = some o) :
    ∃ before a after id link f, more = before ++ a :: after ∧
      ((run {} past).run before).manager.links.find? id = some link ∧ o.lane ∈ link.lanes ∧
      (run {} (past ++ more)).manager.traffic.forwarder? o.lane = some f ∧ f.bridgeId = id := by
  rw [offers_append, List.getElem?_append_right later] at offered
  obtain ⟨m, ack, given⟩ := Traffic.forward_of_offer (List.mem_of_getElem? offered)
  obtain ⟨before, a, after, split, happens⟩ := (run_consistent past).history given
  obtain ⟨id, link, installed, member⟩ := happens.offered
  obtain ⟨f, present, named⟩ := ((run_consistent past).run before).bridge installed member
  refine ⟨before, a, after, id, link, f, split, installed, member, ?_, named⟩
  rw [split, run_append, run_append]
  exact run_forwarder _ present

/-- A message is offered to every forwarder of the link that has a filter for it. -/
def Dispatches (s : State) (id : String) (link : Link) : Prop :=
  ∀ lane f m messageId, s.manager.traffic.forwarder? lane = some f → f.matchesTopic m.topic = true →
    (lane ∈ link.outbound →
      .forward lane m { queueId := f.id, messageId } ∈ s.events (.forwardLocal m messageId)) ∧
    (lane ∈ link.inbound →
      .forward lane m { queueId := f.id, messageId } ∈ s.events (.forwardRemote id m messageId))

theorem Consistent.dispatches (consistent : Consistent s) {id : String} {link : Link}
    (installed : s.manager.links.find? id = some link) : s.Dispatches id link := by
  intro lane f m messageId present wanted
  have offered {lanes : List Nat} (member : lane ∈ lanes) :
      .forward lane m { queueId := f.id, messageId } ∈
        offerEvents s.manager.traffic m messageId lanes := by
    refine List.mem_filterMap.mpr ⟨lane, member, ?_⟩
    rw [present, Option.filter_some, if_pos wanted, Option.map_some]
  constructor
  · intro member
    refine offered (List.mem_flatMap.mpr ⟨link, ?_, member⟩)
    exact consistent.ascending.mem_values.mpr ⟨id, installed⟩
  · intro member
    simp only [events, installed]
    exact offered member

/-! ### Retired lanes -/

/-- A lane that belongs to no link, and to none that is to come. -/
structure Retired (s : State) (lane : Nat) : Prop where
  known : lane < s.manager.traffic.lanes.length
  left : ∀ {id link}, s.manager.links.find? id = some link → lane ∉ link.lanes
  not_coming : ∀ {h link}, s.change = some h → h.replacement = .link link → lane ∉ link.lanes

/-- Links get new lanes only, so a retired lane stays so. -/
theorem Retired.step (retired : Retired s lane) (a : Action) : Retired (s.step a) lane := by
  obtain ⟨known, left, not_coming⟩ := retired
  have still : lane < (s.step a).manager.traffic.lanes.length := by
    obtain ⟨f, present⟩ := forwarder_of_lt known
    exact lt_of_forwarder (run_forwarder [a] present)
  have move := step_move s a
  generalize s.step a = s' at move still ⊢
  have new {link : Link} (appears : Appears s s' link) : lane ∉ link.lanes :=
    fun member => Nat.not_le_of_lt known (appears.lanes lane member)
  refine ⟨still, ?_, ?_⟩
  · intro id link installed
    rcases move.installed installed with
      before | ⟨_, _, _, _, appears, _⟩ | ⟨h, _, pending, replacement, _⟩
    · exact left before
    · exact new appears
    · exact not_coming pending replacement
  · intro h link pending replacement
    rcases move.coming pending replacement with before | ⟨appears, _⟩
    · exact not_coming before replacement
    · exact new appears

theorem Retired.run (retired : Retired s lane) (actions : List Action) :
    Retired (s.run actions) lane := by
  induction actions generalizing s with
  | nil => exact retired
  | cons a actions ih => exact ih (retired.step a)

/-- Whatever is done, nothing starts a retired lane or offers it a message. -/
theorem Retired.history (retired : Retired s lane) (consistent : Consistent s) :
    ∀ e ∈ s.history actions, e ≠ .start lane ∧ ∀ m ack, e ≠ .forward lane m ack := by
  intro e member
  obtain ⟨before, a, after, _, happens⟩ := consistent.history member
  have here := retired.run before
  constructor
  · rintro rfl
    cases happens with
    | startNew _ new => exact Nat.not_le_of_lt here.known new
    | startReplacement _ pending replacement within =>
      exact here.not_coming pending replacement within
    | startInstalled _ installed within => exact here.left installed within
  · rintro m ack rfl
    obtain ⟨id, link, installed, within⟩ := happens.offered
    exact here.left installed within

theorem Retired.stopped (retired : Retired s lane) (consistent : Consistent s)
    (stopped : s.manager.traffic.Stopped lane) :
    (s.run actions).manager.traffic.Stopped lane := by
  rw [run_traffic]
  exact (stopped.run fun e member => (retired.history consistent e member).1).1

/-- All offers to a retired lane have been made already. -/
theorem Retired.no_more_offers {i : Nat} {o : Offer} (retired : Retired (State.run {} past) o.lane)
    (offered : (offers (past ++ more))[i]? = some o) : i < (offers past).length := by
  by_contra late
  obtain ⟨before, _, _, id, link, _, _, installed, member, _⟩ :=
    offered_to (Nat.le_of_not_lt late) offered
  exact (retired.run before).left installed member

end State
end BridgeManager
end EdgeGateway

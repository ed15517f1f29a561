import EdgeGateway.Proofs.Bridge.FanOut
import EdgeGateway.Proofs.Gateway.Directory
import EdgeGateway.Proofs.Gateway.Topics

/-!
# Whom a gateway gives a message

A gateway gives a message from its broker to the outbound forwarders that want it, and one from a remote to
the inbound forwarders of that bridge. Which they are depends on what is installed, not on how it came to be.
-/

namespace EdgeGateway

/-- Requests, each carried through before the next one. -/
def Request.inTurn (rs : List Request) : List BridgeManager.Action :=
  rs.flatMap fun r => [r.action, .complete]

theorem Register.run_inTurn {s : Register} (idle : s.change = none) (rs : List Request) :
    s.run (Request.inTurn rs) = { directory := rs.foldl Directory.after s.directory } := by
  induction rs generalizing s with
  | nil =>
    obtain ⟨d, _⟩ := s
    subst idle
    rfl
  | cons r rs ih =>
    have first : s.run [r.action, .complete] = { directory := s.directory.after r } :=
      @run_request s idle r [] fun _ member => absurd member List.not_mem_nil
    rw [Request.inTurn, List.flatMap_cons, ← Request.inTurn, run_append, first, ih rfl, List.foldl_cons]

namespace Gateway

open BridgeManager (Action FansOut Runs State)

variable {g : Gateway} {change : Option Handover} {actions : List Action}

theorem Reached.consistent (reached : Reached g actions change) : (g.state change).Consistent := by
  obtain ⟨adapters, state⟩ := reached
  rw [state]
  exact (BridgeManager.State.run_consistent actions).setAdapters adapters

theorem Reached.directory (reached : Reached g actions change) :
    g.bridges.directory = (Register.run {} actions).directory :=
  BridgeManager.directory_eq reached.agrees.get

/-- For each place there is one new call. -/
theorem length_of_fansOut {m after : BridgeManager} {dir : Direction} {message : Message}
    {messageId : Nat} {places : List Place}
    (fansOut : FansOut m dir message messageId places after) :
    after.traffic.calls.length - m.traffic.calls.length = places.length := by
  obtain ⟨_, takers, taken, _, calls, _⟩ := fansOut
  rw [calls, List.length_append, List.length_map, Nat.add_sub_cancel_left, taken.length_eq]

/-- To whom a message is given.

To one forwarder for each subscription that has a filter for its topic, however many of its filters match,
in the order of the bytes of the ids and then of the subscriptions: to outbound ones if it comes from the
broker, to inbound ones of the bridge if it comes from a remote. Each acknowledges under its own id, and no
other lane changes. A topic is wanted exactly if a message with it is given to somebody. All this depends on
what is installed and not on how it came to be, so it does not matter in which order requests about different
bridges were made. -/
theorem messages_fan_out :
    (∀ (d : Directory) (topic : String), ∃ places : List Place,
      (∀ p, p ∈ places ↔ d.Wants .outbound topic p) ∧ places.Pairwise Place.Before ∧
      ∀ (g : Gateway) (change : Option Handover) (actions : List Action),
        Reached g actions change → (Register.run {} actions).directory = d →
        ∀ (message : Message) (messageId : Nat), message.topic = topic →
          let result := g.forwardLocal message messageId
          FansOut g.bridges .outbound message messageId places result.1.bridges ∧
            result.2 = List.range' g.traffic.calls.length places.length ∧
            (g.bridges.shouldForward topic = true ↔ result.2 ≠ [])) ∧
    (∀ (d : Directory) (topic id : String), ∃ places : List Place,
      (∀ p, p ∈ places ↔ p.bridge = id ∧ d.Wants .inbound topic p) ∧ places.Pairwise Place.Before ∧
      ∀ (g : Gateway) (change : Option Handover) (actions : List Action),
        Reached g actions change → (Register.run {} actions).directory = d →
        ∀ (message : Message) (messageId : Nat), message.topic = topic →
          (d.lookup id = none →
            g.forwardRemote id message messageId = .error (.notFound .bridge id) ∧
              (g.state change).step (.forwardRemote id message messageId) = g.state change) ∧
          (d.lookup id ≠ none → ∃ result, g.forwardRemote id message messageId = .ok result ∧
            FansOut g.bridges .inbound message messageId places result.1.bridges ∧
            result.2 = List.range' g.traffic.calls.length places.length)) ∧
    (∀ (g g' : Gateway) (change change' : Option Handover) (actions actions' : List Action),
      Reached g actions change → Reached g' actions' change' →
      (Register.run {} actions').directory = (Register.run {} actions).directory →
      ∀ (message : Message) (messageId : Nat),
        let made := (g.forwardLocal message messageId).1.traffic.calls.drop g.traffic.calls.length
        let made' := (g'.forwardLocal message messageId).1.traffic.calls.drop g'.traffic.calls.length
        made.map Call.ack = made'.map Call.ack ∧
          (g.bridges.Runs .outbound → g'.bridges.Runs .outbound →
            made.map Call.progress = made'.map Call.progress)) ∧
    ∀ (before : List Action) (rs rs' : List Request), (Register.run {} before).change = none →
      rs.Perm rs' → (rs.map Request.id).Nodup →
      (Register.run {} (before ++ Request.inTurn rs)).directory =
        (Register.run {} (before ++ Request.inTurn rs')).directory := by
  refine ⟨fun d topic => ?_, fun d topic id => ?_, ?_, ?_⟩
  · refine ⟨_, fun p => Directory.mem_places, Directory.places_pairwise d .outbound topic, ?_⟩
    rintro g change actions reached rfl message messageId rfl
    rw [← reached.directory]
    have fansOut := reached.consistent.fansOut_local message messageId
    have numbers : (g.forwardLocal message messageId).2 = List.range' g.traffic.calls.length
        (g.bridges.directory.places .outbound message.topic).length :=
      congrArg (List.range' _) (length_of_fansOut fansOut)
    refine ⟨fansOut, numbers, ?_⟩
    rw [numbers, ne_eq, List.range'_eq_nil_iff, List.length_eq_zero_iff]
    exact reached.consistent.shouldForward_iff message.topic
  · refine ⟨_, fun p => Directory.mem_placesOf, Directory.placesOf_pairwise d .inbound topic id, ?_⟩
    rintro g change actions reached rfl message messageId rfl
    rw [← reached.directory, BridgeManager.lookup_directory]
    constructor
    · intro unknown
      have absent := Option.map_eq_none_iff.mp unknown
      constructor
      · rw [forwardRemote, BridgeManager.forwardRemote, absent]
      · simp only [State.step, state, BridgeManager.forwardRemote, absent]
    · intro known
      obtain ⟨link, installed⟩ : ∃ link, g.bridges.links.find? id = some link :=
        Option.ne_none_iff_exists'.mp fun absent => known (by rw [absent]; rfl)
      obtain ⟨after, forwarded, fansOut⟩ :=
        reached.consistent.fansOut_remote installed message messageId
      refine ⟨(g.setBridges after, List.range' g.traffic.calls.length
        (after.traffic.calls.length - g.traffic.calls.length)), ?_, fansOut, ?_⟩
      · rw [forwardRemote, show g.bridges.forwardRemote id message messageId = .ok after from forwarded]
      · exact congrArg (List.range' _) (length_of_fansOut fansOut)
  · intro g g' change change' actions actions' reached reached' same message messageId
    rw [← reached.directory, ← reached'.directory] at same
    have one := reached.consistent.fansOut_local message messageId
    have other := reached'.consistent.fansOut_local message messageId
    rw [show (g'.state change').manager.directory = (g.state change).manager.directory from same] at other
    exact one.same same other
  · intro before rs rs' idle perm different
    rw [Register.run_append, Register.run_append, Register.run_inTurn idle, Register.run_inTurn idle,
      Directory.foldl_after_perm perm different]

/-- A bridge with filters that overlap, and with one subscription for each direction. -/
def wideBridge : BridgeConfig :=
  { id := "a", host := "h", localSubscriptions := [{ filters := ["t", "#"] }],
    remoteSubscriptions := [{ filters := ["t"] }] }

def bothBridges : List Request := [.add plainBridge "r", .add wideBridge "r"]

def managed (rs : List Request) : Gateway :=
  { broker := .ofCapacity 1, drainTimeout := 20, bridges := (State.run {} (Request.inTurn rs)).manager }

theorem managed_runs {rs : List Request} (reached : Reached (managed rs) (Request.inTurn rs) none)
    (running : ∀ link ∈ (managed rs).bridges.links.values, ∀ lane ∈ link.outbound,
      ((managed rs).traffic.lanes[lane]?).map Lane.running = some true) :
    (managed rs).bridges.Runs .outbound := by
  intro id link installed lane member
  have value := reached.consistent.ascending.mem_values.mpr ⟨id, installed⟩
  exact Option.map_eq_some_iff.mp (running link value lane member)

/-- Both bridges get a message from the broker, one of them gets one from its remote, and the order in which
they were added does not matter. -/
theorem both_bridges_get_messages :
    ((managed bothBridges).forwardLocal { topic := "t" } 1).2 ≠ [] ∧
      (∃ result, (managed bothBridges).forwardRemote "a" { topic := "t" } 1 = .ok result) ∧
      (managed bothBridges).forwardRemote "c" { topic := "t" } 1 = .error (.notFound .bridge "c") ∧
      ((managed bothBridges).forwardLocal { topic := "t" } 1).1.traffic.calls.map Call.progress =
        ((managed bothBridges.reverse).forwardLocal { topic := "t" } 1).1.traffic.calls.map
          Call.progress := by
  obtain ⟨fromBroker, fromRemote, same, order⟩ := messages_fan_out
  have reached : Reached (managed bothBridges) (Request.inTurn bothBridges) none := ⟨{}, rfl⟩
  have reversed : Reached (managed bothBridges.reverse) (Request.inTurn bothBridges.reverse) none := ⟨{}, rfl⟩
  have directories := order [] _ _ rfl bothBridges.reverse_perm (by decide)
  refine ⟨?_, ?_, ?_, ?_⟩
  · obtain ⟨_, _, _, given⟩ := fromBroker (Register.run {} (Request.inTurn bothBridges)).directory "t"
    obtain ⟨_, _, wanted⟩ := given _ none _ reached rfl { topic := "t" } 1 rfl
    exact wanted.mp (by rfl)
  · obtain ⟨_, _, _, given⟩ := fromRemote (Register.run {} (Request.inTurn bothBridges)).directory "t" "a"
    obtain ⟨_, known⟩ := given _ none _ reached rfl { topic := "t" } 1 rfl
    obtain ⟨result, done, _⟩ := known (by rw [← reached.agrees.get]; exact Option.some_ne_none _)
    exact ⟨result, done⟩
  · obtain ⟨_, _, _, given⟩ := fromRemote (Register.run {} (Request.inTurn bothBridges)).directory "t" "c"
    obtain ⟨unknown, _⟩ := given _ none _ reached rfl { topic := "t" } 1 rfl
    exact (unknown (by rw [← reached.agrees.get]; rfl)).1
  · obtain ⟨_, results⟩ := same _ _ none none _ _ reached reversed directories { topic := "t" } 1
    exact results (managed_runs reached (by decide +kernel)) (managed_runs reversed (by decide +kernel))

example : ((managed bothBridges).forwardLocal { topic := "t" } 1).1.traffic.calls.map Call.ack =
    [⟨"a-outbound-0", 1⟩, ⟨"b-outbound-0", 1⟩] := by rfl

end Gateway
end EdgeGateway

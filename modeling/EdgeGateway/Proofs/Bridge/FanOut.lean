import EdgeGateway.Proofs.Bridge.Calls
import EdgeGateway.Proofs.Bridge.Directory
import EdgeGateway.Proofs.Config.Constraints

/-!
# Fan-out

A message is given to the forwarders of all subscriptions that want it, once each. Which they are and in
which order is a matter of what is installed: `Directory.places` lists them, and `Consistent.fansOut_local`
shows that a manager gives the message to those and to no others.
-/

namespace EdgeGateway

/-! ### Specification -/

/-- Where a forwarder of a direction stands: with which bridge, and for which of its subscriptions. -/
structure Place where
  bridge : String
  index : Nat
  deriving DecidableEq

/-- In the order of the bytes of the ids, and then of the subscriptions. -/
def Place.Before (p q : Place) : Prop :=
  Text.bytes p.bridge < Text.bytes q.bridge ∨ p.bridge = q.bridge ∧ p.index < q.index

def Link.side (l : Link) : Direction → List Nat
  | .outbound => l.outbound
  | .inbound => l.inbound

def BridgeSubscription.wants (s : BridgeSubscription) (topic : String) : Bool :=
  s.filters.any (Topic.matchesFilter topic)

namespace Directory

/-- The subscription at a place has a filter that matches the topic. -/
def Wants (d : Directory) (dir : Direction) (topic : String) (p : Place) : Prop :=
  ∃ i s, d.lookup p.bridge = some i ∧ (i.config.side dir)[p.index]? = some s ∧
    ∃ filter ∈ s.filters, Topic.matchesFilter topic filter = true

/-- The places of one bridge at which a topic is wanted. -/
def placesOf (d : Directory) (dir : Direction) (topic id : String) : List Place :=
  match d.lookup id with
  | some i => ((i.config.side dir).zipIdx.filter (·.1.wants topic)).map fun (_, index) => ⟨id, index⟩
  | none => []

/-- All places at which a topic is wanted. -/
def places (d : Directory) (dir : Direction) (topic : String) : List Place :=
  (d.keys.sort (· ≤ ·)).flatMap (d.placesOf dir topic)

variable {d : Directory} {dir : Direction} {topic id : String} {p : Place}

theorem mem_placesOf : p ∈ d.placesOf dir topic id ↔ p.bridge = id ∧ d.Wants dir topic p := by
  obtain ⟨bridge, index⟩ := p
  unfold placesOf Wants
  constructor
  · intro member
    split at member
    next i found =>
      obtain ⟨⟨s, index⟩, within, same⟩ := List.mem_map.mp member
      obtain ⟨rfl, rfl⟩ := Place.mk.inj same
      obtain ⟨there, wanted⟩ := List.mem_filter.mp within
      exact ⟨rfl, i, s, found, List.mem_zipIdx_iff_getElem?.mp there, List.any_eq_true.mp wanted⟩
    next => cases member
  · rintro ⟨rfl, i, s, found, there, wanted⟩
    dsimp only at found there
    rw [found]
    refine List.mem_map.mpr ⟨(s, index), List.mem_filter.mpr ⟨?_, List.any_eq_true.mpr wanted⟩, rfl⟩
    exact List.mem_zipIdx_iff_getElem?.mpr there

theorem mem_places : p ∈ d.places dir topic ↔ d.Wants dir topic p := by
  unfold places
  rw [List.mem_flatMap]
  constructor
  · rintro ⟨id, _, member⟩
    exact (mem_placesOf.mp member).2
  · intro wanted
    refine ⟨p.bridge, ?_, mem_placesOf.mpr ⟨rfl, wanted⟩⟩
    obtain ⟨i, _, found, _⟩ := wanted
    rw [Finset.mem_sort, Finmap.mem_keys, ← Finmap.lookup_isSome, found]
    rfl

theorem placesOf_pairwise (d : Directory) (dir : Direction) (topic id : String) :
    (d.placesOf dir topic id).Pairwise Place.Before := by
  unfold placesOf
  split
  next i _ =>
    rw [List.pairwise_map]
    have numbers : ((i.config.side dir).zipIdx.map Prod.snd).Pairwise (· < ·) := by
      rw [List.zipIdx_map_snd]
      exact List.pairwise_lt_range'
    refine ((List.pairwise_map.mp numbers).filter _).imp fun before => ?_
    exact .inr ⟨rfl, before⟩
  next => exact .nil

theorem places_pairwise (d : Directory) (dir : Direction) (topic : String) :
    (d.places dir topic).Pairwise Place.Before := by
  refine List.pairwise_flatMap.mpr ⟨fun id _ => placesOf_pairwise d dir topic id, ?_⟩
  refine (Finset.sortedLT_sort d.keys).pairwise.imp fun before p left q right => .inl ?_
  rw [(mem_placesOf.mp left).1, (mem_placesOf.mp right).1]
  exact Text.lt_iff_bytes_lt.mp before

/-! ### Order of requests -/

theorem after_elsewhere {r : Request} (d : Directory) (other : id ≠ r.id) :
    (d.after r).lookup id = d.lookup id := by
  unfold after
  split
  · rfl
  · cases r with
    | add | update => exact Finmap.lookup_insert_of_ne _ other
    | delete => exact Finmap.lookup_erase_ne other

/-- A request looks at nothing but what is installed under its id. -/
theorem after_here {d d' : Directory} {r : Request} (same : d.lookup r.id = d'.lookup r.id) :
    (d.after r).lookup r.id = (d'.after r).lookup r.id := by
  have fault : d.fault? r = d'.fault? r := by
    cases r <;>
    · rw [Request.id] at same
      simp only [fault?, same]
  unfold after
  rw [fault]
  split
  · exact same
  · cases r with
    | add | update => simp only [put, Request.id, Finmap.lookup_insert]
    | delete => simp only [put, Request.id, Finmap.lookup_erase]

/-- Requests about two bridges can be made in any order. -/
theorem after_comm {r r' : Request} (different : r.id ≠ r'.id) (d : Directory) :
    (d.after r).after r' = (d.after r').after r := by
  refine Finmap.ext_lookup fun id => ?_
  by_cases here : id = r.id
  · subst here
    rw [after_elsewhere _ different]
    exact after_here (after_elsewhere d different).symm
  · rw [after_elsewhere (r := r) _ here]
    by_cases there : id = r'.id
    · subst there
      exact after_here (after_elsewhere d here)
    · rw [after_elsewhere _ there, after_elsewhere _ there, after_elsewhere _ here]

theorem foldl_after_perm {rs rs' : List Request} (perm : rs.Perm rs')
    (different : (rs.map Request.id).Nodup) (d : Directory) :
    rs.foldl after d = rs'.foldl after d := by
  refine perm.foldl_eq' (fun r member r' member' d => ?_) d
  by_cases same : r.id = r'.id
  · rw [List.inj_on_of_nodup_map different member member' same]
  · exact after_comm same d

end Directory

/-! ### Offers -/

/-- Under what a lane acknowledges a message of this number. -/
def Lane.token (l : Lane) (messageId : Nat) : AckToken := { queueId := l.forwarder.id, messageId }

namespace Traffic

/-- Gives a message to lanes, one after the other. -/
def give (t : Traffic) (m : Message) (messageId : Nat) (takers : List (Nat × Lane)) : Traffic :=
  takers.foldl (fun t taker => t.forward taker.1 m (taker.2.token messageId)) t

/-- How far a message has come when a lane has just been given it. -/
def given (m : Message) (messageId : Nat) (taker : Nat × Lane) : Call where
  lane := taker.1
  ack := taker.2.token messageId
  progress := opening (taker.2.forwarder.receive taker.2.running m)

theorem forward_elsewhere (t : Traffic) (m : Message) (ack : AckToken) {lane other : Nat}
    (different : lane ≠ other) : (t.forward lane m ack).lanes[other]? = t.lanes[other]? := by
  have change := step_change t (.forward lane m ack)
  change (t.step (.forward lane m ack)).lanes[other]? = _
  generalize t.step (.forward lane m ack) = t' at change ⊢
  cases change with
  | turnAway => rw [turnAway_lanes, count_lanes]
  | takeIn => rw [takeIn_lanes, count_lanes, List.getElem?_modify_ne _ _ different]
  | ignore => rfl

theorem forward_kept {t : Traffic} {lane : Nat} {l : Lane} (present : t.lanes[lane]? = some l)
    (other : Nat) (m : Message) (ack : AckToken) :
    ∃ l', (t.forward other m ack).lanes[lane]? = some l' ∧ l'.forwarder = l.forwarder ∧
      l'.running = l.running := by
  obtain ⟨l', after, change⟩ := step_laneChange (.forward other m ack) present
  refine ⟨l', after, change.forwarder, ?_⟩
  cases change with
  | start event | stop event => cases event
  | rest | takeIn | finish => rfl

/-- Each lane that is given a message has got a call of its own, and no other lane has changed. -/
theorem give_calls {t : Traffic} {takers : List (Nat × Lane)}
    (present : ∀ taker ∈ takers, ∃ l, t.lanes[taker.1]? = some l ∧
      l.forwarder = taker.2.forwarder ∧ l.running = taker.2.running) (m : Message) (messageId : Nat) :
    (t.give m messageId takers).calls = t.calls ++ takers.map (given m messageId) ∧
      ∀ lane ∉ takers.map Prod.fst, (t.give m messageId takers).lanes[lane]? = t.lanes[lane]? := by
  induction takers generalizing t with
  | nil => exact ⟨(List.append_nil _).symm, fun _ _ => rfl⟩
  | cons taker rest ih =>
    obtain ⟨l, there, forwarder, running⟩ := present taker List.mem_cons_self
    have later (other) (member : other ∈ rest) : ∃ l,
        (t.forward taker.1 m (taker.2.token messageId)).lanes[other.1]? = some l ∧
          l.forwarder = other.2.forwarder ∧ l.running = other.2.running := by
      obtain ⟨l, there, forwarder, running⟩ := present other (List.mem_cons_of_mem taker member)
      obtain ⟨l', after, same, on⟩ := forward_kept there taker.1 m (taker.2.token messageId)
      exact ⟨l', after, same.trans forwarder, on.trans running⟩
    have first : (t.forward taker.1 m (taker.2.token messageId)).calls =
        t.calls ++ [given m messageId taker] := by
      rw [given, ← forwarder, ← running]
      exact forward_calls m _ there
    obtain ⟨calls, elsewhere⟩ := ih later
    refine ⟨?_, fun lane untouched => ?_⟩
    · rw [List.map_cons, List.append_cons, ← first]
      exact calls
    · rw [List.map_cons, List.mem_cons, not_or] at untouched
      exact (elsewhere lane untouched.2).trans (forward_elsewhere t m _ (Ne.symm untouched.1))

/-- The lanes with a filter that matches the topic, as they are. -/
def takers (t : Traffic) (topic : String) (lanes : List Nat) : List (Nat × Lane) :=
  lanes.filterMap fun lane =>
    ((t.lanes[lane]?).filter (·.forwarder.matchesTopic topic)).map (lane, ·)

theorem mem_takers {t : Traffic} {topic : String} {lanes : List Nat} {taker : Nat × Lane}
    (member : taker ∈ t.takers topic lanes) : t.lanes[taker.1]? = some taker.2 := by
  obtain ⟨lane, _, made⟩ := List.mem_filterMap.mp member
  obtain ⟨l, kept, rfl⟩ := Option.map_eq_some_iff.mp made
  exact (Option.filter_eq_some_iff.mp kept).1

end Traffic

namespace BridgeManager

open Traffic (takers)

theorem offer_eq_give (t : Traffic) (m : Message) (messageId : Nat) (lanes : List Nat) :
    offer t m messageId lanes = t.give m messageId (t.takers m.topic lanes) := by
  have events : offerEvents t m messageId lanes = (t.takers m.topic lanes).map fun taker =>
      .forward taker.1 m (taker.2.token messageId) := by
    rw [offerEvents, takers, List.map_filterMap]
    refine List.filterMap_congr fun lane _ => ?_
    rw [Traffic.forwarder?]
    cases t.lanes[lane]? with
    | none => rfl
    | some l =>
      simp only [Option.map_some, Option.filter_some]
      split <;> rfl
  rw [offer_traffic, events, Traffic.run, List.foldl_map]
  rfl

/-- A topic is wanted if there is a lane to give its messages to. -/
theorem shouldForward_iff (m : BridgeManager) (topic : String) :
    m.shouldForward topic = true ↔ m.traffic.takers topic m.outboundLanes ≠ [] := by
  rw [shouldForward, List.any_eq_true, takers, ne_eq, List.filterMap_eq_nil_iff, not_forall]
  refine exists_congr fun lane => ?_
  rw [Classical.not_imp, and_congr_right_iff]
  intro _
  cases m.traffic.lanes[lane]? with
  | none => simp
  | some l => simp [Option.filter_some]

/-! ### Forwarders in their places -/

/-- At a place among the lanes of a bridge stands the forwarder that has been built for its subscription. -/
structure Manned (t : Traffic) (config : BridgeConfig) (dir : Direction) (lanes : List Nat) (p : Place)
    (taker : Nat × Lane) : Prop where
  lane : lanes[p.index]? = some taker.1
  present : t.lanes[taker.1]? = some taker.2
  built : ∃ s, (config.side dir)[p.index]? = some s ∧
    Forwarder.build config dir p.index s = .ok taker.2.forwarder

/-- Among lanes for subscriptions the takers are those at the places where the topic is wanted. -/
theorem Serve.takers {t : Traffic} {config : BridgeConfig} {dir : Direction} {target : Target}
    {lanes : List Nat} (serve : Serve t config dir target lanes (config.side dir))
    (id topic : String) :
    List.Forall₂ (Manned t config dir lanes)
      (((config.side dir).zipIdx.filter (·.1.wants topic)).map fun (_, index) => ⟨id, index⟩)
      (t.takers topic lanes) := by
  have placed := (forall₂_zipIdx serve).imp (S := fun lane numbered => ∃ l : Lane,
      t.lanes[lane]? = some l ∧ l.forwarder.filters = numbered.1.filters ∧
        Manned t config dir lanes ⟨id, numbered.2⟩ (lane, l)) <| by
    rintro lane ⟨s, index⟩ ⟨⟨f, post, built⟩, here, there⟩
    obtain ⟨l, present, same⟩ := Option.map_eq_some_iff.mp post
    obtain ⟨rfl, _⟩ := Prod.mk.inj same
    exact ⟨l, present, (Forwarder.build_labels built).2.2.2, here, present, s, there, built⟩
  clear serve
  unfold Traffic.takers
  -- The lanes among which each has its place stay; only those that are still to be asked get fewer.
  generalize Manned t config dir lanes = manned, (config.side dir).zipIdx = numbered at placed ⊢
  induction placed with
  | nil => exact .nil
  | @cons lane numbered rest others here _ ih =>
    obtain ⟨l, present, filters, there⟩ := here
    have asked : l.forwarder.matchesTopic topic = numbered.1.wants topic := by
      rw [Forwarder.matchesTopic, filters, BridgeSubscription.wants]
    cases wanted : numbered.1.wants topic with
    | true =>
      rw [List.filter_cons, if_pos wanted, List.map_cons,
        List.filterMap_cons_some (b := (lane, l)) (by simp [present, asked, wanted])]
      exact .cons there ih
    | false =>
      rw [List.filter_cons, if_neg (by simp [wanted]),
        List.filterMap_cons_none (by simp [present, asked, wanted])]
      exact ih

/-- The lane of a link that stands at a place, under an id that is made of the place. -/
def Holds (m : BridgeManager) (dir : Direction) (p : Place) (taker : Nat × Lane) : Prop :=
  ∃ link, m.links.find? p.bridge = some link ∧
    Manned m.traffic link.config dir (link.side dir) p taker ∧
    taker.2.forwarder.id = Forwarder.idOf p.bridge dir p.index

/-- What a message comes to that is wanted at these places: the forwarder at each of them is called once,
in order and under its own id, and nobody else is. -/
structure FansOut (m : BridgeManager) (dir : Direction) (message : Message) (messageId : Nat)
    (places : List Place) (after : BridgeManager) : Prop where
  links : after.links = m.links
  calls : ∃ takers, List.Forall₂ (m.Holds dir) places takers ∧
    after.traffic = m.traffic.give message messageId takers ∧
    after.traffic.calls = m.traffic.calls ++ takers.map (Traffic.given message messageId) ∧
    ∀ lane ∉ takers.map Prod.fst, after.traffic.lanes[lane]? = m.traffic.lanes[lane]?

theorem fansOut_of_offer {m : BridgeManager} {dir : Direction} {lanes : List Nat}
    {places : List Place} {message : Message}
    (taken : List.Forall₂ (m.Holds dir) places (m.traffic.takers message.topic lanes))
    (messageId : Nat) :
    FansOut m dir message messageId places
      { m with traffic := offer m.traffic message messageId lanes } := by
  obtain ⟨calls, elsewhere⟩ := Traffic.give_calls
    (fun taker member => ⟨taker.2, Traffic.mem_takers member, rfl, rfl⟩) message messageId
  refine ⟨rfl, _, taken, offer_eq_give _ _ _ _, ?_, ?_⟩
  · rw [← calls, ← offer_eq_give]
  · intro lane untouched
    rw [← elsewhere lane untouched, ← offer_eq_give]

namespace State

variable {s : State}

theorem Consistent.takers_of_link (consistent : Consistent s) {id : String} {link : Link}
    (installed : s.manager.links.find? id = some link) (dir : Direction) (topic : String) :
    List.Forall₂ (s.manager.Holds dir) (s.manager.directory.placesOf dir topic id)
      (s.manager.traffic.takers topic (link.side dir)) := by
  have named := consistent.keyed installed
  have taken : List.Forall₂ (Manned s.manager.traffic link.config dir (link.side dir))
      (s.manager.directory.placesOf dir topic id)
      (s.manager.traffic.takers topic (link.side dir)) := by
    rw [Directory.placesOf, lookup_directory, installed]
    cases dir with
    | outbound => exact Serve.takers (consistent.furnished installed).outbound id topic
    | inbound => exact Serve.takers (consistent.furnished installed).inbound id topic
  have there : ∀ p ∈ s.manager.directory.placesOf dir topic id, p.bridge = id :=
    fun p member => (Directory.mem_placesOf.mp member).1
  refine ((List.forall₂_and_left _ _).mpr ⟨there, taken⟩).imp ?_
  rintro p taker ⟨rfl, manned⟩
  obtain ⟨_, _, built⟩ := manned.built
  exact ⟨link, installed, manned, named ▸ (Forwarder.build_labels built).1⟩

/-- The lanes that take a message from the broker are those at the places in the directory. -/
theorem Consistent.takers (consistent : Consistent s) (topic : String) :
    List.Forall₂ (s.manager.Holds .outbound) (s.manager.directory.places .outbound topic)
      (s.manager.traffic.takers topic s.manager.outboundLanes) := by
  have agrees := consistent.agrees
  rw [Directory.places, ← agrees.keys, Table.keys, List.flatMap_map, outboundLanes, Table.values,
    List.flatMap_map, Traffic.takers, List.filterMap_flatMap]
  exact forall₂_flatMap fun entry member =>
    consistent.takers_of_link ((agrees.entries entry.1 entry.2).mp member) .outbound topic

theorem Consistent.fansOut_local (consistent : Consistent s) (message : Message) (messageId : Nat) :
    FansOut s.manager .outbound message messageId
      (s.manager.directory.places .outbound message.topic)
      (s.manager.forwardLocal message messageId) :=
  fansOut_of_offer (consistent.takers message.topic) messageId

theorem Consistent.fansOut_remote (consistent : Consistent s) {id : String} {link : Link}
    (installed : s.manager.links.find? id = some link) (message : Message) (messageId : Nat) :
    ∃ after, s.manager.forwardRemote id message messageId = .ok after ∧
      FansOut s.manager .inbound message messageId
        (s.manager.directory.placesOf .inbound message.topic id) after := by
  rw [forwardRemote, installed]
  exact ⟨_, rfl,
    fansOut_of_offer (consistent.takers_of_link installed .inbound message.topic) messageId⟩

theorem Consistent.shouldForward_iff (consistent : Consistent s) (topic : String) :
    s.manager.shouldForward topic = true ↔ s.manager.directory.places .outbound topic ≠ [] := by
  rw [BridgeManager.shouldForward_iff, ne_eq, ne_eq, ← List.length_eq_zero_iff,
    ← List.length_eq_zero_iff, (consistent.takers topic).length_eq]

end State

/-! ### Histories -/

/-- Where the same is installed the same forwarder stands at each place. -/
theorem Holds.forwarder_eq {m m' : BridgeManager} {dir : Direction} {p : Place}
    {taker taker' : Nat × Lane} (same : m'.directory = m.directory) (here : m.Holds dir p taker)
    (there : m'.Holds dir p taker') : taker'.2.forwarder = taker.2.forwarder := by
  obtain ⟨link, installed, ⟨_, _, s, placed, built⟩, _⟩ := here
  obtain ⟨link', installed', ⟨_, _, s', placed', built'⟩, _⟩ := there
  have config : link'.config = link.config := by
    have known := lookup_directory m' p.bridge
    rw [same, lookup_directory, installed, installed'] at known
    exact (congrArg Installation.config (Option.some.inj known)).symm
  rw [config] at placed' built'
  obtain rfl := Option.some.inj (placed.symm.trans placed')
  exact Except.ok.inj (built'.symm.trans built)

/-- All forwarders of a direction run. -/
def Runs (m : BridgeManager) (dir : Direction) : Prop :=
  ∀ id link, m.links.find? id = some link → ∀ lane ∈ link.side dir, m.traffic.Running lane

theorem Holds.running {m : BridgeManager} {dir : Direction} {p : Place} {taker : Nat × Lane}
    (here : m.Holds dir p taker) (runs : m.Runs dir) : taker.2.running = true := by
  obtain ⟨link, installed, ⟨lane, present, _⟩, _⟩ := here
  obtain ⟨l, there, running⟩ := runs _ link installed taker.1 (List.mem_of_getElem? lane)
  rw [Option.some.inj (present.symm.trans there)]
  exact running

section Same
variable {m m' after after' : BridgeManager} {dir : Direction} {message : Message} {messageId : Nat}
  {places : List Place}

/-- Where the same is installed a message is given to the same forwarders, and while all of them run it
comes as far with each. -/
theorem FansOut.same (same : m'.directory = m.directory)
    (one : FansOut m dir message messageId places after)
    (other : FansOut m' dir message messageId places after') :
    let made := after.traffic.calls.drop m.traffic.calls.length
    let made' := after'.traffic.calls.drop m'.traffic.calls.length
    made.map Call.ack = made'.map Call.ack ∧
      (m.Runs dir → m'.Runs dir → made.map Call.progress = made'.map Call.progress) := by
  obtain ⟨_, takers, taken, _, calls, _⟩ := one
  obtain ⟨_, takers', taken', _, calls', _⟩ := other
  dsimp only
  rw [calls, calls', List.drop_left, List.drop_left, List.map_map, List.map_map, List.map_map,
    List.map_map]
  refine ⟨map_eq_of_forall₂ taken taken' fun p taker taker' here there => ?_,
    fun runs runs' => map_eq_of_forall₂ taken taken' fun p taker taker' here there => ?_⟩
  · simp only [Function.comp_apply, Traffic.given, Lane.token, here.forwarder_eq same there]
  · simp only [Function.comp_apply, Traffic.given, here.forwarder_eq same there, here.running runs,
      there.running runs']

end Same

end BridgeManager
end EdgeGateway

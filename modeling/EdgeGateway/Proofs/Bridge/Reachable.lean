import EdgeGateway.Proofs.Bridge.Links

/-!
# Reachable states

`Move` lists what an action can do to the links and to the change under way. In every state that a
manager can get into each link stands under its own id, has its forwarders, and has a lane of its own
for each of them; `run_consistent` says so of every run.
-/

namespace EdgeGateway.BridgeManager

open Traffic (Event)

/-! ### Switching lanes -/

theorem setRunning_lane (m : BridgeManager) (lanes : List Nat) (running : Bool) (lane : Nat) :
    (m.setRunning lanes running).traffic.lanes[lane]? =
      (m.traffic.lanes[lane]?).map fun l => if lane ∈ lanes then { l with running } else l := by
  unfold setRunning
  dsimp only
  generalize m.traffic = t
  induction lanes generalizing t with
  | nil => simp
  | cons first rest ih =>
    rw [List.foldl_cons, ih, Traffic.setRunning_lanes, List.getElem?_modify]
    cases t.lanes[lane]? with
    | none => rfl
    | some l =>
      by_cases here : first = lane
      · simp [here]
      · simp [here, Ne.symm here]

variable {s : State} {a : Action}

namespace State

/-- Everything an action can do to the links and the change under way. -/
inductive Move (s : State) : Action → State → Prop where
  | rest {a : Action} {s' : State} (links : s'.manager.links = s.manager.links)
      (change : s'.change = s.change) : Move s a s'
  | add {config : BridgeConfig} {remote : String} {m' : BridgeManager} {link : Link}
      (idle : s.change = none) (absent : s.manager.links.find? config.id = none)
      (built : Built s.manager config remote m' link) :
      Move s (.add config remote) { s with manager := (m'.setRunning link.lanes true).putLink link }
  | beginUpdate {config : BridgeConfig} {remote : String} {old : Link} {m' : BridgeManager}
      {link : Link} (idle : s.change = none)
      (present : s.manager.links.find? config.id = some old)
      (built : Built s.manager config remote m' link) :
      Move s (.beginUpdate config remote)
        { manager := m'.setRunning old.lanes false,
          change := some { id := config.id, replacement := .link link } }
  | beginDelete {id : String} {old : Link} (idle : s.change = none)
      (present : s.manager.links.find? id = some old) :
      Move s (.beginDelete id)
        { manager := s.manager.setRunning old.lanes false,
          change := some { id, replacement := .nothing } }
  | replace {h : Handover} {link : Link} (pending : s.change = some h)
      (replacement : h.replacement = .link link) :
      Move s .complete { manager := (s.manager.putLink link).setRunning link.lanes true }
  | remove {h : Handover} (pending : s.change = some h) (replacement : h.replacement = .nothing) :
      Move s .complete { manager := { s.manager with links := s.manager.links.erase h.id } }
  | giveUp : Move s .giveUp { s with change := none }

theorem step_move (s : State) (a : Action) : Move s a (s.step a) := by
  cases a with
  | add config remote =>
    simp only [step]
    split
    · exact .rest rfl rfl
    next idle =>
      rw [Bool.not_eq_true, Option.isSome_eq_false_iff, Option.isNone_iff_eq_none] at idle
      rcases s.manager.add_cases config remote with
        ⟨m', fault, failed, unchanged⟩ | ⟨m', link, done, absent, built⟩
      · rw [failed]
        exact .rest unchanged.links rfl
      · rw [done]
        exact .add idle absent built
  | beginUpdate config remote =>
    simp only [step]
    split
    · exact .rest rfl rfl
    next idle =>
      rw [Bool.not_eq_true, Option.isSome_eq_false_iff, Option.isNone_iff_eq_none] at idle
      rcases s.manager.beginUpdate_cases config remote with
        ⟨m', fault, failed, unchanged⟩ | ⟨old, m', link, done, present, built⟩
      · rw [failed]
        exact .rest unchanged.links rfl
      · rw [done]
        exact .beginUpdate idle present built
  | beginDelete id =>
    simp only [step]
    split
    · exact .rest rfl rfl
    next idle =>
      rw [Bool.not_eq_true, Option.isSome_eq_false_iff, Option.isNone_iff_eq_none] at idle
      rcases s.manager.beginDelete_cases id with ⟨fault, failed⟩ | ⟨old, done, present⟩
      · rw [failed]
        exact .rest rfl rfl
      · rw [done]
        exact .beginDelete idle present
  | complete =>
    cases pending : s.change with
    | none =>
      simp only [step, pending]
      exact .rest rfl rfl
    | some h =>
      simp only [step, pending, BridgeManager.complete]
      cases replacement : h.replacement with
      | link link => exact .replace pending replacement
      | nothing => exact .remove pending replacement
  | giveUp => exact .giveUp
  | forwardRemote id m messageId =>
    simp only [step, forwardRemote]
    cases s.manager.links.find? id <;> exact .rest rfl rfl
  | startAll | stopAll | forwardLocal | intercepted | answered | abort => exact .rest rfl rfl

/-! ### Links through an action -/

/-- A link has got its forwarders, on lanes that were not there before. -/
structure Appears (s s' : State) (link : Link) : Prop where
  furnished : Furnished s'.manager.traffic link
  lanes : ∀ lane ∈ link.lanes, s.manager.traffic.lanes.length ≤ lane

/-- A link that an action has built has its forwarders also when the action is done. -/
theorem Appears.of_built {m' : BridgeManager} {config : BridgeConfig} {remote : String} {link : Link}
    {s' : State} (built : Built s.manager config remote m' link) {lanes : List Nat} {running : Bool}
    (after : s'.manager.traffic = (m'.setRunning lanes running).traffic) : Appears s s' link where
  furnished := by
    rw [after, setRunning_traffic]
    exact built.furnished.mono fun _ _ present => Traffic.run_post _ present
  lanes := fun lane member => by
    obtain ⟨_, _, range, _⟩ := built.lanes
    rw [range, List.mem_range'_1] at member
    exact member.1

variable {s' : State} {id : String} {link : Link}

theorem Move.ascending (move : Move s a s') (ascending : s.manager.links.Ascending) :
    s'.manager.links.Ascending := by
  cases move with
  | rest links => exact links ▸ ascending
  | add _ _ built => exact (built.links ▸ ascending).insert _ _
  | beginUpdate _ _ built => exact built.links ▸ ascending
  | beginDelete | giveUp => exact ascending
  | replace => exact ascending.insert _ _
  | remove => exact ascending.erase _

/-- A link that is in its place after an action was there before, or it has been added, or it has
replaced another. -/
theorem Move.installed (move : Move s a s') (there : s'.manager.links.find? id = some link) :
    s.manager.links.find? id = some link ∨
      (∃ config remote, a = .add config remote ∧ s.change = none ∧ Appears s s' link ∧
        id = link.config.id) ∨
      ∃ h, a = .complete ∧ s.change = some h ∧ h.replacement = .link link ∧ id = link.config.id := by
  cases move with
  | rest links => exact .inl (links ▸ there)
  | @add config remote m' new idle _ built =>
    rcases Table.find?_insert_eq_some.mp there with ⟨named, rfl⟩ | ⟨_, old⟩
    · exact .inr (.inl ⟨config, remote, rfl, idle, .of_built built rfl, named⟩)
    · exact .inl (built.links ▸ old)
  | beginUpdate _ _ built => exact .inl (built.links ▸ there)
  | beginDelete | giveUp => exact .inl there
  | @replace h new pending replacement =>
    rcases Table.find?_insert_eq_some.mp there with ⟨named, rfl⟩ | ⟨_, old⟩
    · exact .inr (.inr ⟨h, rfl, pending, replacement, named⟩)
    · exact .inl old
  | remove => exact .inl (Table.find?_erase_eq_some.mp there).2

/-- A link that is to come was so before, or it has just been built. -/
theorem Move.coming {h : Handover} (move : Move s a s') (pending : s'.change = some h)
    (replacement : h.replacement = .link link) :
    s.change = some h ∨ Appears s s' link ∧ link.config.id = h.id := by
  cases move with
  | rest _ change => exact .inl (change ▸ pending)
  | add => exact .inl pending
  | beginUpdate _ _ built =>
    cases pending
    cases replacement
    exact .inr ⟨.of_built built rfl, by rw [built.config]⟩
  | beginDelete =>
    cases pending
    cases replacement
  | replace | remove | giveUp => cases pending

/-! ### Consistency -/

/-- What holds of every state that can be reached. -/
structure Consistent (s : State) : Prop where
  ascending : s.manager.links.Ascending
  keyed : ∀ {id l}, s.manager.links.find? id = some l → l.config.id = id
  furnished : ∀ {id l}, s.manager.links.find? id = some l → Furnished s.manager.traffic l
  /-- A change is one of a link that is there. -/
  installed : ∀ {h}, s.change = some h → ∃ old, s.manager.links.find? h.id = some old
  replacement : ∀ {h link}, s.change = some h → h.replacement = .link link →
    link.config.id = h.id ∧ Furnished s.manager.traffic link

theorem step_post {lane : Nat} {post : Forwarder × Target}
    (present : s.manager.traffic.post? lane = some post) :
    (s.step a).manager.traffic.post? lane = some post := by
  rw [step_traffic]
  exact Traffic.run_post _ present

theorem Furnished.step {l : Link} (furnished : Furnished s.manager.traffic l) :
    Furnished (s.step a).manager.traffic l :=
  furnished.mono fun _ _ present => step_post present

theorem Consistent.step (consistent : Consistent s) (a : Action) : Consistent (s.step a) := by
  have kept {l : Link} : Furnished s.manager.traffic l → Furnished (s.step a).manager.traffic l :=
    Furnished.step
  have move := step_move s a
  generalize s.step a = s' at kept move ⊢
  obtain ⟨ascending, keyed, furnished, installed, replacement⟩ := consistent
  refine ⟨move.ascending ascending, ?_, ?_, ?_, ?_⟩
  · intro id l there
    rcases move.installed there with old | ⟨_, _, _, _, _, named⟩ | ⟨h, _, _, _, named⟩
    · exact keyed old
    · exact named.symm
    · exact named.symm
  · intro id l there
    rcases move.installed there with old | ⟨_, _, _, _, new, _⟩ | ⟨h, _, pending, new, _⟩
    · exact kept (furnished old)
    · exact new.furnished
    · exact kept (replacement pending new).2
  · intro h pending
    cases move with
    | rest links change => exact links ▸ installed (change ▸ pending)
    | add idle => cases idle.symm.trans pending
    | beginUpdate _ present built =>
      cases pending
      exact ⟨_, built.links ▸ present⟩
    | beginDelete _ present =>
      cases pending
      exact ⟨_, present⟩
    | replace | remove | giveUp => cases pending
  · intro h link pending link_new
    rcases move.coming pending link_new with before | ⟨new, named⟩
    · exact (replacement before link_new).imp_right kept
    · exact ⟨named, new.furnished⟩

theorem run_consistent (actions : List Action) : Consistent (run {} actions) := by
  induction actions using List.reverseRecOn with
  | nil =>
    refine ⟨Table.ascending_empty, ?_, ?_, ?_, ?_⟩
    · intro id l there
      cases there
    · intro id l there
      cases there
    · intro h pending
      cases pending
    · intro h link pending
      cases pending
  | append_singleton actions a ih =>
    rw [run, List.foldl_concat]
    exact ih.step a

/-! ### Events of an action -/

/-- Everything an action of a consistent state can do to the forwarders. -/
inductive Happens (s : State) (a : Action) : Event → Prop where
  | addLane (f : Forwarder) (target : Target) : Happens s a (.addLane f target)
  | openMetrics (f : Forwarder) : Happens s a (.openMetrics f)
  | startNew {config : BridgeConfig} {remote : String} {lane : Nat}
      (action : a = .add config remote) (new : s.manager.traffic.lanes.length ≤ lane) :
      Happens s a (.start lane)
  | startReplacement {h : Handover} {link : Link} {lane : Nat} (action : a = .complete)
      (pending : s.change = some h) (replacement : h.replacement = .link link)
      (member : lane ∈ link.lanes) : Happens s a (.start lane)
  | startInstalled {id : String} {link : Link} {lane : Nat} (action : a = .startAll)
      (installed : s.manager.links.find? id = some link) (member : lane ∈ link.lanes) :
      Happens s a (.start lane)
  | stop {id : String} {link : Link} {lane : Nat}
      (installed : s.manager.links.find? id = some link) (member : lane ∈ link.lanes) :
      Happens s a (.stop lane)
  | fromBroker {id : String} {link : Link} {lane : Nat} {m : Message} {ack : AckToken}
      (action : a = .forwardLocal m ack.messageId)
      (installed : s.manager.links.find? id = some link) (member : lane ∈ link.outbound) :
      Happens s a (.forward lane m ack)
  | fromRemote {id : String} {link : Link} {lane : Nat} {m : Message} {ack : AckToken}
      (action : a = .forwardRemote id m ack.messageId)
      (installed : s.manager.links.find? id = some link) (member : lane ∈ link.inbound) :
      Happens s a (.forward lane m ack)
  | intercepted {call : Nat} {answer : Except InterceptFault Interception} {connected : Bool}
      (action : a = .intercepted call answer connected) :
      Happens s a (.intercepted call answer connected)
  | answered (call : Nat) (answer : Except PublishFault Unit) : Happens s a (.answered call answer)
  | abort (call : Nat) : Happens s a (.abort call)

/-- Messages are offered to the lanes of links. -/
theorem Happens.offered {lane : Nat} {m : Message} {ack : AckToken}
    (happens : Happens s a (.forward lane m ack)) :
    ∃ id link, s.manager.links.find? id = some link ∧ lane ∈ link.lanes := by
  cases happens with
  | fromBroker _ installed member => exact ⟨_, _, installed, List.mem_append_left _ member⟩
  | fromRemote _ installed member => exact ⟨_, _, installed, List.mem_append_right _ member⟩

theorem happens_of_build {config : BridgeConfig} {remote : String} {e : Event}
    (member : e ∈ buildEvents config remote) : Happens s a e := by
  unfold buildEvents at member
  split at member
  · obtain ⟨f, _, rfl⟩ := List.mem_map.mp member
    exact .openMetrics f
  · split at member
    · obtain ⟨f, _, rfl⟩ := List.mem_map.mp member
      exact .openMetrics f
    · rcases List.mem_append.mp member with sent | got
      · obtain ⟨f, _, rfl⟩ := List.mem_map.mp sent
        exact .addLane f _
      · obtain ⟨f, _, rfl⟩ := List.mem_map.mp got
        exact .addLane f _

theorem happens_of_offer {m : Message} {messageId : Nat} {lanes : List Nat} {e : Event}
    (member : e ∈ offerEvents s.manager.traffic m messageId lanes)
    (each : ∀ lane ∈ lanes, ∀ ack : AckToken, ack.messageId = messageId →
      Happens s a (.forward lane m ack)) : Happens s a e := by
  obtain ⟨lane, offered, made⟩ := List.mem_filterMap.mp member
  obtain ⟨f, _, rfl⟩ := Option.map_eq_some_iff.mp made
  exact each lane offered _ rfl

theorem happens_of_switch {running : Bool} {lanes : List Nat} {e : Event}
    (member : e ∈ lanes.map (switch running))
    (each : ∀ lane ∈ lanes, Happens s a (switch running lane)) : Happens s a e := by
  obtain ⟨lane, within, rfl⟩ := List.mem_map.mp member
  exact each lane within

theorem Consistent.happens (consistent : Consistent s) {e : Event} (member : e ∈ s.events a) :
    Happens s a e := by
  have everywhere {lane : Nat} (within : lane ∈ s.manager.links.values.flatMap Link.lanes) :
      ∃ id link, s.manager.links.find? id = some link ∧ lane ∈ link.lanes := by
    obtain ⟨link, value, there⟩ := List.mem_flatMap.mp within
    obtain ⟨id, found⟩ := consistent.ascending.mem_values.mp value
    exact ⟨id, link, found, there⟩
  cases a with
  | add config remote =>
    simp only [events, addEvents] at member
    split at member
    · cases member
    · split at member
      · cases member
      · split at member
        · cases member
        · rcases s.manager.buildLink_cases config remote with
            ⟨m', fault, failed, _⟩ | ⟨m', link, done, built⟩
          · simp only [failed] at member
            exact happens_of_build member
          · simp only [done] at member
            rcases List.mem_append.mp member with before | started
            · exact happens_of_build before
            · refine happens_of_switch started fun lane within => .startNew rfl ?_
              obtain ⟨new, _, lanes, _⟩ := built.lanes
              rw [lanes, List.mem_range'_1] at within
              exact within.1
  | beginUpdate config remote =>
    simp only [events, beginUpdateEvents] at member
    split at member
    · cases member
    · split at member
      · cases member
      next old present =>
        split at member
        · cases member
        · split at member
          · exact happens_of_build member
          · rcases List.mem_append.mp member with before | stopped
            · exact happens_of_build before
            · exact happens_of_switch stopped fun lane within => .stop present within
  | beginDelete id =>
    simp only [events, beginDeleteEvents] at member
    split at member
    · cases member
    · split at member
      · cases member
      next old present =>
        exact happens_of_switch member fun lane within => .stop present within
  | complete =>
    simp only [events] at member
    split at member
    next h pending =>
      unfold completeEvents at member
      split at member
      next link replacement =>
        exact happens_of_switch member fun lane within =>
          .startReplacement rfl pending replacement within
      · cases member
    · cases member
  | giveUp => cases member
  | startAll =>
    refine happens_of_switch member fun lane within => ?_
    obtain ⟨id, link, installed, there⟩ := everywhere within
    exact .startInstalled rfl installed there
  | stopAll =>
    refine happens_of_switch member fun lane within => ?_
    obtain ⟨id, link, installed, there⟩ := everywhere within
    exact .stop installed there
  | forwardLocal m messageId =>
    refine happens_of_offer member fun lane within ack number => ?_
    obtain ⟨link, value, there⟩ := List.mem_flatMap.mp within
    obtain ⟨id, installed⟩ := consistent.ascending.mem_values.mp value
    exact .fromBroker (by rw [number]) installed there
  | forwardRemote id m messageId =>
    simp only [events] at member
    split at member
    next link installed =>
      refine happens_of_offer member fun lane within ack number => ?_
      exact .fromRemote (by rw [number]) installed within
    · cases member
  | intercepted call answer connected =>
    obtain rfl := List.mem_singleton.mp member
    exact .intercepted rfl
  | answered call answer =>
    obtain rfl := List.mem_singleton.mp member
    exact .answered call answer
  | abort call =>
    obtain rfl := List.mem_singleton.mp member
    exact .abort call

end State
end EdgeGateway.BridgeManager

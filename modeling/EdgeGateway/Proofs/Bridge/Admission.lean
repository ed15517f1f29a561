import EdgeGateway.Bridge.Manager
import EdgeGateway.Config.Basic
import EdgeGateway.Proofs.Table

/-!
# Admission of bridges

A bridge is admitted by two checks: `BridgeConfig.validate` goes through its fields, and building its
forwarders reads their QoS ceilings and destinations. The second finds fault with exactly one thing
that the first lets pass, a destination that is no template. So a checked configuration starts, one
bridge after the other, except for bridges with such a destination.
-/

namespace EdgeGateway

/-! ### Destinations -/

/-- The fault of a destination that is no template, under the name of its subscription. -/
def BridgeSubscription.templateFault? (s : BridgeSubscription) (name : String) : Option FieldFault :=
  match Topic.Template.parse s.destination with
  | .ok _ => none
  | .error fault =>
    some { field := name, message := (TransformFault.badTemplate s.destination fault).message }

/-- The first such fault in a list of subscriptions that are numbered from `first` on. -/
def templateFault? (listName : String) (first : Nat) (subscriptions : List BridgeSubscription) :
    Option FieldFault :=
  (subscriptions.zipIdx first).findSome? fun (s, i) => s.templateFault? s!"{listName}[{i}]"

def BridgeConfig.subscriptions (c : BridgeConfig) : List BridgeSubscription :=
  c.localSubscriptions ++ c.remoteSubscriptions

def BridgeConfig.templateFault? (c : BridgeConfig) : Option FieldFault :=
  (EdgeGateway.templateFault? "local_subscriptions" 0 c.localSubscriptions).or
    (EdgeGateway.templateFault? "remote_subscriptions" 0 c.remoteSubscriptions)

/-- What keeps a bridge from being installed: the faults of its fields, or else its first
destination that is no template. -/
def BridgeConfig.fault? (c : BridgeConfig) : Option AdminFault :=
  match c.validate with
  | .error fault => some fault
  | .ok () => c.templateFault?.map fun fault => .validation [fault]

theorem BridgeSubscription.templateFault?_eq_none {s : BridgeSubscription} {name : String} :
    s.templateFault? name = none ↔ ∃ t, Topic.Template.parse s.destination = .ok t := by
  unfold templateFault?
  cases Topic.Template.parse s.destination <;> simp

theorem templateFault?_eq_none {listName : String} {first : Nat}
    {subscriptions : List BridgeSubscription} :
    templateFault? listName first subscriptions = none ↔
      ∀ s ∈ subscriptions, ∃ t, Topic.Template.parse s.destination = .ok t := by
  simp only [templateFault?, List.findSome?_eq_none_iff, Prod.forall,
    BridgeSubscription.templateFault?_eq_none]
  constructor
  · intro parsed s member
    obtain ⟨i, found⟩ := List.mem_iff_getElem?.mp member
    refine parsed s (first + i) (List.mk_add_mem_zipIdx_iff_getElem?.mpr found)
  · intro parsed s i member
    exact parsed s (List.fst_mem_of_mem_zipIdx member)

theorem BridgeConfig.templateFault?_eq_none {c : BridgeConfig} :
    c.templateFault? = none ↔
      ∀ s ∈ c.subscriptions, ∃ t, Topic.Template.parse s.destination = .ok t := by
  rw [templateFault?, Option.or_eq_none_iff, EdgeGateway.templateFault?_eq_none,
    EdgeGateway.templateFault?_eq_none, subscriptions, List.forall_mem_append]

/-! ### Validation -/

theorem QoS.ofNat?_of_le {n : Nat} (bound : n ≤ 2) : ∃ q, QoS.ofNat? n = some q := by
  match n, bound with
  | 0, _ | 1, _ | 2, _ => exact ⟨_, rfl⟩

theorem faultIf_eq_nil {condition : Bool} {field message : String} :
    faultIf condition field message = [] ↔ condition = false := by
  unfold faultIf
  cases condition <;> simp

theorem BridgeSubscription.maxQos_le_of_faults {s : BridgeSubscription} {name : String}
    (clean : s.faults name = []) : s.maxQos ≤ 2 := by
  have last := (List.append_eq_nil_iff.mp clean).2
  simpa [faultIf_eq_nil] using last

theorem subscriptionFaults_eq_nil {listName : String} {subscriptions : List BridgeSubscription}
    (clean : subscriptionFaults listName subscriptions = []) :
    ∀ s ∈ subscriptions, ∃ name, s.faults name = [] := by
  intro s member
  obtain ⟨i, found⟩ := List.mem_iff_getElem?.mp member
  have each := List.flatMap_eq_nil_iff.mp clean
  exact ⟨_, each (s, i) (List.mk_mem_zipIdx_iff_getElem?.mpr found)⟩

theorem BridgeConfig.validate_eq_ok {c : BridgeConfig} : c.validate = .ok () ↔ c.faults = [] := by
  unfold validate
  cases c.faults <;> simp

/-- What validation leaves to building: the QoS ceilings are in order. -/
theorem BridgeConfig.maxQos_le {c : BridgeConfig} (valid : c.validate = .ok ()) :
    ∀ s ∈ c.subscriptions, s.maxQos ≤ 2 := by
  have clean := validate_eq_ok.mp valid
  obtain ⟨front, inbound⟩ := List.append_eq_nil_iff.mp clean
  have outbound := (List.append_eq_nil_iff.mp front).2
  intro s member
  rcases List.mem_append.mp member with sent | got
  · obtain ⟨_, clean⟩ := subscriptionFaults_eq_nil outbound s sent
    exact s.maxQos_le_of_faults clean
  · obtain ⟨_, clean⟩ := subscriptionFaults_eq_nil inbound s got
    exact s.maxQos_le_of_faults clean

/-! ### Building -/

namespace Forwarder

variable (bridge : BridgeConfig) (d : Direction) (i : Nat) {s : BridgeSubscription}

theorem build_of_template {t : Topic.Template} (bound : s.maxQos ≤ 2)
    (parsed : Topic.Template.parse s.destination = .ok t) :
    ∃ f, build bridge d i s = .ok f := by
  obtain ⟨q, ceiling⟩ := QoS.ofNat?_of_le bound
  simp only [build, ceiling, parsed, Except.ok.injEq, exists_eq']

theorem build_of_fault {fault : Topic.Template.ParseFault} (bound : s.maxQos ≤ 2)
    (failed : Topic.Template.parse s.destination = .error fault) :
    build bridge d i s = .error (.badTemplate s.destination fault) := by
  obtain ⟨q, ceiling⟩ := QoS.ofNat?_of_le bound
  simp only [build, ceiling, failed]

end Forwarder

namespace BridgeManager

theorem buildForwarders_fault (config : BridgeConfig) (d : Direction) (first : Nat)
    {subscriptions : List BridgeSubscription} (bound : ∀ s ∈ subscriptions, s.maxQos ≤ 2) :
    (buildForwarders config d first subscriptions).2 =
      (templateFault? (subscriptionField d) first subscriptions).map fun fault =>
        .validation [fault] := by
  induction subscriptions generalizing first with
  | nil => rfl
  | cons s rest ih =>
    have here := bound s List.mem_cons_self
    have later := ih (first + 1) fun s member => bound s (List.mem_cons_of_mem _ member)
    unfold buildForwarders
    cases parsed : Topic.Template.parse s.destination with
    | ok t =>
      obtain ⟨f, built⟩ := Forwarder.build_of_template config d first here parsed
      simp only [built, later, templateFault?, List.zipIdx_cons, List.findSome?_cons,
        BridgeSubscription.templateFault?, parsed]
    | error fault =>
      have failed := Forwarder.build_of_fault config d first here parsed
      simp only [failed, templateFault?, List.zipIdx_cons, List.findSome?_cons,
        BridgeSubscription.templateFault?, parsed, Option.map_some]

/-- Building a link with checked fields fails on a destination that is no template, and on nothing
else. -/
theorem buildLink_fault (m : BridgeManager) {config : BridgeConfig} (remote : String)
    (valid : config.validate = .ok ()) :
    match config.templateFault? with
    | some fault => (m.buildLink config remote).2 = .error (.validation [fault])
    | none => ∃ link, (m.buildLink config remote).2 = .ok link := by
  have bound := BridgeConfig.maxQos_le valid
  have outbound := buildForwarders_fault config .outbound 0 fun s member =>
    bound s (List.mem_append_left _ member)
  have inbound := buildForwarders_fault config .inbound 0 fun s member =>
    bound s (List.mem_append_right _ member)
  unfold buildLink BridgeConfig.templateFault?
  simp only [subscriptionField] at outbound inbound
  generalize buildForwarders config .outbound 0 config.localSubscriptions = sent at outbound ⊢
  generalize buildForwarders config .inbound 0 config.remoteSubscriptions = got at inbound ⊢
  obtain ⟨out, _⟩ := sent
  obtain ⟨inn, _⟩ := got
  subst outbound inbound
  cases templateFault? "local_subscriptions" 0 config.localSubscriptions with
  | some fault => rfl
  | none =>
    cases templateFault? "remote_subscriptions" 0 config.remoteSubscriptions with
    | some fault => rfl
    | none => exact ⟨_, rfl⟩

/-- The two checks together find the fault of a configuration. -/
theorem checked_cases (m : BridgeManager) (config : BridgeConfig) (remote : String) :
    (∃ fault, config.fault? = some fault ∧ (config.validate = .error fault ∨
        config.validate = .ok () ∧ ∃ m', m.buildLink config remote = (m', .error fault))) ∨
      config.fault? = none ∧ config.validate = .ok () ∧
        ∃ m' link, m.buildLink config remote = (m', .ok link) := by
  unfold BridgeConfig.fault?
  cases valid : config.validate with
  | error fault => exact .inl ⟨fault, rfl, .inl rfl⟩
  | ok =>
    have built := buildLink_fault m remote valid
    cases faulty : config.templateFault? with
    | some fault =>
      simp only [faulty] at built
      exact .inl ⟨_, rfl, .inr ⟨rfl, _, Prod.ext rfl built⟩⟩
    | none =>
      simp only [faulty] at built
      obtain ⟨link, built⟩ := built
      exact .inr ⟨rfl, rfl, _, link, Prod.ext rfl built⟩

theorem add_result (m : BridgeManager) (config : BridgeConfig) (remote : String) :
    (m.add config remote).2 =
      if m.links.contains config.id then .error (.duplicateId .bridge config.id)
      else match config.fault? with
        | some fault => .error fault
        | none => .ok () := by
  unfold add
  split
  · rfl
  · rcases m.checked_cases config remote with
      ⟨fault, faulty, invalid | ⟨valid, m', failed⟩⟩ | ⟨clean, valid, m', link, built⟩
    · rw [faulty, invalid]
    · rw [faulty, valid, failed]
    · rw [clean, valid, built]

theorem beginUpdate_result (m : BridgeManager) (config : BridgeConfig) (remote : String) :
    (m.beginUpdate config remote).2.map (fun _ => ()) =
      match m.links.find? config.id with
      | none => .error (.notFound .bridge config.id)
      | some _ =>
        match config.fault? with
        | some fault => .error fault
        | none => .ok () := by
  unfold beginUpdate
  cases m.links.find? config.id with
  | none => rfl
  | some old =>
    rcases m.checked_cases config remote with
      ⟨fault, faulty, invalid | ⟨valid, m', failed⟩⟩ | ⟨clean, valid, m', link, built⟩
    · rw [faulty, invalid]
      rfl
    · rw [faulty, valid, failed]
      rfl
    · rw [clean, valid, built]
      rfl

end BridgeManager
end EdgeGateway

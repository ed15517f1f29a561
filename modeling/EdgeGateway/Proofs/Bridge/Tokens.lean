import EdgeGateway.Proofs.Bridge.Labels
import EdgeGateway.Proofs.Bridge.Stopping

/-!
# Tokens of outbound messages

A message for a remote is offered under the id of its forwarder and the number it was given at the
broker. No two forwarders that are in their places at once share an id, and one that takes the place of
another under the same id only gets messages with later numbers: as long as no number is used twice, no
token is.
-/

namespace EdgeGateway

/-- The token of a message on its way to a remote. -/
def AckToken.Outbound (a : AckToken) : Prop :=
  ∃ bridge index, a.queueId = Forwarder.idOf bridge .outbound index

/-- The token with its number as a machine word of 64 bits, in which it comes to whoever gave it. -/
def AckToken.word (a : AckToken) : String × UInt64 := (a.queueId, UInt64.ofNat a.messageId)

theorem AckToken.word_inj {a b : AckToken} (same : a.word = b.word) (left : a.messageId < 2 ^ 64)
    (right : b.messageId < 2 ^ 64) : a = b := by
  obtain ⟨queue, number⟩ := Prod.mk.inj same
  have numbers := congrArg UInt64.toNat number
  rw [UInt64.toNat_ofNat', UInt64.toNat_ofNat', Nat.mod_eq_of_lt left, Nat.mod_eq_of_lt right]
    at numbers
  obtain ⟨id, messageId⟩ := a
  exact congrArg₂ AckToken.mk queue numbers

namespace Traffic

/-- No two messages are under way under one outbound token, nor have been, and none is reported twice
under one. -/
structure Unrepeated (t : Traffic) : Prop where
  calls : ∀ {i j : Nat} {c c' : Call} {f : Forwarder}, t.calls[i]? = some c → t.calls[j]? = some c' →
    t.forwarder? c.lane = some f → f.direction = .outbound → c.ack.word = c'.ack.word → i = j
  completions : ∀ {i j : Nat} {d d' : Completion}, t.completions[i]? = some d →
    t.completions[j]? = some d' → d.ack.Outbound → d.ack.word = d'.ack.word → i = j

/-! ### Tokens in a history -/

def Event.ack? : Event → Option AckToken
  | .forward _ _ ack => some ack
  | _ => none

/-- The tokens under which messages are offered in a run, in order. -/
def tokens (es : List Event) : List AckToken := es.filterMap Event.ack?

theorem mem_tokens {es : List Event} {a : AckToken} :
    a ∈ tokens es ↔ ∃ lane m, .forward lane m a ∈ es := by
  unfold tokens
  rw [List.mem_filterMap]
  constructor
  · rintro ⟨e, member, given⟩
    cases e with
    | forward lane m ack =>
      obtain rfl := Option.some.inj given
      exact ⟨lane, m, member⟩
    | _ => cases given
  · rintro ⟨lane, m, member⟩
    exact ⟨_, member, rfl⟩

theorem offers_tokens (t : Traffic) (es : List Event) :
    ((gather offersOf t es).map Offer.ack).Sublist (tokens es) := by
  induction es generalizing t with
  | nil => exact .slnil
  | cons e es ih =>
    have first : ((offersOf t e).map Offer.ack).Sublist (tokens [e]) := by
      rcases offersOf_cases t e with none_new | ⟨lane, m, ack, l, rfl, _, one⟩
      · rw [none_new]
        exact List.nil_sublist _
      · rw [one]
        exact List.Sublist.refl _
    have split : tokens (e :: es) = tokens [e] ++ tokens es := List.filterMap_append (l := [e])
    rw [gather, List.map_append, split]
    exact first.append (ih (t.step e))

/-- The calls of a run bear tokens under which messages were offered. -/
theorem calls_tokens (es : List Event) :
    ((run {} es).calls.map Call.ack).Sublist (tokens es) := by
  have same : (run {} es).calls.map Call.ack = (offers es).map Offer.ack := by
    have answers := run_answers es
    generalize (run {} es).calls = calls, offers es = os at answers
    induction answers with
    | nil => rfl
    | cons here _ ih => rw [List.map_cons, List.map_cons, here.2.1, ih]
  rw [same]
  exact offers_tokens {} es

/-- The reports of a run are those of the calls that have ended. -/
theorem completions_perm_reports (es : List Event) :
    (run {} es).completions.Perm ((run {} es).calls.filterMap Call.report?) := by
  have reported := run_reported es
  generalize run {} es = t at reported
  have known : ∀ p ∈ reports es, p.1 < t.calls.length := by
    intro p member
    have made : p.2 ∈ valuesAt (reports es) p.1 :=
      List.mem_map.mpr ⟨p, List.mem_filter.mpr ⟨member, by simp⟩, rfl⟩
    rw [reported.once, Option.mem_toList] at made
    obtain ⟨c, there, _⟩ := Option.bind_eq_some_iff.mp made
    exact (List.getElem?_eq_some_iff.mp there).1
  have listed : (List.range t.calls.length).flatMap (valuesAt (reports es)) =
      t.calls.filterMap Call.report? := by
    have each : ∀ (i : Nat) c, t.calls[i]? = some c → valuesAt (reports es) i = c.report?.toList := by
      intro i c there
      rw [reported.once, there, Option.bind_some]
    calc (List.range t.calls.length).flatMap (valuesAt (reports es))
      _ = t.calls.zipIdx.flatMap fun numbered => numbered.1.report?.toList :=
        flatMap_range_eq_zipIdx each
      _ = (t.calls.zipIdx.map Prod.fst).flatMap fun c => c.report?.toList := by
        rw [List.flatMap_map]
      _ = t.calls.filterMap Call.report? := by
        rw [List.zipIdx_map_fst, List.filterMap_eq_flatMap_toList]
  have all := perm_valuesAt known
  rw [reported.made, listed] at all
  exact all

/-- No token has more reports than calls. -/
theorem completions_tokens (es : List Event) (a : AckToken) :
    ((run {} es).completions.map Completion.ack).count a ≤ (tokens es).count a := by
  have reports : ((run {} es).calls.filterMap Call.report?).map Completion.ack |>.Sublist
      ((run {} es).calls.map Call.ack) := by
    generalize (run {} es).calls = calls
    induction calls with
    | nil => exact .slnil
    | cons c rest ih =>
      cases progress : c.progress with
      | ended o =>
        have due : c.report? = some { ack := c.ack, permanentFailure := o = .dropped .stopped } := by
          rw [Call.report?, progress]
          rfl
        rw [List.filterMap_cons_some due, List.map_cons, List.map_cons]
        exact ih.cons_cons c.ack
      | candidate | handedOver =>
        have none_due : c.report? = none := by
          rw [Call.report?, progress]
          rfl
        rw [List.filterMap_cons_none none_due, List.map_cons]
        exact ih.cons c.ack
  calc ((run {} es).completions.map Completion.ack).count a
    _ = (((run {} es).calls.filterMap Call.report?).map Completion.ack).count a :=
      ((completions_perm_reports es).map Completion.ack).count_eq a
    _ ≤ ((run {} es).calls.map Call.ack).count a := reports.count_le a
    _ ≤ (tokens es).count a := (calls_tokens es).count_le a

end Traffic

namespace BridgeManager

open Traffic (Event tokens mem_tokens)

/-! ### Ids of outbound forwarders -/

/-- The ids of the forwarders on lanes, in order. -/
def idsOn (t : Traffic) (lanes : List Nat) : List String :=
  lanes.filterMap fun lane => (t.forwarder? lane).map Forwarder.id

theorem Serve.ids {t : Traffic} {config : BridgeConfig} {d : Direction} {target : Target}
    {lanes : List Nat} {subscriptions : List BridgeSubscription}
    (serve : Serve t config d target lanes subscriptions) :
    idsOn t lanes = (List.range subscriptions.length).map (Forwarder.idOf config.id d) := by
  have numbered : idsOn t lanes = (subscriptions.zipIdx.map Prod.snd).map
      (Forwarder.idOf config.id d) := by
    unfold Serve at serve
    generalize subscriptions.zipIdx = served at serve
    induction serve with
    | nil => rfl
    | @cons lane n lanes served here _ ih =>
      obtain ⟨f, there, built⟩ := here
      have id : (t.forwarder? lane).map Forwarder.id = some (Forwarder.idOf config.id d n.2) := by
        rw [Traffic.forwarder?_of_post there, Option.map_some, (Forwarder.build_labels built).1]
      unfold idsOn at ih ⊢
      rw [List.filterMap_cons_some (f := fun lane => (t.forwarder? lane).map Forwarder.id) id, ih,
        List.map_cons, List.map_cons]
  rw [numbered, List.zipIdx_map_snd, List.range_eq_range']

/-- The messages offered to lanes bear different ids if the forwarders do. -/
theorem tokens_offerEvents (t : Traffic) (m : Message) (messageId : Nat) (lanes : List Nat) :
    ((tokens (offerEvents t m messageId lanes)).map AckToken.queueId).Sublist (idsOn t lanes) := by
  induction lanes with
  | nil => exact .slnil
  | cons lane rest ih =>
    unfold offerEvents idsOn tokens at ih ⊢
    cases present : t.forwarder? lane with
    | none =>
      rw [List.filterMap_cons_none (by rw [present]; rfl),
        List.filterMap_cons_none (by rw [present]; rfl)]
      exact ih
    | some f =>
      rw [List.filterMap_cons_some (f := fun lane => (t.forwarder? lane).map Forwarder.id)
        (by rw [present]; rfl)]
      cases wanted : f.matchesTopic m.topic with
      | false =>
        rw [List.filterMap_cons_none (by simp [present, wanted])]
        exact ih.cons f.id
      | true =>
        rw [List.filterMap_cons_some
          (b := .forward lane m { queueId := f.id, messageId }) (by simp [present, wanted])]
        exact ih.cons_cons f.id

namespace State

variable {s : State} {b : Action} {a : AckToken}

/-- The outbound forwarders in their places have different ids. -/
theorem Consistent.ids_nodup (consistent : Consistent s) :
    (idsOn s.manager.traffic s.manager.outboundLanes).Nodup := by
  have furnished : ∀ link ∈ s.manager.links.values, Furnished s.manager.traffic link := by
    intro link value
    obtain ⟨id, installed⟩ := consistent.ascending.mem_values.mp value
    exact consistent.furnished installed
  have ids : idsOn s.manager.traffic s.manager.outboundLanes = s.manager.links.values.flatMap
      fun link => (List.range link.config.localSubscriptions.length).map
        (Forwarder.idOf link.config.id .outbound) := by
    rw [idsOn, outboundLanes, List.filterMap_flatMap]
    exact List.flatMap_congr fun link value => (furnished link value).outbound.ids
  have names : s.manager.links.values.map (fun link => link.config.id) = s.manager.links.keys := by
    rw [Table.values, Table.keys, List.map_map]
    refine List.map_congr_left fun entry member => ?_
    exact consistent.keyed (consistent.ascending.find?_eq_some.mpr member)
  have apart : s.manager.links.values.Pairwise fun link other => link.config.id ≠ other.config.id := by
    rw [← List.pairwise_map, names]
    exact consistent.ascending.nodup
  rw [ids, List.nodup_flatMap]
  constructor
  · intro link _
    refine List.Nodup.map ?_ List.nodup_range
    exact fun i j same => (Forwarder.idOf_inj same).2.2
  · refine apart.imp fun different id left right => ?_
    obtain ⟨i, _, rfl⟩ := List.mem_map.mp left
    obtain ⟨j, _, same⟩ := List.mem_map.mp right
    exact different (Forwarder.idOf_inj same).1.symm

/-! ### Tokens of an action -/

/-- Outbound tokens are made of the number of a message from the broker. -/
theorem Consistent.tokens_events (consistent : Consistent s) (outbound : a.Outbound)
    (member : a ∈ tokens (s.events b)) : ∃ m, b = .forwardLocal m a.messageId := by
  obtain ⟨lane, m, given⟩ := mem_tokens.mp member
  have happens := consistent.happens given
  cases happens with
  | fromBroker action => exact ⟨m, action⟩
  | fromRemote action installed within =>
    obtain ⟨f, present, named⟩ : ∃ f, s.manager.traffic.forwarder? lane = some f ∧ a.queueId = f.id :=
      events_labelled given
    obtain ⟨bridge, index, id⟩ := outbound
    have served := (consistent.furnished installed).inbound
    obtain ⟨i, place⟩ := List.mem_iff_getElem?.mp within
    obtain ⟨_, _, g, there, built⟩ := forall₂_getElem? served place
    have same := Traffic.forwarder?_of_post there
    obtain rfl : f = g := Option.some.inj (present.symm.trans same)
    have inbound := (Forwarder.build_labels built).1
    have clash := (Forwarder.idOf_inj (id.symm.trans (named.trans inbound))).2.1
    cases clash

theorem Consistent.tokens_once (consistent : Consistent s) (outbound : a.Outbound) :
    (tokens (s.events b)).count a ≤ 1 := by
  by_cases member : a ∈ tokens (s.events b)
  · obtain ⟨m, rfl⟩ := consistent.tokens_events outbound member
    have ids := tokens_offerEvents s.manager.traffic m a.messageId s.manager.outboundLanes
    have different := (consistent.ids_nodup.sublist ids).of_map
    exact List.nodup_iff_count_le_one.mp different a
  · rw [List.count_eq_zero_of_not_mem member]
    exact Nat.zero_le 1

/-! ### Tokens of a run -/

/-- The numbers under which messages from the broker are offered in a run, in order. -/
def numbers (actions : List Action) : List Nat :=
  actions.filterMap fun
    | .forwardLocal _ messageId => some messageId
    | _ => none

theorem numbers_concat (actions : List Action) (b : Action) :
    numbers (actions ++ [b]) = numbers actions ++ numbers [b] := List.filterMap_append

/-- If no number is used twice, no outbound token is. -/
theorem run_tokens {actions : List Action} (once : (numbers actions).Nodup)
    (outbound : a.Outbound) :
    (tokens (history {} actions)).count a ≤ 1 ∧
      (a ∈ tokens (history {} actions) → a.messageId ∈ numbers actions) := by
  induction actions using List.reverseRecOn with
  | nil => exact ⟨Nat.zero_le 1, fun member => absurd member List.not_mem_nil⟩
  | append_singleton actions b ih =>
    have consistent := run_consistent actions
    have split : tokens (history {} (actions ++ [b])) =
        tokens (history {} actions) ++ tokens ((run {} actions).events b) := by
      rw [history_append, tokens, List.filterMap_append, history, history, List.append_nil]
      rfl
    rw [numbers_concat] at once ⊢
    obtain ⟨before_once, _, apart⟩ := List.nodup_append.mp once
    obtain ⟨before, known⟩ := ih before_once
    have now := consistent.tokens_once (b := b) outbound
    have numbered (member : a ∈ tokens ((run {} actions).events b)) : a.messageId ∈ numbers [b] := by
      obtain ⟨m, rfl⟩ := consistent.tokens_events outbound member
      exact List.mem_singleton.mpr rfl
    rw [split, List.count_append, List.mem_append, List.mem_append]
    refine ⟨?_, Or.imp known numbered⟩
    by_cases new : a ∈ tokens ((run {} actions).events b)
    · have unused : a ∉ tokens (history {} actions) := by
        intro old
        exact apart _ (known old) _ (numbered new) rfl
      rw [List.count_eq_zero_of_not_mem unused]
      omega
    · rw [List.count_eq_zero_of_not_mem new]
      omega

/-- So wherever no token occurs more often than it is offered, one that is outbound stands in one
place only, also if the numbers are compared as words. -/
theorem run_words {actions : List Action} (once : (numbers actions).Nodup)
    (words : ∀ n ∈ numbers actions, n < 2 ^ 64) {bearing : List AckToken} {a b : AckToken} {i j : Nat}
    (fewer : ∀ a, bearing.count a ≤ (tokens (history {} actions)).count a) (outbound : a.Outbound)
    (here : bearing[i]? = some a) (there : bearing[j]? = some b) (same : a.word = b.word) :
    i = j := by
  have below {a : AckToken} (outbound : a.Outbound) (member : a ∈ bearing) :
      a.messageId < 2 ^ 64 := by
    have counted := Nat.lt_of_lt_of_le (List.count_pos_iff.mpr member) (fewer a)
    exact words _ ((run_tokens once outbound).2 (List.count_pos_iff.mp counted))
  have queue : a.queueId = b.queueId := (Prod.mk.inj same).1
  have outbound' : b.Outbound := by
    obtain ⟨bridge, index, id⟩ := outbound
    exact ⟨bridge, index, queue.symm.trans id⟩
  obtain rfl := AckToken.word_inj same (below outbound (List.mem_of_getElem? here))
    (below outbound' (List.mem_of_getElem? there))
  exact index_unique (Nat.le_trans (fewer a) (run_tokens once outbound).1) here there

theorem run_unrepeated {actions : List Action} (once : (numbers actions).Nodup)
    (words : ∀ n ∈ numbers actions, n < 2 ^ 64) :
    (run {} actions).manager.traffic.Unrepeated := by
  have labelled := run_labelled actions
  rw [run_traffic] at labelled ⊢
  constructor
  · intro i j c c' f here there present sent same
    have outbound : c.ack.Outbound := by
      obtain ⟨g, known, queue⟩ := labelled.calls c (List.mem_of_getElem? here)
      obtain rfl := Option.some.inj (present.symm.trans known)
      obtain ⟨index, id⟩ := labelled.lanes _ _ present
      exact ⟨f.bridgeId, index, by rw [queue, id, sent]⟩
    refine run_words once words (fun a => (Traffic.calls_tokens _).count_le a) outbound ?_ ?_ same
    · rw [List.getElem?_map, here]
      rfl
    · rw [List.getElem?_map, there]
      rfl
  · intro i j d d' here there outbound same
    refine run_words once words (Traffic.completions_tokens _) outbound ?_ ?_ same
    · rw [List.getElem?_map, here]
      rfl
    · rw [List.getElem?_map, there]
      rfl

end State
end BridgeManager
end EdgeGateway

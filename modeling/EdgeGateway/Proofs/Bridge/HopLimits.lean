import EdgeGateway.Proofs.Bridge.HopHandover
import EdgeGateway.Proofs.Bridge.Traffic

/-!
# Hop counts at the limit

A running forwarder with loop prevention drops a message for the number that its first hop count
denotes in decimal. `limits_hold_within_32_bits` says for which: those that have reached the limit, as
long as they have 32 bits. A larger count is read as none, and the message goes on as if it were new.
-/

namespace EdgeGateway

/-! ### Reading and deciding -/

theorem readHops_of_denotes {text : String} {n : Nat} (denoted : Text.Denotes text.toList n) :
    readHops text = if n < 2 ^ 32 then n else 0 := by
  have bound : maxHops + 1 = 2 ^ 32 := by decide
  unfold readHops
  rw [bound]
  cases read : Text.numberBelow? (2 ^ 32) text.toList with
  | some k =>
    obtain ⟨denotes_k, below⟩ := Text.numberBelow?_eq_some_iff.mp read
    rw [denoted.unique denotes_k, if_pos below, Option.getD_some]
  | none =>
    have large : ¬ n < 2 ^ 32 := by
      intro below
      rw [Text.numberBelow?_eq_some_iff.mpr ⟨denoted, below⟩] at read
      cases read
    rw [if_neg large, Option.getD_none]

theorem HopGuard.decision_drop_iff {g : HopGuard} (on : g.enabled = true) (n : Nat) :
    g.decision n = .drop ↔ 0 < n ∧ g.limit ≤ n := by
  simp [HopGuard.decision, on]

theorem Forwarder.receive_looped_iff {f : Forwarder} {running : Bool} {m : Message} :
    f.receive running m = .ended (.dropped .loopPrevention) ↔
      running = true ∧ f.guard.decision (f.guard.hops m) = .drop := by
  unfold receive
  cases running with
  | false => simp
  | true =>
    cases decision : f.guard.decision (f.guard.hops m) with
    | drop => simp [decision]
    | allow =>
      simp only [Bool.not_true, Bool.false_eq_true, if_false, decision, reduceCtorEq, and_false,
        iff_false]
      split
      · simp
      · split <;> simp

/-- A message has an outcome at once if the forwarder of its lane does not accept it. -/
theorem Traffic.forward_outcome {t : Traffic} {lane : Nat} {l : Lane}
    (there : t.lanes[lane]? = some l) (m : Message) (ack : AckToken) (o : ForwardOutcome) :
    (t.forward lane m ack).outcome? t.calls.length = some o ↔
      l.forwarder.receive l.running m = .ended o := by
  unfold forward outcome?
  simp only [there]
  cases l.forwarder.receive l.running m with
  | accepted candidate => simp [Progress.outcome?]
  | ended o' => simp [Progress.outcome?]

/-! ### The limit -/

/-- A message whose first hop count is a numeral of decimal digits, however long, is dropped by a
running forwarder with loop prevention if the number is positive, has reached the limit and has 32
bits at most. A larger number counts as no hops at all. -/
theorem limits_hold_within_32_bits {c : BridgeConfig} {d : Direction} {i : Nat}
    {s : BridgeSubscription} {t : Traffic} {lane : Nat} {l : Lane} {m : Message} {text : String}
    (on : c.loopPrevention = true) (built : Forwarder.build c d i s = .ok l.forwarder)
    (there : t.lanes[lane]? = some l) (running : l.running = true)
    (first : m.property? hopProperty = some text) (nonempty : text ≠ "")
    (decimal : ∀ digit ∈ text.toList, digit.isDigit = true) (ack : AckToken) :
    let n := Nat.ofDigitChars 10 text.toList 0
    ((t.forward lane m ack).outcome? t.calls.length = some (.dropped .loopPrevention) ↔
      0 < n ∧ c.hopLimit ≤ n ∧ n < 2 ^ 32) ∧
    (2 ^ 32 ≤ n → l.forwarder.guard.hops m = 0) := by
  intro n
  have denoted : Text.Denotes text.toList n :=
    .plain (fun none => nonempty (String.toList_eq_nil_iff.mp none)) decimal
  have guard := (Forwarder.build_hops built).2
  have enabled : l.forwarder.guard.enabled = true := by rw [guard]; exact on
  have limit : l.forwarder.guard.limit = c.hopLimit := by rw [guard]
  have hops : l.forwarder.guard.hops m = if n < 2 ^ 32 then n else 0 := by
    rw [HopGuard.hops_of_property enabled first, readHops_of_denotes denoted]
  refine ⟨?_, fun large => by rw [hops, if_neg (Nat.not_lt.mpr large)]⟩
  rw [Traffic.forward_outcome there, Forwarder.receive_looped_iff, HopGuard.decision_drop_iff enabled,
    limit, hops]
  split
  next below =>
    exact ⟨fun dropped => ⟨dropped.2.1, dropped.2.2, below⟩,
      fun reached => ⟨running, reached.1, reached.2.1⟩⟩
  next large =>
    exact ⟨fun dropped => absurd dropped.2.1 (Nat.lt_irrefl 0),
      fun reached => absurd reached.2.2 large⟩

/-- A bridge that drops messages after five bridges. -/
def fiveHops : BridgeConfig where
  id := "b1"
  host := "h"
  hopLimit := 5
  localSubscriptions := [{ filters := ["#"] }]

/-- Leading zeros take a numeral beyond the digits of 32 bits, but not its number. -/
def padded : Message where
  topic := "a"
  properties := [⟨"site", "plant-7"⟩, ⟨hopProperty, "0000000000000007"⟩, ⟨hopProperty, "0"⟩]

theorem padded_count_is_dropped :
    ∃ f, Forwarder.build fiveHops .outbound 0 { filters := ["#"] } = .ok f ∧
      (Traffic.forward { lanes := [{ forwarder := f, target := .localBroker, running := true }] } 0
        padded ⟨"q", 1⟩).outcome? 0 = some (.dropped .loopPrevention) := by
  obtain ⟨f, built⟩ : ∃ f, Forwarder.build fiveHops .outbound 0 { filters := ["#"] } = .ok f :=
    ⟨_, rfl⟩
  let l : Lane := { forwarder := f, target := .localBroker, running := true }
  have there : ({ lanes := [l] } : Traffic).lanes[0]? = some l := rfl
  have found : padded.property? hopProperty = some "0000000000000007" := by decide
  have decimal : ∀ digit ∈ "0000000000000007".toList, digit.isDigit = true :=
    List.all_eq_true.mp (by decide +kernel)
  have dropped := limits_hold_within_32_bits rfl built there rfl found (by decide) decimal ⟨"q", 1⟩
  exact ⟨f, built, dropped.1.mpr (by decide +kernel)⟩

/-- A hop count of 33 bits. -/
def overgrown : Message where
  topic := "a"
  properties := [⟨hopProperty, "4294967296"⟩]

/-- Beyond 32 bits a hop count that has reached the limit is not dropped. -/
theorem not_every_count_at_the_limit_is_dropped :
    ¬ ∀ (c : BridgeConfig) (d : Direction) (i : Nat) (s : BridgeSubscription) (t : Traffic)
        (lane : Nat) (l : Lane) (m : Message) (text : String) (ack : AckToken),
      c.validate = .ok () → c.loopPrevention = true → Forwarder.build c d i s = .ok l.forwarder →
      t.lanes[lane]? = some l → l.running = true → m.property? hopProperty = some text →
      text ≠ "" → (∀ digit ∈ text.toList, digit.isDigit = true) →
      ((t.forward lane m ack).outcome? t.calls.length = some (.dropped .loopPrevention) ↔
        0 < Nat.ofDigitChars 10 text.toList 0 ∧
          c.hopLimit ≤ Nat.ofDigitChars 10 text.toList 0) := by
  intro all
  obtain ⟨f, built⟩ : ∃ f, Forwarder.build fiveHops .outbound 0 { filters := ["#"] } = .ok f :=
    ⟨_, rfl⟩
  let l : Lane := { forwarder := f, target := .localBroker, running := true }
  have valid : fiveHops.validate = .ok () := rfl
  have found : overgrown.property? hopProperty = some "4294967296" := by decide
  have decimal : ∀ digit ∈ "4294967296".toList, digit.isDigit = true :=
    List.all_eq_true.mp (by decide +kernel)
  have claimed := all fiveHops .outbound 0 { filters := ["#"] } { lanes := [l] } 0 l overgrown
    "4294967296" ⟨"q", 1⟩ valid rfl built rfl rfl found (by decide) decimal
  have there : ({ lanes := [l] } : Traffic).lanes[0]? = some l := rfl
  have looped := (Traffic.forward_outcome there overgrown ⟨"q", 1⟩ (.dropped .loopPrevention)).mp
    (claimed.mpr (by decide +kernel))
  have allowed : f.guard.decision (f.guard.hops overgrown) = .allow := by
    cases built
    decide +kernel
  have dropped := (Forwarder.receive_looped_iff.mp looped).2
  rw [allowed] at dropped
  cases dropped

end EdgeGateway

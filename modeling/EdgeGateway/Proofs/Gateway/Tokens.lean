import EdgeGateway.Proofs.Bridge.Tokens
import EdgeGateway.Proofs.Gateway.Topics

/-!
# Tokens in a gateway

Every message that is dispatched gets the next number, and only such messages are offered to outbound
forwarders. So no number is used twice there, and with it no token, as long as the numbers are less
than what a machine word can hold.
-/

namespace EdgeGateway.Gateway

open BridgeManager (Action State)
open BridgeManager.State (numbers numbers_concat)

variable {g : Gateway} {s : Stage} {actions : List Action}

/-! ### Numbers -/

/-- The bridges are where these actions lead to, in which no number is used twice; all are older than
the next. -/
structure Numbered (s : Stage) (actions : List Action) : Prop where
  reached : Reached s.gateway actions s.change
  once : (numbers actions).Nodup
  older : ∀ n ∈ numbers actions, n < s.gateway.broker.nextMessage

theorem Fresh.numbered (fresh : g.Fresh) : Numbered ⟨g, none⟩ [] where
  reached := by
    refine ⟨{}, ?_⟩
    rw [Gateway.state, fresh.bridges]
    rfl
  once := List.nodup_nil
  older := fun _ member => absurd member List.not_mem_nil

/-- An action that offers no message of the broker uses no number. -/
theorem numbers_quiet {a : Action} (quiet : ∀ m messageId, a ≠ .forwardLocal m messageId) :
    numbers (actions ++ [a]) = numbers actions := by
  have none_used : numbers [a] = [] := by
    cases a with
    | forwardLocal m messageId => exact absurd rfl (quiet m messageId)
    | _ => rfl
  rw [numbers_concat, none_used, List.append_nil]

theorem Numbered.step (numbered : Numbered s actions) (act : Act) :
    ∃ more, Numbered (s.step act) (actions ++ more) := by
  obtain ⟨reached, once, older⟩ := numbered
  have unnumbered (more : List Action)
      (after : Reached (s.step act).gateway (actions ++ more) (s.step act).change)
      (same : numbers (actions ++ more) = numbers actions)
      (next : (s.step act).gateway.broker.nextMessage = s.gateway.broker.nextMessage) :
      ∃ more, Numbered (s.step act) (actions ++ more) := by
    refine ⟨more, after, ?_, ?_⟩
    · rw [same]
      exact once
    · rw [same, next]
      exact older
  have idle : numbers (actions ++ []) = numbers actions := by rw [List.append_nil]
  have moves := step_moves s act
  generalize after : (s.step act).state = s', next : (s.step act).gateway.broker.nextMessage = n
    at moves
  cases moves with
  | rest =>
    obtain ⟨adapters, before⟩ := reached
    refine unnumbered [] ⟨adapters, ?_⟩ idle next
    rw [List.append_nil]
    exact after.trans before
  | beside adapters =>
    obtain ⟨_, before⟩ := reached
    refine unnumbered [] ⟨adapters, ?_⟩ idle next
    rw [List.append_nil]
    refine after.trans ?_
    rw [Stage.state, before]
    rfl
  | outside outside =>
    refine unnumbered _ (reached.step after) (numbers_quiet ?_) next
    rintro m messageId rfl
    cases outside
  | intercepted connected =>
    refine unnumbered _ (reached.step after) (numbers_quiet ?_) next
    rintro m messageId ⟨⟩
  | @dispatched m valid =>
    have new : numbers [.forwardLocal m s.gateway.broker.nextMessage] =
        [s.gateway.broker.nextMessage] := rfl
    refine ⟨[.forwardLocal m s.gateway.broker.nextMessage], reached.step after, ?_, ?_⟩
    · rw [numbers_concat, new, List.nodup_append]
      refine ⟨once, List.nodup_singleton _, ?_⟩
      rintro n member n' last rfl
      rw [List.mem_singleton] at last
      have below := older n member
      omega
    · intro n member
      rw [numbers_concat, new, List.mem_append, List.mem_singleton] at member
      rw [next]
      rcases member with before | last
      · have below := older n before
        omega
      · omega

theorem Numbered.run (numbered : Numbered s actions) (acts : List Act) :
    ∃ more, Numbered (s.run acts) (actions ++ more) := by
  induction acts generalizing s actions with
  | nil => exact ⟨[], by rwa [List.append_nil]⟩
  | cons act acts ih =>
    obtain ⟨first, after⟩ := numbered.step act
    obtain ⟨rest, last⟩ := ih after
    exact ⟨first ++ rest, by rwa [← List.append_assoc]⟩

/-- How many messages are dispatched in a run, those included that come back from remotes. -/
def dispatches (acts : List Act) : Nat :=
  acts.countP fun
    | .broker (.dispatch _) => true
    | _ => false

/-- Numbers are only used up by dispatching. -/
theorem run_nextMessage (s : Stage) (acts : List Act) :
    (s.run acts).gateway.broker.nextMessage ≤ s.gateway.broker.nextMessage + dispatches acts := by
  induction acts generalizing s with
  | nil => exact Nat.le_refl _
  | cons act acts ih =>
    have rest := ih (s.step act)
    have first : (s.step act).gateway.broker.nextMessage ≤
        s.gateway.broker.nextMessage + dispatches [act] := by
      have moves := step_moves s act
      generalize (s.step act).state = s', (s.step act).gateway.broker.nextMessage = n at moves ⊢
      cases moves with
      | dispatched => exact Nat.le_refl _
      | _ => exact Nat.le_add_right _ _
    have split : dispatches (act :: acts) = dispatches [act] + dispatches acts := by
      unfold dispatches
      rw [← List.singleton_append, List.countP_append]
    rw [split]
    change ((s.step act).run acts).gateway.broker.nextMessage ≤ _
    omega

/-! ### Tokens -/

theorem Numbered.unrepeated (numbered : Numbered s actions)
    (few : s.gateway.broker.nextMessage ≤ 2 ^ 64) : s.gateway.traffic.Unrepeated := by
  obtain ⟨reached, once, older⟩ := numbered
  have words : ∀ n ∈ numbers actions, n < 2 ^ 64 := by
    intro n member
    have below := older n member
    omega
  obtain ⟨calls, completions⟩ := BridgeManager.State.run_unrepeated once words
  obtain ⟨adapters, state⟩ := reached
  have traffic : s.gateway.traffic = (State.run {} actions).manager.traffic.setAdapters adapters :=
    congrArg (fun s => s.manager.traffic) state
  rw [traffic]
  exact ⟨calls, completions⟩

/-- No two messages on their way to a remote share a token.

The id of a forwarder tells its bridge, direction and index, whatever characters the id of the bridge
has. So in every run with fewer than 2⁶⁴ dispatched messages, with any changes of bridges and the tasks
in any order, no two calls of outbound forwarders bear the same token, and no two reports do; also
after any series of operations in which that many numbers have not been given out. -/
theorem tokens_never_collide :
    (∀ (bridge : BridgeConfig) (d : Direction) (i : Nat) (s : BridgeSubscription) (f : Forwarder),
      Forwarder.build bridge d i s = .ok f → f.id = Forwarder.idOf bridge.id d i) ∧
    (∀ (b b' : String) (d d' : Direction) (i i' : Nat),
      Forwarder.idOf b d i = Forwarder.idOf b' d' i' → b = b' ∧ d = d' ∧ i = i') ∧
    ∀ g : Gateway, g.Fresh →
      (∀ acts, dispatches acts < 2 ^ 64 →
        ((Stage.mk g none).run acts).gateway.traffic.Unrepeated) ∧
      ∀ ops, (g.operated ops).broker.nextMessage ≤ 2 ^ 64 → (g.operated ops).traffic.Unrepeated := by
  refine ⟨?_, ?_, fun g fresh => ⟨?_, ?_⟩⟩
  · intro bridge d i s f built
    exact (Forwarder.build_labels built).1
  · intro b b' d d' i i' same
    exact Forwarder.idOf_inj same
  · intro acts few
    obtain ⟨actions, numbered⟩ := fresh.numbered.run acts
    have bound := run_nextMessage ⟨g, none⟩ acts
    apply numbered.unrepeated
    change _ ≤ g.broker.nextMessage + _ at bound
    rw [fresh.nextMessage] at bound
    omega
  · intro ops few
    obtain ⟨acts, led⟩ := g.operated_leads ops
    obtain ⟨actions, numbered⟩ := fresh.numbered.run acts
    rw [led] at numbered
    exact numbered.unrepeated few

/-- A bridge is updated, removed and added again, and gets a message each time. -/
def comeback : List Operation :=
  [.request (.add openBridge "r"), .broker (.dispatch { topic := "a" }),
    .request (.update openBridge "r"), .broker (.dispatch { topic := "a" }), .settle,
    .request (.delete "b"), .request (.add openBridge "r"), .broker (.dispatch { topic := "a" })]

/-- The same without waiting: a message comes while the update is under way. -/
def hurried : List Act :=
  [.bridges (.add openBridge "r"), .broker (.dispatch { topic := "a" }),
    .bridges (.beginUpdate openBridge "r"), .broker (.dispatch { topic := "a" }),
    .bridges .complete, .intercept 0, .broker (.dispatch { topic := "a" })]

/-- The forwarders share one id, and the tokens differ. -/
theorem comeback_tokens_differ :
    (newGateway.operated comeback).traffic.Unrepeated ∧
      (newGateway.operated comeback).traffic.calls.map Call.ack =
        [⟨"b-outbound-0", 1⟩, ⟨"b-outbound-0", 2⟩, ⟨"b-outbound-0", 3⟩] ∧
      ((Stage.mk newGateway none).run hurried).gateway.traffic.Unrepeated ∧
      ((Stage.mk newGateway none).run hurried).gateway.traffic.calls.map Call.ack =
        [⟨"b-outbound-0", 1⟩, ⟨"b-outbound-0", 2⟩, ⟨"b-outbound-0", 3⟩] := by
  obtain ⟨_, _, gateway⟩ := tokens_never_collide
  obtain ⟨run, operated⟩ := gateway newGateway newGateway_fresh
  refine ⟨operated comeback ?_, ?_, run hurried ?_, ?_⟩
  · decide +kernel
  · decide +kernel
  · decide
  · decide +kernel

end EdgeGateway.Gateway

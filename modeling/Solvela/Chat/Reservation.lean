import Solvela.Chat.Dispatch
import Solvela.Chat.Settlement

/-!
# The budget reservation of a chat request

`chat_completions_inner` reserves the estimate before it settles anything. From there on each of
its ends has to give the reservation back (`release_reservation`) or settle it (`log_spend`),
except where the payment was collected and its cost does not convert: there it is kept.

The handler is the program of what it waits for, with the spend log, which does not wait. Its
future can be dropped wherever it waits, as it is when the client disconnects; nothing else in
the handler stands for the reservation then. A drop while `release_reservation` waits counts as not
released, although its command may have reached Redis by then.
-/

namespace Solvela.Chat

open Solvela.Channel Solvela.Providers Solvela.Lib
open Solvela.Protocol (SettlementFailureKind)

/-! ## The handler after `check_budget` -/

/-- The fields of `SettlementResult` that the chat route reads. -/
structure ChatSettlement where
  success : Bool
  failureKind : Option SettlementFailureKind
  verifiedAmount : Option ℕ

/-- The fields of `SpendLogEntry` that depend on the outcome. -/
structure SpendRow where
  inputTokens : ℕ
  outputTokens : ℕ
  billedAtomic : ℕ

/-- `GatewayError`, as far as the handler returns it after the reservation. -/
inductive GatewayError
  | invalidPayment (message : String)
  | upstreamUnavailable (message : String)
  | internal (message : String)

/-- `ProviderCallError`. -/
inductive ProviderFailure
  | allProvidersFailed (e : ProviderCallError)
  | internal (message : String)

/-- What the handler does, over a provider call with commands of type `P`. -/
inductive PaidCmd (P : Type)
  | verify
  | verifyAndSettle
  | provider (c : P)
  | settle
  | release
  | logSpend (row : SpendRow)

abbrev PaidReply {P : Type} (R : P → Type) : PaidCmd P → Type
  | .verify => Except String Bool
  | .verifyAndSettle => Except String ChatSettlement
  | .provider c => R c
  | .settle => Except String ChatSettlement
  | .release => Unit
  | .logSpend _ => Unit

/-- All commands wait, but `log_spend`: it only spawns. -/
def PaidCmd.waits {P : Type} : PaidCmd P → Bool
  | .logSpend _ => false
  | _ => true

/-- A paid chat request whose budget is reserved. -/
structure ReservedChat where
  pct : ℕ
  model : ModelRegistration
  req : ChatRequest
  scheme : PaymentScheme
  /-- The breakdown that was reserved against. -/
  expectedCost : CostBreakdown

/-- The answer, and whether its reservation is kept because its cost does not convert. -/
structure Served where
  result : ProviderCallResult
  kept : Bool

/-- The message for a settlement that did not succeed. -/
def settlementMessage : Option SettlementFailureKind → String
  | some (.rejected (some code)) =>
    s!"Payment was rejected on-chain (program error {code}); " ++
      "this transaction cannot succeed and should not be retried."
  | some (.rejected none) =>
    "Payment was rejected on-chain; this transaction cannot succeed and should not be retried."
  | some .timeout | some .submission | none =>
    "Payment transaction could not be confirmed. Please retry."

/-- The message when no provider delivered. -/
def unavailableMessage : PaymentScheme → String
  | .exact =>
    "No provider could serve your request right now and your payment was " ++
      "NOT charged. Please retry shortly."
  | .channel =>
    "No provider could serve your request right now and your channel was " ++
      "NOT drawn. Please retry shortly."
  | .escrow =>
    "No provider could serve your request right now; no claim was made against " ++
      "your escrow deposit and it refunds at expiry. Please retry shortly."

/-- The message of a verifier that does not accept. -/
def verificationMessage : String :=
  "Payment verification failed. Check your transaction and retry."

section Handler
variable {P : Type} {R : P → Type} (c : ReservedChat)

/-- Gives the reservation back and returns the error. -/
def releaseAndFail {α : Type} (e : GatewayError) :
    Prog (PaidCmd P) (PaidReply R) (Except GatewayError α) := do
  Prog.ask PaidCmd.release
  pure (.error e)

/-- The verification of the payment: whether a transfer is left to settle after delivery. -/
def verifyPayment : Prog (PaidCmd P) (PaidReply R) (Except GatewayError Bool) :=
  match c.scheme with
  | .exact => do
    let outcome : Except String Bool ← Prog.ask PaidCmd.verify
    match outcome with
    | .ok true => pure (.ok true)
    | .ok false => releaseAndFail (.invalidPayment verificationMessage)
    | .error _ => releaseAndFail (.invalidPayment verificationMessage)
  | .escrow => do
    let outcome : Except String ChatSettlement ← Prog.ask PaidCmd.verifyAndSettle
    match outcome with
    | .ok settlement =>
      if settlement.success then pure (.ok false)
      else releaseAndFail (.invalidPayment (settlementMessage settlement.failureKind))
    | .error _ => releaseAndFail (.invalidPayment verificationMessage)
  -- the draw of a channel has left the handler before
  | .channel => releaseAndFail (.invalidPayment "channel vouchers are not settled on this path")

/-- The deferred settlement of an `exact` transfer: whether it failed. -/
def settleDeferred (deferred : Bool) : Prog (PaidCmd P) (PaidReply R) Bool :=
  if deferred then do
    let outcome : Except String ChatSettlement ← Prog.ask PaidCmd.settle
    match outcome with
    | .ok settlement =>
      if settlement.success then pure false
      else do
        Prog.ask PaidCmd.release
        pure true
    | .error _ => do
      Prog.ask PaidCmd.release
      pure true
  else pure false

/-- One arm of the spend log. -/
def logCost (result : ProviderCallResult) (breakdown : CostBreakdown)
    (inputTokens outputTokens : ℕ) :
    Prog (PaidCmd P) (PaidReply R) (Except GatewayError Served) :=
  match usdcF64ToAtomicSafe (breakdown.total.value .binary64) .binary64 with
  -- collected, and the cost does not convert: the reservation stays at the estimate
  | none => pure (.ok ⟨result, true⟩)
  | some costAtomic => do
    Prog.ask (PaidCmd.logSpend
      ⟨inputTokens, outputTokens,
        spendCostAtomic (schemeRealizedDiscount c.scheme result.costOutcome) costAtomic⟩)
    pure (.ok ⟨result, false⟩)

/-- The arms of the spend log. The registry has the request's model, so `estimate_cost` returns.
The claim and the receipt do not touch the reservation. -/
def logSpendArm (settleAfterDeliverFailed : Bool) (result : ProviderCallResult) :
    Prog (PaidCmd P) (PaidReply R) (Except GatewayError Served) :=
  let usage := result.usage.map fun u => capUsageToRequestLimits u c.req.maxTokens c.model
  match selectSpendLogArm settleAfterDeliverFailed usage result.costOutcome.isSome with
  | .skipSettleFailed => pure (.ok ⟨result, false⟩)
  | .actualUsage u =>
    logCost c result (estimateCost c.pct c.model u.promptTokens u.completionTokens .binary64)
      u.promptTokens u.completionTokens
  | .usagelessSemanticHit => logCost c result c.expectedCost (estimateInputTokens c.req) 0
  | .estimateFallback => logCost c result c.expectedCost (estimateInputTokens c.req) 0

/-- The provider call, as a part of the handler. -/
def viaProvider {α : Type} (call : Prog P R α) : Prog (PaidCmd P) (PaidReply R) α :=
  call.embed .provider fun _ r => r

/-- After the provider call. -/
def afterProvider (deferred : Bool) :
    Except ProviderFailure ProviderCallResult →
      Prog (PaidCmd P) (PaidReply R) (Except GatewayError Served)
  | .ok result => do
    let failed ← settleDeferred deferred
    logSpendArm c failed result
  | .error (.allProvidersFailed _) =>
    releaseAndFail (.upstreamUnavailable (unavailableMessage c.scheme))
  | .error (.internal message) => releaseAndFail (.internal message)

/-- `chat_completions_inner` after `check_budget` returned a reservation. -/
def chatAfterBudget (providerCall : Prog P R (Except ProviderFailure ProviderCallResult)) :
    Prog (PaidCmd P) (PaidReply R) (Except GatewayError Served) :=
  (verifyPayment c).andThen fun deferred => viaProvider providerCall >>= afterProvider c deferred

end Handler

/-- The provider call of the chat route. -/
def chatProviderCall (call : ProviderCall) :
    Prog CallCmd CallReply (Except ProviderFailure ProviderCallResult) :=
  call >>= fun result => pure (result.mapError .allProvidersFailed)

/-! ## What happens to the reservation -/

/-- How often the reservation was released and settled, and whether the payment was collected. -/
structure Tally where
  released : ℕ
  logged : ℕ
  collected : Bool

/-- The settlement succeeded. -/
def settlementSucceeded : Except String ChatSettlement → Bool
  | .ok settlement => settlement.success
  | .error _ => false

section Runs
variable {P : Type} {R : P → Type}

def Tally.move (t : Tally) : (cmd : PaidCmd P) → PaidReply R cmd → Tally
  | .release, _ => { t with released := t.released + 1 }
  | .logSpend _, _ => { t with logged := t.logged + 1 }
  | .verifyAndSettle, reply => { t with collected := t.collected || settlementSucceeded reply }
  | .settle, reply => { t with collected := t.collected || settlementSucceeded reply }
  | .verify, _ => t
  | .provider _, _ => t

/-- The replies may be anything. -/
def tallies : Prog.Ghost (PaidCmd P) (PaidReply R) Tally := ⟨Tally.move, fun _ _ _ => True⟩

/-- A run of the handler from the reservation on: what it did, and what it returned, or `none`
where its future was dropped. -/
structure PaidRun (c : ReservedChat)
    (providerCall : Prog P R (Except ProviderFailure ProviderCallResult)) where
  events : List (Σ cmd, PaidReply R cmd)
  result : Option (Except GatewayError Served)
  trace : Prog.Trace PaidCmd.waits (chatAfterBudget c providerCall) events result

/-- What the run did with the reservation. -/
def PaidRun.tally {c : ReservedChat}
    {providerCall : Prog P R (Except ProviderFailure ProviderCallResult)}
    (run : PaidRun c providerCall) : Tally :=
  tallies.after ⟨0, 0, false⟩ run.events

/-- The reservation was kept on purpose: the payment was collected, and no cost is known. -/
def Kept (t : Tally) (result : Option (Except GatewayError Served)) : Prop :=
  t.collected = true ∧ ∃ served, result = some (.ok served) ∧ served.kept = true

/-- Released once or settled once, and not both; or kept on purpose. -/
def PaidRun.Reconciled {c : ReservedChat}
    {providerCall : Prog P R (Except ProviderFailure ProviderCallResult)}
    (run : PaidRun c providerCall) : Prop :=
  run.tally.released + run.tally.logged = 1 ∨
    run.tally.released + run.tally.logged = 0 ∧ Kept run.tally run.result

/-! ## Every end reconciles -/

/-- Nothing has happened to the reservation yet. -/
def Tally.Untouched (t : Tally) : Prop := t.released = 0 ∧ t.logged = 0

/-- The handler does not wait once the reservation is reconciled. -/
def WaitsUntouched (t : Tally) (cmd : PaidCmd P) : Prop := cmd.waits = true → t.Untouched

/-- What every end of the handler leaves. -/
def EndsReconciled (t : Tally) (result : Except GatewayError Served) : Prop :=
  t.released + t.logged = 1 ∨ t.released + t.logged = 0 ∧ Kept t (some result)

/-- The specification of a part of the handler. -/
abbrev Reconciles {α : Type} (post : Tally → α → Prop) (t : Tally)
    (prog : Prog (PaidCmd P) (PaidReply R) α) : Prop :=
  Prog.Meets tallies WaitsUntouched post t prog

theorem releaseAndFail_reconciles {α : Type} {post : Tally → Except GatewayError α → Prop}
    {t : Tally} (ht : t.Untouched) {e : GatewayError}
    (hpost : ∀ t : Tally, t.released = 1 → t.logged = 0 → post t (.error e)) :
    Reconciles (P := P) (R := R) post t (releaseAndFail e) := by
  refine ⟨fun _ => ht, ?_⟩
  intro _ _
  have hreleased : t.released + 1 = 1 := by rw [ht.1]
  exact hpost _ hreleased ht.2

/-- A verified payment leaves the reservation alone; an escrow deposit is collected by then. -/
theorem verifyPayment_reconciles (c : ReservedChat) :
    Reconciles (P := P) (R := R)
      (fun t outcome =>
        match outcome with
        | .ok deferred => t.Untouched ∧ (deferred = false → t.collected = true)
        | .error _ => t.released + t.logged = 1)
      ⟨0, 0, false⟩ (verifyPayment c) := by
  have hstart (collected : Bool) : (⟨0, 0, collected⟩ : Tally).Untouched := ⟨rfl, rfl⟩
  -- every refusal releases the reservation once
  have hrelease (collected : Bool) (e : GatewayError) :
      Reconciles (P := P) (R := R)
        (fun t (outcome : Except GatewayError Bool) =>
          match outcome with
          | .ok deferred => t.Untouched ∧ (deferred = false → t.collected = true)
          | .error _ => t.released + t.logged = 1)
        ⟨0, 0, collected⟩ (releaseAndFail e) := by
    apply releaseAndFail_reconciles (hstart collected)
    intro t hreleased hlogged
    show t.released + t.logged = 1
    omega
  unfold verifyPayment
  split
  · refine ⟨fun _ => hstart false, ?_⟩
    intro outcome _
    rcases outcome with _ | valid
    · exact hrelease false _
    · cases valid with
      | false => exact hrelease false _
      | true => exact ⟨hstart false, fun h => absurd h (by simp)⟩
  · refine ⟨fun _ => hstart false, ?_⟩
    intro outcome _
    rcases outcome with _ | settlement
    · exact hrelease false _
    -- a settlement that fails collects nothing
    · show Reconciles _ ⟨0, 0, settlement.success⟩ (if settlement.success = true then _ else _)
      cases settlement.success with
      | true => exact ⟨hstart true, fun _ => rfl⟩
      | false => exact hrelease false _
  · exact hrelease false _

/-- The provider call does not touch the reservation. -/
theorem viaProvider_reconciles {α : Type} {t : Tally} (ht : t.Untouched) (call : Prog P R α) :
    Reconciles (fun t' _ => t' = t) t (viaProvider call) := by
  induction call with
  | done a => exact rfl
  | call cmd next ih => exact ⟨fun _ => ht, fun r _ => ih r⟩

/-- The deferred transfer is collected, or the reservation is released. -/
theorem settleDeferred_reconciles {t : Tally} (ht : t.Untouched) {deferred : Bool}
    (hcollected : deferred = false → t.collected = true) :
    Reconciles (P := P) (R := R)
      (fun t failed =>
        match failed with
        | true => t.released + t.logged = 1
        | false => t.Untouched ∧ t.collected = true)
      t (settleDeferred deferred) := by
  obtain ⟨hreleased, hlogged⟩ := ht
  have hone : t.released + 1 + t.logged = 1 := by omega
  unfold settleDeferred
  cases deferred with
  | false => exact ⟨⟨hreleased, hlogged⟩, hcollected rfl⟩
  | true =>
    rw [if_pos rfl]
    refine ⟨fun _ => ⟨hreleased, hlogged⟩, ?_⟩
    intro outcome _
    rcases outcome with _ | settlement
    · exact ⟨fun _ => ⟨hreleased, hlogged⟩, fun _ _ => hone⟩
    · show Reconciles _ ⟨t.released, t.logged, t.collected || settlement.success⟩
        (if settlement.success = true then _ else _)
      cases settlement.success with
      | true => exact ⟨⟨hreleased, hlogged⟩, Bool.or_true _⟩
      | false => exact ⟨fun _ => ⟨hreleased, hlogged⟩, fun _ _ => hone⟩

theorem logCost_reconciles (c : ReservedChat) {t : Tally} (ht : t.Untouched)
    (hcollected : t.collected = true) (result : ProviderCallResult) (breakdown : CostBreakdown)
    (inputTokens outputTokens : ℕ) :
    Reconciles (P := P) (R := R) EndsReconciled t
      (logCost c result breakdown inputTokens outputTokens) := by
  obtain ⟨hreleased, hlogged⟩ := ht
  unfold logCost
  split
  · have hnone : t.released + t.logged = 0 := by omega
    exact Or.inr ⟨hnone, hcollected, _, rfl, rfl⟩
  · have hone : t.released + (t.logged + 1) = 1 := by omega
    exact ⟨fun h => absurd h (by simp [PaidCmd.waits]), fun _ _ => Or.inl hone⟩

theorem logSpendArm_reconciles (c : ReservedChat) {t : Tally} {failed : Bool}
    (ht : match failed with
      | true => t.released + t.logged = 1
      | false => t.Untouched ∧ t.collected = true) (result : ProviderCallResult) :
    Reconciles (P := P) (R := R) EndsReconciled t (logSpendArm c failed result) := by
  cases failed with
  | true => exact Or.inl ht
  | false =>
    unfold logSpendArm
    dsimp only
    split
    · rename_i harm
      simp only [selectSpendLogArm, Bool.false_eq_true, if_false] at harm
      split at harm
      · exact absurd harm (by simp)
      · split at harm <;> exact absurd harm (by simp)
    · exact logCost_reconciles c ht.1 ht.2 ..
    · exact logCost_reconciles c ht.1 ht.2 ..
    · exact logCost_reconciles c ht.1 ht.2 ..

theorem afterProvider_reconciles (c : ReservedChat) {t : Tally} (ht : t.Untouched)
    {deferred : Bool} (hcollected : deferred = false → t.collected = true)
    (outcome : Except ProviderFailure ProviderCallResult) :
    Reconciles (P := P) (R := R) EndsReconciled t (afterProvider c deferred outcome) := by
  have hrelease (e : GatewayError) :
      Reconciles (P := P) (R := R) EndsReconciled t (releaseAndFail e) := by
    apply releaseAndFail_reconciles ht
    intro t' hreleased hlogged
    left
    omega
  rcases outcome with failure | result
  · cases failure with
    | allProvidersFailed e => exact hrelease _
    | internal message => exact hrelease _
  · refine (settleDeferred_reconciles ht hcollected).bind ?_
    intro t' failed ht'
    exact logSpendArm_reconciles c ht' result

/-- The handler waits only while nothing has happened to the reservation, and reconciles it before
it returns. -/
theorem chatAfterBudget_reconciles (c : ReservedChat)
    (providerCall : Prog P R (Except ProviderFailure ProviderCallResult)) :
    Reconciles EndsReconciled ⟨0, 0, false⟩ (chatAfterBudget c providerCall) := by
  refine (verifyPayment_reconciles c).andThen ?_ ?_
  · intro t e ht
    exact Or.inl ht
  · intro t deferred ht
    refine (viaProvider_reconciles ht.1 providerCall).bind ?_
    intro t' outcome ht'
    rw [ht']
    exact afterProvider_reconciles c ht.1 ht.2 outcome

variable {c : ReservedChat} {providerCall : Prog P R (Except ProviderFailure ProviderCallResult)}

/-- Whatever the verifier, the provider and the chain answer, a run reconciles its reservation
exactly once, or keeps it on purpose, exactly when its future is not dropped. -/
theorem reconciled_iff_not_dropped (run : PaidRun c providerCall) :
    run.Reconciled ↔ run.result.isSome := by
  obtain ⟨hend, hdrop⟩ := (chatAfterBudget_reconciles c providerCall).trace
    (fun _ _ _ => trivial) run.trace
  constructor
  · intro h
    by_contra hresult
    have hnone : run.result = none := by simpa using hresult
    obtain ⟨cmd, hwaits, huntouched⟩ := hdrop hnone
    obtain ⟨hreleased, hlogged⟩ := huntouched hwaits
    rcases h with hone | ⟨-, -, served, hserved, -⟩
    · change run.tally.released = 0 at hreleased
      change run.tally.logged = 0 at hlogged
      omega
    · rw [hnone] at hserved
      exact absurd hserved (by simp)
  · intro h
    obtain ⟨result, hresult⟩ := Option.isSome_iff_exists.mp h
    have hends := hend result hresult
    unfold PaidRun.Reconciled
    rw [hresult]
    exact hends

end Runs

/-! ## A client that disconnects -/

/-- The registry entry of `gpt-4o`. -/
def gpt4oEntry : RegistryEntry where
  inputCostPerMillion := some (5 / 2)
  outputCostPerMillion := some 10
  contextWindow := 128000
  maxOutputTokens := none
  provider := "openai"
  supportsVision := true

/-- A request for `gpt-4o` against an escrow deposit. -/
def escrowChat : ReservedChat where
  pct := 5
  model := gpt4oEntry.toModelRegistration
  req := { messages := [⟨40, []⟩], maxTokens := none }
  scheme := .escrow
  expectedCost := estimateCost 5 gpt4oEntry.toModelRegistration 10 1000 .binary64

/-- Its provider call. -/
def escrowChatCall : ProviderCall :=
  callProvider
    { configured := fun _ => true, registry := fun _ => some gpt4oEntry, pct := 5
      hitPricePercent := 50, exactCache := true, semanticCache := false
      nativeAnthropic := false }
    { messages := [⟨40, []⟩], maxTokens := none, model := "openai/gpt-4o", stream := false }
    gpt4oEntry false ⟨none, none⟩

/-- The deposit is settled, and the client is gone before the provider call has looked into the
cache. -/
def disconnectedRun : PaidRun escrowChat (chatProviderCall escrowChatCall) where
  events := [⟨.verifyAndSettle, .ok ⟨true, none, some 20000⟩⟩]
  result := none
  trace := by
    refine Prog.Trace.call (R := PaidReply CallReply) (c := .verifyAndSettle)
      (Except.ok (ChatSettlement.mk true none (some 20000))) ?_
    exact Prog.Trace.drop (c := PaidCmd.provider CallCmd.getExact) rfl

/-- The reservation stays: it is neither released nor settled. -/
theorem disconnected_run_leaks : ¬ disconnectedRun.Reconciled := by
  have hreleased : disconnectedRun.tally.released = 0 := rfl
  have hlogged : disconnectedRun.tally.logged = 0 := rfl
  rintro (hone | ⟨-, -, served, hserved, -⟩)
  · omega
  · exact absurd hserved (by simp [disconnectedRun])

end Solvela.Chat

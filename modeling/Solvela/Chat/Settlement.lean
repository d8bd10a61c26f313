import Solvela.Channel.Voucher
import Solvela.Chat.Cost

/-!
# What a delivered chat request records and claims

After the provider delivers, the paid route settles a deferred `exact` transfer, fires the
escrow claim and writes the spend row and the receipt, in this order. A channel draw persists
the voucher instead and records what it realized.

Three amounts are computed on the way: what is recorded, what is claimed, and what moves. The
first two are functions of the request, in the arithmetic of `f64`; the third also depends on the
chain and the database.
-/

namespace Solvela.Chat

open Solvela.ChannelLedger Solvela.Channel
open Solvela.Protocol (Usage)

/-! ## Escrow claims -/

/-- `decode_service_id`. -/
def decodeServiceId (b64 : String) : Option Pubkey :=
  (base64Decode (textBytes b64)).bind (exactBytes 32)

/-- The claim queue of the database, as one request meets it: no pool, a pool whose `INSERT`
fails, or one that takes the row. -/
inductive ClaimQueueDb
  | absent
  | failing
  | up
deriving DecidableEq

/-- The parts of `AppState` a claim goes to. -/
structure ClaimSinks where
  db : ClaimQueueDb
  escrowClaimer : Bool

/-- A claim that left the request: a row of the queue, or a submission without one. -/
structure FiredClaim where
  serviceId : Pubkey
  agentPubkey : String
  amount : ℕ
  deposited : Option ℕ
deriving DecidableEq

/-- `cap_claim_amount`. -/
def capClaimAmount (claimAtomic : ℕ) (deposited : Option ℕ) (clientAmount : ℕ) : ℕ :=
  match deposited with
  | some d => min claimAtomic d
  | none => min claimAtomic clientAmount

/-- `fire_escrow_claim`, with the fate of the spawned `INSERT`. -/
def fireEscrowClaim (sinks : ClaimSinks) (scheme : PaymentScheme)
    (escrowServiceId escrowAgentPubkey : Option String) (escrowDepositedAmount : Option ℕ)
    (claimAtomic clientAmount : ℕ) : Option FiredClaim :=
  if scheme ≠ .escrow then none
  else do
    let sidB64 ← escrowServiceId
    let agentB58 ← escrowAgentPubkey
    let claimAmount := capClaimAmount claimAtomic escrowDepositedAmount clientAmount
    if claimAmount = 0 then none
    else do
      let sid ← decodeServiceId sidB64
      let claim := FiredClaim.mk sid agentB58 claimAmount escrowDepositedAmount
      match sinks.db with
      | .up => some claim
      -- the error of the spawned task is only logged
      | .failing => none
      | .absent =>
        if sinks.escrowClaimer then (decodeBs58Pubkey agentB58).map fun _ => claim else none

/-- A claim that leaves the gateway reaches the queue or the claimer. -/
def ClaimSinks.reachable (sinks : ClaimSinks) : Bool :=
  match sinks.db with
  | .up => true
  | .failing => false
  | .absent => sinks.escrowClaimer

/-- What `verify_payment` of the escrow scheme establishes of a payload: its two texts decode, and
the deposit instruction carries an amount. -/
structure EscrowDeposit where
  serviceIdText : String
  agentText : String
  serviceId : Pubkey
  agent : Pubkey
  amount : ℕ
  serviceId_decodes : decodeServiceId serviceIdText = some serviceId
  agent_decodes : decodeBs58Pubkey agentText = some agent

/-- The claim of a verified deposit: the amount capped at the deposit, unless it is nothing or
there is nowhere to send it. -/
theorem fireEscrowClaim_deposit (sinks : ClaimSinks) (dep : EscrowDeposit)
    (claimAtomic clientAmount : ℕ) :
    fireEscrowClaim sinks .escrow (some dep.serviceIdText) (some dep.agentText) (some dep.amount)
        claimAtomic clientAmount
      = if 0 < min claimAtomic dep.amount ∧ sinks.reachable = true then
          some ⟨dep.serviceId, dep.agentText, min claimAtomic dep.amount, some dep.amount⟩
        else none := by
  have hsid := dep.serviceId_decodes
  have hagent := dep.agent_decodes
  by_cases hzero : min claimAtomic dep.amount = 0
  · simp [fireEscrowClaim, capClaimAmount, hzero]
  · have hpos : 0 < min claimAtomic dep.amount := Nat.pos_of_ne_zero hzero
    simp only [fireEscrowClaim, capClaimAmount, hzero, hsid, ClaimSinks.reachable, hpos, true_and,
      ne_eq, not_true_eq_false, if_false, Option.bind_eq_bind, Option.bind_some]
    cases sinks.db with
    | up => simp
    | failing => simp
    | absent => simp [hagent]

/-! ## Receipts -/

/-- `emit_chat_receipt` and the part of `record_receipt` that decides whether a row is written:
the amount paid on it, or none. -/
def emitChatReceipt (db : ClaimQueueDb) (amountPaidAtomic : ℕ) (breakdown : CostBreakdown) :
    Option ℕ :=
  if db = .absent then none
  else do
    let providerCostAtomic ← usdcAtomicAmountChecked breakdown.providerCost
    let totalAtomic ← usdcAtomicAmountChecked breakdown.total
    if totalAtomic < providerCostAtomic then none
    -- the fee is at most the total, so its own bound never decides
    else if amountPaidAtomic ≤ i64Max ∧ providerCostAtomic ≤ i64Max ∧ totalAtomic ≤ i64Max then
      some amountPaidAtomic
    else none

/-- A receipt is for the amount it was asked to record. -/
theorem eq_of_emitChatReceipt {db : ClaimQueueDb} {amount a : ℕ} {breakdown : CostBreakdown}
    (h : emitChatReceipt db amount breakdown = some a) : a = amount := by
  unfold emitChatReceipt at h
  split at h
  · cases h
  · simp only [Option.bind_eq_bind, Option.bind_eq_some_iff] at h
    obtain ⟨providerCost, -, total, -, h⟩ := h
    split_ifs at h
    exact (Option.some.inj h).symm

/-! ## Payments -/

/-- The post-delivery `settle` of an `exact` transfer. After an error the transaction may be on
its way all the same: `landed` says whether the transfer ends up on chain. -/
inductive ExactSettle
  | settled
  | failed (landed : Bool)
deriving DecidableEq

/-- The end of a channel draw. After an error of the persist, `committed` says whether its
transaction took effect. -/
inductive DrawPersist
  | lockLost
  | persisted
  | failed (committed : Bool)
deriving DecidableEq

/-- How a delivered request is paid for. -/
inductive Payment
  | exact (transfer : ℕ) (settle : ExactSettle)
  | escrow (dep : EscrowDeposit)
  | channel (persist : DrawPersist)

/-- The last check of the payment's verifier: the transaction moves at least what the client
states. A voucher's amount is the quote by rule. -/
def Payment.Covers (clientAmount : ℕ) : Payment → Prop
  | .exact transfer _ => clientAmount ≤ transfer
  | .escrow dep => clientAmount ≤ dep.amount
  | .channel _ => True

/-- A chat request the provider delivered, past every check of the paid route. -/
structure PaidChat where
  pct : ℕ
  model : ModelRegistration
  req : ChatRequest
  /-- The estimate from the original body, on the native relay. -/
  nativeInputTokens : Option ℕ
  /-- The provider's usage, as it reports it. -/
  usage : Option Usage
  /-- `cost_outcome`. -/
  discount : Option SemanticDiscount
  payment : Payment
  sinks : ClaimSinks
  expectedAmount : ℕ
  clientAmount : ℕ
  /-- The recomputed quote converts, and it is not free. -/
  expected_checked :
    usdcAtomicAmountChecked
      (estimateCost pct model (nativeInputTokens.getD (estimateInputTokens req))
        (completionTokenCeiling req.maxTokens model) .binary64).total = some expectedAmount
  expected_pos : 0 < expectedAmount
  client_sufficient : expectedAmount ≤ clientAmount
  covers : payment.Covers clientAmount

namespace PaidChat

/-- `expected_cost`, the breakdown the reservation was made against. -/
def expectedCost (c : PaidChat) : CostBreakdown :=
  estimateCost c.pct c.model (c.nativeInputTokens.getD (estimateInputTokens c.req))
    (completionTokenCeiling c.req.maxTokens c.model) .binary64

/-- The provider's usage within the request's limits. -/
def cappedUsage (c : PaidChat) : Option Usage :=
  c.usage.map fun u => capUsageToRequestLimits u c.req.maxTokens c.model

/-- The registry's breakdown for a usage. -/
def usageCost (c : PaidChat) (u : Usage) : CostBreakdown :=
  estimateCost c.pct c.model u.promptTokens u.completionTokens .binary64

/-- What one request leaves behind. -/
structure Record where
  spendRow : Option ℕ
  receipt : Option ℕ
  claim : Option FiredClaim
  /-- What the payer is out of, once every transaction sent has landed or been dropped. -/
  collected : ℕ

/-- The spend row and the receipt of the paid route. -/
def spendArm (c : PaidChat) (scheme : PaymentScheme) (settleAfterDeliverFailed : Bool) :
    Option ℕ × Option ℕ :=
  let realizedDiscount := schemeRealizedDiscount scheme c.discount
  let record (breakdown : CostBreakdown) : Option ℕ × Option ℕ :=
    match usdcF64ToAtomicSafe (breakdown.total.value .binary64) .binary64 with
    -- the corrupt amount is not written, and the request ends here
    | none => (none, none)
    | some costAtomic =>
      let billedAtomic := spendCostAtomic realizedDiscount costAtomic
      (some billedAtomic, emitChatReceipt c.sinks.db billedAtomic breakdown)
  match selectSpendLogArm settleAfterDeliverFailed c.cappedUsage c.discount.isSome with
  | .skipSettleFailed => (none, none)
  | .actualUsage u => record (c.usageCost u)
  | .usagelessSemanticHit => record c.expectedCost
  | .estimateFallback => record c.expectedCost

/-- `estimated_atomic_cost(..).unwrap_or(1)`. -/
def claimEstimate (c : PaidChat) : ℕ :=
  match estimatedAtomicCost c.pct c.req c.model .binary64 with
  | .ok n => n
  | .error _ => 1

/-- `claim_atomic` of the paid route. -/
def claimAtomic (c : PaidChat) (scheme : PaymentScheme) : Option ℕ :=
  match schemeRealizedDiscount scheme c.discount with
  | some outcome => some outcome.discountedAtomic
  | none =>
    match c.cappedUsage with
    | some u => computeActualAtomicCost c.pct u.promptTokens u.completionTokens c.model .binary64
    | none => some c.claimEstimate

/-- The realized advance of a channel draw for this request. -/
def realized (c : PaidChat) : ℕ :=
  realizedAdvance c.pct c.expectedAmount (.chat ⟨c.usage, c.discount, c.req.maxTokens, c.model⟩)

/-- The receipt of a draw: one canonical split of the realized total. -/
def drawReceipt (c : PaidChat) : Option ℕ :=
  if c.sinks.db = .absent then none
  else if c.realized ≤ i64Max then some c.realized
  else none

/-- The post-delivery part of the chat route, for each scheme. -/
def settle (c : PaidChat) : Record :=
  match c.payment with
  | .exact transfer s =>
    let rows := c.spendArm .exact (s ≠ .settled)
    { spendRow := rows.1, receipt := rows.2
      claim := (c.claimAtomic .exact).bind fun amount =>
        fireEscrowClaim c.sinks .exact none none none amount c.clientAmount
      collected :=
        match s with
        | .settled => transfer
        | .failed landed => if landed then transfer else 0 }
  | .escrow dep =>
    let rows := c.spendArm .escrow false
    let claim := (c.claimAtomic .escrow).bind fun amount =>
      fireEscrowClaim c.sinks .escrow (some dep.serviceIdText) (some dep.agentText)
        (some dep.amount) amount c.clientAmount
    { spendRow := rows.1, receipt := rows.2, claim := claim
      collected := claim.elim 0 (·.amount) }
  | .channel .persisted =>
    { spendRow := some c.realized, receipt := c.drawReceipt, claim := none
      collected := c.realized }
  | .channel .lockLost =>
    { spendRow := none, receipt := none, claim := none, collected := 0 }
  | .channel (.failed committed) =>
    { spendRow := none, receipt := none, claim := none
      collected := if committed then c.realized else 0 }

end PaidChat

end Solvela.Chat

import Solvela.Chat.Settlement

/-!
# Recorded against collected

When the spend row and the receipt of a delivered chat request hold what was really taken from
the payer. The two are computed apart: the row prices the capped usage by the registry's rounded
text, the transfer of the `exact` scheme is what the client signed before the usage was known,
and the escrow claim prices the same usage in truncated integers or estimates it anew. The text is
read back as an `f64` and truncated, so the row of a quote may be one unit less than the quote.
-/

namespace Solvela.Chat

open Solvela.ChannelLedger Solvela.Channel

namespace PaidChat

/-- The ledger and the receipt hold what the payer is out of; no row is a row of nothing. -/
def RecordsCollected (r : Record) : Prop :=
  r.spendRow.getD 0 = r.collected ∧ ∀ a ∈ r.receipt, a = r.collected

/-! ## The row -/

/-- What the registry's printed total becomes in the ledger. -/
def ledgerPrice (breakdown : CostBreakdown) : Option ℕ :=
  usdcF64ToAtomicSafe (breakdown.total.value .binary64) .binary64

/-- The breakdown the row is priced from: the usage's, or the quote's without one. -/
def rowCost (c : PaidChat) : CostBreakdown :=
  c.cappedUsage.elim c.expectedCost c.usageCost

/-- The row of a request whose payment was collected, in one formula for the three arms. -/
theorem spendArm_collected (c : PaidChat) (scheme : PaymentScheme) :
    (c.spendArm scheme false).1
      = (ledgerPrice c.rowCost).map
          (spendCostAtomic (schemeRealizedDiscount scheme c.discount)) := by
  unfold spendArm selectSpendLogArm rowCost ledgerPrice
  cases c.cappedUsage with
  | some u =>
    simp only [Bool.false_eq_true, if_false, Option.elim_some]
    cases usdcF64ToAtomicSafe ((c.usageCost u).total.value .binary64) .binary64 <;> rfl
  | none =>
    simp only [Bool.false_eq_true, if_false, Option.elim_none]
    cases c.discount.isSome <;>
      cases usdcF64ToAtomicSafe (c.expectedCost.total.value .binary64) .binary64 <;> rfl

/-- A failed settlement writes nothing. -/
theorem spendArm_failed (c : PaidChat) (scheme : PaymentScheme) :
    c.spendArm scheme true = (none, none) := rfl

/-- The receipt never says anything but the row. -/
theorem receipt_eq_row (c : PaidChat) (scheme : PaymentScheme) (failed : Bool) {a : ℕ}
    (h : a ∈ (c.spendArm scheme failed).2) : (c.spendArm scheme failed).1 = some a := by
  unfold spendArm at h ⊢
  generalize selectSpendLogArm failed c.cappedUsage c.discount.isSome = arm at h ⊢
  -- the arms that record differ in the breakdown only, and each is one `match` on its price
  cases arm with
  | skipSettleFailed => cases h
  | actualUsage _ | usagelessSemanticHit | estimateFallback =>
    dsimp only at h ⊢
    split at h
    · cases h
    · exact congrArg some (eq_of_emitChatReceipt h).symm

/-- The quote in the ledger, up to `2 ^ 44` units: itself, or one unit less. -/
theorem ledgerPrice_expected_near (c : PaidChat) (hle : c.expectedAmount ≤ 2 ^ 44) :
    ∃ r, ledgerPrice c.expectedCost = some r ∧ r ≤ c.expectedAmount ∧
      c.expectedAmount ≤ r + 1 := by
  have htext : c.expectedCost.total = .decimal false c.expectedAmount :=
    (eq_decimal_of_checked c.expected_checked).1
  unfold ledgerPrice
  rw [htext]
  exact usdcF64ToAtomicSafe_near hle

/-! ## The claim -/

/-- What the claim of a verified deposit takes. -/
def claimTaken (sinks : ClaimSinks) (dep : EscrowDeposit) (claim : ℕ) : ℕ :=
  if sinks.reachable then min claim dep.amount else 0

theorem amount_fireEscrowClaim (sinks : ClaimSinks) (dep : EscrowDeposit) (claim client : ℕ) :
    (fireEscrowClaim sinks .escrow (some dep.serviceIdText) (some dep.agentText)
      (some dep.amount) claim client).elim 0 (·.amount) = claimTaken sinks dep claim := by
  rw [fireEscrowClaim_deposit]
  unfold claimTaken
  cases hreach : sinks.reachable with
  | false => simp
  | true =>
    by_cases hpos : 0 < min claim dep.amount
    · simp [hpos]
    · have hzero : min claim dep.amount = 0 := by omega
      simp [hzero]

/-! ## When the two agree -/

/-- The agreement on the `exact` scheme. A transfer that lands after a failed settlement is never
recorded; otherwise the client must have signed exactly what the conversion of the row makes of the
printed price: the quote's without usage, that of the capped usage with it. -/
def ExactAgrees (c : PaidChat) (transfer : ℕ) : ExactSettle → Prop
  | .failed landed => landed = false
  | .settled =>
    match c.cappedUsage with
    | none => ledgerPrice c.expectedCost = some transfer
    | some u => ledgerPrice (c.usageCost u) = some transfer

/-- The agreement on the escrow scheme. -/
def EscrowAgrees (c : PaidChat) (dep : EscrowDeposit) : Prop :=
  match c.discount, c.cappedUsage with
  -- a discount is recorded and claimed alike, if the row is written and the deposit covers it
  | some d, _ =>
    if (ledgerPrice c.rowCost).isSome then
      if c.sinks.reachable then d.discountedAtomic ≤ dep.amount else d.discountedAtomic = 0
    else c.sinks.reachable → min d.discountedAtomic dep.amount = 0
  -- the registry's rounded price against the truncated one
  | none, some u =>
    (ledgerPrice (c.usageCost u)).getD 0
      = claimTaken c.sinks dep
        ((computeActualAtomicCost c.pct u.promptTokens u.completionTokens c.model
          .binary64).getD 0)
  -- the quote against the estimate of the request's own shape
  | none, none =>
    (ledgerPrice c.expectedCost).getD 0 = claimTaken c.sinks dep c.claimEstimate

/-- The agreement on a channel draw: no commit whose acknowledgement was lost, unless nothing was
realized. -/
def ChannelAgrees (c : PaidChat) : DrawPersist → Prop
  | .lockLost | .persisted => True
  | .failed committed => committed = true → c.realized = 0

/-- When a delivered request records what it collects. -/
def Agrees (c : PaidChat) : Prop :=
  match c.payment with
  | .exact transfer s => c.ExactAgrees transfer s
  | .escrow dep => c.EscrowAgrees dep
  | .channel persist => c.ChannelAgrees persist

/-! ## The theorem, scheme by scheme -/

/-- The receipt follows the row, so only the row has to be compared. -/
theorem recordsCollected_iff {r : Record} (h : ∀ a ∈ r.receipt, r.spendRow = some a) :
    RecordsCollected r ↔ r.spendRow.getD 0 = r.collected := by
  constructor
  · intro hr
    exact hr.1
  · intro hrow
    refine ⟨hrow, ?_⟩
    intro a ha
    rw [h a ha] at hrow
    exact hrow

theorem exact_iff (c : PaidChat) (transfer : ℕ) (s : ExactSettle)
    (hpay : c.payment = .exact transfer s) :
    RecordsCollected c.settle ↔ c.ExactAgrees transfer s := by
  have hcovers : c.clientAmount ≤ transfer := by
    have h := c.covers
    rwa [hpay] at h
  -- the transfer is never nothing: it covers a quote that is not free
  have htransfer : 0 < transfer := by
    have h₁ := c.expected_pos
    have h₂ := c.client_sufficient
    omega
  have hreceipt : ∀ a ∈ c.settle.receipt, c.settle.spendRow = some a := by
    intro a ha
    simp only [settle, hpay] at ha ⊢
    exact c.receipt_eq_row _ _ ha
  rw [recordsCollected_iff hreceipt]
  simp only [settle, hpay]
  cases s with
  | failed landed =>
    have hne : decide (ExactSettle.failed landed ≠ .settled) = true := by simp
    rw [hne, spendArm_failed]
    unfold ExactAgrees
    cases landed with
    | false => simp
    | true => simp; omega
  | settled =>
    have heq : decide (ExactSettle.settled ≠ .settled) = false := by decide
    have hnone : schemeRealizedDiscount .exact c.discount = none := rfl
    rw [heq, spendArm_collected, hnone]
    unfold ExactAgrees rowCost
    -- with and without usage the row is one conversion, and it is of a positive transfer
    have hprice : ∀ price : Option ℕ,
        (price.map (spendCostAtomic none)).getD 0 = transfer ↔ price = some transfer := by
      intro price
      cases price with
      | none =>
        simp only [Option.map_none, Option.getD_none, reduceCtorEq, iff_false]
        omega
      | some cost => simp [spendCostAtomic]
    cases c.cappedUsage with
    | none => exact hprice _
    | some u => exact hprice _

/-- The escrow claim of a request, as an amount. -/
theorem escrow_collected (c : PaidChat) (dep : EscrowDeposit)
    (hpay : c.payment = .escrow dep) :
    c.settle.collected = claimTaken c.sinks dep ((c.claimAtomic .escrow).getD 0) := by
  simp only [settle, hpay]
  cases c.claimAtomic .escrow with
  | some amount => exact amount_fireEscrowClaim c.sinks dep amount c.clientAmount
  | none => simp [claimTaken]

theorem escrow_iff (c : PaidChat) (dep : EscrowDeposit) (hpay : c.payment = .escrow dep) :
    RecordsCollected c.settle ↔ c.EscrowAgrees dep := by
  have hreceipt : ∀ a ∈ c.settle.receipt, c.settle.spendRow = some a := by
    intro a ha
    simp only [settle, hpay] at ha ⊢
    exact c.receipt_eq_row _ _ ha
  have hrow : c.settle.spendRow = (c.spendArm .escrow false).1 := by simp only [settle, hpay]
  have hdiscount : schemeRealizedDiscount .escrow c.discount = c.discount := rfl
  have hpos := c.expected_pos
  rw [recordsCollected_iff hreceipt, escrow_collected c dep hpay, hrow, spendArm_collected,
    hdiscount]
  unfold EscrowAgrees claimAtomic
  rw [hdiscount]
  cases c.discount with
  -- with a discount, the claim and the row are of the discounted price
  | some d =>
    simp only [Option.getD_some, claimTaken]
    cases ledgerPrice c.rowCost with
    | some price =>
      simp only [Option.map_some, Option.getD_some, spendCostAtomic, Option.isSome_some, if_true]
      split
      · constructor <;> intro h <;> omega
      · exact Iff.rfl
    | none =>
      simp only [Option.map_none, Option.getD_none, Option.isSome_none, Bool.false_eq_true,
        if_false]
      split
      · rename_i hreach
        simp only [hreach, true_implies]
        exact eq_comm
      · rename_i hreach
        simp [hreach]
  -- without one, by the usage if there is any, and by the estimate if not
  | none =>
    unfold rowCost
    cases c.cappedUsage with
    | some u =>
      simp only [Option.elim_some]
      cases ledgerPrice (c.usageCost u) <;> rfl
    | none =>
      simp only [Option.elim_none, Option.getD_some]
      cases ledgerPrice c.expectedCost <;> rfl

theorem channel_iff (c : PaidChat) (persist : DrawPersist)
    (hpay : c.payment = .channel persist) :
    RecordsCollected c.settle ↔ c.ChannelAgrees persist := by
  cases persist with
  | lockLost => simp [settle, hpay, RecordsCollected, ChannelAgrees]
  | persisted =>
    simp only [settle, hpay, RecordsCollected, ChannelAgrees, Option.getD_some, true_and, iff_true]
    intro a ha
    unfold drawReceipt at ha
    split_ifs at ha
    all_goals simpa using ha.symm
  | failed committed =>
    simp only [settle, hpay, RecordsCollected, ChannelAgrees, Option.getD_none]
    cases committed <;> simp [eq_comm]

/-- A call at 2.50 and 10.00 USDC a million tokens: 100 tokens in, 1000 asked for, 50 delivered,
with a fee of 5 percent. The client signs exactly the quote. -/
def gpt4oCall (payment : Payment) (covers : payment.Covers 10763) : PaidChat where
  pct := 5
  model := ⟨some (5 / 2), some 10, 128000, none⟩
  req := ⟨[⟨400, []⟩], some 1000⟩
  nativeInputTokens := none
  usage := some ⟨100, 50, 150⟩
  discount := none
  payment := payment
  sinks := ⟨.up, true⟩
  expectedAmount := 10763
  clientAmount := 10763
  expected_checked := by decide +kernel
  expected_pos := by decide
  client_sufficient := le_rfl
  covers := covers

end PaidChat

end Solvela.Chat

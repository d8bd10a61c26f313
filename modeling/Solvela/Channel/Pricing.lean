import Solvela.Ledger.Schema
import Solvela.Lib.Binary64
import Solvela.Protocol.Chat

/-!
# What a draw bills and realizes

A draw bills its quote: the signed voucher advances the cumulative by exactly that. It
*realizes* what the call really cost, at most the quote. Search and A2A realize the quote
itself; chat prices the provider's capped usage, or a semantic-cache discount, and clamps.

A registry price is an `f64`. Here it is a rational, `none` standing for the non-finite values, and
what is computed from it depends on how the results of the operations are rounded:
`FloatArith.binary64` as the gateway's `f64` does, `FloatArith.exact` not at all. What a function is
not told to round is exact.
-/

namespace Solvela.Channel

open Solvela.ChannelLedger Solvela.Lib
open Solvela.Protocol (Usage)

/-! ## Prices -/

/-- A registry price in USDC; `none` is NaN or an infinity. -/
abbrev Price := Option ℚ

/-- How the exact result of an operation on prices is rounded. -/
structure FloatArith where
  round : ℚ → Price

namespace FloatArith

/-- The idealised arithmetic, which rounds nothing. -/
def exact : FloatArith := ⟨some⟩

/-- The arithmetic of `f64`. -/
def binary64 : FloatArith := ⟨roundBinary64⟩

variable (A : FloatArith)

def add (x y : Price) : Price := do
  A.round ((← x) + (← y))

def mul (x y : Price) : Price := do
  A.round ((← x) * (← y))

def div (x y : Price) : Price := do
  A.round ((← x) / (← y))

/-- `(price * 1_000_000.0)` cast to an unsigned type of the largest value `max`, for a price that is
not negative: truncated, and saturated where the product is infinite. -/
def toAtomic (price : ℚ) (max : ℕ) : ℕ :=
  (A.mul (some price) (some 1000000)).elim max fun x => ⌊x⌋.toNat

@[simp] theorem exact_round (x : ℚ) : exact.round x = some x := rfl

@[simp] theorem exact_mul (x y : ℚ) : exact.mul (some x) (some y) = some (x * y) := rfl

@[simp] theorem exact_toAtomic (price : ℚ) (max : ℕ) :
    exact.toAtomic price max = ⌊price * 1000000⌋.toNat := rfl

end FloatArith

/-- `apply_platform_fee_atomic` at a fee of `pct` percent. -/
def applyPlatformFeeAtomic (pct providerAtomic : ℕ) : Option ℕ :=
  let total := providerAtomic * (100 + pct) / 100
  if total ≤ u64Max then some total else none

/-! ## Flat-priced services -/

/-- `PRICE_USDC_MAX`. -/
def priceUsdcMax : ℚ := (u64Max / 1000000 : ℕ)

/-- Why a flat price is refused. -/
inductive PriceError
  | nonFinite
  | nonPositive (price : ℚ)
  | exceedsU64 (price : ℚ)
  | feeOverflow (price : ℚ)
deriving DecidableEq

/-- `validate_price_usdc`: finite, positive and small enough for a `u64`. -/
def validatePriceUsdc (price : Price) : Except PriceError ℚ :=
  match price with
  | none => .error .nonFinite
  | some p =>
    if p ≤ 0 then .error (.nonPositive p)
    else if priceUsdcMax < p then .error (.exceedsU64 p)
    else .ok p

/-- `ServiceCost`. -/
structure ServiceCost where
  providerAtomic : ℕ
  feeAtomic : ℕ
  totalAtomic : ℕ
deriving DecidableEq

/-- `compute_service_cost`: the price in atomic units, rounded half up, and the fee once. The
product is exact here, where the gateway's is rounded to an `f64` first. -/
def computeServiceCost (pct : ℕ) (price : Price) : Except PriceError ServiceCost :=
  match validatePriceUsdc price with
  | .error e => .error e
  | .ok p =>
    let providerAtomic := ⌊p * 1000000 + 1 / 2⌋.toNat
    match applyPlatformFeeAtomic pct providerAtomic with
    | none => .error (.feeOverflow p)
    | some totalAtomic =>
      .ok
        { providerAtomic := providerAtomic, feeAtomic := totalAtomic - providerAtomic
          totalAtomic := totalAtomic }

/-! ## Chat usage -/

/-- `DEFAULT_COMPLETION_TOKENS_CAP`. -/
def defaultCompletionTokensCap : ℕ := 8192

/-- The fields of `ModelRegistration` that pricing reads. -/
structure ModelRegistration where
  inputCostPerMillion : Price
  outputCostPerMillion : Price
  contextWindow : ℕ
  maxOutputTokens : Option ℕ

/-- `completion_token_ceiling`: the tightest of the bounds that are there, at least 1. -/
def completionTokenCeiling (reqMaxTokens : Option ℕ) (model : ModelRegistration) : ℕ :=
  let requested := reqMaxTokens.elim defaultCompletionTokensCap (min defaultCompletionTokensCap)
  max 1 (model.maxOutputTokens.elim requested (min requested))

/-- `cap_usage_to_request_limits`. -/
def capUsageToRequestLimits (usage : Usage) (reqMaxTokens : Option ℕ)
    (model : ModelRegistration) : Usage :=
  let prompt := min usage.promptTokens model.contextWindow
  let completion := min usage.completionTokens (completionTokenCeiling reqMaxTokens model)
  { promptTokens := prompt, completionTokens := completion
    totalTokens := min (2 ^ 32 - 1) (prompt + completion) }

/-- `compute_actual_atomic_cost`: truncated prices, truncated per-token costs, the fee once. -/
def computeActualAtomicCost (pct promptTokens completionTokens : ℕ) (model : ModelRegistration)
    (A : FloatArith := .exact) : Option ℕ := do
  let input ← model.inputCostPerMillion
  let output ← model.outputCostPerMillion
  if input < 0 ∨ output < 0 then none
  else
    let inputAtomic := promptTokens * A.toAtomic input (2 ^ 128 - 1) / 1000000
    let outputAtomic := completionTokens * A.toAtomic output (2 ^ 128 - 1) / 1000000
    if inputAtomic + outputAtomic ≤ u64Max then
      applyPlatformFeeAtomic pct (inputAtomic + outputAtomic)
    else none

/-! ## Semantic-cache discounts -/

/-- `apply_hit_price`. -/
def applyHitPrice (fullAtomic hitPricePercent : ℕ) : ℕ :=
  fullAtomic * min hitPricePercent 100 / 100

/-- `SemanticDiscount`: only built from a full price, so never above it. -/
structure SemanticDiscount where
  fullAtomic : ℕ
  discountedAtomic : ℕ
  le_full : discountedAtomic ≤ fullAtomic

/-- `SemanticDiscount::new`. -/
def SemanticDiscount.new (fullAtomic hitPricePercent : ℕ) : SemanticDiscount where
  fullAtomic := fullAtomic
  discountedAtomic := applyHitPrice fullAtomic hitPricePercent
  le_full := by
    unfold applyHitPrice
    have hpct : min hitPricePercent 100 ≤ 100 := min_le_right _ _
    calc fullAtomic * min hitPricePercent 100 / 100
        ≤ fullAtomic * 100 / 100 := Nat.div_le_div_right (Nat.mul_le_mul_left _ hpct)
      _ = fullAtomic := Nat.mul_div_cancel _ (by norm_num)

/-- `spend_cost_atomic`. -/
def spendCostAtomic (discount : Option SemanticDiscount) (fullCostAtomic : ℕ) : ℕ :=
  match discount with
  | some d => d.discountedAtomic
  | none => fullCostAtomic

/-! ## The realized advance -/

/-- `PaymentScheme`. -/
inductive PaymentScheme
  | exact
  | escrow
  | channel
deriving DecidableEq

/-- `scheme_realized_discount`: escrow and channel realize a discount, exact does not. -/
def schemeRealizedDiscount (scheme : PaymentScheme) (outcome : Option SemanticDiscount) :
    Option SemanticDiscount :=
  match scheme with
  | .escrow | .channel => outcome
  | .exact => none

/-- `SpendLogArm`. -/
inductive SpendLogArm
  | skipSettleFailed
  | actualUsage (usage : Usage)
  | usagelessSemanticHit
  | estimateFallback

/-- `select_spend_log_arm`. -/
def selectSpendLogArm (settleAfterDeliverFailed : Bool) (usage : Option Usage)
    (semanticHit : Bool) : SpendLogArm :=
  if settleAfterDeliverFailed then .skipSettleFailed
  else
    match usage with
    | some u => .actualUsage u
    | none => if semanticHit then .usagelessSemanticHit else .estimateFallback

/-- What a chat provider call returned, and the request's own completion bound. -/
structure ChatOutcome where
  usage : Option Usage
  discount : Option SemanticDiscount
  reqMaxTokens : Option ℕ
  model : ModelRegistration

/-- The amount the chosen spend arm bills on a channel draw. The settle-failed arm is the
source's `unreachable!`: a draw selects with `false`. -/
def armBilled (pct billed : ℕ) (out : ChatOutcome) : ℕ :=
  let usage := out.usage.map fun u => capUsageToRequestLimits u out.reqMaxTokens out.model
  let discount := schemeRealizedDiscount .channel out.discount
  match selectSpendLogArm false usage out.discount.isSome with
  | .skipSettleFailed => billed
  | .actualUsage u =>
    spendCostAtomic discount
      ((computeActualAtomicCost pct u.promptTokens u.completionTokens out.model).getD billed)
  | .usagelessSemanticHit => spendCostAtomic discount billed
  | .estimateFallback => billed

/-- The surface a draw came in on, with what it reports after serving. -/
inductive Served
  | chat (out : ChatOutcome)
  | search
  | a2a

/-- The realized advance of a draw: the clamped actual cost on chat, the quote elsewhere. -/
def realizedAdvance (pct billed : ℕ) : Served → ℕ
  | .chat out => min (armBilled pct billed out) billed
  | .search => billed
  | .a2a => billed

/-- No draw realizes more than it bills. -/
theorem realizedAdvance_le (pct billed : ℕ) (served : Served) :
    realizedAdvance pct billed served ≤ billed := by
  cases served with
  | chat out => exact min_le_right _ _
  | search => exact le_rfl
  | a2a => exact le_rfl

end Solvela.Channel

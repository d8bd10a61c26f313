import Mathlib.Data.Nat.Cast.Order.Field
import Solvela.Channel.Pricing

/-!
# What a chat request is quoted

The registry prices a call as a text with six decimals. The quote, the reservation and the
spend row read that text back, each through its own conversion; the escrow claim of a call with
known usage does not, and prices the tokens in integers.

The prices and the arithmetic are those of `Solvela.Channel.Pricing`. In the arithmetic of `f64`
the conversion of a printed amount may lose its last unit (`usdcF64ToAtomicSafe_near`).
-/

namespace Solvela.Chat

open Solvela.ChannelLedger Solvela.Channel Solvela.Lib

/-! ## Six decimals -/

/-- A USDC amount as text: NaN, an infinity, or a sign and six decimals, here the digits without
the point. A small negative amount prints as a negative zero. -/
inductive UsdcText
  | nonFinite
  | decimal (negative : Bool) (micro : ℕ)
deriving DecidableEq

/-- `format!("{x:.6}")`, which rounds the number's own value. -/
def formatUsdc : Price → UsdcText
  | none => .nonFinite
  | some x => .decimal (decide (x < 0)) (roundHalfEven (|x| * 1000000))

/-- `parse::<f64>` of such a text. -/
def UsdcText.value (text : UsdcText) (A : FloatArith := .exact) : Price :=
  match text with
  | .nonFinite => none
  | .decimal false micro => A.round (micro / 1000000)
  | .decimal true micro => A.round (-(micro / 1000000))

/-- `usdc_atomic_amount_checked`: a sign or a word is no integer part. -/
def usdcAtomicAmountChecked : UsdcText → Option ℕ
  | .decimal false micro => if micro ≤ u64Max then some micro else none
  | .decimal true _ => none
  | .nonFinite => none

/-- `ESTIMATED_COST_MAX_USDC`, in whole USDC. -/
def estimatedCostMaxUsdc : ℕ := u64Max / 1000000

/-- `usdc_f64_to_atomic_safe`. -/
def usdcF64ToAtomicSafe (usdc : Price) (A : FloatArith := .exact) : Option ℕ := do
  let x ← usdc
  if 0 ≤ x ∧ x ≤ estimatedCostMaxUsdc then some (A.toAtomic x u64Max) else none

/-! ## The registry -/

/-- The texts of `CostBreakdown` that the gateway reads back. -/
structure CostBreakdown where
  providerCost : UsdcText
  total : UsdcText

/-- The provider's price of a call in USDC. -/
def providerCostUsdc (model : ModelRegistration) (inputTokens outputTokens : ℕ)
    (A : FloatArith := .exact) : Price :=
  let inputCost := A.mul (A.div (some inputTokens) (some 1000000)) model.inputCostPerMillion
  let outputCost := A.mul (A.div (some outputTokens) (some 1000000)) model.outputCostPerMillion
  A.add inputCost outputCost

/-- `platform_fee_multiplier` at a fee of `pct` percent. -/
def platformFeeMultiplier (pct : ℕ) (A : FloatArith := .exact) : Price :=
  A.add (some 1) (A.div (some pct) (some 100))

/-- `ModelRegistry::estimate_cost` of a model the registry has. -/
def estimateCost (pct : ℕ) (model : ModelRegistration) (inputTokens outputTokens : ℕ)
    (A : FloatArith := .exact) : CostBreakdown :=
  let providerCost := providerCostUsdc model inputTokens outputTokens A
  { providerCost := formatUsdc providerCost
    total := formatUsdc (A.mul providerCost (platformFeeMultiplier pct A)) }

/-! ## Estimates -/

/-- `ImageDetail`. -/
inductive ImageDetail
  | low
  | high
  | auto

/-- `ImageDetail::from_opt`. -/
def ImageDetail.fromOpt : Option String → ImageDetail
  | some "low" => .low
  | some "high" => .high
  | some "auto" => .auto
  -- an unknown hint and an absent one reserve the larger figure
  | _ => .high

/-- `image_tokens_for_detail`. -/
def imageTokensForDetail (detail : Option String) : ℕ :=
  match ImageDetail.fromOpt detail with
  | .low => 85
  | .high | .auto => 765

/-- What the input estimate reads of a message: the bytes of its text and its images' hints. -/
structure Message where
  textBytes : ℕ
  images : List (Option String)

/-- The fields of `ChatRequest` that pricing reads. -/
structure ChatRequest where
  messages : List Message
  maxTokens : Option ℕ

/-- `u32::saturating_add`. -/
def saturatingAddU32 (a b : ℕ) : ℕ := min (2 ^ 32 - 1) (a + b)

/-- `estimate_input_tokens`. -/
def estimateInputTokens (req : ChatRequest) : ℕ :=
  let textTokens := (req.messages.map (·.textBytes)).sum / 4 % 2 ^ 32
  let imageTokens :=
    (req.messages.flatMap (·.images)).foldl
      (fun acc detail => saturatingAddU32 acc (imageTokensForDetail detail)) 0
  max 1 (saturatingAddU32 textTokens imageTokens)

/-- Why `estimated_atomic_cost` refuses. -/
inductive EstimateError
  | nonFinite
  | negative (usdc : ℚ)
  | exceedsU64 (usdc : ℚ)

/-- `estimated_atomic_cost`: the request's own shape is estimated, whatever the quote was
estimated from. -/
def estimatedAtomicCost (pct : ℕ) (req : ChatRequest) (model : ModelRegistration)
    (A : FloatArith := .exact) : Except EstimateError ℕ :=
  let cost :=
    estimateCost pct model (estimateInputTokens req) (completionTokenCeiling req.maxTokens model) A
  match cost.total.value A with
  | none => .error .nonFinite
  | some x =>
    if x < 0 then .error (.negative x)
    else if estimatedCostMaxUsdc < x then .error (.exceedsU64 x)
    else .ok (A.toAtomic x u64Max)

/-! ## The conversions agree -/

/-- What the checked conversion accepts is the text's own digits. -/
theorem eq_decimal_of_checked {t : UsdcText} {n : ℕ} (h : usdcAtomicAmountChecked t = some n) :
    t = .decimal false n ∧ n ≤ u64Max := by
  cases t with
  | nonFinite => simp [usdcAtomicAmountChecked] at h
  | decimal negative micro =>
    cases negative with
    | true => simp [usdcAtomicAmountChecked] at h
    | false =>
      simp only [usdcAtomicAmountChecked, Option.ite_none_right_eq_some, Option.some.injEq] at h
      have hmicro : micro = n := h.2
      rw [← hmicro]
      exact ⟨rfl, h.1⟩

/-- The `f64` conversion of a printed amount up to `2 ^ 44` atomic units: its digits, or one unit
less. -/
theorem usdcF64ToAtomicSafe_near {n : ℕ} (hn : n ≤ 2 ^ 44) :
    ∃ r, usdcF64ToAtomicSafe ((UsdcText.decimal false n).value .binary64) .binary64 = some r ∧
      r ≤ n ∧ n ≤ r + 1 := by
  rcases Nat.eq_zero_or_pos n with rfl | hpos
  · exact ⟨0, by decide +kernel, le_rfl, by omega⟩
  have hone : (1 : ℚ) ≤ n := by exact_mod_cast hpos
  have hbound : (n : ℚ) ≤ 2 ^ 44 := by exact_mod_cast hn
  -- the parsed number, and the product
  obtain ⟨x, hx, herr⟩ := (normal_of_bounds (by norm_num; linarith) (by norm_num; linarith)).elim
    (roundBinary64_near (q := (n : ℚ) / 1000000))
  have hxn := abs_le.mp herr
  obtain ⟨y, hy, herr⟩ := (normal_of_bounds (by norm_num; linarith) (by norm_num; linarith)).elim
    (roundBinary64_near (q := x * 1000000))
  have hyn := abs_le.mp herr
  have hclose : (n : ℚ) - 1 < y ∧ y < n + 1 := by
    constructor <;> linarith
  have hfloor : (n : ℤ) - 1 ≤ ⌊y⌋ ∧ ⌊y⌋ ≤ n := by
    constructor
    · apply Int.le_floor.mpr
      push_cast
      linarith
    · apply Int.lt_add_one_iff.mp
      apply Int.floor_lt.mpr
      push_cast
      linarith
  refine ⟨⌊y⌋.toNat, ?_, by omega, by omega⟩
  have hvalue : (UsdcText.decimal false n).value .binary64 = some x := hx
  have hrange : 0 ≤ x ∧ x ≤ estimatedCostMaxUsdc := by
    constructor
    · linarith
    · norm_num [estimatedCostMaxUsdc, u64Max]
      linarith
  have hproduct : FloatArith.binary64.toAtomic x u64Max = ⌊y⌋.toNat := by
    show (roundBinary64 (x * 1000000)).elim u64Max (fun z => ⌊z⌋.toNat) = _
    rw [hy]
    rfl
  rw [hvalue]
  show (if 0 ≤ x ∧ x ≤ (estimatedCostMaxUsdc : ℚ) then _ else none) = _
  rw [if_pos hrange, hproduct]

example :
    usdcF64ToAtomicSafe ((UsdcText.decimal false 249).value .binary64) .binary64 = some 248 := by
  decide +kernel

/-- The estimate of a request is the conversion that the spend row makes of the same text, in any
arithmetic. -/
theorem estimatedAtomicCost_toOption (pct : ℕ) (req : ChatRequest) (model : ModelRegistration)
    (A : FloatArith) :
    (estimatedAtomicCost pct req model A).toOption =
      usdcF64ToAtomicSafe ((estimateCost pct model (estimateInputTokens req)
        (completionTokenCeiling req.maxTokens model) A).total.value A) A := by
  unfold estimatedAtomicCost usdcF64ToAtomicSafe
  dsimp only
  cases (estimateCost pct model (estimateInputTokens req)
    (completionTokenCeiling req.maxTokens model) A).total.value A with
  | none => rfl
  | some x =>
    by_cases hneg : x < 0
    · have hnot : ¬ (0 ≤ x ∧ x ≤ (estimatedCostMaxUsdc : ℚ)) := fun h => not_lt.mpr h.1 hneg
      simp [hneg, hnot, Except.toOption]
    · by_cases hover : (estimatedCostMaxUsdc : ℚ) < x
      · have hnot : ¬ (0 ≤ x ∧ x ≤ (estimatedCostMaxUsdc : ℚ)) := fun h => not_lt.mpr h.2 hover
        simp [hneg, hover, hnot, Except.toOption]
      · have hrange : 0 ≤ x ∧ x ≤ (estimatedCostMaxUsdc : ℚ) := ⟨not_lt.mp hneg, not_lt.mp hover⟩
        simp [hneg, hover, hrange, Except.toOption]

/-! ## Truncated and rounded prices -/

@[simp] theorem platformFeeMultiplier_exact (pct : ℕ) :
    platformFeeMultiplier pct = some (1 + (pct : ℚ) / 100) := rfl

/-- A breakdown whose total converts has a provider cost that converts too, within the total. -/
theorem providerCost_checked {pct inputTokens outputTokens n : ℕ} {model : ModelRegistration}
    (h : usdcAtomicAmountChecked (estimateCost pct model inputTokens outputTokens).total
      = some n) :
    ∃ m, usdcAtomicAmountChecked (estimateCost pct model inputTokens outputTokens).providerCost
      = some m ∧ m ≤ n := by
  have htext := eq_decimal_of_checked h
  unfold estimateCost at htext ⊢
  dsimp only at htext ⊢
  rw [platformFeeMultiplier_exact] at htext
  cases hcost : providerCostUsdc model inputTokens outputTokens with
  | none =>
    rw [hcost] at htext
    exact absurd htext.1 (by simp [FloatArith.mul, formatUsdc])
  | some x =>
    rw [hcost] at htext
    simp only [FloatArith.exact_mul, formatUsdc, UsdcText.decimal.injEq, decide_eq_false_iff_not,
      not_lt] at htext
    have hfactor : (1 : ℚ) ≤ 1 + pct / 100 := le_add_of_nonneg_right (by positivity)
    have hx : 0 ≤ x := nonneg_of_mul_nonneg_left htext.1.1 (lt_of_lt_of_le one_pos hfactor)
    -- the fee only adds
    have hle : |x| * 1000000 ≤ |x * (1 + pct / 100)| * 1000000 := by
      rw [abs_of_nonneg hx, abs_of_nonneg htext.1.1]
      have hgrows : x ≤ x * (1 + pct / 100) := le_mul_of_one_le_right hx hfactor
      linarith
    have hround : roundHalfEven (|x| * 1000000) ≤ n := by
      rw [← htext.1.2]
      exact roundHalfEven_mono (by positivity) hle
    refine ⟨roundHalfEven (|x| * 1000000), ?_, hround⟩
    have hneg : decide (x < 0) = false := decide_eq_false (not_lt.mpr hx)
    simp only [formatUsdc, hneg, usdcAtomicAmountChecked]
    rw [if_pos (le_trans hround htext.2)]

/-- The truncated price of some tokens is at most their price. -/
theorem truncated_le {price : ℚ} (hprice : 0 ≤ price) (tokens : ℕ) :
    ((tokens * ⌊price * 1000000⌋.toNat / 1000000 : ℕ) : ℚ) ≤ tokens * price := by
  have hfloor : ((⌊price * 1000000⌋.toNat : ℕ) : ℚ) ≤ price * 1000000 := by
    have hnonneg : 0 ≤ ⌊price * 1000000⌋ := Int.floor_nonneg.mpr (by positivity)
    have hcast : ((⌊price * 1000000⌋.toNat : ℕ) : ℚ) = (⌊price * 1000000⌋ : ℤ) := by
      exact_mod_cast Int.toNat_of_nonneg hnonneg
    rw [hcast]
    exact Int.floor_le _
  calc ((tokens * ⌊price * 1000000⌋.toNat / 1000000 : ℕ) : ℚ)
      ≤ ((tokens * ⌊price * 1000000⌋.toNat : ℕ) : ℚ) / (1000000 : ℕ) := Nat.cast_div_le
    _ = tokens * (⌊price * 1000000⌋.toNat : ℕ) / 1000000 := by push_cast; ring
    _ ≤ tokens * (price * 1000000) / 1000000 := by gcongr
    _ = tokens * price := by ring

/-- The registry's total for some tokens in atomic units, before it is printed. -/
def exactAtomic (pct : ℕ) (input output : ℚ) (promptTokens completionTokens : ℕ) : ℚ :=
  (promptTokens * input + completionTokens * output) * (100 + pct) / 100

theorem exactAtomic_nonneg {input output : ℚ} (hin : 0 ≤ input) (hout : 0 ≤ output)
    (pct promptTokens completionTokens : ℕ) :
    0 ≤ exactAtomic pct input output promptTokens completionTokens := by
  unfold exactAtomic
  positivity

/-- More tokens never cost less. -/
theorem exactAtomic_mono {input output : ℚ} (hin : 0 ≤ input) (hout : 0 ≤ output) (pct : ℕ)
    {prompt prompt' completion completion' : ℕ} (hprompt : prompt ≤ prompt')
    (hcompletion : completion ≤ completion') :
    exactAtomic pct input output prompt completion
      ≤ exactAtomic pct input output prompt' completion' := by
  unfold exactAtomic
  have hp : (prompt : ℚ) ≤ prompt' := by exact_mod_cast hprompt
  have hc : (completion : ℚ) ≤ completion' := by exact_mod_cast hcompletion
  gcongr

/-- What the registry prints for finite prices that are not negative. -/
theorem estimateCost_total {pct promptTokens completionTokens : ℕ} {model : ModelRegistration}
    {input output : ℚ} (hinput : model.inputCostPerMillion = some input)
    (houtput : model.outputCostPerMillion = some output) (hin : 0 ≤ input) (hout : 0 ≤ output) :
    (estimateCost pct model promptTokens completionTokens).total
      = .decimal false
          (roundHalfEven (exactAtomic pct input output promptTokens completionTokens)) := by
  have hvalue : (promptTokens / 1000000 * input + completionTokens / 1000000 * output)
      * (1 + pct / 100) * 1000000
      = exactAtomic pct input output promptTokens completionTokens := by
    unfold exactAtomic
    ring
  have hnonneg : 0 ≤ (promptTokens / 1000000 * input + completionTokens / 1000000 * output)
      * (1 + (pct : ℚ) / 100) := by positivity
  have htotal : FloatArith.exact.mul (providerCostUsdc model promptTokens completionTokens)
      (platformFeeMultiplier pct) = some ((promptTokens / 1000000 * input +
        completionTokens / 1000000 * output) * (1 + pct / 100)) := by
    unfold providerCostUsdc
    rw [hinput, houtput]
    rfl
  simp only [estimateCost, htotal, formatUsdc, abs_of_nonneg hnonneg, hvalue]
  rw [decide_eq_false (not_lt.mpr hnonneg)]

/-- The integer price of a usage exists only for prices the registry would accept, and never
exceeds the printed one. -/
theorem computeActualAtomicCost_le_printed {pct promptTokens completionTokens n : ℕ}
    {model : ModelRegistration}
    (hn : computeActualAtomicCost pct promptTokens completionTokens model = some n) :
    ∃ printed,
      (estimateCost pct model promptTokens completionTokens).total = .decimal false printed
        ∧ n ≤ printed := by
  unfold computeActualAtomicCost at hn
  simp only [Option.bind_eq_bind, Option.bind_eq_some_iff] at hn
  obtain ⟨input, hinput, output, houtput, hn⟩ := hn
  split_ifs at hn with hneg hfits
  have hin : 0 ≤ input := by
    by_contra h
    exact hneg (Or.inl (not_le.mp h))
  have hout : 0 ≤ output := by
    by_contra h
    exact hneg (Or.inr (not_le.mp h))
  -- what is truncated three times is at most the exact cost
  have hle : (n : ℚ) ≤ exactAtomic pct input output promptTokens completionTokens := by
    unfold applyPlatformFeeAtomic at hn
    dsimp only at hn
    split_ifs at hn
    have hn' := (Option.some.inj hn).symm
    rw [FloatArith.exact_toAtomic, FloatArith.exact_toAtomic] at hn'
    have hprompt := truncated_le hin promptTokens
    have hcompletion := truncated_le hout completionTokens
    rw [hn']
    unfold exactAtomic
    refine le_trans Nat.cast_div_le ?_
    push_cast at hprompt hcompletion ⊢
    gcongr
  exact ⟨_, estimateCost_total hinput houtput hin hout, le_roundHalfEven hle⟩

end Solvela.Chat

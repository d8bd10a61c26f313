import Solvela.Chat.Cost

/-!
# What is reserved against what is billed

A request reserves the registry's total for its estimated input tokens and its completion
ceiling. After the call the provider's usage is capped, the completion by the same ceiling and
the prompt by the model's context window, and priced again: as text for the spend row, in
integers for the escrow claim.

The arithmetic is exact here. In it the two prices of a usage are monotone in both counts, so the
reservation bounds the bill as far as the estimate bounds the capped prompt. The estimate reads the
messages only, and neither the tools of a request nor the provider's count are bounded by it.
-/

namespace Solvela.Chat

open Solvela.ChannelLedger Solvela.Channel Solvela.Lib
open Solvela.Protocol (Usage)

/-- A registry entry as `from_toml` loads it: both prices finite and not negative. -/
structure RegistryModel where
  info : ModelRegistration
  input : ℚ
  output : ℚ
  input_eq : info.inputCostPerMillion = some input
  output_eq : info.outputCostPerMillion = some output
  input_nonneg : 0 ≤ input
  output_nonneg : 0 ≤ output

namespace RegistryModel

variable (m : RegistryModel)

/-- The exact total of some tokens at the entry's prices, in atomic units. -/
def exact (pct promptTokens completionTokens : ℕ) : ℚ :=
  exactAtomic pct m.input m.output promptTokens completionTokens

/-- The printed total, in atomic units. -/
theorem estimateCost_eq (pct promptTokens completionTokens : ℕ) :
    (estimateCost pct m.info promptTokens completionTokens).total
      = .decimal false (roundHalfEven (m.exact pct promptTokens completionTokens)) :=
  estimateCost_total m.input_eq m.output_eq m.input_nonneg m.output_nonneg

theorem round_mono (pct : ℕ) {prompt prompt' completion completion' : ℕ}
    (hprompt : prompt ≤ prompt') (hcompletion : completion ≤ completion') :
    roundHalfEven (m.exact pct prompt completion)
      ≤ roundHalfEven (m.exact pct prompt' completion') := by
  apply roundHalfEven_mono
  · exact exactAtomic_nonneg m.input_nonneg m.output_nonneg pct prompt completion
  · exact exactAtomic_mono m.input_nonneg m.output_nonneg pct hprompt hcompletion

end RegistryModel

/-- What `check_budget` reserves: the total of the estimate. -/
def reservedTotal (pct : ℕ) (req : ChatRequest) (model : ModelRegistration) : UsdcText :=
  (estimateCost pct model (estimateInputTokens req)
    (completionTokenCeiling req.maxTokens model)).total

/-- What the spend row prices: the capped usage, through the registry. -/
def billedTotal (pct : ℕ) (usage : Usage) (req : ChatRequest) (model : ModelRegistration) :
    UsdcText :=
  let capped := capUsageToRequestLimits usage req.maxTokens model
  (estimateCost pct model capped.promptTokens capped.completionTokens).total

/-- What the escrow claim prices: the capped usage, in integers. -/
def billedAtomic (pct : ℕ) (usage : Usage) (req : ChatRequest) (model : ModelRegistration) :
    Option ℕ :=
  let capped := capUsageToRequestLimits usage req.maxTokens model
  computeActualAtomicCost pct capped.promptTokens capped.completionTokens model

/-- Whatever usage the provider reports, both prices of it stay within the reservation. -/
def BilledWithinReserved (pct : ℕ) (req : ChatRequest) (model : ModelRegistration) : Prop :=
  ∀ reserved, reservedTotal pct req model = .decimal false reserved →
    ∀ usage : Usage,
      (∀ billed, billedTotal pct usage req model = .decimal false billed → billed ≤ reserved) ∧
      (∀ billed, billedAtomic pct usage req model = some billed → billed ≤ reserved)

/-- The estimate covers the context window, or the tokens it misses do not move the printed
total. -/
def EstimateCovers (pct : ℕ) (req : ChatRequest) (m : RegistryModel) : Prop :=
  let ceiling := completionTokenCeiling req.maxTokens m.info
  m.info.contextWindow ≤ estimateInputTokens req ∨
    roundHalfEven (m.exact pct m.info.contextWindow ceiling)
      = roundHalfEven (m.exact pct (estimateInputTokens req) ceiling)

/-- The printed price of a usage is at most the one of a full context window. -/
theorem billedTotal_le {pct billed : ℕ} {usage : Usage} {req : ChatRequest} (m : RegistryModel)
    {prompt : ℕ} (hprompt : min usage.promptTokens m.info.contextWindow ≤ prompt)
    (h : billedTotal pct usage req m.info = .decimal false billed) :
    billed ≤ roundHalfEven
      (m.exact pct prompt (completionTokenCeiling req.maxTokens m.info)) := by
  unfold billedTotal at h
  dsimp only at h
  rw [m.estimateCost_eq, UsdcText.decimal.injEq] at h
  rw [← h.2]
  exact m.round_mono pct hprompt (min_le_right _ _)

/-- The integer price of a usage is at most its printed one. -/
theorem billedAtomic_le {pct billed : ℕ} {usage : Usage} {req : ChatRequest}
    {model : ModelRegistration} (h : billedAtomic pct usage req model = some billed) :
    ∃ printed, billedTotal pct usage req model = .decimal false printed ∧ billed ≤ printed :=
  computeActualAtomicCost_le_printed h

/-- A bound on the printed price is one on both prices. -/
theorem billedWithinReserved_of_total {pct : ℕ} {req : ChatRequest} {model : ModelRegistration}
    (h : ∀ reserved, reservedTotal pct req model = .decimal false reserved → ∀ usage billed,
      billedTotal pct usage req model = .decimal false billed → billed ≤ reserved) :
    BilledWithinReserved pct req model := by
  intro reserved hreserved usage
  constructor
  · exact h reserved hreserved usage
  · intro billed hbilled
    obtain ⟨printed, hprinted, hle⟩ := billedAtomic_le hbilled
    have hbound := h reserved hreserved usage printed hprinted
    omega

/-- The reservation bounds the bill of every usage exactly when the estimate covers what the
prompt is capped to. -/
theorem billed_within_reserved_iff (pct : ℕ) (req : ChatRequest) (m : RegistryModel) :
    BilledWithinReserved pct req m.info ↔ EstimateCovers pct req m := by
  constructor
  · intro h
    by_cases hwindow : m.info.contextWindow ≤ estimateInputTokens req
    · exact Or.inl hwindow
    · right
      -- the provider reports a full window and the whole ceiling
      set ceiling := completionTokenCeiling req.maxTokens m.info
      have hfull : billedTotal pct ⟨m.info.contextWindow, ceiling, 0⟩ req m.info
          = .decimal false (roundHalfEven (m.exact pct m.info.contextWindow ceiling)) := by
        unfold billedTotal capUsageToRequestLimits
        dsimp only
        rw [min_self, min_self]
        exact m.estimateCost_eq pct _ _
      have hle := (h _ (m.estimateCost_eq pct _ _) _).1 _ hfull
      have hge := m.round_mono pct (le_of_not_ge hwindow) (le_refl ceiling)
      exact le_antisymm hle hge
  · intro hcovers
    apply billedWithinReserved_of_total
    intro reserved hreserved usage billed hbilled
    unfold reservedTotal at hreserved
    rw [m.estimateCost_eq, UsdcText.decimal.injEq] at hreserved
    rw [← hreserved.2]
    rcases hcovers with hwindow | hsame
    · exact billedTotal_le m (le_trans (min_le_right _ _) hwindow) hbilled
    · rw [← hsame]
      exact billedTotal_le m (min_le_right _ _) hbilled

/-- `openai/gpt-4o`, as the configuration prices it. -/
def gpt4o : RegistryModel where
  info := ⟨some (5 / 2), some 10, 128000, none⟩
  input := 5 / 2
  output := 10
  input_eq := rfl
  output_eq := rfl
  input_nonneg := by norm_num
  output_nonneg := by norm_num

/-- Forty bytes of text estimate ten prompt tokens. With the tool definitions that came with
them the provider counts five thousand, and the bill is thirteen times the reservation. -/
theorem tools_billed_above_reserved :
    ¬ BilledWithinReserved 5 ⟨[⟨40, []⟩], some 100⟩ gpt4o.info := by
  intro h
  have hreserved : reservedTotal 5 ⟨[⟨40, []⟩], some 100⟩ gpt4o.info = .decimal false 1076 := by
    decide +kernel
  have hbilled :
      billedTotal 5 ⟨5000, 100, 5100⟩ ⟨[⟨40, []⟩], some 100⟩ gpt4o.info
        = .decimal false 14175 := by
    decide +kernel
  have hle := (h _ hreserved ⟨5000, 100, 5100⟩).1 _ hbilled
  omega

end Solvela.Chat

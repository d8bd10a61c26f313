import Solvela.Chat.UpperBound

/-!
# The completion limit a provider is given

The quote, the reservation and the billing cap of a request all use `completionTokenCeiling`.
The limit in the body that goes upstream is made elsewhere: the route clamps `max_tokens` to the
model's declared output or to `MAX_TOKENS_LIMIT`, an adapter writes the clamped value or its own
default, and the native relay forwards the bytes it received.

A limit is an `Option`: nothing is sent and nothing declared is no limit at all.
-/

namespace Solvela.Chat

open Solvela.Channel

/-! ## From the request to the bodies -/

/-- The fields of `ChatRequest` that the adapters turn into a generation budget. -/
structure SamplingRequest where
  maxTokens : Option ℕ
  temperature : Option ℚ
  topP : Option ℚ

/-- `MAX_TOKENS_LIMIT`. -/
def maxTokensLimit : ℕ := 128000

/-- The clamp of `chat_completions_inner`, before the quote. -/
def clampMaxTokens (req : SamplingRequest) (model : ModelRegistration) : SamplingRequest :=
  match req.maxTokens with
  | none => req
  | some requested =>
    let modelLimit := model.maxOutputTokens.getD maxTokensLimit
    let effectiveLimit := min modelLimit maxTokensLimit
    if effectiveLimit < requested then { req with maxTokens := some effectiveLimit } else req

/-- The provider adapters. -/
inductive Adapter
  | openai
  | xai
  | deepseek
  | nvidia
  | anthropic
  | google
deriving DecidableEq

/-- `max_tokens` of the pass-through body, left out when absent. -/
def buildChatBody (req : SamplingRequest) : Option ℕ := req.maxTokens

/-- `max_tokens` of `to_anthropic_request`, which the upstream requires. -/
def toAnthropicRequest (req : SamplingRequest) : ℕ := req.maxTokens.getD 4096

/-- `GeminiGenerationConfig`. -/
structure GeminiGenerationConfig where
  maxOutputTokens : Option ℕ
  temperature : Option ℚ
  topP : Option ℚ

/-- `generation_config` of `to_gemini_request`. -/
def toGeminiRequest (req : SamplingRequest) : Option GeminiGenerationConfig :=
  if req.maxTokens.isSome || req.temperature.isSome || req.topP.isSome then
    some
      { maxOutputTokens := req.maxTokens, temperature := req.temperature, topP := req.topP }
  else none

/-- The completion limit in the body an adapter sends. -/
def Adapter.sends (adapter : Adapter) (req : SamplingRequest) : Option ℕ :=
  match adapter with
  | .openai | .xai | .deepseek | .nvidia => buildChatBody req
  | .anthropic => some (toAnthropicRequest req)
  | .google => (toGeminiRequest req).bind (·.maxOutputTokens)

/-- The body of `/v1/messages`, as far as the relay and the skeleton read it. -/
structure MessagesBody where
  model : String
  maxTokens : Option ℕ
  temperature : Option ℚ
  topP : Option ℚ

/-- `anthropic_request_to_native_skeleton`. -/
def MessagesBody.skeleton (body : MessagesBody) : SamplingRequest where
  maxTokens := body.maxTokens
  temperature := body.temperature
  topP := body.topP

/-- `rewrite_relayed_model`: only the model changes. -/
def rewriteRelayedModel (body : MessagesBody) (upstreamModelId : String) : MessagesBody :=
  { body with model := upstreamModelId }

/-- How a request reaches its provider: through an adapter, for the quoted model or for a model
of its fallback chain, or as the native relay's body. -/
inductive Dispatch
  | adapter (via : Adapter) (req : SamplingRequest) (served : ModelRegistration)
  | nativeRelay (body : MessagesBody) (upstreamModelId : String)

/-- `max_tokens` of the request, as it was received. -/
def Dispatch.requested : Dispatch → Option ℕ
  | .adapter _ req _ => req.maxTokens
  | .nativeRelay body _ => body.skeleton.maxTokens

/-- `max_tokens` of the request, as pricing reads it: after the clamp. -/
def Dispatch.priced (quoted : ModelRegistration) : Dispatch → Option ℕ
  | .adapter _ req _ => (clampMaxTokens req quoted).maxTokens
  | .nativeRelay body _ => (clampMaxTokens body.skeleton quoted).maxTokens

/-- The completion limit the provider is given: what the body says, or else what the model it
runs declares. -/
def Dispatch.upstreamLimit (quoted : ModelRegistration) : Dispatch → Option ℕ
  | .adapter via req served =>
    (via.sends (clampMaxTokens req quoted)).or served.maxOutputTokens
  | .nativeRelay body upstreamModelId =>
    (rewriteRelayedModel body upstreamModelId).maxTokens.or quoted.maxOutputTokens

/-- The provider has a limit, and it is within what was priced. -/
def Dispatch.WithinPriced (quoted : ModelRegistration) (d : Dispatch) : Prop :=
  ∃ limit, d.upstreamLimit quoted = some limit ∧
    limit ≤ completionTokenCeiling (d.priced quoted) quoted

/-! ## The ceiling -/

/-- `limit` is at most every bound that is there. -/
def FitsDeclared (model : ModelRegistration) (limit : ℕ) : Prop :=
  limit ≤ defaultCompletionTokensCap ∧ ∀ declared, model.maxOutputTokens = some declared →
    limit ≤ declared

/-- The ceiling is the tightest bound that is there, and never below one. -/
theorem le_completionTokenCeiling_iff {reqMaxTokens : Option ℕ} {model : ModelRegistration}
    {limit : ℕ} :
    limit ≤ completionTokenCeiling reqMaxTokens model ↔
      limit ≤ 1 ∨ FitsDeclared model limit ∧ ∀ m, reqMaxTokens = some m → limit ≤ m := by
  unfold completionTokenCeiling FitsDeclared
  cases reqMaxTokens with
  | none => cases model.maxOutputTokens <;> simp
  | some m =>
    cases model.maxOutputTokens <;> simp
    omega

/-- What the clamp leaves of a value that was there. -/
theorem clampMaxTokens_some {req : SamplingRequest} {model : ModelRegistration} {m : ℕ}
    (h : req.maxTokens = some m) :
    (clampMaxTokens req model).maxTokens
      = some (min m (min (model.maxOutputTokens.getD maxTokensLimit) maxTokensLimit)) := by
  unfold clampMaxTokens
  rw [h]
  dsimp only
  split
  · next hlt => simp only [min_eq_right (le_of_lt hlt)]
  · next hle => rw [h, min_eq_left (not_lt.mp hle)]

theorem clampMaxTokens_none {req : SamplingRequest} {model : ModelRegistration}
    (h : req.maxTokens = none) : clampMaxTokens req model = req := by
  unfold clampMaxTokens
  rw [h]

/-- The clamp does not change what is priced. -/
theorem completionTokenCeiling_clamp (req : SamplingRequest) (model : ModelRegistration) :
    completionTokenCeiling (clampMaxTokens req model).maxTokens model
      = completionTokenCeiling req.maxTokens model := by
  cases h : req.maxTokens with
  | none => rw [clampMaxTokens_none h, h]
  | some m =>
    rw [clampMaxTokens_some h]
    unfold completionTokenCeiling maxTokensLimit defaultCompletionTokensCap
    cases model.maxOutputTokens <;> simp <;> omega

/-- Every adapter sends a value that is there. -/
theorem Adapter.sends_some (adapter : Adapter) {req : SamplingRequest} {m : ℕ}
    (h : req.maxTokens = some m) : adapter.sends req = some m := by
  cases adapter <;> simp [Adapter.sends, buildChatBody, toAnthropicRequest, toGeminiRequest, h]

/-- Without one only the Anthropic adapter sends a limit. -/
theorem Adapter.sends_none (adapter : Adapter) {req : SamplingRequest}
    (h : req.maxTokens = none) :
    adapter.sends req = if adapter = .anthropic then some 4096 else none := by
  cases adapter with
  | google =>
    have hconfig : ∀ config, toGeminiRequest req = some config →
        config.maxOutputTokens = none := by
      intro config hsome
      unfold toGeminiRequest at hsome
      split_ifs at hsome
      rw [← Option.some.inj hsome]
      exact h
    show (toGeminiRequest req).bind (·.maxOutputTokens) = none
    cases hreq : toGeminiRequest req with
    | none => rfl
    | some config => exact hconfig config hreq
  | _ => simp [Adapter.sends, buildChatBody, toAnthropicRequest, h]

/-! ## When the limit is within what was priced -/

/-- A limit no request lowered, against the quoted model alone. -/
def PricedAlone (quoted : ModelRegistration) (limit : ℕ) : Prop :=
  limit ≤ 1 ∨ FitsDeclared quoted limit

/-- When the limit of a dispatch is within the ceiling. A requested value that an adapter sends
was clamped to the declared output, so one bound of the default cap is enough; the relay sends
it as it came, so it has to fit both. Without a requested value the adapter's default, or the
output declared for the model that is run, has to fit. -/
def Dispatch.Covered (quoted : ModelRegistration) (d : Dispatch) : Prop :=
  match d, d.requested with
  | .adapter _ _ _, some m =>
    m ≤ defaultCompletionTokensCap ∨
      ∃ declared, quoted.maxOutputTokens = some declared ∧ declared ≤ defaultCompletionTokensCap
  | .nativeRelay _ _, some m => PricedAlone quoted m
  | .adapter .anthropic _ _, none => PricedAlone quoted 4096
  | .adapter _ _ served, none =>
    ∃ declared, served.maxOutputTokens = some declared ∧ PricedAlone quoted declared
  | .nativeRelay _ _, none =>
    ∃ declared, quoted.maxOutputTokens = some declared ∧ declared ≤ defaultCompletionTokensCap

theorem le_ceiling_none {quoted : ModelRegistration} {limit : ℕ} :
    limit ≤ completionTokenCeiling none quoted ↔ PricedAlone quoted limit := by
  rw [le_completionTokenCeiling_iff]
  simp [PricedAlone]

/-- A limit the body states. -/
theorem withinPriced_of_limit {quoted : ModelRegistration} {d : Dispatch} {limit : ℕ}
    (h : d.upstreamLimit quoted = some limit) :
    d.WithinPriced quoted ↔ limit ≤ completionTokenCeiling (d.priced quoted) quoted := by
  unfold Dispatch.WithinPriced
  rw [h]
  simp

/-- Through an adapter, with a requested value. -/
theorem adapter_some_iff {quoted served : ModelRegistration} {adapter : Adapter}
    {req : SamplingRequest} {m : ℕ} (h : req.maxTokens = some m) :
    (Dispatch.adapter adapter req served).WithinPriced quoted ↔
      m ≤ defaultCompletionTokensCap ∨ ∃ declared, quoted.maxOutputTokens = some declared ∧
        declared ≤ defaultCompletionTokensCap := by
  have hclamp : (clampMaxTokens req quoted).maxTokens
      = some (min m (min (quoted.maxOutputTokens.getD maxTokensLimit) maxTokensLimit)) :=
    clampMaxTokens_some h
  have hlimit : (Dispatch.adapter adapter req served).upstreamLimit quoted
      = some (min m (min (quoted.maxOutputTokens.getD maxTokensLimit) maxTokensLimit)) := by
    show (adapter.sends (clampMaxTokens req quoted)).or served.maxOutputTokens = _
    rw [adapter.sends_some hclamp]
    rfl
  rw [withinPriced_of_limit hlimit]
  show _ ≤ completionTokenCeiling (clampMaxTokens req quoted).maxTokens quoted ↔ _
  rw [completionTokenCeiling_clamp, h, le_completionTokenCeiling_iff]
  unfold FitsDeclared maxTokensLimit defaultCompletionTokensCap
  cases quoted.maxOutputTokens with
  | none => simp; omega
  | some declared => simp; omega

/-- Through an adapter, without one. -/
theorem adapter_none_iff {quoted served : ModelRegistration} {adapter : Adapter}
    {req : SamplingRequest} (h : req.maxTokens = none) :
    (Dispatch.adapter adapter req served).WithinPriced quoted ↔
      if adapter = .anthropic then PricedAlone quoted 4096
      else ∃ declared, served.maxOutputTokens = some declared ∧ PricedAlone quoted declared := by
  have hpriced : (Dispatch.adapter adapter req served).priced quoted = none := by
    show (clampMaxTokens req quoted).maxTokens = none
    rw [clampMaxTokens_none h, h]
  have hlimit : (Dispatch.adapter adapter req served).upstreamLimit quoted
      = if adapter = .anthropic then some 4096 else served.maxOutputTokens := by
    show (adapter.sends (clampMaxTokens req quoted)).or served.maxOutputTokens = _
    rw [clampMaxTokens_none h, adapter.sends_none h]
    split <;> rfl
  unfold Dispatch.WithinPriced
  rw [hpriced, hlimit]
  split
  · simp [le_ceiling_none]
  · simp only [le_ceiling_none]

/-- Over the relay, with a requested value. -/
theorem nativeRelay_some_iff {quoted : ModelRegistration} {body : MessagesBody}
    {upstreamModelId : String} {m : ℕ} (h : body.maxTokens = some m) :
    (Dispatch.nativeRelay body upstreamModelId).WithinPriced quoted ↔ PricedAlone quoted m := by
  have hlimit : (Dispatch.nativeRelay body upstreamModelId).upstreamLimit quoted = some m := by
    simp [Dispatch.upstreamLimit, rewriteRelayedModel, h]
  rw [withinPriced_of_limit hlimit]
  show m ≤ completionTokenCeiling (clampMaxTokens body.skeleton quoted).maxTokens quoted ↔ _
  have hskeleton : body.skeleton.maxTokens = some m := h
  rw [completionTokenCeiling_clamp, hskeleton, le_completionTokenCeiling_iff]
  simp [PricedAlone]

/-- Over the relay, without one. -/
theorem nativeRelay_none_iff {quoted : ModelRegistration} {body : MessagesBody}
    {upstreamModelId : String} (h : body.maxTokens = none) :
    (Dispatch.nativeRelay body upstreamModelId).WithinPriced quoted ↔
      ∃ declared, quoted.maxOutputTokens = some declared ∧
        declared ≤ defaultCompletionTokensCap := by
  have hpriced : (Dispatch.nativeRelay body upstreamModelId).priced quoted = none := by
    show (clampMaxTokens body.skeleton quoted).maxTokens = none
    have hskeleton : body.skeleton.maxTokens = none := h
    rw [clampMaxTokens_none hskeleton, hskeleton]
  have hlimit : (Dispatch.nativeRelay body upstreamModelId).upstreamLimit quoted
      = quoted.maxOutputTokens := by
    simp [Dispatch.upstreamLimit, rewriteRelayedModel, h]
  unfold Dispatch.WithinPriced
  rw [hpriced, hlimit]
  simp only [le_ceiling_none]
  unfold PricedAlone FitsDeclared defaultCompletionTokensCap
  cases quoted.maxOutputTokens with
  | none => simp
  | some declared => simp; omega

/-- The limit a provider is given is within the priced ceiling exactly on the dispatches that
are covered. -/
theorem upstream_limit_within_priced_iff (quoted : ModelRegistration) (d : Dispatch) :
    d.WithinPriced quoted ↔ d.Covered quoted := by
  cases d with
  | adapter adapter req served =>
    unfold Dispatch.Covered Dispatch.requested
    cases h : req.maxTokens with
    | some m =>
      simp only [h]
      exact adapter_some_iff h
    | none =>
      have hiff := @adapter_none_iff quoted served adapter req h
      cases adapter <;> simpa [h] using hiff
  | nativeRelay body upstreamModelId =>
    unfold Dispatch.Covered Dispatch.requested
    cases h : body.maxTokens with
    | some m =>
      simp only [MessagesBody.skeleton, h]
      exact nativeRelay_some_iff h
    | none =>
      simp only [MessagesBody.skeleton, h]
      exact nativeRelay_none_iff h

/-- A request for 20000 tokens of a model that declares no output limit goes upstream as it is,
and 8192 of them are priced. -/
theorem large_request_above_priced :
    ¬ (Dispatch.adapter .openai ⟨some 20000, none, none⟩ gpt4o.info).WithinPriced gpt4o.info := by
  intro h
  obtain ⟨limit, hlimit, hle⟩ := h
  have hsent : (Dispatch.adapter .openai ⟨some 20000, none, none⟩ gpt4o.info).upstreamLimit
      gpt4o.info = some 20000 := rfl
  have hceiling : completionTokenCeiling
      ((Dispatch.adapter .openai ⟨some 20000, none, none⟩ gpt4o.info).priced gpt4o.info)
      gpt4o.info = 8192 := rfl
  rw [hsent] at hlimit
  have heq : limit = 20000 := (Option.some.inj hlimit).symm
  rw [heq, hceiling] at hle
  omega

end Solvela.Chat

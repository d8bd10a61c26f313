import Solvela.Chat.CompletionLimit
import Solvela.Messages.RelayReading
import Solvela.Providers.RequestTranslation

/-!
# The limits in the bodies that are sent

The generation budget that `Dispatch` follows through the gateway is found again in the bodies that
are made of the whole request:

* `upstreamLimit_anthropic` and `upstreamLimit_google`, in what the adapters translate;
* `priced_relayed` and `upstreamLimit_relayed`, in the skeleton of a native body and in what is read
  of its relay.
-/

namespace Solvela.Chat

open Solvela.Lib.Txn (except_bind_ok)
open Solvela.Messages (AnthropicMessagesRequest NumberReader anthropicRequestToNativeSkeleton
  request_relayed requestOfJson rewriteRelayedModel_obj)
open Solvela.Protocol (F32)
open Solvela.Signer (JsonValue)

variable (value : F32 → ℚ)

/-! ## The adapters -/

/-- The generation budget of a chat request, its `f32`s read by `value`. -/
def samplingOf (req : Protocol.ChatRequest) : SamplingRequest where
  maxTokens := req.maxTokens
  temperature := req.temperature.map value
  topP := req.topP.map value

/-- The request after the clamp. -/
def clampedRequest (req : Protocol.ChatRequest) (model : Channel.ModelRegistration) :
    Protocol.ChatRequest :=
  { req with maxTokens := (clampMaxTokens (samplingOf value req) model).maxTokens }

/-- The clamp of the budget is the budget of the clamped request. -/
theorem samplingOf_clampedRequest (req : Protocol.ChatRequest)
    (model : Channel.ModelRegistration) :
    samplingOf value (clampedRequest value req model) =
      clampMaxTokens (samplingOf value req) model := by
  unfold clampedRequest clampMaxTokens
  cases hmax : req.maxTokens with
  | none => simp [samplingOf, hmax]
  | some requested =>
    simp only [samplingOf, hmax]
    split <;> rfl

/-- What the Anthropic adapter sends of the budget is in the translated request. -/
theorem sends_anthropic {req : Protocol.ChatRequest} {sent : Providers.AnthropicRequest}
    (h : Providers.toAnthropicRequest req = .ok sent) :
    Adapter.anthropic.sends (samplingOf value req) = some sent.maxTokens := by
  rw [Providers.toAnthropicRequest, except_bind_ok] at h
  obtain ⟨system, -, h⟩ := h
  obtain ⟨_, -, h⟩ := except_bind_ok.1 h
  obtain ⟨messages, -, h⟩ := except_bind_ok.1 h
  cases h
  rfl

/-- Of Gemini's, with the configuration left out when nothing of the budget is there. -/
theorem sends_google {req : Protocol.ChatRequest} {sent : Providers.GeminiRequest}
    (h : Providers.toGeminiRequest req = .ok sent) :
    Adapter.google.sends (samplingOf value req) =
      sent.generationConfig.bind (·.maxOutputTokens) := by
  rw [Providers.toGeminiRequest, except_bind_ok] at h
  obtain ⟨system, -, h⟩ := h
  obtain ⟨contents, -, h⟩ := except_bind_ok.1 h
  cases h
  show (toGeminiRequest (samplingOf value req)).bind _ = _
  unfold toGeminiRequest samplingOf
  simp only [Option.isSome_map]
  split <;> rfl

/-- The adapter for Anthropic sends the limit that was followed. -/
theorem upstreamLimit_anthropic {quoted served : Channel.ModelRegistration}
    {req : Protocol.ChatRequest} {sent : Providers.AnthropicRequest}
    (h : Providers.toAnthropicRequest (clampedRequest value req quoted) = .ok sent) :
    (Dispatch.adapter .anthropic (samplingOf value req) served).upstreamLimit quoted =
      some sent.maxTokens := by
  have hsends := sends_anthropic value h
  rw [samplingOf_clampedRequest] at hsends
  show (Adapter.anthropic.sends (clampMaxTokens (samplingOf value req) quoted)).or
    served.maxOutputTokens = _
  rw [hsends, Option.some_or]

/-- So does the adapter for Gemini. -/
theorem upstreamLimit_google {quoted served : Channel.ModelRegistration}
    {req : Protocol.ChatRequest} {sent : Providers.GeminiRequest}
    (h : Providers.toGeminiRequest (clampedRequest value req quoted) = .ok sent) :
    (Dispatch.adapter .google (samplingOf value req) served).upstreamLimit quoted =
      (sent.generationConfig.bind (·.maxOutputTokens)).or served.maxOutputTokens := by
  have hsends := sends_google value h
  rw [samplingOf_clampedRequest] at hsends
  show (Adapter.google.sends (clampMaxTokens (samplingOf value req) quoted)).or
    served.maxOutputTokens = _
  rw [hsends]

/-! ## The relay -/

/-- The generation budget of a native body, and its model. -/
def messagesBodyOf (req : AnthropicMessagesRequest) : MessagesBody where
  model := req.model
  maxTokens := req.maxTokens
  temperature := req.temperature.map value
  topP := req.topP.map value

/-- What is priced of a relayed body is what the clamp leaves of its skeleton. -/
theorem priced_relayed (req : AnthropicMessagesRequest) (upstreamModelId : String)
    (quoted : Channel.ModelRegistration) :
    (Dispatch.nativeRelay (messagesBodyOf value req) upstreamModelId).priced quoted =
      (clampedRequest value (anthropicRequestToNativeSkeleton req) quoted).maxTokens := rfl

/-- The relay of a body is read with the limit and the model that the dispatch gives it. -/
theorem upstreamLimit_relayed {reader : NumberReader} {fields : List (String × JsonValue)}
    {relayed : JsonValue} {upstreamModelId : String} {req : AnthropicMessagesRequest}
    {quoted : Channel.ModelRegistration}
    (hread : requestOfJson reader (.obj fields) = some req)
    (h : Messages.rewriteRelayedModel reader (.obj fields) upstreamModelId = .ok relayed) :
    ∃ req', requestOfJson reader relayed = some req' ∧
      req'.model = (rewriteRelayedModel (messagesBodyOf value req) upstreamModelId).model ∧
      (Dispatch.nativeRelay (messagesBodyOf value req) upstreamModelId).upstreamLimit quoted =
        req'.maxTokens.or quoted.maxOutputTokens := by
  rw [rewriteRelayedModel_obj] at h
  split at h
  · cases h
    obtain ⟨req', hread', hmodel, hmaxTokens, -⟩ :=
      @request_relayed reader upstreamModelId fields req hread
    refine ⟨req', hread', hmodel, ?_⟩
    rw [hmaxTokens]
    rfl
  · cases h

end Solvela.Chat

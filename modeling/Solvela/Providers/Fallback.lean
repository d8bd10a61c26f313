import Solvela.Channel.Pricing
import Solvela.Lib.Prog
import Solvela.Providers.Health

/-!
# Provider fallback

Six functions go down a chain until one call succeeds: for the models of the built-in table, for
the models of a chain the client asked for, and for bare provider names, each in a buffered and a
streaming form. Every link is skipped, or its circuits are checked, the upstream is called and
the outcome is recorded.

A function is the program of its lock acquisitions and upstream calls, so the caller's future can
be dropped before any of them. The fast-failover timeout of free links is not a case of its own:
it makes the call an error.
-/

namespace Solvela.Providers

open Solvela.Channel Solvela.Lib

/-! ## The registry -/

/-- The fields of `ModelRegistration` that dispatch reads, with those that pricing reads. -/
structure RegistryEntry extends ModelRegistration where
  provider : String
  supportsVision : Bool

/-- `ModelRegistry::get`. -/
abbrev ModelRegistry := String → Option RegistryEntry

/-- The entry of a chain link: the canonical key first, then the bare id. -/
def ModelRegistry.ofLink (registry : ModelRegistry) (provider modelId : String) :
    Option RegistryEntry :=
  (registry (provider ++ "/" ++ modelId)).or (registry modelId)

/-- `candidate_rejects_images`. -/
def candidateRejectsImages (registry : ModelRegistry) (provider modelId : String) : Bool :=
  match registry.ofLink provider modelId with
  | some entry => !entry.supportsVision
  | none => true

/-! ## The loops -/

/-- `ProviderError`, by its text. -/
abbrev ProviderError := String

/-- What a loop does between two points where it can be dropped. -/
inductive Cmd
  | isAvailable (c : Circuit)
  | dispatch (provider model : String)
  | record (c : Circuit) (success : Bool)

/-- An upstream call returns an answer or an error. -/
abbrev Reply (α : Type) : Cmd → Type
  | .isAvailable _ => Bool
  | .dispatch _ _ => Except ProviderError α
  | .record _ _ => Unit

/-- `FallbackResult`. -/
structure FallbackResult (α : Type) where
  data : α
  originalModel : String
  actualModel : String
  actualProvider : String
  wasFallback : Bool

section Loops
variable {α : Type}

/-- `is_available` and `is_model_available`. -/
abbrev isAvailable (c : Circuit) : Prog Cmd (Reply α) Bool := Prog.ask (Cmd.isAvailable c)

/-- `chat_completion` and `chat_completion_stream` of a provider. -/
abbrev dispatch (provider model : String) : Prog Cmd (Reply α) (Except ProviderError α) :=
  Prog.ask (Cmd.dispatch provider model)

/-- `record_success` and `record_failure`, or the model part of their model forms. -/
abbrev record (c : Circuit) (success : Bool) : Prog Cmd (Reply α) Unit :=
  Prog.ask (Cmd.record c success)

/-- `record_model_success` and `record_model_failure`: the model first, then its provider. -/
def recordModel (provider model : String) (success : Bool) : Prog Cmd (Reply α) Unit := do
  record (modelKey provider model) success
  record (.provider provider) success

/-- A loop over models: `skip` is what it passes over without a check, `exhausted` its own error
and `wasFallback` how it tells a fallback. -/
def modelLoop (skip : String → String → Bool) (exhausted : ProviderError)
    (wasFallback : String → String → Bool) (original : String) :
    List (String × String) → Option ProviderError →
      Prog Cmd (Reply α) (Except ProviderError (FallbackResult α))
  | [], lastError => pure (.error (lastError.getD exhausted))
  | (provider, model) :: rest, lastError =>
    if skip provider model then
      modelLoop skip exhausted wasFallback original rest lastError
    else do
      let modelAvailable ← isAvailable (modelKey provider model)
      if !modelAvailable then
        modelLoop skip exhausted wasFallback original rest lastError
      else
        let providerAvailable ← isAvailable (.provider provider)
        if !providerAvailable then
          -- the model's probe slot, if the check above took it, stays taken
          modelLoop skip exhausted wasFallback original rest lastError
        else
          match ← dispatch provider model with
          | .ok response =>
            recordModel provider model true
            pure (.ok
              { data := response, originalModel := original, actualModel := model
                actualProvider := provider, wasFallback := wasFallback provider model })
          | .error e =>
            recordModel provider model false
            modelLoop skip exhausted wasFallback original rest (some e)

/-- A loop over provider names, for one model. -/
def providerLoop (skip : String → Bool) (exhausted : ProviderError) (model : String) :
    List String → Option ProviderError → Prog Cmd (Reply α) (Except ProviderError α)
  | [], lastError => pure (.error (lastError.getD exhausted))
  | name :: rest, lastError =>
    if skip name then providerLoop skip exhausted model rest lastError
    else do
      let available ← isAvailable (.provider name)
      if !available then providerLoop skip exhausted model rest lastError
      else
        match ← dispatch name model with
        | .ok response =>
          record (.provider name) true
          pure (.ok response)
        | .error e =>
          record (.provider name) false
          providerLoop skip exhausted model rest (some e)

/-- Recording an outcome sends nothing upstream. -/
theorem canSend_recordModel {β : Type} {provider model p m : String} {success : Bool}
    {next : Unit → Prog Cmd (Reply α) β} :
    Prog.CanSend (.dispatch p m) (recordModel provider model success >>= next) ↔
      Prog.CanSend (.dispatch p m) (next ()) := by
  show (Cmd.record _ _ = .dispatch p m ∨ ∃ _ : Unit, (Cmd.record _ _ = .dispatch p m ∨
    ∃ _ : Unit, Prog.CanSend (.dispatch p m) (next ()))) ↔ _
  simp

/-- Whatever link of the chain is not passed over, some outcomes make the loop call it. -/
theorem canSend_modelLoop {skip : String → String → Bool} {exhausted : ProviderError}
    {wasFallback : String → String → Bool} {original p m : String}
    {chain : List (String × String)} {lastError : Option ProviderError} :
    Prog.CanSend (.dispatch p m)
        (modelLoop (α := α) skip exhausted wasFallback original chain lastError) ↔
      (p, m) ∈ chain ∧ skip p m = false := by
  induction chain generalizing lastError with
  | nil =>
    show False ↔ _
    simp
  | cons link rest ih =>
    obtain ⟨provider, model⟩ := link
    unfold modelLoop
    cases hskip : skip provider model with
    | true =>
      rw [if_pos rfl, ih]
      constructor
      · intro h
        exact ⟨List.mem_cons_of_mem _ h.1, h.2⟩
      · intro h
        rcases List.mem_cons.mp h.1 with heq | hrest
        · obtain ⟨rfl, rfl⟩ := Prod.mk.inj heq
          exact absurd (hskip.symm.trans h.2) (by simp)
        · exact ⟨hrest, h.2⟩
    | false =>
      rw [if_neg (by simp)]
      constructor
      · rintro (h | ⟨modelAvailable, h⟩)
        · exact absurd h (by simp)
        · cases modelAvailable with
          | false =>
            obtain ⟨hrest, hkept⟩ := ih.mp h
            exact ⟨List.mem_cons_of_mem _ hrest, hkept⟩
          | true =>
            rcases h with h | ⟨providerAvailable, h⟩
            · exact absurd h (by simp)
            · cases providerAvailable with
              | false =>
                obtain ⟨hrest, hkept⟩ := ih.mp h
                exact ⟨List.mem_cons_of_mem _ hrest, hkept⟩
              | true =>
                rcases h with h | ⟨outcome, h⟩
                · obtain ⟨rfl, rfl⟩ := Cmd.dispatch.inj h
                  exact ⟨List.mem_cons_self .., hskip⟩
                · cases outcome with
                  | ok response => exact absurd (canSend_recordModel.mp h) id
                  | error e =>
                    obtain ⟨hrest, hkept⟩ := ih.mp (canSend_recordModel.mp h)
                    exact ⟨List.mem_cons_of_mem _ hrest, hkept⟩
      · rintro ⟨hmem, hkept⟩
        -- both circuits let the link through, and an earlier call fails
        refine Or.inr ⟨true, Or.inr ⟨true, ?_⟩⟩
        rcases List.mem_cons.mp hmem with heq | hrest
        · obtain ⟨rfl, rfl⟩ := Prod.mk.inj heq
          exact Or.inl rfl
        · exact Or.inr ⟨.error exhausted, canSend_recordModel.mpr (ih.mpr ⟨hrest, hkept⟩)⟩

end Loops

/-! ## The chains -/

/-- The NVIDIA models at no cost, as `resolve_model` names them. -/
def nvidiaFreeModels : List String :=
  [ "nvidia/nvidia/llama-3.1-nemotron-nano-8b-v1",
    "nvidia/nvidia/llama-3.1-nemotron-ultra-253b-v1",
    "nvidia/nvidia/llama-3.3-nemotron-super-49b-v1",
    "nvidia/nvidia/nemotron-3-nano-30b-a3b",
    "nvidia/nvidia/nemotron-3-super-120b-a12b",
    "nvidia/nvidia/nemotron-3-ultra-550b-a55b",
    "nvidia/nvidia/nemotron-mini-4b-instruct",
    "nvidia/meta/llama-4-maverick-17b-128e-instruct",
    "nvidia/meta/llama-4-scout-17b-16e-instruct",
    "nvidia/meta/llama-3.3-70b-instruct",
    "nvidia/qwen/qwen3-coder-480b-a35b-instruct",
    "nvidia/deepseek-ai/deepseek-r1",
    "nvidia/mistralai/mistral-large-3-675b-instruct-2512",
    "nvidia/minimaxai/minimax-m2.7",
    "nvidia/minimaxai/minimax-m3" ]

/-- What follows a model in `model_fallback_chain`. -/
def modelFallbacks (provider model : String) : List (String × String) :=
  match provider, model with
  | "anthropic", "claude-opus-4-8" =>
    [("anthropic", "claude-opus-4-7"), ("anthropic", "claude-opus-4-6"), ("openai", "gpt-5.2"),
      ("google", "gemini-3.1-pro"), ("openai", "o3")]
  | "anthropic", "claude-opus-4-7" =>
    [("anthropic", "claude-opus-4-6"), ("openai", "gpt-5.2"), ("google", "gemini-3.1-pro"),
      ("openai", "o3")]
  | "anthropic", "claude-opus-4-6" =>
    [("openai", "gpt-5.2"), ("google", "gemini-3.1-pro"), ("openai", "o3")]
  | "openai", "gpt-5.2" => [("anthropic", "claude-opus-4-6"), ("google", "gemini-3.1-pro")]
  | "google", "gemini-3.1-pro" => [("anthropic", "claude-opus-4-6"), ("openai", "gpt-5.2")]
  | "anthropic", "claude-sonnet-4-6" =>
    [("openai", "gpt-4.1"), ("google", "gemini-3.1-pro"), ("xai", "grok-3")]
  | "openai", "gpt-4o" =>
    [("anthropic", "claude-sonnet-4-6"), ("google", "gemini-3.1-pro"), ("xai", "grok-3")]
  | "openai", "gpt-4.1" => [("anthropic", "claude-sonnet-4-6"), ("google", "gemini-3.1-pro")]
  | "xai", "grok-3" => [("anthropic", "claude-sonnet-4-6"), ("openai", "gpt-4o")]
  | "openai", "gpt-4o-mini" =>
    [("anthropic", "claude-haiku-4-5-20251001"), ("google", "gemini-2.5-flash"),
      ("deepseek", "deepseek-chat")]
  | "openai", "gpt-4.1-mini" =>
    [("anthropic", "claude-haiku-4-5-20251001"), ("google", "gemini-2.5-flash")]
  | "openai", "gpt-4.1-nano" => [("google", "gemini-2.5-flash-lite")]
  | "anthropic", "claude-haiku-4-5-20251001" =>
    [("openai", "gpt-4o-mini"), ("google", "gemini-2.5-flash"), ("deepseek", "deepseek-chat")]
  | "google", "gemini-2.5-flash" =>
    [("openai", "gpt-4o-mini"), ("anthropic", "claude-haiku-4-5-20251001"),
      ("deepseek", "deepseek-chat")]
  | "deepseek", "deepseek-chat" => [("openai", "gpt-4o-mini"), ("google", "gemini-2.5-flash")]
  | "openai", "o3" => [("anthropic", "claude-opus-4-6"), ("deepseek", "deepseek-reasoner")]
  | "openai", "o3-mini" => [("deepseek", "deepseek-reasoner"), ("xai", "grok-3-mini")]
  | "openai", "o4-mini" => [("deepseek", "deepseek-reasoner"), ("xai", "grok-3-mini")]
  | "deepseek", "deepseek-reasoner" => [("openai", "o3-mini"), ("xai", "grok-3-mini")]
  | "nvidia", model =>
    if model ∈ nvidiaFreeModels then [("google", "gemini-3.1-flash-lite")] else []
  | _, _ => []

/-- `model_fallback_chain`: the model itself comes first. -/
def modelFallbackChain (provider model : String) : List (String × String) :=
  (provider, model) :: modelFallbacks provider model

/-! ## The six functions -/

/-- What the loops read of the gateway and the request. -/
structure Gateway where
  configured : String → Bool
  registry : ModelRegistry

/-- The links a model loop passes over: the provider is not configured, or the request has images
and the model is not known to take them. -/
def Gateway.skips (gateway : Gateway) (hasImages : Bool) (provider model : String) : Bool :=
  !gateway.configured provider ||
    (hasImages && candidateRejectsImages gateway.registry provider model)

/-- The text of a model loop that ran out of links. -/
def exhaustedError (hasImages : Bool) (images models : ProviderError) : ProviderError :=
  if hasImages then images else models

/-- `IMAGE_ON_PROVIDER_NAME_PATH_ERR`. -/
def imageOnProviderNamePathErr : ProviderError :=
  "image content requires a vision-capability-checked path; the provider-name " ++
    "dispatch path does not support image input — route via a model-aware path"

section Functions
variable {α : Type} (gateway : Gateway) (hasImages : Bool)

/-- A function over the built-in chain. -/
def withModelFallback (images models : ProviderError) (primaryProvider primaryModel : String) :
    Prog Cmd (Reply α) (Except ProviderError (FallbackResult α)) :=
  modelLoop (gateway.skips hasImages) (exhaustedError hasImages images models)
    (fun provider model => provider ≠ primaryProvider || model ≠ primaryModel) primaryModel
    (modelFallbackChain primaryProvider primaryModel) none

/-- `chat_with_model_fallback`. -/
def chatWithModelFallback :
    String → String → Prog Cmd (Reply α) (Except ProviderError (FallbackResult α)) :=
  withModelFallback gateway hasImages
    "no vision-capable model available in fallback chain for image request"
    "no available models in fallback chain"

/-- `stream_with_model_fallback`. -/
def streamWithModelFallback :
    String → String → Prog Cmd (Reply α) (Except ProviderError (FallbackResult α)) :=
  withModelFallback gateway hasImages
    "no vision-capable model available in fallback chain for image stream"
    "no available models for streaming in fallback chain"

/-- A function over the client's chain. -/
def withChain (images models : ProviderError) (chain : List (String × String))
    (originalModel : String) : Prog Cmd (Reply α) (Except ProviderError (FallbackResult α)) :=
  modelLoop (gateway.skips hasImages) (exhaustedError hasImages images models)
    (fun _ model => model ≠ originalModel) originalModel chain none

/-- `chat_with_chain`. -/
def chatWithChain :
    List (String × String) → String →
      Prog Cmd (Reply α) (Except ProviderError (FallbackResult α)) :=
  withChain gateway hasImages "no vision-capable model available in chain for image request"
    "no available models in chain"

/-- `stream_with_chain`. -/
def streamWithChain :
    List (String × String) → String →
      Prog Cmd (Reply α) (Except ProviderError (FallbackResult α)) :=
  withChain gateway hasImages "no vision-capable model available in chain for image stream"
    "no available models for streaming in chain"

/-- A function over provider names: images are refused. -/
def withProviders (exhausted : ProviderError) (providerNames : List String) (model : String) :
    Prog Cmd (Reply α) (Except ProviderError α) :=
  if hasImages then pure (.error imageOnProviderNamePathErr)
  else providerLoop (fun name => !gateway.configured name) exhausted model providerNames none

/-- `chat_with_fallback`. -/
def chatWithFallback : List String → String → Prog Cmd (Reply α) (Except ProviderError α) :=
  withProviders gateway hasImages "no available providers"

/-- `stream_with_fallback`. -/
def streamWithFallback : List String → String → Prog Cmd (Reply α) (Except ProviderError α) :=
  withProviders gateway hasImages "no available providers for streaming"

end Functions

end Solvela.Providers

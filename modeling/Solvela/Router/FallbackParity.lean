import Solvela.Providers.Fallback
import Solvela.Router.Registry

/-!
# The fallback chain of a model on the two surfaces

Chat and A2A resolve a requested name alike: a routing profile, an alias or a name of the registry
gives the name of a registered model. Both then ask `model_fallback_chain` what follows that model.
Chat asks with the resolved name, A2A with the `model_id` of the registry entry.

The table of chains is keyed by bare ids, its NVIDIA part by `provider/model_id`. So

* chat falls back only for who asks for a free model (`chat_falls_back_for_free`);
* a model falls back alike on both surfaces only when no chain is declared for it
  (`fallsBackAlike_iff`).
-/

namespace Solvela.Router

open Solvela.Lib
open Solvela.Providers (modelFallbacks nvidiaFreeModels)

/-! ## Names -/

/-- `Tier`. -/
inductive Tier
  | simple
  | medium
  | complex
  | reasoning

/-- `Profile`. -/
inductive Profile
  | eco
  | auto
  | premium
  | free

/-- `Profile::from_alias`, of the name in lower case. -/
def Profile.fromAlias : String → Option Profile
  | "eco" | "cheap" | "budget" => some .eco
  | "auto" | "balanced" | "default" => some .auto
  | "premium" | "best" | "quality" => some .premium
  | "free" | "oss" | "open" => some .free
  | _ => none

/-- `resolve_model`. -/
def resolveModel : Profile → Tier → String
  | .eco, .simple => "deepseek/deepseek-chat"
  | .eco, .medium => "google/gemini-2.5-flash-lite"
  | .eco, .complex => "deepseek/deepseek-chat"
  | .eco, .reasoning => "deepseek/deepseek-reasoner"
  | .auto, .simple => "google/gemini-2.5-flash"
  | .auto, .medium => "xai/grok-code-fast-1"
  | .auto, .complex => "google/gemini-3.1-pro"
  | .auto, .reasoning => "xai/grok-4-fast-reasoning"
  | .premium, .simple => "openai/gpt-4o"
  | .premium, .medium => "anthropic/claude-sonnet-4-6"
  | .premium, .complex => "anthropic/claude-opus-4-8"
  | .premium, .reasoning => "openai/o3"
  | .free, .simple => "nvidia/nvidia/llama-3.1-nemotron-nano-8b-v1"
  | .free, .medium => "nvidia/nvidia/llama-3.3-nemotron-super-49b-v1"
  | .free, .complex => "nvidia/nvidia/llama-3.1-nemotron-ultra-253b-v1"
  | .free, .reasoning => "nvidia/nvidia/llama-3.1-nemotron-ultra-253b-v1"

/-- `resolve_alias`, of the name in lower case. -/
def resolveAlias : String → Option String
  | "gpt5" | "gpt-5" => some "openai/gpt-5.2"
  | "sonnet" | "claude-sonnet" => some "anthropic/claude-sonnet-4-6"
  | "opus" | "claude-opus" => some "anthropic/claude-opus-4-8"
  | "haiku" | "claude-haiku" => some "anthropic/claude-haiku-4-5-20251001"
  | "gemini" | "gemini-pro" => some "google/gemini-3.1-pro"
  | "flash" | "gemini-flash" => some "google/gemini-2.5-flash"
  | "grok" | "grok-fast" => some "xai/grok-4-fast-reasoning"
  | "deepseek" | "ds" => some "deepseek/deepseek-chat"
  | "deepseek-r" | "reasoner" => some "deepseek/deepseek-reasoner"
  | "free" | "oss" => some "nvidia/nvidia/llama-3.1-nemotron-nano-8b-v1"
  | "o3-mini" | "o3mini" => some "openai/o3-mini"
  | "o4-mini" | "o4mini" => some "openai/o4-mini"
  | "gpt4.1" | "gpt-4.1" | "gpt41" => some "openai/gpt-4.1"
  | "gpt4.1-mini" | "gpt-4.1-mini" => some "openai/gpt-4.1-mini"
  | "gpt4.1-nano" | "gpt-4.1-nano" => some "openai/gpt-4.1-nano"
  | "sonnet4.5" | "sonnet-4.5" => some "anthropic/claude-sonnet-4-5-20250929"
  | "grok3" | "grok-3" => some "xai/grok-3"
  | "grok3-mini" | "grok-3-mini" => some "xai/grok-3-mini"
  | _ => none

/-- `resolve_model_with_debug` of chat and `resolve_model` of A2A. `lower` is
`str::to_lowercase`, and `tier` what the scorer makes of the request on that surface. -/
def resolveRequest (lower : String → String) (tier : Tier) (models : ModelRegistry)
    (requested : String) : Option String :=
  match Profile.fromAlias (lower requested) with
  | some profile => some (resolveModel profile tier)
  | none =>
    match resolveAlias (lower requested) with
    | some canonical => some canonical
    | none => if (models.lookup requested).isSome then some requested else none

/-! ## What dispatch falls back to -/

/-- What chat falls back to after the model that the request was resolved to:
`model_fallback_chain` is called with the provider of its entry and the resolved name. -/
def chatFallbacks (models : ModelRegistry) (resolved : String) :
    Option (List (String × String)) :=
  (models.lookup resolved).map fun info => modelFallbacks info.provider resolved

/-- What A2A falls back to: `model_fallback_chain` is called with the provider and the `model_id`
of the entry. -/
def a2aFallbacks (models : ModelRegistry) (resolved : String) :
    Option (List (String × String)) :=
  (models.lookup resolved).map fun info => modelFallbacks info.provider info.modelId

/-- The keys of `model_fallback_chain` besides the NVIDIA ones. -/
def fallbackChainKeys : List (String × String) :=
  [ ("anthropic", "claude-opus-4-8"), ("anthropic", "claude-opus-4-7"),
    ("anthropic", "claude-opus-4-6"), ("openai", "gpt-5.2"), ("google", "gemini-3.1-pro"),
    ("anthropic", "claude-sonnet-4-6"), ("openai", "gpt-4o"), ("openai", "gpt-4.1"),
    ("xai", "grok-3"), ("openai", "gpt-4o-mini"), ("openai", "gpt-4.1-mini"),
    ("openai", "gpt-4.1-nano"), ("anthropic", "claude-haiku-4-5-20251001"),
    ("google", "gemini-2.5-flash"), ("deepseek", "deepseek-chat"), ("openai", "o3"),
    ("openai", "o3-mini"), ("openai", "o4-mini"), ("deepseek", "deepseek-reasoner") ]

/-- The table has a chain under the pair. -/
def KeyedChain (provider model : String) : Prop :=
  (provider, model) ∈ fallbackChainKeys ∨ provider = "nvidia" ∧ model ∈ nvidiaFreeModels

instance (provider model : String) : Decidable (KeyedChain provider model) :=
  inferInstanceAs (Decidable (_ ∨ _))

/-- A chain is declared for a registered model, under its bare or its canonical id. -/
def ModelRegistration.HasChain (info : ModelRegistration) : Prop :=
  KeyedChain info.provider info.modelId ∨ KeyedChain info.provider info.id

instance (info : ModelRegistration) : Decidable info.HasChain :=
  inferInstanceAs (Decidable (_ ∨ _))

/-- A registered model that is named by its canonical id falls back alike on both surfaces. -/
def FallsBackAlike (models : ModelRegistry) (name : String) : Prop :=
  ∀ info, models.lookup name = some info → info.id = name →
    chatFallbacks models name = a2aFallbacks models name

/-! ## The table -/

theorem modelFallbacks_eq_nil_iff (provider model : String) :
    modelFallbacks provider model = [] ↔ ¬ KeyedChain provider model := by
  unfold modelFallbacks KeyedChain fallbackChainKeys
  split
  all_goals simp_all

/-- No key of the table is a canonical id, apart from the NVIDIA ones. -/
theorem keyedChain_canonical_iff (provider modelId : String) :
    KeyedChain provider (provider ++ "/" ++ modelId) ↔
      provider = "nvidia" ∧ "nvidia/" ++ modelId ∈ nvidiaFreeModels := by
  have hbare : ∀ key ∈ fallbackChainKeys, '/' ∉ key.2.toList := by decide
  have hnot : (provider, provider ++ "/" ++ modelId) ∉ fallbackChainKeys := by
    intro hmem
    apply hbare _ hmem
    simp
  unfold KeyedChain
  constructor
  · rintro (hmem | ⟨rfl, hfree⟩)
    · exact absurd hmem hnot
    · exact ⟨rfl, hfree⟩
  · rintro ⟨rfl, hfree⟩
    exact Or.inr ⟨rfl, hfree⟩

/-- No model has a chain under both its ids. -/
theorem keyedChain_not_both (provider modelId : String) :
    ¬ (KeyedChain provider modelId ∧ KeyedChain provider (provider ++ "/" ++ modelId)) := by
  rintro ⟨hbare, hcanonical⟩
  obtain ⟨rfl, hfree⟩ := (keyedChain_canonical_iff provider modelId).mp hcanonical
  have hkeys : ∀ key ∈ fallbackChainKeys, key.1 ≠ "nvidia" := by decide
  have htwice : ∀ model ∈ nvidiaFreeModels, "nvidia/" ++ model ∉ nvidiaFreeModels := by decide
  rcases hbare with hmem | ⟨-, hmem⟩
  · exact hkeys _ hmem rfl
  · exact htwice modelId hmem hfree

/-! ## The two surfaces -/

/-- A registration carries its canonical id. -/
theorem id_of_loaded {c : ModelsConfig} {models : ModelRegistry} (hload : fromToml c = .ok models)
    {name : String} {info : ModelRegistration} (hentry : models.lookup name = some info) :
    info.id = info.provider ++ "/" ++ info.modelId := by
  rw [(fromToml_ok hload).2.2 name] at hentry
  obtain ⟨e, -, rfl⟩ := Option.map_eq_some_iff.mp hentry
  rfl

/-- Chat has something to fall back to only for the free NVIDIA models. -/
theorem chatFallbacks_ne_nil_iff {c : ModelsConfig} {models : ModelRegistry}
    (hload : fromToml c = .ok models) {name : String} {info : ModelRegistration}
    (hentry : models.lookup name = some info) (hid : info.id = name) :
    chatFallbacks models name ≠ some [] ↔ info.provider = "nvidia" ∧ name ∈ nvidiaFreeModels := by
  have hname := id_of_loaded hload hentry
  rw [chatFallbacks, hentry, Option.map_some, ne_eq, Option.some_inj, modelFallbacks_eq_nil_iff,
    not_not, ← hid, hname, keyedChain_canonical_iff]
  apply and_congr_right
  intro hprovider
  rw [hprovider]
  rfl

theorem fromAlias_free {short : String} (h : Profile.fromAlias short = some .free) :
    short ∈ ["free", "oss", "open"] := by
  unfold Profile.fromAlias at h
  split at h
  all_goals first
    | decide
    | cases h

theorem resolveModel_free {profile : Profile} {tier : Tier}
    (h : resolveModel profile tier ∈ nvidiaFreeModels) : profile = .free := by
  cases profile with
  | free => rfl
  | eco => cases tier <;> exact absurd h (by decide)
  | auto => cases tier <;> exact absurd h (by decide)
  | premium => cases tier <;> exact absurd h (by decide)

theorem resolveAlias_free {short name : String} (h : resolveAlias short = some name)
    (hfree : name ∈ nvidiaFreeModels) : short ∈ ["free", "oss", "open"] := by
  unfold resolveAlias at h
  split at h
  all_goals first
    | decide
    | (cases h; done)
    | (cases h
       exact absurd hfree (by decide))

/-- No profile and no alias names one of these, apart from the free ones. -/
theorem resolveRequest_free {lower : String → String} {tier : Tier} {models : ModelRegistry}
    {requested name : String} (h : resolveRequest lower tier models requested = some name)
    (hfree : name ∈ nvidiaFreeModels) :
    lower requested ∈ ["free", "oss", "open"] ∨ name = requested := by
  unfold resolveRequest at h
  split at h
  · rename_i profile hprofile
    left
    rw [← Option.some.inj h] at hfree
    rw [resolveModel_free hfree] at hprofile
    exact fromAlias_free hprofile
  · split at h
    · rename_i canonical halias
      left
      rw [← Option.some.inj h] at hfree
      exact resolveAlias_free halias hfree
    · right
      split at h
      · exact (Option.some.inj h).symm
      · exact absurd h (by simp)

/-- Chat falls back only for who asks for a free model: by the profile, by the alias, or by the name
of one of NVIDIA's. -/
theorem chat_falls_back_for_free {c : ModelsConfig} {models : ModelRegistry}
    (hload : fromToml c = .ok models) {lower : String → String} {tier : Tier}
    {requested name : String} (h : resolveRequest lower tier models requested = some name)
    {info : ModelRegistration} (hentry : models.lookup name = some info) (hid : info.id = name)
    (hchain : chatFallbacks models name ≠ some []) :
    lower requested ∈ ["free", "oss", "open"] ∨ requested ∈ nvidiaFreeModels := by
  obtain ⟨-, hfree⟩ := (chatFallbacks_ne_nil_iff hload hentry hid).mp hchain
  rcases resolveRequest_free h hfree with hshort | rfl
  · exact Or.inl hshort
  · exact Or.inr hfree

/-- A registered model falls back alike on chat and A2A exactly if no chain is declared for it:
one that is declared under the bare id is out of reach of chat, one under the canonical id out of
reach of A2A. -/
theorem fallsBackAlike_iff {c : ModelsConfig} {models : ModelRegistry}
    (hload : fromToml c = .ok models) {name : String} {info : ModelRegistration}
    (hentry : models.lookup name = some info) (hid : info.id = name) :
    FallsBackAlike models name ↔ ¬ info.HasChain := by
  have hcanonical := id_of_loaded hload hentry
  have hboth := keyedChain_not_both info.provider info.modelId
  rw [← hcanonical] at hboth
  have halike : FallsBackAlike models name ↔
      modelFallbacks info.provider info.id = modelFallbacks info.provider info.modelId := by
    unfold FallsBackAlike chatFallbacks a2aFallbacks
    simp [hentry, hid]
  rw [halike]
  unfold ModelRegistration.HasChain
  have hbare := modelFallbacks_eq_nil_iff info.provider info.modelId
  have hqualified := modelFallbacks_eq_nil_iff info.provider info.id
  constructor
  · rintro heq (hkeyed | hkeyed)
    · -- declared for A2A only
      have hchat : modelFallbacks info.provider info.id = [] :=
        hqualified.mpr fun hother => hboth ⟨hkeyed, hother⟩
      exact hbare.mp (heq.symm.trans hchat) hkeyed
    · -- declared for chat only
      have ha2a : modelFallbacks info.provider info.modelId = [] :=
        hbare.mpr fun hother => hboth ⟨hother, hkeyed⟩
      exact hqualified.mp (heq.trans ha2a) hkeyed
  · intro hnone
    push Not at hnone
    rw [hbare.mpr hnone.1, hqualified.mpr hnone.2]

/-! ## Two models -/

/-- A table of one model. -/
def oneModel (key provider modelId : String) : ModelsConfig where
  models := [(key, ⟨provider, modelId, some (5 / 2), some 10, 128000, none⟩)]
  nodup := by simp

theorem oneModel_loads (key provider modelId : String) :
    ∃ models, fromToml (oneModel key provider modelId) = .ok models ∧
      models.lookup (provider ++ "/" ++ modelId) =
        some (ModelEntry.info ⟨provider, modelId, some (5 / 2), some 10, 128000, none⟩) := by
  have hgood : (∀ e ∈ (oneModel key provider modelId).models, e.2.Valid) ∧
      ClaimsMatch [] (oneModel key provider modelId).models := by
    refine ⟨?_, ?_, trivial⟩
    · intro e he
      obtain rfl := List.mem_singleton.mp he
      constructor <;> norm_num [badPrice]
    · intro e he
      exact absurd he (by simp [lastClaimant])
  obtain ⟨models, hload⟩ := (fromToml_ok_iff _).mpr hgood
  refine ⟨models, hload, ?_⟩
  rw [(fromToml_ok hload).2.2]
  simp [oneModel, lastClaimant, claims, ModelEntry.id]

/-- A model without a chain. -/
theorem fallsBackAlike_mistral : ∃ models,
    fromToml (oneModel "mistral-small" "mistral" "small") = .ok models ∧
      FallsBackAlike models "mistral/small" := by
  obtain ⟨models, hload, hentry⟩ := oneModel_loads "mistral-small" "mistral" "small"
  exact ⟨models, hload, (fallsBackAlike_iff hload hentry rfl).mpr (by decide)⟩

/-- `gpt-4o` has a chain of three, and chat never uses it. -/
theorem gpt_4o_not_alike : ¬ ∀ c models name, fromToml c = .ok models →
    FallsBackAlike models name := by
  intro h
  obtain ⟨models, hload, hentry⟩ := oneModel_loads "openai-gpt-4o" "openai" "gpt-4o"
  have heq := h _ _ "openai/gpt-4o" hload _ hentry rfl
  unfold chatFallbacks a2aFallbacks at heq
  rw [show models.lookup "openai/gpt-4o" = _ from hentry] at heq
  exact absurd heq (by decide)

end Solvela.Router

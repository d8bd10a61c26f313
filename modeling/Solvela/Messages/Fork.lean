import Solvela.Messages.Inbound
import Solvela.Router.FallbackParity

/-!
# The native fork

`create_message` resolves the model of the skeleton to choose what it passes on: the skeleton with
the body, for the native relay, or the strict translation. `chat_completions_inner` resolves the
model of what it is passed and chooses again, and a channel draw (`channel_draw_locked`) chooses a
third time. What the last choice answers with is read by the first one's branch: a relayed answer
goes out as it is, any other is translated.

The scorer, the payment gates and the provider calls are parameters.
-/

namespace Solvela.Messages

open Solvela.Lib.Txn (except_bind_ok)
open Solvela.Protocol
open Solvela.Router (ModelRegistration ModelRegistry Tier resolveRequest)
open Solvela.Signer (JsonValue)

/-! ## Resolving a model -/

/-- `ModelRegistry`, with its registrations in the order in which its hash map hands them out. -/
structure WalkedRegistry where
  models : ModelRegistry
  values : List ModelRegistration
  mem_values : ∀ info, info ∈ values ↔ ∃ name, models.lookup name = some info

/-- `ModelRegistry::resolve_anthropic_model_id`. -/
def WalkedRegistry.resolveAnthropicModelId (registry : WalkedRegistry) (bareModelId : String) :
    Option ModelRegistration :=
  registry.values.find? fun m => m.provider = "anthropic" && m.modelId = bareModelId

/-- What resolution takes from elsewhere: `str::to_lowercase` and the tier of `scorer::classify`,
of the messages and of whether there are tools. -/
structure Scoring where
  lower : String → String
  classify : List ChatMessage → Bool → Tier

section Resolution

variable (scoring : Scoring) (registry : WalkedRegistry)

/-- `resolve_model_with_debug`: the model's name. An empty list of tools is no tools. -/
def resolveModelWithDebug (req : ChatRequest) : Option String :=
  let hasTools := req.tools.any fun t => !t.isEmpty
  resolveRequest scoring.lower (scoring.classify req.messages hasTools) registry.models req.model

/-- `resolve_model_provider`. -/
def resolveModelProvider (req : ChatRequest) : Option String :=
  (resolveModelWithDebug scoring registry req).bind fun resolved =>
    (registry.models.lookup resolved).map (·.provider)

end Resolution

/-! ## The core -/

/-- `WireDialect`. -/
inductive WireDialect
  | openAi (originalBody : List UInt8)
  | anthropicMessages (originalBody : List UInt8) (anthropicVersion anthropicBeta : Option String)

/-- What the native relay forwards: the body and two headers. -/
abbrev NativeSource := List UInt8 × Option String × Option String

/-- `WireDialect::anthropic_native_source`. -/
def WireDialect.anthropicNativeSource : WireDialect → Option NativeSource
  | .openAi _ => none
  | .anthropicMessages body version beta => some (body, version, beta)

/-- `GatewayError`, as far as the fork tells it apart. -/
inductive CoreError (E : Type)
  | badRequest (message : String)
  | modelNotFound (model : String)
  | later (e : E)

/-- `MAX_MESSAGES`. -/
def maxMessages : ℕ := 256

/-- `MAX_CONTENT_PARTS`. -/
def maxContentParts : ℕ := 64

/-- `MAX_IMAGES_PER_REQUEST`. -/
def maxImagesPerRequest : ℕ := 100

/-- The number of parts, where a content has parts. -/
def partsCount : MessageContent → ℕ
  | .text _ => 0
  | .parts values => values.length

/-- A user message with a text. -/
def isUserPrompt (m : ChatMessage) : Bool :=
  m.role = .user && !(trim m.content.asText.toList).isEmpty

/-- `Ok` of a successful core: the 429 of a free model's limits, the bytes of the relay, or a chat
completion. -/
inductive CoreResponse (R C : Type)
  | rateLimited
  | relayed (raw : R)
  | completion (chat : C)

/-- What the gates between the fork and the provider call leave a request: the image gate, the
payment or the limits of a free model, and the prompt guard. A channel's voucher is drawn on. -/
inductive Gate (E : Type)
  | refused (e : E)
  | rateLimited
  | served
  | drawn

section Core

variable {E R C : Type}

/-- The checks of `chat_completions_inner` before it resolves the model. -/
def contentChecks (req : ChatRequest) : Except (CoreError E) Unit :=
  if req.messages.length > maxMessages then
    .error (.badRequest s!"too many messages: {req.messages.length} exceeds maximum of {maxMessages}")
  else
    match req.messages.find? fun m => decide (partsCount m.content > maxContentParts) with
    | some m =>
      .error (.badRequest (s!"too many content parts in a message: {partsCount m.content} " ++
        s!"exceeds maximum of {maxContentParts}"))
    | none =>
      let totalImages := (req.messages.map fun m => m.content.imageUrls.length).sum
      if totalImages > maxImagesPerRequest then
        .error (.badRequest
          s!"too many images: {totalImages} exceeds maximum of {maxImagesPerRequest}")
      else if !req.messages.any isUserPrompt then
        .error (.badRequest "request contains no user message with non-empty text content")
      else .ok ()

/-- The two provider calls, with what a path does around them. -/
structure ProviderCalls (E R C : Type) where
  runNativeRelay : ChatRequest → ModelRegistration → NativeSource → Except E R
  executeProviderCall : ChatRequest → ModelRegistration → Except E C

/-- What follows the fork in `chat_completions_inner`: a draw makes its calls without the fallback
headers and within its time limit, and persists them. -/
structure Rest (E R C : Type) where
  gates : ChatRequest → ModelRegistration → Option NativeSource → Gate E
  calls : ProviderCalls E R C
  drawCalls : ProviderCalls E R C

/-- The provider call, alike on the dev-bypass, the free and the paid path, and in the draw on a
channel. -/
def providerCall (calls : ProviderCalls E R C) (req : ChatRequest) (info : ModelRegistration) :
    Option NativeSource → Except (CoreError E) (CoreResponse R C)
  | some source =>
    match calls.runNativeRelay req info source with
    | .ok raw => .ok (.relayed raw)
    | .error e => .error (.later e)
  | none =>
    match calls.executeProviderCall req info with
    | .ok chat => .ok (.completion chat)
    | .error e => .error (.later e)

/-- The source of the native relay. -/
def nativeSource (info : ModelRegistration) (dialect : WireDialect) : Option NativeSource :=
  if info.provider = "anthropic" then dialect.anthropicNativeSource else none

/-- The serve of `channel_draw_locked`, which makes the choice again. -/
def channelDrawServe (rest : Rest E R C) (req : ChatRequest) (info : ModelRegistration)
    (dialect : WireDialect) : Except (CoreError E) (CoreResponse R C) :=
  providerCall rest.drawCalls req info (nativeSource info dialect)

variable (scoring : Scoring) (registry : WalkedRegistry)

/-- `chat_completions_inner` up to its fork: the resolved request, its model and the source of the
native relay. -/
def nativeFork (req : ChatRequest) (dialect : WireDialect) :
    Except (CoreError E) (ChatRequest × ModelRegistration × Option NativeSource) := do
  contentChecks req
  match resolveModelWithDebug scoring registry req with
  | none => .error (.modelNotFound req.model)
  | some resolved =>
    match registry.models.lookup resolved with
    | none => .error (.modelNotFound resolved)
    | some info => .ok ({ req with model := resolved }, info, nativeSource info dialect)

/-- `chat_completions_inner`. -/
def chatCompletionsInner (rest : Rest E R C) (req : ChatRequest) (dialect : WireDialect) :
    Except (CoreError E) (CoreResponse R C) := do
  let (req, info, source) ← nativeFork scoring registry req dialect
  match rest.gates req info source with
  | .refused e => .error (.later e)
  | .rateLimited => .ok .rateLimited
  | .served => providerCall rest.calls req info source
  | .drawn => channelDrawServe rest req info dialect

end Core

/-! ## The route -/

/-- What `POST /v1/messages` answers with. -/
inductive MessagesResponse (E R C : Type)
  | discovery
  | invalidBody
  | refused (e : AnthropicInboundError)
  | coreError (e : CoreError E)
  | badGateway
  | verbatim (body : CoreResponse R C)
  | translated (body : CoreResponse R C)

section Route

variable {E R C : Type}

/-- `forward_native_success_response`: anything with status 200 goes out as it is. -/
def forwardNativeSuccessResponse : CoreResponse R C → MessagesResponse E R C
  | .rateLimited => .badGateway
  | body => .verbatim body

/-- `translate_success_response`: anything with status 200 is read as a chat completion. -/
def translateSuccessResponse : CoreResponse R C → MessagesResponse E R C
  | .rateLimited => .badGateway
  | body => .translated body

variable (scoring : Scoring) (registry : WalkedRegistry)

/-- The skeleton of `create_message`: a bare Anthropic id that does not resolve is made canonical.
-/
def routedSkeleton (req : AnthropicMessagesRequest) : ChatRequest :=
  let skeleton := anthropicRequestToNativeSkeleton req
  if (resolveModelProvider scoring registry skeleton).isNone then
    match registry.resolveAnthropicModelId skeleton.model with
    | some m => { skeleton with model := m.id }
    | none => skeleton
  else skeleton

/-- `is_native` of `create_message`. -/
def isNative (req : AnthropicMessagesRequest) : Bool :=
  resolveModelProvider scoring registry (routedSkeleton scoring registry req) = some "anthropic"

/-- The request that `create_message` passes to the core. -/
def passedRequest (req : AnthropicMessagesRequest) : Except AnthropicInboundError ChatRequest :=
  if isNative scoring registry req then .ok (routedSkeleton scoring registry req)
  else anthropicRequestToChat req

/-- What a request carries besides its body. -/
structure MessagesHeaders where
  hasPayment : Bool
  anthropicVersion : Option String
  anthropicBeta : Option String

/-- The dialect that `create_message` passes to the core. -/
def passedDialect (headers : MessagesHeaders) (body : List UInt8) (native : Bool) : WireDialect :=
  if native then .anthropicMessages body headers.anthropicVersion headers.anthropicBeta
  else .anthropicMessages body none none

/-- `create_message`, of a body that was read. -/
def createMessageOf (rest : Rest E R C) (headers : MessagesHeaders) (body : List UInt8)
    (req : AnthropicMessagesRequest) : MessagesResponse E R C :=
  let native := isNative scoring registry req
  match passedRequest scoring registry req with
  | .error e => .refused e
  | .ok passed =>
    match chatCompletionsInner scoring registry rest passed (passedDialect headers body native) with
    | .error e => .coreError e
    | .ok response =>
      if native then forwardNativeSuccessResponse response else translateSuccessResponse response

/-- `create_message`. `parse` is `serde_json` on the bytes, up to the JSON value. -/
def createMessage (rest : Rest E R C) (parse : List UInt8 → Option JsonValue)
    (reader : NumberReader) (headers : MessagesHeaders) (body : List UInt8) :
    MessagesResponse E R C :=
  match (parse body).bind (requestOfJson reader) with
  | none => if headers.hasPayment then .invalidBody else .discovery
  | some req => createMessageOf scoring registry rest headers body req

end Route

/-! ## The two choices agree -/

section Agreement

variable {scoring : Scoring} {registry : WalkedRegistry} {req : AnthropicMessagesRequest}

/-- The provider depends on the model, the messages and the tools only. -/
theorem resolveModelProvider_congr {req req' : ChatRequest} (hmodel : req'.model = req.model)
    (hmessages : req'.messages = req.messages) (htools : req'.tools = req.tools) :
    resolveModelProvider scoring registry req' = resolveModelProvider scoring registry req := by
  unfold resolveModelProvider resolveModelWithDebug
  rw [hmodel, hmessages, htools]

/-- The skeleton is canonicalised only if it did not resolve. -/
theorem routedSkeleton_eq
    (h : resolveModelProvider scoring registry (anthropicRequestToNativeSkeleton req) ≠ none) :
    routedSkeleton scoring registry req = anthropicRequestToNativeSkeleton req := by
  unfold routedSkeleton
  dsimp only
  rw [if_neg]
  rw [Option.isNone_iff_eq_none]
  exact h

/-- The request that is passed on resolves to an Anthropic model exactly on the native branch. -/
theorem passedRequest_anthropic_iff {passed : ChatRequest}
    (h : passedRequest scoring registry req = .ok passed) :
    resolveModelProvider scoring registry passed = some "anthropic" ↔
      isNative scoring registry req = true := by
  unfold passedRequest at h
  split at h
  · rename_i hnative
    rw [← Except.ok.inj h]
    exact ⟨fun _ => hnative, fun _ => of_decide_eq_true hnative⟩
  · rename_i hreshape
    refine ⟨fun hresolved => ?_, fun hnative => absurd hnative hreshape⟩
    -- the strict translation resolves as the skeleton, which then was not canonicalised
    have hskeleton : resolveModelProvider scoring registry (anthropicRequestToNativeSkeleton req) =
        some "anthropic" := by
      rw [← hresolved, anthropicRequestToChat_ok h]
      exact (resolveModelProvider_congr rfl rfl rfl).symm
    have hrouted := routedSkeleton_eq (hskeleton ▸ Option.some_ne_none _)
    apply decide_eq_true
    rw [hrouted, hskeleton]

/-- What the core comes to its fork with. -/
theorem nativeFork_ok {E : Type} {passed resolved : ChatRequest} {dialect : WireDialect}
    {info : ModelRegistration} {source : Option NativeSource}
    (h : (nativeFork scoring registry passed dialect : Except (CoreError E) _) =
      .ok (resolved, info, source)) :
    resolveModelProvider scoring registry passed = some info.provider ∧
      source = nativeSource info dialect := by
  unfold nativeFork at h
  rw [except_bind_ok] at h
  obtain ⟨u, -, h⟩ := h
  unfold resolveModelProvider
  cases hname : resolveModelWithDebug scoring registry passed with
  | none => rw [hname] at h; cases h
  | some name =>
    rw [hname] at h
    dsimp only at h
    cases hinfo : registry.models.lookup name with
    | none => rw [hinfo] at h; cases h
    | some info' =>
      rw [hinfo] at h
      cases h
      rw [Option.bind_some, hinfo, Option.map_some]
      exact ⟨rfl, rfl⟩

/-- A request that the first checks let through comes to the fork when its model resolves to a
registered one. -/
theorem nativeFork_total {E : Type} {passed : ChatRequest} {provider : String}
    (dialect : WireDialect)
    (hchecks : (contentChecks passed : Except (CoreError E) Unit) = .ok ())
    (h : resolveModelProvider scoring registry passed = some provider) :
    ∃ resolved info source, (nativeFork scoring registry passed dialect : Except (CoreError E) _) =
      .ok (resolved, info, source) := by
  unfold resolveModelProvider at h
  obtain ⟨name, hname, hlookup⟩ := Option.bind_eq_some_iff.mp h
  obtain ⟨info, hinfo, -⟩ := Option.map_eq_some_iff.mp hlookup
  have hfork : (nativeFork scoring registry passed dialect : Except (CoreError E) _) =
      .ok ({ passed with model := name }, info, nativeSource info dialect) := by
    unfold nativeFork
    rw [hchecks, hname]
    show (match registry.models.lookup name with
      | none => _
      | some info => _ : Except (CoreError E) _) = _
    rw [hinfo]
  exact ⟨_, _, _, hfork⟩

/-- The core takes the native relay for a request. -/
def TakesRelay (E : Type) (scoring : Scoring) (registry : WalkedRegistry) (passed : ChatRequest)
    (dialect : WireDialect) : Prop :=
  ∃ resolved info source, (nativeFork scoring registry passed dialect : Except (CoreError E) _) =
    .ok (resolved, info, some source)

/-- A request that reaches the fork is relayed exactly if its provider is Anthropic. -/
theorem takesRelay_iff {E : Type} {passed : ChatRequest} {body : List UInt8}
    {version beta : Option String}
    (hchecks : (contentChecks passed : Except (CoreError E) Unit) = .ok ()) :
    TakesRelay E scoring registry passed (.anthropicMessages body version beta) ↔
      resolveModelProvider scoring registry passed = some "anthropic" := by
  constructor
  · rintro ⟨resolved, info, source, h⟩
    obtain ⟨hprovider, hsource⟩ := nativeFork_ok h
    by_cases hanthropic : info.provider = "anthropic"
    · rw [hprovider, hanthropic]
    · rw [nativeSource, if_neg hanthropic] at hsource
      cases hsource
  · intro h
    obtain ⟨resolved, info, source, hfork⟩ :=
      nativeFork_total (.anthropicMessages body version beta) hchecks h
    obtain ⟨hprovider, hsource⟩ := nativeFork_ok hfork
    have hanthropic : info.provider = "anthropic" := Option.some.inj (hprovider.symm.trans h)
    rw [nativeSource, if_pos hanthropic] at hsource
    rw [hsource] at hfork
    exact ⟨resolved, info, _, hfork⟩

end Agreement

/-! ## What the answers are read as -/

section Answers

variable {E R C : Type} {rest : Rest E R C} {scoring : Scoring} {registry : WalkedRegistry}

/-- A provider call that succeeds answers by the side of the fork that it took. -/
theorem providerCall_ok {calls : ProviderCalls E R C} {req : ChatRequest}
    {info : ModelRegistration} {source : Option NativeSource} {response : CoreResponse R C} :
    providerCall calls req info source = .ok response →
      match source with
      | some _ => ∃ raw, response = .relayed raw
      | none => ∃ chat, response = .completion chat := by
  intro h
  cases source with
  | some source =>
    dsimp only [providerCall] at h
    cases hrelay : calls.runNativeRelay req info source with
    | error e => rw [hrelay] at h; cases h
    | ok raw =>
      rw [hrelay] at h
      exact ⟨raw, (Except.ok.inj h).symm⟩
  | none =>
    dsimp only [providerCall] at h
    cases hcall : calls.executeProviderCall req info with
    | error e => rw [hcall] at h; cases h
    | ok chat =>
      rw [hcall] at h
      exact ⟨chat, (Except.ok.inj h).symm⟩

/-- A successful core answered with its limits, or by the side of the fork that it took. -/
theorem chatCompletionsInner_ok {passed : ChatRequest} {dialect : WireDialect}
    {response : CoreResponse R C}
    (h : chatCompletionsInner scoring registry rest passed dialect = .ok response) :
    response = .rateLimited ∨
      ∃ resolved info source, (nativeFork scoring registry passed dialect :
          Except (CoreError E) _) = .ok (resolved, info, source) ∧
        match source with
        | some _ => ∃ raw, response = .relayed raw
        | none => ∃ chat, response = .completion chat := by
  unfold chatCompletionsInner at h
  rw [except_bind_ok] at h
  obtain ⟨⟨resolved, info, source⟩, hfork, h⟩ := h
  dsimp only at h
  cases hgate : rest.gates resolved info source with
  | refused e => rw [hgate] at h; cases h
  | rateLimited =>
    rw [hgate] at h
    exact Or.inl (Except.ok.inj h).symm
  | served =>
    rw [hgate] at h
    exact Or.inr ⟨resolved, info, source, hfork, providerCall_ok h⟩
  | drawn =>
    rw [hgate] at h
    -- the draw's own choice is the fork's
    rw [channelDrawServe, ← (nativeFork_ok hfork).2] at h
    exact Or.inr ⟨resolved, info, source, hfork, providerCall_ok h⟩

/-- Of what `create_message` passes, the native branch gets the limits or what was relayed, and the
other branch the limits or a completion. -/
theorem createMessageOf_response {headers : MessagesHeaders} {body : List UInt8}
    {req : AnthropicMessagesRequest} {passed : ChatRequest} {response : CoreResponse R C}
    (hpassed : passedRequest scoring registry req = .ok passed)
    (h : chatCompletionsInner scoring registry rest passed
      (passedDialect headers body (isNative scoring registry req)) = .ok response) :
    response = .rateLimited ∨
      if isNative scoring registry req then ∃ raw, response = .relayed raw
      else ∃ chat, response = .completion chat := by
  rcases chatCompletionsInner_ok h with hlimited | ⟨resolved, info, source, hfork, hresponse⟩
  · exact Or.inl hlimited
  · right
    have hagree := passedRequest_anthropic_iff hpassed
    obtain ⟨hprovider, hsource⟩ := nativeFork_ok hfork
    rw [hprovider, Option.some.injEq] at hagree
    cases hnative : isNative scoring registry req with
    | true =>
      rw [nativeSource, if_pos (hagree.mpr hnative), hnative] at hsource
      rw [hsource] at hresponse
      exact hresponse
    | false =>
      rw [nativeSource,
        if_neg (fun hp => absurd (hagree.mp hp) (by rw [hnative]; decide))] at hsource
      rw [hsource] at hresponse
      exact hresponse

/-- What the route's answer says of what the core answered it with. -/
theorem createMessageOf_answer {headers : MessagesHeaders} {body : List UInt8}
    {req : AnthropicMessagesRequest} {response : CoreResponse R C} :
    (createMessageOf scoring registry rest headers body req = .verbatim response →
      ∃ raw, response = .relayed raw) ∧
    (createMessageOf scoring registry rest headers body req = .translated response →
      ∃ chat, response = .completion chat) := by
  unfold createMessageOf
  dsimp only
  cases hpassed : passedRequest scoring registry req with
  | error e => exact ⟨fun h => (by cases h), fun h => (by cases h)⟩
  | ok passed =>
    dsimp only
    cases hcore : chatCompletionsInner scoring registry rest passed
        (passedDialect headers body (isNative scoring registry req)) with
    | error e => exact ⟨fun h => (by cases h), fun h => (by cases h)⟩
    | ok answer =>
      have hanswer := createMessageOf_response hpassed hcore
      -- the handler forks as the core did
      cases hnative : isNative scoring registry req with
      | true =>
        rw [hnative, if_pos rfl] at hanswer
        dsimp only
        rw [if_pos rfl]
        rcases hanswer with rfl | ⟨raw, rfl⟩
        · exact ⟨fun h => (by cases h), fun h => (by cases h)⟩
        · exact ⟨fun h => ⟨raw, (MessagesResponse.verbatim.inj h).symm⟩, fun h => (by cases h)⟩
      | false =>
        rw [hnative, if_neg Bool.false_ne_true] at hanswer
        dsimp only
        rw [if_neg Bool.false_ne_true]
        rcases hanswer with rfl | ⟨chat, rfl⟩
        · exact ⟨fun h => (by cases h), fun h => (by cases h)⟩
        · exact ⟨fun h => (by cases h), fun h => ⟨chat, (MessagesResponse.translated.inj h).symm⟩⟩

end Answers

/-- The two forks agree on a body: the core takes the relay for what it is passed exactly on the
native branch, what goes out as it is was relayed, and what is translated is a completion. -/
structure ForksAgree {E R C : Type} (scoring : Scoring) (registry : WalkedRegistry)
    (rest : Rest E R C) (headers : MessagesHeaders) (body : List UInt8)
    (req : AnthropicMessagesRequest) : Prop where
  provider : ∀ passed, passedRequest scoring registry req = .ok passed →
    (resolveModelProvider scoring registry passed = some "anthropic" ↔
      isNative scoring registry req = true)
  relay : ∀ passed, passedRequest scoring registry req = .ok passed →
    (contentChecks passed : Except (CoreError E) Unit) = .ok () →
      (TakesRelay E scoring registry passed
        (passedDialect headers body (isNative scoring registry req)) ↔
          isNative scoring registry req = true)
  verbatim : ∀ response, createMessageOf scoring registry rest headers body req =
    .verbatim response → ∃ raw, response = .relayed raw
  translated : ∀ response, createMessageOf scoring registry rest headers body req =
    .translated response → ∃ chat, response = .completion chat

end Solvela.Messages

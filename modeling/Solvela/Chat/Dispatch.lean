import Solvela.Chat.UpperBound
import Solvela.Providers.Fallback

/-!
# The provider call of a chat request

`execute_provider_call` looks a buffered request up in the exact and then in the semantic cache,
goes down a fallback chain, and stores what it got. The chain is the built-in one of the model,
or the one of the client's preference header with the model itself in front. A native
`/v1/messages` request of an Anthropic model is relayed instead.

Which models a request can reach is decided by the chain alone: the quote was made before, for
the resolved model, and no link is compared with it.
-/

namespace Solvela.Chat

open Solvela.ChannelLedger Solvela.Channel Solvela.Providers Solvela.Lib
open Solvela.Protocol (Usage)

/-! ## The request -/

/-- The fields of `ChatRequest` that a provider call reads, the model resolved. -/
structure CallRequest extends ChatRequest where
  model : String
  stream : Bool

/-- `has_image_parts` of some message. -/
def CallRequest.hasImages (req : CallRequest) : Bool :=
  req.messages.any fun m => !m.images.isEmpty

/-- A header value: its text, if it is visible ASCII. -/
structure HeaderValue where
  toStr : Option String

/-- The two headers that name a fallback preference. -/
structure FallbackHeaders where
  solvela : Option HeaderValue
  rcr : Option HeaderValue

/-- The preference that is read: the legacy header only counts without the new one. -/
def FallbackHeaders.pref (headers : FallbackHeaders) : Option String :=
  (headers.solvela.or headers.rcr).bind (·.toStr)

/-- `str::trim` of a header text. -/
def trim (text : List Char) : List Char :=
  ((text.dropWhile (·.isWhitespace)).reverse.dropWhile (·.isWhitespace)).reverse

/-- `split(',')`. -/
def splitCommas (text : List Char) : List (List Char) :=
  text.foldr (fun c parts =>
    if c = ',' then [] :: parts else (c :: parts.headD []) :: parts.tail) [[]]

/-- One entry of `parse_fallback_preference`. -/
def parsePreferenceEntry (entry : List Char) : Option (String × String) :=
  let trimmed := trim entry
  match trimmed.dropWhile (· ≠ '/') with
  | [] => none
  | _ :: model =>
    let provider := trim (trimmed.takeWhile (· ≠ '/'))
    let model := trim model
    if provider.isEmpty || model.isEmpty then none
    else some (String.ofList provider, String.ofList model)

/-- `parse_fallback_preference`. -/
def parseFallbackPreference (header : String) : List (String × String) :=
  (splitCommas header.toList).filterMap parsePreferenceEntry

/-- `build_fallback_chain`: the model itself first, then the preferred ones, each once. -/
def buildFallbackChain (provider model : String) (pref : Option String) :
    Option (List (String × String)) :=
  pref.map fun header =>
    (parseFallbackPreference header).foldl
      (fun chain entry => if entry ∈ chain then chain else chain ++ [entry]) [(provider, model)]

/-! ## The call -/

/-- A chat answer: its text and usage, and the link whose upstream made it. The source does not
keep the last. -/
structure Answer where
  text : String
  usage : Option Usage
  producer : String × String
deriving DecidableEq

/-- What a provider call does between two points where it can be dropped. -/
inductive CallCmd
  | getExact
  | getSemantic
  | setExact (answer : Answer)
  | setSemantic (answer : Answer)
  | upstream (c : Cmd)
  | relay

abbrev CallReply : CallCmd → Type
  | .getExact => Option Answer
  | .getSemantic => Option Answer
  | .setExact _ => Unit
  | .setSemantic _ => Unit
  | .upstream c => Reply Answer c
  | .relay => Except ProviderError Answer

/-- `CacheStatus`. -/
inductive CacheStatus
  | hit
  | semanticHit
  | miss
  | skip
deriving DecidableEq

/-- `ProviderCallError::AllProvidersFailed`. -/
structure ProviderCallError where
  model : String
  provider : String
  error : ProviderError

/-- `ProviderCallResult`, with the cache status that its debug header shows. -/
structure ProviderCallResult where
  response : Answer
  cacheStatus : CacheStatus
  usage : Option Usage
  actualProvider : Option String
  costOutcome : Option SemanticDiscount

/-- A provider call, by what it does and returns. -/
abbrev ProviderCall := Prog CallCmd CallReply (Except ProviderCallError ProviderCallResult)

/-- `semantic_hit_full_atomic`. -/
def semanticHitFullAtomic (pct : ℕ) (usage : Option Usage) (req : CallRequest)
    (model : ModelRegistration) : Option ℕ :=
  ((usage.bind fun u =>
      computeActualAtomicCost pct u.promptTokens u.completionTokens model .binary64).or
    (estimatedAtomicCost pct req.toChatRequest model .binary64).toOption).filter (0 < ·)

/-- What a provider call reads of `AppState`. -/
structure CallState extends Gateway where
  pct : ℕ
  hitPricePercent : ℕ
  exactCache : Bool
  semanticCache : Bool
  nativeAnthropic : Bool

section Calls
variable (state : CallState) (req : CallRequest) (entry : RegistryEntry)

/-- A fallback loop, as a part of the call. -/
def viaUpstream {α : Type} (loop : Prog Cmd (Reply Answer) α) : Prog CallCmd CallReply α :=
  loop.embed .upstream fun _ r => r

/-- `execute_streaming_call`. -/
def executeStreamingCall (pref : Option String) : ProviderCall := do
  let result ← viaUpstream <|
    match buildFallbackChain entry.provider req.model pref with
    | some chain => streamWithChain state.toGateway req.hasImages chain req.model
    | none => streamWithModelFallback state.toGateway req.hasImages entry.provider req.model
  match result with
  | .ok result =>
    pure (.ok
      { response := result.data, cacheStatus := .skip, usage := none, actualProvider := none
        costOutcome := none })
  | .error e => pure (.error ⟨req.model, entry.provider, e⟩)

/-- The stores of `execute_non_streaming_call`. -/
def storeAnswer (answer : Answer) : Prog CallCmd CallReply Unit := do
  if state.exactCache then Prog.ask (CallCmd.setExact answer) else pure ()
  if state.semanticCache then Prog.ask (CallCmd.setSemantic answer) else pure ()

/-- `execute_non_streaming_call`: the answer is stored whichever link it came from. -/
def executeNonStreamingCall (pref : Option String) : ProviderCall := do
  let result ← viaUpstream <|
    match buildFallbackChain entry.provider req.model pref with
    | some chain => chatWithChain state.toGateway req.hasImages chain req.model
    | none => chatWithModelFallback state.toGateway req.hasImages entry.provider req.model
  match result with
  | .ok result =>
    storeAnswer state result.data
    pure (.ok
      { response := result.data, cacheStatus := .miss, usage := result.data.usage
        actualProvider := some result.actualProvider, costOutcome := none })
  | .error e => pure (.error ⟨req.model, entry.provider, e⟩)

/-- What a semantic hit is served as, if it has a price. -/
def semanticResult (hit : Answer) : Option ProviderCallResult :=
  let cappedUsage :=
    hit.usage.map fun u => capUsageToRequestLimits u req.maxTokens entry.toModelRegistration
  (semanticHitFullAtomic state.pct cappedUsage req entry.toModelRegistration).map fun full =>
    { response := hit, cacheStatus := .semanticHit, usage := cappedUsage, actualProvider := none
      costOutcome := some (SemanticDiscount.new full state.hitPricePercent) }

/-- After the semantic tier. A hit without a price is passed over. -/
def executeAfterSemantic (pref : Option String) (hit : Option Answer) : ProviderCall :=
  match hit.bind (semanticResult state req entry) with
  | some result => pure (.ok result)
  | none => executeNonStreamingCall state req entry pref

/-- The semantic tier, then the upstream call. -/
def executeAfterExact (pref : Option String) : ProviderCall :=
  if state.semanticCache then
    Prog.ask CallCmd.getSemantic >>= executeAfterSemantic state req entry pref
  else executeNonStreamingCall state req entry pref

/-- `execute_provider_call`. -/
def executeProviderCall (headers : FallbackHeaders) : ProviderCall :=
  if req.stream then executeStreamingCall state req entry headers.pref
  else if state.exactCache then do
    let cached : Option Answer ← Prog.ask CallCmd.getExact
    match cached with
    | some cached =>
      pure (.ok
        { response := cached, cacheStatus := .hit, usage := cached.usage, actualProvider := none
          costOutcome := none })
    | none => executeAfterExact state req entry headers.pref
  else executeAfterExact state req entry headers.pref

/-- `run_native_relay`: one call of the model itself, or none without a relay. -/
def runNativeRelay : ProviderCall :=
  if state.nativeAnthropic then do
    let outcome : Except ProviderError Answer ← Prog.ask CallCmd.relay
    match outcome with
    | .ok answer =>
      pure (.ok
        { response := answer, cacheStatus := .skip
          usage := if req.stream then none else answer.usage
          actualProvider := some "anthropic", costOutcome := none })
    | .error e => pure (.error ⟨req.model, "anthropic", e⟩)
  else pure (.error ⟨req.model, entry.provider, "native Anthropic relay not configured"⟩)

/-- The fork all paths of `chat_completions_inner` take: `native` is a `/v1/messages` request. -/
def callProvider (native : Bool) (headers : FallbackHeaders) : ProviderCall :=
  if native && entry.provider == "anthropic" then runNativeRelay state req entry
  else executeProviderCall state req entry headers

end Calls

end Solvela.Chat

import Solvela.Chat.Dispatch

/-!
# The price of the models a request reaches

A request is admitted for nothing when its quote is zero, and otherwise pays the price of the
quoted model. Whatever the circuits and the upstreams answer, the models it is sent to are the
links of its chain that are not passed over, so what they cost against what the payer was quoted
is a condition on the chain. Quotes are made in the exact arithmetic here.
-/

namespace Solvela.Chat

open Solvela.ChannelLedger Solvela.Channel Solvela.Providers Solvela.Lib

/-! ## Which links a call reaches -/

/-- The chain of a request: the client's, or the built-in one. -/
def requestChain (req : CallRequest) (entry : RegistryEntry) (headers : FallbackHeaders) :
    List (String × String) :=
  (buildFallbackChain entry.provider req.model headers.pref).getD
    (modelFallbackChain entry.provider req.model)

/-- The loop of a request. -/
def requestLoop (state : CallState) (req : CallRequest) (entry : RegistryEntry)
    (pref : Option String) :
    Prog Cmd (Reply Answer) (Except ProviderError (FallbackResult Answer)) :=
  match req.stream, buildFallbackChain entry.provider req.model pref with
  | true, some chain => streamWithChain state.toGateway req.hasImages chain req.model
  | true, none => streamWithModelFallback state.toGateway req.hasImages entry.provider req.model
  | false, some chain => chatWithChain state.toGateway req.hasImages chain req.model
  | false, none => chatWithModelFallback state.toGateway req.hasImages entry.provider req.model

/-- The commands that leave the gateway for a provider. -/
def CallCmd.Leaves : CallCmd → Prop
  | .upstream _ => True
  | .relay => True
  | _ => False

section Reach
variable {state : CallState} {req : CallRequest} {entry : RegistryEntry} {p m : String}

theorem canSend_requestLoop {headers : FallbackHeaders} :
    Prog.CanSend (.dispatch p m) (requestLoop state req entry headers.pref) ↔
      (p, m) ∈ requestChain req entry headers ∧ state.skips req.hasImages p m = false := by
  unfold requestLoop requestChain
  cases req.stream <;> cases buildFallbackChain entry.provider req.model headers.pref <;>
    exact canSend_modelLoop

/-- A call that goes upstream and then keeps to the caches leaves the gateway as its loop does. -/
theorem canSend_thenQuiet {α : Type} {c : CallCmd} {loop : Prog Cmd (Reply Answer) α}
    {next : α → ProviderCall} (hquiet : ∀ a, ¬ Prog.CanSend c (next a)) :
    Prog.CanSend c (viaUpstream loop >>= next) ↔ Prog.CanSend c (viaUpstream loop) := by
  rw [Prog.canSend_bind]
  constructor
  · rintro (h | ⟨a, -, h⟩)
    · exact h
    · exact absurd h (hquiet a)
  · exact Or.inl

theorem canSend_executeStreamingCall {c : CallCmd} {pref : Option String}
    (hstream : req.stream = true) :
    Prog.CanSend c (executeStreamingCall state req entry pref) ↔
      Prog.CanSend c (viaUpstream (requestLoop state req entry pref)) := by
  unfold executeStreamingCall requestLoop
  rw [hstream, canSend_thenQuiet]
  · cases buildFallbackChain entry.provider req.model pref <;> exact Iff.rfl
  · intro result
    cases result <;> exact id

/-- Storing an answer keeps to the caches. -/
theorem not_canSend_storeAnswer {c : CallCmd} (hc : c.Leaves) {answer : Answer}
    {result : Except ProviderCallError ProviderCallResult} :
    ¬ Prog.CanSend c (storeAnswer state answer >>= fun _ => (pure result : ProviderCall)) := by
  have hexact : CallCmd.setExact answer ≠ c := by
    intro h
    rw [← h] at hc
    exact hc
  have hsemantic : CallCmd.setSemantic answer ≠ c := by
    intro h
    rw [← h] at hc
    exact hc
  unfold storeAnswer
  cases hone : state.exactCache <;> cases htwo : state.semanticCache <;>
    simp [Prog.CanSend, hexact, hsemantic]

theorem canSend_executeNonStreamingCall {c : CallCmd} (hc : c.Leaves) {pref : Option String}
    (hstream : req.stream = false) :
    Prog.CanSend c (executeNonStreamingCall state req entry pref) ↔
      Prog.CanSend c (viaUpstream (requestLoop state req entry pref)) := by
  unfold executeNonStreamingCall requestLoop
  rw [hstream, canSend_thenQuiet]
  · cases buildFallbackChain entry.provider req.model pref <;> exact Iff.rfl
  · intro result
    cases result with
    | ok result => exact not_canSend_storeAnswer hc
    | error e => exact id

theorem canSend_executeAfterExact {c : CallCmd} (hc : c.Leaves) {pref : Option String}
    (hstream : req.stream = false) :
    Prog.CanSend c (executeAfterExact state req entry pref) ↔
      Prog.CanSend c (viaUpstream (requestLoop state req entry pref)) := by
  unfold executeAfterExact
  split
  · constructor
    · rintro (h | ⟨hit, h⟩)
      · rw [← h] at hc
        exact absurd hc id
      · have h' : Prog.CanSend c (executeAfterSemantic state req entry pref hit) := h
        unfold executeAfterSemantic at h'
        split at h'
        · exact absurd h' id
        · exact (canSend_executeNonStreamingCall hc hstream).mp h'
    · intro h
      exact Or.inr ⟨none, (canSend_executeNonStreamingCall hc hstream).mpr h⟩
  · exact canSend_executeNonStreamingCall hc hstream

/-- A provider call leaves the gateway as its loop does: the caches can only miss. -/
theorem canSend_executeProviderCall {c : CallCmd} (hc : c.Leaves) {headers : FallbackHeaders} :
    Prog.CanSend c (executeProviderCall state req entry headers) ↔
      Prog.CanSend c (viaUpstream (requestLoop state req entry headers.pref)) := by
  unfold executeProviderCall
  cases hstream : req.stream with
  | true =>
    rw [if_pos rfl]
    exact canSend_executeStreamingCall hstream
  | false =>
    rw [if_neg (by simp)]
    split
    · constructor
      · rintro (h | ⟨cached, h⟩)
        · rw [← h] at hc
          exact absurd hc id
        · cases cached with
          | some cached => exact absurd h id
          | none => exact (canSend_executeAfterExact hc hstream).mp h
      · intro h
        exact Or.inr ⟨none, (canSend_executeAfterExact hc hstream).mpr h⟩
    · exact canSend_executeAfterExact hc hstream

/-- Some answers of caches, circuits and upstreams make the call reach a link exactly when the
link is in the request's chain and not passed over. -/
theorem reaches_link_iff {headers : FallbackHeaders} :
    Prog.CanSend (.upstream (.dispatch p m)) (executeProviderCall state req entry headers) ↔
      (p, m) ∈ requestChain req entry headers ∧ state.skips req.hasImages p m = false := by
  have hleaves : (CallCmd.upstream (.dispatch p m)).Leaves := trivial
  rw [canSend_executeProviderCall hleaves, ← canSend_requestLoop]
  apply Prog.canSend_embed
  · intro c d h
    exact CallCmd.upstream.inj h
  · intro c r
    exact ⟨r, rfl⟩

theorem not_reaches_relay {headers : FallbackHeaders} :
    ¬ Prog.CanSend .relay (executeProviderCall state req entry headers) := by
  have hloop {α : Type} (loop : Prog Cmd (Reply Answer) α) :
      ¬ Prog.CanSend .relay (viaUpstream loop) := by
    induction loop with
    | done a => exact id
    | call c next ih =>
      rintro (h | ⟨r, h⟩)
      · exact absurd h (by simp)
      · exact ih r h
  have hleaves : CallCmd.relay.Leaves := trivial
  rw [canSend_executeProviderCall hleaves]
  exact hloop _

end Reach

/-! ## Prices -/

/-- How a request is admitted to a provider: for nothing, or against a payment. -/
inductive Admission
  | free
  | paid
deriving DecidableEq

/-- A chat request at the point where it is quoted, for a model the registry has. A
`/v1/messages` request brings its own input estimate. -/
structure QuotedCall where
  state : CallState
  req : CallRequest
  entry : RegistryEntry
  registered : state.registry req.model = some entry
  headers : FallbackHeaders
  nativeInputTokens : Option ℕ

namespace QuotedCall

variable (call : QuotedCall)

/-- The quote, in atomic units. -/
def quote : Option ℕ :=
  usdcAtomicAmountChecked
    (estimateCost call.state.pct call.entry.toModelRegistration
      (call.nativeInputTokens.getD (estimateInputTokens call.req.toChatRequest))
      (completionTokenCeiling call.req.maxTokens call.entry.toModelRegistration)).total

/-- `is_free_estimate` decides the path; without a quote there is none. -/
def admission : Option Admission :=
  call.quote.map fun amount => if amount = 0 then .free else .paid

/-- The provider call of the request, on either path. -/
def providerCall : ProviderCall :=
  callProvider call.state call.req call.entry call.nativeInputTokens.isSome call.headers

/-- The registry entry of a link: the quoted one for the model itself. -/
def entryOf (link : String × String) : Option RegistryEntry :=
  if link = (call.entry.provider, call.req.model) then some call.entry
  else call.state.registry.ofLink link.1 link.2

end QuotedCall

/-- One price is at most another, and both are numbers. -/
def PriceLe (price bound : Price) : Prop :=
  ∃ x y, price = some x ∧ bound = some y ∧ x ≤ y

/-- What the payer pays per million tokens: nothing, or the quoted model's prices. -/
def payerPrice (admission : Admission) (quoted : RegistryEntry) : Price × Price :=
  match admission with
  | .free => (some 0, some 0)
  | .paid => (quoted.inputCostPerMillion, quoted.outputCostPerMillion)

/-- A model costs no more per token than the payer pays. -/
def CostsWithin (entry : RegistryEntry) (price : Price × Price) : Prop :=
  PriceLe entry.inputCostPerMillion price.1 ∧ PriceLe entry.outputCostPerMillion price.2

/-- Whatever the caches, circuits and upstreams answer, the request only reaches registered models
that cost no more than its payer pays. -/
def NeverAbovePayer (call : QuotedCall) : Prop :=
  ∀ admission, call.admission = some admission →
    (∀ p m, Prog.CanSend (.upstream (.dispatch p m)) call.providerCall →
      ∃ entry, call.entryOf (p, m) = some entry ∧
        CostsWithin entry (payerPrice admission call.entry)) ∧
    (Prog.CanSend .relay call.providerCall →
      CostsWithin call.entry (payerPrice admission call.entry))

/-- The request is relayed natively. -/
def QuotedCall.relayed (call : QuotedCall) : Bool :=
  call.nativeInputTokens.isSome && call.entry.provider == "anthropic"

/-- Every model of the request's chain whose provider is configured and that takes the request's
content is registered at no more than the payer's price. A relayed request has only its own
model. -/
def ChainWithinPayer (call : QuotedCall) : Prop :=
  ∀ admission, call.admission = some admission →
    if call.relayed then
      call.state.nativeAnthropic = true → CostsWithin call.entry (payerPrice admission call.entry)
    else
      ∀ link ∈ requestChain call.req call.entry call.headers,
        call.state.skips call.req.hasImages link.1 link.2 = false →
          ∃ entry, call.entryOf link = some entry ∧
            CostsWithin entry (payerPrice admission call.entry)

/-- A relayed request reaches its own model if there is a relay, and no link. -/
theorem canSend_runNativeRelay {state : CallState} {req : CallRequest} {entry : RegistryEntry} :
    (Prog.CanSend .relay (runNativeRelay state req entry) ↔ state.nativeAnthropic = true) ∧
      ∀ p m, ¬ Prog.CanSend (.upstream (.dispatch p m)) (runNativeRelay state req entry) := by
  unfold runNativeRelay
  cases state.nativeAnthropic with
  | false => exact ⟨⟨fun h => absurd h id, fun h => absurd h (by simp)⟩, fun p m => id⟩
  | true =>
    refine ⟨⟨fun _ => rfl, fun _ => Or.inl rfl⟩, ?_⟩
    intro p m h
    rcases h with h | ⟨outcome, h⟩
    · exact absurd h (by simp)
    · cases outcome <;> exact h

/-- A request never reaches a model above its payer's price exactly when its chain has none. -/
theorem never_above_payer_iff (call : QuotedCall) :
    NeverAbovePayer call ↔ ChainWithinPayer call := by
  unfold NeverAbovePayer ChainWithinPayer QuotedCall.providerCall callProvider
  apply forall_congr'
  intro admission
  apply imp_congr_right
  intro _
  have hrelayed : (call.nativeInputTokens.isSome && call.entry.provider == "anthropic")
      = call.relayed := rfl
  rw [hrelayed]
  cases call.relayed with
  -- a relay sends to the model that was asked for, and to no other
  | true =>
    rw [if_pos rfl, if_pos rfl]
    constructor
    · intro h hrelay
      exact h.2 (canSend_runNativeRelay.1.mpr hrelay)
    · intro h
      refine ⟨?_, fun hsend => h (canSend_runNativeRelay.1.mp hsend)⟩
      intro p m hsend
      exact absurd hsend (canSend_runNativeRelay.2 p m)
  | false =>
    rw [if_neg (by simp), if_neg (by simp)]
    constructor
    · intro h link hlink hkept
      exact h.1 link.1 link.2 (reaches_link_iff.mpr ⟨hlink, hkept⟩)
    · intro h
      refine ⟨?_, fun hsend => absurd hsend not_reaches_relay⟩
      intro p m hsend
      obtain ⟨hlink, hkept⟩ := reaches_link_iff.mp hsend
      exact h (p, m) hlink hkept

/-! ## A free request that a paid model answers -/

/-- The two models of the example, as the configuration has them. -/
def exampleRegistry : ModelRegistry := fun key =>
  if key = "nvidia/nvidia/llama-3.1-nemotron-nano-8b-v1" then
    some
      { inputCostPerMillion := some 0, outputCostPerMillion := some 0, contextWindow := 131072
        maxOutputTokens := none, provider := "nvidia", supportsVision := false }
  else if key = "openai/gpt-4o" then
    some
      { inputCostPerMillion := some (5 / 2), outputCostPerMillion := some 10
        contextWindow := 128000, maxOutputTokens := none, provider := "openai"
        supportsVision := true }
  else none

/-- A request for a free model, with a preference for a paid one. -/
def freeWithPreference : QuotedCall where
  state :=
    { configured := fun _ => true, registry := exampleRegistry, pct := 5, hitPricePercent := 50
      exactCache := true, semanticCache := false, nativeAnthropic := false }
  req :=
    { messages := [⟨40, []⟩], maxTokens := none
      model := "nvidia/nvidia/llama-3.1-nemotron-nano-8b-v1", stream := false }
  entry :=
    { inputCostPerMillion := some 0, outputCostPerMillion := some 0, contextWindow := 131072
      maxOutputTokens := none, provider := "nvidia", supportsVision := false }
  registered := rfl
  headers := { solvela := some ⟨some "openai/gpt-4o"⟩, rcr := none }
  nativeInputTokens := none

/-- When the free upstream fails, the request goes to the paid model, for nothing. -/
theorem free_request_reaches_paid_model : ¬ NeverAbovePayer freeWithPreference := by
  intro h
  have hfree : freeWithPreference.admission = some .free := by decide +kernel
  have hlink : ("openai", "gpt-4o") ∈ requestChain freeWithPreference.req
      freeWithPreference.entry freeWithPreference.headers := by decide +kernel
  have hsend : Prog.CanSend (.upstream (.dispatch "openai" "gpt-4o"))
      freeWithPreference.providerCall := by
    show Prog.CanSend _ (executeProviderCall freeWithPreference.state freeWithPreference.req
      freeWithPreference.entry freeWithPreference.headers)
    exact reaches_link_iff.mpr ⟨hlink, rfl⟩
  obtain ⟨entry, hentry, ⟨x, y, hx, hy, hle⟩, -⟩ := (h .free hfree).1 _ _ hsend
  have hprice : (freeWithPreference.entryOf ("openai", "gpt-4o")).bind (·.inputCostPerMillion)
      = some (5 / 2) := by decide +kernel
  rw [hentry, Option.bind_some, hx] at hprice
  have hzero : y = 0 := (Option.some.inj hy).symm
  rw [Option.some.inj hprice, hzero] at hle
  norm_num at hle

end Solvela.Chat

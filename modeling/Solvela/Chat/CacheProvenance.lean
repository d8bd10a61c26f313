import Solvela.Cache.PromptText
import Solvela.Chat.Dispatch
import Solvela.Ledger.Pubkey
import Solvela.Lib.Runs

/-!
# Where a cached answer comes from

Both caches are shared by all clients. The exact tier is keyed by a hash over the request's own
model and content, the semantic tier filters by the request's own model; what is stored under
them is the answer of whichever link of the request's chain succeeded.

Requests run concurrently, one command at a time. A store is a spawned write that lands later, or
never; entries expire. SHA-256, the embedding, the format of an `f32` and the search index are
parameters.
-/

namespace Solvela.Chat

open Solvela.ChannelLedger Solvela.Channel Solvela.Providers Solvela.Lib
open Solvela.Cache (SemanticTags paramTag tagQuery tagQuery_injective temperatureBytes)
open Solvela.Protocol (F32 Usage)

/-! ## Keys -/

/-- What the caches read of a request besides its model: the serialized fields, `none` where
serialization fails, the sampling parameters, and the prompt text within the embedding budget. -/
structure CacheBody where
  messagesJson : Option (List UInt8)
  toolsJson : Option (List UInt8)
  toolChoiceJson : Option (List UInt8)
  temperature : Option F32
  topP : Option F32
  promptText : Option (List UInt8)

/-- The parts of the caches that are not the gateway's own: `tagMatches query tags` says that the
search index finds an entry with these tags by the query. -/
structure CacheBackend where
  sha256 : List UInt8 → List UInt8
  embed : List UInt8 → Option (List UInt8)
  fourDecimals : F32 → String
  tagMatches : String → SemanticTags → Bool

/-- `cache_key`, without its fixed text before the digest. -/
def cacheKey (backend : CacheBackend) (model : String) (body : CacheBody) :
    Option (List UInt8) := do
  let messages ← body.messagesJson
  let tools ← body.toolsJson
  let toolChoice ← body.toolChoiceJson
  let temperature := body.temperature.elim [] fun temp => textBytes "|temp|" ++ temperatureBytes temp
  some <| backend.sha256 <|
    textBytes model ++ textBytes "|msgs|" ++ messages ++ textBytes "|tools|" ++ tools ++
      textBytes "|tool_choice|" ++ toolChoice ++ temperature

/-- The tags a request is stored under and looked up by. -/
def tagsOf (backend : CacheBackend) (model : String) (body : CacheBody) : SemanticTags :=
  ⟨model, paramTag backend.fourDecimals body.temperature,
    paramTag backend.fourDecimals body.topP⟩

/-- Requests for registered models that meet in a cache name the same model: the hash does not
collide, and the search index filters by the tag. -/
structure SeparatesModels (backend : CacheBackend) (registry : ModelRegistry) : Prop where
  key : ∀ model body model' body' k, (registry model).isSome → (registry model').isSome →
    cacheKey backend model body = some k → cacheKey backend model' body' = some k → model = model'
  tag : ∀ tags tags', (registry tags.model).isSome → (registry tags'.model).isSome →
    backend.tagMatches (tagQuery tags) tags' = true → tags.model = tags'.model

theorem eq_of_append_cons_eq {α : Type*} {a : α} {x y r r' : List α} (hx : a ∉ x) (hy : a ∉ y)
    (h : x ++ a :: r = y ++ a :: r') : x = y := by
  induction x generalizing y with
  | nil =>
    cases y with
    | nil => rfl
    | cons b y => exact absurd ((List.cons.inj h).1 ▸ List.mem_cons_self ..) hy
  | cons b x ih =>
    cases y with
    | nil => exact absurd ((List.cons.inj h).1 ▸ List.mem_cons_self ..) hx
    | cons c y =>
      obtain ⟨rfl, htail⟩ := List.cons.inj h
      rw [ih (fun hm => hx (List.mem_cons_of_mem b hm)) (fun hm => hy (List.mem_cons_of_mem b hm))
        htail]

/-- The text between the model and the messages keeps keys of different models apart, if no
model's name has a `|`; an index that finds an entry by the query of its own tags only keeps their
tags apart, since the query escapes them. -/
theorem separatesModels_of_injective {backend : CacheBackend} {registry : ModelRegistry}
    (hhash : Function.Injective backend.sha256)
    (hname : ∀ model, (registry model).isSome → (124 : UInt8) ∉ textBytes model)
    (htag : ∀ tags tags', backend.tagMatches (tagQuery tags) tags' = true →
      tagQuery tags = tagQuery tags') :
    SeparatesModels backend registry where
  key := by
    intro model body model' body' k hmodel hmodel' hk hk'
    unfold cacheKey at hk hk'
    obtain ⟨messages, -, hk⟩ := Option.bind_eq_some_iff.mp hk
    obtain ⟨tools, -, hk⟩ := Option.bind_eq_some_iff.mp hk
    obtain ⟨toolChoice, -, hk⟩ := Option.bind_eq_some_iff.mp hk
    obtain ⟨messages', -, hk'⟩ := Option.bind_eq_some_iff.mp hk'
    obtain ⟨tools', -, hk'⟩ := Option.bind_eq_some_iff.mp hk'
    obtain ⟨toolChoice', -, hk'⟩ := Option.bind_eq_some_iff.mp hk'
    have hbytes := hhash (Option.some.inj (hk.trans hk'.symm))
    have hmsgs : textBytes "|msgs|" = 124 :: [109, 115, 103, 115, 124] := by decide +kernel
    simp only [hmsgs, List.append_assoc, List.cons_append] at hbytes
    apply textBytes_injective
    exact eq_of_append_cons_eq (hname model hmodel) (hname model' hmodel') hbytes
  tag := by
    intro tags tags' _ _ h
    rw [tagQuery_injective (htag tags tags' h)]

/-! ## The system -/

/-- A request as it reaches its provider call. -/
structure ClientCall (state : CallState) where
  req : CallRequest
  body : CacheBody
  entry : RegistryEntry
  registered : state.registry req.model = some entry
  native : Bool
  headers : FallbackHeaders

/-- An entry of the semantic tier. -/
structure SemanticEntry where
  tags : SemanticTags
  embedding : List UInt8
  response : Answer

/-- A spawned write. -/
inductive CacheWrite
  | exact (key : List UInt8) (answer : Answer)
  | semantic (entry : SemanticEntry)

/-- A running request. -/
structure CallTask (state : CallState) where
  call : ClientCall state
  prog : ProviderCall

structure CacheSystem (state : CallState) where
  exact : List UInt8 → Option Answer
  semantic : List SemanticEntry
  writes : List CacheWrite
  tasks : List (CallTask state)

/-- What the environment contributes to one command: whether Redis answers, which entry is
nearest, what a circuit says, and what an upstream returns. -/
structure Surroundings where
  redis : Bool
  nearest : ℕ
  circuit : Bool
  outcome : Except ProviderError (String × Option Usage)

inductive CacheLabel (state : CallState)
  | arrive (call : ClientCall state)
  | step (i : ℕ) (env : Surroundings)
  | land (n : ℕ)
  | lose (n : ℕ)
  | expire (key : List UInt8)
  | evict (n : ℕ)

section System
variable {state : CallState} (backend : CacheBackend)

/-- `ResponseCache::get`: only for buffered requests, and never an answer without usage. -/
def ClientCall.exactGet (call : ClientCall state) (env : Surroundings)
    (exact : List UInt8 → Option Answer) : Option Answer :=
  if !env.redis || call.req.stream then none
  else (((cacheKey backend call.req.model call.body).bind exact)).filter (·.usage.isSome)

/-- `SemanticCache::get`: the nearest entry, if it passes the tag filter. -/
def ClientCall.semanticGet (call : ClientCall state) (env : Surroundings)
    (semantic : List SemanticEntry) : Option Answer :=
  if !env.redis || call.req.stream then none
  else do
    let prompt ← call.body.promptText
    let _ ← backend.embed prompt
    let entry ← semantic[env.nearest]?
    if backend.tagMatches (tagQuery (tagsOf backend call.req.model call.body)) entry.tags then
      some entry.response
    else none

/-- The write `ResponseCache::set` spawns. -/
def ClientCall.exactSet (call : ClientCall state) (answer : Answer) : List CacheWrite :=
  if call.req.stream || answer.usage.isNone then []
  else ((cacheKey backend call.req.model call.body).map (CacheWrite.exact · answer)).toList

/-- The write `SemanticCache::set` spawns. -/
def ClientCall.semanticSet (call : ClientCall state) (answer : Answer) : List CacheWrite :=
  if call.req.stream || answer.usage.isNone then []
  else
    ((call.body.promptText.bind backend.embed).map fun embedding =>
      CacheWrite.semantic ⟨tagsOf backend call.req.model call.body, embedding, answer⟩).toList

/-- An upstream's answer, with the link it comes from. -/
def answered (env : Surroundings) (producer : String × String) : Except ProviderError Answer :=
  env.outcome.map fun out => ⟨out.1, out.2, producer⟩

/-- One command of a request: its reply, and the write it spawns. -/
def execCall (s : CacheSystem state) (env : Surroundings) (call : ClientCall state) :
    (c : CallCmd) → CallReply c × List CacheWrite
  | .getExact => (call.exactGet backend env s.exact, [])
  | .getSemantic => (call.semanticGet backend env s.semantic, [])
  | .setExact answer => ((), call.exactSet backend answer)
  | .setSemantic answer => ((), call.semanticSet backend answer)
  | .upstream (.isAvailable _) => (env.circuit, [])
  | .upstream (.dispatch provider model) => (answered env (provider, model), [])
  | .upstream (.record _ _) => ((), [])
  | .relay => (answered env (call.entry.provider, call.req.model), [])

/-- `content_key`: the semantic tier keeps one entry for it. -/
def contentKey (entry : SemanticEntry) : List UInt8 :=
  backend.sha256 (textBytes entry.tags.model ++ [0] ++ textBytes entry.tags.temperature ++ [0] ++
    textBytes entry.tags.topP ++ [0] ++ entry.embedding)

/-- A write lands. -/
def landWrite (s : CacheSystem state) : CacheWrite → CacheSystem state
  | .exact key answer => { s with exact := Function.update s.exact key (some answer) }
  | .semantic entry =>
    { s with
      semantic := s.semantic.filter (fun e => contentKey backend e ≠ contentKey backend entry)
        ++ [entry] }

def cacheStep (s : CacheSystem state) : CacheLabel state → CacheSystem state
  | .arrive call =>
    { s with
      tasks := s.tasks ++
        [⟨call, callProvider state call.req call.entry call.native call.headers⟩] }
  | .step i env =>
    match s.tasks[i]? with
    | some ⟨call, .call c next⟩ =>
      let (reply, writes) := execCall backend s env call c
      { s with writes := s.writes ++ writes, tasks := s.tasks.set i ⟨call, next reply⟩ }
    | _ => s
  | .land n =>
    match s.writes[n]? with
    | some write => landWrite backend { s with writes := s.writes.eraseIdx n } write
    | none => s
  | .lose n => { s with writes := s.writes.eraseIdx n }
  | .expire key => { s with exact := Function.update s.exact key none }
  | .evict n => { s with semantic := s.semantic.eraseIdx n }

/-- Empty caches and no request. -/
def cacheStart : CacheSystem state where
  exact := fun _ => none
  semantic := []
  writes := []
  tasks := []

end System

/-! ## Whose answer it is -/

/-- The model an adapter asks its upstream for: its own name in front is taken off once. -/
def upstreamModel (link : String × String) : String × List Char :=
  let own := (link.1 ++ "/").toList
  if own.isPrefixOf link.2.toList then (link.1, link.2.toList.drop own.length)
  else (link.1, link.2.toList)

section Provenance
variable {state : CallState} {backend : CacheBackend}

/-- The answer was made by the model that the request names. -/
def ClientCall.Produced (call : ClientCall state) (answer : Answer) : Prop :=
  upstreamModel answer.producer = upstreamModel (call.entry.provider, call.req.model)

instance (call : ClientCall state) (answer : Answer) : Decidable (call.Produced answer) :=
  inferInstanceAs (Decidable (_ = _))

/-- What a finished request was served from a cache. -/
def CallTask.served (t : CallTask state) : Option ProviderCallResult :=
  match t.prog with
  | .done (.ok result) =>
    if result.cacheStatus = .hit ∨ result.cacheStatus = .semanticHit then some result else none
  | _ => none

/-- What a cache served was made by the model that the request names. -/
def ServedOwn (s : CacheSystem state) : Prop :=
  ∀ t ∈ s.tasks, ∀ result ∈ t.served, t.call.Produced result.response

instance (s : CacheSystem state) : Decidable (ServedOwn s) :=
  inferInstanceAs (Decidable (∀ t ∈ s.tasks, ∀ result ∈ t.served, _))

/-- A step in which another model than the requested one answers a buffered request, with
usage. -/
def foreignAnswer (s : CacheSystem state) : CacheLabel state → Bool
  | .step i env =>
    match s.tasks[i]?, env.outcome with
    | some ⟨call, .call (.upstream (.dispatch provider model)) _⟩, .ok (_, some _) =>
      (state.exactCache || state.semanticCache) && !call.req.stream &&
        upstreamModel (provider, model) ≠ upstreamModel (call.entry.provider, call.req.model)
    | _, _ => false
  | _ => false

/-! ## What a request does with answers -/

/-- The replies of a run without foreign answers. -/
def ClientCall.Fits (call : ClientCall state) : (c : CallCmd) → CallReply c → Prop
  | .getExact, reply => ∀ answer, reply = some answer → call.Produced answer
  | .getSemantic, reply => ∀ answer, reply = some answer → call.Produced answer
  | .upstream (.dispatch _ _), reply => ∀ answer, reply = .ok answer → answer.usage.isSome →
      (state.exactCache || state.semanticCache) = true → call.req.stream = false →
        call.Produced answer
  | _, _ => True

/-- Only answers of the requested model are stored. -/
def ClientCall.Stores (call : ClientCall state) : CallCmd → Prop
  | .setExact answer => answer.usage.isSome → call.Produced answer
  | .setSemantic answer => answer.usage.isSome → call.Produced answer
  | _ => True

/-- Only answers of the requested model are served from a cache. -/
def ClientCall.Serves (call : ClientCall state) :
    Except ProviderCallError ProviderCallResult → Prop
  | .ok result => result.cacheStatus = .hit ∨ result.cacheStatus = .semanticHit →
      call.Produced result.response
  | .error _ => True

/-- The specification of a request's program. There is nothing to remember between commands. -/
abbrev ClientCall.Keeps {α : Type} (call : ClientCall state) (post : α → Prop)
    (prog : Prog CallCmd CallReply α) : Prop :=
  Prog.Meets ⟨fun (_ : Unit) _ _ => (), fun _ c r => call.Fits c r⟩ (fun _ c => call.Stores c)
    (fun _ a => post a) () prog

/-- What a loop returns is an answer it got. -/
theorem ClientCall.keeps_modelLoop (call : ClientCall state) {skip : String → String → Bool}
    {exhausted : ProviderError} {wasFallback : String → String → Bool} {original : String}
    {chain : List (String × String)} {lastError : Option ProviderError} :
    call.Keeps (fun result => ∀ found, result = .ok found →
        (state.exactCache || state.semanticCache) = true → call.req.stream = false →
          found.data.usage.isSome → call.Produced found.data)
      (viaUpstream (modelLoop skip exhausted wasFallback original chain lastError)) := by
  induction chain generalizing lastError with
  | nil =>
    intro found hfound
    exact absurd hfound (by simp)
  | cons link rest ih =>
    obtain ⟨provider, model⟩ := link
    unfold modelLoop
    split
    · exact ih
    · refine ⟨trivial, ?_⟩
      intro modelAvailable _
      cases modelAvailable with
      | false => exact ih
      | true =>
        refine ⟨trivial, ?_⟩
        intro providerAvailable _
        cases providerAvailable with
        | false => exact ih
        | true =>
          refine ⟨trivial, ?_⟩
          -- the answer is the one that this link gave
          intro outcome hfits
          cases outcome with
          | ok response =>
            refine ⟨trivial, fun _ _ => ⟨trivial, fun _ _ => ?_⟩⟩
            intro found hfound hcache hbuffered husage
            obtain rfl := Except.ok.inj hfound
            exact hfits response rfl husage hcache hbuffered
          | error e => exact ⟨trivial, fun _ _ => ⟨trivial, fun _ _ => ih⟩⟩

theorem ClientCall.keeps_storeAnswer (call : ClientCall state) {answer : Answer}
    (h : (state.exactCache || state.semanticCache) = true → answer.usage.isSome →
      call.Produced answer) : call.Keeps (fun _ => True) (storeAnswer state answer) := by
  have hsemantic : call.Keeps (fun _ => True)
      (if state.semanticCache then Prog.ask (CallCmd.setSemantic answer) else pure ()) := by
    split
    · rename_i hcache
      exact ⟨h (by simp [hcache]), fun _ _ => trivial⟩
    · exact trivial
  show call.Keeps (fun _ => True)
    (if state.exactCache then Prog.ask (CallCmd.setExact answer) >>= fun _ => _ else _)
  split
  · rename_i hcache
    exact ⟨h (by simp [hcache]), fun _ _ => hsemantic⟩
  · exact hsemantic

theorem ClientCall.keeps_streaming (call : ClientCall state) (pref : Option String) :
    call.Keeps call.Serves (executeStreamingCall state call.req call.entry pref) := by
  unfold executeStreamingCall
  -- both loops are `modelLoop`, over the chain or over the fallback models
  cases buildFallbackChain call.entry.provider call.req.model pref
  all_goals
    refine call.keeps_modelLoop.bind ?_
    intro _ result _
    cases result with
    | ok found =>
      intro hstatus
      exact absurd hstatus (by simp)
    | error e => exact trivial

theorem ClientCall.keeps_nonStreaming (call : ClientCall state)
    (hbuffered : call.req.stream = false) (pref : Option String) :
    call.Keeps call.Serves (executeNonStreamingCall state call.req call.entry pref) := by
  unfold executeNonStreamingCall
  cases buildFallbackChain call.entry.provider call.req.model pref
  all_goals
    refine call.keeps_modelLoop.bind ?_
    intro _ result hresult
    cases result with
    | error e => exact trivial
    | ok found =>
      refine (call.keeps_storeAnswer fun hcache => hresult found rfl hcache hbuffered).bind ?_
      intro _ _ _ hstatus
      exact absurd hstatus (by simp)

theorem ClientCall.keeps_afterExact (call : ClientCall state)
    (hbuffered : call.req.stream = false) (pref : Option String) :
    call.Keeps call.Serves (executeAfterExact state call.req call.entry pref) := by
  unfold executeAfterExact
  split
  · refine Prog.Meets.ask trivial ?_
    intro hit hfits
    unfold executeAfterSemantic
    split
    · rename_i result hresult
      intro _
      obtain ⟨answer, hanswer, hserved⟩ := Option.bind_eq_some_iff.mp hresult
      obtain ⟨full, -, rfl⟩ := Option.map_eq_some_iff.mp hserved
      exact hfits answer hanswer
    · exact call.keeps_nonStreaming hbuffered pref
  · exact call.keeps_nonStreaming hbuffered pref

/-- Whatever the caches and the upstreams answer within a run without foreign answers, a request
stores and serves answers of its own model. -/
theorem ClientCall.keeps_callProvider (call : ClientCall state) :
    call.Keeps call.Serves
      (callProvider state call.req call.entry call.native call.headers) := by
  unfold callProvider
  -- a relayed answer is not served from a cache
  split
  · unfold runNativeRelay
    split
    · refine Prog.Meets.ask trivial ?_
      intro outcome _
      cases outcome with
      | error e => exact trivial
      | ok answer =>
        intro hstatus
        exact absurd hstatus (by simp)
    · exact trivial
  · unfold executeProviderCall
    split
    -- nor is a stream stored
    · exact call.keeps_streaming _
    · rename_i hstream
      have hbuffered : call.req.stream = false := by simpa using hstream
      split
      · refine Prog.Meets.ask trivial ?_
        intro cached hfits
        cases cached with
        | some answer =>
          intro _
          exact hfits answer rfl
        | none => exact call.keeps_afterExact hbuffered _
      · exact call.keeps_afterExact hbuffered _

/-! ## Runs -/

/-- The answer of a write was made by the model that the write is filed under. -/
def CacheWrite.Own (backend : CacheBackend) (state : CallState) : CacheWrite → Prop
  | .exact key answer => ∃ call : ClientCall state,
      cacheKey backend call.req.model call.body = some key ∧ call.Produced answer
  | .semantic entry => ∃ call : ClientCall state,
      entry.tags = tagsOf backend call.req.model call.body ∧ call.Produced entry.response

/-- Everything that is stored, on its way to a cache, or still to be stored, is filed under the
model that made it. -/
structure OwnAnswers (backend : CacheBackend) (s : CacheSystem state) : Prop where
  exact : ∀ key answer, s.exact key = some answer →
    (CacheWrite.exact key answer).Own backend state
  semantic : ∀ entry ∈ s.semantic, (CacheWrite.semantic entry).Own backend state
  writes : ∀ write ∈ s.writes, write.Own backend state
  tasks : ∀ t ∈ s.tasks, t.call.Keeps t.call.Serves t.prog

/-- Requests for one model have one registry entry. -/
theorem ClientCall.produced_of_model_eq {call call' : ClientCall state}
    (h : call.req.model = call'.req.model) {answer : Answer} (hanswer : call.Produced answer) :
    call'.Produced answer := by
  have hentry : call.entry = call'.entry := by
    have h₁ := call.registered
    rw [h, call'.registered] at h₁
    exact (Option.some.inj h₁).symm
  unfold ClientCall.Produced at hanswer ⊢
  rw [hanswer, hentry, h]

theorem ClientCall.isSome_registry (call : ClientCall state) :
    (state.registry call.req.model).isSome := by
  rw [call.registered]
  rfl

section Steps
variable {s : CacheSystem state} (hsep : SeparatesModels backend state.registry)
include hsep

theorem produced_exactGet (h : OwnAnswers backend s) (call : ClientCall state)
    (env : Surroundings) {answer : Answer}
    (hget : call.exactGet backend env s.exact = some answer) : call.Produced answer := by
  unfold ClientCall.exactGet at hget
  split at hget
  · exact absurd hget (by simp)
  · obtain ⟨hbind, -⟩ := Option.filter_eq_some_iff.mp hget
    obtain ⟨key, hkey, hentry⟩ := Option.bind_eq_some_iff.mp hbind
    obtain ⟨writer, hwriter, hown⟩ := h.exact key answer hentry
    have hmodel := hsep.key _ _ _ _ key writer.isSome_registry call.isSome_registry hwriter hkey
    exact ClientCall.produced_of_model_eq hmodel hown

theorem produced_semanticGet (h : OwnAnswers backend s) (call : ClientCall state)
    (env : Surroundings) {answer : Answer}
    (hget : call.semanticGet backend env s.semantic = some answer) : call.Produced answer := by
  unfold ClientCall.semanticGet at hget
  split at hget
  · exact absurd hget (by simp)
  · obtain ⟨prompt, -, hget⟩ := Option.bind_eq_some_iff.mp hget
    obtain ⟨embedding, -, hget⟩ := Option.bind_eq_some_iff.mp hget
    obtain ⟨entry, hentry, hget⟩ := Option.bind_eq_some_iff.mp hget
    split at hget
    · rename_i htag
      obtain ⟨writer, hwriter, hown⟩ := h.semantic entry (List.mem_of_getElem? hentry)
      obtain rfl := Option.some.inj hget
      rw [hwriter] at htag
      have hmodel := hsep.tag _ _ call.isSome_registry writer.isSome_registry htag
      exact ClientCall.produced_of_model_eq hmodel.symm hown
    · exact absurd hget (by simp)

/-- The reply to a command fits, unless the step brings a foreign answer. -/
theorem execCall_fits (h : OwnAnswers backend s) {i : ℕ} {env : Surroundings}
    {call : ClientCall state} {c : CallCmd} {next : CallReply c → ProviderCall}
    (hi : s.tasks[i]? = some ⟨call, .call c next⟩)
    (hforeign : foreignAnswer s (.step i env) = false) :
    call.Fits c (execCall backend s env call c).1 := by
  match c with
  | .getExact =>
    intro answer hget
    exact produced_exactGet hsep h call env hget
  | .getSemantic =>
    intro answer hget
    exact produced_semanticGet hsep h call env hget
  -- an answer of another model would be a foreign one
  | .upstream (.dispatch provider model) =>
    intro answer hanswer husage hcache hbuffered
    change answered env (provider, model) = .ok answer at hanswer
    unfold answered at hanswer
    simp only [foreignAnswer, hi] at hforeign
    rcases houtcome : env.outcome with e | ⟨text, usage⟩
    · rw [houtcome] at hanswer
      exact absurd hanswer (by simp [Except.map])
    · rw [houtcome] at hanswer hforeign
      obtain rfl := Except.ok.inj hanswer
      cases usage with
      | none => exact absurd husage (by simp)
      | some usage =>
        simp only [hcache, hbuffered, Bool.not_false, Bool.and_true, Bool.true_and,
          decide_eq_false_iff_not, ne_eq, not_not] at hforeign
        exact hforeign
  | .setExact answer => trivial
  | .setSemantic answer => trivial
  | .upstream (.isAvailable circuit) => trivial
  | .upstream (.record circuit success) => trivial
  | .relay => trivial

omit hsep in
/-- What a request stores is filed under its own model. -/
theorem execCall_writes {env : Surroundings} {call : ClientCall state} {c : CallCmd}
    (hstores : call.Stores c) :
    ∀ write ∈ (execCall backend s env call c).2, write.Own backend state := by
  intro write hwrite
  match c with
  | .setExact answer =>
    change write ∈ call.exactSet backend answer at hwrite
    unfold ClientCall.exactSet at hwrite
    split at hwrite
    · exact absurd hwrite (List.not_mem_nil)
    · rename_i hguard
      simp only [Bool.or_eq_true, not_or, Option.isNone_iff_eq_none] at hguard
      obtain ⟨key, hkey, rfl⟩ := Option.map_eq_some_iff.mp (Option.mem_toList.mp hwrite)
      exact ⟨call, hkey, hstores (Option.isSome_iff_ne_none.mpr hguard.2)⟩
  | .setSemantic answer =>
    change write ∈ call.semanticSet backend answer at hwrite
    unfold ClientCall.semanticSet at hwrite
    split at hwrite
    · exact absurd hwrite (List.not_mem_nil)
    · rename_i hguard
      simp only [Bool.or_eq_true, not_or, Option.isNone_iff_eq_none] at hguard
      obtain ⟨embedding, -, rfl⟩ := Option.map_eq_some_iff.mp (Option.mem_toList.mp hwrite)
      exact ⟨call, rfl, hstores (Option.isSome_iff_ne_none.mpr hguard.2)⟩
  | .getExact => exact absurd hwrite (List.not_mem_nil)
  | .getSemantic => exact absurd hwrite (List.not_mem_nil)
  | .upstream (.isAvailable circuit) => exact absurd hwrite (List.not_mem_nil)
  | .upstream (.dispatch provider model) => exact absurd hwrite (List.not_mem_nil)
  | .upstream (.record circuit success) => exact absurd hwrite (List.not_mem_nil)
  | .relay => exact absurd hwrite (List.not_mem_nil)

omit hsep in
theorem ownAnswers_landWrite (h : OwnAnswers backend s) {write : CacheWrite}
    (hwrite : write.Own backend state) : OwnAnswers backend (landWrite backend s write) := by
  cases write with
  | exact key answer =>
    refine { h with exact := ?_ }
    intro key' answer' hget
    change Function.update s.exact key (some answer) key' = some answer' at hget
    by_cases hkey : key' = key
    · rw [hkey, Function.update_self] at hget
      obtain rfl := Option.some.inj hget
      rw [hkey]
      exact hwrite
    · rw [Function.update_of_ne hkey] at hget
      exact h.exact key' answer' hget
  | semantic entry =>
    refine { h with semantic := ?_ }
    intro entry' hmem
    rcases List.mem_append.mp hmem with hold | hnew
    · exact h.semantic entry' (List.mem_of_mem_filter hold)
    · rw [List.mem_singleton.mp hnew]
      exact hwrite

theorem ownAnswers_step (a : CacheLabel state) (h : OwnAnswers backend s)
    (hforeign : foreignAnswer s a = false) : OwnAnswers backend (cacheStep backend s a) := by
  cases a with
  -- a new call has not stored anything
  | arrive call =>
    refine { h with tasks := ?_ }
    intro t ht
    rcases List.mem_append.mp ht with hold | hnew
    · exact h.tasks t hold
    · rw [List.mem_singleton.mp hnew]
      exact call.keeps_callProvider
  | step i env =>
    simp only [cacheStep]
    split
    -- what a command stores is its own answer, unless the chain fell back
    · rename_i call c next hi
      obtain ⟨hstores, hnext⟩ := h.tasks _ (List.mem_of_getElem? hi)
      refine { h with writes := ?_, tasks := ?_ }
      · intro write hwrite
        rcases List.mem_append.mp hwrite with hold | hnew
        · exact h.writes write hold
        · exact execCall_writes hstores write hnew
      · intro t ht
        rcases List.mem_or_eq_of_mem_set ht with hold | rfl
        · exact h.tasks t hold
        · exact hnext _ (execCall_fits hsep h hi hforeign)
    · exact h
  | land n =>
    simp only [cacheStep]
    split
    · rename_i write hn
      refine ownAnswers_landWrite ?_ (h.writes write (List.mem_of_getElem? hn))
      exact { h with writes := fun w hw => h.writes w (List.mem_of_mem_eraseIdx hw) }
    · exact h
  -- writes that are lost and entries that expire or are evicted only go
  | lose n => exact { h with writes := fun w hw => h.writes w (List.mem_of_mem_eraseIdx hw) }
  | expire key =>
    refine { h with exact := ?_ }
    intro key' answer hget
    change Function.update s.exact key none key' = some answer at hget
    by_cases hkey : key' = key
    · rw [hkey, Function.update_self] at hget
      exact absurd hget (by simp)
    · rw [Function.update_of_ne hkey] at hget
      exact h.exact key' answer hget
  | evict n =>
    exact { h with semantic := fun e he => h.semantic e (List.mem_of_mem_eraseIdx he) }

omit hsep in
theorem ownAnswers_start : OwnAnswers backend (cacheStart : CacheSystem state) where
  exact := by
    intro key answer hget
    exact absurd hget (by simp [cacheStart])
  semantic := by
    intro entry hentry
    exact absurd hentry (List.not_mem_nil)
  writes := by
    intro write hwrite
    exact absurd hwrite (List.not_mem_nil)
  tasks := by
    intro t ht
    exact absurd ht (List.not_mem_nil)

omit hsep in
theorem OwnAnswers.servedOwn (h : OwnAnswers backend s) : ServedOwn s := by
  intro t ht result hserved
  have hkeeps := h.tasks t ht
  unfold CallTask.served at hserved
  split at hserved
  · rename_i result' hdone
    rw [hdone] at hkeeps
    split at hserved
    · rename_i hstatus
      obtain rfl := Option.some.inj hserved
      exact hkeeps hstatus
    · exact absurd hserved (by simp)
  · exact absurd hserved (by simp)

/-- In every history in which no fallback answers a buffered request, whatever the clients send
and however their requests, the writes and the expirations interleave, a cached answer that is
served was made by the model that the request names. -/
theorem cached_answer_own_model (labels : List (CacheLabel state))
    (hforeign : AllSteps (cacheStep backend) (fun s a => foreignAnswer s a = false) cacheStart
      labels) : ServedOwn (run (cacheStep backend) cacheStart labels) := by
  have hown : OwnAnswers backend (run (cacheStep backend) cacheStart labels) := by
    apply run_invariant_of_allSteps (C := fun s a => foreignAnswer s a = false)
    · intro s a h hforeign
      exact ownAnswers_step hsep a h hforeign
    · exact ownAnswers_start
    · exact hforeign
  exact hown.servedOwn

end Steps

end Provenance

/-! ## A fallback's answer under the requested model -/

/-- Two models, as the configuration has them. -/
def pairRegistry : ModelRegistry := fun key =>
  if key = "openai/gpt-4o" then
    some
      { inputCostPerMillion := some (5 / 2), outputCostPerMillion := some 10
        contextWindow := 128000, maxOutputTokens := none, provider := "openai"
        supportsVision := true }
  else if key = "google/gemini-2.5-flash" then
    some
      { inputCostPerMillion := some (3 / 10), outputCostPerMillion := some (5 / 2)
        contextWindow := 1000000, maxOutputTokens := none, provider := "google"
        supportsVision := true }
  else none

/-- A gateway with both caches. -/
def pairState : CallState where
  configured := fun _ => true
  registry := pairRegistry
  pct := 5
  hitPricePercent := 50
  exactCache := true
  semanticCache := true
  nativeAnthropic := false

/-- A hash without collisions, and an index that finds an entry by the query of its tags. -/
def plainBackend : CacheBackend where
  sha256 := id
  embed := some
  fourDecimals := fun _ => "0.7000"
  tagMatches := fun query tags => query = tagQuery tags

/-- A buffered request for `gpt-4o`. -/
def gpt4oCall (headers : FallbackHeaders) : ClientCall pairState where
  req := { messages := [⟨5, []⟩], maxTokens := none, model := "openai/gpt-4o", stream := false }
  body :=
    { messagesJson := some [91, 93], toolsJson := some [110], toolChoiceJson := some [110]
      temperature := none, topP := none, promptText := some [104, 105] }
  entry :=
    { inputCostPerMillion := some (5 / 2), outputCostPerMillion := some 10
      contextWindow := 128000, maxOutputTokens := none, provider := "openai"
      supportsVision := true }
  registered := rfl
  native := false
  headers := headers

/-- Redis answers, the circuits are closed, and the upstream succeeds or not. -/
def upstreamSays (ok : Bool) : Surroundings where
  redis := true
  nearest := 0
  circuit := true
  outcome := if ok then .ok ("hello", some ⟨10, 5, 15⟩) else .error "503"

/-- Whatever is asked next, the first request goes on; then its writes land, and a second request
looks its own up. -/
def requestThenHit (headers : FallbackHeaders) (outcomes : List Bool) :
    List (CacheLabel pairState) :=
  ([.arrive (gpt4oCall headers)] : List (CacheLabel pairState)) ++
    outcomes.map (fun ok => .step 0 (upstreamSays ok)) ++
    ([.land 0, .land 0, .arrive (gpt4oCall ⟨none, none⟩), .step 1 (upstreamSays true)] :
      List (CacheLabel pairState))

theorem separatesModels_plainBackend : SeparatesModels plainBackend pairRegistry := by
  apply separatesModels_of_injective
  · exact Function.injective_id
  · intro model hmodel
    unfold pairRegistry at hmodel
    split at hmodel
    · rename_i h
      rw [h]
      decide +kernel
    · split at hmodel
      · rename_i h
        rw [h]
        decide +kernel
      · exact absurd hmodel (by simp)
  · intro tags tags' h
    simpa only [plainBackend, decide_eq_true_eq] using h

/-- A second client is served what the first one's own model answered. -/
theorem own_answer_served_to_second_client :
    let labels := requestThenHit ⟨none, none⟩ (List.replicate 9 true)
    (run (cacheStep plainBackend) cacheStart labels).tasks.map (·.served.isSome)
        = [false, true] ∧
      ServedOwn (run (cacheStep plainBackend) cacheStart labels) :=
  ⟨by decide +kernel,
    cached_answer_own_model separatesModels_plainBackend _ (by decide +kernel)⟩

/-- A first client prefers `gemini-2.5-flash` as a fallback and its `gpt-4o` call fails: a second
client gets the answer of `gemini-2.5-flash` for `gpt-4o`. -/
theorem fallback_answer_served_for_requested_model :
    ¬ ServedOwn (run (cacheStep plainBackend) cacheStart
      (requestThenHit ⟨some ⟨some "google/gemini-2.5-flash"⟩, none⟩
        (List.replicate 5 false ++ List.replicate 9 true))) := by
  decide +kernel

end Solvela.Chat

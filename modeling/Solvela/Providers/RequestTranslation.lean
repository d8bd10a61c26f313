import Solvela.Lib.Traverse
import Solvela.Providers.Gemini

/-!
# Requests in a provider's own format

`to_anthropic_request` and `to_gemini_request` translate a chat request for the two providers that
do not speak the OpenAI format. Both sort the messages by role: system and developer messages go to
a channel of texts, and the others are translated part by part. The route has checked the images of
the request before, at its image gate.
-/

namespace Solvela.Providers

open Solvela.Protocol
open Solvela.Lib (mapM_ok_iff exists_mapM_ok_iff forM_ok_iff)
open Solvela.Lib.Txn (except_bind_ok)

/-! ## The image gate -/

/-- The `GatewayError` of the image gate. `InvalidImage` is the `BadRequest` of a parse error. -/
inductive ImageGateError
  | unsupportedMediaType (message : String)
  | badRequest (message : String)
  | invalidImage (e : ParseImageError)
deriving DecidableEq

/-- The text of the answer. -/
def ImageGateError.text (debug : String → String) : ImageGateError → String
  | .unsupportedMediaType message => message
  | .badRequest message => message
  | .invalidImage e => "invalid image: " ++ e.text debug

/-- The text that the gate and both adapters answer an image in a system message with. -/
def systemImageText : String :=
  "image content is not supported in system/developer messages; place images in a user message"

/-- The gate's answer to a model without vision. -/
def noVisionText (model : String) : String :=
  s!"model '{model}' does not support image input; use a vision-capable model or send " ++
    "text-only content"

/-- The two roles whose messages go to the system channel. -/
def isSystemRole (role : Role) : Bool := role = .system || role = .developer

/-- The gate on one message. -/
def checkMessageImages (msg : ChatMessage) : Except ImageGateError Unit :=
  if isSystemRole msg.role && msg.content.hasImageParts then .error (.badRequest systemImageText)
  else
    msg.content.imageUrls.forM fun image =>
      match image.parse with
      | .error e => .error (.invalidImage e)
      | .ok _ => .ok ()

/-- The image gate of `chat_completions_inner`. -/
def imageGate (supportsVision : Bool) (req : ChatRequest) : Except ImageGateError Unit :=
  let requestHasImages := req.messages.any (·.content.hasImageParts)
  if requestHasImages && !supportsVision then
    .error (.unsupportedMediaType (noVisionText req.model))
  else if requestHasImages then req.messages.forM checkMessageImages
  else .ok ()

/-! ## Wire types -/

/-- `AnthropicImageSource`. -/
inductive AnthropicImageSource
  | base64 (mediaType data : String)
  | url (url : String)
deriving DecidableEq

/-- `AnthropicContentBlockOut`. -/
inductive AnthropicContentBlockOut
  | text (text : String)
  | image (source : AnthropicImageSource)
deriving DecidableEq

/-- `AnthropicMessage`. -/
structure AnthropicMessage where
  role : String
  content : List AnthropicContentBlockOut
deriving DecidableEq

/-- `AnthropicTextBlockType`. -/
inductive AnthropicTextBlockType
  | text
deriving DecidableEq

/-- `AnthropicCacheControl`. -/
inductive AnthropicCacheControl
  | ephemeral
deriving DecidableEq

/-- `AnthropicSystemBlock`. -/
structure AnthropicSystemBlock where
  blockType : AnthropicTextBlockType
  text : String
  cacheControl : Option AnthropicCacheControl
deriving DecidableEq

/-- `AnthropicRequest`. -/
structure AnthropicRequest where
  model : String
  maxTokens : ℕ
  system : Option (List AnthropicSystemBlock)
  messages : List AnthropicMessage
  temperature : Option F32
  topP : Option F32
  stream : Option Bool
deriving DecidableEq

/-- `GeminiGenerationConfig`. -/
structure GeminiGenerationConfig where
  maxOutputTokens : Option ℕ
  temperature : Option F32
  topP : Option F32

/-- `GeminiRequest`. -/
structure GeminiRequest where
  contents : List GeminiContent
  systemInstruction : Option GeminiContent
  generationConfig : Option GeminiGenerationConfig

/-! ## The adapters -/

/-- What an adapter fails with: a text of its own, or the text of a parse error. -/
inductive TranslationError
  | message (text : String)
  | image (e : ParseImageError)
deriving DecidableEq

/-- The text of an adapter's error. -/
def TranslationError.text (debug : String → String) : TranslationError → String
  | .message text => text
  | .image e => e.text debug

section Content

variable {β : Type} (text : String → β) (image : ParsedImage → β)

/-- One part, where `text` and `image` say what becomes of its text or its parsed image. -/
def translatePart : ContentPart → Except TranslationError β
  | .text s => .ok (text s)
  | .imageUrl url =>
    match url.parse with
    | .error e => .error (.image e)
    | .ok parsed => .ok (image parsed)

/-- The content of a message, part by part. -/
def translateContent : MessageContent → Except TranslationError (List β)
  | .text s => .ok [text s]
  | .parts values => values.mapM (translatePart text image)

end Content

/-- The image block of `content_to_anthropic_blocks`. -/
def anthropicImage : ParsedImage → AnthropicContentBlockOut
  | .base64 mediaType data => .image (.base64 mediaType data)
  | .url url => .image (.url url)

/-- `content_to_anthropic_blocks`. -/
def contentToAnthropicBlocks : MessageContent →
    Except TranslationError (List AnthropicContentBlockOut) :=
  translateContent .text anthropicImage

/-- The last piece of a text after a `.`, which is the whole text when it has none. -/
def extension (path : List Char) : List Char := (path.reverse.takeWhile (· ≠ '.')).reverse

/-- `mime_type_from_url`. -/
def mimeTypeFromUrl (url : String) : String :=
  let beforeQuery := url.toList.takeWhile fun c => c ≠ '?' && c ≠ '#'
  let path := (beforeQuery.reverse.dropWhile (· = '/')).reverse
  match String.ofList ((extension path).map Char.toLower) with
  | "png" => "image/png"
  | "jpg" | "jpeg" => "image/jpeg"
  | "webp" => "image/webp"
  | _ => "image/jpeg"

/-- The image part of `content_to_gemini_parts`. -/
def geminiImage : ParsedImage → GeminiPart
  | .base64 mediaType data => .inlineData mediaType data
  | .url url => .fileData (mimeTypeFromUrl url) url

/-- `GeminiPart::text`. -/
def geminiText (text : String) : GeminiPart := .text text none

/-- `content_to_gemini_parts`. -/
def contentToGeminiParts : MessageContent → Except TranslationError (List GeminiPart) :=
  translateContent geminiText geminiImage

/-- The texts of the system channel, which has no place for an image. -/
def systemTexts (messages : List ChatMessage) : Except TranslationError (List String) :=
  (messages.filter (isSystemRole ·.role)).mapM fun m =>
    if m.content.hasImageParts then .error (.message systemImageText) else .ok m.content.asText

/-- The text that `to_anthropic_request` answers an image in a tool message with. -/
def toolImageText : String :=
  "image content in tool-role messages is not supported for Anthropic models; place images in " ++
    "a user message"

/-- The guard of `to_anthropic_request` against images in tool messages. -/
def rejectToolImages (messages : List ChatMessage) : Except TranslationError Unit :=
  if messages.any fun m => m.role = .tool && m.content.hasImageParts then
    .error (.message toolImageText)
  else .ok ()

/-- The model of an Anthropic request, without the provider before it. -/
def anthropicModelId (model : String) : String :=
  match stripPrefix? "anthropic/".toList model.toList with
  | some rest => String.ofList rest
  | none => model

/-- A user or an assistant message. -/
def isTurn (m : ChatMessage) : Bool := m.role = .user || m.role = .assistant

/-- One turn of `to_anthropic_request`. -/
def anthropicMessage (m : ChatMessage) : Except TranslationError AnthropicMessage := do
  let content ← contentToAnthropicBlocks m.content
  return { role := if m.role = .assistant then "assistant" else "user", content := content }

/-- `to_anthropic_request`. -/
def toAnthropicRequest (req : ChatRequest) : Except TranslationError AnthropicRequest := do
  let system ← systemTexts req.messages
  rejectToolImages req.messages
  let messages ← (req.messages.filter isTurn).mapM anthropicMessage
  return {
    model := anthropicModelId req.model
    maxTokens := req.maxTokens.getD 4096
    system :=
      if system.isEmpty then none
      else some [⟨.text, "\n\n".intercalate system, some .ephemeral⟩]
    messages := messages
    temperature := req.temperature
    topP := req.topP
    stream := none }

/-- The messages that `to_gemini_request` keeps for `contents`. -/
def isGeminiContent (m : ChatMessage) : Bool :=
  m.role ≠ .system && m.role ≠ .developer && m.role ≠ .unknown

/-- One message of `to_gemini_request`. -/
def geminiContent (m : ChatMessage) : Except TranslationError GeminiContent := do
  let parts ← contentToGeminiParts m.content
  return { role := some (if m.role = .assistant then "model" else "user"), parts := parts }

/-- `to_gemini_request`. -/
def toGeminiRequest (req : ChatRequest) : Except TranslationError GeminiRequest := do
  let system ← systemTexts req.messages
  let contents ← (req.messages.filter isGeminiContent).mapM geminiContent
  return {
    contents := contents
    systemInstruction :=
      if system.isEmpty then none else some ⟨none, [geminiText ("\n\n".intercalate system)]⟩
    generationConfig :=
      if req.maxTokens.isSome || req.temperature.isSome || req.topP.isSome then
        some ⟨req.maxTokens, req.temperature, req.topP⟩
      else none }

/-! ## What a translation has to keep -/

/-- The parts of a message. A plain text is one text part. -/
def messageParts : MessageContent → List ContentPart
  | .text s => [.text s]
  | .parts values => values

section Delivery

variable {β : Type} (text : String → β) (image : ParsedImage → β)

/-- What was emitted for a part: its text, or the payload its image parses to. -/
inductive Emitted : ContentPart → β → Prop
  | text (s : String) : Emitted (.text s) (text s)
  | image {url : ImageUrl} {parsed : ParsedImage} (h : url.parse = .ok parsed) :
      Emitted (.imageUrl url) (image parsed)

/-- What was emitted for a message: every part, in its position. -/
def EmittedParts (m : ChatMessage) (emitted : List β) : Prop :=
  List.Forall₂ (Emitted text image) (messageParts m.content) emitted

/-- What was emitted is the messages `kept`, and these have every image of the request and all of
its turns. -/
structure KeptIn (messages kept : List ChatMessage) (emitted : List (List β)) : Prop where
  sublist : kept.Sublist messages
  parts : List.Forall₂ (EmittedParts text image) kept emitted
  images : kept.flatMap (·.content.imageUrls) = messages.flatMap (·.content.imageUrls)
  turns : kept.filter isTurn = messages.filter isTurn

/-- No image was dropped, and no turn. -/
def Delivered (messages : List ChatMessage) (emitted : List (List β)) : Prop :=
  ∃ kept, KeptIn text image messages kept emitted

variable {text image}

theorem translatePart_ok_iff {part : ContentPart} {b : β} :
    translatePart text image part = .ok b ↔ Emitted text image part b := by
  cases part with
  | text s =>
    show Except.ok (text s) = .ok b ↔ _
    rw [Except.ok.injEq]
    constructor
    · intro h
      rw [← h]
      exact .text s
    · intro h
      cases h
      rfl
  | imageUrl url =>
    rw [translatePart]
    constructor
    · intro h
      cases hp : url.parse with
      | error e => rw [hp] at h; cases h
      | ok parsed =>
        rw [hp] at h
        cases h
        exact .image hp
    · intro h
      cases h with
      | image hp => rw [hp]

/-- A translated content has the parts of the message, one by one. -/
theorem translateContent_ok_iff {m : ChatMessage} {bs : List β} :
    translateContent text image m.content = .ok bs ↔ EmittedParts text image m bs := by
  unfold EmittedParts
  cases m.content with
  | text s =>
    show Except.ok [text s] = .ok bs ↔ List.Forall₂ _ [ContentPart.text s] bs
    rw [Except.ok.injEq]
    constructor
    · intro h
      rw [← h]
      exact .cons (.text s) .nil
    · intro h
      cases h with
      | cons hs hnil => cases hs; cases hnil; rfl
  | parts values =>
    show values.mapM (translatePart text image) = .ok bs ↔ _
    rw [mapM_ok_iff]
    simp only [translatePart_ok_iff, messageParts]

/-- A content whose images all parse is translated. -/
theorem translateContent_total {content : MessageContent}
    (h : ∀ url ∈ content.imageUrls, ∃ parsed, url.parse = .ok parsed) :
    ∃ bs, translateContent text image content = .ok bs := by
  cases content with
  | text s => exact ⟨_, rfl⟩
  | parts values =>
    apply exists_mapM_ok_iff.mpr
    intro part hpart
    cases part with
    | text s => exact ⟨_, rfl⟩
    | imageUrl url =>
      obtain ⟨parsed, hp⟩ := h url (List.mem_filterMap.mpr ⟨.imageUrl url, hpart, rfl⟩)
      exact ⟨_, translatePart_ok_iff.mpr (.image hp)⟩

/-- Where a content is not translated, the gate answers the same about the same image. -/
theorem checkMessageImages_untranslated {m : ChatMessage} (hrole : isSystemRole m.role = false)
    {e : TranslationError} (h : translateContent text image m.content = .error e) :
    ∃ refused, checkMessageImages m = .error refused ∧
      ∀ debug, refused.text debug = "invalid image: " ++ e.text debug := by
  rw [checkMessageImages, hrole, Bool.false_and, if_neg Bool.false_ne_true]
  generalize m.content = content at h ⊢
  cases content with
  | text s => cases h
  | parts values =>
    change values.mapM (translatePart text image) = .error e at h
    rw [MessageContent.imageUrls]
    induction values with
    | nil => cases h
    | cons part values ih =>
      have hcons (url : ImageUrl) :
          (ContentPart.imageUrl url :: values).filterMap ContentPart.image? =
            url :: values.filterMap ContentPart.image? := rfl
      rw [List.mapM_cons] at h
      cases hpart : translatePart text image part with
      | error e' =>
        -- only an image that is not parsed fails
        cases part with
        | text s => cases hpart
        | imageUrl url =>
          rw [translatePart] at hpart
          cases hparse : url.parse with
          | ok parsed =>
            rw [hparse] at hpart
            cases hpart
          | error refused =>
            rw [translatePart, hparse] at h
            cases h
            refine ⟨.invalidImage refused, ?_, fun _ => rfl⟩
            rw [hcons, List.forM_eq_forM, List.forM_cons, hparse]
            rfl
      | ok b =>
        have hrest : values.mapM (translatePart text image) = .error e := by
          rw [hpart] at h
          cases hrest : values.mapM (translatePart text image) with
          | error e' =>
            rw [hrest] at h
            exact h
          | ok bs =>
            rw [hrest] at h
            cases h
        obtain ⟨refused, hgate, htext⟩ := ih hrest
        refine ⟨refused, ?_, htext⟩
        cases part with
        | text s =>
          rw [List.filterMap_cons_none rfl]
          exact hgate
        | imageUrl url =>
          rw [hcons, List.forM_eq_forM, List.forM_cons]
          cases hparse : url.parse with
          | error refused' =>
            rw [translatePart, hparse] at hpart
            cases hpart
          | ok parsed => exact hgate

theorem imageUrls_eq_filterMap (content : MessageContent) :
    content.imageUrls = (messageParts content).filterMap ContentPart.image? := by
  cases content <;> rfl

theorem hasImageParts_eq_false_iff {content : MessageContent} :
    content.hasImageParts = false ↔ content.imageUrls = [] := by
  cases content with
  | text s => simp [MessageContent.hasImageParts, MessageContent.imageUrls]
  | parts values =>
    simp [MessageContent.hasImageParts, MessageContent.imageUrls, List.filterMap_eq_nil_iff]

/-- A filter keeps everything that a function yields exactly when it drops only what yields
nothing. -/
theorem flatMap_filter_eq_iff {α γ : Type} {f : α → List γ} {keep : α → Bool} {xs : List α} :
    (xs.filter keep).flatMap f = xs.flatMap f ↔ ∀ x ∈ xs, keep x = false → f x = [] := by
  induction xs with
  | nil => simp
  | cons x xs ih =>
    rw [List.forall_mem_cons, ← ih]
    cases hx : keep x with
    | true =>
      rw [List.filter_cons_of_pos hx, List.flatMap_cons, List.flatMap_cons,
        List.append_cancel_left_eq]
      exact ⟨fun h => ⟨(nomatch ·), h⟩, fun h => h.2⟩
    | false =>
      rw [List.filter_cons_of_neg (by rw [hx]; decide), List.flatMap_cons]
      constructor
      · intro h
        have hsub := (List.filter_sublist (p := keep) (l := xs)).flatMap f
        have hlen := hsub.length_le
        rw [h, List.length_append] at hlen
        have hnil : f x = [] := List.length_eq_zero_iff.mp (by omega)
        rw [hnil, List.nil_append] at h
        exact ⟨fun _ => hnil, h⟩
      · intro h
        rw [h.1 rfl, List.nil_append]
        exact h.2

/-! Images can be told from texts in what either adapter emits, so that they can be counted. -/

section Counting

variable (isImage : β → Bool) (htext : ∀ s, isImage (text s) = false)
  (himage : ∀ parsed, isImage (image parsed) = true)

include htext himage

theorem EmittedParts.countP {m : ChatMessage} {bs : List β} (h : EmittedParts text image m bs) :
    bs.countP isImage = m.content.imageUrls.length := by
  rw [imageUrls_eq_filterMap]
  unfold EmittedParts at h
  generalize messageParts m.content = parts at h ⊢
  induction h with
  | nil => rfl
  | cons hb _ ih =>
    rw [List.countP_cons, ih]
    cases hb with
    | text s =>
      rw [htext, List.filterMap_cons_none rfl]
      rfl
    | image h =>
      rw [himage]
      rfl

theorem countP_flatten {kept : List ChatMessage} {emitted : List (List β)}
    (h : List.Forall₂ (EmittedParts text image) kept emitted) :
    emitted.flatten.countP isImage = (kept.flatMap (·.content.imageUrls)).length := by
  induction h with
  | nil => rfl
  | cons hm _ ih =>
    rw [List.flatten_cons, List.countP_append, List.flatMap_cons, List.length_append, ih,
      hm.countP isImage htext himage]

/-- Among the translations of the messages that pass a filter, no image is missing exactly when the
filter drops no message with an image. -/
theorem delivered_iff {messages : List ChatMessage} {keep : ChatMessage → Bool}
    {emitted : List (List β)} (hturn : ∀ m, isTurn m = true → keep m = true)
    (h : List.Forall₂ (EmittedParts text image) (messages.filter keep) emitted) :
    Delivered text image messages emitted ↔
      ∀ m ∈ messages, keep m = false → m.content.imageUrls = [] := by
  constructor
  · rintro ⟨kept, hkept⟩ m hm hdrop
    -- the images are counted twice: as what the filter passed, and as all of them
    have hcount : ((messages.filter keep).flatMap (·.content.imageUrls)).length =
        (messages.flatMap (·.content.imageUrls)).length := by
      rw [← hkept.images, ← countP_flatten isImage htext himage h,
        countP_flatten isImage htext himage hkept.parts]
    have hsub := (List.filter_sublist (p := keep) (l := messages)).flatMap (·.content.imageUrls)
    exact flatMap_filter_eq_iff.mp (hsub.eq_of_length hcount) m hm hdrop
  · intro hdrop
    refine ⟨messages.filter keep, List.filter_sublist, h, flatMap_filter_eq_iff.mpr hdrop, ?_⟩
    rw [List.filter_filter]
    apply List.filter_congr
    intro m _
    cases hm : isTurn m with
    | false => rfl
    | true => rw [hturn m hm]; rfl

end Counting

end Delivery

/-! ## The route and the adapters -/

/-- What the image gate admits: no image in a system message, and no malformed image. -/
structure ImagesAdmitted (m : ChatMessage) : Prop where
  system : isSystemRole m.role = true → m.content.hasImageParts = false
  parses : ∀ url ∈ m.content.imageUrls, ∃ parsed, url.parse = .ok parsed

theorem checkMessageImages_ok {m : ChatMessage} (h : checkMessageImages m = .ok ()) :
    ImagesAdmitted m := by
  rw [checkMessageImages] at h
  split at h
  · cases h
  · rename_i hsys
    constructor
    · intro hrole
      rw [hrole, Bool.true_and, Bool.not_eq_true] at hsys
      exact hsys
    · intro url hurl
      have hok := forM_ok_iff.mp h url hurl
      cases hp : url.parse with
      | error e => rw [hp] at hok; cases hok
      | ok parsed => exact ⟨parsed, rfl⟩

theorem imagesAdmitted_of_noImages {m : ChatMessage} (h : m.content.hasImageParts = false) :
    ImagesAdmitted m where
  system _ := h
  parses url hurl := by
    rw [hasImageParts_eq_false_iff.mp h] at hurl
    cases hurl

theorem imageGate_ok {supportsVision : Bool} {req : ChatRequest}
    (h : imageGate supportsVision req = .ok ()) : ∀ m ∈ req.messages, ImagesAdmitted m := by
  intro m hm
  rw [imageGate] at h
  by_cases himages : req.messages.any (·.content.hasImageParts) = true
  · rw [himages] at h
    cases supportsVision with
    | false => cases h
    | true => exact checkMessageImages_ok (forM_ok_iff.mp h m hm)
  · have hno := List.any_eq_false.mp (Bool.not_eq_true _ ▸ himages) m hm
    exact imagesAdmitted_of_noImages (Bool.not_eq_true _ ▸ hno)

theorem systemTexts_ok_iff {messages : List ChatMessage} :
    (∃ texts, systemTexts messages = .ok texts) ↔
      ∀ m ∈ messages, isSystemRole m.role = true → m.content.hasImageParts = false := by
  constructor
  · rintro ⟨texts, h⟩ m hm hrole
    have hmem : m ∈ messages.filter (isSystemRole ·.role) := List.mem_filter.mpr ⟨hm, hrole⟩
    obtain ⟨text, htext⟩ := exists_mapM_ok_iff.mp ⟨texts, h⟩ m hmem
    cases himg : m.content.hasImageParts with
    | false => rfl
    | true => rw [himg] at htext; cases htext
  · intro h
    apply exists_mapM_ok_iff.mpr
    intro m hm
    rw [h m (List.mem_filter.mp hm).1 (List.mem_filter.mp hm).2]
    exact ⟨_, rfl⟩

theorem rejectToolImages_ok {messages : List ChatMessage} {u : Unit}
    (h : rejectToolImages messages = .ok u) :
    ∀ m ∈ messages, m.role = .tool → m.content.hasImageParts = false := by
  intro m hm hrole
  rw [rejectToolImages] at h
  split at h
  · cases h
  · rename_i hany
    have hnot := List.any_eq_false.mp (Bool.not_eq_true _ ▸ hany) m hm
    simpa [hrole] using hnot

/-- What an Anthropic request that was made says about the messages it was made of. -/
structure AnthropicTranslated (req : ChatRequest) (sent : AnthropicRequest) : Prop where
  system : ∀ m ∈ req.messages, isSystemRole m.role = true → m.content.hasImageParts = false
  tool : ∀ m ∈ req.messages, m.role = .tool → m.content.hasImageParts = false
  turns : List.Forall₂ (EmittedParts .text anthropicImage) (req.messages.filter isTurn)
    (sent.messages.map (·.content))

theorem toAnthropicRequest_ok {req : ChatRequest} {sent : AnthropicRequest}
    (h : toAnthropicRequest req = .ok sent) : AnthropicTranslated req sent := by
  rw [toAnthropicRequest, except_bind_ok] at h
  obtain ⟨system, hsystem, h⟩ := h
  rw [except_bind_ok] at h
  obtain ⟨u, htool, h⟩ := h
  rw [except_bind_ok] at h
  obtain ⟨messages, hmessages, h⟩ := h
  cases h
  constructor
  · exact systemTexts_ok_iff.mp ⟨system, hsystem⟩
  · exact rejectToolImages_ok htool
  · rw [List.forall₂_map_right_iff]
    refine (mapM_ok_iff.mp hmessages).imp ?_
    intro m sent hsent
    rw [anthropicMessage, except_bind_ok] at hsent
    obtain ⟨content, hcontent, hsent⟩ := hsent
    cases hsent
    exact translateContent_ok_iff.mp hcontent

theorem toGeminiRequest_ok {req : ChatRequest} {sent : GeminiRequest}
    (h : toGeminiRequest req = .ok sent) :
    List.Forall₂ (EmittedParts geminiText geminiImage) (req.messages.filter isGeminiContent)
      (sent.contents.map (·.parts)) := by
  rw [toGeminiRequest, except_bind_ok] at h
  obtain ⟨system, _, h⟩ := h
  rw [except_bind_ok] at h
  obtain ⟨contents, hcontents, h⟩ := h
  cases h
  rw [List.forall₂_map_right_iff]
  refine (mapM_ok_iff.mp hcontents).imp ?_
  intro m sent hsent
  rw [geminiContent, except_bind_ok] at hsent
  obtain ⟨parts, hparts, hsent⟩ := hsent
  cases hsent
  exact translateContent_ok_iff.mp hparts

/-- Every admitted request is translated for Gemini. -/
theorem toGeminiRequest_total {req : ChatRequest} (h : ∀ m ∈ req.messages, ImagesAdmitted m) :
    ∃ sent, toGeminiRequest req = .ok sent := by
  have hcontents : ∃ contents, (req.messages.filter isGeminiContent).mapM geminiContent =
      .ok contents := by
    apply exists_mapM_ok_iff.mpr
    intro m hm
    have hparts : ∃ parts, contentToGeminiParts m.content = .ok parts :=
      translateContent_total (h m (List.mem_filter.mp hm).1).parses
    obtain ⟨parts, hparts⟩ := hparts
    rw [geminiContent, hparts]
    exact ⟨_, rfl⟩
  obtain ⟨contents, hcontents⟩ := hcontents
  obtain ⟨system, hsystem⟩ := systemTexts_ok_iff.mpr fun m hm => (h m hm).system
  rw [toGeminiRequest, hsystem, hcontents]
  exact ⟨_, rfl⟩

/-- No message of an unrecognised role has an image. -/
def NoUnknownImages (messages : List ChatMessage) : Prop :=
  ∀ m ∈ messages, m.role = .unknown → m.content.hasImageParts = false

/-- An Anthropic request has the images of all messages but those of an unrecognised role, which
the filter of the turns drops without a guard. -/
theorem anthropic_delivered_iff {req : ChatRequest} {sent : AnthropicRequest}
    (h : toAnthropicRequest req = .ok sent) :
    Delivered .text anthropicImage req.messages (sent.messages.map (·.content)) ↔
      NoUnknownImages req.messages := by
  have htr := toAnthropicRequest_ok h
  rw [delivered_iff (fun | .text _ => false | .image _ => true) (fun _ => rfl)
    (fun parsed => by cases parsed <;> rfl) (fun _ h => h) htr.turns]
  constructor
  · intro hdrop m hm hrole
    exact hasImageParts_eq_false_iff.mpr (hdrop m hm (by simp [isTurn, hrole]))
  · intro hunknown m hm hturn
    apply hasImageParts_eq_false_iff.mp
    cases hrole : m.role with
    | system => exact htr.system m hm (by rw [hrole]; rfl)
    | developer => exact htr.system m hm (by rw [hrole]; rfl)
    | tool => exact htr.tool m hm hrole
    | unknown => exact hunknown m hm hrole
    | user => simp [isTurn, hrole] at hturn
    | assistant => simp [isTurn, hrole] at hturn

theorem gemini_delivered_iff {req : ChatRequest} {sent : GeminiRequest}
    (hadm : ∀ m ∈ req.messages, ImagesAdmitted m) (h : toGeminiRequest req = .ok sent) :
    Delivered geminiText geminiImage req.messages (sent.contents.map (·.parts)) ↔
      NoUnknownImages req.messages := by
  have hturn : ∀ m, isTurn m = true → isGeminiContent m = true := by
    intro m hm
    cases hrole : m.role <;> simp_all [isTurn, isGeminiContent]
  rw [delivered_iff (fun | .inlineData _ _ => true | .fileData _ _ => true | _ => false)
    (fun _ => rfl) (fun parsed => by cases parsed <;> rfl) hturn (toGeminiRequest_ok h)]
  constructor
  · intro hdrop m hm hrole
    exact hasImageParts_eq_false_iff.mpr (hdrop m hm (by simp [isGeminiContent, hrole]))
  · intro hunknown m hm hkeep
    apply hasImageParts_eq_false_iff.mp
    cases hrole : m.role with
    | system => exact (hadm m hm).system (by rw [hrole]; rfl)
    | developer => exact (hadm m hm).system (by rw [hrole]; rfl)
    | unknown => exact hunknown m hm hrole
    | user => simp [isGeminiContent, hrole] at hkeep
    | assistant => simp [isGeminiContent, hrole] at hkeep
    | tool => simp [isGeminiContent, hrole] at hkeep

/-- Each adapter fails or delivers every image and every turn. -/
structure TranslationsDeliver (req : ChatRequest) : Prop where
  anthropic : ∀ sent, toAnthropicRequest req = .ok sent →
    Delivered .text anthropicImage req.messages (sent.messages.map (·.content))
  gemini : ∀ sent, toGeminiRequest req = .ok sent →
    Delivered geminiText geminiImage req.messages (sent.contents.map (·.parts))

/-- A request that the image gate admits is delivered with all of its images exactly when no message
of an unrecognised role has one. -/
theorem translationsDeliver_iff {supportsVision : Bool} {req : ChatRequest}
    (h : imageGate supportsVision req = .ok ()) :
    TranslationsDeliver req ↔ NoUnknownImages req.messages := by
  have hadm := imageGate_ok h
  constructor
  · intro hdeliver
    obtain ⟨sent, hsent⟩ := toGeminiRequest_total hadm
    exact (gemini_delivered_iff hadm hsent).mp (hdeliver.gemini sent hsent)
  · intro hunknown
    exact ⟨fun sent hsent => (anthropic_delivered_iff hsent).mpr hunknown,
      fun sent hsent => (gemini_delivered_iff hadm hsent).mpr hunknown⟩

/-- A remote picture. -/
def catImage : ContentPart := .imageUrl ⟨"https://example.com/cat.png", none⟩

/-- A picture in a message of the given role, and a question about it from the user. -/
def pictureRequest (role : Role) : ChatRequest where
  model := "google/gemini-2.5-flash"
  messages :=
    [⟨role, .parts [catImage], none, none, none⟩,
     ⟨.user, .text "What is in the picture?", none, none, none⟩]
  maxTokens := none
  temperature := none
  topP := none
  stream := false
  tools := none
  toolChoice := none

theorem translationsDeliver_user : TranslationsDeliver (pictureRequest .user) := by
  have hgate : imageGate true (pictureRequest .user) = .ok () := by decide +kernel
  apply (translationsDeliver_iff hgate).mpr
  unfold NoUnknownImages
  decide

/-- A picture in a message of the role `function` is admitted and does not reach Gemini. -/
theorem function_picture_dropped :
    imageGate true (pictureRequest .unknown) = .ok () ∧
      ¬ TranslationsDeliver (pictureRequest .unknown) := by
  have hgate : imageGate true (pictureRequest .unknown) = .ok () := by decide +kernel
  refine ⟨hgate, fun hdeliver => ?_⟩
  have hadm := imageGate_ok hgate
  obtain ⟨sent, hsent⟩ := toGeminiRequest_total hadm
  have hno := (gemini_delivered_iff hadm hsent).mp (hdeliver.gemini sent hsent)
  exact absurd (hno _ List.mem_cons_self rfl) (by decide)

end Solvela.Providers

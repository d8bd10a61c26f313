import Solvela.Cache.PromptText
import Solvela.Chat.CacheProvenance
import Solvela.Lib.Bytes
import Solvela.Lib.Utf8

/-!
# The key of the exact tier

The key hashes a text: the model, the messages, the tools and the tool choice as JSON, with marks
between them, and the bits of the temperature at the end. JSON can be told from what follows it, so
the text fixes all of them, once the end of the model is known. `max_tokens` and `top_p` are no
part of it.
-/

namespace Solvela.Cache

open Solvela.Protocol Solvela.Lib
open Solvela.ChannelLedger (textBytes)
open Solvela.Signer (JsonValue jsonText)

/-! ## Messages -/

/-- A part, an image with its stand-in for its URL. -/
def boundedPart (sha256 : List UInt8 → List UInt8) : ContentPart → ContentPart
  | .imageUrl image => .imageUrl { url := imageKeyRep sha256 image, detail := image.detail }
  | .text value => .text value

/-- `message_with_bounded_images`. -/
def messageWithBoundedImages (sha256 : List UInt8 → List UInt8) (msg : ChatMessage) :
    ChatMessage :=
  match msg.content with
  | .text _ => msg
  | .parts values => { msg with content := .parts (values.map (boundedPart sha256)) }

/-- A message as it is hashed: without images its text, otherwise its parts. -/
def normalizedMessage (sha256 : List UInt8 → List UInt8) (msg : ChatMessage) : ChatMessage :=
  if msg.content.hasImageParts then messageWithBoundedImages sha256 msg
  else { msg with content := .text msg.content.asText }

/-- `CACHE_KEY_PREFIX`. -/
def cacheKeyStart : String := "solvela:cache:"

/-- The JSON of the messages. -/
def msgsJson (sha256 : List UInt8 → List UInt8) (req : ChatRequest) : String :=
  jsonText (.arr (req.messages.map fun msg => messageJson (normalizedMessage sha256 msg)))

/-- The JSON of the tools. -/
def toolsText (req : ChatRequest) : String := jsonText (optionJson toolsJson req.tools)

/-- The JSON of the tool choice. -/
def toolChoiceText (req : ChatRequest) : String := jsonText (optionJson id req.toolChoice)

/-- What is hashed. -/
def keyBytes (sha256 : List UInt8 → List UInt8) (req : ChatRequest) : List UInt8 :=
  textBytes req.model ++ textBytes "|msgs|" ++ textBytes (msgsJson sha256 req) ++
    textBytes "|tools|" ++ textBytes (toolsText req) ++
    textBytes "|tool_choice|" ++ textBytes (toolChoiceText req) ++
    req.temperature.elim [] fun temp => textBytes "|temp|" ++ temperatureBytes temp

/-- `cache_key`. Writing JSON never fails here. -/
def cacheKey (sha256 : List UInt8 → List UInt8) (req : ChatRequest) : Option String :=
  some (cacheKeyStart ++ hexEncode (sha256 (keyBytes sha256 req)))

/-- What the two tiers read of a request. -/
def cacheBody (sha256 : List UInt8 → List UInt8) (req : ChatRequest) : Chat.CacheBody where
  messagesJson := some (textBytes (msgsJson sha256 req))
  toolsJson := some (textBytes (toolsText req))
  toolChoiceJson := some (textBytes (toolChoiceText req))
  temperature := req.temperature
  topP := req.topP
  promptText := ((promptText sha256 req).filter withinEmbedBudget).map textBytes

/-- The digest that the gateway stores answers under. -/
theorem cacheKey_cacheBody (backend : Chat.CacheBackend) (req : ChatRequest) :
    Chat.cacheKey backend req.model (cacheBody backend.sha256 req) =
      some (backend.sha256 (keyBytes backend.sha256 req)) := rfl

/-! ## Requests -/

/-- A part, as far as it is hashed. -/
inductive PartForm
  | text (value : String)
  | image (form : ParsedImage ⊕ String) (detail : Option String)

/-- Content, as far as it is hashed. -/
inductive ContentForm
  | text (value : String)
  | parts (values : List PartForm)

/-- What a part is. -/
def partForm : ContentPart → PartForm
  | .text value => .text value
  | .imageUrl image => .image (imageForm image) image.detail

/-- What content is: its text, or its parts if there is an image. -/
def contentForm (content : MessageContent) : ContentForm :=
  match content with
  | .text value => .text value
  | .parts values =>
    if content.hasImageParts then .parts (values.map partForm) else .text content.asText

/-- What a message is. -/
structure MessageForm where
  role : Role
  content : ContentForm
  name : Option String
  toolCalls : Option (List ToolCall)
  toolCallId : Option String

/-- What a message is. -/
def messageForm (msg : ChatMessage) : MessageForm :=
  ⟨msg.role, contentForm msg.content, msg.name, msg.toolCalls, msg.toolCallId⟩

/-- Two requests that agree on what is hashed. A tool choice of `null` is none. -/
structure SameKeyed (req req' : ChatRequest) : Prop where
  model : req.model = req'.model
  messages : req.messages.map messageForm = req'.messages.map messageForm
  tools : req.tools = req'.tools
  toolChoice : optionJson id req.toolChoice = optionJson id req'.toolChoice
  temperature : req.temperature = req'.temperature

/-- Every number in the tools and the tool choice has a token of a number. -/
structure NumbersRead (req : ChatRequest) : Prop where
  tools : NumbersOk (optionJson toolsJson req.tools)
  toolChoice : NumbersOk (optionJson id req.toolChoice)

/-- Neither of two models goes on after the other with the mark of the messages. -/
def ModelsApart (model model' : String) : Prop :=
  ¬ (model.toList ++ "|msgs|".toList <+: model'.toList) ∧
    ¬ (model'.toList ++ "|msgs|".toList <+: model.toList)

/-- What is hashed for a request. -/
def hashed (sha256 : List UInt8 → List UInt8) (req : ChatRequest) : List (List UInt8) :=
  keyBytes sha256 req :: payloads req

/-! ## What the text determines -/

section Text
variable {sha256 : List UInt8 → List UInt8}

theorem textBytes_eq_encode (s : String) : textBytes s = Utf8.encode s.toList :=
  Signer.textBytes_eq_flatMap s

/-- The characters that are hashed, up to the temperature. -/
def keyChars (sha256 : List UInt8 → List UInt8) (req : ChatRequest) : List Char :=
  req.model.toList ++ ("|msgs|".toList ++ ((msgsJson sha256 req).toList ++ ("|tools|".toList ++
    ((toolsText req).toList ++ ("|tool_choice|".toList ++ (toolChoiceText req).toList)))))

/-- The temperature, as it is hashed. -/
def temperaturePart (req : ChatRequest) : List UInt8 :=
  req.temperature.elim [] fun temp => textBytes "|temp|" ++ temperatureBytes temp

theorem keyBytes_eq (req : ChatRequest) :
    keyBytes sha256 req = Utf8.encode (keyChars sha256 req) ++ temperaturePart req := by
  simp only [keyBytes, keyChars, temperaturePart, textBytes_eq_encode, Utf8.encode_append,
    List.append_assoc]

theorem temperaturePart_inj {req req' : ChatRequest}
    (h : temperaturePart req = temperaturePart req') : req.temperature = req'.temperature := by
  have hmark : textBytes "|temp|" ≠ [] := by
    rw [textBytes_eq_encode]
    decide
  rw [temperaturePart, temperaturePart] at h
  cases htemp : req.temperature with
  | none =>
    cases htemp' : req'.temperature with
    | none => rfl
    | some temp' =>
      rw [htemp, htemp'] at h
      exact absurd (List.append_eq_nil_iff.mp h.symm).1 hmark
  | some temp =>
    cases htemp' : req'.temperature with
    | none =>
      rw [htemp, htemp'] at h
      exact absurd (List.append_eq_nil_iff.mp h).1 hmark
    | some temp' =>
      rw [htemp, htemp'] at h
      have hbits := leDigits_injOn temp.bits.toNat_lt temp'.bits.toNat_lt
        (List.append_cancel_left h)
      exact congrArg (fun bits => some (F32.mk bits)) (UInt32.toNat_inj.mp hbits)

/-- What follows the tool choice does not go on with a number. -/
theorem endsNumber_temperature (req : ChatRequest) :
    EndsNumber (Utf8.decode Utf8.start (temperaturePart req)).1 := by
  rw [temperaturePart]
  cases req.temperature with
  | none =>
    intro c hc
    cases hc
  | some temp =>
    intro c hc
    have hmark : "|temp|".toList = '|' :: "temp|".toList := by decide
    rw [Option.elim_some, textBytes_eq_encode, Utf8.decode_append, Utf8.decode_encode, hmark,
      List.cons_append] at hc
    cases hc
    decide

/-- The mark of the messages cannot overlap with itself: messages begin with a bracket. -/
theorem mark_overlap : ∀ {d x y : List Char},
    "|msgs|[".toList ++ x = d ++ ("|msgs|[".toList ++ y) → d = [] ∨ "|msgs|".toList <+: d := by
  have hmark : "|msgs|[".toList = ['|', 'm', 's', 'g', 's', '|', '['] := by decide
  have hmark' : "|msgs|".toList = ['|', 'm', 's', 'g', 's', '|'] := by decide
  intro d x y h
  rw [hmark] at h
  rw [hmark']
  match d with
  | [] => exact Or.inl rfl
  | [_] => simp at h
  | [_, _] => simp at h
  | [_, _, _] => simp at h
  | [_, _, _, _] => simp at h
  | [_, _, _, _, _] => simp at h
  | c₁ :: c₂ :: c₃ :: c₄ :: c₅ :: c₆ :: d =>
    simp only [List.cons_append, List.cons.injEq] at h
    obtain ⟨rfl, rfl, rfl, rfl, rfl, rfl, -⟩ := h
    exact Or.inr ⟨d, rfl⟩

/-- Models that are apart end where their mark begins. -/
theorem model_append_inj {model model' : String} (hapart : ModelsApart model model')
    {x y : List Char}
    (h : model.toList ++ ("|msgs|".toList ++ '[' :: x) =
      model'.toList ++ ("|msgs|".toList ++ '[' :: y)) : model = model' ∧ x = y := by
  have hmark : ∀ x : List Char, "|msgs|".toList ++ '[' :: x = "|msgs|[".toList ++ x := by
    intro x
    rw [show "|msgs|[".toList = "|msgs|".toList ++ ['['] by decide, List.append_assoc]
    rfl
  rw [hmark, hmark] at h
  rcases List.append_eq_append_iff.mp h with ⟨d, hmodel, hrest⟩ | ⟨d, hmodel, hrest⟩
  · rcases mark_overlap hrest with rfl | ⟨d', rfl⟩
    · rw [List.append_nil] at hmodel
      exact ⟨(String.toList_inj.mp hmodel).symm, List.append_cancel_left hrest⟩
    · refine absurd ⟨d', ?_⟩ hapart.1
      rw [hmodel, List.append_assoc]
  · rcases mark_overlap hrest with rfl | ⟨d', rfl⟩
    · rw [List.append_nil] at hmodel
      exact ⟨String.toList_inj.mp hmodel, (List.append_cancel_left hrest).symm⟩
    · refine absurd ⟨d', ?_⟩ hapart.2
      rw [hmodel, List.append_assoc]

theorem optionJson_toolsJson_inj {tools tools' : Option (List ToolDefinition)}
    (h : optionJson toolsJson tools = optionJson toolsJson tools') : tools = tools' := by
  cases tools with
  | none =>
    cases tools' with
    | none => rfl
    | some tools' => cases h
  | some tools =>
    cases tools' with
    | none => cases h
    | some tools' => rw [toolsJson_inj tools tools' h]

/-- The messages' JSON has no numbers, and begins with a bracket. -/
theorem msgsJson_toList (req : ChatRequest) :
    (msgsJson sha256 req).toList = '[' :: (msgsJson sha256 req).toList.tail := by
  rw [msgsJson, jsonText, String.toList_append, String.toList_append]
  rfl

/-- The hashed text determines the fields, once the models are apart. -/
theorem keyBytes_inj {req req' : ChatRequest} (hnumbers : NumbersRead req)
    (hnumbers' : NumbersRead req') (hapart : ModelsApart req.model req'.model)
    (h : keyBytes sha256 req = keyBytes sha256 req') :
    req.model = req'.model ∧
      req.messages.map (normalizedMessage sha256) = req'.messages.map (normalizedMessage sha256) ∧
      req.tools = req'.tools ∧
      optionJson id req.toolChoice = optionJson id req'.toolChoice ∧
      req.temperature = req'.temperature := by
  have hmarks : "|tools|".toList = '|' :: "tools|".toList ∧
      "|tool_choice|".toList = '|' :: "tool_choice|".toList := by decide
  have hbar : ∀ x : List Char, EndsNumber ('|' :: x) := by
    intro x c hc
    cases hc
    decide
  have hmsgs : ∀ req : ChatRequest, NumbersOk
      (.arr (req.messages.map fun msg => messageJson (normalizedMessage sha256 msg))) := by
    intro req
    apply elementsOk_iff.mpr
    intro value hvalue
    obtain ⟨msg, -, rfl⟩ := List.mem_map.mp hvalue
    exact messageJson_numbersOk _
  rw [keyBytes_eq, keyBytes_eq] at h
  have hchars := Utf8.encode_append_decode h
  simp only [keyChars, List.append_assoc] at hchars
  -- the model ends where the first message could begin
  have hbracket : ∀ (req : ChatRequest) (x : List Char),
      (msgsJson sha256 req).toList ++ x = '[' :: ((msgsJson sha256 req).toList.tail ++ x) := by
    intro req x
    rw [← List.cons_append, ← msgsJson_toList]
  rw [hbracket req, hbracket req'] at hchars
  obtain ⟨hmodel, hrest⟩ := model_append_inj hapart hchars
  have hrest := congrArg (List.cons '[') hrest
  rw [← hbracket req, ← hbracket req', hmarks.1, hmarks.2] at hrest
  simp only [List.cons_append] at hrest
  -- then one JSON text after another
  obtain ⟨hmessages, hrest⟩ := jsonText_append_inj _ _ (hmsgs req) (hmsgs req') (hbar _) (hbar _)
    hrest
  obtain ⟨htools, hrest⟩ := jsonText_append_inj _ _ hnumbers.tools hnumbers'.tools (hbar _) (hbar _)
    (List.append_cancel_left (List.cons.inj hrest).2)
  obtain ⟨htoolChoice, -⟩ := jsonText_append_inj _ _ hnumbers.toolChoice hnumbers'.toolChoice
    (endsNumber_temperature req) (endsNumber_temperature req')
    (List.append_cancel_left (List.cons.inj hrest).2)
  have hmsgsText : msgsJson sha256 req = msgsJson sha256 req' := by
    rw [msgsJson, hmessages, msgsJson]
  have hkey : keyChars sha256 req = keyChars sha256 req' := by
    rw [keyChars, keyChars, hmodel, hmsgsText, toolsText, toolsText, htools, toolChoiceText,
      toolChoiceText, htoolChoice]
  rw [hkey] at h
  refine ⟨hmodel, ?_, optionJson_toolsJson_inj htools, htoolChoice,
    temperaturePart_inj (List.append_cancel_left h)⟩
  apply map_injOn messageJson_inj
  rw [List.map_map, List.map_map]
  exact JsonValue.arr.inj hmessages

end Text

/-! ## What the messages determine -/

section Messages
variable {sha256 : List UInt8 → List UInt8}

/-- A part as it is hashed, by what it is. -/
def formPart (sha256 : List UInt8 → List UInt8) : PartForm → ContentPart
  | .text value => .text value
  | .image form detail => .imageUrl ⟨formRep sha256 form, detail⟩

/-- Content as it is hashed, by what it is. -/
def formContent (sha256 : List UInt8 → List UInt8) : ContentForm → MessageContent
  | .text value => .text value
  | .parts values => .parts (values.map (formPart sha256))

/-- A message as it is hashed, by what it is. -/
def formMessage (sha256 : List UInt8 → List UInt8) (form : MessageForm) : ChatMessage :=
  ⟨form.role, formContent sha256 form.content, form.name, form.toolCalls, form.toolCallId⟩

theorem formPart_partForm (part : ContentPart) :
    formPart sha256 (partForm part) = boundedPart sha256 part := by
  cases part with
  | text value => rfl
  | imageUrl image =>
    rw [partForm, formPart, boundedPart, imageKeyRep_eq]

theorem map_formPart (values : List ContentPart) :
    (values.map partForm).map (formPart sha256) = values.map (boundedPart sha256) := by
  rw [List.map_map]
  apply List.map_congr_left
  intro part _
  exact formPart_partForm part

/-- What is hashed of a message depends on what the message is only. -/
theorem formMessage_messageForm (msg : ChatMessage) :
    formMessage sha256 (messageForm msg) = normalizedMessage sha256 msg := by
  obtain ⟨role, content, name, toolCalls, toolCallId⟩ := msg
  cases content with
  | text value => rfl
  | parts values =>
    rw [formMessage, messageForm, normalizedMessage]
    by_cases himages : (MessageContent.parts values).hasImageParts = true
    · rw [if_pos himages, contentForm, if_pos himages, formContent, map_formPart,
        messageWithBoundedImages]
    · rw [if_neg himages, contentForm, if_neg himages, formContent]

/-- Parts that are hashed alike are alike. -/
theorem partForms_inj {inputs : List (List UInt8)} (hfree : CollisionFree sha256 inputs) :
    ∀ {values values' : List ContentPart},
      (∀ image ∈ values.filterMap ContentPart.image?, ∀ text ∈ hashedText image,
        textBytes text ∈ inputs) →
      (∀ image ∈ values'.filterMap ContentPart.image?, ∀ text ∈ hashedText image,
        textBytes text ∈ inputs) →
      values.map (boundedPart sha256) = values'.map (boundedPart sha256) →
        values.map partForm = values'.map partForm := by
  intro values
  induction values with
  | nil =>
    intro values' _ _ h
    cases values' with
    | nil => rfl
    | cons part' values' => cases h
  | cons part values ih =>
    intro values' hin hin' h
    cases values' with
    | nil => cases h
    | cons part' values' =>
      obtain ⟨hpart, hvalues⟩ := List.cons.inj h
      -- what the tail hashes is among the inputs of the whole
      have htail : ∀ {part : ContentPart} {values : List ContentPart},
          (∀ image ∈ (part :: values).filterMap ContentPart.image?, ∀ text ∈ hashedText image,
            textBytes text ∈ inputs) →
          ∀ image ∈ values.filterMap ContentPart.image?, ∀ text ∈ hashedText image,
            textBytes text ∈ inputs := by
        intro part values hin image himage
        obtain ⟨other, hother, himage⟩ := List.mem_filterMap.mp himage
        exact hin image (List.mem_filterMap.mpr ⟨other, List.mem_cons_of_mem _ hother, himage⟩)
      have hforms := ih (htail hin) (htail hin') hvalues
      cases part with
      | text value =>
        cases part' with
        | text value' =>
          rw [List.map_cons, List.map_cons, hforms, ContentPart.text.inj hpart]
        | imageUrl image' => cases hpart
      | imageUrl image =>
        cases part' with
        | text value' => cases hpart
        | imageUrl image' =>
          -- an image is hashed by its bounded form and its hint
          obtain ⟨hrep, hdetail⟩ := ImageUrl.mk.inj (ContentPart.imageUrl.inj hpart)
          have himage := imageKeyRep_inj hfree
            (hin image (List.mem_filterMap.mpr ⟨_, List.mem_cons_self, rfl⟩))
            (hin' image' (List.mem_filterMap.mpr ⟨_, List.mem_cons_self, rfl⟩)) hrep
          rw [List.map_cons, List.map_cons, hforms, partForm, partForm, himage, hdetail]

theorem mem_imagePayloads {msg : ChatMessage} {image : ImageUrl} {text : String}
    (himage : image ∈ msg.content.imageUrls) (htext : text ∈ hashedText image) :
    textBytes text ∈ imagePayloads msg :=
  List.mem_map_of_mem (List.mem_filterMap.mpr ⟨image, himage, htext⟩)

/-- Messages that are hashed alike are alike. -/
theorem messageForm_inj {inputs : List (List UInt8)} (hfree : CollisionFree sha256 inputs)
    {msg msg' : ChatMessage} (hin : ∀ input ∈ imagePayloads msg, input ∈ inputs)
    (hin' : ∀ input ∈ imagePayloads msg', input ∈ inputs)
    (h : normalizedMessage sha256 msg = normalizedMessage sha256 msg') :
    messageForm msg = messageForm msg' := by
  rw [← formMessage_messageForm, ← formMessage_messageForm] at h
  obtain ⟨hrole, hcontent, hname, hcalls, hid⟩ := ChatMessage.mk.inj h
  have hform : contentForm msg.content = contentForm msg'.content := by
    -- a content is hashed by its parts only where it has some
    have hparts : ∀ (msg : ChatMessage) (forms : List PartForm),
        contentForm msg.content = .parts forms →
          ∃ values, msg.content = .parts values ∧ forms = values.map partForm := by
      intro msg forms hforms
      cases hvalues : msg.content with
      | text value =>
        rw [hvalues] at hforms
        cases hforms
      | parts values =>
        rw [hvalues, contentForm] at hforms
        split at hforms
        · exact ⟨values, rfl, (ContentForm.parts.inj hforms).symm⟩
        · cases hforms
    simp only [messageForm] at hcontent
    cases hc : contentForm msg.content with
    | text value =>
      cases hc' : contentForm msg'.content with
      | text value' =>
        rw [hc, hc'] at hcontent
        rw [MessageContent.text.inj hcontent]
      | parts forms' =>
        rw [hc, hc'] at hcontent
        cases hcontent
    | parts forms =>
      cases hc' : contentForm msg'.content with
      | text value' =>
        rw [hc, hc'] at hcontent
        cases hcontent
      | parts forms' =>
        rw [hc, hc'] at hcontent
        obtain ⟨values, hvalues, rfl⟩ := hparts msg forms hc
        obtain ⟨values', hvalues', rfl⟩ := hparts msg' forms' hc'
        have hmaps := MessageContent.parts.inj hcontent
        -- parts agree one by one, up to the hash of an image
        rw [map_formPart, map_formPart] at hmaps
        rw [partForms_inj hfree _ _ hmaps]
        · intro image himage text htext
          apply hin _ (mem_imagePayloads _ htext)
          rw [hvalues]
          exact himage
        · intro image himage text htext
          apply hin' _ (mem_imagePayloads _ htext)
          rw [hvalues']
          exact himage
  simp only [messageForm] at hrole hname hcalls hid ⊢
  rw [hrole, hform, hname, hcalls, hid]

/-- The same of lists of messages. -/
theorem messageForms_inj {inputs : List (List UInt8)} (hfree : CollisionFree sha256 inputs) :
    ∀ {messages messages' : List ChatMessage},
      (∀ msg ∈ messages, ∀ input ∈ imagePayloads msg, input ∈ inputs) →
      (∀ msg ∈ messages', ∀ input ∈ imagePayloads msg, input ∈ inputs) →
      messages.map (normalizedMessage sha256) = messages'.map (normalizedMessage sha256) →
        messages.map messageForm = messages'.map messageForm := by
  intro messages
  induction messages with
  | nil =>
    intro messages' _ _ h
    cases messages' with
    | nil => rfl
    | cons msg' messages' => cases h
  | cons msg messages ih =>
    intro messages' hin hin' h
    cases messages' with
    | nil => cases h
    | cons msg' messages' =>
      obtain ⟨hmsg, hmessages⟩ := List.cons.inj h
      have hhead := messageForm_inj hfree (hin msg List.mem_cons_self)
        (hin' msg' List.mem_cons_self) hmsg
      have htail := ih (fun msg hmsg => hin msg (List.mem_cons_of_mem _ hmsg))
        (fun msg hmsg => hin' msg (List.mem_cons_of_mem _ hmsg)) hmessages
      rw [List.map_cons, List.map_cons, hhead, htail]

/-- What is hashed of a list of messages depends on what the messages are only. -/
theorem map_normalizedMessage (messages : List ChatMessage) :
    messages.map (normalizedMessage sha256) =
      (messages.map messageForm).map (formMessage sha256) := by
  rw [List.map_map]
  apply List.map_congr_left
  intro msg _
  exact (formMessage_messageForm msg).symm

end Messages

/-! ## Keys -/

/-- Requests that are hashed to one digest agree on what is hashed. -/
theorem sameKeyed_of_digest {sha256 : List UInt8 → List UInt8} {req req' : ChatRequest}
    (hnumbers : NumbersRead req) (hnumbers' : NumbersRead req')
    (hapart : ModelsApart req.model req'.model)
    (hfree : CollisionFree sha256 (hashed sha256 req ++ hashed sha256 req'))
    (hdigest : sha256 (keyBytes sha256 req) = sha256 (keyBytes sha256 req')) :
    SameKeyed req req' := by
  have hbytes : keyBytes sha256 req = keyBytes sha256 req' :=
    hfree _ (List.mem_append_left _ List.mem_cons_self) _
      (List.mem_append_right _ List.mem_cons_self) (by rw [hdigest])
  obtain ⟨hmodel, hmessages, htools, htoolChoice, htemperature⟩ :=
    keyBytes_inj hnumbers hnumbers' hapart hbytes
  refine ⟨hmodel, messageForms_inj hfree ?_ ?_ hmessages, htools, htoolChoice, htemperature⟩
  · intro msg hmsg input hinput
    exact List.mem_append_left _
      (List.mem_cons_of_mem _ (List.mem_flatMap.mpr ⟨msg, hmsg, hinput⟩))
  · intro msg hmsg input hinput
    exact List.mem_append_right _
      (List.mem_cons_of_mem _ (List.mem_flatMap.mpr ⟨msg, hmsg, hinput⟩))

/-- The call is the request, as the caches read it. -/
structure Carries {state : Chat.CallState} (backend : Chat.CacheBackend)
    (call : Chat.ClientCall state) (req : ChatRequest) : Prop where
  model : call.req.model = req.model
  body : call.body = cacheBody backend.sha256 req

/-- Whoever looks in the exact tier where another request has written asks what that one asked, as
far as it is hashed. -/
theorem exactHit_sameKeyed {state : Chat.CallState} {backend : Chat.CacheBackend}
    {call call' : Chat.ClientCall state} {req req' : ChatRequest}
    (hcall : Carries backend call req) (hcall' : Carries backend call' req')
    (hnumbers : NumbersRead req) (hnumbers' : NumbersRead req')
    (hapart : ModelsApart req.model req'.model)
    (hfree : CollisionFree backend.sha256
      (hashed backend.sha256 req ++ hashed backend.sha256 req'))
    {key : List UInt8} {answer answer' : Chat.Answer}
    (hwritten : Chat.CacheWrite.exact key answer ∈ call.exactSet backend answer')
    (hfound : Chat.cacheKey backend call'.req.model call'.body = some key) :
    SameKeyed req req' := by
  have hkey : Chat.cacheKey backend call.req.model call.body = some key := by
    unfold Chat.ClientCall.exactSet at hwritten
    split at hwritten
    · cases hwritten
    · obtain ⟨digest, hdigest, hwrite⟩ :=
        Option.map_eq_some_iff.mp (Option.mem_toList.mp hwritten)
      cases hwrite
      exact hdigest
  rw [hcall.model, hcall.body, cacheKey_cacheBody] at hkey
  rw [hcall'.model, hcall'.body, cacheKey_cacheBody] at hfound
  exact sameKeyed_of_digest hnumbers hnumbers' hapart hfree
    (Option.some.inj (hkey.trans hfound.symm))

/-- Two requests have one key exactly if they agree on what is hashed: model, messages, tools, tool
choice and temperature. -/
theorem cacheKey_eq_iff {sha256 : List UInt8 → List UInt8} {req req' : ChatRequest}
    (hnumbers : NumbersRead req) (hnumbers' : NumbersRead req')
    (hapart : ModelsApart req.model req'.model)
    (hfree : CollisionFree sha256 (hashed sha256 req ++ hashed sha256 req')) :
    cacheKey sha256 req = cacheKey sha256 req' ↔ SameKeyed req req' := by
  constructor
  · intro hkey
    have hhex := congrArg String.toList (Option.some.inj hkey)
    rw [String.toList_append, String.toList_append] at hhex
    exact sameKeyed_of_digest hnumbers hnumbers' hapart hfree
      (hexEncode_inj (String.toList_inj.mp (List.append_cancel_left hhex)))
  · intro hsame
    have hmsgs : msgsJson sha256 req = msgsJson sha256 req' := by
      have hmap : ∀ req : ChatRequest,
          req.messages.map (fun msg => messageJson (normalizedMessage sha256 msg)) =
            (req.messages.map (normalizedMessage sha256)).map messageJson := by
        intro req
        rw [List.map_map]
        rfl
      rw [msgsJson, msgsJson, hmap, hmap, map_normalizedMessage, map_normalizedMessage,
        hsame.messages]
    rw [cacheKey, cacheKey, keyBytes, keyBytes, hsame.model, hmsgs, toolsText, toolsText,
      hsame.tools, toolChoiceText, toolChoiceText, hsame.toolChoice, hsame.temperature]

/-- A question as a text. -/
def askedText : ChatRequest :=
  ⟨"openai/gpt-4o", [textMessage .user "Hello"], none, some ⟨0x3F333333⟩, none, false, none, none⟩

/-- What both requests about the image are hashed as. -/
def pictureKeyBytes : List UInt8 :=
  textBytes
      ("openai/gpt-4o|msgs|[\x7b\"role\":\"system\",\"content\":\"Be brief.\"\x7d," ++
        "\x7b\"role\":\"user\",\"content\":[" ++
        "\x7b\"type\":\"text\",\"text\":\"What is this?\"\x7d," ++
        "\x7b\"type\":\"image_url\",\"image_url\":" ++
        "\x7b\"url\":\"sha256:image/png:929e08d597feae564ce98003c4a47ff5\"\x7d\x7d]\x7d]" ++
        "|tools|[\x7b\"type\":\"function\",\"function\":" ++
        "\x7b\"name\":\"zoom\",\"parameters\":\x7b\"type\":\"object\"\x7d\x7d\x7d]" ++
        "|tool_choice|\"auto\"|temp|") ++
    [0x33, 0x33, 0x33, 0x3F]

/-- The digest of these bytes. -/
def pictureKeyDigest : List UInt8 :=
  [151, 134, 74, 81, 194, 220, 98, 161, 152, 49, 198, 192, 74, 140, 7, 145, 41, 66, 98, 243, 208,
    104, 36, 217, 244, 219, 51, 64, 11, 49, 196, 92]

/-- The hash, at the key's bytes and the payload. -/
def pictureKeySha256 (input : List UInt8) : List UInt8 :=
  if input = pictureKeyBytes then pictureKeyDigest else pictureSha256 input

/-- Two inputs, each named twice, are free of a collision where their digests differ. -/
theorem collisionFree_pair {sha256 : List UInt8 → List UInt8} {input input' : List UInt8}
    (hdigest : (sha256 input).take 16 ≠ (sha256 input').take 16) :
    CollisionFree sha256 ([input, input'] ++ [input, input']) := by
  have hcases : ∀ x ∈ [input, input'] ++ [input, input'], x = input ∨ x = input' := by
    intro x hx
    simp only [List.cons_append, List.nil_append, List.mem_cons, List.not_mem_nil] at hx
    tauto
  intro x hx y hy h
  rcases hcases x hx with rfl | rfl
  · rcases hcases y hy with rfl | rfl
    · rfl
    · exact absurd h hdigest
  · rcases hcases y hy with rfl | rfl
    · exact absurd h.symm hdigest
    · rfl

/-- Neither the wire shape nor the blanks around an image's URL are part of the key. -/
theorem cacheKey_parts :
    cacheKey pictureKeySha256 pictureText =
        some "solvela:cache:97864a51c2dc62a19831c6c04a8c0791294262f3d06824d9f4db33400b31c45c" ∧
      cacheKey pictureKeySha256 pictureText = cacheKey pictureKeySha256 pictureParts := by
  have hbytes : keyBytes pictureKeySha256 pictureText = pictureKeyBytes := by decide +kernel
  have hbytes' : keyBytes pictureKeySha256 pictureParts = pictureKeyBytes := by decide +kernel
  have hfree : CollisionFree pictureKeySha256
      (hashed pictureKeySha256 pictureText ++ hashed pictureKeySha256 pictureParts) := by
    have hpayloads : payloads pictureText = [textBytes "iVBORw0KGgo="] ∧
        payloads pictureParts = [textBytes "iVBORw0KGgo="] := by decide +kernel
    -- the key and the payload are the only inputs, and their digests differ
    have hdigest : (pictureKeySha256 pictureKeyBytes).take 16 ≠
        (pictureKeySha256 (textBytes "iVBORw0KGgo=")).take 16 := by decide +kernel
    rw [hashed, hashed, hbytes, hbytes', hpayloads.1, hpayloads.2]
    exact collisionFree_pair hdigest
  have hapart : ModelsApart pictureText.model pictureParts.model := by
    have hnot : ¬ ("openai/gpt-4o".toList ++ "|msgs|".toList <+: "openai/gpt-4o".toList) := by
      decide
    exact ⟨hnot, hnot⟩
  -- the schema of the tool holds no number
  have htools : NumbersOk (optionJson toolsJson pictureText.tools) :=
    ⟨⟨trivial, ⟨trivial, ⟨trivial, trivial⟩, trivial⟩, trivial⟩, trivial⟩
  have hnumbers : NumbersRead pictureText := ⟨htools, trivial⟩
  have hnumbers' : NumbersRead pictureParts := ⟨htools, trivial⟩
  have hkey : cacheKey pictureKeySha256 pictureText =
      some "solvela:cache:97864a51c2dc62a19831c6c04a8c0791294262f3d06824d9f4db33400b31c45c" := by
    rw [cacheKey, hbytes]
    decide +kernel
  have himage : imageForm ⟨"data:image/png;base64,iVBORw0KGgo=", none⟩ =
      imageForm ⟨" data:image/png;base64,iVBORw0KGgo=\n", none⟩ := by decide +kernel
  have hsame : SameKeyed pictureText pictureParts := by
    refine ⟨rfl, ?_, rfl, rfl, rfl⟩
    exact congrArg (fun image => ([⟨.system, .text "Be brief.", none, none, none⟩,
      ⟨.user, .parts [.text "What is this?", .image image none], none, none, none⟩] :
        List MessageForm)) himage
  exact ⟨hkey, (cacheKey_eq_iff hnumbers hnumbers' hapart hfree).mpr hsame⟩

/-- The question with bounds on the answer. -/
def askedBounded : ChatRequest :=
  { askedText with maxTokens := some 16, topP := some ⟨0x3F666666⟩ }

/-- A tool choice that goes on like the temperature of another request. -/
def bareModel : ChatRequest :=
  ⟨"m", [], none, none, none, false, none,
    some (.str "Q|msgs|[]|tools|null|tool_choice|null|temp|xyz")⟩

/-- A model that goes on like the tool choice of another request. -/
def imitatingModel : ChatRequest :=
  ⟨"m|msgs|[]|tools|null|tool_choice|\"Q", [], none, some ⟨0x227A7978⟩, none, false, none, none⟩

/-- Requests that differ in the bounds on the answer have one key, and so have two requests of
which one has a model that imitates a mark. -/
theorem cacheKey_shared :
    ((∀ sha256 : List UInt8 → List UInt8,
        cacheKey sha256 askedText = cacheKey sha256 askedBounded) ∧
      askedText.maxTokens ≠ askedBounded.maxTokens ∧ askedText.topP ≠ askedBounded.topP) ∧
    ((∀ sha256 : List UInt8 → List UInt8,
        cacheKey sha256 bareModel = cacheKey sha256 imitatingModel) ∧
      bareModel.model ≠ imitatingModel.model) := by
  refine ⟨⟨fun _ => rfl, by decide, by decide⟩, fun sha256 => ?_, by decide⟩
  have hbytes : keyBytes sha256 bareModel = keyBytes sha256 imitatingModel := by
    have hmsgs : msgsJson sha256 bareModel = "[]" ∧ msgsJson sha256 imitatingModel = "[]" :=
      ⟨rfl, rfl⟩
    rw [keyBytes, keyBytes, hmsgs.1, hmsgs.2]
    decide +kernel
  rw [cacheKey, cacheKey, hbytes]

end Solvela.Cache

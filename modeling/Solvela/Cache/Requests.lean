import Solvela.Lib.Bytes
import Solvela.Protocol.Chat
import Solvela.Protocol.JsonText

/-!
# What the caches read of a request

The JSON that serde writes for messages and tools, and the short stand-ins for images: a remote
image by its URL, an inline one by its media type and a hash of its payload. Both are injective:
equal texts come from equal messages, and equal stand-ins from images that are parsed alike, as far
as the hash is.
-/

namespace Solvela.Cache

open Solvela.Protocol
open Solvela.ChannelLedger (textBytes)
open Solvela.Signer (JsonValue jsonText hexDigits)

/-- `f32::to_le_bytes`. -/
def temperatureBytes (v : F32) : List UInt8 := Lib.leDigits 4 v.bits.toNat

/-! ## JSON -/

/-- An `Option`, `null` when there is none. -/
def optionJson {α : Type} (json : α → JsonValue) : Option α → JsonValue
  | none => .null
  | some a => json a

/-- `role_str`, and the text serde writes for a role. -/
def roleStr : Role → String
  | .system => "system"
  | .user => "user"
  | .assistant => "assistant"
  | .tool => "tool"
  | .developer => "developer"
  | .unknown => "unknown"

/-- `ImageUrl`, written. -/
def imageUrlJson (image : ImageUrl) : JsonValue :=
  .obj (("url", .str image.url) :: optField "detail" JsonValue.str image.detail)

/-- `ContentPart`, written. -/
def contentPartJson : ContentPart → JsonValue
  | .text value => .obj [("type", .str "text"), ("text", .str value)]
  | .imageUrl value => .obj [("type", .str "image_url"), ("image_url", imageUrlJson value)]

/-- `MessageContent`, written: untagged. -/
def contentJson : MessageContent → JsonValue
  | .text value => .str value
  | .parts values => .arr (values.map contentPartJson)

/-- `ToolCall`, written. -/
def toolCallJson (call : ToolCall) : JsonValue :=
  .obj
    [ ("id", .str call.id), ("type", .str call.type),
      ("function",
        .obj [("name", .str call.function.name), ("arguments", .str call.function.arguments)]) ]

/-- `Vec<ToolCall>`, written. -/
def toolCallsJson (calls : List ToolCall) : JsonValue := .arr (calls.map toolCallJson)

/-- `ChatMessage`, written. -/
def messageJson (m : ChatMessage) : JsonValue :=
  .obj
    (("role", .str (roleStr m.role)) :: ("content", contentJson m.content) ::
      (optField "name" JsonValue.str m.name ++
        (optField "tool_calls" toolCallsJson m.toolCalls ++
          optField "tool_call_id" JsonValue.str m.toolCallId)))

/-- `ToolDefinition`, written. -/
def toolJson (tool : ToolDefinition) : JsonValue :=
  .obj
    [ ("type", .str tool.type),
      ("function",
        .obj
          (("name", .str tool.function.name) ::
            (optField "description" JsonValue.str tool.function.description ++
              optField "parameters" id tool.function.parameters))) ]

/-- `Vec<ToolDefinition>`, written. -/
def toolsJson (tools : List ToolDefinition) : JsonValue := .arr (tools.map toolJson)

section Json

theorem map_injOn {α β : Type} {f : α → β} (hf : ∀ a a', f a = f a' → a = a') :
    ∀ {l l' : List α}, l.map f = l'.map f → l = l' := by
  intro l l' h
  exact List.map_injective_iff.mpr hf h

/-- An optional member before members with other keys. -/
theorem optField_append_inj {α : Type} {key : String} {json : α → JsonValue}
    (hjson : ∀ a a', json a = json a' → a = a') {a a' : Option α}
    {rest rest' : List (String × JsonValue)} (hrest : ∀ field ∈ rest, field.1 ≠ key)
    (hrest' : ∀ field ∈ rest', field.1 ≠ key)
    (h : optField key json a ++ rest = optField key json a' ++ rest') :
    a = a' ∧ rest = rest' := by
  cases a with
  | none =>
    cases a' with
    | none => exact ⟨rfl, h⟩
    | some a' =>
      have hfirst : (key, json a') ∈ rest := by
        rw [show rest = (key, json a') :: rest' from h]
        exact List.mem_cons_self
      exact absurd rfl (hrest _ hfirst)
  | some a =>
    cases a' with
    | none =>
      have hfirst : (key, json a) ∈ rest' := by
        rw [← show (key, json a) :: rest = rest' from h]
        exact List.mem_cons_self
      exact absurd rfl (hrest' _ hfirst)
    | some a' =>
      obtain ⟨hfield, htail⟩ := List.cons.inj h
      exact ⟨by rw [hjson a a' (Prod.mk.inj hfield).2], htail⟩

theorem optField_inj {α : Type} {key : String} {json : α → JsonValue}
    (hjson : ∀ a a', json a = json a' → a = a') {a a' : Option α}
    (h : optField key json a = optField key json a') : a = a' := by
  have hnil : ∀ field ∈ ([] : List (String × JsonValue)), field.1 ≠ key := by simp
  apply (optField_append_inj hjson hnil hnil _).1
  rw [List.append_nil, List.append_nil]
  exact h

theorem mem_optField {α : Type} {key : String} {json : α → JsonValue} {a : Option α}
    {field : String × JsonValue} (h : field ∈ optField key json a) : field.1 = key := by
  cases a with
  | none => exact absurd h List.not_mem_nil
  | some a => rw [List.mem_singleton.mp h]

theorem str_inj (s s' : String) (h : JsonValue.str s = JsonValue.str s') : s = s' :=
  JsonValue.str.inj h

theorem roleStr_inj {role role' : Role} (h : roleStr role = roleStr role') : role = role' := by
  revert h
  cases role <;> cases role' <;> decide

theorem imageUrlJson_inj (image image' : ImageUrl) (h : imageUrlJson image = imageUrlJson image') :
    image = image' := by
  obtain ⟨hurl, hdetail⟩ := List.cons.inj (JsonValue.obj.inj h)
  have hurl' := str_inj _ _ (Prod.mk.inj hurl).2
  have hdetail' := optField_inj str_inj hdetail
  cases image
  cases image'
  simp_all

theorem contentPartJson_inj (part part' : ContentPart)
    (h : contentPartJson part = contentPartJson part') : part = part' := by
  cases part with
  | text value =>
    cases part' with
    | text value' =>
      simp only [contentPartJson, JsonValue.obj.injEq, List.cons.injEq, Prod.mk.injEq,
        JsonValue.str.injEq, and_true, true_and] at h
      rw [h]
    | imageUrl value' => simp [contentPartJson] at h
  | imageUrl value =>
    cases part' with
    | text value' => simp [contentPartJson] at h
    | imageUrl value' =>
      simp only [contentPartJson, JsonValue.obj.injEq, List.cons.injEq, Prod.mk.injEq,
        and_true, true_and] at h
      rw [imageUrlJson_inj _ _ h]

theorem contentJson_inj (content content' : MessageContent)
    (h : contentJson content = contentJson content') : content = content' := by
  cases content with
  | text value =>
    cases content' with
    | text value' => rw [str_inj _ _ h]
    | parts values' => simp [contentJson] at h
  | parts values =>
    cases content' with
    | text value' => simp [contentJson] at h
    | parts values' => rw [map_injOn contentPartJson_inj (JsonValue.arr.inj h)]

theorem toolCallsJson_inj (calls calls' : List ToolCall)
    (h : toolCallsJson calls = toolCallsJson calls') : calls = calls' := by
  apply map_injOn _ (JsonValue.arr.inj h)
  intro call call' hcall
  simp only [toolCallJson, JsonValue.obj.injEq, List.cons.injEq, Prod.mk.injEq,
    JsonValue.str.injEq, and_true, true_and] at hcall
  obtain ⟨hid, htype, hname, harguments⟩ := hcall
  obtain ⟨id, type, function⟩ := call
  obtain ⟨id', type', function'⟩ := call'
  cases function
  cases function'
  simp_all

theorem messageJson_inj (m m' : ChatMessage) (h : messageJson m = messageJson m') : m = m' := by
  obtain ⟨hrole, hrest⟩ := List.cons.inj (JsonValue.obj.inj h)
  obtain ⟨hcontent, hfields⟩ := List.cons.inj hrest
  have hkeys : ∀ (m : ChatMessage), ∀ field ∈ optField "tool_calls" toolCallsJson m.toolCalls ++
      optField "tool_call_id" JsonValue.str m.toolCallId, field.1 ≠ "name" := by
    intro m field hmem
    rcases List.mem_append.mp hmem with hmem | hmem
    · rw [mem_optField hmem]
      decide
    · rw [mem_optField hmem]
      decide
  have hkeys' : ∀ (m : ChatMessage), ∀ field ∈ optField "tool_call_id" JsonValue.str m.toolCallId,
      field.1 ≠ "tool_calls" := by
    intro m field hmem
    rw [mem_optField hmem]
    decide
  obtain ⟨hname, hcalls⟩ := optField_append_inj str_inj (hkeys m) (hkeys m') hfields
  obtain ⟨hcalls', hid⟩ := optField_append_inj toolCallsJson_inj (hkeys' m) (hkeys' m') hcalls
  have hid' := optField_inj str_inj hid
  have hrole' := roleStr_inj (str_inj _ _ (Prod.mk.inj hrole).2)
  have hcontent' := contentJson_inj _ _ (Prod.mk.inj hcontent).2
  cases m
  cases m'
  simp_all

theorem toolsJson_inj (tools tools' : List ToolDefinition)
    (h : toolsJson tools = toolsJson tools') : tools = tools' := by
  apply map_injOn _ (JsonValue.arr.inj h)
  intro tool tool' htool
  simp only [toolJson, JsonValue.obj.injEq, List.cons.injEq, Prod.mk.injEq, JsonValue.str.injEq,
    and_true, true_and] at htool
  obtain ⟨htype, hname, hfields⟩ := htool
  have hkeys : ∀ (tool : ToolDefinition),
      ∀ field ∈ optField "parameters" id tool.function.parameters, field.1 ≠ "description" := by
    intro tool field hmem
    rw [mem_optField hmem]
    decide
  obtain ⟨hdescription, hparameters⟩ :=
    optField_append_inj str_inj (hkeys tool) (hkeys tool') hfields
  have hparameters' := optField_inj (fun _ _ h => h) hparameters
  obtain ⟨type, function⟩ := tool
  obtain ⟨type', function'⟩ := tool'
  cases function
  cases function'
  simp_all

/-- Texts without numbers of their own. -/
theorem fieldsOk_optField {α : Type} {key : String} {json : α → JsonValue} {a : Option α}
    (h : ∀ a' ∈ a, NumbersOk (json a')) : FieldsOk (optField key json a) := by
  cases a with
  | none => trivial
  | some a => exact ⟨h a rfl, trivial⟩

theorem toolCallsJson_numbersOk (calls : List ToolCall) : NumbersOk (toolCallsJson calls) := by
  apply elementsOk_iff.mpr
  intro value hvalue
  obtain ⟨call, -, rfl⟩ := List.mem_map.mp hvalue
  simp [toolCallJson, NumbersOk, FieldsOk]

theorem contentJson_numbersOk (content : MessageContent) : NumbersOk (contentJson content) := by
  cases content with
  | text value => trivial
  | parts values =>
    apply elementsOk_iff.mpr
    intro value hvalue
    obtain ⟨part, -, rfl⟩ := List.mem_map.mp hvalue
    cases part with
    | text value => simp [contentPartJson, NumbersOk, FieldsOk]
    | imageUrl image =>
      have himage : NumbersOk (imageUrlJson image) :=
        ⟨trivial, fieldsOk_optField fun _ _ => trivial⟩
      simp [contentPartJson, NumbersOk, FieldsOk, himage]

/-- Messages have no numbers. -/
theorem messageJson_numbersOk (m : ChatMessage) : NumbersOk (messageJson m) := by
  refine ⟨trivial, contentJson_numbersOk m.content, ?_⟩
  apply fieldsOk_append.mpr
  refine ⟨fieldsOk_optField fun _ _ => trivial, fieldsOk_append.mpr ⟨?_, ?_⟩⟩
  · exact fieldsOk_optField fun calls _ => toolCallsJson_numbersOk calls
  · exact fieldsOk_optField fun _ _ => trivial

theorem toolCallsText_inj {calls calls' : List ToolCall}
    (h : jsonText (toolCallsJson calls) = jsonText (toolCallsJson calls')) : calls = calls' :=
  toolCallsJson_inj calls calls'
    (jsonText_inj (toolCallsJson_numbersOk calls) (toolCallsJson_numbersOk calls') h)

end Json

/-! ## Images -/

/-- `hex::encode`. -/
def hexEncode (bytes : List UInt8) : String := String.join (bytes.map fun b => hexDigits b.toNat)

/-- `short_hash_hex`: the first 16 bytes of the digest. -/
def shortHashHex (sha256 : List UInt8 → List UInt8) (bytes : List UInt8) : String :=
  hexEncode ((sha256 bytes).take 16)

/-- The stand-in for an inline image. -/
def base64Rep (sha256 : List UInt8 → List UInt8) (mediaType data : String) : String :=
  "sha256:" ++ mediaType ++ ":" ++ shortHashHex sha256 (textBytes data)

/-- `image_key_rep`. -/
def imageKeyRep (sha256 : List UInt8 → List UInt8) (image : ImageUrl) : String :=
  match image.parse with
  | .ok (.url url) => url
  | .ok (.base64 mediaType data) => base64Rep sha256 mediaType data
  | .error _ => "rawsha256:" ++ shortHashHex sha256 (textBytes image.url)

/-- What an image is: what it is parsed to, or its URL if it cannot be parsed. -/
def imageForm (image : ImageUrl) : ParsedImage ⊕ String :=
  match image.parse with
  | .ok parsed => .inl parsed
  | .error _ => .inr image.url

/-- The text of an image that is hashed. -/
def hashedText (image : ImageUrl) : Option String :=
  match imageForm image with
  | .inl (.url _) => none
  | .inl (.base64 _ data) => some data
  | .inr url => some url

/-- No two of some inputs have the same short hash. -/
def CollisionFree (sha256 : List UInt8 → List UInt8) (inputs : List (List UInt8)) : Prop :=
  ∀ input ∈ inputs, ∀ input' ∈ inputs, (sha256 input).take 16 = (sha256 input').take 16 →
    input = input'

section Images
variable {sha256 : List UInt8 → List UInt8}

theorem hexDigits_append_inj {n n' : ℕ} (hn : n < 256) (hn' : n' < 256) {x y : List Char}
    (h : (hexDigits n).toList ++ x = (hexDigits n').toList ++ y) : n = n' ∧ x = y := by
  rw [hexDigits, hexDigits, String.toList_ofList, String.toList_ofList] at h
  simp only [List.cons_append, List.nil_append, List.cons.injEq] at h
  obtain ⟨hhigh, hlow, hxy⟩ := h
  have hhigh' := congrArg hexValue hhigh
  have hlow' := congrArg hexValue hlow
  rw [hexValue_digitChar _ (by omega), hexValue_digitChar _ (by omega)] at hhigh' hlow'
  exact ⟨by omega, hxy⟩

theorem hexEncode_inj {bytes bytes' : List UInt8} (h : hexEncode bytes = hexEncode bytes') :
    bytes = bytes' := by
  have hlist := congrArg String.toList h
  rw [hexEncode, hexEncode, String.toList_join, String.toList_join, List.flatMap_map,
    List.flatMap_map] at hlist
  clear h
  have hne : ∀ (b : UInt8) (x : List Char), (hexDigits b.toNat).toList ++ x ≠ [] := by
    intro b x
    rw [hexDigits, String.toList_ofList]
    exact List.cons_ne_nil _ _
  induction bytes generalizing bytes' with
  | nil =>
    cases bytes' with
    | nil => rfl
    | cons b' bytes' => exact absurd hlist.symm (hne b' _)
  | cons b bytes ih =>
    cases bytes' with
    | nil => exact absurd hlist (hne b _)
    | cons b' bytes' =>
      rw [List.flatMap_cons, List.flatMap_cons] at hlist
      obtain ⟨hb, hrest⟩ := hexDigits_append_inj b.toNat_lt b'.toNat_lt hlist
      rw [UInt8.toNat_inj.mp hb, ih hrest]

/-- A `data:` URI is an inline image of a supported media type. -/
theorem parseDataUri_ok {rest : List Char} {parsed : ParsedImage}
    (h : parseDataUri rest = .ok parsed) :
    ∃ mediaType data, parsed = .base64 mediaType data ∧ mediaType ∈ supportedMediaTypes := by
  unfold parseDataUri at h
  split at h
  · cases h
  · split at h
    · cases h
    · rename_i data _ _ base64Meta _
      obtain ⟨mediaType, hmedia⟩ : ∃ mediaType,
          (if base64Meta.isEmpty then "image/jpeg" else String.ofList base64Meta) = mediaType :=
        ⟨_, rfl⟩
      dsimp only at h
      rw [hmedia] at h
      by_cases hsupported : mediaType ∈ supportedMediaTypes
      · rw [if_neg (not_not.mpr hsupported)] at h
        by_cases hdata : data.isEmpty = true
        · rw [if_pos hdata] at h
          cases h
        · rw [if_neg hdata] at h
          cases h
          exact ⟨_, _, rfl, hsupported⟩
      · rw [if_pos hsupported] at h
        cases h

/-- What an image can be parsed to. -/
theorem parse_ok {image : ImageUrl} {parsed : ParsedImage} (h : image.parse = .ok parsed) :
    (∃ url rest, parsed = .url url ∧ url.toList = 'h' :: rest) ∨
      ∃ mediaType data, parsed = .base64 mediaType data ∧ mediaType ∈ supportedMediaTypes := by
  unfold ImageUrl.parse at h
  dsimp only at h
  split at h
  · cases h
  · split at h
    · cases h
    · split at h
      · exact Or.inr (parseDataUri_ok h)
      · split at h
        · rename_i hscheme
          cases h
          rw [Bool.or_eq_true, List.isPrefixOf_iff_prefix, List.isPrefixOf_iff_prefix] at hscheme
          have hhead : ∃ rest, trim image.url.toList = 'h' :: rest := by
            rcases hscheme with ⟨rest, hrest⟩ | ⟨rest, hrest⟩
            · exact ⟨_, hrest.symm⟩
            · exact ⟨_, hrest.symm⟩
          obtain ⟨rest, hrest⟩ := hhead
          exact Or.inl ⟨_, rest, rfl, by rw [String.toList_ofList, hrest]⟩
        · cases h

theorem shortHashHex_inj {text text' : String} {inputs : List (List UInt8)}
    (hfree : CollisionFree sha256 inputs) (htext : textBytes text ∈ inputs)
    (htext' : textBytes text' ∈ inputs)
    (h : shortHashHex sha256 (textBytes text) = shortHashHex sha256 (textBytes text')) :
    text = text' :=
  ChannelLedger.textBytes_injective (hfree _ htext _ htext' (hexEncode_inj h))

/-- A text up to the first of some character. -/
theorem append_delimiter_inj {d : Char} : ∀ {x x' y y' : List Char}, d ∉ x → d ∉ x' →
    x ++ d :: y = x' ++ d :: y' → x = x' ∧ y = y' := by
  intro x
  induction x with
  | nil =>
    intro x' y y' _ hx' h
    cases x' with
    | nil => exact ⟨rfl, (List.cons.inj h).2⟩
    | cons c x' =>
      rw [(List.cons.inj h).1] at hx'
      exact absurd List.mem_cons_self hx'
  | cons c x ih =>
    intro x' y y' hx hx' h
    cases x' with
    | nil =>
      rw [← (List.cons.inj h).1] at hx
      exact absurd List.mem_cons_self hx
    | cons c' x' =>
      obtain ⟨rfl, hrest⟩ := List.cons.inj h
      obtain ⟨rfl, hy⟩ := ih (fun hin => hx (List.mem_cons_of_mem c hin))
        (fun hin => hx' (List.mem_cons_of_mem c hin)) hrest
      exact ⟨rfl, hy⟩

/-- The stand-in of an inline image says where its media type ends. -/
theorem base64Rep_inj {mediaType mediaType' data data' : String}
    (hmedia : mediaType ∈ supportedMediaTypes) (hmedia' : mediaType' ∈ supportedMediaTypes)
    (h : base64Rep sha256 mediaType data = base64Rep sha256 mediaType' data') :
    mediaType = mediaType' ∧
      shortHashHex sha256 (textBytes data) = shortHashHex sha256 (textBytes data') := by
  have hcolon : ∀ m ∈ supportedMediaTypes, ':' ∉ m.toList := by decide
  have hlist := congrArg String.toList h
  simp only [base64Rep, String.toList_append, List.append_assoc, List.append_cancel_left_eq]
    at hlist
  obtain ⟨htype, hhash⟩ := append_delimiter_inj (hcolon _ hmedia) (hcolon _ hmedia') hlist
  exact ⟨String.toList_inj.mp htype, String.toList_inj.mp hhash⟩

/-- The stand-in for what an image is. -/
def formRep (sha256 : List UInt8 → List UInt8) : ParsedImage ⊕ String → String
  | .inl (.url url) => url
  | .inl (.base64 mediaType data) => base64Rep sha256 mediaType data
  | .inr url => "rawsha256:" ++ shortHashHex sha256 (textBytes url)

/-- Images that are parsed alike have one stand-in. -/
theorem imageKeyRep_eq (image : ImageUrl) :
    imageKeyRep sha256 image = formRep sha256 (imageForm image) := by
  rw [imageKeyRep, imageForm]
  cases image.parse with
  | ok parsed => cases parsed <;> rfl
  | error e => rfl

/-- The first character of a stand-in. -/
def repHead : ParsedImage ⊕ String → Char
  | .inl (.url _) => 'h'
  | .inl (.base64 _ _) => 's'
  | .inr _ => 'r'

theorem formRep_head (image : ImageUrl) :
    ∃ rest, (formRep sha256 (imageForm image)).toList = repHead (imageForm image) :: rest := by
  rw [imageForm]
  cases hparse : image.parse with
  | error e =>
    refine ⟨"awsha256:".toList ++ (shortHashHex sha256 (textBytes image.url)).toList, ?_⟩
    dsimp only [formRep]
    rw [String.toList_append]
    rfl
  | ok parsed =>
    rcases parse_ok hparse with ⟨url, rest, rfl, hurl⟩ | ⟨mediaType, data, rfl, -⟩
    · exact ⟨rest, hurl⟩
    · refine ⟨"ha256:".toList ++ (mediaType.toList ++
        (":".toList ++ (shortHashHex sha256 (textBytes data)).toList)), ?_⟩
      dsimp only [formRep, base64Rep]
      rw [String.toList_append, String.toList_append, String.toList_append, List.append_assoc,
        List.append_assoc]
      rfl

/-- Images with one stand-in are parsed alike. -/
theorem imageKeyRep_inj {image image' : ImageUrl} {inputs : List (List UInt8)}
    (hfree : CollisionFree sha256 inputs)
    (himage : ∀ text ∈ hashedText image, textBytes text ∈ inputs)
    (himage' : ∀ text ∈ hashedText image', textBytes text ∈ inputs)
    (h : imageKeyRep sha256 image = imageKeyRep sha256 image') :
    imageForm image = imageForm image' := by
  rw [imageKeyRep_eq, imageKeyRep_eq] at h
  obtain ⟨rest, hrest⟩ := @formRep_head sha256 image
  obtain ⟨rest', hrest'⟩ := @formRep_head sha256 image'
  -- the first entry tells a URL, base64 data and a text that is no image apart
  have hhead : repHead (imageForm image) = repHead (imageForm image') := by
    rw [h, hrest'] at hrest
    exact (List.cons.inj hrest).1.symm
  -- base64 data is of a supported type, so the type ends where the hash begins
  have hmedia : ∀ {image : ImageUrl} {mediaType data : String},
      imageForm image = .inl (.base64 mediaType data) → mediaType ∈ supportedMediaTypes := by
    intro image mediaType data hform
    rw [imageForm] at hform
    cases hparse : image.parse with
    | error e =>
      rw [hparse] at hform
      cases hform
    | ok parsed =>
      rw [hparse] at hform
      rcases parse_ok hparse with ⟨url, rest, rfl, -⟩ | ⟨mediaType', data', rfl, hsupported⟩
      · cases hform
      · cases hform
        exact hsupported
  rw [hashedText] at himage himage'
  cases hform : imageForm image with
  | inl parsed =>
    cases hform' : imageForm image' with
    | inl parsed' =>
      rw [hform, hform'] at h hhead
      rw [hform] at himage
      rw [hform'] at himage'
      cases parsed with
      | url url =>
        cases parsed' with
        | url url' => exact congrArg (fun url => Sum.inl (ParsedImage.url url)) h
        | base64 mediaType' data' => exact absurd hhead (by simp [repHead])
      | base64 mediaType data =>
        cases parsed' with
        | url url' => exact absurd hhead (by simp [repHead])
        | base64 mediaType' data' =>
          obtain ⟨rfl, hhash⟩ := base64Rep_inj (hmedia hform) (hmedia hform') h
          rw [shortHashHex_inj hfree (himage data rfl) (himage' data' rfl) hhash]
    | inr url' =>
      rw [hform, hform'] at hhead
      cases parsed <;> exact absurd hhead (by simp [repHead])
  | inr url =>
    cases hform' : imageForm image' with
    | inl parsed' =>
      rw [hform, hform'] at hhead
      cases parsed' <;> exact absurd hhead (by simp [repHead])
    | inr url' =>
      rw [hform, hform'] at h
      rw [hform] at himage
      rw [hform'] at himage'
      have hlist := congrArg String.toList h
      simp only [formRep, String.toList_append, List.append_cancel_left_eq] at hlist
      rw [shortHashHex_inj hfree (himage url rfl) (himage' url' rfl) (String.toList_inj.mp hlist)]

end Images

end Solvela.Cache

import Solvela.Lib.Traverse
import Solvela.Protocol.Chat

/-!
# The inbound Messages request

`POST /v1/messages` reads an `AnthropicMessagesRequest` and makes one of two chat requests of it.
The strict translation refuses everything that is not text. The skeleton for the native relay
refuses nothing: it stands for a body that is forwarded as it came, so that a block which is not
text leaves only a space behind.

The wire types are read from a JSON value as serde derives it: unknown fields are ignored, a known
field may not stand twice, a struct may also be an array of its fields, and untagged values and
`serde_json::Value` are read whole first.
-/

namespace Solvela.Messages

open Solvela.Protocol
open Solvela.ChannelLedger (u64Max)
open Solvela.Client (isDigits digitsValue)
open Solvela.Lib (eq_map_of_mapM_ok)
open Solvela.Lib.Txn (except_bind_ok)
open Solvela.Signer (JsonValue fieldOf keysOk optionField structFields stringField unsignedField)

/-! ## JSON values, read whole -/

mutual

/-- The nesting of arrays and objects. -/
def depth : JsonValue → ℕ
  | .arr values => elementsDepth values + 1
  | .obj fields => fieldsDepth fields + 1
  | _ => 0

def elementsDepth : List JsonValue → ℕ
  | [] => 0
  | value :: values => max (depth value) (elementsDepth values)

def fieldsDepth : List (String × JsonValue) → ℕ
  | [] => 0
  | (_, value) :: fields => max (depth value) (fieldsDepth fields)

end

mutual

/-- The number tokens of a value. -/
def numberTokens : JsonValue → List String
  | .num token => [token]
  | .arr values => elementsTokens values
  | .obj fields => fieldsTokens fields
  | _ => []

def elementsTokens : List JsonValue → List String
  | [] => []
  | value :: values => numberTokens value ++ elementsTokens values

def fieldsTokens : List (String × JsonValue) → List String
  | [] => []
  | (_, value) :: fields => numberTokens value ++ fieldsTokens fields

end

/-- The nesting that `serde_json` reads: its limit of 128 is reached by the 128th level. -/
def maxNesting : ℕ := 127

/-- The floating-point numbers of `serde_json`: the text that the `f64` of a token is written back
as, which a token out of range has not, and the `f32` of a token. What is written is in range. -/
structure NumberReader where
  float : String → Option String
  f32 : String → F32
  float_again : ∀ {token text : String}, float token = some text → (float text).isSome = true

/-- A `Number` and back: an unsigned or a negative integer of 64 bits, or an `f64`. -/
def NumberReader.text (reader : NumberReader) (token : String) : Option String :=
  match token.toList with
  | '-' :: digits =>
    if isDigits digits && 0 < digitsValue digits && digitsValue digits ≤ 2 ^ 63 then
      some (toString (-(digitsValue digits : ℤ)))
    else reader.float token
  | digits =>
    if isDigits digits && digitsValue digits ≤ u64Max then some (toString (digitsValue digits))
    else reader.float token

/-- A value that stands in `level` arrays and objects can be read whole. -/
def readsWhole (reader : NumberReader) (level : ℕ) (value : JsonValue) : Bool :=
  depth value + level ≤ maxNesting && (numberTokens value).all fun t => (reader.text t).isSome

/-! ## Wire types -/

/-- `AnthropicSystemTextBlock`. -/
structure AnthropicSystemTextBlock where
  text : String
deriving DecidableEq

/-- `AnthropicSystem`. -/
inductive AnthropicSystem
  | text (s : String)
  | blocks (values : List AnthropicSystemTextBlock)
deriving DecidableEq

/-- `AnthropicInboundContentBlock`. -/
inductive AnthropicInboundContentBlock
  | text (text : String)
  | image
  | other
deriving DecidableEq

/-- `AnthropicInboundContent`. -/
inductive AnthropicInboundContent
  | text (s : String)
  | blocks (values : List AnthropicInboundContentBlock)
deriving DecidableEq

/-- `AnthropicInboundMessage`. -/
structure AnthropicInboundMessage where
  role : String
  content : AnthropicInboundContent
deriving DecidableEq

/-- `AnthropicMessagesRequest`. -/
structure AnthropicMessagesRequest where
  model : String
  maxTokens : Option ℕ
  system : Option AnthropicSystem
  messages : List AnthropicInboundMessage
  temperature : Option F32
  topP : Option F32
  stopSequences : Option (List String)
  stream : Bool
  tools : Option JsonValue
  toolChoice : Option JsonValue

/-! ## Reading -/

/-- A string. -/
def stringOfJson (value : JsonValue) : Option String := stringField (some value)

/-- An `f32`. -/
def f32OfJson (reader : NumberReader) : JsonValue → Option F32
  | .num token => if (reader.text token).isSome then some (reader.f32 token) else none
  | _ => none

/-- A list of strings. -/
def stringsOfJson : JsonValue → Option (List String)
  | .arr values => values.mapM stringOfJson
  | _ => none

/-- A `bool` with a default. -/
def boolField : Option JsonValue → Option Bool
  | none => some false
  | some (.bool b) => some b
  | _ => none

/-- A `serde_json::Value` in `level` arrays and objects. -/
def valueOfJson (reader : NumberReader) (level : ℕ) (value : JsonValue) : Option JsonValue :=
  if readsWhole reader level value then some value else none

/-- `AnthropicSystemTextBlock`, read. -/
def systemTextBlockOfJson (value : JsonValue) : Option AnthropicSystemTextBlock := do
  let get ← structFields false ["text"] value
  let text ← stringField (get "text")
  some ⟨text⟩

/-- `AnthropicSystem`, read: untagged. -/
def systemOfJson : JsonValue → Option AnthropicSystem
  | .str s => some (.text s)
  | .arr values => (values.mapM systemTextBlockOfJson).map .blocks
  | _ => none

/-- The kinds of content blocks. -/
inductive BlockTag
  | text
  | image
  | other
deriving DecidableEq

/-- The tag of a content block: a name, or the number of the variant. -/
def blockTag : JsonValue → Option BlockTag
  | .str "text" => some .text
  | .str "image" => some .image
  | .str _ => some .other
  | .num token =>
    (unsignedField u64Max (some (.num token))).map fun
      | 0 => .text
      | 1 => .image
      | _ => .other
  | _ => none

/-- `AnthropicInboundContentBlock`, read: tagged in an object, or by the head of an array. -/
def contentBlockOfJson : JsonValue → Option AnthropicInboundContentBlock
  | .obj fields =>
    if keysOk false ["type"] (fields.map Prod.fst) then
      match (fieldOf fields "type").bind blockTag with
      | some .text =>
        if keysOk false ["text"] (fields.map Prod.fst) then
          (stringField (fieldOf fields "text")).map .text
        else none
      | some .image => some .image
      | some .other => some .other
      | none => none
    else none
  | .arr (tag :: rest) =>
    match blockTag tag, rest with
    | some .text, [.str s] => some (.text s)
    | some .image, [] => some .image
    | some .other, [] => some .other
    | _, _ => none
  | _ => none

/-- `AnthropicInboundContent`, read: untagged. -/
def contentOfJson : JsonValue → Option AnthropicInboundContent
  | .str s => some (.text s)
  | .arr values => (values.mapM contentBlockOfJson).map .blocks
  | _ => none

/-- `AnthropicInboundMessage`, read. -/
def inboundMessageOfJson (reader : NumberReader) (value : JsonValue) :
    Option AnthropicInboundMessage := do
  let get ← structFields false ["role", "content"] value
  let role ← stringField (get "role")
  let contentValue ← get "content"
  let content ← (valueOfJson reader 3 contentValue).bind contentOfJson
  some ⟨role, content⟩

/-- The messages, read. -/
def inboundMessagesOfJson (reader : NumberReader) :
    JsonValue → Option (List AnthropicInboundMessage)
  | .arr values => values.mapM (inboundMessageOfJson reader)
  | _ => none

/-- The fields of `AnthropicMessagesRequest`, in their order. -/
def requestFields : List String :=
  ["model", "max_tokens", "system", "messages", "temperature", "top_p", "stop_sequences", "stream",
    "tools", "tool_choice"]

/-- `AnthropicMessagesRequest`, read. -/
def requestOfJson (reader : NumberReader) (body : JsonValue) :
    Option AnthropicMessagesRequest := do
  let get ← structFields false requestFields body
  let model ← stringField (get "model")
  let maxTokens ←
    optionField (fun value => unsignedField (2 ^ 32 - 1) (some value)) (get "max_tokens")
  let system ←
    optionField (fun value => (valueOfJson reader 1 value).bind systemOfJson) (get "system")
  let messages ← (get "messages").bind (inboundMessagesOfJson reader)
  let temperature ← optionField (f32OfJson reader) (get "temperature")
  let topP ← optionField (f32OfJson reader) (get "top_p")
  let stopSequences ← optionField stringsOfJson (get "stop_sequences")
  let stream ← boolField (get "stream")
  let tools ← optionField (valueOfJson reader 1) (get "tools")
  let toolChoice ← optionField (valueOfJson reader 1) (get "tool_choice")
  some ⟨model, maxTokens, system, messages, temperature, topP, stopSequences, stream, tools,
    toolChoice⟩

/-- What the fields of a request were read from. -/
structure ReadFrom (reader : NumberReader) (get : String → Option JsonValue)
    (req : AnthropicMessagesRequest) : Prop where
  model : stringField (get "model") = some req.model
  maxTokens : optionField (fun value => unsignedField (2 ^ 32 - 1) (some value))
    (get "max_tokens") = some req.maxTokens
  system : optionField (fun value => (valueOfJson reader 1 value).bind systemOfJson)
    (get "system") = some req.system
  messages : (get "messages").bind (inboundMessagesOfJson reader) = some req.messages
  temperature : optionField (f32OfJson reader) (get "temperature") = some req.temperature
  topP : optionField (f32OfJson reader) (get "top_p") = some req.topP
  stopSequences : optionField stringsOfJson (get "stop_sequences") = some req.stopSequences
  stream : boolField (get "stream") = some req.stream
  tools : optionField (valueOfJson reader 1) (get "tools") = some req.tools
  toolChoice : optionField (valueOfJson reader 1) (get "tool_choice") = some req.toolChoice

/-- A body that is read is an object whose fields are read. -/
theorem requestOfJson_some {reader : NumberReader} {body : JsonValue}
    {req : AnthropicMessagesRequest} (h : requestOfJson reader body = some req) :
    ∃ get, structFields false requestFields body = some get ∧ ReadFrom reader get req := by
  obtain ⟨get, hget, h⟩ := Option.bind_eq_some_iff.mp h
  obtain ⟨model, hmodel, h⟩ := Option.bind_eq_some_iff.mp h
  obtain ⟨maxTokens, hmaxTokens, h⟩ := Option.bind_eq_some_iff.mp h
  obtain ⟨system, hsystem, h⟩ := Option.bind_eq_some_iff.mp h
  obtain ⟨messages, hmessages, h⟩ := Option.bind_eq_some_iff.mp h
  obtain ⟨temperature, htemperature, h⟩ := Option.bind_eq_some_iff.mp h
  obtain ⟨topP, htopP, h⟩ := Option.bind_eq_some_iff.mp h
  obtain ⟨stopSequences, hstopSequences, h⟩ := Option.bind_eq_some_iff.mp h
  obtain ⟨stream, hstream, h⟩ := Option.bind_eq_some_iff.mp h
  obtain ⟨tools, htools, h⟩ := Option.bind_eq_some_iff.mp h
  obtain ⟨toolChoice, htoolChoice, h⟩ := Option.bind_eq_some_iff.mp h
  cases h
  exact ⟨get, hget, ⟨hmodel, hmaxTokens, hsystem, hmessages, htemperature, htopP, hstopSequences,
    hstream, htools, htoolChoice⟩⟩

/-- An object whose fields are read is read. -/
theorem requestOfJson_of_readFrom {reader : NumberReader} {body : JsonValue}
    {get : String → Option JsonValue} {req : AnthropicMessagesRequest}
    (hget : structFields false requestFields body = some get) (h : ReadFrom reader get req) :
    requestOfJson reader body = some req := by
  unfold requestOfJson
  simp only [hget, h.model, h.maxTokens, h.system, h.messages, h.temperature, h.topP,
    h.stopSequences, h.stream, h.tools, h.toolChoice, Option.bind_eq_bind, Option.bind_some]

/-! ## Translation -/

/-- `AnthropicSystem::flatten`. -/
def AnthropicSystem.flatten : AnthropicSystem → String
  | .text s => s
  | .blocks values => "\n\n".intercalate (values.map (·.text))

/-- `AnthropicSystem::is_empty`. -/
def AnthropicSystem.isEmpty (system : AnthropicSystem) : Bool :=
  (trim system.flatten.toList).isEmpty

/-- `inbound_role`. -/
def inboundRole (role : String) : Role := if role = "assistant" then .assistant else .user

/-- A message of a text. -/
def textMessage (role : Role) (text : String) : ChatMessage where
  role := role
  content := .text text
  name := none
  toolCalls := none
  toolCallId := none

/-- The system message that both translations put first. -/
def systemMessage : Option AnthropicSystem → List ChatMessage
  | none => []
  | some system => if system.isEmpty then [] else [textMessage .system system.flatten]

/-- `AnthropicInboundError`. -/
inductive AnthropicInboundError
  | invalidBody (message : String)
  | imageUnsupported
  | toolUseUnsupported
deriving DecidableEq

/-- What the error says. -/
def AnthropicInboundError.text : AnthropicInboundError → String
  | .invalidBody message => s!"invalid Anthropic Messages request: {message}"
  | .imageUnsupported =>
    "image content is not yet supported on POST /v1/messages; send text-only content " ++
      "(image support is planned for a later release)"
  | .toolUseUnsupported =>
    "tool use is not yet supported on POST /v1/messages; remove `tools`/`tool_choice` " ++
      "and tool content blocks (tool support is planned for a later release)"

/-- What a streaming request is refused with. -/
def streamUnsupportedText : String :=
  "streaming responses are not yet supported on POST /v1/messages; set \"stream\": false " ++
    "(SSE support is planned for a later release)"

/-- A block of `inbound_content_to_message_content`. -/
def blockText : AnthropicInboundContentBlock → Except AnthropicInboundError String
  | .text text => .ok text
  | .image => .error .imageUnsupported
  | .other => .error .toolUseUnsupported

/-- `inbound_content_to_message_content`. -/
def inboundContentToMessageContent :
    AnthropicInboundContent → Except AnthropicInboundError MessageContent
  | .text s => .ok (.text s)
  | .blocks values => do
    let texts ← values.mapM blockText
    return .text (" ".intercalate texts)

/-- One message of `anthropic_request_to_chat`. -/
def strictMessage (m : AnthropicInboundMessage) : Except AnthropicInboundError ChatMessage := do
  let content ← inboundContentToMessageContent m.content
  return {
    role := inboundRole m.role
    content := content
    name := none
    toolCalls := none
    toolCallId := none }

/-- `anthropic_request_to_chat`. -/
def anthropicRequestToChat (req : AnthropicMessagesRequest) :
    Except AnthropicInboundError ChatRequest :=
  if req.stream then .error (.invalidBody streamUnsupportedText)
  else if req.tools.isSome || req.toolChoice.isSome then .error .toolUseUnsupported
  else do
    let messages ← req.messages.mapM strictMessage
    return {
      model := req.model
      messages := systemMessage req.system ++ messages
      maxTokens := req.maxTokens
      temperature := req.temperature
      topP := req.topP
      stream := false
      tools := none
      toolChoice := none }

/-- A block of `flatten_inbound_content_lenient`. -/
def lenientBlockText : AnthropicInboundContentBlock → String
  | .text text => text
  | .image | .other => " "

/-- `flatten_inbound_content_lenient`. -/
def flattenInboundContentLenient : AnthropicInboundContent → String
  | .text s => s
  | .blocks values => " ".intercalate (values.map lenientBlockText)

/-- `anthropic_request_to_native_skeleton`. -/
def anthropicRequestToNativeSkeleton (req : AnthropicMessagesRequest) : ChatRequest where
  model := req.model
  messages :=
    systemMessage req.system ++
      req.messages.map fun m =>
        textMessage (inboundRole m.role) (flattenInboundContentLenient m.content)
  maxTokens := req.maxTokens
  temperature := req.temperature
  topP := req.topP
  stream := req.stream
  tools := none
  toolChoice := none

/-! ## Where the translations agree -/

/-- Where a block is accepted, it is flattened as in the lenient way. -/
theorem blockText_ok (block : AnthropicInboundContentBlock) (text : String)
    (h : blockText block = .ok text) : text = lenientBlockText block := by
  cases block with
  | text s => exact (Except.ok.inj h).symm
  | image => cases h
  | other => cases h

/-- So is a message. -/
theorem strictMessage_ok (m : AnthropicInboundMessage) (message : ChatMessage)
    (h : strictMessage m = .ok message) :
    message = textMessage (inboundRole m.role) (flattenInboundContentLenient m.content) := by
  rw [strictMessage, except_bind_ok] at h
  obtain ⟨content, hcontent, h⟩ := h
  cases h
  cases hm : m.content with
  | text s =>
    rw [hm] at hcontent
    cases hcontent
    rfl
  | blocks values =>
    rw [hm, inboundContentToMessageContent, except_bind_ok] at hcontent
    obtain ⟨texts, htexts, hcontent⟩ := hcontent
    cases hcontent
    rw [eq_map_of_mapM_ok blockText_ok htexts]
    rfl

/-- A request that the strict translation accepts has the messages of its skeleton: without images
and other blocks both join the texts alike. -/
theorem anthropicRequestToChat_ok {req : AnthropicMessagesRequest} {chat : ChatRequest}
    (h : anthropicRequestToChat req = .ok chat) :
    chat = { anthropicRequestToNativeSkeleton req with stream := false } := by
  rw [anthropicRequestToChat] at h
  split at h
  · cases h
  · split at h
    · cases h
    · rw [except_bind_ok] at h
      obtain ⟨messages, hmessages, h⟩ := h
      rw [eq_map_of_mapM_ok strictMessage_ok hmessages] at h
      exact (Except.ok.inj h).symm

end Solvela.Messages

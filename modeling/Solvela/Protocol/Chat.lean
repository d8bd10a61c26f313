import Solvela.Protocol.Vision
import Solvela.Signer.ChannelWire

/-!
# The chat wire types

The types of `chat.rs`, `tools.rs` and `streaming.rs`, and from `settlement.rs` why a settlement
failed. An `f32` is given by its bits, and a `serde_json::Value` by a JSON value.
-/

namespace Solvela.Protocol

open Solvela.Signer (JsonValue)

/-- `Role`. -/
inductive Role
  | system
  | user
  | assistant
  | tool
  | developer
  | unknown
deriving DecidableEq

/-- An `f32`. -/
structure F32 where
  bits : UInt32
deriving DecidableEq

/-! ## Tools -/

/-- `FunctionCall`. -/
structure FunctionCall where
  name : String
  arguments : String
deriving DecidableEq

/-- `ToolCall`. -/
structure ToolCall where
  id : String
  type : String
  function : FunctionCall
deriving DecidableEq

/-- `FunctionDefinitionInner`. -/
structure FunctionDefinitionInner where
  name : String
  description : Option String
  parameters : Option JsonValue

/-- `ToolDefinition`. -/
structure ToolDefinition where
  type : String
  function : FunctionDefinitionInner

/-- `FunctionCallDelta`. -/
structure FunctionCallDelta where
  name : Option String
  arguments : Option String
deriving DecidableEq

/-- `ToolCallDelta`. -/
structure ToolCallDelta where
  index : ℕ
  id : Option String
  type : Option String
  function : Option FunctionCallDelta
deriving DecidableEq

/-! ## Requests and responses -/

/-- `ChatMessage`. -/
structure ChatMessage where
  role : Role
  content : MessageContent
  name : Option String
  toolCalls : Option (List ToolCall)
  toolCallId : Option String
deriving DecidableEq

/-- `ChatRequest`. -/
structure ChatRequest where
  model : String
  messages : List ChatMessage
  maxTokens : Option ℕ
  temperature : Option F32
  topP : Option F32
  stream : Bool
  tools : Option (List ToolDefinition)
  toolChoice : Option JsonValue

/-- `Usage`. -/
structure Usage where
  promptTokens : ℕ
  completionTokens : ℕ
  totalTokens : ℕ
deriving DecidableEq

/-- `ChatChoice`. -/
structure ChatChoice where
  index : ℕ
  message : ChatMessage
  finishReason : Option String
deriving DecidableEq

/-- `ChatResponse`. -/
structure ChatResponse where
  id : String
  object : String
  created : ℤ
  model : String
  choices : List ChatChoice
  usage : Option Usage
deriving DecidableEq

/-! ## Streaming -/

/-- `ChatDelta`. -/
structure ChatDelta where
  role : Option Role
  content : Option String
  toolCalls : Option (List ToolCallDelta)
deriving DecidableEq

/-- `ChatChunkChoice`. -/
structure ChatChunkChoice where
  index : ℕ
  delta : ChatDelta
  finishReason : Option String
deriving DecidableEq

/-- `ChatChunk`. -/
structure ChatChunk where
  id : String
  object : String
  created : ℤ
  model : String
  choices : List ChatChunkChoice
deriving DecidableEq

/-! ## Settlements -/

/-- `SettlementFailureKind`. -/
inductive SettlementFailureKind
  | rejected (programErrorCode : Option ℕ)
  | timeout
  | submission

end Solvela.Protocol

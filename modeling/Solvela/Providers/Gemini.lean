import Solvela.Lib.Sse
import Solvela.Protocol.Chat

/-!
# The two readers of a Gemini answer

`from_gemini_response` reads an answer that came in one piece, and `spawn_gemini_sse_parser` one
that came in frames, each frame an answer of its own. Both translate the parts of the first
candidate; only the second one knows tool calls.

The frames are read here as they are; how they are found in the bytes of the stream is a matter of
`Providers.Streams`.
-/

namespace Solvela.Providers

open Solvela.Protocol
open Solvela.Lib.Sse (Fed feed feed_append_of_closed feed_append_of_open)
open Solvela.Signer (JsonValue jsonText)

/-! ## Wire types -/

/-- `GeminiPart`. -/
inductive GeminiPart
  | text (text : String) (thought : Option Bool)
  | inlineData (mimeType data : String)
  | fileData (mimeType fileUri : String)
  | functionCall (name : String) (args : JsonValue)
  | other (value : JsonValue)

/-- `GeminiContent`. -/
structure GeminiContent where
  role : Option String
  parts : List GeminiPart

/-- `GeminiCandidate`. -/
structure GeminiCandidate where
  content : GeminiContent
  finishReason : Option String

/-- `GeminiUsageMetadata`, without the count that is only metered. -/
structure GeminiUsageMetadata where
  promptTokenCount : Option ℕ
  candidatesTokenCount : Option ℕ
  totalTokenCount : Option ℕ

/-- `GeminiPromptFeedback`. -/
structure GeminiPromptFeedback where
  blockReason : Option String

/-- `GeminiResponse`. -/
structure GeminiResponse where
  candidates : Option (List GeminiCandidate)
  usageMetadata : Option GeminiUsageMetadata
  promptFeedback : Option GeminiPromptFeedback

/-- The first candidate, which both readers look at. -/
def GeminiResponse.firstCandidate (resp : GeminiResponse) : Option GeminiCandidate :=
  resp.candidates.bind List.head?

/-- The reason the prompt was blocked for. -/
def GeminiResponse.blockReason (resp : GeminiResponse) : Option String :=
  resp.promptFeedback.bind (·.blockReason)

/-! ## The buffered reader -/

/-- `map_gemini_finish_reason`. `lower` is `str::to_lowercase`. -/
def mapGeminiFinishReason (lower : String → String) : String → String
  | "STOP" => "stop"
  | "MAX_TOKENS" => "length"
  | "SAFETY" => "content_filter"
  | other => lower other

/-- `part_visible_text`. -/
def partVisibleText : GeminiPart → Option String
  | .text _ (some true) => none
  | .text text _ => some text
  | _ => none

/-- The visible text of some parts. -/
def visibleText (parts : List GeminiPart) : String := String.join (parts.filterMap partVisibleText)

/-- What an answer is stamped with: its id, its time and the model that was asked. -/
structure Stamp where
  id : String
  created : ℤ
  model : String

/-- `from_gemini_response`. -/
def fromGeminiResponse (lower : String → String) (stamp : Stamp) (resp : GeminiResponse) :
    ChatResponse :=
  let (content, finishReason) :=
    match resp.firstCandidate with
    | some c => (visibleText c.content.parts, c.finishReason.map (mapGeminiFinishReason lower))
    | none => ("", some "content_filter")
  let usage := resp.usageMetadata.map fun u =>
    { promptTokens := u.promptTokenCount.getD 0
      completionTokens := u.candidatesTokenCount.getD 0
      totalTokens := u.totalTokenCount.getD 0 }
  { id := stamp.id
    object := "chat.completion"
    created := stamp.created
    model := stamp.model
    choices :=
      [ { index := 0
          message :=
            { role := .assistant, content := .text content, name := none, toolCalls := none
              toolCallId := none }
          finishReason := finishReason } ]
    usage := usage }

/-! ## The streaming reader -/

/-- What a stream sends: a chunk, or the text of a provider error. -/
abbrev StreamItem := Except String ChatChunk

/-- A chunk with one choice. -/
def makeChunk (stamp : Stamp) (delta : ChatDelta) (finishReason : Option String) : ChatChunk where
  id := stamp.id
  object := "chat.completion.chunk"
  created := stamp.created
  model := stamp.model
  choices := [{ index := 0, delta := delta, finishReason := finishReason }]

/-- The function call of a part. -/
def GeminiPart.call? : GeminiPart → Option (String × JsonValue)
  | .functionCall name args => some (name, args)
  | _ => none

/-- The function calls of some parts, with their arguments as texts. -/
def functionCalls (parts : List GeminiPart) : List FunctionCall :=
  (parts.filterMap GeminiPart.call?).map fun call => ⟨call.1, jsonText call.2⟩

/-- The tool calls of one frame, numbered from 0. -/
def toolCallDeltas (parts : List GeminiPart) : List ToolCallDelta :=
  (functionCalls parts).zipIdx.map fun (fc, i) =>
    { index := i % 2 ^ 32
      id := some s!"call_{i}"
      type := some "function"
      function := some ⟨some fc.name, some fc.arguments⟩ }

/-- The chunks of one frame with a candidate. -/
def candidateChunks (lower : String → String) (stamp : Stamp) (roleSent : Bool)
    (candidate : GeminiCandidate) : List ChatChunk :=
  let role :=
    if roleSent then [] else [makeChunk stamp ⟨some .assistant, none, none⟩ none]
  let text := visibleText candidate.content.parts
  let content := if text.isEmpty then [] else [makeChunk stamp ⟨none, some text, none⟩ none]
  let toolCalls := toolCallDeltas candidate.content.parts
  let hasToolCall := !toolCalls.isEmpty
  let tools := if hasToolCall then [makeChunk stamp ⟨none, none, some toolCalls⟩ none] else []
  let terminal := candidate.finishReason.toList.map fun reason =>
    makeChunk stamp ⟨none, none, none⟩
      (some (if hasToolCall then "tool_calls" else mapGeminiFinishReason lower reason))
  role ++ content ++ tools ++ terminal

/-- `spawn_gemini_sse_parser` on one frame. The state is whether the role has been sent. -/
def geminiFrame (lower : String → String) (stamp : Stamp) (roleSent : Bool)
    (frame : GeminiResponse) : Fed Bool StreamItem :=
  match frame.firstCandidate with
  | none =>
    match frame.blockReason with
    | some reason => ⟨roleSent, [.error s!"gemini prompt blocked: {reason}"], true⟩
    | none => ⟨roleSent, [], false⟩
  | some candidate =>
    { state := true
      sent := (candidateChunks lower stamp roleSent candidate).map .ok
      closed := candidate.finishReason.isSome }

/-! ## Putting a stream together -/

/-- What a client has of an answer: its text, its tool calls under their indices, and the reason it
ended for. -/
structure Assembled where
  text : String
  toolCalls : List (ℕ × ToolCall)
  finishReason : Option String

/-- A tool-call delta: it opens the call of its index, or its arguments are appended to it. -/
def mergeToolCall (calls : List (ℕ × ToolCall)) (delta : ToolCallDelta) : List (ℕ × ToolCall) :=
  let function := delta.function.getD ⟨none, none⟩
  if calls.any (·.1 = delta.index) then
    calls.map fun call =>
      if call.1 = delta.index then
        (call.1, { call.2 with function :=
          { call.2.function with
            arguments := call.2.function.arguments ++ function.arguments.getD "" } })
      else call
  else
    calls ++ [(delta.index,
      { id := delta.id.getD ""
        type := delta.type.getD ""
        function := ⟨function.name.getD "", function.arguments.getD ""⟩ })]

/-- A choice of a chunk. -/
def mergeChoice (a : Assembled) (choice : ChatChunkChoice) : Assembled where
  text := a.text ++ choice.delta.content.getD ""
  toolCalls := (choice.delta.toolCalls.getD []).foldl mergeToolCall a.toolCalls
  finishReason := choice.finishReason.or a.finishReason

/-- A piece of a stream, put together from a state on by the rules for OpenAI deltas: contents are
concatenated, tool calls merged by their index. -/
def assembleFrom (a : Assembled) (items : List StreamItem) : Assembled :=
  items.foldl
    (fun a item =>
      match item with
      | .ok chunk => chunk.choices.foldl mergeChoice a
      | .error _ => a)
    a

/-- A whole stream. -/
def assemble (items : List StreamItem) : Assembled := assembleFrom ⟨"", [], none⟩ items

/-! ## Agreement -/

/-- The frames of an answer: the last one carries the finish reason, and no other one does. -/
structure FrameSequence where
  init : List GeminiResponse
  last : GeminiResponse
  candidate : GeminiCandidate
  reason : String
  last_candidate : last.firstCandidate = some candidate
  last_reason : candidate.finishReason = some reason
  init_unfinished : ∀ frame ∈ init, ∀ c, frame.firstCandidate = some c → c.finishReason = none

/-- The parts of a frame. -/
def GeminiResponse.parts (frame : GeminiResponse) : List GeminiPart :=
  (frame.firstCandidate.map (·.content.parts)).getD []

namespace FrameSequence

variable (frames : FrameSequence)

/-- The frames in order. -/
def all : List GeminiResponse := frames.init ++ [frames.last]

/-- The parts of all frames. -/
def parts : List GeminiPart := frames.all.flatMap GeminiResponse.parts

/-- The same answer in one piece. -/
def response : GeminiResponse where
  candidates := some
    [{ content := { role := frames.candidate.content.role, parts := frames.parts }
       finishReason := some frames.reason }]
  usageMetadata := frames.last.usageMetadata
  promptFeedback := frames.last.promptFeedback

/-- What the streaming reader sends. -/
def streamed (lower : String → String) (stamp : Stamp) : List StreamItem :=
  (feed (geminiFrame lower stamp) false frames.all).sent

/-- The two readers give the same text, the same tool calls, one for each function call and in
order, and the same finish reason. -/
structure ReadersAgree (lower : String → String) (stamp : Stamp) : Prop where
  text : ∀ choice ∈ (fromGeminiResponse lower stamp frames.response).choices,
    (assemble (frames.streamed lower stamp)).text = choice.message.content.asText
  toolCalls : ∀ choice ∈ (fromGeminiResponse lower stamp frames.response).choices,
    (assemble (frames.streamed lower stamp)).toolCalls.map Prod.snd =
      choice.message.toolCalls.getD []
  oneEach : (assemble (frames.streamed lower stamp)).toolCalls.map (·.2.function) =
    functionCalls frames.parts
  finishReason : ∀ choice ∈ (fromGeminiResponse lower stamp frames.response).choices,
    (assemble (frames.streamed lower stamp)).finishReason = choice.finishReason

/-- No part is a function call, and no frame reports a blocked prompt in place of a candidate. -/
structure Plain : Prop where
  noCalls : ∀ part ∈ frames.parts, part.call? = none
  unblocked : ∀ frame ∈ frames.init, frame.firstCandidate = none → frame.blockReason = none

end FrameSequence

/-! ## Frames without function calls -/

section Texts
variable {lower : String → String} {stamp : Stamp}

theorem visibleText_append (parts parts' : List GeminiPart) :
    visibleText (parts ++ parts') = visibleText parts ++ visibleText parts' := by
  rw [visibleText, List.filterMap_append, String.join_append]
  rfl

theorem toolCallDeltas_eq_nil {parts : List GeminiPart} (hnone : functionCalls parts = []) :
    toolCallDeltas parts = [] := by
  rw [toolCallDeltas, hnone]
  rfl

@[simp] theorem assembleFrom_nil (a : Assembled) : assembleFrom a [] = a := rfl

theorem assembleFrom_append (a : Assembled) (items items' : List StreamItem) :
    assembleFrom a (items ++ items') = assembleFrom (assembleFrom a items) items' :=
  List.foldl_append

/-- A chunk with one choice merges that choice. -/
theorem assembleFrom_makeChunk (a : Assembled) (delta : ChatDelta) (reason : Option String) :
    assembleFrom a [.ok (makeChunk stamp delta reason)] = mergeChoice a ⟨0, delta, reason⟩ := rfl

/-- A frame without function calls adds its text, and its finish reason if it has one. -/
theorem assembleFrom_candidate {roleSent : Bool} {candidate : GeminiCandidate}
    (hnone : functionCalls candidate.content.parts = []) (a : Assembled) :
    assembleFrom a ((candidateChunks lower stamp roleSent candidate).map .ok) =
      { a with
        text := a.text ++ visibleText candidate.content.parts
        finishReason := (candidate.finishReason.map (mapGeminiFinishReason lower)).or
          a.finishReason } := by
  have hrole : ∀ (chunks : List ChatChunk),
      assembleFrom a (((if roleSent then [] else
          [makeChunk stamp ⟨some .assistant, none, none⟩ none]) ++ chunks).map .ok) =
        assembleFrom a (chunks.map .ok) := by
    intro chunks
    rw [List.map_append, assembleFrom_append]
    congr 1
    split
    · rfl
    · simp [assembleFrom_makeChunk, mergeChoice]
  have htext : assembleFrom a ((if (visibleText candidate.content.parts).isEmpty then [] else
        [makeChunk stamp ⟨none, some (visibleText candidate.content.parts), none⟩ none]).map .ok) =
      { a with text := a.text ++ visibleText candidate.content.parts } := by
    split
    · rename_i hempty
      rw [String.isEmpty_iff] at hempty
      simp [hempty]
    · simp [assembleFrom_makeChunk, mergeChoice]
  -- with no tool call in the frame, its reason is mapped and nothing else is sent
  rw [candidateChunks]
  simp only [toolCallDeltas_eq_nil hnone, List.isEmpty_nil, Bool.not_true, Bool.false_eq_true,
    if_false, List.append_nil, List.append_assoc]
  rw [hrole, List.map_append, assembleFrom_append, htext]
  cases candidate.finishReason with
  | none => simp
  | some reason => simp [assembleFrom_makeChunk, mergeChoice]

/-- An unfinished frame without function calls adds its text. -/
theorem assembleFrom_frame {frame : GeminiResponse} (hcalls : functionCalls frame.parts = [])
    (hopen : ∀ c, frame.firstCandidate = some c → c.finishReason = none) (roleSent : Bool)
    (a : Assembled) :
    assembleFrom a (geminiFrame lower stamp roleSent frame).sent =
      { a with text := a.text ++ visibleText frame.parts } := by
  rw [geminiFrame, GeminiResponse.parts]
  rw [GeminiResponse.parts] at hcalls
  cases hc : frame.firstCandidate with
  | some candidate =>
    rw [hc] at hcalls
    have hnone : functionCalls candidate.content.parts = [] := hcalls
    have hreason : candidate.finishReason = none := hopen candidate hc
    show assembleFrom a ((candidateChunks lower stamp roleSent candidate).map .ok) = _
    rw [assembleFrom_candidate hnone, hreason]
    rfl
  | none =>
    -- a frame without a candidate has no text, blocked or not
    have htext : a.text ++ visibleText [] = a.text := String.append_empty
    cases frame.blockReason with
    | none => simp [htext]
    | some reason => simp [htext, assembleFrom]

/-- An unfinished frame closes the stream when it has no candidate but a reason to be blocked. -/
theorem closed_frame {frame : GeminiResponse}
    (hopen : ∀ c, frame.firstCandidate = some c → c.finishReason = none) (roleSent : Bool) :
    (geminiFrame lower stamp roleSent frame).closed = false ↔
      (frame.firstCandidate = none → frame.blockReason = none) := by
  rw [geminiFrame]
  cases hc : frame.firstCandidate with
  | some candidate => simp [hopen candidate hc]
  | none => cases frame.blockReason <;> simp

/-- Frames that neither call a function, nor finish, nor are blocked are all read, and add their
texts. -/
theorem feed_open {init : List GeminiResponse}
    (hcalls : ∀ frame ∈ init, functionCalls frame.parts = [])
    (hopen : ∀ frame ∈ init, ∀ c, frame.firstCandidate = some c → c.finishReason = none)
    (hunblocked : ∀ frame ∈ init, frame.firstCandidate = none → frame.blockReason = none)
    (roleSent : Bool) (a : Assembled) :
    (feed (geminiFrame lower stamp) roleSent init).closed = false ∧
      assembleFrom a (feed (geminiFrame lower stamp) roleSent init).sent =
        { a with text := a.text ++ visibleText (init.flatMap GeminiResponse.parts) } := by
  induction init generalizing roleSent a with
  | nil => exact ⟨rfl, congrArg (Assembled.mk · _ _) String.append_empty.symm⟩
  | cons frame rest ih =>
    have hstep := (@closed_frame lower stamp _
      (hopen frame List.mem_cons_self) roleSent).mpr (hunblocked frame List.mem_cons_self)
    have hrest := ih (fun f hf => hcalls f (List.mem_cons_of_mem _ hf))
      (fun f hf => hopen f (List.mem_cons_of_mem _ hf))
      (fun f hf => hunblocked f (List.mem_cons_of_mem _ hf))
    rw [feed, if_neg (by rw [hstep]; exact Bool.false_ne_true)]
    refine ⟨(hrest _ a).1, ?_⟩
    rw [assembleFrom_append, assembleFrom_frame (hcalls frame List.mem_cons_self)
      (hopen frame List.mem_cons_self), (hrest _ _).2, List.flatMap_cons, visibleText_append,
      String.append_assoc]

/-- Frames that neither call a function nor finish leave the finish reason as it was, and one that
is blocked closes the stream. -/
theorem feed_blocked {init : List GeminiResponse}
    (hcalls : ∀ frame ∈ init, functionCalls frame.parts = [])
    (hopen : ∀ frame ∈ init, ∀ c, frame.firstCandidate = some c → c.finishReason = none)
    {blocked : GeminiResponse} (hmem : blocked ∈ init) (hnone : blocked.firstCandidate = none)
    (hreason : blocked.blockReason ≠ none) (roleSent : Bool) (a : Assembled) :
    (feed (geminiFrame lower stamp) roleSent init).closed = true ∧
      (assembleFrom a (feed (geminiFrame lower stamp) roleSent init).sent).finishReason =
        a.finishReason := by
  induction init generalizing roleSent a with
  | nil => exact absurd hmem List.not_mem_nil
  | cons frame rest ih =>
    have hframe := @assembleFrom_frame lower stamp _
      (hcalls frame List.mem_cons_self) (hopen frame List.mem_cons_self) roleSent
    rw [feed]
    split
    · rename_i hclosed
      refine ⟨hclosed, ?_⟩
      rw [hframe]
    · rename_i hstep
      -- the frame that is blocked is a later one
      have hlater : blocked ∈ rest := by
        apply (List.mem_cons.mp hmem).resolve_left
        intro heq
        rw [heq] at hnone hreason
        have hfalse : (geminiFrame lower stamp roleSent frame).closed = false := by
          simpa using hstep
        exact hreason ((closed_frame (hopen frame List.mem_cons_self) roleSent).mp hfalse hnone)
      have hrest := ih (fun f hf => hcalls f (List.mem_cons_of_mem _ hf))
        (fun f hf => hopen f (List.mem_cons_of_mem _ hf)) hlater
      refine ⟨(hrest _ a).1, ?_⟩
      rw [assembleFrom_append, (hrest _ _).2, hframe]

end Texts

/-! ## The two readers -/

section Agreement
variable {lower : String → String} {stamp : Stamp} (frames : FrameSequence)

theorem functionCalls_eq_nil_iff {parts : List GeminiPart} :
    functionCalls parts = [] ↔ ∀ part ∈ parts, part.call? = none := by
  simp [functionCalls]

namespace FrameSequence

/-- Without function calls in the answer there are none in a frame. -/
theorem frame_calls (hnone : functionCalls frames.parts = []) {frame : GeminiResponse}
    (hmem : frame ∈ frames.all) : functionCalls frame.parts = [] := by
  rw [functionCalls_eq_nil_iff] at hnone ⊢
  intro part hpart
  exact hnone part (List.mem_flatMap.mpr ⟨frame, hmem, hpart⟩)

theorem parts_last : frames.last.parts = frames.candidate.content.parts := by
  rw [GeminiResponse.parts, frames.last_candidate]
  rfl

/-- The buffered reader on the answer in one piece. -/
theorem buffered_choices :
    (fromGeminiResponse lower stamp frames.response).choices =
      [ { index := 0
          message :=
            { role := .assistant, content := .text (visibleText frames.parts), name := none
              toolCalls := none, toolCallId := none }
          finishReason := some (mapGeminiFinishReason lower frames.reason) } ] := rfl

/-- A plain answer, streamed and put together. -/
theorem assemble_streamed (hplain : frames.Plain) :
    assemble (frames.streamed lower stamp) =
      { text := visibleText frames.parts
        toolCalls := []
        finishReason := some (mapGeminiFinishReason lower frames.reason) } := by
  have hnone : functionCalls frames.parts = [] :=
    functionCalls_eq_nil_iff.mpr hplain.noCalls
  have hinit : ∀ frame ∈ frames.init, functionCalls frame.parts = [] := by
    intro frame hmem
    exact frames.frame_calls hnone (List.mem_append_left _ hmem)
  have hlast : functionCalls frames.candidate.content.parts = [] := by
    rw [← parts_last]
    exact frames.frame_calls hnone (List.mem_append_right _ List.mem_cons_self)
  obtain ⟨hopen, htext⟩ := @feed_open lower stamp _ hinit
    frames.init_unfinished hplain.unblocked false ⟨"", [], none⟩
  -- the last frame adds its text and the reason
  have hframe : ∀ roleSent, feed (geminiFrame lower stamp) roleSent [frames.last] =
      ⟨true, (candidateChunks lower stamp roleSent frames.candidate).map .ok, true⟩ := by
    intro roleSent
    rw [feed, geminiFrame, frames.last_candidate]
    simp [frames.last_reason]
  rw [assemble, streamed, all, feed_append_of_open _ hopen, hframe, assembleFrom_append, htext,
    assembleFrom_candidate hlast, frames.last_reason, parts, all, List.flatMap_append,
    visibleText_append, List.flatMap_singleton, parts_last]
  simp

/-- A blocked answer never gets a finish reason. -/
theorem assemble_blocked (hnone : functionCalls frames.parts = []) {blocked : GeminiResponse}
    (hmem : blocked ∈ frames.init) (hcandidate : blocked.firstCandidate = none)
    (hreason : blocked.blockReason ≠ none) :
    (assemble (frames.streamed lower stamp)).finishReason = none := by
  have hinit : ∀ frame ∈ frames.init, functionCalls frame.parts = [] := by
    intro frame hframe
    exact frames.frame_calls hnone (List.mem_append_left _ hframe)
  have hfed := @feed_blocked lower stamp _ hinit frames.init_unfinished _ hmem
    hcandidate hreason false ⟨"", [], none⟩
  rw [assemble, streamed, all, feed_append_of_closed _ hfed.1]
  exact hfed.2

/-- The two readers agree on the plain answers and on no others: the buffered reader drops every
function call, which the streaming one sends, and a blocked prompt ends the stream early. -/
theorem readersAgree_iff (lower : String → String) (stamp : Stamp) (frames : FrameSequence) :
    frames.ReadersAgree lower stamp ↔ frames.Plain := by
  constructor
  · intro hagree
    have hcalls := hagree.toolCalls _ (by rw [buffered_choices]; exact List.mem_cons_self)
    -- the buffered reader has no tool calls, so there are none
    have hnone : functionCalls frames.parts = [] := by
      have hstreamed : (assemble (frames.streamed lower stamp)).toolCalls = [] :=
        List.map_eq_nil_iff.mp hcalls
      rw [← hagree.oneEach, hstreamed]
      rfl
    constructor
    · exact functionCalls_eq_nil_iff.mp hnone
    · intro frame hmem hcandidate
      -- a blocked answer has no finish reason in the stream
      by_contra hreason
      have hfinish := hagree.finishReason _ (by rw [buffered_choices]; exact List.mem_cons_self)
      rw [frames.assemble_blocked hnone hmem hcandidate hreason] at hfinish
      exact Option.some_ne_none _ hfinish.symm
  · intro hplain
    have hnone : functionCalls frames.parts = [] :=
      functionCalls_eq_nil_iff.mpr hplain.noCalls
    constructor
    · intro choice hchoice
      rw [buffered_choices, List.mem_singleton] at hchoice
      rw [frames.assemble_streamed hplain, hchoice]
      rfl
    · intro choice hchoice
      rw [buffered_choices, List.mem_singleton] at hchoice
      rw [frames.assemble_streamed hplain, hchoice]
      rfl
    · rw [frames.assemble_streamed hplain, hnone]
      rfl
    · intro choice hchoice
      rw [buffered_choices, List.mem_singleton] at hchoice
      rw [frames.assemble_streamed hplain, hchoice]

/-- One frame with one function call, at which Gemini stops. -/
def oneCall : FrameSequence where
  init := []
  last := ⟨some [⟨⟨some "model", [.functionCall "lookup" .null]⟩, some "STOP"⟩], none, none⟩
  candidate := ⟨⟨some "model", [.functionCall "lookup" .null]⟩, some "STOP"⟩
  reason := "STOP"
  last_candidate := rfl
  last_reason := rfl
  init_unfinished := by simp

/-- The stream has the call and finishes with `tool_calls`; the buffered answer has no call and
finishes with `stop`. -/
theorem one_call_disagrees :
    ¬ ∀ (lower : String → String) (stamp : Stamp) (frames : FrameSequence),
      frames.ReadersAgree lower stamp := by
  intro hall
  have hagree := hall id ⟨"gemini-0", 0, "gemini-2.5-flash"⟩ oneCall
  have hfinish := hagree.finishReason _ (by rw [buffered_choices]; exact List.mem_cons_self)
  exact absurd hfinish (by decide)

end FrameSequence

end Agreement

end Solvela.Providers

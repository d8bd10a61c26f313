import Mathlib.Data.Bool.AllAny
import Solvela.Lib.Utf8
import Solvela.Protocol.Vision
import Solvela.Providers.Gemini

/-!
# The stream parsers

`spawn_openai_sse_parser`, `spawn_anthropic_sse_parser` and `spawn_gemini_sse_parser` read an
upstream's bytes as they arrive from the network. Each decodes a network chunk on its own, appends
it to a buffer and takes the events out that are complete.

The network cuts the bytes anywhere. A character of several bytes that is cut is not put together
again: both pieces are replaced by U+FFFD. Apart from that, and from CRCRLF in a Gemini stream, it
makes no difference how the bytes are cut.

* `read_eq` and `read_congr`, what a parser sends for the text that its chunks decode to;
* `splitEvents_wireText`, the events of a well-formed text;
* `exists_events`, `feed_frayed` and `cutBetweenChars_of_wire`, what is left of them where
  characters were cut.
-/

namespace Solvela.Providers

open Solvela.Protocol
open Solvela.Lib.Sse
open Solvela.Lib.Utf8

/-! ## The readers -/

/-- What arrives from an upstream: some chunks of bytes, and then perhaps an error. -/
structure Upstream where
  chunks : List (List UInt8)
  error : Option String

/-- A stream parser: what it does to its buffer before it looks for events, what it does with an
event, and the state it starts in. -/
structure Reader (σ : Type) where
  norm : List Char → List Char
  handle : σ → List Char → Fed σ StreamItem
  init : σ

/-- What is sent in the end: an error of the upstream, if the stream is still open. -/
def endStream {σ : Type} (fed : Fed σ StreamItem) (error : Option String) : List StreamItem :=
  if fed.closed then fed.sent else fed.sent ++ error.toList.map .error

/-- The loop around a parser: what is sent for an upstream. -/
def Reader.read {σ : Type} (r : Reader σ) (up : Upstream) : List StreamItem :=
  endStream (readChunks r.norm r.handle r.init [] (up.chunks.map lossy)) up.error

/-! ### OpenAI -/

/-- The data of a line of an OpenAI event. Data that cannot be parsed is only logged. -/
def openaiData (parse : String → Option ChatChunk) (data : List Char) : Fed Unit StreamItem :=
  if String.ofList data = "[DONE]" then ⟨(), [], true⟩
  else
    match parse (String.ofList data) with
    | some chunk => ⟨(), [.ok chunk], false⟩
    | none => ⟨(), [], false⟩

/-- A line of an OpenAI event. -/
def openaiLine (parse : String → Option ChatChunk) (_ : Unit) (line : List Char) :
    Fed Unit StreamItem :=
  match stripPrefix? "data: ".toList line with
  | some data => openaiData parse (trim data)
  | none => ⟨(), [], false⟩

/-- `spawn_openai_sse_parser`. -/
def spawnOpenaiSseParser (parse : String → Option ChatChunk) : Reader Unit where
  norm := id
  handle s event := feed (openaiLine parse) s (lines event)
  init := ()

/-! ### Anthropic -/

/-- `AnthropicMessageStartBody`, without the usage, which is only metered. -/
structure AnthropicMessageStartBody where
  id : String
  model : String

/-- `AnthropicMessageStart`. -/
structure AnthropicMessageStart where
  message : AnthropicMessageStartBody

/-- `AnthropicTextDelta`. -/
structure AnthropicTextDelta where
  text : Option String

/-- `AnthropicContentBlockDelta`. -/
structure AnthropicContentBlockDelta where
  delta : AnthropicTextDelta

/-- `AnthropicMessageDeltaBody`. -/
structure AnthropicMessageDeltaBody where
  stopReason : Option String

/-- `AnthropicMessageDelta`. -/
structure AnthropicMessageDelta where
  delta : AnthropicMessageDeltaBody

/-- `serde_json::from_str` at the types of an Anthropic stream. -/
structure AnthropicJson where
  messageStart : String → Option AnthropicMessageStart
  contentBlockDelta : String → Option AnthropicContentBlockDelta
  messageDelta : String → Option AnthropicMessageDelta

/-- The stop reasons of Anthropic. -/
def mapAnthropicStopReason : String → String
  | "end_turn" => "stop"
  | "max_tokens" => "length"
  | "stop_sequence" => "stop"
  | other => other

/-- What is sent in place of a text that cannot be parsed. -/
def parseErrorText : String := "[parse error: content may be incomplete]"

/-- An Anthropic event with its type and its data. The state is the id of the message; `created` and
`model` are those of the stream. -/
def anthropicEvent (json : AnthropicJson) (created : ℤ) (model messageId eventType data : String) :
    Fed String StreamItem :=
  match eventType with
  | "message_start" =>
    match json.messageStart data with
    | some msg =>
      { state := msg.message.id
        sent := [.ok (makeChunk ⟨msg.message.id, created, msg.message.model⟩
          ⟨some .assistant, none, none⟩ none)]
        closed := false }
    | none => ⟨messageId, [], false⟩
  | "content_block_delta" =>
    let text := match json.contentBlockDelta data with
      | some cbd => cbd.delta.text
      | none => some parseErrorText
    ⟨messageId, [.ok (makeChunk ⟨messageId, created, model⟩ ⟨none, text, none⟩ none)], false⟩
  | "message_delta" =>
    match json.messageDelta data with
    | some md =>
      { state := messageId
        sent := [.ok (makeChunk ⟨messageId, created, model⟩ ⟨none, none, none⟩
          (md.delta.stopReason.map mapAnthropicStopReason))]
        closed := false }
    | none => ⟨messageId, [], false⟩
  | "message_stop" => ⟨messageId, [], true⟩
  | _ => ⟨messageId, [], false⟩

/-- A line of an Anthropic event: the last line of each kind counts. -/
def anthropicLine (found : Option (List Char) × Option (List Char)) (line : List Char) :
    Option (List Char) × Option (List Char) :=
  match stripPrefix? "event: ".toList line with
  | some et => (some (trim et), found.2)
  | none =>
    match stripPrefix? "data: ".toList line with
    | some d => (found.1, some (trim d))
    | none => found

/-- `spawn_anthropic_sse_parser`. -/
def spawnAnthropicSseParser (json : AnthropicJson) (created : ℤ) (model : String) :
    Reader String where
  norm := id
  handle messageId block :=
    match (lines block).foldl anthropicLine (none, none) with
    | (some et, some data) =>
      anthropicEvent json created model messageId (String.ofList et) (String.ofList data)
    | _ => ⟨messageId, [], false⟩
  init := ""

/-! ### Gemini -/

/-- The data of a Gemini event. A frame that cannot be parsed is skipped. -/
def geminiData (parse : String → Option GeminiResponse) (lower : String → String) (stamp : Stamp)
    (roleSent : Bool) (data : List Char) : Fed Bool StreamItem :=
  match parse (String.ofList data) with
  | some frame => geminiFrame lower stamp roleSent frame
  | none => ⟨roleSent, [], false⟩

/-- `spawn_gemini_sse_parser`. -/
def spawnGeminiSseParser (parse : String → Option GeminiResponse) (lower : String → String)
    (stamp : Stamp) : Reader Bool where
  norm := unixLines
  handle roleSent block :=
    match (lines block).findSome? (stripPrefix? "data: ".toList) with
    | some data => geminiData parse lower stamp roleSent (trim data)
    | none => ⟨roleSent, [], false⟩
  init := false

/-! ## Cutting an upstream -/

section Cutting
variable {σ : Type}

/-- What is sent for the chunks is what is sent for the events of the text that they decode to. -/
theorem read_eq (r : Reader σ) {up : Upstream}
    (hinc : Incremental r.norm (up.chunks.map lossy).flatten) (hnil : r.norm [] = []) :
    r.read up =
      endStream (feed r.handle r.init (splitEvents (r.norm (up.chunks.map lossy).flatten)).1)
        up.error := by
  obtain ⟨hsent, hclosed⟩ := readChunks_eq r.handle hinc hnil r.init
  rw [Reader.read, endStream, endStream, hsent, hclosed]

/-- Two ways of cutting the same bytes. -/
theorem read_congr (r : Reader σ) {chunks chunks' : List (List UInt8)}
    (hbytes : chunks.flatten = chunks'.flatten) (hcut : CutBetweenChars chunks)
    (hcut' : CutBetweenChars chunks') (hinc : Incremental r.norm (lossy chunks.flatten))
    (hnil : r.norm [] = []) (error : Option String) :
    r.read ⟨chunks, error⟩ = r.read ⟨chunks', error⟩ := by
  have htext : (chunks.map lossy).flatten = lossy chunks.flatten := lossy_flatten hcut
  have htext' : (chunks'.map lossy).flatten = lossy chunks.flatten := by
    rw [lossy_flatten hcut', hbytes]
  rw [← htext] at hinc
  rw [read_eq r hinc hnil, read_eq r (by rw [htext', ← htext]; exact hinc) hnil]
  dsimp only
  rw [htext, htext']

end Cutting

/-! ## Well-formed events -/

/-- A text on one line, without white space around it. -/
structure Line where
  text : List Char
  noLf : '\n' ∉ text
  noCr : '\r' ∉ text
  trimmed : trim text = text

/-- An event as the upstreams send it: its type, if it has one, and one line of data. Gemini ends
its lines by CRLF. -/
structure SseEvent where
  type : Option Line
  data : Line
  crlf : Bool
  type_ascii : ∀ line ∈ type, ∀ c ∈ line.text, c.val.toNat < 0x80

namespace SseEvent

/-- The end of a line. -/
def lineEnd (crlf : Bool) : List Char := if crlf then ['\r', '\n'] else ['\n']

/-- The line with the type. -/
def typeLine (e : SseEvent) : Option (List Char) :=
  e.type.map fun line => "event: ".toList ++ line.text

/-- The line with the data. -/
def dataLine (e : SseEvent) : List Char := "data: ".toList ++ e.data.text

theorem dataLine_eq (e : SseEvent) : e.dataLine = "data: ".toList ++ e.data.text := by
  delta dataLine
  rfl

/-- What comes before the data. -/
def header (e : SseEvent) : List Char :=
  (e.typeLine.map fun line => line ++ lineEnd e.crlf).getD []

/-- The event on the wire. -/
def wire (e : SseEvent) : List Char :=
  e.header ++ (e.dataLine ++ (lineEnd e.crlf ++ lineEnd e.crlf))

/-- The event in a buffer whose lines end by LF. -/
def block (e : SseEvent) : List Char :=
  (e.typeLine.map fun line => line ++ ['\n']).getD [] ++ e.dataLine

end SseEvent

/-- A sequence of events on the wire. -/
def wireText (events : List SseEvent) : List Char := events.flatMap SseEvent.wire

/-! ### Reading them -/

section Blocks

/-- A text before an event joins it. -/
theorem splitEvents_before {x text event left : List Char} {events : List (List Char)}
    (hx : '\n' ∉ x) (h : splitEvents text = (event :: events, left)) :
    splitEvents (x ++ text) = ((x ++ event) :: events, left) := by
  induction x with
  | nil => exact h
  | cons c x ih =>
    rw [List.cons_append]
    apply splitEvents_cons
    · intro rest hc _
      exact hx (by rw [hc]; exact List.mem_cons_self)
    · exact ih fun hin => hx (List.mem_cons_of_mem c hin)

/-- A line before the rest of an event. -/
theorem splitEvents_line {line text event left : List Char} {events : List (List Char)} {c : Char}
    (hline : '\n' ∉ line) (hc : c ≠ '\n')
    (h : splitEvents (c :: text) = (event :: events, left)) :
    splitEvents (line ++ '\n' :: c :: text) = ((line ++ '\n' :: event) :: events, left) := by
  apply splitEvents_before hline
  apply splitEvents_cons _ h
  intro rest _ hrest
  exact hc (List.cons.inj hrest).1

theorem unixLines_before {x text : List Char} (hx : '\r' ∉ x) :
    unixLines (x ++ text) = x ++ unixLines text := by
  induction x with
  | nil => rfl
  | cons c x ih =>
    rw [List.cons_append, unixLines_cons, ih fun hin => hx (List.mem_cons_of_mem c hin)]
    · rfl
    · intro rest hc _
      exact hx (by rw [hc]; exact List.mem_cons_self)

theorem unixLines_lineEnd (crlf : Bool) (text : List Char) :
    unixLines (SseEvent.lineEnd crlf ++ text) = '\n' :: unixLines text := by
  cases crlf with
  | true => rfl
  | false => exact unixLines_cons fun _ hc => absurd hc (by decide)

namespace SseEvent

variable (e : SseEvent)

theorem noLf_dataLine : '\n' ∉ e.dataLine := by
  rw [dataLine_eq, List.mem_append, not_or]
  exact ⟨by decide, e.data.noLf⟩

theorem noCr_dataLine : '\r' ∉ e.dataLine := by
  rw [dataLine_eq, List.mem_append, not_or]
  exact ⟨by decide, e.data.noCr⟩

theorem splitEvents_data (text : List Char) :
    splitEvents (e.dataLine ++ '\n' :: '\n' :: text) =
      (e.dataLine :: (splitEvents text).1, (splitEvents text).2) := by
  rw [@splitEvents_before _ _ [] _ _ e.noLf_dataLine rfl, List.append_nil]

/-- The events of a buffer that begins with this one. -/
theorem splitEvents_block (text : List Char) :
    splitEvents (e.block ++ '\n' :: '\n' :: text) =
      (e.block :: (splitEvents text).1, (splitEvents text).2) := by
  rw [block, typeLine]
  cases e.type with
  | none => exact e.splitEvents_data text
  | some line =>
    have hline : '\n' ∉ "event: ".toList ++ line.text := by
      rw [List.mem_append, not_or]
      exact ⟨by decide, line.noLf⟩
    have hdata := e.splitEvents_data text
    simp only [Option.map_some, Option.getD_some, List.append_assoc, List.singleton_append]
    exact splitEvents_line (c := 'd') hline (by decide) hdata

/-- What `unixLines` makes of an event. -/
theorem unixLines_wire (text : List Char) :
    unixLines (e.wire ++ text) = e.block ++ '\n' :: '\n' :: unixLines text := by
  have hdata : unixLines (e.dataLine ++ (lineEnd e.crlf ++ (lineEnd e.crlf ++ text))) =
      e.dataLine ++ '\n' :: '\n' :: unixLines text := by
    rw [unixLines_before e.noCr_dataLine, unixLines_lineEnd, unixLines_lineEnd]
  rw [wire, header, block, typeLine]
  simp only [List.append_assoc]
  cases e.type with
  | none => exact hdata
  | some line =>
    have hline : '\r' ∉ "event: ".toList ++ line.text := by
      rw [List.mem_append, not_or]
      exact ⟨by decide, line.noCr⟩
    simp only [Option.map_some, Option.getD_some]
    rw [List.append_assoc, unixLines_before hline, unixLines_lineEnd, hdata]
    simp only [List.append_assoc, List.singleton_append]

theorem wire_of_lf (h : e.crlf = false) : e.wire = e.block ++ ['\n', '\n'] := by
  rw [wire, header, block, h, List.append_assoc]
  rfl

/-- The lines of an event in the buffer. -/
theorem lines_block : lines e.block = e.typeLine.toList ++ [e.dataLine] := by
  have hdata : lines e.dataLine = [e.dataLine] :=
    lines_last (by rw [dataLine_eq]; exact List.cons_ne_nil _ _) e.noLf_dataLine
  rw [block, typeLine]
  cases e.type with
  | none => exact hdata
  | some line =>
    have hlf : '\n' ∉ "event: ".toList ++ line.text := by
      rw [List.mem_append, not_or]
      exact ⟨by decide, line.noLf⟩
    have hcr : '\r' ∉ "event: ".toList ++ line.text := by
      rw [List.mem_append, not_or]
      exact ⟨by decide, line.noCr⟩
    simp only [Option.map_some, Option.getD_some]
    rw [List.append_assoc, List.singleton_append, lines_line hlf hcr, hdata]
    rfl

end SseEvent

/-- All events are read, and nothing is left. -/
theorem splitEvents_wireText {events : List SseEvent} (hlf : ∀ e ∈ events, e.crlf = false) :
    splitEvents (wireText events) = (events.map SseEvent.block, []) := by
  induction events with
  | nil => rfl
  | cons e events ih =>
    rw [wireText, List.flatMap_cons, e.wire_of_lf (hlf e List.mem_cons_self), List.append_assoc]
    show splitEvents (e.block ++ '\n' :: '\n' :: wireText events) = _
    rw [e.splitEvents_block, ih fun d hd => hlf d (List.mem_cons_of_mem e hd)]
    rfl

theorem splitEvents_unixText (events : List SseEvent) :
    splitEvents (unixLines (wireText events)) = (events.map SseEvent.block, []) := by
  induction events with
  | nil => rfl
  | cons e events ih =>
    rw [wireText, List.flatMap_cons, e.unixLines_wire, e.splitEvents_block, ← wireText, ih]
    rfl

end Blocks

/-! ## What well-formed events carry -/

/-- What the OpenAI parser makes of an event: its data is one chunk, or the end. -/
def openaiDelivery (parse : String → Option ChatChunk) (_ : Unit) (e : SseEvent) :
    Fed Unit StreamItem :=
  openaiData parse e.data.text

/-- What the Anthropic parser makes of an event that has a type. -/
def anthropicDelivery (json : AnthropicJson) (created : ℤ) (model messageId : String)
    (e : SseEvent) : Fed String StreamItem :=
  match e.type with
  | some line =>
    anthropicEvent json created model messageId (String.ofList line.text)
      (String.ofList e.data.text)
  | none => ⟨messageId, [], false⟩

/-- What the Gemini parser makes of an event: its data is a frame. -/
def geminiDelivery (parse : String → Option GeminiResponse) (lower : String → String)
    (stamp : Stamp) (roleSent : Bool) (e : SseEvent) : Fed Bool StreamItem :=
  geminiData parse lower stamp roleSent e.data.text

section Deliveries

theorem stripPrefix?_append (start text : List Char) :
    stripPrefix? start (start ++ text) = some text := by
  rw [stripPrefix?, if_pos (List.isPrefixOf_iff_prefix.mpr (List.prefix_append start text)),
    List.drop_left]

/-- A line with a type has no data. -/
theorem stripPrefix?_type (text : List Char) :
    stripPrefix? "data: ".toList ("event: ".toList ++ text) = none := rfl

theorem stripPrefix?_data (text : List Char) :
    stripPrefix? "event: ".toList ("data: ".toList ++ text) = none := rfl

theorem feed_map {σ ε ε' α : Type*} {handle : σ → ε → Fed σ α} {handle' : σ → ε' → Fed σ α}
    {f : ε' → ε} (h : ∀ s e, handle s (f e) = handle' s e) (s : σ) (es : List ε') :
    feed handle s (es.map f) = feed handle' s es := by
  induction es generalizing s with
  | nil => rfl
  | cons e es ih => rw [List.map_cons, feed, feed, h, ih]

theorem feed_singleton {σ ε α : Type*} (handle : σ → ε → Fed σ α) (s : σ) (e : ε) :
    feed handle s [e] = handle s e := by
  rw [feed]
  split
  · rfl
  · rename_i hopen
    rw [feed, List.append_nil]
    simp only [Bool.not_eq_true] at hopen
    rw [← hopen]

variable (e : SseEvent)

theorem openai_block (parse : String → Option ChatChunk) (s : Unit) :
    (spawnOpenaiSseParser parse).handle s e.block = openaiDelivery parse s e := by
  have hdata : openaiLine parse s e.dataLine = openaiData parse e.data.text := by
    rw [openaiLine, SseEvent.dataLine_eq, stripPrefix?_append]
    dsimp only
    rw [e.data.trimmed]
  show feed (openaiLine parse) s (lines e.block) = openaiData parse e.data.text
  rw [e.lines_block, SseEvent.typeLine]
  cases e.type with
  | none => rw [Option.map_none, Option.toList_none, List.nil_append, feed_singleton, hdata]
  | some line =>
    have htype : openaiLine parse s ("event: ".toList ++ line.text) = ⟨(), [], false⟩ := by
      rw [openaiLine, stripPrefix?_type]
    rw [Option.map_some, Option.toList_some, List.singleton_append, feed, htype, feed_singleton,
      hdata]
    rfl

theorem anthropic_block (json : AnthropicJson) (created : ℤ) (model : String) (s : String) :
    (spawnAnthropicSseParser json created model).handle s e.block =
      anthropicDelivery json created model s e := by
  have hdata : ∀ found, anthropicLine found e.dataLine = (found.1, some e.data.text) := by
    intro found
    rw [anthropicLine, SseEvent.dataLine_eq, stripPrefix?_data, stripPrefix?_append]
    dsimp only
    rw [e.data.trimmed]
  dsimp only [spawnAnthropicSseParser]
  rw [e.lines_block, SseEvent.typeLine, anthropicDelivery]
  cases e.type with
  | none => rw [Option.map_none, Option.toList_none, List.nil_append, List.foldl_cons, hdata,
      List.foldl_nil]
  | some line =>
    have htype : anthropicLine (none, none) ("event: ".toList ++ line.text) =
        (some line.text, none) := by
      rw [anthropicLine, stripPrefix?_append]
      dsimp only
      rw [line.trimmed]
    rw [Option.map_some, Option.toList_some, List.singleton_append, List.foldl_cons, htype,
      List.foldl_cons, hdata, List.foldl_nil]

theorem gemini_block (parse : String → Option GeminiResponse) (lower : String → String)
    (stamp : Stamp) (s : Bool) :
    (spawnGeminiSseParser parse lower stamp).handle s e.block =
      geminiDelivery parse lower stamp s e := by
  have hdata : stripPrefix? "data: ".toList e.dataLine = some e.data.text :=
    stripPrefix?_append _ _
  dsimp only [spawnGeminiSseParser]
  rw [e.lines_block, SseEvent.typeLine, geminiDelivery]
  have hfound : ∀ lines : List (List Char),
      (lines ++ [e.dataLine]).findSome? (stripPrefix? "data: ".toList) =
        (lines.findSome? (stripPrefix? "data: ".toList)).or (some e.data.text) := by
    intro lines
    rw [List.findSome?_append, List.findSome?_cons, hdata]
  rw [hfound]
  cases e.type with
  | none =>
    rw [Option.map_none, Option.toList_none, List.findSome?_nil, Option.none_or]
    dsimp only
    rw [e.data.trimmed]
  | some line =>
    rw [Option.map_some, Option.toList_some, List.findSome?_cons, stripPrefix?_type,
      List.findSome?_nil, Option.none_or]
    dsimp only
    rw [e.data.trimmed]

end Deliveries

/-! ## Cut events -/

section Frayed

theorem dropWhile_eq_self_iff {p : Char → Bool} {text : List Char} :
    text.dropWhile p = text ↔ ∀ c ∈ text.head?, p c = false := by
  cases text with
  | nil => simp
  | cons c text =>
    cases hc : p c with
    | false => simp [hc]
    | true =>
      have hshort := (List.dropWhile_sublist (l := text) p).length_le
      constructor
      · intro h
        rw [List.dropWhile_cons_of_pos hc] at h
        have := congrArg List.length h
        rw [List.length_cons] at this
        omega
      · intro h
        exact absurd (h c rfl) (by rw [hc]; exact Bool.true_eq_false_eq_False)

/-- A text without white space around it. -/
theorem trim_eq_self_iff {text : List Char} :
    trim text = text ↔
      (∀ c ∈ text.head?, isWhitespace c = false) ∧
        ∀ c ∈ text.reverse.head?, isWhitespace c = false := by
  rw [← dropWhile_eq_self_iff, ← dropWhile_eq_self_iff, trim]
  constructor
  · intro h
    have hfront : text.dropWhile isWhitespace = text := by
      apply (List.dropWhile_sublist isWhitespace).eq_of_length
      have houter := (List.dropWhile_sublist (l := (text.dropWhile isWhitespace).reverse)
        isWhitespace).length_le
      have hinner := (List.dropWhile_sublist (l := text) isWhitespace).length_le
      have hall := congrArg List.length h
      rw [List.length_reverse] at houter hall
      omega
    rw [hfront] at h
    exact ⟨hfront, by rw [← List.reverse_inj, h, List.reverse_reverse]⟩
  · rintro ⟨hfront, hback⟩
    rw [hfront, hback, List.reverse_reverse]

theorem isWhitespace_replacement : isWhitespace replacement = false := by decide

/-- A line whose characters were cut is a line. -/
theorem exists_line {line : Line} {text' : List Char} (h : Frayed line.text text') :
    ∃ line' : Line, line'.text = text' := by
  have htrimmed := trim_eq_self_iff.mp line.trimmed
  have hhead : ∀ {x x' : List Char}, Frayed x x' → (∀ c ∈ x.head?, isWhitespace c = false) →
      ∀ c ∈ x'.head?, isWhitespace c = false := by
    intro x x' hx hclean c hc
    rcases hx.head? hc with hold | rfl
    · exact hclean c hold
    · exact isWhitespace_replacement
  refine ⟨⟨text', ?_, ?_, trim_eq_self_iff.mpr ⟨?_, ?_⟩⟩, rfl⟩
  · intro hin
    rcases h.mem hin with hold | hnew
    · exact line.noLf hold
    · exact absurd hnew (by decide)
  · intro hin
    rcases h.mem hin with hold | hnew
    · exact line.noCr hold
    · exact absurd hnew (by decide)
  · exact hhead h htrimmed.1
  · exact hhead h.reverse htrimmed.2

/-- An event and what it becomes when characters of its data are cut. -/
structure FrayedEvent (e e' : SseEvent) : Prop where
  type : e'.type = e.type
  crlf : e'.crlf = e.crlf
  data : Frayed e.data.text e'.data.text

theorem FrayedEvent.wire_eq {e e' : SseEvent} (h : FrayedEvent e e')
    (hdata : e'.data.text = e.data.text) : e'.wire = e.wire := by
  rw [SseEvent.wire, SseEvent.header, SseEvent.typeLine, SseEvent.dataLine_eq, h.type, h.crlf, hdata]
  rfl

theorem ascii_lineEnd (crlf : Bool) : ∀ c ∈ SseEvent.lineEnd crlf, c.val.toNat < 0x80 := by
  have hall : (SseEvent.lineEnd crlf).all (fun c => decide (c.val.toNat < 0x80)) = true := by
    cases crlf <;> decide
  exact List.all_iff_forall_prop.mp hall

theorem ascii_header (e : SseEvent) : ∀ c ∈ e.header, c.val.toNat < 0x80 := by
  rw [SseEvent.header, SseEvent.typeLine]
  have htype := e.type_ascii
  cases htypes : e.type with
  | none => simp
  | some line =>
    rw [htypes] at htype
    simp only [Option.map_some, Option.getD_some]
    intro c hc
    rcases List.mem_append.mp hc with hline | hend
    · rcases List.mem_append.mp hline with hname | htext
      · have hascii : ∀ c ∈ "event: ".toList, c.val.toNat < 0x80 :=
          List.all_iff_forall_prop.mp (by decide)
        exact hascii c hname
      · exact htype line rfl c htext
    · exact ascii_lineEnd _ c hend

/-- A sequence of events whose characters were cut is a sequence of events. -/
theorem exists_events {events : List SseEvent} {text : List Char}
    (h : Frayed (wireText events) text) :
    ∃ events', text = wireText events' ∧ List.Forall₂ FrayedEvent events events' := by
  induction events generalizing text with
  | nil =>
    cases h
    exact ⟨[], rfl, List.Forall₂.nil⟩
  | cons e events ih =>
    rw [wireText, List.flatMap_cons, SseEvent.wire, SseEvent.dataLine_eq] at h
    obtain ⟨_, rest, rfl, hwire, hrest⟩ := h.append_inv
    obtain ⟨_, _, rfl, hheader, htail⟩ := hwire.append_inv
    obtain ⟨_, _, rfl, hline, hend⟩ := htail.append_inv
    obtain ⟨_, data', rfl, hname, hdata⟩ := hline.append_inv
    obtain ⟨events', rfl, hevents⟩ := ih hrest
    obtain ⟨line', rfl⟩ := exists_line hdata
    have hends : ∀ c ∈ SseEvent.lineEnd e.crlf ++ SseEvent.lineEnd e.crlf, c.val.toNat < 0x80 := by
      intro c hc
      rcases List.mem_append.mp hc with hc | hc
      · exact ascii_lineEnd _ c hc
      · exact ascii_lineEnd _ c hc
    rw [hheader.ascii (ascii_header e), hname.ascii (List.all_iff_forall_prop.mp (by decide)),
      hend.ascii hends]
    refine ⟨{ e with data := line' } :: events', ?_, List.Forall₂.cons ⟨rfl, rfl, hdata⟩ hevents⟩
    rw [wireText, wireText, List.flatMap_cons]
    rfl

/-- Where a cut character can be told from what is sent, what is sent tells where characters were
cut. Only the last event may close the stream. -/
theorem feed_frayed {σ ε α β : Type*} {handle : σ → ε → Fed σ α} {R : ε → ε → Prop} {f : ε → β}
    {events events' : List ε} (hR : List.Forall₂ R events events')
    (hopen : ∀ e ∈ events.dropLast, ∀ s, (handle s e).closed = false)
    (hclosed : ∀ s, ∀ e ∈ events, ∀ e', R e e' → (handle s e).closed = (handle s e').closed)
    (hlength : ∀ s, ∀ e ∈ events, ∀ e', R e e' →
      (handle s e).sent.length = (handle s e').sent.length)
    (htells : ∀ s, ∀ e ∈ events, ∀ e', R e e' → (handle s e).sent = (handle s e').sent →
      f e' = f e ∧ (handle s e).state = (handle s e').state)
    (s : σ) (hsent : (feed handle s events).sent = (feed handle s events').sent) :
    events'.map f = events.map f := by
  induction hR generalizing s with
  | nil => rfl
  | @cons e e' events events' he hrest ih =>
    -- only the last event closes the stream
    have hlast : (handle s e).closed = true → events = [] := by
      intro htrue
      by_contra hne
      have hmem : e ∈ (e :: events).dropLast := by
        rw [List.dropLast_cons_of_ne_nil hne]
        exact List.mem_cons_self
      rw [hopen e hmem s] at htrue
      exact Bool.false_ne_true htrue
    have hlen := hlength s e List.mem_cons_self e' he
    rw [feed, feed, ← hclosed s e List.mem_cons_self e' he] at hsent
    split at hsent
    · rename_i htrue
      have hnil := hlast htrue
      subst hnil
      cases hrest
      rw [List.map_cons, List.map_cons, (htells s e List.mem_cons_self e' he hsent).1]
    -- as much is sent for either event, so the heads and the tails agree
    · obtain ⟨hhead, htail⟩ := List.append_inj hsent hlen
      obtain ⟨hf, hstate⟩ := htells s e List.mem_cons_self e' he hhead
      rw [← hstate] at htail
      have hmem : ∀ d ∈ events, d ∈ e :: events := fun d hd => List.mem_cons_of_mem e hd
      have hopen' : ∀ d ∈ events.dropLast, ∀ s, (handle s d).closed = false := by
        intro d hd
        apply hopen d
        cases events with
        | nil => exact absurd hd List.not_mem_nil
        | cons x events =>
          rw [List.dropLast_cons_of_ne_nil (by simp)]
          exact List.mem_cons_of_mem e hd
      rw [List.map_cons, List.map_cons, hf]
      congr 1
      exact ih hopen' (fun s d hd => hclosed s d (hmem d hd))
        (fun s d hd => hlength s d (hmem d hd)) (fun s d hd => htells s d (hmem d hd)) _ htail

/-- No line of the events ends in two carriage returns. -/
theorem not_hasCrCrLf_wireText (events : List SseEvent) : ¬ HasCrCrLf (wireText events) := by
  have hcons : ∀ {c : Char} {text : List Char}, c ≠ '\r' → ¬ HasCrCrLf text →
      ¬ HasCrCrLf (c :: text) := by
    intro c text hc htext h
    rcases List.infix_cons_iff.mp h with hprefix | hlater
    · exact hc (List.cons_prefix_cons.mp hprefix).1.symm
    · exact htext hlater
  have hprefix : ∀ {x text : List Char}, '\r' ∉ x → ¬ HasCrCrLf text →
      ¬ HasCrCrLf (x ++ text) := by
    intro x text hx htext
    induction x with
    | nil => exact htext
    | cons c x ih =>
      apply hcons
      · intro hc
        exact hx (by rw [hc]; exact List.mem_cons_self)
      · exact ih fun hin => hx (List.mem_cons_of_mem c hin)
  -- a line end has one CR, and before an LF
  have hend : ∀ {crlf : Bool} {text : List Char}, ¬ HasCrCrLf text →
      ¬ HasCrCrLf (SseEvent.lineEnd crlf ++ text) := by
    intro crlf text htext
    have hlf := hcons (c := '\n') (by decide) htext
    cases crlf with
    | false => exact hlf
    | true =>
      intro h
      rcases List.infix_cons_iff.mp h with hfirst | hlater
      · exact absurd (List.cons_prefix_cons.mp (List.cons_prefix_cons.mp hfirst).2).1 (by decide)
      · exact hlf hlater
  induction events with
  | nil => exact fun h => absurd (List.IsInfix.length_le h) (by simp [wireText])
  -- an event is at most two lines and a blank one, none with a CR in it
  | cons e events ih =>
    have hdata := hprefix e.noCr_dataLine (@hend e.crlf _ (@hend e.crlf _ ih))
    rw [wireText, List.flatMap_cons, SseEvent.wire, SseEvent.header, SseEvent.typeLine]
    simp only [List.append_assoc]
    cases e.type with
    | none => exact hdata
    | some line =>
      simp only [Option.map_some, Option.getD_some, List.append_assoc]
      rw [← List.append_assoc]
      apply hprefix _ (hend hdata)
      rw [List.mem_append, not_or]
      exact ⟨by decide, line.noCr⟩

end Frayed

/-! ## The parsers and the network -/

section Network
variable {chunks : List (List UInt8)} {events : List SseEvent}

theorem openai_read (parse : String → Option ChatChunk) (hlf : ∀ e ∈ events, e.crlf = false)
    (htext : (chunks.map lossy).flatten = wireText events) (error : Option String) :
    (spawnOpenaiSseParser parse).read ⟨chunks, error⟩ =
      endStream (feed (openaiDelivery parse) () events) error := by
  rw [read_eq _ (incremental_id _) rfl]
  dsimp only
  rw [htext, show (spawnOpenaiSseParser parse).norm = id from rfl, id_eq,
    splitEvents_wireText hlf, feed_map (fun s e => openai_block e parse s)]

theorem anthropic_read (json : AnthropicJson) (created : ℤ) (model : String)
    (hlf : ∀ e ∈ events, e.crlf = false)
    (htext : (chunks.map lossy).flatten = wireText events) (error : Option String) :
    (spawnAnthropicSseParser json created model).read ⟨chunks, error⟩ =
      endStream (feed (anthropicDelivery json created model) "" events) error := by
  rw [read_eq _ (incremental_id _) rfl]
  dsimp only
  rw [htext, show (spawnAnthropicSseParser json created model).norm = id from rfl, id_eq,
    splitEvents_wireText hlf, feed_map (fun s e => anthropic_block e json created model s)]
  rfl

theorem gemini_read (parse : String → Option GeminiResponse) (lower : String → String)
    (stamp : Stamp) (htext : (chunks.map lossy).flatten = wireText events)
    (error : Option String) :
    (spawnGeminiSseParser parse lower stamp).read ⟨chunks, error⟩ =
      endStream (feed (geminiDelivery parse lower stamp) false events) error := by
  have hinc : Incremental unixLines (chunks.map lossy).flatten := by
    rw [htext]
    exact incremental_unixLines (not_hasCrCrLf_wireText events)
  rw [read_eq _ hinc rfl]
  dsimp only
  rw [htext, show (spawnGeminiSseParser parse lower stamp).norm = unixLines from rfl,
    splitEvents_unixText, feed_map (fun s e => gemini_block e parse lower stamp s)]
  rfl

/-- Only the last event is `[DONE]`. -/
def DoneLast (events : List SseEvent) : Prop :=
  ∀ e ∈ events.dropLast, e.data.text ≠ "[DONE]".toList

/-- Only the last event is `message_stop`. -/
def StopLast (events : List SseEvent) : Prop :=
  ∀ e ∈ events.dropLast, ∀ line ∈ e.type, line.text ≠ "message_stop".toList

/-- The types of the events whose data the Anthropic parser reads. -/
def readTypes : List (List Char) :=
  ["message_start".toList, "content_block_delta".toList, "message_delta".toList]

/-- The data of an event is read, or has no character that could be cut. -/
def AllRead (events : List SseEvent) : Prop :=
  ∀ e ∈ events, (∃ line ∈ e.type, line.text ∈ readTypes) ∨ ∀ c ∈ e.data.text, c.val.toNat < 0x80

/-- The OpenAI parser sends what the data of the events are. -/
def OpenaiCarries (chunks : List (List UInt8)) (events : List SseEvent) : Prop :=
  ∀ (parse : String → Option ChatChunk) (error : Option String),
    (spawnOpenaiSseParser parse).read ⟨chunks, error⟩ =
      endStream (feed (openaiDelivery parse) () events) error

/-- The Anthropic parser sends what the types and data of the events are. -/
def AnthropicCarries (created : ℤ) (model : String) (chunks : List (List UInt8))
    (events : List SseEvent) : Prop :=
  ∀ (json : AnthropicJson) (error : Option String),
    (spawnAnthropicSseParser json created model).read ⟨chunks, error⟩ =
      endStream (feed (anthropicDelivery json created model) "" events) error

/-- The Gemini parser sends what the data of the events are. -/
def GeminiCarries (lower : String → String) (stamp : Stamp) (chunks : List (List UInt8))
    (events : List SseEvent) : Prop :=
  ∀ (parse : String → Option GeminiResponse) (error : Option String),
    (spawnGeminiSseParser parse lower stamp).read ⟨chunks, error⟩ =
      endStream (feed (geminiDelivery parse lower stamp) false events) error

theorem endStream_none {σ : Type} (fed : Fed σ StreamItem) : endStream fed none = fed.sent := by
  rw [endStream]
  split
  · rfl
  · exact List.append_nil _

/-- Events that are told apart on the wire only by their cut characters are cut nowhere. -/
theorem cutBetweenChars_of_wire {events' : List SseEvent}
    (hbytes : chunks.flatten = encode (wireText events))
    (htext : (chunks.map lossy).flatten = wireText events')
    (hwire : events'.map SseEvent.wire = events.map SseEvent.wire) : CutBetweenChars chunks := by
  have hsame : wireText events' = wireText events := by
    rw [wireText, wireText, List.flatMap_def, List.flatMap_def, hwire]
  apply cutBetweenChars_of_length
  rw [htext, hsame, hbytes, lossy_encode]

/-- A frayed event of ASCII data is the event. -/
theorem FrayedEvent.wire_of_ascii {e e' : SseEvent} (h : FrayedEvent e e')
    (hascii : ∀ c ∈ e.data.text, c.val.toNat < 0x80) : e'.wire = e.wire :=
  h.wire_eq (h.data.ascii hascii)

/-- The line ends stay LF. -/
theorem forall_lf {events' : List SseEvent} (h : List.Forall₂ FrayedEvent events events')
    (hlf : ∀ e ∈ events, e.crlf = false) : ∀ e ∈ events', e.crlf = false := by
  induction h with
  | nil => exact hlf
  | cons he _ ih =>
    rw [List.forall_mem_cons] at hlf ⊢
    exact ⟨by rw [he.crlf]; exact hlf.1, ih hlf.2⟩

/-- A JSON parser that makes a chunk of every data. -/
def parseAnyChunk (data : String) : Option ChatChunk := some ⟨data, "", 0, "", []⟩

theorem openai_exact (hbytes : chunks.flatten = encode (wireText events))
    (hlf : ∀ e ∈ events, e.crlf = false) (hdone : DoneLast events)
    (hcarries : OpenaiCarries chunks events) : CutBetweenChars chunks := by
  obtain ⟨events', htext, hfrayed⟩ := exists_events (frayed_chunks hbytes)
  have hfeed := hcarries parseAnyChunk none
  rw [openai_read _ (forall_lf hfrayed hlf) htext, endStream_none, endStream_none] at hfeed
  apply cutBetweenChars_of_wire hbytes htext
  have hend : ∀ {text : List Char}, String.ofList text = "[DONE]" ↔ text = "[DONE]".toList := by
    intro text
    rw [← String.toList_inj, String.toList_ofList]
  have hascii : ∀ c ∈ "[DONE]".toList, c.val.toNat < 0x80 :=
    List.all_iff_forall_prop.mp (by decide)
  -- the end is the end also when characters are cut
  have hends : ∀ {e e' : SseEvent}, FrayedEvent e e' →
      (e'.data.text = "[DONE]".toList ↔ e.data.text = "[DONE]".toList) := by
    intro e e' he
    constructor
    · intro h
      rw [← he.data.of_ascii (by rw [h]; exact hascii), h]
    · intro h
      rw [he.data.ascii (by rw [h]; exact hascii), h]
  have hsent : ∀ s (e : SseEvent), openaiDelivery parseAnyChunk s e =
      if e.data.text = "[DONE]".toList then ⟨(), [], true⟩
      else ⟨(), [.ok ⟨String.ofList e.data.text, "", 0, "", []⟩], false⟩ := by
    intro s e
    rw [openaiDelivery, openaiData]
    simp only [hend]
    rfl
  apply feed_frayed hfrayed _ _ _ _ () hfeed.symm
  · intro e he s
    rw [hsent, if_neg (hdone e he)]
  · intro s e _ e' he
    rw [hsent, hsent]
    simp only [hends he]
    split <;> rfl
  · intro s e _ e' he
    rw [hsent, hsent]
    simp only [hends he]
    split <;> rfl
  · intro s e _ e' he hsame
    refine ⟨he.wire_eq ?_, rfl⟩
    rw [hsent, hsent] at hsame
    simp only [hends he] at hsame
    split at hsame
    · rename_i h
      rw [h, (hends he).mpr h]
    · simp only [List.cons.injEq, Except.ok.injEq, ChatChunk.mk.injEq, and_true] at hsame
      exact (String.ofList_injective hsame).symm

/-- JSON parsers that keep the data in what they make. -/
def parseAnyAnthropic : AnthropicJson where
  messageStart data := some ⟨⟨data, ""⟩⟩
  contentBlockDelta data := some ⟨⟨some data⟩⟩
  messageDelta data := some ⟨⟨some ("x" ++ data)⟩⟩

theorem mapAnthropicStopReason_x (data : String) :
    mapAnthropicStopReason ("x" ++ data) = "x" ++ data := by
  have hne : ∀ {other : String}, 'x' ∉ other.toList.head? → "x" ++ data ≠ other := by
    intro other hother h
    apply hother
    rw [← h, String.toList_append]
    rfl
  unfold mapAnthropicStopReason
  split
  · exact absurd ‹_› (hne (by decide))
  · exact absurd ‹_› (hne (by decide))
  · exact absurd ‹_› (hne (by decide))
  · rfl

/-- An event whose data is read is sent as one chunk that has the data in it. -/
theorem anthropic_kept {line : List Char} (hline : line ∈ readTypes) (created : ℤ)
    (model s : String) :
    ∃ (chunk : String → ChatChunk) (state : String → String),
      (∀ d d', chunk d = chunk d' → d = d') ∧
        ∀ d, anthropicEvent parseAnyAnthropic created model s (String.ofList line) d =
          ⟨state d, [.ok (chunk d)], false⟩ := by
  simp only [readTypes, List.mem_cons, List.not_mem_nil, or_false] at hline
  rcases hline with rfl | rfl | rfl
  · refine ⟨fun d => makeChunk ⟨d, created, ""⟩ ⟨some .assistant, none, none⟩ none, id, ?_,
      fun d => rfl⟩
    intro d d' h
    exact congrArg ChatChunk.id h
  · refine ⟨fun d => makeChunk ⟨s, created, model⟩ ⟨none, some d, none⟩ none, fun _ => s, ?_,
      fun d => rfl⟩
    intro d d' h
    simpa [makeChunk] using h
  · refine ⟨fun d => makeChunk ⟨s, created, model⟩ ⟨none, none, none⟩ (some ("x" ++ d)),
      fun _ => s, ?_, ?_⟩
    · intro d d' h
      simpa [makeChunk] using h
    · intro d
      show (⟨s, [.ok (makeChunk ⟨s, created, model⟩ ⟨none, none, none⟩
        (some (mapAnthropicStopReason ("x" ++ d))))], false⟩ : Fed String StreamItem) = _
      rw [mapAnthropicStopReason_x]

/-- What is made of an event and of its cut form: either nothing of it was cut, or the data of both
can be told from what is sent. -/
theorem anthropic_frayed {e e' : SseEvent} (he : FrayedEvent e e')
    (hread : (∃ line ∈ e.type, line.text ∈ readTypes) ∨ ∀ c ∈ e.data.text, c.val.toNat < 0x80)
    (created : ℤ) (model s : String) :
    (e'.wire = e.wire ∧ anthropicDelivery parseAnyAnthropic created model s e' =
        anthropicDelivery parseAnyAnthropic created model s e) ∨
      ∃ (chunk : String → ChatChunk) (state : String → String),
        (∀ d d', chunk d = chunk d' → d = d') ∧
          ∀ d ∈ [e, e'], anthropicDelivery parseAnyAnthropic created model s d =
            ⟨state (String.ofList d.data.text), [.ok (chunk (String.ofList d.data.text))],
              false⟩ := by
  rcases hread with ⟨line, hline, hkind⟩ | hascii
  · right
    have htype : e.type = some line := hline
    obtain ⟨chunk, state, hinj, hsent⟩ := anthropic_kept hkind created model s
    refine ⟨chunk, state, hinj, ?_⟩
    intro d hd
    have hdtype : d.type = some line := by
      simp only [List.mem_cons, List.not_mem_nil, or_false] at hd
      rcases hd with rfl | rfl
      · exact htype
      · rw [he.type, htype]
    rw [anthropicDelivery, hdtype]
    exact hsent _
  · left
    refine ⟨he.wire_of_ascii hascii, ?_⟩
    rw [anthropicDelivery, anthropicDelivery, he.type, he.data.ascii hascii]

/-- Only `message_stop` closes a stream. -/
theorem anthropic_open {e : SseEvent} (h : ∀ line ∈ e.type, line.text ≠ "message_stop".toList)
    (json : AnthropicJson) (created : ℤ) (model s : String) :
    (anthropicDelivery json created model s e).closed = false := by
  rw [anthropicDelivery]
  cases htype : e.type with
  | none => rfl
  | some line =>
    have hne : String.ofList line.text ≠ "message_stop" := by
      intro heq
      apply h line htype
      rw [← heq, String.toList_ofList]
    dsimp only
    unfold anthropicEvent
    split
    · split <;> rfl
    · rfl
    · split <;> rfl
    · exact absurd ‹_› hne
    · rfl

theorem anthropic_exact {created : ℤ} {model : String}
    (hbytes : chunks.flatten = encode (wireText events)) (hlf : ∀ e ∈ events, e.crlf = false)
    (hstop : StopLast events) (hread : AllRead events)
    (hcarries : AnthropicCarries created model chunks events) : CutBetweenChars chunks := by
  obtain ⟨events', htext, hfrayed⟩ := exists_events (frayed_chunks hbytes)
  have hfeed := hcarries parseAnyAnthropic none
  rw [anthropic_read _ _ _ (forall_lf hfrayed hlf) htext, endStream_none, endStream_none] at hfeed
  apply cutBetweenChars_of_wire hbytes htext
  apply feed_frayed hfrayed _ _ _ _ "" hfeed.symm
  · intro e hmem s
    exact anthropic_open (hstop e hmem) _ created model s
  · intro s e hmem e' he
    rcases anthropic_frayed he (hread e hmem) created model s with ⟨-, hsame⟩ | ⟨_, _, -, hsent⟩
    · rw [hsame]
    · rw [hsent e (by simp), hsent e' (by simp)]
  · intro s e hmem e' he
    rcases anthropic_frayed he (hread e hmem) created model s with ⟨-, hsame⟩ | ⟨_, _, -, hsent⟩
    · rw [hsame]
    · rw [hsent e (by simp), hsent e' (by simp)]
      rfl
  · intro s e hmem e' he heq
    rcases anthropic_frayed he (hread e hmem) created model s with
      ⟨hwire, hsame⟩ | ⟨chunk, state, hinj, hsent⟩
    · exact ⟨hwire, by rw [hsame]⟩
    · rw [hsent e (by simp), hsent e' (by simp)] at heq ⊢
      simp only [List.cons.injEq, Except.ok.injEq, and_true] at heq
      have hdata := hinj _ _ heq
      exact ⟨he.wire_eq (String.ofList_injective hdata).symm, by rw [hdata]⟩

/-- A JSON parser that makes a frame with one text of every data. -/
def parseAnyFrame (data : String) : Option GeminiResponse :=
  some ⟨some [⟨⟨none, [.text ("x" ++ data) none]⟩, none⟩], none, none⟩

theorem gemini_exact {lower : String → String} {stamp : Stamp}
    (hbytes : chunks.flatten = encode (wireText events))
    (hcarries : GeminiCarries lower stamp chunks events) : CutBetweenChars chunks := by
  obtain ⟨events', htext, hfrayed⟩ := exists_events (frayed_chunks hbytes)
  have hfeed := hcarries parseAnyFrame none
  rw [gemini_read _ _ _ htext, endStream_none, endStream_none] at hfeed
  apply cutBetweenChars_of_wire hbytes htext
  -- a parser that echoes the data shows the text of every frame
  have hsent : ∀ roleSent (e : SseEvent), geminiDelivery parseAnyFrame lower stamp roleSent e =
      { state := true
        sent := (if roleSent then [] else
            [.ok (makeChunk stamp ⟨some .assistant, none, none⟩ none)]) ++
          [.ok (makeChunk stamp ⟨none, some ("x" ++ String.ofList e.data.text), none⟩ none)]
        closed := false } := by
    intro roleSent e
    have hne : ("x" ++ String.ofList e.data.text).isEmpty = false := by
      simp [String.isEmpty_eq_false_iff]
    have hvisible : visibleText [.text ("x" ++ String.ofList e.data.text) none] =
        "x" ++ String.ofList e.data.text := by
      simp [visibleText, partVisibleText]
    have hcalls : toolCallDeltas [.text ("x" ++ String.ofList e.data.text) none] = [] := rfl
    simp only [geminiDelivery, geminiData, parseAnyFrame, geminiFrame,
      GeminiResponse.firstCandidate, Option.bind_some, List.head?_cons, candidateChunks, hvisible,
      hne, hcalls]
    cases roleSent <;> rfl
  apply feed_frayed hfrayed _ _ _ _ false hfeed.symm
  · intro e _ s
    rw [hsent]
  · intro s e _ e' _
    rw [hsent, hsent]
  · intro s e _ e' _
    rw [hsent, hsent, List.length_append, List.length_append]
    rfl
  · intro s e _ e' he hsame
    rw [hsent, hsent] at hsame ⊢
    refine ⟨he.wire_eq ?_, rfl⟩
    -- so equal answers are of equal texts
    have hchunk := List.append_inj_right' hsame rfl
    simp only [List.cons.injEq, Except.ok.injEq, makeChunk, ChatChunk.mk.injEq,
      ChatChunkChoice.mk.injEq, ChatDelta.mk.injEq, Option.some.injEq, String.append_right_inj,
      and_true, true_and] at hchunk
    exact (String.ofList_injective hchunk).symm

/-- The parsers and the network. Cut between characters, the same bytes give the same, in a Gemini
stream if no line of it ends in two carriage returns. Well-formed events come through as they are if
they are cut between characters, and otherwise not: there is a JSON parser that can tell. Chunks
after the end of a stream (`[DONE]`, `message_stop`) are never read, and the first part asks more
than it needs of those: in the second part the end comes last. -/
theorem chunking_exact (lower : String → String) (stamp : Stamp) (created : ℤ) (model : String)
    (chunks : List (List UInt8)) :
    (∀ chunks', chunks'.flatten = chunks.flatten → CutBetweenChars chunks →
      CutBetweenChars chunks' → ∀ error,
        (∀ parse, (spawnOpenaiSseParser parse).read ⟨chunks, error⟩ =
          (spawnOpenaiSseParser parse).read ⟨chunks', error⟩) ∧
        (∀ json, (spawnAnthropicSseParser json created model).read ⟨chunks, error⟩ =
          (spawnAnthropicSseParser json created model).read ⟨chunks', error⟩) ∧
        (¬ HasCrCrLf (lossy chunks.flatten) → ∀ parse,
          (spawnGeminiSseParser parse lower stamp).read ⟨chunks, error⟩ =
            (spawnGeminiSseParser parse lower stamp).read ⟨chunks', error⟩)) ∧
    ∀ events, chunks.flatten = encode (wireText events) →
      ((∀ e ∈ events, e.crlf = false) →
        (CutBetweenChars chunks →
          OpenaiCarries chunks events ∧ AnthropicCarries created model chunks events) ∧
        (DoneLast events → OpenaiCarries chunks events → CutBetweenChars chunks) ∧
        (StopLast events → AllRead events → AnthropicCarries created model chunks events →
          CutBetweenChars chunks)) ∧
      (GeminiCarries lower stamp chunks events ↔ CutBetweenChars chunks) := by
  constructor
  · intro chunks' hbytes hcut hcut' error
    -- one reader for all three: only the way the buffer is cleaned differs
    refine ⟨?_, ?_, ?_⟩
    · intro parse
      exact read_congr _ hbytes.symm hcut hcut' (incremental_id _) rfl error
    · intro json
      exact read_congr _ hbytes.symm hcut hcut' (incremental_id _) rfl error
    · intro hcr parse
      exact read_congr _ hbytes.symm hcut hcut' (incremental_unixLines hcr) rfl error
  · intro events hbytes
    -- cut between characters, the chunks are decoded as the whole is
    have htext : CutBetweenChars chunks → (chunks.map lossy).flatten = wireText events := by
      intro hcut
      rw [lossy_flatten hcut, hbytes, lossy_encode]
    refine ⟨fun hlf => ⟨fun hcut => ⟨?_, ?_⟩, ?_, ?_⟩, ?_, ?_⟩
    · intro parse error
      exact openai_read parse hlf (htext hcut) error
    · intro json error
      exact anthropic_read json created model hlf (htext hcut) error
    · exact openai_exact hbytes hlf
    · exact anthropic_exact hbytes hlf
    · exact gemini_exact hbytes
    · intro hcut parse error
      exact gemini_read parse lower stamp (htext hcut) error

end Network

/-! ### A character cut in two -/

/-- What comes before the content in a chunk of an OpenAI answer. -/
def answerHead : List Char :=
  "\x7b\"id\":\"c\",\"object\":\"chat.completion.chunk\",\"created\":1,".toList ++
    "\"model\":\"gpt-4o\",\"choices\":[\x7b\"index\":0,\"delta\":\x7b\"content\":\"".toList

/-- What comes after it. -/
def answerTail : List Char := "\"\x7d,\"finish_reason\":null\x7d]\x7d".toList

/-- The chunk as JSON. -/
def answerJson (content : List Char) : List Char := answerHead ++ (content ++ answerTail)

/-- The chunk. -/
def answerChunk (content : List Char) : ChatChunk :=
  makeChunk ⟨"c", 1, "gpt-4o"⟩ ⟨none, some (String.ofList content), none⟩ none

/-- `serde_json::from_str` on the answers `é` and `\uFFFD\uFFFD`. -/
def parseAnswer (data : String) : Option ChatChunk :=
  if data = String.ofList (answerJson ['é']) then some (answerChunk ['é'])
  else if data = String.ofList (answerJson [replacement, replacement]) then
    some (answerChunk [replacement, replacement])
  else none

/-- The answer as an event. -/
def answerEvent : SseEvent where
  type := none
  data := ⟨answerJson ['é'], by decide, by decide, by decide⟩
  crlf := false
  type_ascii := by simp

/-- The event that is read when the character is cut. -/
def brokenEvent : SseEvent where
  type := none
  data := ⟨answerJson [replacement, replacement], by decide, by decide, by decide⟩
  crlf := false
  type_ascii := by simp

/-- The bytes of the answer, up to the first byte of `é` and from the second one on. -/
def answerCut : List (List UInt8) :=
  [encode ("data: ".toList ++ answerHead) ++ [0xC3], 0xA9 :: encode (answerTail ++ ['\n', '\n'])]

theorem wire_answer {e : SseEvent} {content : List Char} (htype : e.type = none)
    (hdata : e.data.text = answerJson content) (hlf : e.crlf = false) :
    wireText [e] =
      ("data: ".toList ++ answerHead) ++ (content ++ (answerTail ++ ['\n', '\n'])) := by
  rw [wireText, List.flatMap_singleton, SseEvent.wire, SseEvent.header, SseEvent.typeLine,
    SseEvent.dataLine_eq, htype, hdata, hlf, answerJson, Option.map_none, Option.map_none,
    Option.getD_none, List.nil_append]
  simp only [List.append_assoc]
  rfl

theorem answerCut_flatten : answerCut.flatten = encode (wireText [answerEvent]) := by
  have hchar : encode ['é'] = [0xC3, 0xA9] := by decide
  rw [wire_answer (e := answerEvent) rfl rfl rfl, encode_append, encode_append ['é'], hchar,
    answerCut]
  simp only [List.flatten_cons, List.flatten_nil, List.append_nil, List.append_assoc,
    List.cons_append, List.nil_append]

/-- The answer in one chunk arrives as `é`, and cut inside that character as two U+FFFD. -/
theorem answer_cut :
    ¬ ∀ (parse : String → Option ChatChunk) (chunks chunks' : List (List UInt8)),
      chunks.flatten = chunks'.flatten →
        (spawnOpenaiSseParser parse).read ⟨chunks, none⟩ =
          (spawnOpenaiSseParser parse).read ⟨chunks', none⟩ := by
  intro hall
  have hsame := hall parseAnswer [encode (wireText [answerEvent])] answerCut
    ((List.append_nil _).trans answerCut_flatten.symm)
  have hwhole : ([encode (wireText [answerEvent])].map lossy).flatten = wireText [answerEvent] := by
    rw [List.map_singleton, lossy_encode]
    exact List.append_nil _
  -- each half of the character is read as a replacement of its own
  have hbroken : (answerCut.map lossy).flatten = wireText [brokenEvent] := by
    have hhead : lossy (encode ("data: ".toList ++ answerHead) ++ [0xC3]) =
        ("data: ".toList ++ answerHead) ++ [replacement] := by
      rw [lossy, decode_append, decode_encode, List.append_assoc]
      rfl
    have htail : lossy (0xA9 :: encode (answerTail ++ ['\n', '\n'])) =
        replacement :: (answerTail ++ ['\n', '\n']) := by
      have hfirst : decode Lib.Utf8.start [0xA9] = ([replacement], Lib.Utf8.start) := by decide
      rw [← List.singleton_append, lossy, decode_append, hfirst, decode_encode]
      exact List.append_nil _
    rw [wire_answer (e := brokenEvent) rfl rfl rfl, answerCut, List.map_cons, List.map_singleton,
      hhead, htail, List.flatten_cons, List.flatten_singleton, List.append_assoc]
    rfl
  rw [openai_read parseAnswer (by simp [answerEvent]) hwhole,
    openai_read parseAnswer (by simp [brokenEvent]) hbroken, endStream_none, endStream_none,
    feed_singleton, feed_singleton] at hsame
  have hparse : ∀ {e : SseEvent} {content : List Char}, e.data.text = answerJson content →
      content = ['é'] ∨ content = [replacement, replacement] →
      (openaiDelivery parseAnswer () e).sent = [.ok (answerChunk content)] := by
    intro e content hdata hcontent
    have hopen : ¬ String.ofList (answerJson content) = "[DONE]" := by
      intro h
      have hhead := congrArg String.toList h
      rw [String.toList_ofList] at hhead
      exact absurd (List.cons.inj hhead).1 (by decide)
    have hchunk : parseAnswer (String.ofList (answerJson content)) =
        some (answerChunk content) := by
      rcases hcontent with rfl | rfl
      · exact if_pos rfl
      · rw [parseAnswer, if_neg, if_pos rfl]
        intro h
        have hlist := String.ofList_injective h
        rw [answerJson, answerJson, List.append_cancel_left_eq, List.append_cancel_right_eq]
          at hlist
        exact absurd hlist (by decide)
    rw [openaiDelivery, hdata, openaiData, if_neg hopen, hchunk]
  rw [hparse (e := answerEvent) rfl (Or.inl rfl), hparse (e := brokenEvent) rfl (Or.inr rfl)]
    at hsame
  exact absurd hsame (by decide)

end Solvela.Providers

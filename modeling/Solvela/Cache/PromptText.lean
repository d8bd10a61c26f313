import Solvela.Cache.Requests

/-!
# The text the semantic tier embeds

The semantic tier answers from an entry with the same tags whose embedding is close; two requests
with the same tags and the same `prompt_text` are one prompt to it. The text joins one line per
message, and marks images and tool calls in the line, without any escaping: it fixes the messages
only as far as their lengths are known. Tools and tool choice are in neither the text nor the tags.

* `tagQuery_injective`, the query tells tags apart;
* `lineChars_append_inj` and `lines_inj`, lines of one layout tell the same messages;
* `map_lineLayout`, messages that tell the same have one layout.
-/

namespace Solvela.Cache

open Solvela.Protocol
open Solvela.ChannelLedger (textBytes)
open Solvela.Signer (JsonValue jsonText)

/-- `MAX_EMBED_CHARS`. -/
def maxEmbedChars : ℕ := 2000

/-- `within_embed_budget`. -/
def withinEmbedBudget (text : String) : Bool := decide (text.length ≤ maxEmbedChars)

/-- `param_tag`: four decimals of a set parameter. -/
def paramTag (fourDecimals : F32 → String) : Option F32 → String
  | some v => fourDecimals v
  | none => "none"

/-- `escape_tag`. -/
def escapeTag (value : String) : String :=
  String.ofList <| value.toList.flatMap fun ch =>
    if ch.isAlphanum || ch = '_' then [ch] else ['\\', ch]

/-- The tags of an entry. -/
structure SemanticTags where
  model : String
  temperature : String
  topP : String
deriving DecidableEq

/-- The tags a request is stored under. -/
def semanticTags (fourDecimals : F32 → String) (req : ChatRequest) : SemanticTags :=
  ⟨req.model, paramTag fourDecimals req.temperature, paramTag fourDecimals req.topP⟩

/-- The predicate on one tag. -/
def tagPredicate (field value : String) : String :=
  "@" ++ field ++ ":\x7b" ++ escapeTag value ++ "\x7d"

/-- The query that `get` searches with. -/
def tagQuery (tags : SemanticTags) : String :=
  "(" ++ tagPredicate "model" tags.model ++ " " ++ tagPredicate "temperature" tags.temperature ++
    " " ++ tagPredicate "top_p" tags.topP ++ ")=>[KNN 1 @embedding $vec AS score]"

/-- The stand-in for an image: none if it cannot be parsed. -/
def imageRep (sha256 : List UInt8 → List UInt8) (image : ImageUrl) : Option String :=
  match image.parse with
  | .ok (.url url) => some url
  | .ok (.base64 mediaType data) => some (base64Rep sha256 mediaType data)
  | .error _ => none

/-- `image_rep_suffix`: none for `Skip`. -/
def imageRepSuffix (sha256 : List UInt8 → List UInt8) (content : MessageContent) : Option String :=
  do
    let reps ← content.imageUrls.mapM (imageRep sha256)
    some (String.join (reps.map (" image=" ++ ·)))

/-- The tool calls, as they are written in a line. -/
def toolCallsText (m : ChatMessage) : Option String :=
  (m.toolCalls.map fun calls => jsonText (toolCallsJson calls)).filter (· ≠ "null")

/-- The line of a message. -/
def promptLine (sha256 : List UInt8 → List UInt8) (m : ChatMessage) : Option String := do
  let imageSuffix ← imageRepSuffix sha256 m.content
  let toolCallsSuffix := (toolCallsText m).elim "" (" tool_calls=" ++ ·)
  let toolCallIdSuffix := m.toolCallId.elim "" (" tool_call_id=" ++ ·)
  some (roleStr m.role ++ ": " ++ m.content.asText ++ imageSuffix ++ toolCallsSuffix ++
    toolCallIdSuffix)

/-- `prompt_text`: none where the semantic tier is skipped. -/
def promptText (sha256 : List UInt8 → List UInt8) (req : ChatRequest) : Option String := do
  let lines ← req.messages.mapM (promptLine sha256)
  some ("\n".intercalate lines)

/-! ## Tags -/

section Tags

/-- An escaped tag ends at the first brace that is not escaped. -/
theorem escaped_append_inj : ∀ {value value' : List Char} {x y : List Char},
    (value.flatMap fun ch => if ch.isAlphanum || ch = '_' then [ch] else ['\\', ch]) ++
        '\x7d' :: x =
      (value'.flatMap fun ch => if ch.isAlphanum || ch = '_' then [ch] else ['\\', ch]) ++
        '\x7d' :: y → value = value' ∧ x = y := by
  have hplain : ∀ {c : Char}, (c.isAlphanum || c = '_') = true → c ≠ '\\' ∧ c ≠ '\x7d' := by
    intro c hc
    constructor
    · rintro rfl
      exact absurd hc (by decide)
    · rintro rfl
      exact absurd hc (by decide)
  intro value
  induction value with
  | nil =>
    intro value' x y h
    cases value' with
    | nil => exact ⟨rfl, (List.cons.inj h).2⟩
    | cons c' value' =>
      rw [List.flatMap_cons] at h
      split at h
      · rename_i hc'
        exact absurd (List.cons.inj h).1.symm (hplain hc').2
      · exact absurd (List.cons.inj h).1 (by decide)
  | cons c value ih =>
    intro value' x y h
    cases value' with
    | nil =>
      rw [List.flatMap_cons] at h
      split at h
      · rename_i hc
        exact absurd (List.cons.inj h).1 (hplain hc).2
      · exact absurd (List.cons.inj h).1 (by decide)
    | cons c' value' =>
      rw [List.flatMap_cons, List.flatMap_cons] at h
      -- a plain character is neither a backslash nor a brace
      split at h
      · rename_i hc
        split at h
        · obtain ⟨rfl, hrest⟩ := List.cons.inj h
          obtain ⟨rfl, hxy⟩ := ih hrest
          exact ⟨rfl, hxy⟩
        · exact absurd (List.cons.inj h).1 (hplain hc).1
      · split at h
        · rename_i hc'
          exact absurd (List.cons.inj h).1.symm (hplain hc').1
        · obtain ⟨rfl, hrest⟩ := List.cons.inj (List.cons.inj h).2
          obtain ⟨rfl, hxy⟩ := ih hrest
          exact ⟨rfl, hxy⟩

/-- The predicate on a tag determines it, whatever follows. -/
theorem tagPredicate_append_inj {field value value' : String} {x y : List Char}
    (h : (tagPredicate field value).toList ++ x = (tagPredicate field value').toList ++ y) :
    value = value' ∧ x = y := by
  have hbrace : "\x7d".toList = ['\x7d'] := by decide
  simp only [tagPredicate, escapeTag, String.toList_append, String.toList_ofList, hbrace,
    List.append_assoc, List.append_cancel_left_eq, List.singleton_append] at h
  obtain ⟨hvalue, hxy⟩ := escaped_append_inj h
  exact ⟨String.toList_inj.mp hvalue, hxy⟩

/-- The query tells tags apart. -/
theorem tagQuery_injective : Function.Injective tagQuery := by
  intro tags tags' h
  have hlist := congrArg String.toList h
  simp only [tagQuery, String.toList_append, List.append_assoc, List.append_cancel_left_eq]
    at hlist
  obtain ⟨hmodel, hrest⟩ := tagPredicate_append_inj hlist
  obtain ⟨htemperature, hrest⟩ := tagPredicate_append_inj (List.append_cancel_left hrest)
  obtain ⟨htopP, -⟩ := tagPredicate_append_inj (List.append_cancel_left hrest)
  obtain ⟨model, temperature, topP⟩ := tags
  exact SemanticTags.mk.injEq .. ▸ ⟨hmodel, htemperature, htopP⟩

end Tags

/-! ## Lines -/

/-- A message, as far as its line should tell: images by what they are parsed to. -/
structure PromptMessage where
  role : Role
  text : String
  images : List (ParsedImage ⊕ String)
  toolCalls : Option (List ToolCall)
  toolCallId : Option String

/-- What the line of a message should tell. -/
def promptMessage (m : ChatMessage) : PromptMessage :=
  ⟨m.role, m.content.asText, m.content.imageUrls.map imageForm, m.toolCalls, m.toolCallId⟩

/-- The lengths of the parts of a line. -/
structure LineLayout where
  text : ℕ
  images : List ℕ
  toolCalls : Option ℕ
  toolCallId : Option ℕ
deriving DecidableEq

/-- Where the parts of the line of a message lie. -/
def lineLayout (sha256 : List UInt8 → List UInt8) (m : ChatMessage) : LineLayout :=
  ⟨m.content.asText.length, m.content.imageUrls.map fun image => (imageKeyRep sha256 image).length,
    m.toolCalls.map fun calls => (jsonText (toolCallsJson calls)).length,
    m.toolCallId.map String.length⟩

/-- The texts of a message's images that are hashed. -/
def imagePayloads (m : ChatMessage) : List (List UInt8) :=
  (m.content.imageUrls.filterMap hashedText).map textBytes

section Lines
variable {sha256 : List UInt8 → List UInt8}

theorem imageRep_some {image : ImageUrl} {rep : String} (h : imageRep sha256 image = some rep) :
    rep = imageKeyRep sha256 image := by
  rw [imageRep] at h
  rw [imageKeyRep]
  cases hparse : image.parse with
  | error e =>
    rw [hparse] at h
    cases h
  | ok parsed =>
    rw [hparse] at h
    cases parsed with
    | url url => exact (Option.some.inj h).symm
    | base64 mediaType data => exact (Option.some.inj h).symm

theorem mapM_imageRep : ∀ {images : List ImageUrl} {reps : List String},
    images.mapM (imageRep sha256) = some reps → reps = images.map (imageKeyRep sha256) := by
  intro images
  induction images with
  | nil =>
    intro reps h
    exact (Option.some.inj h).symm
  | cons image images ih =>
    intro reps h
    rw [List.mapM_cons] at h
    obtain ⟨rep, hrep, h⟩ := Option.bind_eq_some_iff.mp h
    obtain ⟨reps', hreps, h⟩ := Option.bind_eq_some_iff.mp h
    rw [← Option.some.inj h, imageRep_some hrep, ih hreps, List.map_cons]

/-- The tool calls are an array, which is never `null`. -/
theorem toolCallsText_eq (m : ChatMessage) :
    toolCallsText m = m.toolCalls.map fun calls => jsonText (toolCallsJson calls) := by
  rw [toolCallsText]
  cases m.toolCalls with
  | none => rfl
  | some calls =>
    rw [Option.map_some, Option.filter_some_pos]
    have hhead : (jsonText (toolCallsJson calls)).toList.head? = some '[' := by
      rw [toolCallsJson, jsonText, String.toList_append, String.toList_append]
      rfl
    apply decide_eq_true
    intro hnull
    rw [hnull] at hhead
    exact absurd hhead (by decide)

/-- An optional part behind its mark. -/
def markedChars (mark : String) (part : Option String) : List Char :=
  part.elim [] fun text => mark.toList ++ text.toList

/-- The images behind their marks. -/
def imageChars (reps : List String) : List Char :=
  reps.flatMap fun rep => " image=".toList ++ rep.toList

/-- The characters of a line. -/
def lineChars (sha256 : List UInt8 → List UInt8) (m : ChatMessage) : List Char :=
  (roleStr m.role).toList ++ ':' :: ' ' :: (m.content.asText.toList ++
    (imageChars (m.content.imageUrls.map (imageKeyRep sha256)) ++
      (markedChars " tool_calls=" (m.toolCalls.map fun calls => jsonText (toolCallsJson calls)) ++
        markedChars " tool_call_id=" m.toolCallId)))

theorem promptLine_toList {m : ChatMessage} {line : String} (h : promptLine sha256 m = some line) :
    line.toList = lineChars sha256 m := by
  obtain ⟨imageSuffix, himages, h⟩ := Option.bind_eq_some_iff.mp h
  obtain ⟨reps, hreps, himages⟩ := Option.bind_eq_some_iff.mp himages
  have hmarked : ∀ (mark : String) (part : Option String),
      (part.elim "" (mark ++ ·)).toList = markedChars mark part := by
    intro mark part
    cases part with
    | none => rfl
    | some text => exact String.toList_append
  have hsuffix : imageSuffix.toList =
      imageChars (m.content.imageUrls.map (imageKeyRep sha256)) := by
    rw [← mapM_imageRep hreps, ← Option.some.inj himages, String.toList_join, List.flatMap_map]
    simp only [imageChars, String.toList_append]
  rw [← Option.some.inj h, toolCallsText_eq]
  simp only [String.toList_append, List.append_assoc, hmarked, hsuffix]
  rfl

/-- Optional parts of equal lengths. -/
theorem markedChars_append_inj {mark : String} {part part' : Option String} {x y : List Char}
    (hlen : part.map String.length = part'.map String.length)
    (h : markedChars mark part ++ x = markedChars mark part' ++ y) : part = part' ∧ x = y := by
  cases part with
  | none =>
    cases part' with
    | none => exact ⟨rfl, h⟩
    | some text' => cases hlen
  | some text =>
    cases part' with
    | none => cases hlen
    | some text' =>
      simp only [markedChars, Option.elim_some, List.append_assoc, List.append_cancel_left_eq] at h
      obtain ⟨htext, hrest⟩ := List.append_inj h (Option.some.inj hlen)
      exact ⟨by rw [String.toList_inj.mp htext], hrest⟩

/-- Images of equal lengths. -/
theorem imageChars_append_inj : ∀ {reps reps' : List String} {x y : List Char},
    reps.map String.length = reps'.map String.length →
      imageChars reps ++ x = imageChars reps' ++ y → reps = reps' ∧ x = y := by
  intro reps
  induction reps with
  | nil =>
    intro reps' x y hlen h
    cases reps' with
    | nil => exact ⟨rfl, h⟩
    | cons rep' reps' => cases hlen
  | cons rep reps ih =>
    intro reps' x y hlen h
    cases reps' with
    | nil => cases hlen
    | cons rep' reps' =>
      obtain ⟨hhead, htail⟩ := List.cons.inj hlen
      simp only [imageChars, List.flatMap_cons, List.append_assoc, List.append_cancel_left_eq] at h
      obtain ⟨hrep, hrest⟩ := List.append_inj h hhead
      obtain ⟨hreps, hxy⟩ := ih htail hrest
      exact ⟨by rw [String.toList_inj.mp hrep, hreps], hxy⟩

/-- Images with the same stand-ins are parsed alike. -/
theorem imageForms_inj {inputs : List (List UInt8)} (hfree : CollisionFree sha256 inputs) :
    ∀ {images images' : List ImageUrl},
      (∀ text ∈ images.filterMap hashedText, textBytes text ∈ inputs) →
      (∀ text ∈ images'.filterMap hashedText, textBytes text ∈ inputs) →
      images.map (imageKeyRep sha256) = images'.map (imageKeyRep sha256) →
        images.map imageForm = images'.map imageForm := by
  intro images
  induction images with
  | nil =>
    intro images' _ _ h
    cases images' with
    | nil => rfl
    | cons image' images' => cases h
  | cons image images ih =>
    intro images' hin hin' h
    cases images' with
    | nil => cases h
    | cons image' images' =>
      obtain ⟨hrep, hreps⟩ := List.cons.inj h
      have hhashed : ∀ {image : ImageUrl} {images : List ImageUrl},
          (∀ text ∈ (image :: images).filterMap hashedText, textBytes text ∈ inputs) →
            (∀ text ∈ hashedText image, textBytes text ∈ inputs) ∧
              ∀ text ∈ images.filterMap hashedText, textBytes text ∈ inputs := by
        intro image images hin
        constructor
        · intro text htext
          exact hin text (List.mem_filterMap.mpr ⟨image, List.mem_cons_self, htext⟩)
        · intro text htext
          obtain ⟨other, hother, htext⟩ := List.mem_filterMap.mp htext
          exact hin text (List.mem_filterMap.mpr ⟨other, List.mem_cons_of_mem _ hother, htext⟩)
      rw [List.map_cons, List.map_cons,
        imageKeyRep_inj hfree (hhashed hin).1 (hhashed hin').1 hrep,
        ih (hhashed hin).2 (hhashed hin').2 hreps]

theorem colon_notMem_roleStr (role : Role) : ':' ∉ (roleStr role).toList := by
  cases role <;> decide

/-- Lines whose parts have the same lengths tell the same message, and end alike. -/
theorem lineChars_append_inj {m m' : ChatMessage} {x y : List Char} {inputs : List (List UInt8)}
    (hfree : CollisionFree sha256 inputs) (hin : ∀ input ∈ imagePayloads m, input ∈ inputs)
    (hin' : ∀ input ∈ imagePayloads m', input ∈ inputs)
    (hlayout : lineLayout sha256 m = lineLayout sha256 m')
    (h : lineChars sha256 m ++ x = lineChars sha256 m' ++ y) :
    promptMessage m = promptMessage m' ∧ x = y := by
  obtain ⟨htextLen, himagesLen, hcallsLen, hidLen⟩ := LineLayout.mk.inj hlayout
  simp only [lineChars, List.append_assoc, List.cons_append] at h
  obtain ⟨hrole, h⟩ :=
    append_delimiter_inj (colon_notMem_roleStr m.role) (colon_notMem_roleStr m'.role) h
  obtain ⟨htext, h⟩ := List.append_inj (List.cons.inj h).2 htextLen
  obtain ⟨hreps, h⟩ := imageChars_append_inj
    (by rw [List.map_map, List.map_map]; exact himagesLen) h
  obtain ⟨hcalls, h⟩ := markedChars_append_inj
    (by rw [Option.map_map, Option.map_map]; exact hcallsLen) h
  obtain ⟨hid, h⟩ := markedChars_append_inj hidLen h
  have hforms := imageForms_inj hfree
    (fun text htext => hin _ (List.mem_map_of_mem htext))
    (fun text htext => hin' _ (List.mem_map_of_mem htext)) hreps
  have hcalls' : m.toolCalls = m'.toolCalls := by
    apply Option.map_injective _ hcalls
    intro calls calls' hjson
    exact toolCallsText_inj hjson
  refine ⟨?_, h⟩
  rw [promptMessage, promptMessage, roleStr_inj (String.toList_inj.mp hrole),
    String.toList_inj.mp htext, hforms, hcalls', hid]

theorem mapM_promptLine : ∀ {messages : List ChatMessage} {lines : List String},
    messages.mapM (promptLine sha256) = some lines →
      lines.map String.toList = messages.map (lineChars sha256) := by
  intro messages
  induction messages with
  | nil =>
    intro lines h
    rw [← Option.some.inj h]
    rfl
  | cons m messages ih =>
    intro lines h
    rw [List.mapM_cons] at h
    obtain ⟨line, hline, h⟩ := Option.bind_eq_some_iff.mp h
    obtain ⟨lines', hlines, h⟩ := Option.bind_eq_some_iff.mp h
    rw [← Option.some.inj h, List.map_cons, List.map_cons, promptLine_toList hline, ih hlines]

/-- Lines joined by line breaks, whose parts have the same lengths, tell the same messages. -/
theorem lines_inj {inputs : List (List UInt8)} (hfree : CollisionFree sha256 inputs) :
    ∀ {messages messages' : List ChatMessage},
      (∀ m ∈ messages, ∀ input ∈ imagePayloads m, input ∈ inputs) →
      (∀ m ∈ messages', ∀ input ∈ imagePayloads m, input ∈ inputs) →
      messages.map (lineLayout sha256) = messages'.map (lineLayout sha256) →
      ['\n'].intercalate (messages.map (lineChars sha256)) =
        ['\n'].intercalate (messages'.map (lineChars sha256)) →
      messages.map promptMessage = messages'.map promptMessage := by
  intro messages
  induction messages with
  | nil =>
    intro messages' _ _ hlayout _
    cases messages' with
    | nil => rfl
    | cons m' messages' => cases hlayout
  | cons m messages ih =>
    intro messages' hin hin' hlayout h
    cases messages' with
    | nil => cases hlayout
    | cons m' messages' =>
      obtain ⟨hline, hlines⟩ := List.cons.inj hlayout
      have htail : ∀ {m : ChatMessage} {messages : List ChatMessage},
          (∀ m' ∈ m :: messages, ∀ input ∈ imagePayloads m', input ∈ inputs) →
            ∀ m' ∈ messages, ∀ input ∈ imagePayloads m', input ∈ inputs :=
        fun hin m' hm' => hin m' (List.mem_cons_of_mem _ hm')
      have hhead := @lineChars_append_inj sha256 m m'
      -- what follows the first line: nothing, or a line break and the other lines
      have hrest : ∀ (m : ChatMessage) (messages : List ChatMessage),
          ['\n'].intercalate ((m :: messages).map (lineChars sha256)) =
            lineChars sha256 m ++ (match messages with
              | [] => []
              | _ :: _ => '\n' :: ['\n'].intercalate (messages.map (lineChars sha256))) := by
        intro m messages
        cases messages with
        | nil => rw [List.map_singleton, List.intercalate_singleton, List.append_nil]
        | cons next messages =>
          rw [List.map_cons, List.map_cons, List.intercalate_cons_cons]
          simp only [List.append_assoc, List.singleton_append]
      rw [hrest, hrest] at h
      obtain ⟨hm, hnext⟩ := hhead hfree (hin m List.mem_cons_self) (hin' m' List.mem_cons_self)
        hline h
      have hmessages : messages.map promptMessage = messages'.map promptMessage := by
        cases messages with
        | nil =>
          cases messages' with
          | nil => rfl
          | cons next' messages' => cases hlines
        | cons next messages =>
          cases messages' with
          | nil => cases hlines
          | cons next' messages' => exact ih (htail hin) (htail hin') hlines (List.cons.inj hnext).2
      rw [List.map_cons, List.map_cons, hm, hmessages]

/-- The lengths of the parts of a line, by what it should tell. -/
def layoutOf (sha256 : List UInt8 → List UInt8) (view : PromptMessage) : LineLayout :=
  ⟨view.text.length, view.images.map fun form => (formRep sha256 form).length,
    view.toolCalls.map fun calls => (jsonText (toolCallsJson calls)).length,
    view.toolCallId.map String.length⟩

/-- What a line should tell fixes its layout. -/
theorem layoutOf_promptMessage (m : ChatMessage) :
    layoutOf sha256 (promptMessage m) = lineLayout sha256 m := by
  have hreps : (m.content.imageUrls.map imageForm).map (fun form => (formRep sha256 form).length) =
      m.content.imageUrls.map fun image => (imageKeyRep sha256 image).length := by
    rw [List.map_map]
    apply List.map_congr_left
    intro image _
    rw [imageKeyRep_eq]
    rfl
  rw [lineLayout, ← hreps]
  rfl

theorem map_lineLayout (messages : List ChatMessage) :
    messages.map (lineLayout sha256) = (messages.map promptMessage).map (layoutOf sha256) := by
  rw [List.map_map]
  apply List.map_congr_left
  intro m _
  exact (layoutOf_promptMessage m).symm

end Lines

/-! ## Prompts -/

/-- The images of a request that are hashed. -/
def payloads (req : ChatRequest) : List (List UInt8) := req.messages.flatMap imagePayloads

/-- Two requests that the semantic tier takes for one prompt: the same tags, the same text. -/
structure Matching (fourDecimals : F32 → String) (sha256 : List UInt8 → List UInt8)
    (req req' : ChatRequest) : Prop where
  tags : semanticTags fourDecimals req = semanticTags fourDecimals req'
  text : ∃ text, promptText sha256 req = some text ∧ promptText sha256 req' = some text

/-- Two requests that ask the same. -/
structure SamePrompt (req req' : ChatRequest) : Prop where
  tools : req.tools = req'.tools
  toolChoice : req.toolChoice = req'.toolChoice
  messages : req.messages.map promptMessage = req'.messages.map promptMessage

/-- Requests that the semantic tier takes for one prompt ask the same exactly if they have the
same tools and the parts of their lines have the same lengths. -/
theorem Matching.samePrompt_iff {fourDecimals : F32 → String} {sha256 : List UInt8 → List UInt8}
    {req req' : ChatRequest} (h : Matching fourDecimals sha256 req req')
    (hfree : CollisionFree sha256 (payloads req ++ payloads req')) :
    SamePrompt req req' ↔ req.tools = req'.tools ∧ req.toolChoice = req'.toolChoice ∧
      req.messages.map (lineLayout sha256) = req'.messages.map (lineLayout sha256) := by
  constructor
  · intro hsame
    refine ⟨hsame.tools, hsame.toolChoice, ?_⟩
    rw [map_lineLayout, map_lineLayout, hsame.messages]
  · rintro ⟨htools, htoolChoice, hlayout⟩
    refine ⟨htools, htoolChoice, ?_⟩
    obtain ⟨text, htext, htext'⟩ := h.text
    obtain ⟨lines, hlines, htext⟩ := Option.bind_eq_some_iff.mp htext
    obtain ⟨lines', hlines', htext'⟩ := Option.bind_eq_some_iff.mp htext'
    have hjoined : "\n".intercalate lines = "\n".intercalate lines' := by
      rw [Option.some.inj htext, Option.some.inj htext']
    have hchars := congrArg String.toList hjoined
    have hbreak : "\n".toList = ['\n'] := by decide
    rw [String.toList_intercalate, String.toList_intercalate, hbreak, mapM_promptLine hlines,
      mapM_promptLine hlines'] at hchars
    apply lines_inj hfree _ _ hlayout hchars
    · intro m hm input hinput
      exact List.mem_append_left _ (List.mem_flatMap.mpr ⟨m, hm, hinput⟩)
    · intro m hm input hinput
      exact List.mem_append_right _ (List.mem_flatMap.mpr ⟨m, hm, hinput⟩)

/-- A message of text only. -/
def textMessage (role : Role) (text : String) : ChatMessage := ⟨role, .text text, none, none, none⟩

/-- A request without sampling parameters. -/
def plainRequest (messages : List ChatMessage) (tools : Option (List ToolDefinition)) :
    ChatRequest :=
  ⟨"openai/gpt-4o", messages, none, none, none, false, tools, none⟩

/-- A tool with parameters. -/
def zoomTool : ToolDefinition :=
  ⟨"function", ⟨"zoom", none, some (.obj [("type", .str "object")])⟩⟩

/-- A question about an inline image: the first message is a text. -/
def pictureText : ChatRequest where
  model := "openai/gpt-4o"
  messages :=
    [ textMessage .system "Be brief.",
      ⟨.user,
        .parts [.text "What is this?", .imageUrl ⟨"data:image/png;base64,iVBORw0KGgo=", none⟩],
        none, none, none⟩ ]
  maxTokens := none
  temperature := some ⟨0x3F333333⟩
  topP := none
  stream := false
  tools := some [zoomTool]
  toolChoice := some (.str "auto")

/-- The same question: the first message is an array of parts, there are blanks around the URL, and
the answer is bounded. -/
def pictureParts : ChatRequest :=
  { pictureText with
    messages :=
      [ ⟨.system, .parts [.text "Be brief."], none, none, none⟩,
        ⟨.user,
          .parts
            [.text "What is this?", .imageUrl ⟨" data:image/png;base64,iVBORw0KGgo=\n", none⟩],
          none, none, none⟩ ]
    maxTokens := some 16 }

/-- The digest of the image's payload. -/
def pictureDigest : List UInt8 :=
  [146, 158, 8, 213, 151, 254, 174, 86, 76, 233, 128, 3, 196, 164, 127, 245, 35, 154, 91, 147, 104,
    29, 24, 110, 218, 58, 152, 113, 229, 182, 38, 68]

/-- The hash, at the payload. -/
def pictureSha256 (input : List UInt8) : List UInt8 :=
  if input = textBytes "iVBORw0KGgo=" then pictureDigest else []

/-- Four decimals, at 0.7. -/
def sevenTenths (v : F32) : String := if v = ⟨0x3F333333⟩ then "0.7000" else "0.0000"

/-- What both requests are embedded as. -/
def pictureLines : String :=
  "system: Be brief.\n" ++
    "user: What is this? image=sha256:image/png:929e08d597feae564ce98003c4a47ff5"

/-- Two requests about one image are one prompt, and ask the same. -/
theorem Matching.samePrompt_twice :
    promptText pictureSha256 pictureText = some pictureLines ∧
      promptText pictureSha256 pictureParts = some pictureLines ∧
        SamePrompt pictureText pictureParts := by
  have htext : promptText pictureSha256 pictureText = some pictureLines := by decide +kernel
  have hparts : promptText pictureSha256 pictureParts = some pictureLines := by decide +kernel
  have hfree : CollisionFree pictureSha256 (payloads pictureText ++ payloads pictureParts) := by
    have hpayloads : payloads pictureText ++ payloads pictureParts =
        [textBytes "iVBORw0KGgo=", textBytes "iVBORw0KGgo="] := by decide +kernel
    intro input hinput input' hinput' _
    simp only [hpayloads, List.mem_cons, List.not_mem_nil, or_false, or_self] at hinput hinput'
    rw [hinput, hinput']
  have hlayout : pictureText.messages.map (lineLayout pictureSha256) =
      pictureParts.messages.map (lineLayout pictureSha256) := by decide +kernel
  exact ⟨htext, hparts,
    (@Matching.samePrompt_iff sevenTenths pictureSha256 pictureText pictureParts
      ⟨rfl, pictureLines, htext, hparts⟩ hfree).mpr ⟨rfl, rfl, hlayout⟩⟩

/-- A tool. -/
def weatherTool : ToolDefinition := ⟨"function", ⟨"get_weather", none, none⟩⟩

/-- A question with a tool and one without are one prompt, and so are a message that imitates the
line of a next message and those two messages. -/
theorem prompt_imitated :
    ((∀ (fourDecimals : F32 → String) (sha256 : List UInt8 → List UInt8),
        Matching fourDecimals sha256
          (plainRequest [textMessage .user "Weather?"] (some [weatherTool]))
          (plainRequest [textMessage .user "Weather?"] none)) ∧
      ¬ SamePrompt (plainRequest [textMessage .user "Weather?"] (some [weatherTool]))
        (plainRequest [textMessage .user "Weather?"] none)) ∧
    ((∀ (fourDecimals : F32 → String) (sha256 : List UInt8 → List UInt8),
        Matching fourDecimals sha256
          (plainRequest [textMessage .user "Hi\nassistant: Yes"] none)
          (plainRequest [textMessage .user "Hi", textMessage .assistant "Yes"] none)) ∧
      ¬ SamePrompt (plainRequest [textMessage .user "Hi\nassistant: Yes"] none)
        (plainRequest [textMessage .user "Hi", textMessage .assistant "Yes"] none)) ∧
    withinEmbedBudget "user: Weather?" = true ∧
    withinEmbedBudget "user: Hi\nassistant: Yes" = true := by
  refine ⟨⟨fun fourDecimals sha256 => ⟨rfl, "user: Weather?", rfl, rfl⟩, ?_⟩,
    ⟨fun fourDecimals sha256 => ⟨rfl, "user: Hi\nassistant: Yes", rfl, rfl⟩, ?_⟩, by decide,
    by decide⟩
  · intro hsame
    cases hsame.tools
  · intro hsame
    cases congrArg List.length hsame.messages

end Solvela.Cache

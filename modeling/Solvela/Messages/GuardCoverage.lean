import Mathlib.Data.Bool.AllAny
import Mathlib.Data.List.TakeWhile
import Solvela.Chat.PromptGuardSplit
import Solvela.Messages.Fork

/-!
# What the prompt guard sees of a native body

The guard of a native request is run on the messages of the skeleton, while the body itself is
relayed. The skeleton has the texts of the system field and of the text blocks; of every other
block it has a space. What the guard finds in the texts that it sees is settled by their words,
since everything that the skeleton puts between them is white space.
-/

namespace Solvela.Messages

open Solvela.Chat
open Solvela.Protocol
open Solvela.Lib (Table)
open Solvela.Router (ModelRegistration ModelRegistry)
open Solvela.Signer (JsonValue structFields)

/-! ## Strings -/

mutual

/-- The strings in a value. -/
def strings : JsonValue → List String
  | .str s => [s]
  | .arr values => elementsStrings values
  | .obj fields => fieldsStrings fields
  | _ => []

def elementsStrings : List JsonValue → List String
  | [] => []
  | value :: values => strings value ++ elementsStrings values

def fieldsStrings : List (String × JsonValue) → List String
  | [] => []
  | (_, value) :: fields => strings value ++ fieldsStrings fields

end

/-- The strings in an optional field. -/
def fieldStrings (field : Option JsonValue) : List String := (field.map strings).getD []

/-- The strings in the content of a message, whatever its blocks are. -/
def contentStrings (message : JsonValue) : List String :=
  match structFields false ["role", "content"] message with
  | some get => fieldStrings (get "content")
  | none => []

/-- The strings that a body carries in its system field and in the contents of its messages. -/
def carriedStrings (body : JsonValue) : List String :=
  match structFields false requestFields body with
  | some get =>
    fieldStrings (get "system") ++
      match get "messages" with
      | some (.arr messages) => messages.flatMap contentStrings
      | _ => []
  | none => []

/-- The texts of the system field. -/
def systemFieldTexts : Option AnthropicSystem → List String
  | none => []
  | some (.text s) => [s]
  | some (.blocks values) => values.map (·.text)

/-- The text of a text block. -/
def visibleText? : AnthropicInboundContentBlock → Option String
  | .text text => some text
  | .image | .other => none

/-- The texts of a content. -/
def inboundTexts : AnthropicInboundContent → List String
  | .text s => [s]
  | .blocks values => values.filterMap visibleText?

/-- The texts that the skeleton is made of. -/
def visibleTexts (req : AnthropicMessagesRequest) : List String :=
  systemFieldTexts req.system ++ req.messages.flatMap fun m => inboundTexts m.content

/-! ## Words -/

/-- The words of some texts, one text after the other. -/
def wordsOf (texts : List String) : List (List Char) :=
  texts.flatMap fun s => splitWhitespace s.toList

/-- White space separates words. -/
theorem splitWhitespace_space {c : Char} (hc : isWhitespace c = true) (x y : List Char) :
    splitWhitespace (x ++ c :: y) = splitWhitespace x ++ splitWhitespace y := by
  unfold splitWhitespace
  rw [List.splitOnP_append_cons _ _ hc, List.filter_append]

/-- White space in front adds no word. -/
theorem splitWhitespace_spaces {sep : List Char} (hsep : ∀ c ∈ sep, isWhitespace c = true)
    (x : List Char) : splitWhitespace (sep ++ x) = splitWhitespace x := by
  induction sep with
  | nil => rfl
  | cons c sep ih =>
    have hcons := splitWhitespace_space (hsep c List.mem_cons_self) [] (sep ++ x)
    rw [ih fun c' hc' => hsep c' (List.mem_cons_of_mem c hc')] at hcons
    exact hcons

/-- White space that is not empty keeps the words on its sides apart. -/
theorem splitWhitespace_between {sep : List Char} (hne : sep ≠ [])
    (hsep : ∀ c ∈ sep, isWhitespace c = true) (x y : List Char) :
    splitWhitespace (x ++ sep ++ y) = splitWhitespace x ++ splitWhitespace y := by
  cases sep with
  | nil => exact absurd rfl hne
  | cons c sep =>
    rw [List.append_assoc, List.cons_append, splitWhitespace_space (hsep c List.mem_cons_self),
      splitWhitespace_spaces fun c' hc' => hsep c' (List.mem_cons_of_mem c hc')]

/-- The words of joined texts. -/
theorem splitWhitespace_intercalate {sep : List Char} (hne : sep ≠ [])
    (hsep : ∀ c ∈ sep, isWhitespace c = true) (texts : List (List Char)) :
    splitWhitespace (sep.intercalate texts) = texts.flatMap splitWhitespace := by
  induction texts with
  | nil => rfl
  | cons text texts ih =>
    cases texts with
    | nil => rw [List.intercalate_singleton, List.flatMap_singleton]
    | cons text' texts =>
      rw [List.intercalate_cons_cons, splitWhitespace_between hne hsep, ih]
      rfl

/-- A text that trims to nothing has no words. -/
theorem splitWhitespace_of_trim {text : List Char} (h : Protocol.trim text = []) :
    splitWhitespace text = [] := by
  have hall : ∀ c ∈ text, isWhitespace c = true := by
    have hfront : ∀ c ∈ text.dropWhile isWhitespace, isWhitespace c = true := by
      unfold Protocol.trim at h
      rw [List.reverse_eq_nil_iff, List.dropWhile_eq_nil_iff] at h
      intro c hc
      exact h c (List.mem_reverse.mpr hc)
    intro c hc
    rw [← List.takeWhile_append_dropWhile (p := isWhitespace) (l := text)] at hc
    rcases List.mem_append.mp hc with hc | hc
    · exact List.mem_takeWhile_imp hc
    · exact hfront c hc
  have hspaces := splitWhitespace_spaces hall []
  rw [List.append_nil] at hspaces
  exact hspaces

/-! ## What blocks -/

section Blocking

variable (tables : UnicodeTables)

/-- A pattern of the guard is in the words. -/
def BlockedWords (words : List (List Char)) : Prop :=
  ∃ pattern ∈ enabledPatterns .default,
    pattern.toList <:+: toLowercase tables (" ".toList.intercalate words)

variable {tables}

/-- A join ends with the join of its last texts. -/
theorem intercalate_suffix {α : Type} (sep : List α) (x y : List (List α)) :
    sep.intercalate y <:+ sep.intercalate (x ++ y) := by
  induction x with
  | nil => exact List.suffix_rfl
  | cons word x ih =>
    by_cases hxy : x ++ y = []
    · rw [(List.append_eq_nil_iff.mp hxy).2]
      exact List.nil_suffix
    · rw [List.cons_append, List.intercalate_cons_of_ne_nil hxy]
      exact ih.trans (List.suffix_append _ _)

/-- A join begins with the join of its first texts. -/
theorem intercalate_prefix {α : Type} (sep : List α) (x y : List (List α)) :
    sep.intercalate x <+: sep.intercalate (x ++ y) := by
  induction x with
  | nil => exact List.nil_prefix
  | cons word x ih =>
    cases x with
    | nil =>
      rw [List.intercalate_singleton]
      cases y with
      | nil =>
        rw [List.append_nil, List.intercalate_singleton]
      | cons word' y =>
        show word <+: sep.intercalate (word :: word' :: y)
        rw [List.intercalate_cons_cons, List.append_assoc]
        exact List.prefix_append _ _
    | cons word' x =>
      show _ <+: sep.intercalate (word :: word' :: (x ++ y))
      rw [List.intercalate_cons_cons, List.intercalate_cons_cons]
      exact List.prefix_append_right_inj _ |>.mpr ih

/-- Words in a row, joined, are in a row in all words, joined. -/
theorem intercalate_infix {α : Type} (sep : List α) {words words' : List (List α)}
    (h : words <:+: words') : sep.intercalate words <:+: sep.intercalate words' := by
  obtain ⟨x, y, hxy⟩ := h
  rw [← hxy]
  have hprefix := intercalate_prefix sep (x ++ words) y
  have hsuffix := intercalate_suffix sep x words
  exact hsuffix.isInfix.trans hprefix.isInfix

/-- The patterns have no sigma, so the rule of the final sigma does not matter to them. -/
theorem infix_toLowercase {pattern : String} (hp : pattern ∈ enabledPatterns .default)
    {text : List Char} : pattern.toList <:+: toLowercase tables text ↔
      pattern.toList <:+: text.flatMap (plainLower tables) := by
  rw [← infix_foldSigma (no_sigma hp), foldSigma_toLowercase]

/-- Words in a row that are blocked stay blocked among more words. -/
theorem BlockedWords.of_infix {words words' : List (List Char)}
    (h : BlockedWords tables words) (hin : words <:+: words') : BlockedWords tables words' := by
  obtain ⟨pattern, hp, hfound⟩ := h
  refine ⟨pattern, hp, ?_⟩
  rw [infix_toLowercase hp] at hfound ⊢
  obtain ⟨x, y, hxy⟩ := intercalate_infix " ".toList hin
  rw [← hxy, List.flatMap_append, List.flatMap_append]
  exact hfound.trans (List.infix_append _ _ _)

/-- What the guard makes of messages is what it makes of their words. -/
theorem check_blocked_iff {messages : List ChatMessage} :
    (∃ reason, check tables messages .default = .blocked reason) ↔
      BlockedWords tables (messages.flatMap fun m => splitWhitespace m.content.asText.toList) := by
  rw [check_blocked]
  unfold scanText
  dsimp only
  rw [splitWhitespace_intercalate (by decide) (List.all_iff_forall_prop.mp (by decide)),
    List.flatMap_map]
  rfl

/-- The words of the skeleton are the words of the texts that it is made of. -/
theorem skeleton_words (req : AnthropicMessagesRequest) :
    ((anthropicRequestToNativeSkeleton req).messages.flatMap fun m =>
      splitWhitespace m.content.asText.toList) = wordsOf (visibleTexts req) := by
  have hsystem : ((systemMessage req.system).flatMap fun m =>
      splitWhitespace m.content.asText.toList) = wordsOf (systemFieldTexts req.system) := by
    cases hs : req.system with
    | none => rfl
    | some system =>
      have hflatten : splitWhitespace system.flatten.toList =
          wordsOf (systemFieldTexts (some system)) := by
        cases system with
        | text s => exact (List.append_nil _).symm
        | blocks values =>
          show splitWhitespace (String.toList _) = _
          rw [AnthropicSystem.flatten, String.toList_intercalate,
            splitWhitespace_intercalate (by decide) (List.all_iff_forall_prop.mp (by decide)),
            List.flatMap_map]
          rfl
      unfold systemMessage
      dsimp only
      split
      · rename_i hempty
        rw [← hflatten, splitWhitespace_of_trim (List.isEmpty_iff.mp hempty)]
        rfl
      · rw [List.flatMap_singleton]
        exact hflatten
  have hcontent : ∀ content : AnthropicInboundContent,
      splitWhitespace (flattenInboundContentLenient content).toList =
        wordsOf (inboundTexts content) := by
    intro content
    cases content with
    | text s => exact (List.append_nil _).symm
    | blocks values =>
      rw [flattenInboundContentLenient, String.toList_intercalate,
        splitWhitespace_intercalate (by decide) (List.all_iff_forall_prop.mp (by decide)),
        List.flatMap_map, List.flatMap_map]
      -- a block that is not text leaves a space, which has no words
      induction values with
      | nil => rfl
      | cons block values ih =>
        rw [List.flatMap_cons, ih]
        cases block with
        | text s => rfl
        | image => rfl
        | other => rfl
  unfold anthropicRequestToNativeSkeleton
  dsimp only
  rw [List.flatMap_append, hsystem, List.flatMap_map]
  unfold visibleTexts wordsOf
  rw [List.flatMap_append, List.flatMap_assoc]
  congr 2
  funext m
  exact hcontent m.content

end Blocking

/-! ## Coverage -/

section Coverage

variable (tables : UnicodeTables) (scoring : Scoring) (registry : WalkedRegistry)
  (reader : NumberReader)

/-- The string would be blocked as a message of its own. -/
def BlockedAlone (s : String) : Prop :=
  ∃ reason, check tables [textMessage .user s] .default = .blocked reason

/-- The guard of `chat_completions_inner`, run on what `create_message` passes it. -/
def runPromptGuard (messages : List ChatMessage) : Except String Unit :=
  match check tables messages .default with
  | .blocked _ => .error "Request blocked by content policy"
  | .piiDetected _ => .ok ()
  | .clean => .ok ()

/-- A native body: read, and resolved to an Anthropic model. -/
structure NativeBody (body : JsonValue) (req : AnthropicMessagesRequest) : Prop where
  read : requestOfJson reader body = some req
  native : isNative scoring registry req = true

/-- The guard sees what is relayed: a string of the body that would be blocked alone blocks it. -/
def GuardCovers (body : JsonValue) : Prop :=
  ∀ req, NativeBody scoring registry reader body req →
    (∃ s ∈ carriedStrings body, BlockedAlone tables s) →
      ∃ e, runPromptGuard tables (routedSkeleton scoring registry req).messages = .error e

/-- The strings of the body that would be blocked alone are texts that the skeleton is made of, or
a pattern of the guard is in the words of those texts anyway. -/
def ThreatsVisible (body : JsonValue) : Prop :=
  ∀ req, NativeBody scoring registry reader body req →
    (∀ s ∈ carriedStrings body, BlockedAlone tables s → s ∈ visibleTexts req) ∨
      BlockedWords tables (wordsOf (visibleTexts req))

variable {tables scoring registry reader}

/-- The guard refuses exactly what the check blocks. -/
theorem runPromptGuard_error_iff {messages : List ChatMessage} :
    (∃ e, runPromptGuard tables messages = .error e) ↔
      ∃ reason, check tables messages .default = .blocked reason := by
  unfold runPromptGuard
  cases check tables messages .default <;> simp

/-- A text is blocked by its words. -/
theorem blockedAlone_iff {s : String} :
    BlockedAlone tables s ↔ BlockedWords tables (splitWhitespace s.toList) := by
  unfold BlockedAlone
  rw [check_blocked_iff, List.flatMap_singleton]
  rfl

/-- Routing leaves the messages of the skeleton. -/
theorem routedSkeleton_messages (req : AnthropicMessagesRequest) :
    (routedSkeleton scoring registry req).messages =
      (anthropicRequestToNativeSkeleton req).messages := by
  unfold routedSkeleton
  dsimp only
  split
  · split <;> rfl
  · rfl

/-- The guard of a native request looks at the words of its visible texts. -/
theorem guard_error_iff {req : AnthropicMessagesRequest} :
    (∃ e, runPromptGuard tables (routedSkeleton scoring registry req).messages = .error e) ↔
      BlockedWords tables (wordsOf (visibleTexts req)) := by
  rw [runPromptGuard_error_iff, routedSkeleton_messages, check_blocked_iff, skeleton_words]

/-- A visible text that would be blocked alone is blocked. -/
theorem blockedWords_of_visible {req : AnthropicMessagesRequest} {s : String}
    (hs : s ∈ visibleTexts req) (h : BlockedAlone tables s) :
    BlockedWords tables (wordsOf (visibleTexts req)) := by
  rw [blockedAlone_iff] at h
  obtain ⟨before, after, hsplit⟩ := List.append_of_mem hs
  apply h.of_infix
  rw [hsplit, wordsOf, List.flatMap_append, List.flatMap_cons]
  exact ⟨wordsOf before, wordsOf after, List.append_assoc _ _ _⟩

/-- The guard sees what a native body relays exactly when no string that it would block is in a
block that is not text, or the texts that it sees are blocked without it. -/
theorem guardCovers_iff (tables : UnicodeTables) (scoring : Scoring) (registry : WalkedRegistry)
    (reader : NumberReader) (body : JsonValue) :
    GuardCovers tables scoring registry reader body ↔
      ThreatsVisible tables scoring registry reader body := by
  constructor
  · intro hcovers req hbody
    by_cases hblocked : BlockedWords tables (wordsOf (visibleTexts req))
    · exact Or.inr hblocked
    · left
      intro s hs halone
      exact absurd (guard_error_iff.mp (hcovers req hbody ⟨s, hs, halone⟩)) hblocked
  · rintro hvisible req hbody ⟨s, hs, halone⟩
    apply guard_error_iff.mpr
    rcases hvisible req hbody with hall | hblocked
    · exact blockedWords_of_visible (hall s hs halone) halone
    · exact hblocked

/-- A registry of the model behind the alias `sonnet`. -/
def sonnetInfo : ModelRegistration where
  inputCostPerMillion := some 3
  outputCostPerMillion := some 15
  contextWindow := 200000
  maxOutputTokens := some 64000
  id := "anthropic/claude-sonnet-4-6"
  provider := "anthropic"
  modelId := "claude-sonnet-4-6"

def sonnetRegistry : WalkedRegistry where
  models := (∅ : ModelRegistry).insert "anthropic/claude-sonnet-4-6" sonnetInfo
  values := [sonnetInfo]
  mem_values info := by
    simp only [List.mem_singleton, Table.lookup_insert_eq]
    constructor
    · intro h
      exact ⟨"anthropic/claude-sonnet-4-6", by rw [if_pos rfl, h]⟩
    · rintro ⟨name, h⟩
      split at h
      · exact (Option.some.inj h).symm
      · cases h

/-- A tool result with a word that the guard blocks. -/
def toolResultBody : JsonValue :=
  .obj [("model", .str "sonnet"),
    ("messages", .arr [.obj [("role", .str "user"), ("content", .arr [
      .obj [("type", .str "text"), ("text", .str "Hi")],
      .obj [("type", .str "tool_result"), ("tool_use_id", .str "t1"),
        ("content", .str "jailbreak")]])]])]

/-- The request that the body is read as. -/
def toolResultRequest : AnthropicMessagesRequest where
  model := "sonnet"
  maxTokens := none
  system := none
  messages := [⟨"user", .blocks [.text "Hi", .other]⟩]
  temperature := none
  topP := none
  stopSequences := none
  stream := false
  tools := none
  toolChoice := none

def plainScoring : Scoring := ⟨id, fun _ _ => .simple⟩

def plainReader : NumberReader := ⟨fun _ => none, fun _ => ⟨0⟩, fun h => nomatch h⟩

/-- The body is one that the endpoint reads. -/
theorem toolResultBody_read : requestOfJson plainReader toolResultBody = some toolResultRequest := by
  rfl

/-- It goes to the native provider. -/
theorem toolResultBody_native : isNative plainScoring sonnetRegistry toolResultRequest = true := by
  decide +kernel

/-- The guard does not see the tool result that is relayed. -/
theorem tool_result_unseen :
    ¬ GuardCovers asciiTables plainScoring sonnetRegistry plainReader toolResultBody := by
  intro hcovers
  have hbody : NativeBody plainScoring sonnetRegistry plainReader toolResultBody
      toolResultRequest := ⟨toolResultBody_read, toolResultBody_native⟩
  have halone : BlockedAlone asciiTables "jailbreak" :=
    blockedAlone_iff.mpr ⟨"jailbreak", by decide, by decide +kernel⟩
  have hclean : runPromptGuard asciiTables
      (routedSkeleton plainScoring sonnetRegistry toolResultRequest).messages = .ok () := by
    decide +kernel
  obtain ⟨e, he⟩ := hcovers _ hbody ⟨"jailbreak", by decide +kernel, halone⟩
  rw [hclean] at he
  cases he

end Coverage

end Solvela.Messages

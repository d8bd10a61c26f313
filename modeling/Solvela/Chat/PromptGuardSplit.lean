import Mathlib.Data.Bool.AllAny
import Mathlib.Data.List.ReduceOption
import Solvela.Chat.PromptGuard

/-!
# The prompt guard and a text in parts

A text that comes in parts is scanned for patterns with a space for every cut. Where a cut falls on
white space or at an end, nothing changes. Where it falls inside a word, the word is two words for
the scan: a pattern with the word in it is not found any more.

The texts are looked at as cells: characters, and the cuts between them. With the cuts left out the
cells are the text in one piece; with a space for every cut they are the text in parts.
-/

namespace Solvela.Chat

open Solvela.Protocol

/-! ## Cells -/

/-- A character, or a cut. -/
abbrev Cell := Option Char

/-- A text in parts: a cut between each two of them. -/
def cutText (pieces : List (List Char)) : List Cell := [none].intercalate (pieces.map (·.map some))

/-- A cell with white space in it. A cut is none. -/
def isSpaceCell (cell : Cell) : Bool := cell.any isWhitespace

/-- The pieces of a word. -/
def wordPieces (word : List Cell) : List (List Char) :=
  ((word.splitOnP Option.isNone).map List.reduceOption).filter fun piece => !piece.isEmpty

/-- The words of some cells, each in its pieces. -/
def cutWords (cells : List Cell) : List (List (List Char)) :=
  ((cells.splitOnP isSpaceCell).map wordPieces).filter fun pieces => !pieces.isEmpty

/-- Cells with one space between words and no cuts but those inside words. -/
def normalCells (cells : List Cell) : List Cell :=
  [some ' '].intercalate ((cutWords cells).map cutText)

/-- The text that the cells are in one piece. -/
def joined (cells : List Cell) : List Char := cells.reduceOption

/-- The text that the cells are in parts: a space for every cut. -/
def spaced (cells : List Cell) : List Char := cells.map (·.getD ' ')

/-- The two small sigmas as one. -/
def foldSigma (c : Char) : Char := if c = 'ς' then 'σ' else c

/-- The lower case of a character, the two small sigmas as one. -/
def plainLower (tables : UnicodeTables) (c : Char) : List Char :=
  (if c = 'Σ' then ['σ'] else tables.lower c).map foldSigma

/-- Cells in lower case. -/
def lowerCells (tables : UnicodeTables) (cells : List Cell) : List Cell :=
  cells.flatMap fun cell =>
    match cell with
    | none => [none]
    | some c => (plainLower tables c).map some

/-! ## Words -/

section Words

theorem joined_append (x y : List Cell) : joined (x ++ y) = joined x ++ joined y :=
  List.reduceOption_append x y

theorem spaced_append (x y : List Cell) : spaced (x ++ y) = spaced x ++ spaced y :=
  List.map_append

theorem joined_some (text : List Char) : joined (text.map some) = text := by
  rw [joined, List.reduceOption, List.filterMap_map]
  exact List.filterMap_some

theorem spaced_some (text : List Char) : spaced (text.map some) = text := by
  rw [spaced, List.map_map]
  exact List.map_id text

theorem joined_intercalate (sep : List Cell) (texts : List (List Cell)) :
    joined (sep.intercalate texts) = (joined sep).intercalate (texts.map joined) := by
  induction texts with
  | nil => rfl
  | cons text texts ih =>
    cases texts with
    | nil => rw [List.map_singleton, List.intercalate_singleton, List.intercalate_singleton]
    | cons next texts =>
      have htail : (text :: next :: texts).map joined =
          joined text :: joined next :: texts.map joined := rfl
      rw [List.intercalate_cons_cons, joined_append, joined_append, ih, htail,
        List.intercalate_cons_cons]
      rfl

theorem spaced_intercalate (sep : List Cell) (texts : List (List Cell)) :
    spaced (sep.intercalate texts) = (spaced sep).intercalate (texts.map spaced) := by
  induction texts with
  | nil => rfl
  | cons text texts ih =>
    cases texts with
    | nil => rw [List.map_singleton, List.intercalate_singleton, List.intercalate_singleton]
    | cons next texts =>
      have htail : (text :: next :: texts).map spaced =
          spaced text :: spaced next :: texts.map spaced := rfl
      rw [List.intercalate_cons_cons, spaced_append, spaced_append, ih, htail,
        List.intercalate_cons_cons]
      rfl

theorem intercalate_nil_eq_flatten {α : Type*} (texts : List (List α)) :
    ([] : List α).intercalate texts = texts.flatten := by
  induction texts with
  | nil => rfl
  | cons text texts ih =>
    cases texts with
    | nil => simp
    | cons next texts =>
      rw [List.intercalate_cons_cons, ih, List.append_nil]
      rfl

/-- Without its cuts a text in parts is its parts in a row. -/
theorem joined_cutText (pieces : List (List Char)) : joined (cutText pieces) = pieces.flatten := by
  have hparts : (pieces.map (·.map some)).map joined = pieces := by
    rw [List.map_map]
    exact (List.map_congr_left fun text _ => joined_some text).trans (List.map_id pieces)
  rw [cutText, joined_intercalate, hparts]
  exact intercalate_nil_eq_flatten pieces

/-- With a space for every cut it is its parts with spaces between them. -/
theorem spaced_cutText (pieces : List (List Char)) :
    spaced (cutText pieces) = [' '].intercalate pieces := by
  have hparts : (pieces.map (·.map some)).map spaced = pieces := by
    rw [List.map_map]
    exact (List.map_congr_left fun text _ => spaced_some text).trans (List.map_id pieces)
  rw [cutText, spaced_intercalate, hparts]
  rfl

theorem map_modifyHead {α β : Type*} {f : α → α} {g : α → β} {h : β → β}
    (hcomm : ∀ a, g (f a) = h (g a)) (l : List α) :
    (l.modifyHead f).map g = (l.map g).modifyHead h := by
  cases l with
  | nil => rfl
  | cons a l => simp [hcomm]

theorem joined_cons_some (c : Char) (cells : List Cell) :
    joined (some c :: cells) = c :: joined cells :=
  List.reduceOption_cons_of_some c cells

theorem joined_cons_none (cells : List Cell) : joined (none :: cells) = joined cells :=
  List.reduceOption_cons_of_none cells

/-- The words in one piece are the words of the text in one piece. -/
theorem splitOnP_joined (cells : List Cell) :
    (joined cells).splitOnP isWhitespace = (cells.splitOnP isSpaceCell).map joined := by
  induction cells with
  | nil => rfl
  | cons cell cells ih =>
    rw [List.splitOnP_cons_eq_if_modifyHead]
    cases cell with
    | none =>
      have hcut : isSpaceCell none = false := rfl
      rw [joined_cons_none, hcut, if_neg Bool.false_ne_true,
        @map_modifyHead _ _ _ joined id joined_cons_none, List.modifyHead_id, ih]
      rfl
    | some c =>
      have hspace : isSpaceCell (some c) = isWhitespace c := rfl
      rw [joined_cons_some, List.splitOnP_cons_eq_if_modifyHead, hspace, ih]
      split
      · rfl
      · rw [map_modifyHead (joined_cons_some c)]

/-- The words of the text in parts are the pieces of the words. -/
theorem splitOnP_spaced (cells : List Cell) :
    (spaced cells).splitOnP isWhitespace =
      (cells.splitOnP isSpaceCell).flatMap fun word =>
        (word.splitOnP Option.isNone).map List.reduceOption := by
  induction cells with
  | nil => rfl
  | cons cell cells ih =>
    rw [List.splitOnP_cons_eq_if_modifyHead, spaced, List.map_cons,
      List.splitOnP_cons_eq_if_modifyHead, ← spaced, ih]
    obtain ⟨word, words, hwords⟩ : ∃ word words, cells.splitOnP isSpaceCell = word :: words :=
      List.exists_cons_of_ne_nil (List.splitOnP_ne_nil _ _)
    rw [hwords]
    cases cell with
    -- a seam is a blank, and no white space of its own
    | none =>
      have hcut : isSpaceCell none = false := rfl
      have hblank : isWhitespace ((none : Cell).getD ' ') = true := by decide
      rw [hcut, hblank, if_pos rfl, if_neg Bool.false_ne_true, List.modifyHead_cons,
        List.flatMap_cons, List.flatMap_cons, List.splitOnP_cons_eq_if_modifyHead]
      rfl
    | some c =>
      have hspace : isSpaceCell (some c) = isWhitespace c := rfl
      rw [hspace, Option.getD_some]
      split
      · rfl
      · obtain ⟨piece, pieces, hpieces⟩ : ∃ piece pieces, word.splitOnP Option.isNone =
            piece :: pieces := List.exists_cons_of_ne_nil (List.splitOnP_ne_nil _ _)
        rw [List.modifyHead_cons, List.flatMap_cons, List.flatMap_cons,
          List.splitOnP_cons_eq_if_modifyHead, hpieces]
        simp [List.reduceOption_cons_of_some]

theorem flatten_pieces (word : List Cell) :
    ((word.splitOnP Option.isNone).map List.reduceOption).flatten = joined word := by
  induction word with
  | nil => rfl
  | cons cell word ih =>
    rw [List.splitOnP_cons_eq_if_modifyHead]
    cases cell with
    | none =>
      have hcut : (none : Cell).isNone = true := rfl
      rw [hcut, if_pos rfl, List.map_cons, List.flatten_cons, ih, joined_cons_none]
      rfl
    | some c =>
      obtain ⟨piece, pieces, hpieces⟩ : ∃ piece pieces, word.splitOnP Option.isNone =
          piece :: pieces := List.exists_cons_of_ne_nil (List.splitOnP_ne_nil _ _)
      rw [hpieces] at ih ⊢
      rw [if_neg (by simp), List.modifyHead_cons, List.map_cons, List.flatten_cons,
        List.reduceOption_cons_of_some, joined_cons_some, ← ih]
      rfl

theorem flatten_wordPieces (word : List Cell) : (wordPieces word).flatten = joined word := by
  rw [wordPieces, List.flatten_filter_not_isEmpty, flatten_pieces]

/-- A word has pieces when it has characters. -/
theorem wordPieces_isEmpty (word : List Cell) :
    (wordPieces word).isEmpty = (joined word).isEmpty := by
  rw [← flatten_wordPieces]
  have hne : ∀ piece ∈ wordPieces word, piece ≠ [] := by
    intro piece hpiece
    have hmem := (List.mem_filter.mp hpiece).2
    intro hnil
    rw [hnil] at hmem
    exact absurd hmem (by decide)
  cases hpieces : wordPieces word with
  | nil => rfl
  | cons piece pieces =>
    rw [hpieces] at hne
    have hfirst := hne piece List.mem_cons_self
    rw [List.flatten_cons]
    cases piece with
    | nil => exact absurd rfl hfirst
    | cons c piece => rfl

/-- The words of the text in one piece. -/
theorem splitWhitespace_joined (cells : List Cell) :
    splitWhitespace (joined cells) = (cutWords cells).map List.flatten := by
  rw [splitWhitespace, splitOnP_joined, cutWords]
  induction cells.splitOnP isSpaceCell with
  | nil => rfl
  | cons word words ih =>
    rw [List.map_cons, List.map_cons, List.filter_cons, List.filter_cons, wordPieces_isEmpty, ih]
    split
    · rw [List.map_cons, flatten_wordPieces]
    · rfl

/-- The words of the text in parts. -/
theorem splitWhitespace_spaced (cells : List Cell) :
    splitWhitespace (spaced cells) = (cutWords cells).flatten := by
  rw [splitWhitespace, splitOnP_spaced, cutWords, List.flatten_filter_not_isEmpty]
  induction cells.splitOnP isSpaceCell with
  | nil => rfl
  | cons word words ih =>
    rw [List.flatMap_cons, List.filter_append, ih]
    rfl

theorem cutWords_ne_nil {cells : List Cell} {pieces : List (List Char)}
    (h : pieces ∈ cutWords cells) : pieces ≠ [] := by
  have hmem := (List.mem_filter.mp h).2
  intro hnil
  rw [hnil] at hmem
  exact absurd hmem (by decide)

/-- Joining words joined from pieces. -/
theorem intercalate_flatten {α : Type*} (sep : List α) {groups : List (List (List α))}
    (h : ∀ group ∈ groups, group ≠ []) :
    sep.intercalate (groups.map sep.intercalate) = sep.intercalate groups.flatten := by
  -- between two texts there is one separator
  have happend : ∀ (x y : List (List α)), x ≠ [] → y ≠ [] →
      sep.intercalate (x ++ y) = sep.intercalate x ++ sep ++ sep.intercalate y := by
    intro x y hx hy
    induction x with
    | nil => exact absurd rfl hx
    | cons text x ih =>
      cases x with
      | nil => rw [List.singleton_append, List.intercalate_cons_of_ne_nil hy,
          List.intercalate_singleton]
      | cons next x =>
        rw [List.cons_append, List.intercalate_cons_of_ne_nil (by simp), ih (by simp),
          List.intercalate_cons_of_ne_nil (List.cons_ne_nil next x)]
        simp only [List.append_assoc]
  induction groups with
  | nil => rfl
  | cons group groups ih =>
    rw [List.forall_mem_cons] at h
    have hrest := ih h.2
    rw [List.map_cons, List.flatten_cons]
    cases groups with
    | nil => rw [List.map_nil, List.intercalate_singleton, List.flatten_nil, List.append_nil]
    | cons next groups =>
      have hne : (next :: groups).flatten ≠ [] := by
        rw [List.flatten_cons]
        exact List.append_ne_nil_of_left_ne_nil (h.2 next List.mem_cons_self) _
      rw [List.intercalate_cons_of_ne_nil (by simp), hrest, happend _ _ h.1 hne]

/-- What the scan makes of the text in one piece. -/
theorem joined_normalCells (cells : List Cell) :
    joined (normalCells cells) = [' '].intercalate (splitWhitespace (joined cells)) := by
  rw [normalCells, joined_intercalate, splitWhitespace_joined, List.map_map]
  congr 1
  exact List.map_congr_left fun pieces _ => joined_cutText pieces

/-- What it makes of the text in parts. -/
theorem spaced_normalCells (cells : List Cell) :
    spaced (normalCells cells) = [' '].intercalate (splitWhitespace (spaced cells)) := by
  have hwords : ((cutWords cells).map cutText).map spaced =
      (cutWords cells).map [' '].intercalate := by
    rw [List.map_map]
    exact List.map_congr_left fun pieces _ => spaced_cutText pieces
  rw [normalCells, spaced_intercalate, hwords, splitWhitespace_spaced]
  exact intercalate_flatten [' '] fun pieces hmem => cutWords_ne_nil hmem

end Words

/-! ## Lower case -/

section Lower
variable (tables : UnicodeTables)

theorem foldSigma_toLowercase (text : List Char) :
    (toLowercase tables text).map foldSigma = text.flatMap (plainLower tables) := by
  have hfrom : ∀ (text before : List Char),
      (toLowercaseFrom tables before text).map foldSigma = text.flatMap (plainLower tables) := by
    intro text
    induction text with
    | nil => exact fun _ => rfl
    | cons c text ih =>
      intro before
      rw [toLowercaseFrom, List.map_append, ih, List.flatMap_cons, plainLower]
      congr 1
      split
      · split <;> rfl
      · rfl
  exact hfrom text []

theorem plainLower_space : plainLower tables ' ' = [' '] := by
  rw [plainLower, if_neg (by decide), tables.lower_space]
  rfl

theorem joined_lowerCells (cells : List Cell) :
    joined (lowerCells tables cells) = (joined cells).flatMap (plainLower tables) := by
  induction cells with
  | nil => rfl
  | cons cell cells ih =>
    rw [lowerCells, List.flatMap_cons, joined_append, ← lowerCells, ih]
    cases cell with
    | none => rfl
    | some c => rw [joined_some, joined_cons_some, List.flatMap_cons]

theorem spaced_lowerCells (cells : List Cell) :
    spaced (lowerCells tables cells) = (spaced cells).flatMap (plainLower tables) := by
  induction cells with
  | nil => rfl
  | cons cell cells ih =>
    have hcons : spaced (cell :: cells) = cell.getD ' ' :: spaced cells := rfl
    rw [lowerCells, List.flatMap_cons, spaced_append, ← lowerCells, ih, hcons, List.flatMap_cons]
    congr 1
    cases cell with
    | none => exact (plainLower_space tables).symm
    | some c => exact spaced_some _

/-- A pattern without sigmas is found in a text when it is found with the sigmas as one. -/
theorem infix_foldSigma {pattern text : List Char} (h : ∀ c ∈ pattern, c ≠ 'σ' ∧ c ≠ 'ς') :
    pattern <:+: text.map foldSigma ↔ pattern <:+: text := by
  have hself : ∀ {c : Char}, c ≠ 'ς' → foldSigma c = c := fun hc => if_neg hc
  have hpattern : pattern.map foldSigma = pattern :=
    (List.map_congr_left fun c hc => hself (h c hc).2).trans (List.map_id pattern)
  constructor
  · intro hin
    obtain ⟨found, hfound, heq⟩ := List.infix_map_iff.mp hin
    have hsame : found = pattern := by
      rw [heq]
      rw [heq] at h
      symm
      apply (List.map_congr_left _).trans (List.map_id found)
      intro c hc
      have hc' := (h (foldSigma c) (List.mem_map_of_mem hc)).1
      by_cases hs : c = 'ς'
      · rw [hs] at hc'
        exact absurd rfl hc'
      · exact hself hs
    rw [← hsame]
    exact hfound
  · intro hin
    rw [← hpattern]
    exact hin.map foldSigma

end Lower

/-! ## A message in parts -/

/-- The texts of a content. -/
def contentTexts : MessageContent → List String
  | .text value => [value]
  | .parts values => values.filterMap ContentPart.text?

/-- A message with one text, and parts that the text is split into. Between the parts there may be
images. -/
structure SplitMessage where
  message : ChatMessage
  text : String
  parts : List ContentPart
  one_text : contentTexts message.content = [text]
  parts_text : String.join (parts.filterMap ContentPart.text?) = text

namespace SplitMessage

variable (split : SplitMessage)

/-- The message with its text in parts. -/
def inParts : ChatMessage := { split.message with content := .parts split.parts }

/-- The pieces of the text. -/
def pieces : List (List Char) := (split.parts.filterMap ContentPart.text?).map String.toList

end SplitMessage

/-- The cells of a message that is as it was. -/
def messageCells (m : ChatMessage) : List Cell := m.content.asText.toList.map some

/-- The cells of all messages. -/
def splitCells (before : List ChatMessage) (split : SplitMessage) (after : List ChatMessage) :
    List Cell :=
  [some '\n'].intercalate
    (before.map messageCells ++ cutText split.pieces :: after.map messageCells)

/-- The patterns that are looked for. -/
def enabledPatterns (config : PromptGuardConfig) : List String :=
  (if config.injectionDetection then injectionPatterns else []) ++
    (if config.jailbreakDetection then jailbreakPatterns else [])

/-- The patterns find a text in parts if they find it in one piece: they do not find it in one
piece, or one of them is in it uncut, or one of them is in it with cuts for some of its spaces. -/
def PatternsKept (patterns : List String) (cells : List Cell) : Prop :=
  (∀ pattern ∈ patterns, ¬ pattern.toList <:+: joined cells) ∨
  (∃ pattern ∈ patterns, pattern.toList.map some <:+: cells) ∨
  ∃ pattern ∈ patterns, ∃ found, found <:+: cells ∧ none ∈ found ∧ spaced found = pattern.toList

/-- Splitting the message does not weaken the guard: what is blocked stays blocked, and what is
reported stays reported, or is blocked. -/
structure Guarded (tables : UnicodeTables) (config : PromptGuardConfig)
    (before : List ChatMessage) (split : SplitMessage) (after : List ChatMessage) : Prop where
  blocked : ∀ reason, check tables (before ++ split.message :: after) config = .blocked reason →
    ∃ reason', check tables (before ++ split.inParts :: after) config = .blocked reason'
  pii : ∀ fields, check tables (before ++ split.message :: after) config = .piiDetected fields →
    check tables (before ++ split.inParts :: after) config = .piiDetected fields ∨
      ∃ reason, check tables (before ++ split.inParts :: after) config = .blocked reason

section Splitting

theorem asText_toList (content : MessageContent) :
    content.asText.toList = [' '].intercalate ((contentTexts content).map String.toList) := by
  cases content with
  | text value =>
    show value.toList = [' '].intercalate [value.toList]
    rw [List.intercalate_singleton]
  | parts values => exact String.toList_intercalate

theorem messagePiiText_eq (content : MessageContent) :
    messagePiiText content = String.join (contentTexts content) := by
  cases content with
  | text value =>
    show value = String.join [value]
    rw [String.join_cons, String.join_nil, String.append_empty]
  | parts values => rfl

theorem findPattern_isSome {patterns : List String} {scan : List Char} :
    (findPattern patterns scan).isSome = true ↔
      ∃ pattern ∈ patterns, pattern.toList <:+: scan := by
  rw [findPattern, List.find?_isSome]
  simp only [decide_eq_true_eq]

/-- A scanned text is blocked by an enabled pattern that it contains. -/
theorem blockReason_isSome {config : PromptGuardConfig} {scan : List Char} :
    (blockReason config scan).isSome = true ↔
      ∃ pattern ∈ enabledPatterns config, pattern.toList <:+: scan := by
  have hlist : ∀ (flag : Bool) (patterns : List String) (message : String → String),
      (if flag then (findPattern patterns scan).map message else none).isSome = true ↔
        ∃ pattern ∈ (if flag then patterns else []), pattern.toList <:+: scan := by
    intro flag patterns message
    cases flag with
    | false => simp
    | true =>
      rw [if_pos rfl, if_pos rfl, Option.isSome_map]
      exact findPattern_isSome
  rw [blockReason, Option.isSome_or, Bool.or_eq_true, detectInjection, detectJailbreak, hlist,
    hlist, enabledPatterns]
  constructor
  · rintro (⟨pattern, hmem, hin⟩ | ⟨pattern, hmem, hin⟩)
    · exact ⟨pattern, List.mem_append_left _ hmem, hin⟩
    · exact ⟨pattern, List.mem_append_right _ hmem, hin⟩
  · rintro ⟨pattern, hmem, hin⟩
    rcases List.mem_append.mp hmem with hmem | hmem
    · exact Or.inl ⟨pattern, hmem, hin⟩
    · exact Or.inr ⟨pattern, hmem, hin⟩

variable {tables : UnicodeTables} {config : PromptGuardConfig}

theorem check_blocked {messages : List ChatMessage} :
    (∃ reason, check tables messages config = .blocked reason) ↔
      ∃ pattern ∈ enabledPatterns config, pattern.toList <:+: scanText tables messages := by
  rw [← blockReason_isSome, check]
  cases blockReason config (scanText tables messages) with
  | some reason => simp
  | none =>
    dsimp only
    split <;> simp

/-- What is not blocked depends on the personal data alone. -/
theorem check_pii {messages messages' : List ChatMessage}
    (hpii : firstPii tables messages = firstPii tables messages') {fields : List String}
    (hcheck : check tables messages config = .piiDetected fields) :
    check tables messages' config = .piiDetected fields ∨
      ∃ reason, check tables messages' config = .blocked reason := by
  rw [check] at hcheck
  cases hblock : blockReason config (scanText tables messages) with
  | some reason =>
    rw [hblock] at hcheck
    cases hcheck
  | none =>
    rw [hblock, hpii] at hcheck
    rw [check]
    cases blockReason config (scanText tables messages') with
    | some reason => exact Or.inr ⟨reason, rfl⟩
    | none => exact Or.inl hcheck

theorem no_sigma {pattern : String} (h : pattern ∈ enabledPatterns config) :
    ∀ c ∈ pattern.toList, c ≠ 'σ' ∧ c ≠ 'ς' := by
  have hall : ((injectionPatterns ++ jailbreakPatterns).all fun pattern =>
      pattern.toList.all fun c => decide (c ≠ 'σ' ∧ c ≠ 'ς')) = true := by decide
  refine List.all_iff_forall_prop.mp (List.all_eq_true.mp hall pattern ?_)
  rcases List.mem_append.mp h with hmem | hmem
  · apply List.mem_append_left
    split at hmem
    · exact hmem
    · exact absurd hmem List.not_mem_nil
  · apply List.mem_append_right
    split at hmem
    · exact hmem
    · exact absurd hmem List.not_mem_nil

variable {before after : List ChatMessage} {split : SplitMessage}

/-- The messages in one piece. -/
theorem joined_splitCells :
    joined (splitCells before split after) =
      "\n".toList.intercalate
        ((before ++ split.message :: after).map fun m => m.content.asText.toList) := by
  have hsplit : joined (cutText split.pieces) = split.message.content.asText.toList := by
    rw [joined_cutText, asText_toList, split.one_text, List.map_singleton,
      List.intercalate_singleton, ← split.parts_text, String.toList_join, SplitMessage.pieces,
      List.flatMap_def]
  have hother : ∀ m, joined (messageCells m) = m.content.asText.toList := fun m => joined_some _
  rw [splitCells, joined_intercalate, List.map_append, List.map_cons, List.map_map, List.map_map,
    hsplit, List.map_append, List.map_cons]
  simp only [Function.comp_def, hother]
  rfl

/-- The messages with one in parts. -/
theorem spaced_splitCells :
    spaced (splitCells before split after) =
      "\n".toList.intercalate
        ((before ++ split.inParts :: after).map fun m => m.content.asText.toList) := by
  have hsplit : spaced (cutText split.pieces) = split.inParts.content.asText.toList := by
    rw [spaced_cutText, asText_toList]
    rfl
  have hother : ∀ m, spaced (messageCells m) = m.content.asText.toList := fun m => spaced_some _
  rw [splitCells, spaced_intercalate, List.map_append, List.map_cons, List.map_map, List.map_map,
    hsplit, List.map_append, List.map_cons]
  simp only [Function.comp_def, hother]
  rfl

/-- The cells that the patterns are looked for in. -/
def scanCells (tables : UnicodeTables) (before : List ChatMessage) (split : SplitMessage)
    (after : List ChatMessage) : List Cell :=
  lowerCells tables (normalCells (splitCells before split after))

theorem infix_scanText {pattern : String} (h : pattern ∈ enabledPatterns config) :
    pattern.toList <:+: scanText tables (before ++ split.message :: after) ↔
      pattern.toList <:+: joined (scanCells tables before split after) := by
  rw [← infix_foldSigma (no_sigma h), scanText, foldSigma_toLowercase, scanCells,
    joined_lowerCells, joined_normalCells, joined_splitCells]
  rfl

theorem infix_scanText_inParts {pattern : String} (h : pattern ∈ enabledPatterns config) :
    pattern.toList <:+: scanText tables (before ++ split.inParts :: after) ↔
      pattern.toList <:+: spaced (scanCells tables before split after) := by
  rw [← infix_foldSigma (no_sigma h), scanText, foldSigma_toLowercase, scanCells,
    spaced_lowerCells, spaced_normalCells, spaced_splitCells]
  rfl

/-- A pattern that is found with spaces for the cuts is there uncut, or has cuts for spaces. -/
theorem infix_spaced {pattern : List Char} {cells : List Cell} :
    pattern <:+: spaced cells ↔ pattern.map some <:+: cells ∨
      ∃ found, found <:+: cells ∧ none ∈ found ∧ spaced found = pattern := by
  rw [spaced, List.infix_map_iff]
  constructor
  · rintro ⟨found, hfound, rfl⟩
    by_cases hcut : none ∈ found
    · exact Or.inr ⟨found, hfound, hcut, rfl⟩
    · left
      have huncut : (found.map (·.getD ' ')).map some = found := by
        rw [List.map_map]
        apply (List.map_congr_left _).trans (List.map_id found)
        intro cell hcell
        cases cell with
        | none => exact absurd hcell hcut
        | some c => rfl
      rw [huncut]
      exact hfound
  · rintro (huncut | ⟨found, hfound, -, rfl⟩)
    · exact ⟨_, huncut, (spaced_some pattern).symm⟩
    · exact ⟨found, hfound, rfl⟩

/-- The personal data of a message do not depend on its parts. -/
theorem firstPii_inParts :
    firstPii tables (before ++ split.message :: after) =
      firstPii tables (before ++ split.inParts :: after) := by
  have htext : messagePiiText split.message.content = messagePiiText split.inParts.content := by
    rw [messagePiiText_eq, split.one_text, String.join_cons, String.join_nil,
      String.append_empty, ← split.parts_text]
    rfl
  rw [firstPii, firstPii, List.findSome?_append, List.findSome?_append, List.findSome?_cons,
    List.findSome?_cons, htext]

/-- Splitting a message keeps the guard exactly where the patterns are kept. Personal data are
always found. -/
theorem guarded_iff (tables : UnicodeTables) (config : PromptGuardConfig)
    (before : List ChatMessage) (split : SplitMessage) (after : List ChatMessage) :
    Guarded tables config before split after ↔
      PatternsKept (enabledPatterns config) (scanCells tables before split after) := by
  -- the parts are scanned with a space between them
  have hparts : (∃ reason, check tables (before ++ split.inParts :: after) config =
        .blocked reason) ↔
      (∃ pattern ∈ enabledPatterns config,
        pattern.toList.map some <:+: scanCells tables before split after) ∨
      ∃ pattern ∈ enabledPatterns config, ∃ found,
        found <:+: scanCells tables before split after ∧ none ∈ found ∧
          spaced found = pattern.toList := by
    rw [check_blocked]
    constructor
    · rintro ⟨pattern, hmem, hin⟩
      rw [infix_scanText_inParts hmem, infix_spaced] at hin
      exact hin.imp (fun h => ⟨pattern, hmem, h⟩) fun h => ⟨pattern, hmem, h⟩
    · rintro (⟨pattern, hmem, hin⟩ | ⟨pattern, hmem, hin⟩)
      · exact ⟨pattern, hmem, (infix_scanText_inParts hmem).mpr (infix_spaced.mpr (Or.inl hin))⟩
      · exact ⟨pattern, hmem, (infix_scanText_inParts hmem).mpr (infix_spaced.mpr (Or.inr hin))⟩
  -- one text is scanned without
  have hwhole : (∃ reason, check tables (before ++ split.message :: after) config =
        .blocked reason) ↔
      ∃ pattern ∈ enabledPatterns config,
        pattern.toList <:+: joined (scanCells tables before split after) := by
    rw [check_blocked]
    constructor
    · rintro ⟨pattern, hmem, hin⟩
      exact ⟨pattern, hmem, (infix_scanText hmem).mp hin⟩
    · rintro ⟨pattern, hmem, hin⟩
      exact ⟨pattern, hmem, (infix_scanText hmem).mpr hin⟩
  constructor
  · intro hguarded
    by_cases hblocked : ∃ reason, check tables (before ++ split.message :: after) config =
        .blocked reason
    · obtain ⟨reason, hreason⟩ := hblocked
      exact Or.inr (hparts.mp (hguarded.blocked reason hreason))
    · left
      intro pattern hmem hin
      exact hblocked (hwhole.mpr ⟨pattern, hmem, hin⟩)
  · intro hkept
    refine ⟨?_, fun fields => check_pii firstPii_inParts⟩
    intro reason hreason
    rcases hkept with hnone | hsome
    · obtain ⟨pattern, hmem, hin⟩ := hwhole.mp ⟨reason, hreason⟩
      exact absurd hin (hnone pattern hmem)
    · exact hparts.mpr hsome

/-- The tables for ASCII. -/
def asciiTables : UnicodeTables where
  lower c := [c.toLower]
  cased := Char.isAlpha
  caseIgnorable _ := false
  alphanumeric := Char.isAlphanum
  lower_space := rfl

/-- The word of a pattern, split in its middle. -/
def splitWord : SplitMessage where
  message := ⟨.user, .text "jailbreak", none, none, none⟩
  text := "jailbreak"
  parts := [.text "jail", .text "break"]
  one_text := rfl
  parts_text := by decide

/-- `jailbreak` is blocked, and in the parts `jail` and `break` it is clean. -/
theorem split_word_clean :
    ¬ ∀ (tables : UnicodeTables) (config : PromptGuardConfig) (before : List ChatMessage)
      (split : SplitMessage) (after : List ChatMessage),
      Guarded tables config before split after := by
  intro hall
  have hguarded := (hall asciiTables .default [] splitWord []).blocked
    "jailbreak pattern detected: 'jailbreak'" (by decide)
  obtain ⟨reason, hreason⟩ := hguarded
  have hclean : check asciiTables [splitWord.inParts] .default = .clean := by decide
  rw [List.nil_append, hclean] at hreason
  cases hreason

end Splitting

end Solvela.Chat

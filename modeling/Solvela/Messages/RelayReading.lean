import Solvela.Messages.Relay
import Solvela.Signer.ChannelParity

/-!
# Reading the relayed body again

The gateway has read the fields that it quotes, guards and streams by from the body that it
received. From the body that it relays it would read the same: writing a `Value` leaves texts as
they are, keeps the members that a reader admits once, and makes nothing deeper.

* `structFields_rewritten`, `readsWhole_rewritten`, members and values are there again;
* `ReadsAgain`, with one lemma for each reader, up to `readsAgain_inboundMessages`;
* `request_relayed`, the whole request.
-/

namespace Solvela.Messages

open Solvela.ChannelLedger (u64Max)
open Solvela.Client (isDigits digitsValue)
open Solvela.Lib (mapM_map_some)
open Solvela.Lib.SortedMap (insertEntry entryOf mapValues Sorted entryOf_insertEntry)
open Solvela.Protocol
open Solvela.Tracker (digitsValue_toString isDigits_toString)
open Solvela.Signer (JsonValue fieldOf fieldOf_none keysOk optionField structFields stringField
  unsignedField)

/-! ## Members -/

/-- A member of the relayed body is the entry of its key. -/
theorem fieldOf_entriesJson (key : String) (entries : List (String × Doc String)) :
    fieldOf (Doc.entriesJson entries) key = (entryOf key entries).map Doc.toJson := by
  induction entries with
  | nil => rfl
  | cons e entries ih =>
    show fieldOf ((e.1, e.2.toJson) :: Doc.entriesJson entries) key = _
    rw [fieldOf, entryOf, ih]
    by_cases hkey : e.1 = key
    · rw [if_pos hkey, if_pos hkey]
      rfl
    · rw [if_neg hkey, if_neg hkey]

/-- A member of changed fields is the changed member. -/
theorem fieldOf_map (change : JsonValue → JsonValue) (key : String)
    (fields : List (String × JsonValue)) :
    fieldOf (fields.map (Prod.map id change)) key = (fieldOf fields key).map change := by
  induction fields with
  | nil => rfl
  | cons field fields ih =>
    rw [List.map_cons, fieldOf]
    show (if field.1 = key then some (change field.2) else _) = _
    rw [ih, fieldOf]
    by_cases hkey : field.1 = key
    · rw [if_pos hkey, if_pos hkey]
      rfl
    · rw [if_neg hkey, if_neg hkey]

/-- A member that stands at most once is found in the object as it is in the list of members. -/
theorem entryOf_entriesInto {N : Type} (number : String → N) {key : String} :
    ∀ {fields : List (String × JsonValue)} {entries : List (String × Doc N)},
      (fields.map Prod.fst).count key ≤ 1 →
        entryOf key (entriesInto number entries fields) =
          match fieldOf fields key with
          | some value => some (docOf number value)
          | none => entryOf key entries := by
  intro fields
  induction fields with
  | nil => intro entries _; rfl
  | cons field fields ih =>
    intro entries hcount
    rw [List.map_cons, List.count_cons] at hcount
    show entryOf key (entriesInto number (insertEntry field.1 (docOf number field.2) entries)
      fields) = _
    rw [ih (by omega), fieldOf]
    by_cases hkey : field.1 = key
    · -- the key does not stand again
      have hnone : fieldOf fields key = none := by
        rw [if_pos (beq_iff_eq.mpr hkey)] at hcount
        apply fieldOf_none
        apply List.count_eq_zero.mp
        omega
      rw [hnone, if_pos hkey]
      dsimp only
      rw [entryOf_insertEntry, if_pos hkey]
    · rw [if_neg hkey]
      cases fieldOf fields key with
      | some value => rfl
      | none =>
        dsimp only
        rw [entryOf_insertEntry, if_neg hkey]

/-! ## Values, written again -/

section Rewritten

variable (reader : NumberReader)

/-- A value as a `Value` is written. -/
def rewritten (value : JsonValue) : JsonValue := (docOf reader.written value).toJson

/-- An array is written back element by element. -/
theorem rewritten_arr (values : List JsonValue) :
    rewritten reader (.arr values) = .arr (values.map (rewritten reader)) := by
  show JsonValue.arr (Doc.elementsJson (elementsDoc reader.written values)) = _
  congr 1
  induction values with
  | nil => rfl
  | cons value values ih =>
    rw [elementsDoc, Doc.elementsJson, ih]
    rfl

theorem rewritten_obj (fields : List (String × JsonValue)) :
    rewritten reader (.obj fields) =
      .obj (Doc.entriesJson (entriesInto reader.written [] fields)) := rfl

variable {reader}

/-- The relayed body has each key once. -/
theorem keysOk_entriesJson {known : List String} {entries : List (String × Doc String)}
    (h : Sorted entries) : keysOk false known ((Doc.entriesJson entries).map Prod.fst) = true := by
  have hkeys : (Doc.entriesJson entries).map Prod.fst = entries.map Prod.fst := by
    rw [Doc.entriesJson_eq, mapValues, List.map_map]
    rfl
  rw [hkeys, keysOk, Bool.and_eq_true]
  refine ⟨?_, rfl⟩
  rw [List.all_eq_true]
  intro key _
  exact decide_eq_true (h.count_le_one key)

/-- A body that is read has each known key at most once. -/
theorem count_le_one_of_keysOk {known keys : List String} (h : keysOk false known keys = true)
    {key : String} (hkey : key ∈ known) : keys.count key ≤ 1 := by
  rw [keysOk, Bool.and_eq_true, List.all_eq_true] at h
  exact of_decide_eq_true (h.1 key hkey)

/-- A member that stands at most once is there again, written again. -/
theorem fieldOf_rewritten {fields : List (String × JsonValue)} {key : String}
    (hcount : (fields.map Prod.fst).count key ≤ 1) :
    fieldOf (Doc.entriesJson (entriesInto reader.written [] fields)) key =
      (fieldOf fields key).map (rewritten reader) := by
  rw [fieldOf_entriesJson, entryOf_entriesInto reader.written hcount]
  cases fieldOf fields key <;> rfl

variable (reader) in
/-- The fields of a struct are there again, written again. -/
theorem structFields_rewritten {known : List String} {value : JsonValue}
    {get : String → Option JsonValue} (h : structFields false known value = some get) :
    ∃ getAgain, structFields false known (rewritten reader value) = some getAgain ∧
      ∀ key ∈ known, getAgain key = (get key).map (rewritten reader) := by
  unfold structFields at h
  split at h
  · rename_i fields
    split at h
    · rename_i hkeys
      cases h
      rw [rewritten_obj, structFields,
        if_pos (keysOk_entriesJson (canonical_docOf reader.written (.obj fields)).1)]
      refine ⟨_, rfl, ?_⟩
      intro key hkey
      exact fieldOf_rewritten (count_le_one_of_keysOk hkeys hkey)
    · cases h
  · rename_i values
    split at h
    · rename_i hlen
      cases h
      rw [rewritten_arr, structFields, List.length_map, if_pos hlen]
      refine ⟨_, rfl, ?_⟩
      intro key _
      rw [List.zip_map_right]
      exact fieldOf_map (rewritten reader) key (known.zip values)
    · cases h
  · cases h

/-! ## Reading whole -/

theorem elementsDepth_le_iff {values : List JsonValue} {n : ℕ} :
    elementsDepth values ≤ n ↔ ∀ value ∈ values, depth value ≤ n := by
  induction values with
  | nil => simp [elementsDepth]
  | cons value values ih => rw [elementsDepth, Nat.max_le, ih, List.forall_mem_cons]

theorem fieldsDepth_le_iff {fields : List (String × JsonValue)} {n : ℕ} :
    fieldsDepth fields ≤ n ↔ ∀ field ∈ fields, depth field.2 ≤ n := by
  induction fields with
  | nil => simp [fieldsDepth]
  | cons field fields ih =>
    show max (depth field.2) (fieldsDepth fields) ≤ n ↔ _
    rw [Nat.max_le, ih, List.forall_mem_cons]

/-- The numbers of an array. -/
theorem mem_elementsTokens {values : List JsonValue} {token : String} :
    token ∈ elementsTokens values ↔ ∃ value ∈ values, token ∈ numberTokens value := by
  induction values with
  | nil => simp [elementsTokens]
  | cons value values ih =>
    rw [elementsTokens, List.mem_append, ih]
    simp only [List.mem_cons, exists_eq_or_imp]

/-- The numbers of an object. -/
theorem mem_fieldsTokens {fields : List (String × JsonValue)} {token : String} :
    token ∈ fieldsTokens fields ↔ ∃ field ∈ fields, token ∈ numberTokens field.2 := by
  induction fields with
  | nil => simp [fieldsTokens]
  | cons field fields ih =>
    show token ∈ numberTokens field.2 ++ fieldsTokens fields ↔ _
    rw [List.mem_append, ih]
    simp only [List.mem_cons, exists_eq_or_imp]

/-- A member of a written object was a member, and is written again. -/
theorem exists_of_mem_rewritten {fields : List (String × JsonValue)} {field : String × JsonValue}
    (h : field ∈ Doc.entriesJson (entriesInto reader.written [] fields)) :
    ∃ field' ∈ fields, field.2 = rewritten reader field'.2 := by
  rw [Doc.entriesJson_eq] at h
  obtain ⟨e, he, heq⟩ := List.mem_map.mp h
  rcases mem_entriesInto he with he | ⟨field', hfield', he⟩
  · cases he
  · rw [← heq, he]
    exact ⟨field', hfield', rfl⟩

/-- Writing back does not nest deeper. -/
theorem depth_rewritten (value : JsonValue) : depth (rewritten reader value) ≤ depth value := by
  induction value using json_induction with
  | null => exact le_rfl
  | bool b => exact le_rfl
  | num token => exact le_rfl
  | str s => exact le_rfl
  | arr values ih =>
    rw [rewritten_arr, depth, depth]
    apply Nat.add_le_add_right
    apply elementsDepth_le_iff.mpr
    intro value hvalue
    obtain ⟨value', hvalue', heq⟩ := List.mem_map.mp hvalue
    rw [← heq]
    exact (ih value' hvalue').trans (elementsDepth_le_iff.mp le_rfl value' hvalue')
  | obj fields ih =>
    rw [rewritten_obj, depth, depth]
    apply Nat.add_le_add_right
    apply fieldsDepth_le_iff.mpr
    intro field hfield
    obtain ⟨field', hfield', heq⟩ := exists_of_mem_rewritten hfield
    rw [heq]
    exact (ih field' hfield').trans (fieldsDepth_le_iff.mp le_rfl field' hfield')

/-- A number that is written was read. -/
theorem numberTokens_rewritten (value : JsonValue) :
    ∀ token ∈ numberTokens (rewritten reader value),
      ∃ token' ∈ numberTokens value, token = reader.written token' := by
  induction value using json_induction with
  | null => exact fun _ h => nomatch h
  | bool b => exact fun _ h => nomatch h
  | str s => exact fun _ h => nomatch h
  | num token' =>
    intro token h
    exact ⟨token', List.mem_singleton_self _, List.mem_singleton.mp h⟩
  | arr values ih =>
    intro token h
    rw [rewritten_arr] at h
    obtain ⟨value, hvalue, htoken⟩ := mem_elementsTokens.mp h
    obtain ⟨value', hvalue', heq⟩ := List.mem_map.mp hvalue
    rw [← heq] at htoken
    obtain ⟨token', htoken', hwritten⟩ := ih value' hvalue' token htoken
    exact ⟨token', mem_elementsTokens.mpr ⟨value', hvalue', htoken'⟩, hwritten⟩
  | obj fields ih =>
    intro token h
    rw [rewritten_obj] at h
    obtain ⟨field, hfield, htoken⟩ := mem_fieldsTokens.mp h
    obtain ⟨field', hfield', heq⟩ := exists_of_mem_rewritten hfield
    rw [heq] at htoken
    obtain ⟨token', htoken', hwritten⟩ := ih field' hfield' token htoken
    exact ⟨token', mem_fieldsTokens.mpr ⟨field', hfield', htoken'⟩, hwritten⟩

/-- A number that is read as a float can be written. -/
theorem NumberReader.text_of_float {token : String} (h : (reader.float token).isSome = true) :
    (reader.text token).isSome = true := by
  unfold NumberReader.text
  split
  · split
    · rfl
    · exact h
  · split
    · rfl
    · exact h

/-- So can every `u64`. -/
theorem NumberReader.text_toString {n : ℕ} (h : n ≤ u64Max) :
    (reader.text (toString n)).isSome = true := by
  have hdigits := isDigits_toString n
  have hvalue := digitsValue_toString n
  unfold NumberReader.text
  split
  · rename_i digits heq
    rw [heq] at hdigits
    simp [isDigits] at hdigits
  · rw [hdigits, hvalue, decide_eq_true h]
    rfl

/-- So can every negative `i64`. -/
theorem NumberReader.text_toString_neg {n : ℕ} (hpos : 0 < n) (h : n ≤ 2 ^ 63) :
    (reader.text (toString (-(n : ℤ)))).isSome = true := by
  have hlist : (toString (-(n : ℤ))).toList = '-' :: (toString n).toList := by
    cases n with
    | zero => exact absurd hpos (Nat.lt_irrefl 0)
    | succ m =>
      show ("-" ++ toString (m + 1)).toList = _
      rw [String.toList_append]
      rfl
  unfold NumberReader.text
  rw [hlist]
  show (if _ && _ && _ then _ else _ : Option String).isSome = true
  rw [isDigits_toString, digitsValue_toString, decide_eq_true hpos, decide_eq_true h]
  rfl

/-- A number that was read is read again from what it is written as. -/
theorem NumberReader.text_again {token text : String} (h : reader.text token = some text) :
    (reader.text text).isSome = true := by
  unfold NumberReader.text at h
  split at h
  · rename_i digits _
    split at h
    · rename_i hcond
      simp only [Bool.and_eq_true, decide_eq_true_eq] at hcond
      rw [← Option.some.inj h]
      exact text_toString_neg hcond.1.2 hcond.2
    · exact text_of_float (reader.float_again h)
  · split at h
    · rename_i hcond
      simp only [Bool.and_eq_true, decide_eq_true_eq] at hcond
      rw [← Option.some.inj h]
      exact text_toString hcond.2
    · exact text_of_float (reader.float_again h)

/-- What is read whole is read whole after it was written back. -/
theorem readsWhole_rewritten {level : ℕ} {value : JsonValue}
    (h : readsWhole reader level value = true) :
    readsWhole reader level (rewritten reader value) = true := by
  rw [readsWhole, Bool.and_eq_true, decide_eq_true_eq, List.all_eq_true] at h ⊢
  constructor
  · have hdepth : depth (rewritten reader value) ≤ depth value := depth_rewritten value
    omega
  · intro token htoken
    obtain ⟨token', htoken', heq⟩ := numberTokens_rewritten value token htoken
    obtain ⟨text, htext⟩ := Option.isSome_iff_exists.mp (h.2 token' htoken')
    rw [heq, NumberReader.written, htext]
    exact NumberReader.text_again htext

/-! ## Readers -/

/-- The reader reads a value alike after it was written again. -/
def ReadsAgain (reader : NumberReader) {α : Type} (read : JsonValue → Option α) : Prop :=
  ∀ value a, read value = some a → read (rewritten reader value) = some a

/-- The reader reads something after the value was written again. -/
def ReadsToo (reader : NumberReader) {α : Type} (read : JsonValue → Option α) : Prop :=
  ∀ value a, read value = some a → ∃ a', read (rewritten reader value) = some a'

/-- A text is read again as it was. -/
theorem readsAgain_string : ReadsAgain reader stringOfJson := by
  intro value s h
  unfold stringOfJson stringField at h
  split at h
  · rename_i hvalue
    cases hvalue
    exact h
  · cases h

/-- An integer of up to 64 bits is written as it was read. -/
theorem readsAgain_unsigned {max : ℕ} (hmax : max ≤ u64Max) :
    ReadsAgain reader fun value => unsignedField max (some value) := by
  intro value n h
  dsimp only [unsignedField] at h
  split at h
  · rename_i token hvalue
    cases hvalue
    split at h
    · rename_i hcond
      have htext : reader.text token = some (toString (digitsValue token.toList)) := by
        unfold NumberReader.text
        split
        · rename_i digits heq
          rw [heq] at hcond
          simp [isDigits] at hcond
        · rw [hcond.1, decide_eq_true (hcond.2.trans hmax)]
          rfl
      show unsignedField max (some (.num (reader.written token))) = some n
      rw [NumberReader.written, htext, Option.getD_some, ← Option.some.inj h]
      exact Signer.unsignedField_toString hcond.2
    · cases h
  · cases h

/-- So is an array whose elements are. -/
theorem readsAgain_arr {α β : Type} {read : JsonValue → Option α} (h : ReadsAgain reader read)
    {values : List JsonValue} {as : List α} (hread : values.mapM read = some as) (f : List α → β) :
    ∃ values', rewritten reader (.arr values) = .arr values' ∧
      (values'.mapM read).map f = some (f as) := by
  refine ⟨_, rewritten_arr reader values, ?_⟩
  rw [mapM_map_some h hread]
  rfl

/-- A required string of a struct. -/
theorem stringField_again {field field' : Option JsonValue} {s : String}
    (h : stringField field = some s) (hfield : field' = field.map (rewritten reader)) :
    stringField field' = some s := by
  cases field with
  | none => cases h
  | some value =>
    rw [hfield]
    exact readsAgain_string value s h

/-- So is a block of the system prompt. -/
theorem readsAgain_systemTextBlock : ReadsAgain reader systemTextBlockOfJson := by
  intro value block h
  obtain ⟨get, hget, h⟩ := Option.bind_eq_some_iff.mp h
  obtain ⟨text, htext, h⟩ := Option.bind_eq_some_iff.mp h
  obtain ⟨getAgain, hgetAgain, hfields⟩ := structFields_rewritten reader hget
  unfold systemTextBlockOfJson
  rw [hgetAgain]
  show ((stringField (getAgain "text")).bind fun text => some (⟨text⟩ : AnthropicSystemTextBlock)) = _
  rw [stringField_again htext (hfields "text" (by decide))]
  exact h

/-- So is the system prompt. -/
theorem readsAgain_system : ReadsAgain reader systemOfJson := by
  intro value system h
  unfold systemOfJson at h
  split at h
  · exact h
  · obtain ⟨blocks, hblocks, h⟩ := Option.map_eq_some_iff.mp h
    obtain ⟨values', hvalues', hread⟩ := readsAgain_arr readsAgain_systemTextBlock hblocks AnthropicSystem.blocks
    rw [hvalues', ← h]
    exact hread
  · cases h

/-- So is a required member. -/
theorem ReadsAgain.bind {α : Type} {read : JsonValue → Option α} (h : ReadsAgain reader read)
    {field : Option JsonValue} {a : α} (hread : field.bind read = some a) :
    (field.map (rewritten reader)).bind read = some a := by
  cases field with
  | none => cases hread
  | some value => exact h value a hread

/-- So is the tag of a block. -/
theorem readsAgain_blockTag : ReadsAgain reader blockTag := by
  intro value tag h
  cases value with
  | str s => exact h
  | num token =>
    obtain ⟨n, hn, h⟩ := Option.map_eq_some_iff.mp h
    have hagain : unsignedField u64Max (some (rewritten reader (.num token))) = some n :=
      readsAgain_unsigned le_rfl (.num token) n hn
    show (unsignedField u64Max (some (rewritten reader (.num token)))).map _ = _
    rw [hagain, ← h]
    rfl
  | null => cases h
  | bool b => cases h
  | arr values => cases h
  | obj fields => cases h

/-- So is a block. -/
theorem readsAgain_contentBlock : ReadsAgain reader contentBlockOfJson := by
  intro value block h
  cases value with
  | obj fields =>
    have hsorted : Sorted (entriesInto reader.written [] fields) :=
      (canonical_docOf reader.written (.obj fields)).1
    rw [rewritten_obj]
    dsimp only [contentBlockOfJson] at h ⊢
    rw [if_pos (keysOk_entriesJson hsorted), if_pos (keysOk_entriesJson hsorted)]
    -- first the tag is found once, then it says which members to read
    split at h
    · rename_i htype
      rw [fieldOf_rewritten (count_le_one_of_keysOk htype (List.mem_singleton_self _))]
      split at h
      · rename_i htag
        rw [readsAgain_blockTag.bind htag]
        dsimp only
        split at h
        · rename_i htext
          rw [fieldOf_rewritten (count_le_one_of_keysOk htext (List.mem_singleton_self _))]
          obtain ⟨s, hs, h⟩ := Option.map_eq_some_iff.mp h
          rw [stringField_again hs rfl, ← h]
          rfl
        · cases h
      · rename_i htag
        rw [readsAgain_blockTag.bind htag]
        exact h
      · rename_i htag
        rw [readsAgain_blockTag.bind htag]
        exact h
      · cases h
    · cases h
  -- an array begins with its tag, and nothing else of it is read
  | arr values =>
    rw [rewritten_arr]
    cases values with
    | nil => cases h
    | cons tag rest =>
      rw [List.map_cons]
      dsimp only [contentBlockOfJson] at h ⊢
      split at h
      · rename_i s htag
        rw [readsAgain_blockTag tag _ htag]
        exact h
      · rename_i htag
        rw [readsAgain_blockTag tag _ htag]
        exact h
      · rename_i htag
        rw [readsAgain_blockTag tag _ htag]
        exact h
      · cases h
  | null => cases h
  | bool b => cases h
  | num token => cases h
  | str s => cases h

/-- So is the content of a message. -/
theorem readsAgain_content : ReadsAgain reader contentOfJson := by
  intro value content h
  cases value with
  | str s => exact h
  | arr values =>
    obtain ⟨blocks, hblocks, h⟩ := Option.map_eq_some_iff.mp h
    obtain ⟨values', hvalues', hread⟩ :=
      readsAgain_arr readsAgain_contentBlock hblocks AnthropicInboundContent.blocks
    rw [hvalues', ← h]
    exact hread
  | null => cases h
  | bool b => cases h
  | num token => cases h
  | obj fields => cases h

/-- What is read whole first is read whole again. -/
theorem ReadsAgain.whole {α : Type} {read : JsonValue → Option α} (h : ReadsAgain reader read)
    (level : ℕ) : ReadsAgain reader fun value => (valueOfJson reader level value).bind read := by
  intro value a hread
  obtain ⟨value', hvalue, hread⟩ := Option.bind_eq_some_iff.mp hread
  unfold valueOfJson at hvalue
  split at hvalue
  · rename_i hwhole
    cases hvalue
    dsimp only
    rw [valueOfJson, if_pos (readsWhole_rewritten hwhole)]
    exact h value a hread
  · cases hvalue

/-- So is a message. -/
theorem readsAgain_inboundMessage : ReadsAgain reader (inboundMessageOfJson reader) := by
  intro value message h
  obtain ⟨get, hget, h⟩ := Option.bind_eq_some_iff.mp h
  obtain ⟨role, hrole, h⟩ := Option.bind_eq_some_iff.mp h
  obtain ⟨contentValue, hvalue, h⟩ := Option.bind_eq_some_iff.mp h
  obtain ⟨content, hcontent, h⟩ := Option.bind_eq_some_iff.mp h
  obtain ⟨getAgain, hgetAgain, hfields⟩ := structFields_rewritten reader hget
  have hrole' : stringField (getAgain "role") = some role :=
    stringField_again hrole (hfields "role" (by decide))
  have hvalue' : getAgain "content" = some (rewritten reader contentValue) := by
    rw [hfields "content" (by decide), hvalue]
    rfl
  have hcontent' : (valueOfJson reader 3 (rewritten reader contentValue)).bind contentOfJson =
      some content :=
    readsAgain_content.whole 3 contentValue content hcontent
  unfold inboundMessageOfJson
  simp only [hgetAgain, hrole', hvalue', hcontent', Option.bind_eq_bind, Option.bind_some]
  exact h

/-- So are the messages. -/
theorem readsAgain_inboundMessages : ReadsAgain reader (inboundMessagesOfJson reader) := by
  intro value messages h
  cases value with
  | arr values =>
    rw [rewritten_arr]
    exact mapM_map_some readsAgain_inboundMessage h
  | null => cases h
  | bool b => cases h
  | num token => cases h
  | str s => cases h
  | obj fields => cases h

/-- So are the stop sequences. -/
theorem readsAgain_strings : ReadsAgain reader stringsOfJson := by
  intro value strings h
  cases value with
  | arr values =>
    rw [rewritten_arr]
    exact mapM_map_some readsAgain_string h
  | null => cases h
  | bool b => cases h
  | num token => cases h
  | str s => cases h
  | obj fields => cases h

theorem optionField_of_ne_null {α : Type} {read : JsonValue → Option α} {value : JsonValue}
    (h : value ≠ .null) : optionField read (some value) = (read value).map some := by
  unfold optionField
  split
  · rename_i heq
    cases heq
  · rename_i heq
    cases heq
    exact absurd rfl h
  · rename_i heq
    cases heq
    rfl

/-- Only `null` is written back as `null`. -/
theorem rewritten_ne_null {value : JsonValue} (h : value ≠ .null) :
    rewritten reader value ≠ .null := by
  cases value with
  | null => exact absurd rfl h
  | bool b => exact fun hnull => nomatch hnull
  | num token => exact fun hnull => nomatch hnull
  | str s => exact fun hnull => nomatch hnull
  | arr values => exact fun hnull => nomatch hnull
  | obj fields => exact fun hnull => nomatch hnull

/-- What the rewriting does to an optional field whose reader may read another value. -/
theorem optionField_again {α : Type} {read : JsonValue → Option α} (related : α → α → Prop)
    (h : ∀ value a, read value = some a →
      ∃ a', read (rewritten reader value) = some a' ∧ related a a')
    {field : Option JsonValue} {a : Option α} (hread : optionField read field = some a) :
    ∃ a', optionField read (field.map (rewritten reader)) = some a' ∧ Option.Rel related a a' := by
  cases field with
  | none =>
    cases hread
    exact ⟨none, rfl, Option.Rel.none⟩
  | some value =>
    by_cases hnull : value = .null
    · subst hnull
      cases hread
      exact ⟨none, rfl, Option.Rel.none⟩
    · rw [optionField_of_ne_null hnull] at hread
      obtain ⟨x, hx, hread⟩ := Option.map_eq_some_iff.mp hread
      obtain ⟨x', hx', hrel⟩ := h value x hx
      rw [Option.map_some, optionField_of_ne_null (rewritten_ne_null hnull), hx', ← hread]
      exact ⟨some x', rfl, Option.Rel.some hrel⟩

/-- An optional member is read again as it was. -/
theorem ReadsAgain.option {α : Type} {read : JsonValue → Option α} (h : ReadsAgain reader read)
    {field : Option JsonValue} {a : Option α} (hread : optionField read field = some a) :
    optionField read (field.map (rewritten reader)) = some a := by
  obtain ⟨a', ha', hrel⟩ := optionField_again Eq
    (fun value x hx => ⟨x, h value x hx, rfl⟩) hread
  rw [ha']
  cases hrel with
  | none => rfl
  | some heq => rw [heq]

/-- So is a flag. -/
theorem boolField_again {field : Option JsonValue} {b : Bool} (h : boolField field = some b) :
    boolField (field.map (rewritten reader)) = some b := by
  unfold boolField at h
  split at h
  · exact h
  · exact h
  · cases h

/-- An optional member that is there is still there. -/
theorem ReadsToo.option {α : Type} {read : JsonValue → Option α} (h : ReadsToo reader read)
    {field : Option JsonValue} {a : Option α} (hread : optionField read field = some a) :
    ∃ a', optionField read (field.map (rewritten reader)) = some a' ∧ a'.isSome = a.isSome := by
  have hrel : ∀ value x, read value = some x →
      ∃ x', read (rewritten reader value) = some x' ∧ True := by
    intro value x hx
    obtain ⟨x', hx'⟩ := h value x hx
    exact ⟨x', hx', trivial⟩
  obtain ⟨a', ha', hrel⟩ := optionField_again (fun _ _ => True) hrel hread
  refine ⟨a', ha', ?_⟩
  cases hrel with
  | none => rfl
  | some _ => rfl

/-- A number is still a number, if not the same one. -/
theorem readsToo_f32 : ReadsToo reader (f32OfJson reader) := by
  intro value x h
  cases value with
  | num token =>
    dsimp only [f32OfJson] at h
    split at h
    · rename_i hsome
      obtain ⟨text, htext⟩ := Option.isSome_iff_exists.mp hsome
      show ∃ x', f32OfJson reader (.num (reader.written token)) = some x'
      rw [NumberReader.written, htext, Option.getD_some, f32OfJson,
        if_pos (NumberReader.text_again htext)]
      exact ⟨_, rfl⟩
    · cases h
  | null => cases h
  | bool b => cases h
  | str s => cases h
  | arr values => cases h
  | obj fields => cases h

/-- Any value can still be read. -/
theorem readsToo_value (level : ℕ) : ReadsToo reader (valueOfJson reader level) := by
  intro value value' h
  unfold valueOfJson at h ⊢
  split at h
  · rename_i hwhole
    rw [if_pos (readsWhole_rewritten hwhole)]
    exact ⟨_, rfl⟩
  · cases h

end Rewritten

/-! ## The relayed body -/

/-- What is read of the relayed body is what was read of the body that came, but for the model:
the request, as far as the guard, the quote and the choice to stream read it, and the members that
the estimate counts. -/
structure ReadAlike (reader : NumberReader) (model : String) (body relayed : JsonValue) :
    Prop where
  request : ∀ req, requestOfJson reader body = some req →
    ∃ req', requestOfJson reader relayed = some req' ∧ req'.model = model ∧
      req'.maxTokens = req.maxTokens ∧ req'.system = req.system ∧
      req'.messages = req.messages ∧ req'.stream = req.stream ∧
      req'.tools.isSome = req.tools.isSome ∧ req'.toolChoice.isSome = req.toolChoice.isSome
  members : ∀ key ∈ ["system", "messages", "tools"],
    getMember key (docOf id relayed) = getMember key (docOf reader.written body)

/-- The relayed body is the body that came with the upstream model. -/
def RelaysBody (reader : NumberReader) (model : String) (body : JsonValue) : Prop :=
  ∃ relayed, rewriteRelayedModel reader body model = .ok relayed ∧
    docOf tokenValue relayed = withModel model (docOf tokenValue body) ∧
    ReadAlike reader model body relayed

section Relayed

variable {reader : NumberReader} {model : String} {fields : List (String × JsonValue)}

/-- The members of a relayed body. -/
def relayedFields (reader : NumberReader) (model : String) (fields : List (String × JsonValue)) :
    List (String × JsonValue) :=
  Doc.entriesJson (insertEntry "model" (.str model) (entriesInto reader.written [] fields))

theorem relayed_obj :
    (withModel model (docOf reader.written (.obj fields))).toJson =
      .obj (relayedFields reader model fields) := rfl

/-- A member of the relayed body: the new model, or what was there. -/
theorem fieldOf_relayedFields {key : String} (hcount : (fields.map Prod.fst).count key ≤ 1) :
    fieldOf (relayedFields reader model fields) key =
      if "model" = key then some (.str model) else (fieldOf fields key).map (rewritten reader) := by
  rw [relayedFields, fieldOf_entriesJson, entryOf_insertEntry]
  by_cases hkey : "model" = key
  · rw [if_pos hkey, if_pos hkey]
    rfl
  · rw [if_neg hkey, if_neg hkey, ← fieldOf_entriesJson]
    exact fieldOf_rewritten hcount

/-- The relayed members are sorted. -/
theorem sorted_relayed :
    Sorted (insertEntry "model" (.str model) (entriesInto reader.written [] fields)) :=
  Sorted.insertEntry (canonical_docOf reader.written (.obj fields)).1 _ _

/-- The request that is read of the relayed body. -/
theorem request_relayed {req : AnthropicMessagesRequest}
    (h : requestOfJson reader (.obj fields) = some req) :
    ∃ req', requestOfJson reader (.obj (relayedFields reader model fields)) = some req' ∧
      req'.model = model ∧ req'.maxTokens = req.maxTokens ∧ req'.system = req.system ∧
      req'.messages = req.messages ∧ req'.stream = req.stream ∧
      req'.tools.isSome = req.tools.isSome ∧ req'.toolChoice.isSome = req.toolChoice.isSome := by
  obtain ⟨get, hget, hread⟩ := requestOfJson_some h
  have hkeys : keysOk false requestFields (fields.map Prod.fst) = true := by
    unfold structFields at hget
    dsimp only at hget
    split at hget
    · assumption
    · cases hget
  have hgetAgain : structFields false requestFields (.obj (relayedFields reader model fields)) =
      some (fieldOf (relayedFields reader model fields)) :=
    if_pos (keysOk_entriesJson sorted_relayed)
  have hgetEq : get = fieldOf fields := by
    rw [structFields, if_pos hkeys] at hget
    exact (Option.some.inj hget).symm
  subst hgetEq
  -- every field but the model is there again, written again
  have hfield : ∀ key ∈ requestFields, "model" ≠ key →
      fieldOf (relayedFields reader model fields) key =
        (fieldOf fields key).map (rewritten reader) := by
    intro key hkey hmodel
    rw [fieldOf_relayedFields (count_le_one_of_keysOk hkeys hkey), if_neg hmodel]
  have hmodel : fieldOf (relayedFields reader model fields) "model" = some (.str model) := by
    rw [fieldOf_relayedFields (count_le_one_of_keysOk hkeys (by decide)), if_pos rfl]
  obtain ⟨temperature, htemperature, -⟩ := readsToo_f32.option hread.temperature
  obtain ⟨topP, htopP, -⟩ := readsToo_f32.option hread.topP
  obtain ⟨tools, htools, htoolsSome⟩ := (readsToo_value 1).option hread.tools
  obtain ⟨toolChoice, htoolChoice, htoolChoiceSome⟩ := (readsToo_value 1).option hread.toolChoice
  refine ⟨⟨model, req.maxTokens, req.system, req.messages, temperature, topP, req.stopSequences,
    req.stream, tools, toolChoice⟩, requestOfJson_of_readFrom hgetAgain ?_, rfl, rfl, rfl, rfl, rfl,
    htoolsSome, htoolChoiceSome⟩
  constructor
  · rw [hmodel]
    rfl
  · rw [hfield "max_tokens" (by decide) (by decide)]
    exact (readsAgain_unsigned (by decide)).option hread.maxTokens
  · rw [hfield "system" (by decide) (by decide)]
    exact (readsAgain_system.whole 1).option hread.system
  · rw [hfield "messages" (by decide) (by decide)]
    exact readsAgain_inboundMessages.bind hread.messages
  · rw [hfield "temperature" (by decide) (by decide)]
    exact htemperature
  · rw [hfield "top_p" (by decide) (by decide)]
    exact htopP
  · rw [hfield "stop_sequences" (by decide) (by decide)]
    exact readsAgain_strings.option hread.stopSequences
  · rw [hfield "stream" (by decide) (by decide)]
    exact boolField_again hread.stream
  · rw [hfield "tools" (by decide) (by decide)]
    exact htools
  · rw [hfield "tool_choice" (by decide) (by decide)]
    exact htoolChoice

/-- The other members do not depend on the model. -/
theorem getMember_withModel {d : Doc String} {key : String} (h : "model" ≠ key) :
    getMember key (withModel model d) = getMember key d := by
  cases d with
  | obj entries =>
    show entryOf key (insertEntry "model" (.str model) entries) = entryOf key entries
    rw [entryOf_insertEntry, if_neg h]
  | null => rfl
  | bool b => rfl
  | num n => rfl
  | str s => rfl
  | arr values => rfl

/-- What the endpoint reads of a body, it reads of the relayed one. -/
theorem readAlike_relayed :
    ReadAlike reader model (.obj fields) (.obj (relayedFields reader model fields)) where
  request _ h := request_relayed h
  members key hkey := by
    have hmodel : "model" ≠ key := by
      intro heq
      subst heq
      exact absurd hkey (by decide)
    rw [← relayed_obj, docOf_relayed, getMember_withModel hmodel]
    rfl

/-- The gateway estimates of the relayed body what it has quoted. -/
theorem ReadAlike.estimate_eq {body relayed : JsonValue}
    (h : ReadAlike reader model body relayed) :
    estimateNativeAnthropicInputTokens (docOf id relayed) =
      estimateNativeAnthropicInputTokens (docOf reader.written body) := by
  unfold estimateNativeAnthropicInputTokens
  rw [h.members "system" (by decide), h.members "messages" (by decide),
    h.members "tools" (by decide)]

/-- The relay changes only the model exactly when `serde_json` reads the whole body and writes every
number that counts back with its value. -/
theorem relaysBody_iff (reader : NumberReader) (model : String)
    (fields : List (String × JsonValue)) :
    RelaysBody reader model (.obj fields) ↔ NumbersKept reader fields := by
  constructor
  · rintro ⟨relayed, hrelayed, hdoc, -⟩
    rw [rewriteRelayedModel_obj] at hrelayed
    split at hrelayed
    · rename_i hread
      cases hrelayed
      rw [docOf_relayed] at hdoc
      exact ⟨hread, withModel_eq_iff.mp hdoc⟩
    · cases hrelayed
  · rintro ⟨hread, hkept⟩
    have hrelayed : rewriteRelayedModel reader (.obj fields) model =
        .ok (withModel model (docOf reader.written (.obj fields))).toJson := by
      rw [rewriteRelayedModel_obj, if_pos hread]
    refine ⟨_, hrelayed, ?_, readAlike_relayed⟩
    rw [docOf_relayed]
    exact withModel_eq_iff.mpr hkept

end Relayed

/-- A reader that knows one long number: the `f64` next to it is written with an exponent. -/
def longNumberReader : NumberReader where
  float token :=
    if token = "12345678901234567890123" ∨ token = "1.2345678901234568e22" then
      some "1.2345678901234568e22"
    else none
  f32 _ := ⟨0⟩
  float_again := by
    intro token text h
    have htext : text = "1.2345678901234568e22" := by
      split at h
      · exact (Option.some.inj h).symm
      · cases h
    subst htext
    rfl

/-- A request with a number of 23 digits. -/
def longNumberFields : List (String × JsonValue) :=
  [("model", .str "sonnet"),
    ("messages", .arr [.obj [("role", .str "user"), ("content", .str "Hi")]]),
    ("metadata", .obj [("n", .num "12345678901234567890123")])]

/-- The number is sent to the provider as another one. -/
theorem long_number_rounded :
    ¬ RelaysBody longNumberReader "claude-sonnet-4-6" (.obj longNumberFields) := by
  rintro ⟨relayed, hrelayed, hdoc, -⟩
  have hread : readsWhole longNumberReader 0 (.obj longNumberFields) = true := by decide +kernel
  rw [rewriteRelayedModel_obj, if_pos hread] at hrelayed
  rw [← Except.ok.inj hrelayed, docOf_relayed] at hdoc
  have hkept := withModel_eq_iff.mp hdoc "12345678901234567890123" (by decide +kernel)
  exact absurd hkept (by decide +kernel)

end Solvela.Messages

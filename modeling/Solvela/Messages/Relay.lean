import Mathlib.Data.Rat.Lemmas
import Solvela.Channel.TrackerTheorems
import Solvela.Messages.Inbound
import Solvela.Protocol.JsonDoc

/-!
# The body that is relayed

`rewrite_relayed_model` reads the body of a native request into a `serde_json::Value`, sets its
model and writes it again. A `Value` keeps the last member of a key, and every number as an integer
of 64 bits or as an `f64`. So the provider is sent the same document, with another model, as long as
every number of it is kept; and a body whose nesting or numbers `serde_json` does not read is not
relayed at all.

Bodies are given by their JSON values, which are written as `jsonText` says.
-/

namespace Solvela.Messages

open Solvela.ChannelLedger (textBytes u64Max)
open Solvela.Client (isDigits digitsValue)
open Solvela.Lib.SortedMap (insertEntry entryOf mapValues Sorted)
open Solvela.Protocol
open Solvela.Signer (JsonValue fieldOf jsonText structFields stringField unsignedField)

/-! ## What a text denotes -/

/-- The exponent of a number token. -/
def exponentValue : List Char → ℤ
  | '-' :: digits => -(digitsValue digits : ℤ)
  | '+' :: digits => digitsValue digits
  | digits => digitsValue digits

/-- The value of a number token without its sign: digits, a fraction and an exponent. -/
def unsignedValue (token : List Char) : ℚ :=
  let mantissa := token.takeWhile fun c => c ≠ 'e' && c ≠ 'E'
  let exponent := (token.drop mantissa.length).drop 1
  let whole := mantissa.takeWhile (· ≠ '.')
  let fraction := (mantissa.drop whole.length).drop 1
  (digitsValue (whole ++ fraction) : ℚ) * 10 ^ (exponentValue exponent - fraction.length)

/-- The exact value of a number token. -/
def tokenValue (token : String) : ℚ :=
  match token.toList with
  | '-' :: rest => -unsignedValue rest
  | rest => unsignedValue rest

/-- The same document with another model. -/
def withModel {N : Type} (model : String) : Doc N → Doc N
  | .obj entries => .obj (insertEntry "model" (.str model) entries)
  | d => d

/-! ## The rewriting -/

/-- The number that a token is written back as. -/
def NumberReader.written (reader : NumberReader) (token : String) : String :=
  (reader.text token).getD token

/-- `serde_json::from_slice::<Value>`. -/
def valueOfBody (reader : NumberReader) (body : JsonValue) : Option (Doc String) :=
  if readsWhole reader 0 body then some (docOf reader.written body) else none

/-- `serde_json::Error`, as `rewrite_relayed_model` returns it. -/
inductive RewriteError
  | unreadable
  | notAnObject
deriving DecidableEq

/-- `rewrite_relayed_model`. -/
def rewriteRelayedModel (reader : NumberReader) (body : JsonValue) (upstreamModelId : String) :
    Except RewriteError JsonValue :=
  match valueOfBody reader body with
  | none => .error .unreadable
  | some (.obj entries) =>
    .ok (Doc.obj (insertEntry "model" (.str upstreamModelId) entries)).toJson
  | some _ => .error .notAnObject

/-! ## The estimate -/

mutual

/-- `sum_string_bytes`. -/
def sumStringBytes : Doc String → ℕ
  | .str s => (textBytes s).length
  | .arr values => elementsBytes values
  | .obj entries => entriesBytes entries
  | _ => 0

def elementsBytes : List (Doc String) → ℕ
  | [] => 0
  | d :: values => sumStringBytes d + elementsBytes values

def entriesBytes : List (String × Doc String) → ℕ
  | [] => 0
  | (_, d) :: entries => sumStringBytes d + entriesBytes entries

end

/-- `Value::get`. -/
def getMember (key : String) : Doc String → Option (Doc String)
  | .obj entries => entryOf key entries
  | _ => none

/-- `CHARS_PER_TOKEN`. -/
def charsPerToken : ℕ := 4

/-- What the tools count for: the length of the text that they are written as. -/
def toolChars (tools : Doc String) : ℕ :=
  let chars := (textBytes (jsonText tools.toJson)).length
  if chars > 0 then chars else sumStringBytes tools

/-- `estimate_native_anthropic_input_tokens`, of a value. -/
def estimateNativeAnthropicInputTokens (value : Doc String) : ℕ :=
  let chars := (getMember "system" value).elim 0 sumStringBytes +
    (getMember "messages" value).elim 0 sumStringBytes +
    (getMember "tools" value).elim 0 toolChars
  max 1 (min (2 ^ 32 - 1) (chars / charsPerToken))

/-! ## When the document is kept -/

/-- The numbers that a body denotes outside of its model: of several members with one key, those of
the last one. -/
def keptNumbers (fields : List (String × JsonValue)) : List String :=
  Doc.entriesNumbers ((entriesInto id [] fields).filter fun e => e.1 ≠ "model")

/-- Every number that the body denotes is written back with its value, and the body is read at
all. -/
structure NumbersKept (reader : NumberReader) (fields : List (String × JsonValue)) : Prop where
  read : readsWhole reader 0 (.obj fields) = true
  kept : ∀ token ∈ keptNumbers fields, tokenValue (reader.written token) = tokenValue token

section Denotation

variable {reader : NumberReader} {fields : List (String × JsonValue)} {model : String}

/-- What the rewriting returns, for an object. -/
theorem rewriteRelayedModel_obj :
    rewriteRelayedModel reader (.obj fields) model =
      if readsWhole reader 0 (.obj fields) then
        .ok (withModel model (docOf reader.written (.obj fields))).toJson
      else .error .unreadable := by
  unfold rewriteRelayedModel valueOfBody
  by_cases hread : readsWhole reader 0 (.obj fields) = true
  · rw [if_pos hread, if_pos hread]
    rfl
  · rw [if_neg hread, if_neg hread]

/-- A canonical body stays canonical with another model. -/
theorem canonical_withModel {N : Type} {d : Doc N} (h : d.Canonical) :
    (withModel model d).Canonical := by
  cases d with
  | obj entries =>
    refine ⟨h.1.insertEntry _ _, ?_⟩
    rw [Doc.entriesCanonical_iff]
    intro e he
    rcases Lib.SortedMap.mem_insertEntry he with rfl | he
    · trivial
    · exact Doc.entriesCanonical_iff.mp h.2 e he
  | null => trivial
  | bool b => trivial
  | num n => trivial
  | str s => trivial
  | arr values => exact h

/-- The model is exchanged whatever is done to the numbers. -/
theorem map_withModel {N M : Type} (f : N → M) (d : Doc N) :
    (withModel model d).map f = withModel model (d.map f) := by
  cases d with
  | obj entries =>
    show Doc.obj (Doc.entriesMap f _) = Doc.obj (insertEntry _ _ (Doc.entriesMap f entries))
    rw [Doc.entriesMap_eq, Doc.entriesMap_eq, Lib.SortedMap.mapValues_insertEntry]
    rfl
  | null => rfl
  | bool b => rfl
  | num n => rfl
  | str s => rfl
  | arr values => rfl

/-- What the relayed body denotes: the numbers are those that were written. -/
theorem docOf_relayed {N : Type} (number : String → N) (body : JsonValue) :
    docOf number (withModel model (docOf reader.written body)).toJson =
      withModel model (docOf (fun token => number (reader.written token)) body) := by
  rw [docOf_toJson number _ (canonical_withModel (canonical_docOf _ body)), map_withModel,
    map_docOf]

/-- The relayed body denotes the same document exactly when every number that counts is kept. -/
theorem withModel_eq_iff :
    withModel model (docOf (fun token => tokenValue (reader.written token)) (.obj fields)) =
        withModel model (docOf tokenValue (.obj fields)) ↔
      ∀ token ∈ keptNumbers fields, tokenValue (reader.written token) = tokenValue token := by
  have hread : ∀ number : String → ℚ, docOf number (.obj fields) =
      .obj (mapValues (Doc.map number) (entriesInto id [] fields)) := by
    intro number
    rw [← Doc.entriesMap_eq]
    exact (map_docOf id number (.obj fields)).symm
  have hsorted : Sorted (entriesInto id [] fields) := (canonical_docOf id (.obj fields)).1
  rw [hread, hread]
  show Doc.obj (insertEntry _ _ _) = Doc.obj (insertEntry _ _ _) ↔ _
  rw [Doc.obj.injEq, Lib.SortedMap.insertEntry_mapValues_inj hsorted]
  constructor
  · intro h token htoken
    obtain ⟨e, he, hnumber⟩ := Doc.mem_entriesNumbers.mp htoken
    obtain ⟨he, hkey⟩ := List.mem_filter.mp he
    exact (Doc.map_inj_iff e.2).mp (h e he (of_decide_eq_true hkey)) token hnumber
  · intro h e he hkey
    apply (Doc.map_inj_iff e.2).mpr
    intro token hnumber
    have hfilter : e ∈ (entriesInto id [] fields).filter fun e => e.1 ≠ "model" :=
      List.mem_filter.mpr ⟨he, decide_eq_true hkey⟩
    exact h token (Doc.mem_entriesNumbers.mpr ⟨e, hfilter, hnumber⟩)

end Denotation

end Solvela.Messages
